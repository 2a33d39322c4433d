import Mathlib.Algebra.Order.Ring.Nat
import Mathlib.Data.List.Sort
import UhpSql.Transition

/-!
# The connection registry (`network/task_manager.cc`)

Any thread hands a new socket to `AddTask`. One thread runs `DoMsgParse` over and over : a pass
takes the new sockets out under the lock if it gets it, enters each in the map `tcpSockets_`, and
then walks the map, which drops the sockets that became invalid. A run here is any order of
`AddTask` calls, failures of sockets and steps of passes.

`registered_iff_fits` : nobody is lost exactly in the runs in which no socket is entered while
another one with the same key is in the map, and no pass begins with so many new sockets that their
counter is not positive. Keys are ids narrowed to `int`, so that ids which differ by `2 ^ 32` have
the same key (`taskKey_eq_iff`).
-/

namespace UhpSql

/-- `Socket::Socket` : the id of a new socket, from that of the one before it. -/
def Socket.nextId (sid : UInt64) : UInt64 :=
  if sid + 1 = 0 then 1 else sid + 1

/-- The key of a socket in `tcpSockets_` : its `GetID()`, a `size_t`, as an `int`. -/
def taskKey (task : UInt64) : Int32 :=
  task.toUInt32.toInt32

/-- Narrow keys are ids modulo `2 ^ 32`. -/
theorem taskKey_eq_iff (task other : UInt64) :
    taskKey task = taskKey other ↔ task.toNat % 2 ^ 32 = other.toNat % 2 ^ 32 := by
  rw [taskKey, taskKey, ← UInt64.toNat_toUInt32, ← UInt64.toNat_toUInt32, UInt32.toNat_inj]
  refine ⟨fun h => ?_, congrArg _⟩
  rw [← UInt32.toUInt32_toInt32 task.toUInt32, h, UInt32.toUInt32_toInt32]

/-- The counter of the ids goes up by one with each socket, as long as it does not wrap around. -/
theorem toNat_iterate_nextId (sid : UInt64) (n : ℕ) (h : sid.toNat + n < 2 ^ 64) :
    (Socket.nextId^[n] sid).toNat = sid.toNat + n := by
  induction n with
  | zero => rfl
  | succ n ih =>
    have hsid := ih (by omega)
    have hsucc : (Socket.nextId^[n] sid + 1).toNat = sid.toNat + (n + 1) := by
      rw [UInt64.toNat_add, hsid]
      exact Nat.mod_eq_of_lt h
    rw [Function.iterate_succ_apply', Socket.nextId, if_neg, hsucc]
    intro hzero
    rw [hzero, UInt64.toNat_zero] at hsucc
    omega

/-- The fields of a `TaskManager`. A socket is its id. `tcpSockets` lists the map in the order of
its keys. -/
structure TaskManager where
  tcpSockets : List UInt64
  newTasks : List UInt64
  newCnt : Int32

namespace TaskManager

def new : TaskManager where
  tcpSockets := []
  newTasks := []
  newCnt := 0

section
variable (m : TaskManager)

/-- `AddTask`. -/
def addTask (task : UInt64) : TaskManager :=
  { m with newTasks := m.newTasks ++ [task], newCnt := m.newCnt + 1 }

/-- The map has an entry under the key of the socket. -/
def Taken (task : UInt64) : Prop :=
  ∃ other ∈ m.tcpSockets, taskKey other = taskKey task

instance (task : UInt64) : Decidable (m.Taken task) :=
  inferInstanceAs (Decidable (∃ other ∈ m.tcpSockets, _))

/-- `_AddTask` : `insert` leaves an entry that is there as it is. -/
def insertTask (task : UInt64) : TaskManager × Bool :=
  if m.Taken task then (m, false)
  else
    ({ m with tcpSockets := m.tcpSockets.orderedInsert (taskKey · ≤ taskKey ·) task }, true)

/-- `_RemoveTask`. -/
def removeTask (task : UInt64) : TaskManager :=
  { m with tcpSockets := m.tcpSockets.erase task }

/-- The new sockets are swapped out. -/
def swapNewTasks : TaskManager × List UInt64 :=
  ({ m with newTasks := [], newCnt := 0 }, m.newTasks)

end

end TaskManager

/-! ## Passes -/

/-- Where the thread that runs `DoMsgParse` is. -/
inductive Pass
  | idle
  /-- Between `newCnt_ > 0` and `try_lock`. -/
  | locking
  /-- At the loop over `tmpNewTask`, with the sockets it has not come to. -/
  | entering (tmpNewTask : List UInt64)
  /-- At the loop over `tcpSockets_`, with the sockets from the iterator on. -/
  | walking (rest : List UInt64)

/-- The sockets that were swapped out and not come to yet. -/
def Pass.tmpNewTask : Pass → List UInt64
  | .entering tmpNewTask => tmpNewTask
  | _ => []

/-- No new socket is left to come to. -/
def Pass.Entered : Pass → Prop
  | .locking | .entering _ => False
  | .idle | .walking _ => True

/-- The calls that a socket gets. -/
inductive SocketCall
  | onConnect (task : UInt64)
  | doMsgParse (task : UInt64)
  | onDisconnect (task : UInt64)
  deriving DecidableEq

/-- The registry in a run : the manager, the pass, the sockets that are invalid, those given to
`AddTask` so far, and the calls that sockets got. `due` and `stale` are the sockets that were new
and those that were invalid when the pass began ; `due` is emptied by a `try_lock` that fails. -/
structure Registry where
  manager : TaskManager
  pass : Pass
  invalid : List UInt64
  added : List UInt64
  calls : List SocketCall
  due : List UInt64
  stale : List UInt64

namespace Registry

def new : Registry where
  manager := TaskManager.new
  pass := .idle
  invalid := []
  added := []
  calls := []
  due := []
  stale := []

section
variable (s : Registry)

/-- The sockets that no pass has come to yet. -/
def pending : List UInt64 :=
  s.manager.newTasks ++ s.pass.tmpNewTask

/-- A pass begins. -/
def begin : Registry :=
  { s with
    pass := if 0 < s.manager.newCnt then .locking else .walking s.manager.tcpSockets
    due := s.manager.newTasks
    stale := s.invalid }

/-- `try_lock`, and what is done under the lock. -/
def tryLock (locked : Bool) : Registry :=
  if locked then
    { s with manager := s.manager.swapNewTasks.1, pass := .entering s.manager.swapNewTasks.2 }
  else { s with pass := .walking s.manager.tcpSockets, due := [] }

/-- The loop over `tmpNewTask` comes to a socket. -/
def enter (task : UInt64) (rest : List UInt64) : Registry :=
  if (s.manager.insertTask task).2 then
    { s with
      manager := (s.manager.insertTask task).1
      pass := .entering rest
      calls := s.calls ++ [.onConnect task] }
  else { s with pass := .entering rest }

/-- The loop over `tcpSockets_` comes to a socket. -/
def visit (task : UInt64) (rest : List UInt64) : Registry :=
  if task ∈ s.invalid then
    { s with
      manager := s.manager.removeTask task
      pass := .walking rest
      calls := s.calls ++ [.onDisconnect task] }
  else { s with pass := .walking rest, calls := s.calls ++ [.doMsgParse task] }

/-- The next step of `DoMsgParse`. -/
def doMsgParse (locked : Bool) : Registry :=
  match s.pass with
  | .idle => s.begin
  | .locking => s.tryLock locked
  | .entering [] => { s with pass := .walking s.manager.tcpSockets }
  | .entering (task :: rest) => s.enter task rest
  | .walking [] => { s with pass := .idle }
  | .walking (task :: rest) => s.visit task rest

end

/-- What happens in a run : `AddTask` gets a new socket, a socket fails, or the pass takes a step,
which may be a `try_lock`. -/
inductive Action
  | addTask (task : UInt64)
  | onError (task : UInt64)
  | doMsgParse (locked : Bool)

def step (s : Registry) : Action → Option Registry
  | .addTask task =>
    if task ∈ s.added then none
    else some { s with manager := s.manager.addTask task, added := task :: s.added }
  | .onError task => some { s with invalid := task :: s.invalid }
  | .doMsgParse locked => some (s.doMsgParse locked)

/-! ## What every run keeps -/

/-- Nobody is lost : every socket that was added is still to come to or got `OnConnect` once, gets
`DoMsgParse` only after that, is in the map from then until it gets `OnDisconnect`, which it gets
once and only if it is invalid. What was new when a pass began is collected in that pass unless
`try_lock` failed, and what was invalid then is not in the map when the pass is over. -/
structure Registered (s : Registry) : Prop where
  connected : ∀ task ∈ s.added,
    s.calls.count (.onConnect task) = if task ∈ s.pending then 0 else 1
  connected_first : ∀ pre task post, s.calls = pre ++ .doMsgParse task :: post →
    .onConnect task ∈ pre
  entered : ∀ task, task ∈ s.manager.tcpSockets ↔
    .onConnect task ∈ s.calls ∧ .onDisconnect task ∉ s.calls
  disconnected : ∀ task, .onDisconnect task ∈ s.calls →
    task ∈ s.invalid ∧ s.calls.count (.onDisconnect task) = 1
  collected : s.pass.Entered → ∀ task ∈ s.due, task ∉ s.pending
  removed : s.pass = .idle → ∀ task ∈ s.stale, task ∉ s.manager.tcpSockets

/-- The action loses nobody : a pass that begins with new sockets sees that there are some, and the
key of a socket that is entered is free. -/
def Fits (s : Registry) : Action → Prop
  | .addTask _ | .onError _ => True
  | .doMsgParse _ =>
    match s.pass with
    | .idle => s.manager.newTasks = [] ∨ 0 < s.manager.newCnt
    | .entering (task :: _) => ¬s.manager.Taken task
    | _ => True

/-- What a pass relies on where it is. -/
def PassInv (s : Registry) : Prop :=
  match s.pass with
  | .idle => ∀ task ∈ s.stale, task ∉ s.manager.tcpSockets
  | .locking => True
  | .entering _ => ∀ task ∈ s.due, task ∉ s.manager.newTasks
  | .walking rest => rest.Sublist s.manager.tcpSockets ∧
    ∀ task ∈ s.stale, task ∈ s.manager.tcpSockets → task ∈ rest

/-- What every run keeps, refused sockets or not. -/
structure Inv (s : Registry) : Prop where
  newCnt : s.manager.newCnt = Int32.ofNat s.manager.newTasks.length
  nodup : s.added.Nodup
  counted : ∀ task, s.pending.count task + s.calls.count (.onConnect task) ≤ s.added.count task
  held : ∀ task, s.calls.count (.onConnect task) =
    s.manager.tcpSockets.count task + s.calls.count (.onDisconnect task)
  connected_first : ∀ pre task post, s.calls = pre ++ .doMsgParse task :: post →
    .onConnect task ∈ pre
  disconnected : ∀ task, .onDisconnect task ∈ s.calls → task ∈ s.invalid
  due : ∀ task ∈ s.due, task ∈ s.added
  stale : ∀ task ∈ s.stale, task ∈ s.invalid
  pass : s.PassInv

/-- Nobody was refused. -/
def Conserved (s : Registry) : Prop :=
  ∀ task, s.pending.count task + s.calls.count (.onConnect task) = s.added.count task

/-- What was new when the pass began is collected. -/
def Collected (s : Registry) : Prop :=
  s.pass.Entered → ∀ task ∈ s.due, task ∉ s.pending

variable {s : Registry}

theorem inv_new : Inv new where
  newCnt := rfl
  nodup := List.nodup_nil
  counted _ := Nat.le_refl 0
  held _ := rfl
  connected_first pre _ _ h := absurd h.symm (by simp [new])
  disconnected _ h := absurd h List.not_mem_nil
  due _ h := absurd h List.not_mem_nil
  stale _ h := absurd h List.not_mem_nil
  pass _ h := absurd h List.not_mem_nil

namespace Inv

variable (hs : Inv s)
include hs

theorem count_added_le (task : UInt64) : s.added.count task ≤ 1 :=
  List.nodup_iff_count_le_one.1 hs.nodup task

theorem count_tcpSockets_le (task : UInt64) : s.manager.tcpSockets.count task ≤ 1 := by
  have hcounted := hs.counted task
  have hheld := hs.held task
  have hadded := hs.count_added_le task
  omega

/-- What is asked of a registry comes down to nobody having been refused, and to the new sockets of
a pass being collected. -/
theorem registered_iff : Registered s ↔ s.Conserved ∧ s.Collected := by
  constructor
  · refine fun h => ⟨fun task => ?_, h.collected⟩
    by_cases hadded : task ∈ s.added
    · have hcounted := hs.counted task
      have hle := hs.count_added_le task
      have hone := List.count_pos_iff.2 hadded
      have hconnected := h.connected task hadded
      split_ifs at hconnected with hpending
      · have hpos := List.count_pos_iff.2 hpending
        omega
      · omega
    · have hcounted := hs.counted task
      rw [List.count_eq_zero_of_not_mem hadded] at hcounted ⊢
      omega
  · rintro ⟨hconserved, hcollected⟩
    refine ⟨fun task hadded => ?_, hs.connected_first, fun task => ?_, fun task h => ?_,
      hcollected, fun hidle task h => ?_⟩
    · have hone := List.count_pos_iff.2 hadded
      have hle := hs.count_added_le task
      have hcount := hconserved task
      split_ifs with hpending
      · have hpos := List.count_pos_iff.2 hpending
        omega
      · rw [List.count_eq_zero_of_not_mem hpending] at hcount
        omega
    · have hheld := hs.held task
      have hle := hs.counted task
      have hone := hs.count_added_le task
      rw [← List.count_pos_iff, ← List.count_pos_iff, ← List.count_eq_zero]
      omega
    · have hheld := hs.held task
      have hle := hs.counted task
      have hone := hs.count_added_le task
      have hpos := List.count_pos_iff.2 h
      exact ⟨hs.disconnected task h, by omega⟩
    · have hpass := hs.pass
      rw [PassInv, hidle] at hpass
      exact hpass task h

end Inv

/-! ## What a step keeps -/

/-- A call after the others is the last one, or the call asked for is among the others. -/
theorem connected_first_append {calls : List SocketCall} {call : SocketCall}
    (hcalls : ∀ pre task post, calls = pre ++ .doMsgParse task :: post → .onConnect task ∈ pre)
    (hcall : ∀ task, call = .doMsgParse task → .onConnect task ∈ calls) :
    ∀ pre task post, calls ++ [call] = pre ++ .doMsgParse task :: post → .onConnect task ∈ pre := by
  intro pre task post h
  rcases List.eq_nil_or_concat post with rfl | ⟨post, last, rfl⟩
  · obtain ⟨rfl, hlast⟩ := List.append_inj' h rfl
    exact hcall task (List.singleton_inj.1 hlast)
  · have h' : calls ++ [call] = (pre ++ .doMsgParse task :: post) ++ [last] := by simpa using h
    exact hcalls pre task post (List.append_inj' h' rfl).1

theorem count_append_call (calls : List SocketCall) (call other : SocketCall) :
    (calls ++ [call]).count other = calls.count other + if call = other then 1 else 0 := by
  simp only [List.count_append, List.count_singleton, beq_iff_eq]

theorem inv_addTask {task : UInt64} (hs : Inv s) (hnew : task ∉ s.added) :
    Inv { s with manager := s.manager.addTask task, added := task :: s.added } where
  newCnt := by
    rw [TaskManager.addTask]
    simp only [hs.newCnt, List.length_append, List.length_singleton, Int32.ofNat_add]
    rfl
  nodup := List.nodup_cons.2 ⟨hnew, hs.nodup⟩
  counted other := by
    have hcounted := hs.counted other
    simp only [pending, TaskManager.addTask, List.count_append, List.count_cons] at hcounted ⊢
    simp only [List.count_nil]
    omega
  held := hs.held
  connected_first := hs.connected_first
  disconnected := hs.disconnected
  due other h := List.mem_cons_of_mem _ (hs.due other h)
  stale := hs.stale
  pass := by
    have hpass := hs.pass
    rw [PassInv] at hpass ⊢
    cases hp : s.pass with
    | entering rest =>
      rw [hp] at hpass
      intro other h hmem
      rcases List.mem_append.1 hmem with hmem | hmem
      · exact hpass other h hmem
      · exact hnew (List.mem_singleton.1 hmem ▸ hs.due other h)
    | idle => rwa [hp] at hpass
    | locking => trivial
    | walking rest => rwa [hp] at hpass

theorem inv_onError (hs : Inv s) (task : UInt64) : Inv { s with invalid := task :: s.invalid } :=
  { hs with
    disconnected := fun other h => List.mem_cons_of_mem _ (hs.disconnected other h)
    stale := fun other h => List.mem_cons_of_mem _ (hs.stale other h) }

/-- A walk begins. -/
theorem passInv_walking (s : Registry) (h : s.pass = .walking s.manager.tcpSockets) :
    s.PassInv := by
  rw [PassInv, h]
  exact ⟨List.Sublist.refl _, fun _ _ hmem => hmem⟩

theorem pending_begin (hidle : s.pass = .idle) : s.begin.pending = s.pending := by
  rw [pending, pending, Registry.begin, hidle]
  simp only
  split_ifs <;> rfl

theorem inv_begin (hs : Inv s) (hidle : s.pass = .idle) : Inv s.begin :=
  { hs with
    counted := by rw [pending_begin hidle]; exact hs.counted
    due := fun task h => by
      have hcounted := hs.counted task
      have hpos := List.count_pos_iff.2 (List.mem_append_left s.pass.tmpNewTask h)
      rw [← List.count_pos_iff]
      exact hpos.trans_le ((Nat.le_add_right _ _).trans hcounted)
    stale := fun _ h => h
    pass := by
      by_cases hcnt : 0 < s.manager.newCnt
      · rw [PassInv, Registry.begin, if_pos hcnt]
        trivial
      · exact passInv_walking s.begin (if_neg hcnt) }

/-- A pass collects what is new exactly when it sees it. -/
theorem collected_begin_iff (hidle : s.pass = .idle) :
    s.begin.Collected ↔ s.manager.newTasks = [] ∨ 0 < s.manager.newCnt := by
  rw [Collected, pending_begin hidle, pending, hidle, Registry.begin]
  by_cases hcnt : 0 < s.manager.newCnt
  · exact iff_of_true (fun h => absurd h (by rw [if_pos hcnt]; exact id)) (Or.inr hcnt)
  · rw [if_neg hcnt, or_iff_left hcnt, List.eq_nil_iff_forall_not_mem]
    refine ⟨fun h task hmem => ?_, fun h _ task hmem => absurd hmem (h task)⟩
    exact h trivial task hmem (List.mem_append_left _ hmem)

theorem pending_tryLock (hlocking : s.pass = .locking) (locked : Bool) :
    (s.tryLock locked).pending = s.pending := by
  rw [pending, pending, tryLock, hlocking]
  cases locked with
  | true => exact (List.append_nil _).symm
  | false => rfl

theorem inv_tryLock (hs : Inv s) (hlocking : s.pass = .locking) (locked : Bool) :
    Inv (s.tryLock locked) := by
  have hcounted := hs.counted
  rw [← pending_tryLock hlocking locked] at hcounted
  cases locked with
  | true =>
    exact { hs with newCnt := rfl, counted := hcounted, pass := fun _ _ => List.not_mem_nil }
  | false =>
    exact { hs with
      counted := hcounted
      due := fun _ h => absurd h List.not_mem_nil
      pass := passInv_walking (s.tryLock false) rfl }

theorem collected_tryLock (s : Registry) (locked : Bool) : (s.tryLock locked).Collected := by
  cases locked with
  | true => exact fun h => absurd h id
  | false => exact fun _ _ h => absurd h List.not_mem_nil

section
variable {task : UInt64} {rest : List UInt64}

theorem count_pending_of_entering (hentering : s.pass = .entering (task :: rest)) (other : UInt64) :
    s.pending.count other =
      (s.manager.newTasks ++ rest).count other + if task = other then 1 else 0 := by
  rw [pending, hentering, Pass.tmpNewTask, List.count_append, List.count_append, List.count_cons]
  simp only [beq_iff_eq, Nat.add_assoc]

theorem enter_of_taken (h : s.manager.Taken task) :
    s.enter task rest = { s with pass := .entering rest } := by
  rw [enter, TaskManager.insertTask, if_pos h]
  rfl

theorem enter_of_not_taken (h : ¬s.manager.Taken task) :
    s.enter task rest =
      { s with
        manager :=
          { s.manager with
            tcpSockets := s.manager.tcpSockets.orderedInsert (taskKey · ≤ taskKey ·) task }
        pass := .entering rest
        calls := s.calls ++ [.onConnect task] } := by
  rw [enter, TaskManager.insertTask, if_neg h]
  rfl

theorem inv_enter (hs : Inv s) (hentering : s.pass = .entering (task :: rest)) :
    Inv (s.enter task rest) := by
  have hpass := hs.pass
  rw [PassInv, hentering] at hpass
  have hpending := count_pending_of_entering hentering
  by_cases htaken : s.manager.Taken task
  · rw [enter_of_taken htaken]
    refine { hs with counted := fun other => ?_, pass := hpass }
    have hcounted := hs.counted other
    rw [hpending] at hcounted
    simp only [pending, Pass.tmpNewTask]
    omega
  · rw [enter_of_not_taken htaken]
    refine { hs with
      counted := fun other => ?_
      held := fun other => ?_
      connected_first := ?_
      disconnected := fun other h => ?_
      pass := hpass }
    · have hcounted := hs.counted other
      rw [hpending] at hcounted
      simp only [count_append_call, SocketCall.onConnect.injEq, pending, Pass.tmpNewTask]
      omega
    · have hheld := hs.held other
      simp only [count_append_call, SocketCall.onConnect.injEq, reduceCtorEq, if_false,
        List.orderedInsert_count]
      omega
    · exact connected_first_append hs.connected_first fun _ h => SocketCall.noConfusion h
    · rcases List.mem_append.1 h with h | h
      · exact hs.disconnected other h
      · exact SocketCall.noConfusion (List.mem_singleton.1 h)

/-- A socket is lost exactly when its key is taken. -/
theorem conserved_enter_iff (hconserved : s.Conserved)
    (hentering : s.pass = .entering (task :: rest)) :
    (s.enter task rest).Conserved ↔ ¬s.manager.Taken task := by
  have hpending := count_pending_of_entering hentering
  by_cases htaken : s.manager.Taken task
  · refine iff_of_false (fun h => ?_) (not_not_intro htaken)
    have hcount := h task
    have hcount' := hconserved task
    rw [enter_of_taken htaken] at hcount
    rw [hpending, if_pos rfl] at hcount'
    simp only [pending, Pass.tmpNewTask] at hcount
    omega
  · refine iff_of_true (fun other => ?_) htaken
    have hcount := hconserved other
    rw [hpending] at hcount
    rw [enter_of_not_taken htaken]
    simp only [count_append_call, SocketCall.onConnect.injEq, pending, Pass.tmpNewTask]
    omega

theorem pass_enter (s : Registry) (task : UInt64) (rest : List UInt64) :
    (s.enter task rest).pass = .entering rest := by
  rw [enter]
  split_ifs <;> rfl

theorem pending_visit (hwalking : s.pass = .walking (task :: rest)) :
    (s.visit task rest).pending = s.pending := by
  rw [pending, pending, hwalking, visit]
  split_ifs <;> rfl

theorem count_onConnect_visit (s : Registry) (task : UInt64) (rest : List UInt64) (other : UInt64) :
    (s.visit task rest).calls.count (.onConnect other) = s.calls.count (.onConnect other) := by
  rw [visit]
  split_ifs <;> simp only [count_append_call, reduceCtorEq, if_false, Nat.add_zero]

theorem inv_visit (hs : Inv s) (hwalking : s.pass = .walking (task :: rest)) :
    Inv (s.visit task rest) := by
  have hpass := hs.pass
  rw [PassInv, hwalking] at hpass
  obtain ⟨hsub, hstale⟩ := hpass
  have hmem : task ∈ s.manager.tcpSockets := hsub.subset List.mem_cons_self
  have hcounted := hs.counted
  simp only [← pending_visit hwalking, ← count_onConnect_visit s task rest] at hcounted
  rw [visit] at hcounted ⊢
  split_ifs at hcounted ⊢ with hinvalid
  · refine { hs with
      counted := hcounted
      held := fun other => ?_
      connected_first := ?_
      disconnected := fun other h => ?_
      pass := ⟨?_, fun other h hmem => ?_⟩ }
    · have hheld := hs.held other
      have hpos := List.count_pos_iff.2 hmem
      simp only [count_append_call, SocketCall.onDisconnect.injEq, reduceCtorEq, if_false,
        TaskManager.removeTask, List.count_erase, beq_iff_eq]
      split_ifs with heq
      · subst heq
        omega
      · omega
    · exact connected_first_append hs.connected_first fun _ h => SocketCall.noConfusion h
    · rcases List.mem_append.1 h with h | h
      · exact hs.disconnected other h
      · obtain rfl := SocketCall.onDisconnect.inj (List.mem_singleton.1 h)
        exact hinvalid
    · have hsub' := hsub.erase task
      rwa [List.erase_cons_head] at hsub'
    · have hle := hs.count_tcpSockets_le task
      rcases List.mem_cons.1 (hstale other h (List.mem_of_mem_erase hmem)) with rfl | h'
      · have hpos := List.count_pos_iff.2 hmem
        rw [TaskManager.removeTask, List.count_erase_self] at hpos
        omega
      · exact h'
  · refine { hs with
      counted := hcounted
      held := fun other => ?_
      connected_first := ?_
      disconnected := fun other h => ?_
      pass := ⟨(List.sublist_cons_self task rest).trans hsub, fun other h hmem => ?_⟩ }
    · have hheld := hs.held other
      simpa only [count_append_call, reduceCtorEq, if_false, Nat.add_zero] using hheld
    · refine connected_first_append hs.connected_first fun other h => ?_
      obtain rfl := SocketCall.doMsgParse.inj h
      rw [← List.count_pos_iff, hs.held]
      exact Nat.add_pos_left (List.count_pos_iff.2 hmem) _
    · rcases List.mem_append.1 h with h | h
      · exact hs.disconnected other h
      · exact SocketCall.noConfusion (List.mem_singleton.1 h)
    · rcases List.mem_cons.1 (hstale other h hmem) with rfl | h'
      · exact absurd (hs.stale other h) hinvalid
      · exact h'

end

/-- `Conserved` and `Collected` are about what is pending and who got `OnConnect`. -/
theorem Conserved.congr {t : Registry} (h : s.Conserved) (hpending : t.pending = s.pending)
    (hcalls : ∀ task, t.calls.count (.onConnect task) = s.calls.count (.onConnect task))
    (hadded : t.added = s.added) : t.Conserved := by
  intro task
  rw [hpending, hcalls, hadded]
  exact h task

/-- A socket that nobody holds and that got no `OnConnect` is lost. -/
theorem not_registered_of_lost {task : UInt64} (hadded : task ∈ s.added)
    (hpending : task ∉ s.pending) (hcalls : .onConnect task ∉ s.calls) : ¬Registered s := by
  intro h
  have hconnected := h.connected task hadded
  rw [if_neg hpending, List.count_eq_zero_of_not_mem hcalls] at hconnected
  exact absurd hconnected Nat.zero_ne_one

/-- What a step of a pass does to a registry that lost nobody. -/
theorem doMsgParse_spec (hs : Inv s) (hconserved : s.Conserved) (hcollected : s.Collected)
    (locked : Bool) :
    Inv (s.doMsgParse locked) ∧
      ((s.doMsgParse locked).Conserved ∧ (s.doMsgParse locked).Collected ↔
        s.Fits (.doMsgParse locked)) := by
  have hpass := hs.pass
  rw [PassInv] at hpass
  cases hp : s.pass with
  | idle =>
    simp only [doMsgParse, Fits, hp]
    refine ⟨inv_begin hs hp, ?_⟩
    rw [collected_begin_iff hp]
    exact and_iff_right (hconserved.congr (pending_begin hp) (fun _ => rfl) rfl)
  | locking =>
    simp only [doMsgParse, Fits, hp]
    refine ⟨inv_tryLock hs hp locked, iff_of_true ⟨?_, collected_tryLock s locked⟩ trivial⟩
    refine hconserved.congr (pending_tryLock hp locked) (fun _ => ?_) ?_
    · cases locked <;> rfl
    · cases locked <;> rfl
  | entering tmpNewTask =>
    rw [hp] at hpass
    cases tmpNewTask with
    | nil =>
      simp only [doMsgParse, Fits, hp]
      have hpending : ({ s with pass := .walking s.manager.tcpSockets } : Registry).pending =
          s.pending := by rw [pending, pending, hp]; rfl
      refine ⟨{ hs with counted := ?_, pass := passInv_walking _ rfl },
        iff_of_true ⟨hconserved.congr hpending (fun _ => rfl) rfl, fun _ task h hmem => ?_⟩ trivial⟩
      · rw [hpending]
        exact hs.counted
      · rw [hpending, pending, hp, Pass.tmpNewTask, List.append_nil] at hmem
        exact hpass task h hmem
    | cons task rest =>
      simp only [doMsgParse, Fits, hp]
      refine ⟨inv_enter hs hp, ?_⟩
      rw [conserved_enter_iff hconserved hp, Collected, pass_enter]
      exact and_iff_left fun h => absurd h id
  | walking rest =>
    rw [hp] at hpass
    cases rest with
    | nil =>
      simp only [doMsgParse, Fits, hp]
      have hpending : ({ s with pass := .idle } : Registry).pending = s.pending := by
        rw [pending, pending, hp]; rfl
      refine ⟨{ hs with counted := ?_, pass := fun task h hmem => ?_ },
        iff_of_true ⟨hconserved.congr hpending (fun _ => rfl) rfl, fun _ => ?_⟩ trivial⟩
      · rw [hpending]
        exact hs.counted
      · exact List.not_mem_nil (hpass.2 task h hmem)
      · rw [hpending]
        exact hcollected (by rw [hp]; trivial)
    | cons task rest =>
      simp only [doMsgParse, Fits, hp]
      refine ⟨inv_visit hs hp, iff_of_true ⟨?_, fun _ => ?_⟩ trivial⟩
      · refine hconserved.congr (pending_visit hp) (count_onConnect_visit s task rest) ?_
        rw [visit]
        split_ifs <;> rfl
      · have hdue : (s.visit task rest).due = s.due := by
          rw [visit]
          split_ifs <;> rfl
        rw [hdue, pending_visit hp]
        exact hcollected (by rw [hp]; trivial)

/-- A step of a run that lost nobody so far. -/
theorem step_spec {s' : Registry} {action : Action} (hs : Inv s)
    (hsafe : s.Conserved ∧ s.Collected) (hstep : step s action = some s') :
    Inv s' ∧ (s'.Conserved ∧ s'.Collected ↔ s.Fits action) := by
  obtain ⟨hconserved, hcollected⟩ := hsafe
  cases action with
  | addTask task =>
    rw [step] at hstep
    split_ifs at hstep with hadded
    obtain rfl := Option.some.inj hstep
    refine ⟨inv_addTask hs hadded,
      iff_of_true ⟨fun other => ?_, fun h other hdue hmem => ?_⟩ trivial⟩
    · have hcount := hconserved other
      simp only [pending, TaskManager.addTask, List.count_append, List.count_cons] at hcount ⊢
      simp only [List.count_nil]
      omega
    · have hne : other ≠ task := fun heq => hadded (heq ▸ hs.due other hdue)
      refine hcollected h other hdue ?_
      simpa only [pending, TaskManager.addTask, List.mem_append, List.mem_singleton, hne,
        or_false] using hmem
  | onError task =>
    obtain rfl := Option.some.inj hstep
    exact ⟨inv_onError hs task, iff_of_true ⟨hconserved, hcollected⟩ trivial⟩
  | doMsgParse locked =>
    obtain rfl := Option.some.inj hstep
    exact doMsgParse_spec hs hconserved hcollected locked

/-- From the empty registry nobody is ever lost exactly in the runs in which every pass that begins
with new sockets sees that there are some, and no socket is entered while its key is taken. -/
theorem registered_iff_fits {actions : List Action}
    (hrun : Transition.run step new actions = some s) :
    Transition.Throughout step Registered new actions ↔
      Transition.Allowed step Fits new actions := by
  refine Transition.throughout_iff_allowed (fun hs hsafe hstep => ?_) inv_new ?_ hrun
  · obtain ⟨hinv, hsafe'⟩ := step_spec hs (hs.registered_iff.1 hsafe) hstep
    exact ⟨hinv, hinv.registered_iff.trans hsafe'⟩
  · exact inv_new.registered_iff.2 ⟨fun _ => rfl, fun _ _ h => absurd h List.not_mem_nil⟩

/-- A socket is added and a pass runs, and then the same with another socket : up to the step that
enters the second one. -/
def twoSockets (first second : UInt64) : List Action :=
  [.addTask first, .doMsgParse true, .doMsgParse true, .doMsgParse true, .doMsgParse true,
    .doMsgParse true, .doMsgParse true, .addTask second, .doMsgParse true, .doMsgParse true,
    .doMsgParse true]

theorem registered_iff_fits_two :
    Transition.Throughout step Registered new (twoSockets 1 2) ↔
      Transition.Allowed step Fits new (twoSockets 1 2) :=
  have hrun : Transition.run step new (twoSockets 1 2) = some _ := rfl
  registered_iff_fits hrun

/-- The socket that is made `2 ^ 32` sockets after the one with the id 1 comes while this one is
connected : it is in no container any more, and got no call. -/
theorem not_registered_two : Socket.nextId^[2 ^ 32] 1 = 4294967297 ∧
    ∃ s, Transition.run step new (twoSockets 1 4294967297) = some s ∧ 4294967297 ∈ s.added ∧
      4294967297 ∉ s.pending ∧ s.manager.tcpSockets = [1] ∧
      s.calls = [.onConnect 1, .doMsgParse 1] ∧ ¬Registered s := by
  have hid : (Socket.nextId^[2 ^ 32] 1).toNat = (4294967297 : UInt64).toNat :=
    toNat_iterate_nextId 1 (2 ^ 32) (by decide)
  refine ⟨UInt64.toNat_inj.1 hid, _, rfl, List.mem_cons_self, List.not_mem_nil, rfl, rfl, ?_⟩
  exact not_registered_of_lost List.mem_cons_self List.not_mem_nil (by decide)

end Registry

end UhpSql
