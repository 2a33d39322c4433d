import UhpSql.Transition

/-!
# The thread pool (`network/thread_pool.cc`)

Tasks wait in a queue for workers. `ExecuteTask` makes a new worker where no worker waits, and the
monitor queues a task that stops a worker for each one that waits beyond `maxIdleThread_`. A run is
any order of calls of `ExecuteTask`, passes of the monitor and steps of workers, where what is done
under `mutex_` at a time is one step, and nothing is shut down. A task may run for ever : it is a
step of its own that a worker comes back from it.

`unstranded_iff` : there is a worker at hand for each queued task exactly in the runs in which
`ExecuteTask` finds no worker that waits or more workers at hand than tasks, and the monitor queues
no more tasks than there are workers left. A worker that was notified waits until it has the lock,
so that `ExecuteTask` counts on it again.
-/

namespace UhpSql

/-- A task in the queue : one given to `ExecuteTask`, or the one that sets `working_` to `false`. -/
inductive PoolTask (τ : Type)
  | execute (f : τ)
  | stop

/-- Where a worker is in `_WorkerRoutine`. -/
inductive Worker (τ : Type)
  /-- Its thread was made. -/
  | created
  /-- In `cond_.wait`, notified or not. -/
  | waiting
  | running (f : τ)
  /-- Back from a task, and not at the lock yet. -/
  | returned
  /-- It has a task that stops it, and has not counted `pendingStopSignal_` down yet. -/
  | stopping
  | exited

namespace Worker

variable {τ : Type}

def isCreated : Worker τ → Bool
  | .created => true
  | _ => false

def isWaiting : Worker τ → Bool
  | .waiting => true
  | _ => false

def isRunning : Worker τ → Bool
  | .running _ => true
  | _ => false

def isStopping : Worker τ → Bool
  | .stopping => true
  | _ => false

/-- At the beginning of the loop of `_WorkerRoutine`. -/
def isEntering : Worker τ → Bool
  | .created | .returned => true
  | _ => false

/-- The hands that a worker is for a task in the queue : one, or none. -/
def hands (w : Worker τ) : ℕ :=
  w.isWaiting.toNat + w.isCreated.toNat

theorem isEntering_iff {w : Worker τ} : w.isEntering ↔ w = .created ∨ w = .returned := by
  cases w <;> simp [isEntering]

theorem isWaiting_iff {w : Worker τ} : w.isWaiting ↔ w = .waiting := by
  cases w <;> simp [isWaiting]

theorem isRunning_iff {w : Worker τ} : w.isRunning ↔ ∃ f, w = .running f := by
  cases w <;> simp [isRunning]

theorem isStopping_iff {w : Worker τ} : w.isStopping ↔ w = .stopping := by
  cases w <;> simp [isStopping]

theorem hands_le_one (w : Worker τ) : w.hands ≤ 1 := by
  cases w <;> simp [hands, isWaiting, isCreated]

end Worker

namespace PoolTask

variable {τ : Type}

def isStop : PoolTask τ → Bool
  | .execute _ => false
  | .stop => true

/-- What a worker is with a task. -/
def worker : PoolTask τ → Worker τ
  | .execute f => .running f
  | .stop => .stopping

@[simp] theorem isStopping_worker (task : PoolTask τ) : task.worker.isStopping = task.isStop := by
  cases task <;> rfl

@[simp] theorem isWaiting_worker (task : PoolTask τ) : task.worker.isWaiting = false := by
  cases task <;> rfl

end PoolTask

/-- The fields of a `ThreadPool` that is not shut down. -/
structure ThreadPool (τ : Type) where
  maxIdleThread : UInt32
  pendingStopSignal : UInt32
  workers : List (Worker τ)
  waiters : UInt32
  tasks : List (PoolTask τ)

/-- What happens to a pool ; workers have the numbers in which they were made. -/
inductive PoolAction (τ : Type)
  | executeTask (f : τ)
  | enterWait (i : ℕ)
  | takeTask (i : ℕ)
  | finishTask (i : ℕ)
  | leave (i : ℕ)
  | monitor

namespace PoolAction

/-- A worker counts `pendingStopSignal_` down. -/
def isLeave {τ : Type} : PoolAction τ → Bool
  | .leave _ => true
  | _ => false

end PoolAction

namespace ThreadPool

variable {τ : Type}

theorem toNat_sub_one {m nw : UInt32} (h : m < nw) : (nw - 1).toNat = nw.toNat - 1 := by
  have hpos : 0 < nw.toNat := Nat.zero_lt_of_lt (UInt32.lt_iff_toNat_lt.1 h)
  exact UInt32.toNat_sub_of_le nw 1 (UInt32.le_iff_toNat_le.2 hpos)

/-- `ThreadPool()`. -/
def new (maxIdleThread : UInt32) : ThreadPool τ where
  maxIdleThread := maxIdleThread
  pendingStopSignal := 0
  workers := []
  waiters := 0
  tasks := []

section
variable (p : ThreadPool τ)

/-- `_CreateWorker`. -/
def createWorker : ThreadPool τ :=
  { p with workers := p.workers ++ [.created] }

/-- `ExecuteTask`. -/
def executeTask (f : τ) : ThreadPool τ :=
  let p := { p with tasks := p.tasks ++ [.execute f] }
  if p.waiters = 0 then p.createWorker else p

/-- A worker begins to wait. -/
def startWait (i : ℕ) : ThreadPool τ :=
  { p with workers := p.workers.set i .waiting, waiters := p.waiters + 1 }

/-- A worker that waits takes the front task, if there is one. -/
def endWait (i : ℕ) : Option (ThreadPool τ) :=
  match p.tasks with
  | [] => none
  | task :: tasks =>
    some { p with workers := p.workers.set i task.worker, waiters := p.waiters - 1, tasks := tasks }

/-- The loop of `_MonitorRoutine` over `nw`. -/
def stopWorkers (nw : UInt32) (p : ThreadPool τ) : ThreadPool τ :=
  if p.maxIdleThread < nw then
    stopWorkers (nw - 1)
      { p with tasks := p.tasks ++ [.stop], pendingStopSignal := p.pendingStopSignal + 1 }
  else p
  termination_by nw.toNat
  decreasing_by
    rename_i h
    have hpos := UInt32.lt_iff_toNat_lt.1 h
    rw [toNat_sub_one h]
    omega

/-- A pass of `_MonitorRoutine`. -/
def monitor : ThreadPool τ :=
  stopWorkers (p.waiters - p.pendingStopSignal) p

end

/-- One step. -/
def step (p : ThreadPool τ) : PoolAction τ → Option (ThreadPool τ)
  | .executeTask f => some (p.executeTask f)
  | .enterWait i =>
    (p.workers[i]?.filter Worker.isEntering).map fun _ =>
      ((p.startWait i).endWait i).getD (p.startWait i)
  | .takeTask i => (p.workers[i]?.filter Worker.isWaiting).bind fun _ => p.endWait i
  | .finishTask i =>
    (p.workers[i]?.filter Worker.isRunning).map fun _ =>
      { p with workers := p.workers.set i .returned }
  | .leave i =>
    (p.workers[i]?.filter Worker.isStopping).map fun _ =>
      { p with workers := p.workers.set i .exited, pendingStopSignal := p.pendingStopSignal - 1 }
  | .monitor => some p.monitor

/-! ## What a step does -/

/-- The tasks that a pass of the monitor queues. -/
def surplus (p : ThreadPool τ) : ℕ :=
  (p.waiters - p.pendingStopSignal).toNat - p.maxIdleThread.toNat

/-- The loop stops as many workers as `nw` is above `maxIdleThread_`. -/
theorem stopWorkers_eq (nw : UInt32) (p : ThreadPool τ) :
    stopWorkers nw p =
      { p with
        tasks := p.tasks ++ List.replicate (nw.toNat - p.maxIdleThread.toNat) .stop
        pendingStopSignal :=
          p.pendingStopSignal + UInt32.ofNat (nw.toNat - p.maxIdleThread.toNat) } := by
  induction nw, p using stopWorkers.induct with
  | case1 nw p h ih =>
    have hlt := UInt32.lt_iff_toNat_lt.1 h
    have hcount : nw.toNat - p.maxIdleThread.toNat =
        (nw - 1).toNat - p.maxIdleThread.toNat + 1 := by
      rw [toNat_sub_one h]
      omega
    rw [stopWorkers, if_pos h, ih, hcount, List.replicate_succ, UInt32.ofNat_add,
      List.append_assoc, List.singleton_append, UInt32.add_assoc, UInt32.add_comm 1]
    rfl
  | case2 nw p h =>
    have hle : nw.toNat - p.maxIdleThread.toNat = 0 :=
      Nat.sub_eq_zero_of_le (UInt32.le_iff_toNat_le.1 (UInt32.not_lt.1 h))
    rw [stopWorkers, if_neg h, hle, List.replicate_zero, List.append_nil,
      show UInt32.ofNat 0 = 0 from rfl, UInt32.add_zero]

/-- The steps, one by one. -/
inductive Step (p : ThreadPool τ) : PoolAction τ → ThreadPool τ → Prop
  | execute {f} : Step p (.executeTask f) (p.executeTask f)
  | wait {i w} (hi : p.workers[i]? = some w) (hw : w.isEntering) (htasks : p.tasks = []) :
    Step p (.enterWait i) (p.startWait i)
  | enter {i w task tasks} (hi : p.workers[i]? = some w) (hw : w.isEntering)
      (htasks : p.tasks = task :: tasks) :
    Step p (.enterWait i) { p with workers := p.workers.set i task.worker, tasks := tasks }
  | take {i w task tasks} (hi : p.workers[i]? = some w) (hw : w.isWaiting)
      (htasks : p.tasks = task :: tasks) :
    Step p (.takeTask i)
      { p with workers := p.workers.set i task.worker, waiters := p.waiters - 1, tasks := tasks }
  | finish {i w} (hi : p.workers[i]? = some w) (hw : w.isRunning) :
    Step p (.finishTask i) { p with workers := p.workers.set i .returned }
  | leave {i w} (hi : p.workers[i]? = some w) (hw : w.isStopping) :
    Step p (.leave i)
      { p with workers := p.workers.set i .exited, pendingStopSignal := p.pendingStopSignal - 1 }
  | monitor : Step p .monitor p.monitor

/-- A worker that finds a task when it begins to wait does not wait. -/
theorem endWait_startWait {p : ThreadPool τ} {task : PoolTask τ} {tasks : List (PoolTask τ)} (i : ℕ)
    (h : p.tasks = task :: tasks) :
    (p.startWait i).endWait i =
      some { p with workers := p.workers.set i task.worker, tasks := tasks } := by
  rw [endWait, startWait, h]
  simp only [List.set_set, UInt32.add_sub_cancel]

theorem step_eq_some {p p' : ThreadPool τ} {a : PoolAction τ} (h : p.step a = some p') :
    Step p a p' := by
  cases a with
  | executeTask f =>
    obtain rfl := Option.some.inj h
    exact .execute
  | enterWait i =>
    obtain ⟨w, hw, rfl⟩ := Option.map_eq_some_iff.1 h
    obtain ⟨hi, hentering⟩ := Option.filter_eq_some_iff.1 hw
    rcases htasks : p.tasks with - | ⟨task, tasks⟩
    · have hnone : (p.startWait i).endWait i = none := by rw [endWait, startWait, htasks]
      rw [hnone]
      exact .wait hi hentering htasks
    · rw [endWait_startWait i htasks]
      exact .enter hi hentering htasks
  | takeTask i =>
    obtain ⟨w, hw, h⟩ := Option.bind_eq_some_iff.1 h
    obtain ⟨hi, hwaiting⟩ := Option.filter_eq_some_iff.1 hw
    rcases htasks : p.tasks with - | ⟨task, tasks⟩
    · rw [endWait, htasks] at h
      exact absurd h.symm (Option.some_ne_none _)
    · rw [endWait, htasks] at h
      obtain rfl := Option.some.inj h
      exact .take hi hwaiting htasks
  | finishTask i =>
    obtain ⟨w, hw, rfl⟩ := Option.map_eq_some_iff.1 h
    obtain ⟨hi, hrunning⟩ := Option.filter_eq_some_iff.1 hw
    exact .finish hi hrunning
  | leave i =>
    obtain ⟨w, hw, rfl⟩ := Option.map_eq_some_iff.1 h
    obtain ⟨hi, hstopping⟩ := Option.filter_eq_some_iff.1 hw
    exact .leave hi hstopping
  | monitor =>
    obtain rfl := Option.some.inj h
    exact .monitor

/-- The workers that wait. -/
def waiting (p : ThreadPool τ) : ℕ :=
  p.workers.countP Worker.isWaiting

/-- The workers that were made and have not waited yet. -/
def created (p : ThreadPool τ) : ℕ :=
  p.workers.countP Worker.isCreated

theorem countP_set_add {q : Worker τ → Bool} {workers : List (Worker τ)} {i : ℕ} {w : Worker τ}
    (h : workers[i]? = some w) (w' : Worker τ) :
    (workers.set i w').countP q + (q w).toNat = workers.countP q + (q w').toNat := by
  obtain ⟨hi, rfl⟩ := List.getElem?_eq_some_iff.1 h
  have hpos (hq : q workers[i] = true) : 0 < workers.countP q :=
    List.countP_pos_iff.2 ⟨_, List.getElem_mem hi, hq⟩
  rw [List.countP_set hi]
  cases hw : q workers[i] <;> cases q w' <;>
    simp only [Bool.toNat_true, Bool.toNat_false, if_true, Bool.false_eq_true, if_false]
  · exact congrArg (· + 0) (Nat.sub_zero _)
  · exact congrArg (· + 1) (Nat.sub_zero _)
  · exact Nat.sub_add_cancel (hpos hw)
  · exact congrArg (· + 1) (Nat.sub_add_cancel (hpos hw))

/-! ## The counters -/

/-- The workers that are told to stop, by a task in the queue or by one they took. -/
def stops (p : ThreadPool τ) : ℕ :=
  p.tasks.countP PoolTask.isStop + p.workers.countP Worker.isStopping

/-- The counters count the workers that wait and those that are told to stop. -/
structure Counted (p : ThreadPool τ) : Prop where
  waiters : p.waiters = UInt32.ofNat p.waiting
  pendingStopSignal : p.pendingStopSignal = UInt32.ofNat p.stops

theorem counted_new (maxIdleThread : UInt32) : (new maxIdleThread : ThreadPool τ).Counted :=
  ⟨rfl, rfl⟩

/-- A step of one worker, with the number by which it has less to be told to stop. -/
theorem stops_of_set {p p' : ThreadPool τ} {i n : ℕ} {w w' : Worker τ} (hi : p.workers[i]? = some w)
    (hset : p'.workers = p.workers.set i w')
    (htasks : p.tasks.countP PoolTask.isStop + w.isStopping.toNat =
      p'.tasks.countP PoolTask.isStop + w'.isStopping.toNat + n) : p.stops = p'.stops + n := by
  have hs := @countP_set_add τ Worker.isStopping _ _ _ hi w'
  rw [stops, stops, hset]
  omega

theorem countP_isStop_cons (task : PoolTask τ) (tasks : List (PoolTask τ)) :
    (task :: tasks).countP PoolTask.isStop = tasks.countP PoolTask.isStop + task.isStop.toNat := by
  rw [List.countP_cons]
  cases task <;> rfl

theorem countP_append_created (workers : List (Worker τ)) {q : Worker τ → Bool}
    (hq : q .created = false) : (workers ++ [Worker.created]).countP q = workers.countP q := by
  rw [List.countP_append, List.countP_singleton, hq]
  rfl

theorem waiting_executeTask (p : ThreadPool τ) (f : τ) : (p.executeTask f).waiting = p.waiting := by
  rw [ThreadPool.executeTask]
  split_ifs
  · exact countP_append_created _ rfl
  · rfl

theorem stops_executeTask (p : ThreadPool τ) (f : τ) : (p.executeTask f).stops = p.stops := by
  have htasks : (p.tasks ++ [PoolTask.execute f]).countP PoolTask.isStop =
      p.tasks.countP PoolTask.isStop := by
    rw [List.countP_append]
    rfl
  rw [ThreadPool.executeTask]
  split_ifs
  · rw [stops, createWorker, countP_append_created _ rfl, htasks]
    rfl
  · rw [stops, htasks]
    rfl

theorem stops_monitor (p : ThreadPool τ) : p.monitor.stops = p.stops + p.surplus := by
  rw [ThreadPool.monitor, stopWorkers_eq, stops, List.countP_append, List.countP_replicate,
    Nat.add_right_comm]
  rfl

/-- Only a worker that leaves has been told to stop before and is not any more. -/
theorem stops_step {p p' : ThreadPool τ} {a : PoolAction τ} (hstep : p.step a = some p')
    (ha : a ≠ .monitor) : p.stops = p'.stops + a.isLeave.toNat := by
  cases step_eq_some hstep with
  | execute => exact (stops_executeTask p _).symm
  | wait hi hw htasks =>
    refine stops_of_set hi rfl ?_
    rcases Worker.isEntering_iff.1 hw with rfl | rfl <;> rfl
  | enter hi hw htasks =>
    refine stops_of_set hi rfl ?_
    rw [htasks, countP_isStop_cons, PoolTask.isStopping_worker]
    rcases Worker.isEntering_iff.1 hw with rfl | rfl <;> rfl
  | take hi hw htasks =>
    obtain rfl := Worker.isWaiting_iff.1 hw
    refine stops_of_set hi rfl ?_
    rw [htasks, countP_isStop_cons, PoolTask.isStopping_worker]
    rfl
  | finish hi hw =>
    obtain ⟨f, rfl⟩ := Worker.isRunning_iff.1 hw
    exact stops_of_set hi rfl rfl
  | leave hi hw =>
    obtain rfl := Worker.isStopping_iff.1 hw
    exact stops_of_set hi rfl rfl
  | monitor => exact absurd rfl ha

/-- A step of one worker, with the numbers by which the counters change. -/
theorem Counted.of_set {p p' : ThreadPool τ} (h : p.Counted) {i n : ℕ} {w w' : Worker τ}
    (hi : p.workers[i]? = some w) (hset : p'.workers = p.workers.set i w')
    (hwaiters : p'.waiters + UInt32.ofNat w.isWaiting.toNat =
      p.waiters + UInt32.ofNat w'.isWaiting.toNat)
    (hpending : p'.pendingStopSignal + UInt32.ofNat n = p.pendingStopSignal)
    (hstops : p.stops = p'.stops + n) : p'.Counted := by
  have hw := @countP_set_add τ Worker.isWaiting _ _ _ hi w'
  rw [← hset] at hw
  refine ⟨(UInt32.add_left_inj _).1 (hwaiters.trans ?_),
    (UInt32.add_left_inj _).1 (hpending.trans ?_)⟩
  · rw [h.waiters, ← UInt32.ofNat_add, ← UInt32.ofNat_add]
    exact congrArg _ hw.symm
  · rw [h.pendingStopSignal, ← UInt32.ofNat_add]
    exact congrArg _ hstops

theorem Counted.executeTask {p : ThreadPool τ} (h : p.Counted) (f : τ) :
    (p.executeTask f).Counted := by
  refine ⟨?_, ?_⟩
  · rw [waiting_executeTask, ThreadPool.executeTask]
    split_ifs <;> exact h.waiters
  · rw [stops_executeTask, ThreadPool.executeTask]
    split_ifs <;> exact h.pendingStopSignal

theorem Counted.monitor {p : ThreadPool τ} (h : p.Counted) : p.monitor.Counted := by
  refine ⟨?_, ?_⟩
  · rw [ThreadPool.monitor, stopWorkers_eq]
    exact h.waiters
  · rw [stops_monitor, UInt32.ofNat_add, ThreadPool.monitor, stopWorkers_eq]
    exact congrArg (· + _) h.pendingStopSignal

theorem Counted.step {p p' : ThreadPool τ} {a : PoolAction τ} (h : p.Counted)
    (hstep : p.step a = some p') : p'.Counted := by
  cases step_eq_some hstep with
  | execute => exact h.executeTask _
  | wait hi hw htasks =>
    refine h.of_set hi rfl ?_ (UInt32.add_zero _) (stops_step hstep nofun)
    rcases Worker.isEntering_iff.1 hw with rfl | rfl <;> exact UInt32.add_zero _
  | enter hi hw htasks =>
    refine h.of_set hi rfl ?_ (UInt32.add_zero _) (stops_step hstep nofun)
    rw [PoolTask.isWaiting_worker]
    rcases Worker.isEntering_iff.1 hw with rfl | rfl <;> rfl
  | take hi hw htasks =>
    obtain rfl := Worker.isWaiting_iff.1 hw
    refine h.of_set hi rfl ?_ (UInt32.add_zero _) (stops_step hstep nofun)
    rw [PoolTask.isWaiting_worker]
    exact (UInt32.sub_add_cancel _ _).trans (UInt32.add_zero _).symm
  | finish hi hw =>
    obtain ⟨f, rfl⟩ := Worker.isRunning_iff.1 hw
    exact h.of_set hi rfl rfl (UInt32.add_zero _) (stops_step hstep nofun)
  | leave hi hw =>
    obtain rfl := Worker.isStopping_iff.1 hw
    exact h.of_set hi rfl rfl (UInt32.sub_add_cancel _ _) (stops_step hstep nofun)
  | monitor => exact h.monitor

/-! ## Workers at hand -/

/-- Another state of one worker. -/
theorem waiting_add_created_set {p p' : ThreadPool τ} {i : ℕ} {w w' : Worker τ}
    (hi : p.workers[i]? = some w) (h : p'.workers = p.workers.set i w') :
    p'.waiting + p'.created + w.hands = p.waiting + p.created + w'.hands := by
  have hwaiting := @countP_set_add τ Worker.isWaiting _ _ _ hi w'
  have hcreated := @countP_set_add τ Worker.isCreated _ _ _ hi w'
  rw [waiting, created, h, waiting, created, Worker.hands, Worker.hands]
  omega

/-- There is a worker at hand for each queued task. -/
def Unstranded (p : ThreadPool τ) : Prop :=
  p.tasks.length ≤ p.waiting + p.created

/-- What keeps a worker at hand for each queued task. -/
def Serves (p : ThreadPool τ) : PoolAction τ → Prop
  | .executeTask _ => p.waiters = 0 ∨ p.tasks.length < p.waiting + p.created
  | .monitor => p.tasks.length + p.surplus ≤ p.waiting + p.created
  | _ => True

instance (p : ThreadPool τ) : Decidable p.Unstranded :=
  inferInstanceAs (Decidable (_ ≤ _))

theorem unstranded_executeTask {p : ThreadPool τ} (f : τ) (h : p.Unstranded) :
    (p.executeTask f).Unstranded ↔ p.Serves (.executeTask f) := by
  rw [Unstranded] at h
  by_cases hwaiters : p.waiters = 0
  · refine iff_of_true ?_ (Or.inl hwaiters)
    have hwaiting : (p.workers ++ [Worker.created]).countP Worker.isWaiting = p.waiting :=
      countP_append_created _ rfl
    have hcreated : (p.workers ++ [Worker.created]).countP Worker.isCreated = p.created + 1 := by
      rw [List.countP_append]
      rfl
    rw [executeTask, if_pos hwaiters, createWorker, Unstranded, waiting, created, hwaiting,
      hcreated, List.length_append, List.length_singleton]
    omega
  · rw [executeTask, if_neg hwaiters, Unstranded, List.length_append, List.length_singleton, Serves,
      or_iff_right hwaiters]
    rfl

theorem unstranded_monitor (p : ThreadPool τ) : p.monitor.Unstranded ↔ p.Serves .monitor := by
  rw [monitor, stopWorkers_eq, Unstranded, List.length_append, List.length_replicate]
  rfl

/-- A worker that takes up a task leaves one task less. -/
theorem Unstranded.of_set {p p' : ThreadPool τ} (h : p.Unstranded) {i : ℕ} {w w' : Worker τ}
    (hi : p.workers[i]? = some w) (hset : p'.workers = p.workers.set i w')
    (hle : p'.tasks.length + w.hands ≤ p.tasks.length) : p'.Unstranded := by
  have hcount := waiting_add_created_set hi hset
  rw [Unstranded] at h ⊢
  omega

/-- A step keeps a worker at hand for each queued task exactly if it meets the condition. -/
theorem unstranded_step {p p' : ThreadPool τ} {a : PoolAction τ} (h : p.Unstranded)
    (hstep : p.step a = some p') : p'.Unstranded ↔ p.Serves a := by
  cases step_eq_some hstep with
  | execute => exact unstranded_executeTask _ h
  | wait hi hw htasks =>
    refine iff_of_true ?_ trivial
    rw [Unstranded, startWait, htasks, List.length_nil]
    exact Nat.zero_le _
  | @enter i w task tasks hi hw htasks =>
    refine iff_of_true (h.of_set hi rfl ?_) trivial
    rw [htasks]
    exact Nat.add_le_add_left w.hands_le_one _
  | @take i w task tasks hi hw htasks =>
    refine iff_of_true (h.of_set hi rfl ?_) trivial
    rw [htasks]
    exact Nat.add_le_add_left w.hands_le_one _
  | finish hi hw =>
    obtain ⟨f, rfl⟩ := Worker.isRunning_iff.1 hw
    exact iff_of_true (h.of_set hi rfl (Nat.le_refl _)) trivial
  | leave hi hw =>
    obtain rfl := Worker.isStopping_iff.1 hw
    exact iff_of_true (h.of_set hi rfl (Nat.le_refl _)) trivial
  | monitor => exact unstranded_monitor p

/-- There is a worker at hand for each queued task throughout a run exactly if each call of
`ExecuteTask` and each pass of the monitor meets the condition. -/
theorem unstranded_iff {maxIdleThread : UInt32} {actions : List (PoolAction τ)} {p : ThreadPool τ}
    (hrun : Transition.run step (new maxIdleThread) actions = some p) :
    Transition.Throughout step Unstranded (new maxIdleThread) actions ↔
      Transition.Allowed step Serves (new maxIdleThread) actions :=
  Transition.throughout_iff_allowed
    (fun hcounted h hstep => ⟨hcounted.step hstep, unstranded_step h hstep⟩)
    (counted_new maxIdleThread) (Nat.le_refl 0) hrun

/-- Two workers are made ; the first takes both tasks, a pass stops the other one, which leaves,
and a third is made for the next task. -/
def oneStopped (f g h : τ) : List (PoolAction τ) :=
  [.executeTask f, .enterWait 0, .executeTask g, .finishTask 0, .enterWait 0, .enterWait 1,
    .monitor, .takeTask 1, .leave 1, .executeTask h]

/-- Each call of `ExecuteTask` finds no worker that waits, and the pass one for its stop task. -/
theorem unstranded_iff_one :
    Transition.run step (new 0) (oneStopped 1 2 3) =
        some ⟨0, 0, [.running 2, .exited, .created], 0, [.execute 3]⟩ ∧
      Transition.Throughout step Unstranded (new 0) (oneStopped 1 2 3) := by
  have hmonitor :
      (⟨0, 0, [.running 2, .waiting], 1, []⟩ : ThreadPool ℕ).step .monitor =
        some ⟨0, 1, [.running 2, .waiting], 1, [.stop]⟩ :=
    congrArg some ((stopWorkers_eq 1 _).trans rfl)
  have hrun : Transition.run step (new 0) (oneStopped 1 2 3) =
      some ⟨0, 0, [.running 2, .exited, .created], 0, [.execute 3]⟩ :=
    (Transition.run_cons_eq_some.2 ⟨_, hmonitor, rfl⟩ : Transition.run step
      ⟨0, 0, [.running 2, .waiting], 1, []⟩
        [.monitor, .takeTask 1, .leave 1, .executeTask 3] = some _)
  have hpass : Transition.Allowed step Serves
      (⟨0, 0, [.running 2, .waiting], 1, []⟩ : ThreadPool ℕ)
        [.monitor, .takeTask 1, .leave 1, .executeTask 3] :=
    .cons (by decide : (0 : ℕ) + (1 - 0) ≤ 1 + 0) hmonitor
      (.cons trivial rfl (.cons trivial rfl (.cons (Or.inl rfl) rfl trivial)))
  exact ⟨hrun, (unstranded_iff hrun).2 (.cons (Or.inl rfl) rfl (.cons trivial rfl
    (.cons (Or.inl rfl) rfl (.cons trivial rfl (.cons trivial rfl (.cons trivial rfl hpass))))))⟩

/-- A worker that comes back from its task waits, and then there are two tasks more. -/
def twoTasks (f g h : τ) : List (PoolAction τ) :=
  [.executeTask f, .enterWait 0, .finishTask 0, .enterWait 0, .executeTask g, .executeTask h]

/-- The one worker is counted on for both tasks : one is in the queue while the other runs. -/
theorem not_unstranded_two : ∃ p : ThreadPool ℕ,
    Transition.run step (new 1) (twoTasks 1 2 3) = some p ∧ ¬p.Unstranded ∧
      Transition.run step p [.takeTask 0] = some { p with
        workers := [.running 2], waiters := 0, tasks := [.execute 3] } :=
  ⟨_, rfl, by decide, rfl⟩

end ThreadPool

end UhpSql
