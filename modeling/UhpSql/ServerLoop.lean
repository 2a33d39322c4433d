import UhpSql.Greeting
import UhpSql.Phases
import UhpSql.RecvBuffer
import UhpSql.Segmentation
import UhpSql.TaskManager

/-!
# The server with all its clients (`network/server.cc`)

One thread runs `MainLoop` : pass after pass of `TaskManager::DoMsgParse`, which greets the sockets
that are new and lets each of the others parse what came in. The receiving thread accepts sockets
and fills their rings meanwhile, and any thread may find a socket broken. A run is any order of the
steps of all of them, for any number of clients.

`serialized_of_run` : what the clients are answered is what they would be if their packets were
handled one after the other, each client's in the order of its bytes, and nobody gets the reply to
a packet of another one. `served_of_run` : a pass handles all that came in before it.
-/

namespace UhpSql

/-! ## One packet after the other -/

/-- The packets of all clients in one order : the state, what each client is sent, the number of
packets that were handled, and the fault that ended the server. -/
structure Serial where
  server : Server
  sent : UInt64 → List (List UInt8)
  handled : ℕ
  fault : Option Fault

namespace Serial

def new (s : Server) : Serial where
  server := s
  sent _ := []
  handled := 0
  fault := none

section
variable (parse : List UInt8 → Except Str (List SQLStatement)) (env : Env) (u : ℕ → ℕ → Uninit)

/-- A packet of a client. -/
def handle (c : Serial) (p : UInt64 × List UInt8) : Serial :=
  let r := handlePacket parse env (u c.handled) c.server p.2
  { server := match r.result with
      | .ok s => s
      | .error _ => c.server
    sent := Function.update c.sent p.1 (c.sent p.1 ++ r.replies)
    handled := c.handled + 1
    fault := match r.result with
      | .ok _ => none
      | .error e => some e }

def serve (c : Serial) (packs : List (UInt64 × List UInt8)) : Serial :=
  packs.foldl (handle parse env u) c

end

end Serial

/-! ## The threads -/

/-- The steps that the receiving thread takes. -/
def RecvAction.Receives {α : Type} : RecvAction α → Prop
  | .writeableSize | .getSpace | .readv _ | .adjustWritePtr => True
  | .isEmpty | .readableSize | .getDatum | .handlePacket | .adjustReadPtr => False

instance {α : Type} (action : RecvAction α) : Decidable action.Receives := by
  cases action <;> unfold RecvAction.Receives <;> infer_instance

/-- A client : its socket between the two threads, and the packets it is sent. -/
structure Peer where
  sock : RecvState UInt8
  sent : List (List UInt8)

/-- The server in a run. `parsing` is the socket whose `DoMsgParse` the main thread is in, and
`served` lists the packets that were handled, with the client each came from. -/
structure Host where
  registry : Registry
  peers : UInt64 → Peer
  parsing : Option UInt64
  server : Server
  served : List (UInt64 × List UInt8)
  fault : Option Fault

/-- What happens in a run : a new socket is added, a socket is found broken, the receiving thread
takes a step for a socket, or the main thread takes one, which may be a `try_lock`. -/
inductive HostAction
  | addTask (task : UInt64)
  | onError (task : UInt64)
  | recv (task : UInt64) (action : RecvAction UInt8)
  | main (locked : Bool)

/-- `DEFAULT_SERVER_CAPABILITY`. -/
def defaultServerCapability : UInt32 :=
  1 ||| 4 ||| AuthPacket.clientConnectWithDB ||| AuthPacket.clientProtocol41 ||| 8192 |||
    65536 ||| AuthPacket.clientPluginAuth ||| 16777216 ||| AuthPacket.clientSecureConnection

/-- `GreetingPacket(1, "UHP-SQL-v0.1")`, with the salts that it reads from `/dev/urandom`. -/
def Protocol.GreetingImpl.ofSalts (saltPart1 saltPart2 : List UInt8) : GreetingImpl where
  protocolVersion := 10
  charset := 33
  status := 2
  capability := defaultServerCapability
  connectionID := 1
  serverVersion := (str "UHP-SQL-v0.1").bytes
  authPluginName := []
  saltPart1 := saltPart1
  saltPart2 := saltPart2
  authPluginDataLength := 0

/-- The packet of `OnConnect`. -/
def greetingPacket (salts : List UInt8 × List UInt8) : List UInt8 :=
  packet 0 (Protocol.GreetingImpl.ofSalts salts.1 salts.2).pack

namespace Host

/-- A server without clients. Each is to get a ring of `2 ^ bits` bytes, which are 64 KB in
`Recv`. -/
def new {bits : ℕ} (hbits : bits < 31) (s : Server) : Host where
  registry := Registry.new
  peers _ := ⟨RecvState.new bits hbits 0, []⟩
  parsing := none
  server := s
  served := []
  fault := none

/-- The socket of a client after a step. -/
def setSock (h : Host) (task : UInt64) (sock : RecvState UInt8) : Host :=
  { h with peers := Function.update h.peers task { h.peers task with sock := sock } }

/-- Packets for a client. -/
def send (h : Host) (task : UInt64) (packets : List (List UInt8)) : Host :=
  { h with
    peers := Function.update h.peers task
      { h.peers task with sent := (h.peers task).sent ++ packets } }

section
variable (h : Host) (task other : UInt64)

@[simp] theorem server_setSock (sock : RecvState UInt8) :
    (h.setSock task sock).server = h.server :=
  rfl

@[simp] theorem served_setSock (sock : RecvState UInt8) :
    (h.setSock task sock).served = h.served :=
  rfl

theorem sock_setSock (sock : RecvState UInt8) : ((h.setSock task sock).peers other).sock =
    if other = task then sock else (h.peers other).sock := by
  simp only [setSock, Function.update_apply]
  split_ifs <;> rfl

theorem sent_setSock (sock : RecvState UInt8) :
    ((h.setSock task sock).peers other).sent = (h.peers other).sent := by
  simp only [setSock, Function.update_apply]
  split_ifs with heq
  · rw [heq]
  · rfl

@[simp] theorem served_send (packets : List (List UInt8)) :
    (h.send task packets).served = h.served :=
  rfl

theorem sock_send (packets : List (List UInt8)) :
    ((h.send task packets).peers other).sock = (h.peers other).sock := by
  simp only [send, Function.update_apply]
  split_ifs with heq
  · rw [heq]
  · rfl

theorem sent_send (packets : List (List UInt8)) : ((h.send task packets).peers other).sent =
    (h.peers other).sent ++ if other = task then packets else [] := by
  simp only [send, Function.update_apply]
  split_ifs with heq
  · rw [heq]
  · exact (List.append_nil _).symm

end

section
variable (parse : List UInt8 → Except Str (List SQLStatement)) (env : Env) (u : ℕ → ℕ → Uninit)
  (salts : UInt64 → List UInt8 × List UInt8)

/-- `_HandlePacket` for a client. -/
def handlePacket (h : Host) (task : UInt64) (pack : List UInt8) : Host :=
  let r := UhpSql.handlePacket parse env (u h.served.length) h.server pack
  { h.send task r.replies with
    server := match r.result with
      | .ok s => s
      | .error _ => h.server
    served := h.served ++ [(task, pack)]
    fault := match r.result with
      | .ok _ => none
      | .error e => some e }

/-- The next step of `StreamSocket::DoMsgParse`. -/
def parseStep (h : Host) (task : UInt64) : Option Host :=
  let sock := (h.peers task).sock
  match sock.parse with
  | .idle =>
    if sock.recvBuf.isEmpty then some { h with parsing := none }
    else (sock.step .isEmpty).map (h.setSock task)
  | .nonempty => (sock.step .readableSize).map (h.setSock task)
  | .sized _ => (sock.step .getDatum).map (h.setSock task)
  | .datum segments =>
    (sock.step .handlePacket).map fun sock' =>
      (h.setSock task sock').handlePacket parse env u task (sock.recvBuf.attached segments)
  | .handled _ => (sock.step .adjustReadPtr).map (h.setSock task)

/-- The next step of `TaskManager::DoMsgParse`. -/
def passStep (h : Host) (locked : Bool) : Host :=
  let h' := { h with registry := h.registry.doMsgParse locked }
  match h.registry.pass with
  | .entering (task :: _) =>
    if h.registry.manager.Taken task then h' else h'.send task [greetingPacket (salts task)]
  | .walking (task :: _) =>
    if task ∈ h.registry.invalid then h' else { h' with parsing := some task }
  | _ => h'

/-- A step of one of the threads. There is none after a fault. -/
def step (h : Host) (action : HostAction) : Option Host :=
  if h.fault.isSome then none
  else match action with
    | .addTask task =>
      (h.registry.step (.addTask task)).map fun registry => { h with registry := registry }
    | .onError task =>
      (h.registry.step (.onError task)).map fun registry => { h with registry := registry }
    | .recv task action =>
      if action.Receives then ((h.peers task).sock.step action).map (h.setSock task) else none
    | .main locked =>
      match h.parsing with
      | some task => h.parseStep parse env u task
      | none => some (h.passStep salts locked)

/-- The packets of a client that were handled. -/
def packsOf (h : Host) (task : UInt64) : List (List UInt8) :=
  (h.served.filter (·.1 = task)).map Prod.snd

/-- The greeting of a client that was connected. -/
def greeted (h : Host) (task : UInt64) : List (List UInt8) :=
  if .onConnect task ∈ h.registry.calls then [greetingPacket (salts task)] else []

/-- The clients are answered as if their packets had been handled one after the other. Of each
client these packets are what it sent, in order, and it is sent its greeting and the replies to
them. -/
structure Serialized (s : Server) (h : Host) : Prop where
  server : h.server = ((Serial.new s).serve parse env u h.served).server
  fault : h.fault = ((Serial.new s).serve parse env u h.served).fault
  sent : ∀ task, (h.peers task).sent =
    h.greeted salts task ++ ((Serial.new s).serve parse env u h.served).sent task
  packs : ∀ task, h.packsOf task = (h.peers task).sock.packs
  handover : ∀ task, (h.peers task).sock.Handover
  connected : ∀ p ∈ h.served, .onConnect p.1 ∈ h.registry.calls

end

end Host

/-! ## What a step does to the registry and to a socket -/

namespace Registry

variable {s s' : Registry}

/-- Every step of a pass, refused sockets or not. -/
theorem Inv.doMsgParse (hs : Inv s) (locked : Bool) : Inv (s.doMsgParse locked) := by
  have hcounted := hs.counted
  cases hp : s.pass with
  | idle =>
    simp only [Registry.doMsgParse, hp]
    exact inv_begin hs hp
  | locking =>
    simp only [Registry.doMsgParse, hp]
    exact inv_tryLock hs hp locked
  | entering tmpNewTask =>
    cases tmpNewTask with
    | nil =>
      simp only [Registry.doMsgParse, hp]
      simp only [pending, hp] at hcounted
      exact { hs with counted := hcounted, pass := passInv_walking _ rfl }
    | cons task rest =>
      simp only [Registry.doMsgParse, hp]
      exact inv_enter hs hp
  | walking rest =>
    cases rest with
    | nil =>
      have hpass := hs.pass
      simp only [Registry.doMsgParse, hp]
      simp only [PassInv, hp] at hpass
      simp only [pending, hp] at hcounted
      exact { hs with
        counted := hcounted
        pass := fun task h hmem => List.not_mem_nil (hpass.2 task h hmem) }
    | cons task rest =>
      simp only [Registry.doMsgParse, hp]
      exact inv_visit hs hp

theorem Inv.count_onConnect_le (hs : Inv s) (task : UInt64) :
    s.calls.count (.onConnect task) ≤ 1 := by
  have hcounted := hs.counted task
  have hadded := hs.count_added_le task
  omega

/-- Calls are only added. -/
theorem subset_calls_doMsgParse (s : Registry) (locked : Bool) :
    s.calls ⊆ (s.doMsgParse locked).calls := by
  unfold Registry.doMsgParse
  split
  · exact List.Subset.refl _
  · cases locked <;> exact List.Subset.refl _
  · exact List.Subset.refl _
  · unfold enter
    split_ifs
    · exact List.subset_append_left _ _
    · exact List.Subset.refl _
  · exact List.Subset.refl _
  · unfold visit
    split_ifs <;> exact List.subset_append_left _ _

theorem invalid_enter (s : Registry) (task : UInt64) (rest : List UInt64) :
    (s.enter task rest).invalid = s.invalid := by
  rw [enter]
  split_ifs <;> rfl

/-- A socket that is entered drives nobody out. -/
theorem subset_tcpSockets_enter (s : Registry) (task : UInt64) (rest : List UInt64) :
    s.manager.tcpSockets ⊆ (s.enter task rest).manager.tcpSockets := by
  by_cases htaken : s.manager.Taken task
  · rw [enter_of_taken htaken]
    exact List.Subset.refl _
  · rw [enter_of_not_taken htaken]
    exact fun other h => (List.mem_orderedInsert _).2 (Or.inr h)

end Registry

namespace RecvState

variable {α : Type} {s s' : RecvState α} {action : RecvAction α}

/-- The receiving thread does not touch what the main thread has. -/
theorem parse_of_receives (h : action.Receives) (hstep : s.step action = some s') :
    s'.parse = s.parse ∧ s'.packs = s.packs := by
  cases action with
  | writeableSize =>
    cases hr : s.recv <;> simp only [step, hr, reduceCtorEq] at hstep
    obtain rfl := Option.some.inj hstep
    split_ifs <;> exact ⟨rfl, rfl⟩
  | getSpace =>
    cases hr : s.recv <;> simp only [step, hr, reduceCtorEq] at hstep
    obtain rfl := Option.some.inj hstep
    exact ⟨rfl, rfl⟩
  | readv data =>
    cases hr : s.recv <;> simp only [step, hr, reduceCtorEq] at hstep
    rw [readv, Option.dite_none_right_eq_some] at hstep
    obtain ⟨hfits, hstep⟩ := hstep
    obtain rfl := Option.some.inj hstep
    exact ⟨rfl, rfl⟩
  | adjustWritePtr =>
    cases hr : s.recv <;> simp only [step, hr, reduceCtorEq] at hstep
    obtain rfl := Option.some.inj hstep
    exact ⟨rfl, rfl⟩
  | isEmpty | readableSize | getDatum | handlePacket | adjustReadPtr => exact h.elim

/-- Of the steps of the main thread one hands over a packet. -/
theorem packs_of_parse (hreceives : ¬action.Receives) (hstep : s.step action = some s') :
    s'.packs = s.packs ++ s.pack.toList := by
  cases action with
  | isEmpty =>
    cases hp : s.parse <;> simp only [step, hp, reduceCtorEq] at hstep
    obtain rfl := Option.some.inj hstep
    simp only [pack, hp, Option.toList_none, List.append_nil]
    split_ifs <;> rfl
  | readableSize | getDatum | adjustReadPtr =>
    cases hp : s.parse <;> simp only [step, hp, reduceCtorEq] at hstep
    obtain rfl := Option.some.inj hstep
    simp only [pack, hp, Option.toList_none, List.append_nil]
  | handlePacket =>
    cases hp : s.parse <;> simp only [step, pack, hp, reduceCtorEq] at hstep
    obtain rfl := Option.some.inj hstep
    simp only [pack, hp, Option.toList_some]
  | writeableSize | getSpace | readv | adjustWritePtr => exact absurd trivial hreceives

theorem prefix_packs (hstep : s.step action = some s') : s.packs <+: s'.packs := by
  by_cases hreceives : action.Receives
  · rw [(parse_of_receives hreceives hstep).2]
  · rw [packs_of_parse hreceives hstep]
    exact List.prefix_append _ _

end RecvState

/-! ## What every run keeps -/

namespace Serial

variable (parse : List UInt8 → Except Str (List SQLStatement)) (env : Env) (u : ℕ → ℕ → Uninit)

theorem handled_serve (packs : List (UInt64 × List UInt8)) (c : Serial) :
    (c.serve parse env u packs).handled = c.handled + packs.length := by
  induction packs generalizing c with
  | nil => rfl
  | cons p packs ih =>
    rw [serve, List.foldl_cons, ← serve, ih, List.length_cons, handle]
    simp only
    omega

/-- One more packet, after others. -/
theorem serve_append (s : Server) (packs : List (UInt64 × List UInt8)) (task : UInt64)
    (pack : List UInt8) :
    (new s).serve parse env u (packs ++ [(task, pack)]) =
      let c := (new s).serve parse env u packs
      let r := handlePacket parse env (u packs.length) c.server pack
      { server := match r.result with
          | .ok s => s
          | .error _ => c.server
        sent := Function.update c.sent task (c.sent task ++ r.replies)
        handled := packs.length + 1
        fault := match r.result with
          | .ok _ => none
          | .error e => some e } := by
  have hhandled := handled_serve parse env u packs (new s)
  have hzero : (new s).handled = 0 := rfl
  rw [hzero, Nat.zero_add] at hhandled
  rw [serve, List.foldl_concat, ← serve, handle, hhandled]

/-- A client of whom nothing was handled is sent nothing. -/
theorem sent_serve_of_ne {task : UInt64} {packs : List (UInt64 × List UInt8)} (c : Serial)
    (h : ∀ p ∈ packs, p.1 ≠ task) : (c.serve parse env u packs).sent task = c.sent task := by
  induction packs generalizing c with
  | nil => rfl
  | cons p packs ih =>
    obtain ⟨hp, h⟩ := List.forall_mem_cons.1 h
    rw [serve, List.foldl_cons, ← serve, ih _ h, handle]
    exact Function.update_of_ne hp.symm ..

end Serial

namespace Host

section
variable (parse : List UInt8 → Except Str (List SQLStatement)) (env : Env) (u : ℕ → ℕ → Uninit)
  (salts : UInt64 → List UInt8 × List UInt8)

/-- What every run from a state keeps. -/
structure Inv (s : Server) (h : Host) : Prop where
  registry : h.registry.Inv
  parsing : ∀ task, h.parsing = some task → .onConnect task ∈ h.registry.calls
  socks : ∀ task, (h.peers task).sock.Inv
  server : h.server = ((Serial.new s).serve parse env u h.served).server
  fault : h.fault = ((Serial.new s).serve parse env u h.served).fault
  sent : ∀ task, (h.peers task).sent =
    h.greeted salts task ++ ((Serial.new s).serve parse env u h.served).sent task
  packs : ∀ task, h.packsOf task = (h.peers task).sock.packs
  connected : ∀ p ∈ h.served, .onConnect p.1 ∈ h.registry.calls

end

variable {parse : List UInt8 → Except Str (List SQLStatement)} {env : Env} {u : ℕ → ℕ → Uninit}
  {salts : UInt64 → List UInt8 × List UInt8} {s : Server} {h h' : Host}

theorem inv_new {bits : ℕ} (hbits : bits < 31) (s : Server) :
    (new hbits s).Inv parse env u salts s where
  registry := Registry.inv_new
  parsing _ h := nomatch h
  socks _ := RecvState.inv_new bits hbits 0
  server := rfl
  fault := rfl
  sent _ := rfl
  packs _ := rfl
  connected _ h := absurd h List.not_mem_nil

namespace Inv

variable (hh : h.Inv parse env u salts s)
include hh

theorem serialized : h.Serialized parse env u salts s where
  server := hh.server
  fault := hh.fault
  sent := hh.sent
  packs := hh.packs
  handover task := (hh.socks task).handover
  connected := hh.connected

/-- A socket takes a step that hands nothing over. -/
theorem setSock {task : UInt64} {sock : RecvState UInt8} (hsock : sock.Inv)
    (hpacks : sock.packs = (h.peers task).sock.packs) :
    (h.setSock task sock).Inv parse env u salts s := by
  refine { hh with socks := fun other => ?_, sent := fun other => ?_, packs := fun other => ?_ }
  · rw [sock_setSock]
    split_ifs
    · exact hsock
    · exact hh.socks other
  · rw [sent_setSock]
    exact hh.sent other
  · rw [sock_setSock]
    split_ifs with heq
    · rw [hpacks, ← heq]
      exact hh.packs other
    · exact hh.packs other

/-- A socket hands over a packet. -/
theorem handlePacket {task : UInt64} {pack : List UInt8} {sock : RecvState UInt8}
    (hconnected : .onConnect task ∈ h.registry.calls) (hsock : sock.Inv)
    (hpacks : sock.packs = (h.peers task).sock.packs ++ [pack]) :
    ((h.setSock task sock).handlePacket parse env u task pack).Inv parse env u salts s := by
  have hserve := Serial.serve_append parse env u s h.served task pack
  have hserver := hh.server
  refine { hh with
    socks := fun other => ?_
    server := ?_
    fault := ?_
    sent := fun other => ?_
    packs := fun other => ?_
    connected := fun p hp => ?_ }
  · simp only [Host.handlePacket]
    rw [sock_send, sock_setSock]
    split_ifs
    · exact hsock
    · exact hh.socks other
  · simp only [Host.handlePacket, served_setSock, server_setSock, hserve, hserver]
  · simp only [Host.handlePacket, served_setSock, server_setSock, hserve, hserver]
  · simp only [Host.handlePacket, served_setSock, server_setSock, hserve, Function.update_apply]
    rw [sent_send, sent_setSock, hh.sent, List.append_assoc]
    split_ifs with heq
    · rw [heq, ← hserver]
      rfl
    · rw [List.append_nil]
      rfl
  · have hother := hh.packs other
    simp only [Host.handlePacket, packsOf]
    rw [sock_send, sock_setSock, List.filter_append, List.map_append]
    split_ifs with heq
    · subst heq
      rw [hpacks, ← hother]
      simp [packsOf]
    · rw [← hother]
      simp [packsOf, Ne.symm heq]
  · rcases List.mem_append.1 hp with hp | hp
    · exact hh.connected p hp
    · rw [List.mem_singleton.1 hp]
      exact hconnected

/-- The main thread takes a step for a socket other than the one that hands a packet over. -/
theorem setSock_of_pack_eq_none {task : UInt64} {action : RecvAction UInt8}
    {sock : RecvState UInt8} (hmain : ¬action.Receives) (hpack : (h.peers task).sock.pack = none)
    (hstep : (h.peers task).sock.step action = some sock) :
    (h.setSock task sock).Inv parse env u salts s := by
  refine hh.setSock ((hh.socks task).step hstep) ?_
  rw [RecvState.packs_of_parse hmain hstep, hpack]
  exact List.append_nil _

/-- A step of the main thread in `DoMsgParse` of a socket. -/
theorem parseStep {task : UInt64} (hconnected : .onConnect task ∈ h.registry.calls)
    (hstep : h.parseStep parse env u task = some h') : h'.Inv parse env u salts s := by
  rw [Host.parseStep] at hstep
  cases hp : (h.peers task).sock.parse with
  | idle =>
    simp only [hp] at hstep
    split_ifs at hstep
    · obtain rfl := Option.some.inj hstep
      exact { hh with parsing := fun _ h => nomatch h }
    · obtain ⟨sock, hsock, rfl⟩ := Option.map_eq_some_iff.1 hstep
      exact hh.setSock_of_pack_eq_none id (by rw [RecvState.pack, hp]) hsock
  | nonempty | sized | handled =>
    simp only [hp] at hstep
    obtain ⟨sock, hsock, rfl⟩ := Option.map_eq_some_iff.1 hstep
    exact hh.setSock_of_pack_eq_none id (by rw [RecvState.pack, hp]) hsock
  | datum segments =>
    simp only [hp] at hstep
    obtain ⟨sock, hsock, rfl⟩ := Option.map_eq_some_iff.1 hstep
    refine hh.handlePacket hconnected ((hh.socks task).step hsock) ?_
    rw [RecvState.packs_of_parse id hsock, RecvState.pack, hp]
    rfl

/-- The registry takes a step in which nobody gets `OnConnect`. -/
theorem setRegistry {registry : Registry} (hinv : registry.Inv)
    (hsubset : h.registry.calls ⊆ registry.calls)
    (hcalls : ∀ task, .onConnect task ∈ registry.calls → .onConnect task ∈ h.registry.calls) :
    Inv parse env u salts s { h with registry := registry } := by
  refine { hh with
    registry := hinv
    parsing := fun task h => hsubset (hh.parsing task h)
    sent := fun task => ?_
    connected := fun p hp => hsubset (hh.connected p hp) }
  rw [hh.sent, greeted, greeted]
  exact congrArg (· ++ _) (if_congr ⟨fun h => hsubset h, hcalls task⟩ rfl rfl)

/-- A socket gets `OnConnect`. -/
theorem connect {registry : Registry} {task : UInt64} (hinv : registry.Inv)
    (hcalls : registry.calls = h.registry.calls ++ [.onConnect task]) :
    Inv parse env u salts s
      { h.send task [greetingPacket (salts task)] with registry := registry } := by
  have hnew : .onConnect task ∉ h.registry.calls := by
    have hcount := hinv.count_onConnect_le task
    rw [hcalls, Registry.count_append_call, if_pos rfl] at hcount
    rw [← List.count_eq_zero]
    omega
  have hmem (other : UInt64) :
      .onConnect other ∈ registry.calls ↔ .onConnect other ∈ h.registry.calls ∨ other = task := by
    rw [hcalls, List.mem_append, List.mem_singleton, SocketCall.onConnect.injEq]
  refine { hh with
    registry := hinv
    parsing := fun other h => (hmem other).2 (Or.inl (hh.parsing other h))
    socks := fun other => ?_
    sent := fun other => ?_
    packs := fun other => ?_
    connected := fun p hp => (hmem p.1).2 (Or.inl (hh.connected p hp)) }
  · simp only
    rw [sock_send]
    exact hh.socks other
  · simp only [served_send]
    rw [sent_send, hh.sent]
    by_cases heq : other = task
    · -- nothing of this client was handled yet
      have hnone : ∀ p ∈ h.served, p.1 ≠ task := by
        rintro p hp rfl
        exact hnew (hh.connected p hp)
      rw [heq, Serial.sent_serve_of_ne parse env u _ hnone, greeted, greeted, if_pos rfl,
        if_neg hnew, if_pos ((hmem task).2 (Or.inr rfl))]
      rfl
    · have hiff : .onConnect other ∈ registry.calls ↔ .onConnect other ∈ h.registry.calls := by
        rw [hmem, or_iff_left heq]
      rw [if_neg heq, List.append_nil, greeted, greeted]
      simp only [hiff]
  · simp only
    rw [sock_send]
    exact hh.packs other

/-- A step of the main thread between the sockets. -/
theorem passStep (locked : Bool) :
    (h.passStep salts locked).Inv parse env u salts s := by
  have hinv := hh.registry.doMsgParse locked
  have hsubset := h.registry.subset_calls_doMsgParse locked
  have hquiet := hh.setRegistry hinv hsubset
  rw [Host.passStep]
  cases hp : h.registry.pass with
  | idle =>
    refine hquiet fun task h => ?_
    rwa [Registry.doMsgParse, hp] at h
  | locking =>
    refine hquiet fun task h => ?_
    rw [Registry.doMsgParse, hp] at h
    cases locked <;> exact h
  | entering tmpNewTask =>
    cases tmpNewTask with
    | nil =>
      refine hquiet fun task h => ?_
      rwa [Registry.doMsgParse, hp] at h
    | cons task rest =>
      have henter : h.registry.doMsgParse locked = h.registry.enter task rest := by
        rw [Registry.doMsgParse, hp]
      simp only
      split_ifs with htaken
      · refine hquiet fun other h => ?_
        rwa [henter, Registry.enter_of_taken htaken] at h
      · refine hh.connect hinv ?_
        rw [henter, Registry.enter_of_not_taken htaken]
  | walking rest =>
    cases rest with
    | nil =>
      refine hquiet fun task h => ?_
      rwa [Registry.doMsgParse, hp] at h
    | cons task rest =>
      have hvisit : h.registry.doMsgParse locked = h.registry.visit task rest := by
        rw [Registry.doMsgParse, hp]
      simp only
      split_ifs with hinvalid
      · refine hquiet fun other h => ?_
        rw [hvisit, Registry.visit, if_pos hinvalid, List.mem_append, List.mem_singleton] at h
        exact h.resolve_right SocketCall.noConfusion
      · have hcalls : (h.registry.doMsgParse locked).calls =
            h.registry.calls ++ [.doMsgParse task] := by
          rw [hvisit, Registry.visit, if_neg hinvalid]
        have hconnected := hinv.connected_first _ _ _ hcalls
        refine { hquiet fun other h => ?_ with parsing := ?_ }
        · rw [hcalls, List.mem_append, List.mem_singleton] at h
          exact h.resolve_right SocketCall.noConfusion
        · rintro other ⟨rfl⟩
          exact hsubset hconnected

/-- Every step. -/
theorem step {action : HostAction} (hstep : h.step parse env u salts action = some h') :
    h'.Inv parse env u salts s := by
  unfold Host.step at hstep
  split_ifs at hstep
  cases action with
  | addTask task =>
    obtain ⟨registry, hregistry, rfl⟩ := Option.map_eq_some_iff.1 hstep
    rw [Registry.step] at hregistry
    split_ifs at hregistry with hadded
    obtain rfl := Option.some.inj hregistry
    exact hh.setRegistry (Registry.inv_addTask hh.registry hadded) (List.Subset.refl _) fun _ h => h
  | onError task =>
    obtain ⟨registry, hregistry, rfl⟩ := Option.map_eq_some_iff.1 hstep
    obtain rfl := Option.some.inj hregistry
    exact hh.setRegistry (Registry.inv_onError hh.registry task) (List.Subset.refl _) fun _ h => h
  | recv task action =>
    simp only at hstep
    split_ifs at hstep with hreceives
    obtain ⟨sock, hsock, rfl⟩ := Option.map_eq_some_iff.1 hstep
    exact hh.setSock ((hh.socks task).step hsock) (RecvState.parse_of_receives hreceives hsock).2
  | main locked =>
    cases hp : h.parsing with
    | some task =>
      simp only [hp] at hstep
      exact hh.parseStep (hh.parsing task hp) hstep
    | none =>
      simp only [hp] at hstep
      obtain rfl := Option.some.inj hstep
      exact hh.passStep locked

end Inv

/-- In any order of the steps of all threads, the clients are answered one packet after the
other. -/
theorem serialized_of_run (parse : List UInt8 → Except Str (List SQLStatement)) (env : Env)
    (u : ℕ → ℕ → Uninit) (salts : UInt64 → List UInt8 × List UInt8) {bits : ℕ} (hbits : bits < 31)
    (s : Server) (actions : List HostAction) : Transition.Throughout (step parse env u salts)
      (Serialized parse env u salts s) (new hbits s) actions := by
  have hinv : Transition.Throughout (step parse env u salts) (Inv parse env u salts s)
      (new hbits s) actions :=
    Transition.throughout_of_step (fun hh hstep => hh.step hstep) (inv_new hbits s)
  exact fun pre h hpre hrun => (hinv pre h hpre hrun).serialized

/-- The client 1 is connected in the first pass, and the client 2 is added. -/
def connecting : List HostAction :=
  [.addTask 1, .main true, .main true, .main true, .main true, .main true, .main true, .main true,
    .addTask 2]

/-- A query comes in, in two pieces, of which the second one lands while the main thread passes the
lock by. -/
def querying (bytes : List UInt8) : List HostAction :=
  [.recv 1 .writeableSize, .recv 1 .getSpace, .recv 1 (.readv (bytes.take 5)),
    .recv 1 .adjustWritePtr, .recv 1 .writeableSize, .recv 1 .getSpace,
    .recv 1 (.readv (bytes.drop 5)), .recv 1 .adjustWritePtr]

/-- The pass that handles it. -/
def passing : List HostAction :=
  [.main false, .main true, .main true, .main true, .main true, .main true, .main true, .main true,
    .main true]

/-- The server of these runs, with rings of 32 bytes. -/
def small : Host :=
  new (show 5 < 31 by decide) (Server.fresh [])

theorem serialized_of_run_two : ∃ h : Host,
    Transition.run (step parseShowTables Env.whole (fun _ _ => .zero) fun _ => ([], [])) small
        (connecting ++ querying showTablesPacket.bytes ++ .main true :: passing) = some h ∧
      h.served = [(1, showTablesPacket.bytes)] ∧ (h.peers 2).sent = [] ∧
      h.Serialized parseShowTables Env.whole (fun _ _ => .zero) (fun _ => ([], []))
        (Server.fresh []) := by
  have hrun : Transition.run
      (step parseShowTables Env.whole (fun _ _ => .zero) fun _ => ([], [])) small
        (connecting ++ querying showTablesPacket.bytes ++ .main true :: passing) = some _ := rfl
  exact ⟨_, hrun, rfl, rfl, serialized_of_run _ _ _ _ _ _ _ _ _ (List.prefix_refl _) hrun⟩

/-! ## Passes -/

/-- The main thread still comes to the socket in this pass. -/
def Ahead (h : Host) (task : UInt64) : Prop :=
  match h.registry.pass with
  | .idle => False
  | .locking | .entering _ => task ∈ h.registry.manager.tcpSockets
  | .walking rest => task ∈ rest

/-- The socket is invalid, or the bytes `bs` were handed over. -/
def Caught (h : Host) (task : UInt64) (bs : List UInt8) : Prop :=
  task ∈ h.registry.invalid ∨ bs <+: (h.peers task).sock.packs.flatten

/-- The bytes `bs` are in the ring or were, and they are handed over unless the main thread still
comes to the socket or is in its `DoMsgParse`. -/
structure Underway (task : UInt64) (bs : List UInt8) (h : Host) : Prop where
  published : bs <+: (h.peers task).sock.published
  caught : h.Caught task bs ∨ h.parsing = some task ∨ h.Ahead task

namespace Underway

variable {task : UInt64} {bs : List UInt8} (hu : h.Underway task bs)
include hu

/-- Only the sockets, the registry and the place of the main thread count. -/
theorem congr (hsock : ∀ other, (h'.peers other).sock = (h.peers other).sock)
    (hregistry : h'.registry = h.registry) (hparsing : h'.parsing = h.parsing) :
    h'.Underway task bs := by
  refine ⟨by rw [hsock]; exact hu.published, ?_⟩
  have hcaught := hu.caught
  rw [Caught, Ahead] at hcaught ⊢
  rwa [hsock, hregistry, hparsing]

/-- A socket takes a step. -/
theorem setSock {other : UInt64} {action : RecvAction UInt8} {sock : RecvState UInt8}
    (hsock : (h.peers other).sock.Inv) (hstep : (h.peers other).sock.step action = some sock) :
    (h.setSock other sock).Underway task bs := by
  refine ⟨?_, hu.caught.imp_left (Or.imp_right fun hpacks => ?_)⟩
  · rw [sock_setSock]
    split_ifs with heq
    · exact (heq ▸ hu.published).trans (hsock.prefix_published hstep)
    · exact hu.published
  · rw [sock_setSock]
    split_ifs with heq
    · obtain ⟨more, hmore⟩ := RecvState.prefix_packs hstep
      rw [← hmore, List.flatten_append]
      exact (heq ▸ hpacks).trans (List.prefix_append _ _)
    · exact hpacks

/-- The registry takes a step after which the main thread still comes to the same sockets. -/
theorem setRegistry {registry : Registry} (hinvalid : h.registry.invalid ⊆ registry.invalid)
    (hahead : h.Ahead task → Ahead { h with registry := registry } task) :
    Underway task bs { h with registry := registry } :=
  ⟨hu.published, hu.caught.imp (Or.imp_left fun h => hinvalid h) (Or.imp_right hahead)⟩

theorem parseStep {other : UInt64} (hh : h.Inv parse env u salts s)
    (hparsing : h.parsing = some other) (hstep : h.parseStep parse env u other = some h') :
    h'.Underway task bs := by
  have hsock := hh.socks other
  rw [Host.parseStep] at hstep
  cases hp : (h.peers other).sock.parse with
  | idle =>
    simp only [hp] at hstep
    split_ifs at hstep with hempty
    · obtain rfl := Option.some.inj hstep
      refine ⟨hu.published, ?_⟩
      by_cases heq : other = task
      · -- the ring is empty, so that what was published was handed over
        subst heq
        have hpublished := hu.published
        rw [RecvState.published, ((h.peers other).sock.recvBuf.isEmpty_iff_contents).1 hempty,
          List.drop_nil, List.append_nil] at hpublished
        exact Or.inl (Or.inr hpublished)
      · refine hu.caught.imp_right (Or.imp_left fun h => ?_)
        exact absurd (Option.some.inj (hparsing.symm.trans h)) heq
    · obtain ⟨sock, hsock', rfl⟩ := Option.map_eq_some_iff.1 hstep
      exact hu.setSock hsock hsock'
  | nonempty | sized | handled =>
    simp only [hp] at hstep
    obtain ⟨sock, hsock', rfl⟩ := Option.map_eq_some_iff.1 hstep
    exact hu.setSock hsock hsock'
  | datum segments =>
    simp only [hp] at hstep
    obtain ⟨sock, hsock', rfl⟩ := Option.map_eq_some_iff.1 hstep
    exact (hu.setSock hsock hsock').congr (fun _ => sock_send ..) rfl rfl

theorem passStep (hparsing : h.parsing = none) (locked : Bool) :
    (h.passStep salts locked).Underway task bs := by
  rw [Host.passStep]
  cases hp : h.registry.pass with
  | idle =>
    refine hu.setRegistry ?_ fun h => ?_
    · rw [Registry.doMsgParse, hp]
      exact List.Subset.refl _
    · rw [Ahead, hp] at h
      exact h.elim
  | locking =>
    refine hu.setRegistry ?_ fun h => ?_
    · rw [Registry.doMsgParse, hp]
      cases locked <;> exact List.Subset.refl _
    · rw [Ahead, hp] at h
      simp only [Ahead, Registry.doMsgParse, hp]
      cases locked <;> exact h
  | entering tmpNewTask =>
    cases tmpNewTask with
    | nil =>
      refine hu.setRegistry ?_ fun h => ?_
      · rw [Registry.doMsgParse, hp]
        exact List.Subset.refl _
      · rw [Ahead, hp] at h
        simp only [Ahead, Registry.doMsgParse, hp]
        exact h
    | cons other rest =>
      have henter : h.registry.doMsgParse locked = h.registry.enter other rest := by
        rw [Registry.doMsgParse, hp]
      have hentered : Underway task bs { h with registry := h.registry.doMsgParse locked } := by
        refine hu.setRegistry ?_ fun h => ?_
        · rw [henter, Registry.invalid_enter]
          exact List.Subset.refl _
        · rw [Ahead, hp] at h
          simp only [Ahead, henter, Registry.pass_enter]
          exact Registry.subset_tcpSockets_enter _ _ _ h
      simp only
      split_ifs
      · exact hentered
      · exact hentered.congr (fun _ => sock_send ..) rfl rfl
  | walking rest =>
    cases rest with
    | nil =>
      refine hu.setRegistry ?_ fun h => ?_
      · rw [Registry.doMsgParse, hp]
        exact List.Subset.refl _
      · rw [Ahead, hp] at h
        exact absurd h List.not_mem_nil
    | cons other rest =>
      have hvisit : h.registry.doMsgParse locked = h.registry.visit other rest := by
        rw [Registry.doMsgParse, hp]
      have hcaught := hu.caught
      rw [Ahead, hp, hparsing] at hcaught
      simp only [reduceCtorEq, false_or] at hcaught
      simp only
      split_ifs with hinvalid
      · refine ⟨hu.published, ?_⟩
        simp only [Caught, Ahead, hvisit, Registry.visit, if_pos hinvalid]
        rcases hcaught with hcaught | hmem
        · exact Or.inl hcaught
        · rcases List.mem_cons.1 hmem with rfl | hmem
          · exact Or.inl (Or.inl hinvalid)
          · exact Or.inr (Or.inr hmem)
      · refine ⟨hu.published, ?_⟩
        simp only [Caught, Ahead, hvisit, Registry.visit, if_neg hinvalid, Option.some_inj]
        rcases hcaught with hcaught | hmem
        · exact Or.inl hcaught
        · rcases List.mem_cons.1 hmem with rfl | hmem
          · exact Or.inr (Or.inl rfl)
          · exact Or.inr (Or.inr hmem)

/-- Every step. -/
theorem step (hh : h.Inv parse env u salts s) {action : HostAction}
    (hstep : h.step parse env u salts action = some h') : h'.Underway task bs := by
  unfold Host.step at hstep
  split_ifs at hstep
  cases action with
  | addTask other =>
    obtain ⟨registry, hregistry, rfl⟩ := Option.map_eq_some_iff.1 hstep
    rw [Registry.step] at hregistry
    split_ifs at hregistry
    obtain rfl := Option.some.inj hregistry
    exact hu.setRegistry (List.Subset.refl _) id
  | onError other =>
    obtain ⟨registry, hregistry, rfl⟩ := Option.map_eq_some_iff.1 hstep
    obtain rfl := Option.some.inj hregistry
    exact hu.setRegistry (List.subset_cons_self _ _) id
  | recv other action =>
    simp only at hstep
    split_ifs at hstep
    obtain ⟨sock, hsock, rfl⟩ := Option.map_eq_some_iff.1 hstep
    exact hu.setSock (hh.socks other) hsock
  | main locked =>
    cases hp : h.parsing with
    | some other =>
      simp only [hp] at hstep
      exact hu.parseStep hh hp hstep
    | none =>
      simp only [hp] at hstep
      obtain rfl := Option.some.inj hstep
      exact hu.passStep hp locked

end Underway

/-- When a pass is over, all that a connected client had sent before it began was handled, unless
the socket was found broken meanwhile. -/
theorem served_of_run (parse : List UInt8 → Except Str (List SQLStatement)) (env : Env)
    (u : ℕ → ℕ → Uninit) (salts : UInt64 → List UInt8 × List UInt8) {bits : ℕ} (hbits : bits < 31)
    (s : Server) {before pass : List HostAction} {locked : Bool} {first last : Host}
    (hbefore : Transition.run (step parse env u salts) (new hbits s) before = some first)
    (hidle : first.registry.pass = .idle ∧ first.parsing = none)
    (hpass : Transition.run (step parse env u salts) first (.main locked :: pass) = some last)
    (hover : last.registry.pass = .idle ∧ last.parsing = none) :
    ∀ task ∈ first.registry.manager.tcpSockets, task ∈ last.registry.invalid ∨
      (first.peers task).sock.published <+: (last.packsOf task).flatten := by
  intro task hmem
  have hfirst : first.Inv parse env u salts s :=
    Transition.throughout_of_step (fun hh hstep => hh.step hstep) (inv_new hbits s) before first
      (List.prefix_refl _) hbefore
  obtain ⟨t, ht, hrun⟩ := Transition.run_cons_eq_some.1 hpass
  have hbegun : t.Inv parse env u salts s ∧
      t.Underway task (first.peers task).sock.published := by
    refine ⟨hfirst.step ht, ?_⟩
    unfold Host.step at ht
    split_ifs at ht
    simp only [hidle.2] at ht
    obtain rfl := Option.some.inj ht
    simp only [passStep, hidle.1]
    refine ⟨List.prefix_refl _, Or.inr (Or.inr ?_)⟩
    by_cases hcnt : 0 < first.registry.manager.newCnt
    · simp only [Ahead, Registry.doMsgParse, hidle.1, Registry.begin, if_pos hcnt]
      exact hmem
    · simp only [Ahead, Registry.doMsgParse, hidle.1, Registry.begin, if_neg hcnt]
      exact hmem
  have hpassing : Transition.Throughout (step parse env u salts) (fun h =>
      h.Inv parse env u salts s ∧ h.Underway task (first.peers task).sock.published) t pass :=
    Transition.throughout_of_step
      (fun hh hstep => ⟨hh.1.step hstep, hh.2.step hh.1 hstep⟩) hbegun
  obtain ⟨hlast, hunderway⟩ := hpassing pass last (List.prefix_refl _) hrun
  rcases hunderway.caught with hcaught | hparsing | hahead
  · rw [hlast.packs]
    exact hcaught
  · rw [hover.2] at hparsing
    cases hparsing
  · rw [Ahead, hover.1] at hahead
    exact hahead.elim

/-- The state in which the pass begins. -/
def queried : Host :=
  (Transition.run (step parseShowTables Env.whole (fun _ _ => .zero) fun _ => ([], [])) small
    (connecting ++ querying showTablesPacket.bytes)).get rfl

theorem served_of_run_two : ∃ last : Host,
    Transition.run (step parseShowTables Env.whole (fun _ _ => .zero) fun _ => ([], [])) queried
        (.main true :: passing) = some last ∧
      (queried.peers 1).sock.published = showTablesPacket.bytes ∧
      ∀ task ∈ queried.registry.manager.tcpSockets, task ∈ last.registry.invalid ∨
        (queried.peers task).sock.published <+: (last.packsOf task).flatten := by
  have hbefore : Transition.run
      (step parseShowTables Env.whole (fun _ _ => .zero) fun _ => ([], [])) small
        (connecting ++ querying showTablesPacket.bytes) = some queried := rfl
  have hpass : Transition.run
      (step parseShowTables Env.whole (fun _ _ => .zero) fun _ => ([], [])) queried
        (.main true :: passing) = some _ := rfl
  exact ⟨_, hpass, rfl, served_of_run _ _ _ _ _ _ hbefore ⟨rfl, rfl⟩ hpass ⟨rfl, rfl⟩⟩

end Host

/-! ## The states of a run -/

/-- The second state is reached from the first one by statements alone. -/
def Executed (env : Env) : Server → Server → Prop :=
  Relation.ReflTransGen fun s s' => ∃ u seq stmt reply,
    execStatement env u seq s stmt = .ok (s', reply)

theorem Reachable.of_executed {env : Env} {s s' : Server} (hs : Reachable env s)
    (h : Executed env s s') : Reachable env s' := by
  induction h with
  | refl => exact hs
  | tail _ hstep ih =>
    obtain ⟨u, seq, stmt, reply, hexec⟩ := hstep
    exact .exec u seq stmt ih hexec

/-- The statements of a query packet. -/
theorem executed_of_exec {env : Env} {s s' : Server} {u : ℕ → Uninit} {seq : UInt8}
    {stmts : List SQLStatement} (hexec : (exec env u seq s stmts).2 = .ok s') :
    Executed env s s' := by
  induction stmts generalizing s u with
  | nil =>
    obtain rfl := Except.ok.inj hexec
    exact .refl
  | cons stmt stmts ih =>
    rcases hstmt : execStatement env (u 0) (seq + 1) s stmt with e | ⟨s₁, reply⟩
    · unfold exec at hexec
      rw [hstmt] at hexec
      cases hexec
    · rw [exec_cons_of_ok hstmt] at hexec
      exact .head ⟨_, _, _, _, hstmt⟩ (ih hexec)

/-- No other packet changes the state. -/
theorem executed_of_handlePacket {parse : List UInt8 → Except Str (List SQLStatement)} {env : Env}
    {u : ℕ → Uninit} {s s' : Server} {pack : List UInt8}
    (hpack : (handlePacket parse env u s pack).result = .ok s') : Executed env s s' := by
  have hself : ∀ {s₁ : Server}, (Except.ok s : Except Fault Server) = .ok s₁ →
      Executed env s s₁ := fun h => Except.ok.inj h ▸ .refl
  unfold handlePacket at hpack
  split at hpack
  · split_ifs at hpack
    · split at hpack
      · cases hpack
      · exact hself hpack
    · split at hpack
      · exact executed_of_exec hpack
      · exact hself hpack
    · exact hself hpack
  · cases hpack

/-- The packets of all clients, one after the other. -/
theorem Serial.executed_serve (parse : List UInt8 → Except Str (List SQLStatement)) (env : Env)
    (u : ℕ → ℕ → Uninit) (packs : List (UInt64 × List UInt8)) (c : Serial) :
    Executed env c.server (c.serve parse env u packs).server := by
  induction packs generalizing c with
  | nil => exact .refl
  | cons p packs ih =>
    refine .trans ?_ (ih (c.handle parse env u p))
    rw [Serial.handle]
    simp only
    split
    · next hresult => exact executed_of_handlePacket hresult
    · exact .refl

/-- However many clients there are and in whatever order the threads take their steps, the state
is one that a session of statements reaches from the first one, so it is reachable. -/
theorem Host.reachable_of_run (parse : List UInt8 → Except Str (List SQLStatement)) {env : Env}
    (u : ℕ → ℕ → Uninit) (salts : UInt64 → List UInt8 × List UInt8) {bits : ℕ} (hbits : bits < 31)
    {s : Server} (hs : Reachable env s) (actions : List HostAction) :
    Transition.Throughout (step parse env u salts)
      (fun h => Executed env s h.server ∧ Reachable env h.server) (new hbits s) actions := by
  have hinv : Transition.Throughout (step parse env u salts) (Inv parse env u salts s)
      (new hbits s) actions :=
    Transition.throughout_of_step (fun hh hstep => hh.step hstep) (inv_new hbits s)
  intro pre h hpre hrun
  rw [(hinv pre h hpre hrun).server]
  have hexecuted := Serial.executed_serve parse env u h.served (Serial.new s)
  exact ⟨hexecuted, hs.of_executed hexecuted⟩

/-- `create table t (c int)`. -/
def createPacket : Wire.Packet :=
  ⟨0, 3 :: (str "create table t (c int)").bytes, by decide⟩

/-- A parser of this text. -/
def parseCreate (text : List UInt8) : Except Str (List SQLStatement) :=
  if text = (str "create table t (c int)").bytes then
    .ok [.create (createStatement (str "t") [⟨str "c", .int⟩])]
  else .error (str "syntax error")

theorem Host.reachable_of_run_two : ∃ h : Host,
    Transition.run (step parseCreate Env.whole (fun _ _ => .zero) fun _ => ([], [])) small
        (connecting ++ querying createPacket.bytes ++ .main true :: passing) = some h ∧
      h.server.dbms.hasTable (str "t") ∧ Executed Env.whole (Server.fresh []) h.server ∧
      Reachable Env.whole h.server := by
  have hrun : Transition.run
      (step parseCreate Env.whole (fun _ _ => .zero) fun _ => ([], [])) small
        (connecting ++ querying createPacket.bytes ++ .main true :: passing) = some _ := rfl
  exact ⟨_, hrun, rfl, reachable_of_run _ _ _ _ (Reachable.fresh Redis.whole_fullScan []) _ _ _
    (List.prefix_refl _) hrun⟩

end UhpSql
