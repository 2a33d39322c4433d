import UhpSql.Machine
import UhpSql.ServerLoop
import UhpSql.StoredTables

/-!
# Runs of the database

`answered_of_session` : over statements and restarts the server answers what the database of keyed
tables answers. `find_of_naming` : of what was executed, a query by a key sees the commands that
name this key. `linearized_of_run` : with any number of clients and any order of the steps of all
threads, the clients are answered as if the database had obeyed their requests one by one.
-/

namespace UhpSql

/-! ## Sessions -/

/-- What happens in a session : a statement, with what stands in the uninitialised locals and the
sequence number, or a restart. -/
inductive Event
  | exec (u : Uninit) (seq : UInt8) (c : Command)
  | restart (ip : Str)

/-- An event at a server. A restart is not answered. -/
def Server.take (env : Env) (s : Server) : Event → Except Fault (Server × List (List UInt8))
  | .exec u seq c => execStatement env u seq s c.toStatement
  | .restart ip => do return (← init env s.store ip, [])

namespace Event

/-- The statement of an event. -/
def command? : Event → Option (Keyed.Command Str Str Str)
  | exec _ _ c => some c.meaning
  | restart _ => none

/-- What an event is to the database. A restart is nothing. -/
def next (db : Db) : Event → Option Db
  | exec _ _ c => db.next c.meaning
  | restart _ => some db

/-- What may be answered to it. -/
def Answers (db : Db) : Event → List (List UInt8) → Prop
  | exec _ seq c, reply => ∃ a, db.Answers c.meaning a ∧ reply = c.reply seq a
  | restart _, reply => reply = []

/-- A statement that the database can obey and the executor gets right. -/
def Sound (db : Db) : Event → Prop
  | exec _ _ c => c.Sound db ∧ (db.next c.meaning).isSome
  | restart _ => True

end Event

section
variable {env : Env} (henv : env.redis.FullScan) {s : Server} {db : Db} (h : Holds s db)
include henv h

/-- A sound event does what it means. -/
theorem Holds.take {e : Event} (he : e.Sound db) :
    ∃ s' reply db', (s.take env e).toOption = some (s', reply) ∧ e.next db = some db' ∧
      e.Answers db reply ∧ Holds s' db' := by
  cases e with
  | exec u seq c =>
    obtain ⟨hc, hsome⟩ := he
    obtain ⟨db', hnext⟩ := Option.isSome_iff_exists.1 hsome
    obtain ⟨s', a, hexec, ha, h'⟩ := h.exec henv u seq hc hnext
    exact ⟨s', _, db', by rw [Server.take, hexec]; rfl, hnext, ⟨a, ha, rfl⟩, h'⟩
  | restart ip =>
    obtain ⟨s', hinit, h'⟩ := h.restart henv ip
    exact ⟨s', [], db, by rw [Server.take, hinit]; rfl, rfl, rfl, h'⟩

end

/-- A session of sound events. -/
theorem Holds.session {env : Env} (henv : env.redis.FullScan) {s : Server} {db : Db}
    (h : Holds s db) {events : List Event}
    (hsound : Transition.Allowed Event.next Event.Sound db events) :
    ∃ s' replies db', Machine.run (fun s e => (s.take env e).toOption) s events =
        some (s', replies) ∧
      Machine.Answered Event.next Event.Answers db events replies db' ∧ Holds s' db' :=
  Machine.exists_run_of_allowed (fun h he => h.take henv he) h hsound

/-- A table is made, a row is put into it, the server starts anew, and the row is changed and asked
for. -/
def tomEvents : List Event :=
  [.exec .zero 1 (.create (str "classtab") [⟨str "Name", .varchar⟩, ⟨str "Score", .int⟩]),
    .exec .zero 1 (.insert (str "classtab") [(str "Name", str "Tom"), (str "Score", str "93")]),
    .restart (str "127.0.0.1"),
    .exec .zero 1 (.update (str "classtab") (str "Name") (str "Tom") (str "Score") (str "78")),
    .exec .zero 1 (.find (str "classtab") (str "Name") (str "Tom"))]

theorem sound_tomEvents :
    Transition.Allowed Event.next Event.Sound (fun _ => none) tomEvents := by
  refine .cons ⟨⟨by decide, by decide, by decide, by decide, by decide⟩, by decide⟩ rfl ?_
  refine .cons ⟨?_, by decide⟩ rfl ?_
  · rintro tab ⟨rfl⟩
    exact ⟨by decide, by decide⟩
  refine .cons trivial rfl ?_
  refine .cons ⟨⟨?_, ?_⟩, by decide⟩ rfl ?_
  · rintro tab ⟨rfl⟩
    decide
  · rintro tab ⟨rfl⟩ row ⟨rfl⟩
    decide
  refine .cons ⟨?_, by decide⟩ rfl trivial
  rintro tab ⟨rfl⟩
  decide

/-- The commands of a session that name a key. -/
def naming (t k : Str) (events : List Event) : List (Keyed.Command Str Str Str) :=
  (events.filterMap Event.command?).filter fun c => c.Names t k

/-- A session is a run of its commands. -/
theorem run_command? {db db' : Db} {events : List Event}
    (h : Transition.run Event.next db events = some db') :
    db.run (events.filterMap Event.command?) = some db' := by
  induction events generalizing db with
  | nil => exact h
  | cons e events ih =>
    obtain ⟨db₁, hnext, hrun⟩ := Transition.run_cons_eq_some.1 h
    cases e with
    | exec u seq c => exact Transition.run_cons_eq_some.2 ⟨db₁, hnext, ih hrun⟩
    | restart ip =>
      obtain rfl := Option.some.inj hnext
      exact ih hrun

/-- Databases that agree on a row are asked for it with the same answer. -/
theorem Holds.find_of_agree {env : Env} {s₁ s₂ : Server} {db₁ db₂ : Db} (h₁ : Holds s₁ db₁)
    (h₂ : Holds s₂ db₂) {t k : Str} (hagree : Keyed.Database.Agree t k db₁ db₂) (c : Str)
    (u₁ u₂ : Uninit) (seq : UInt8) :
    ∃ reply, execStatement env u₁ seq s₁ (Command.find t c k).toStatement = .ok (s₁, reply) ∧
      execStatement env u₂ seq s₂ (Command.find t c k).toStatement = .ok (s₂, reply) := by
  have hcols := hagree.cols
  have hrow := hagree.row
  cases htab₁ : db₁ t with
  | none =>
    rw [htab₁, Option.map_none, eq_comm, Option.map_eq_none_iff] at hcols
    have hT₁ : s₁.dbms.hasTable t = false := by rw [h₁.hasTable, htab₁]; rfl
    have hT₂ : s₂.dbms.hasTable t = false := by rw [h₂.hasTable, hcols]; rfl
    exact ⟨_, exec_of_unknown hT₁ env u₁ rfl rfl, exec_of_unknown hT₂ env u₂ rfl rfl⟩
  | some tab₁ =>
    rw [htab₁, Option.map_some, eq_comm, Option.map_eq_some_iff] at hcols
    obtain ⟨tab₂, htab₂, hcols⟩ := hcols
    rw [htab₁, htab₂, Option.bind_some, Option.bind_some] at hrow
    refine ⟨_, h₁.find u₁ seq htab₁ env c k, ?_⟩
    rw [h₂.find u₂ seq htab₂ env c k, hcols, hrow]

/-- The server is in this state after a first start and a session of sound events. -/
def After (env : Env) (events : List Event) (s : Server) : Prop :=
  Transition.Allowed Event.next Event.Sound (fun _ => none) events ∧ ∃ ip s₀ replies,
    init env ∅ ip = .ok s₀ ∧
      Machine.run (fun s e => (s.take env e).toOption) s₀ events = some (s, replies)

/-- It holds a database that agrees on a row with what the commands that name its key make. -/
theorem After.holds {env : Env} (henv : env.redis.FullScan) {events : List Event} {s : Server}
    (h : After env events s) (t k : Str) :
    ∃ db db', Holds s db ∧ Keyed.Database.run (fun _ => none) (naming t k events) = some db' ∧
      Keyed.Database.Agree t k db db' := by
  obtain ⟨hsound, ip, s₀, replies, hinit, hrun⟩ := h
  obtain rfl := Except.ok.inj ((init_empty henv ip).symm.trans hinit)
  obtain ⟨s', replies', db, hrun', hanswered, hholds⟩ := (Holds.fresh ip).session henv hsound
  obtain ⟨rfl, -⟩ := Prod.mk.inj (Option.some.inj (hrun'.symm.trans hrun))
  obtain ⟨db', hdb', hagree⟩ := Keyed.Database.agree_run (.refl t k _) (run_command? hanswered.run)
  exact ⟨db, db', hholds, hdb', hagree⟩

/-- Two servers on which the same commands named a key, in the same order, answer a query by this
key alike, whatever else was executed there and however often they were restarted. -/
theorem find_of_naming {env : Env} (henv : env.redis.FullScan) {events₁ events₂ : List Event}
    {s₁ s₂ : Server} (h₁ : After env events₁ s₁) (h₂ : After env events₂ s₂) {t k : Str}
    (hnaming : naming t k events₁ = naming t k events₂) (c : Str) (u₁ u₂ : Uninit) (seq : UInt8) :
    ∃ reply, execStatement env u₁ seq s₁ (.select (selectWhere t c .eq k)) = .ok (s₁, reply) ∧
      execStatement env u₂ seq s₂ (.select (selectWhere t c .eq k)) = .ok (s₂, reply) := by
  obtain ⟨db₁, db, hholds₁, hdb, hagree₁⟩ := h₁.holds henv t k
  obtain ⟨db₂, db', hholds₂, hdb', hagree₂⟩ := h₂.holds henv t k
  rw [hnaming] at hdb
  obtain rfl := Option.some.inj (hdb.symm.trans hdb')
  exact hholds₁.find_of_agree hholds₂ (hagree₁.trans hagree₂.symm) c u₁ u₂ seq

/-- Sound sessions can be had. -/
theorem exists_after {env : Env} (henv : env.redis.FullScan) {events : List Event}
    (h : Transition.Allowed Event.next Event.Sound (fun _ => none) events) :
    ∃ s, After env events s := by
  obtain ⟨s, replies, db, hrun, -⟩ := (Holds.fresh []).session henv h
  exact ⟨s, h, [], _, replies, init_empty henv [], hrun⟩

/-- A session with a table and a row more than the one above, and without the restart. -/
def bobEvents : List Event :=
  [.exec .zero 1 (.create (str "users") [⟨str "user", .varchar⟩]),
    .exec .zero 1 (.create (str "classtab") [⟨str "Name", .varchar⟩, ⟨str "Score", .int⟩]),
    .exec .zero 1 (.insert (str "classtab") [(str "Name", str "Tom"), (str "Score", str "93")]),
    .exec .zero 1 (.insert (str "classtab") [(str "Name", str "Bob"), (str "Score", str "60")]),
    .exec .zero 1 (.update (str "classtab") (str "Name") (str "Tom") (str "Score") (str "78"))]

theorem sound_bobEvents :
    Transition.Allowed Event.next Event.Sound (fun _ => none) bobEvents := by
  refine .cons ⟨⟨by decide, by decide, by decide, by decide, by decide⟩, by decide⟩ rfl ?_
  refine .cons ⟨⟨by decide, by decide, by decide, by decide, by decide⟩, by decide⟩ rfl ?_
  refine .cons ⟨?_, by decide⟩ rfl (.cons ⟨?_, by decide⟩ rfl
    (.cons ⟨⟨?_, ?_⟩, by decide⟩ rfl trivial))
  · rintro tab ⟨rfl⟩
    exact ⟨by decide, by decide⟩
  · rintro tab ⟨rfl⟩
    exact ⟨by decide, by decide⟩
  · rintro tab ⟨rfl⟩
    decide
  · rintro tab ⟨rfl⟩ row ⟨rfl⟩
    decide

theorem find_of_naming_tom : ∃ s₁ s₂, After Env.whole tomEvents s₁ ∧
    After Env.whole bobEvents s₂ ∧ ∃ reply,
      execStatement Env.whole .zero 1 s₁
        (.select (selectWhere (str "classtab") (str "Name") .eq (str "Tom"))) = .ok (s₁, reply) ∧
      execStatement Env.whole .zero 1 s₂
        (.select (selectWhere (str "classtab") (str "Name") .eq (str "Tom"))) = .ok (s₂, reply) := by
  obtain ⟨s₁, h₁⟩ := @exists_after .whole Redis.whole_fullScan _ sound_tomEvents
  obtain ⟨s₂, h₂⟩ := @exists_after .whole Redis.whole_fullScan _ sound_bobEvents
  exact ⟨s₁, s₂, h₁, h₂, find_of_naming Redis.whole_fullScan h₁ h₂ rfl _ _ _ _⟩

/-! ## All clients -/

/-- What a packet asks for : something that is answered with OK and does nothing, a statement that
the database knows or another one, or a text that is not one. `seq` is the number of the packet. -/
inductive Request
  | idle (seq : UInt8)
  | statement (seq : UInt8) (c : Command)
  | other (seq : UInt8)
  | malformed (seq : UInt8) (errorMsg : Str)

namespace Request

/-- The packet asks for it. What does nothing is a handshake response that `UnPack` gets through,
and the version query. -/
def Is (parse : List UInt8 → Except Str (List SQLStatement)) (pack : List UInt8) : Request → Prop
  | idle seq => ∃ a b d command text, pack = a :: b :: d :: seq :: command :: text ∧
      if seq = initPacketCnt then ∃ verdict, AuthPacket.unPack (command :: text) = .ok verdict
      else text = versionQuery
  | statement seq c => seq ≠ initPacketCnt ∧ ∃ a b d command text,
      pack = a :: b :: d :: seq :: command :: text ∧ text ≠ versionQuery ∧
        parse text = .ok [c.toStatement]
  | other seq => seq ≠ initPacketCnt ∧ ∃ a b d command text,
      pack = a :: b :: d :: seq :: command :: text ∧ text ≠ versionQuery ∧
        parse text = .ok [.other]
  | malformed seq errorMsg => seq ≠ initPacketCnt ∧ ∃ a b d command text,
      pack = a :: b :: d :: seq :: command :: text ∧ text ≠ versionQuery ∧
        parse text = .error errorMsg

/-- What a request is to the database. -/
def next (db : Db) : Request → Option Db
  | statement _ c => db.next c.meaning
  | idle _ | other _ | malformed _ _ => some db

/-- What may be answered to it. -/
def Answers (db : Db) : Request → List (List UInt8) → Prop
  | idle seq, reply => reply = [fixedOkPacket (seq + 1)]
  | statement seq c, reply => ∃ a, db.Answers c.meaning a ∧ reply = c.reply (seq + 1) a
  | other seq, reply => reply = sendOkMessageToClient (seq + 1) 0 0 2 1
  | malformed seq errorMsg, reply =>
    reply = sendErrorMessageToClient (seq + 1) 50 (str "ABCDE") errorMsg

/-- A statement that the database can obey and the executor gets right. -/
def Sound (db : Db) : Request → Prop
  | statement _ c => c.Sound db ∧ (db.next c.meaning).isSome
  | idle _ | other _ | malformed _ _ => True

end Request

/-- A sound request gets its answer. -/
theorem Holds.handlePacket {env : Env} (henv : env.redis.FullScan) {s : Server} {db : Db}
    (h : Holds s db) {parse : List UInt8 → Except Str (List SQLStatement)} (u : ℕ → Uninit)
    {pack : List UInt8} {r : Request} (hr : r.Is parse pack) (hsound : r.Sound db) :
    ∃ s' db', (handlePacket parse env u s pack).result = .ok s' ∧ r.next db = some db' ∧
      r.Answers db (handlePacket parse env u s pack).replies ∧ Holds s' db' := by
  cases r with
  | idle seq =>
    obtain ⟨a, b, d, command, text, rfl, hidle⟩ := hr
    have hhandle : UhpSql.handlePacket parse env u s (a :: b :: d :: seq :: command :: text) =
        ⟨(UhpSql.handlePacket parse env u s (a :: b :: d :: seq :: command :: text)).text, none,
          [fixedOkPacket (seq + 1)], .ok s⟩ := by
      split_ifs at hidle with hseq
      · obtain ⟨verdict, hverdict⟩ := hidle
        simp only [UhpSql.handlePacket, if_pos hseq, hverdict]
      · simp only [UhpSql.handlePacket, if_neg hseq, hidle, ne_eq, not_true_eq_false, if_false]
    refine ⟨s, db, ?_, rfl, ?_, h⟩
    · rw [hhandle]
    · rw [hhandle]
      rfl
  | statement seq c =>
    obtain ⟨hseq, a, b, d, command, text, rfl, htext, hparse⟩ := hr
    obtain ⟨hc, hsome⟩ := hsound
    obtain ⟨db', hnext⟩ := Option.isSome_iff_exists.1 hsome
    obtain ⟨s', answer, hexec, ha, h'⟩ := h.exec henv (u 0) (seq + 1) hc hnext
    have hrun : UhpSql.exec env u seq s [c.toStatement] = (c.reply (seq + 1) answer, .ok s') := by
      simp [UhpSql.exec, hexec]
    refine ⟨s', db', ?_, hnext, ⟨answer, ha, ?_⟩, h'⟩ <;>
      simp only [UhpSql.handlePacket, if_neg hseq, if_pos htext, hparse, hrun]
  | other seq =>
    obtain ⟨hseq, a, b, d, command, text, rfl, htext, hparse⟩ := hr
    have hrun : UhpSql.exec env u seq s [.other] =
        (sendOkMessageToClient (seq + 1) 0 0 2 1, .ok s) := rfl
    refine ⟨s, db, ?_, rfl, ?_, h⟩ <;>
      simp only [UhpSql.handlePacket, if_neg hseq, if_pos htext, hparse, hrun, Request.Answers]
  | malformed seq errorMsg =>
    obtain ⟨hseq, a, b, d, command, text, rfl, htext, hparse⟩ := hr
    refine ⟨s, db, ?_, rfl, ?_, h⟩ <;>
      simp only [UhpSql.handlePacket, if_neg hseq, if_pos htext, hparse, Request.Answers]

/-- The replies that are for a client. -/
def repliesFor (task : UInt64) (packs : List (UInt64 × List UInt8))
    (replies : List (List (List UInt8))) : List (List UInt8) :=
  ((packs.zip replies).filter (·.1.1 = task)).flatMap Prod.snd

/-- Sound requests that are handled one after the other. -/
theorem Holds.serve {env : Env} (henv : env.redis.FullScan)
    {parse : List UInt8 → Except Str (List SQLStatement)} (u : ℕ → ℕ → Uninit)
    {packs : List (UInt64 × List UInt8)} {requests : List Request}
    (hpacks : List.Forall₂ (fun p r => r.Is parse p.2) packs requests) :
    ∀ {c : Serial} {db : Db}, Holds c.server db → c.fault = none →
      Transition.Allowed Request.next Request.Sound db requests →
      ∃ replies db', Machine.Answered Request.next Request.Answers db requests replies db' ∧
        Holds (c.serve parse env u packs).server db' ∧ (c.serve parse env u packs).fault = none ∧
        ∀ task, (c.serve parse env u packs).sent task = c.sent task ++ repliesFor task packs replies
    := by
  induction hpacks with
  | nil =>
    intro c db h hfault _
    exact ⟨[], db, .nil db, h, hfault, fun task => (List.append_nil _).symm⟩
  | @cons p r packs requests hr _ ih =>
    intro c db h hfault hsound
    obtain ⟨hsound, hrest⟩ := hsound
    obtain ⟨s', db₁, hresult, hnext, hanswer, h'⟩ := h.handlePacket henv (u c.handled) hr hsound
    have hserver : (c.handle parse env u p).server = s' := by
      simp only [Serial.handle, hresult]
    have hfault' : (c.handle parse env u p).fault = none := by
      simp only [Serial.handle, hresult]
    obtain ⟨replies, db', hanswers, hholds, hnone, hsent⟩ :=
      ih (hserver ▸ h') hfault' (hrest db₁ hnext)
    refine ⟨_ :: replies, db', .cons hnext hanswer hanswers, hholds, hnone, fun task => ?_⟩
    rw [Serial.serve, List.foldl_cons, ← Serial.serve, hsent task]
    simp only [Serial.handle, repliesFor, Function.update_apply, List.zip_cons_cons,
      List.filter_cons, decide_eq_true_eq]
    by_cases htask : task = p.1
    · rw [if_pos htask, if_pos htask.symm, List.flatMap_cons, htask, List.append_assoc]
    · rw [if_neg htask, if_neg (Ne.symm htask)]

/-- With any number of clients and any order of the steps of all threads : where the packets that
were handled ask, in this order, for what is sound, the server is not at fault, and what it holds
and what each client was sent is what the database makes of the requests and answers to them. -/
theorem linearized_of_run (parse : List UInt8 → Except Str (List SQLStatement)) {env : Env}
    (henv : env.redis.FullScan) (u : ℕ → ℕ → Uninit) (salts : UInt64 → List UInt8 × List UInt8)
    {bits : ℕ} (hbits : bits < 31) {ip : Str} {s : Server} (hinit : init env ∅ ip = .ok s)
    {actions : List HostAction} {h : Host}
    (hrun : Transition.run (Host.step parse env u salts) (Host.new hbits s) actions = some h)
    {requests : List Request} (hpacks : List.Forall₂ (fun p r => r.Is parse p.2) h.served requests)
    (hsound : Transition.Allowed Request.next Request.Sound (fun _ => none) requests) :
    h.fault = none ∧ ∃ replies db,
      Machine.Answered Request.next Request.Answers (fun _ => none) requests replies db ∧
      Holds h.server db ∧
      ∀ task, (h.peers task).sent = h.greeted salts task ++ repliesFor task h.served replies := by
  obtain rfl := Except.ok.inj ((init_empty henv ip).symm.trans hinit)
  have hinv : h.Inv parse env u salts (Server.fresh ip) :=
    Transition.throughout_of_step (fun hh hstep => hh.step hstep) (Host.inv_new hbits _) actions h
      (List.prefix_refl _) hrun
  have hserial := hinv.serialized
  obtain ⟨replies, db, hanswers, hholds, hfault, hsent⟩ :=
    @Holds.serve env henv parse u h.served requests hpacks (Serial.new (Server.fresh ip)) _
      (Holds.fresh ip) rfl hsound
  refine ⟨hserial.fault.trans hfault, replies, db, hanswers, hserial.server ▸ hholds,
    fun task => ?_⟩
  rw [hserial.sent, hsent]
  rfl

/-- The CREATE TABLE of `createPacket`. -/
def tableCreate : Command :=
  .create (str "t") [⟨str "c", .int⟩]

/-- The run of two clients of whom one sends it. -/
theorem linearized_of_run_two : ∃ h : Host, h.served = [(1, createPacket.bytes)] ∧
    h.fault = none ∧ ∃ replies db, Machine.Answered Request.next Request.Answers (fun _ => none)
        [.statement 0 tableCreate] replies db ∧ Holds h.server db ∧
      ∀ task, (h.peers task).sent =
        h.greeted (fun _ => ([], [])) task ++ repliesFor task h.served replies := by
  have hrun : Transition.run
      (Host.step parseCreate Env.whole (fun _ _ => .zero) fun _ => ([], []))
        (Host.new (show 5 < 31 by decide) (Server.fresh []))
        (Host.connecting ++ Host.querying createPacket.bytes ++ .main true :: Host.passing) =
      some _ := rfl
  have hasks : Request.Is parseCreate createPacket.bytes (.statement 0 tableCreate) :=
    ⟨by decide, _, _, _, _, _, rfl, by decide, rfl⟩
  have hsound : Transition.Allowed Request.next Request.Sound (fun _ => none)
      [.statement 0 tableCreate] :=
    .cons ⟨⟨by decide, by decide, by decide, by decide, by decide⟩, by decide⟩ rfl trivial
  exact ⟨_, rfl, linearized_of_run parseCreate Redis.whole_fullScan _ _ _
    (init_empty Redis.whole_fullScan []) hrun (.cons hasks .nil) hsound⟩

end UhpSql
