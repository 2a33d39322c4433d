import UhpSql.CatalogAgreement
import UhpSql.InsertExact
import UhpSql.Segmentation

/-!
# The phases of a connection

A connection should go through a handshake and then a command phase in which only queries touch
data. `_HandlePacket` has no phases : a packet numbered 1 is a handshake response whose verdict
nobody reads, and every other packet is executed as SQL, whatever its command byte.

`guarded_iff` : no SQL is executed before an accepted handshake only if the client does not ask
for it. `untouched_iff` : a packet touches no data only if its text, taken as SQL, is quiet.
-/

namespace UhpSql

/-! ## Handshakes -/

/-- The payload of a packet numbered 1, which is taken for the answer to the greeting. -/
def handshakeResponse : List UInt8 → Option (List UInt8)
  | _ :: _ :: _ :: seq :: payload => if seq = initPacketCnt then some payload else none
  | _ => none

/-- `UnPack` goes through a handshake response to its end. -/
def Accepted (pack : List UInt8) : Prop :=
  ∃ payload ∈ handshakeResponse pack, ∃ ap, AuthPacket.unPack payload = .ok (some ap)

/-- `UnPack` returns false on a handshake response. -/
def Rejected (pack : List UInt8) : Prop :=
  ∃ payload ∈ handshakeResponse pack, AuthPacket.unPack payload = .ok none

/-- A packet whose payload begins with the header of OK. -/
def IsOk (reply : List UInt8) : Prop :=
  reply[4]? = some 0

section
variable (parse : List UInt8 → Except Str (List SQLStatement)) (env : Env) (u : ℕ → ℕ → Uninit)

/-- `Exec` is not called before a handshake was accepted, and a rejected handshake is not
answered with OK. -/
def Guarded (s : Server) (packs : List (List UInt8)) : Prop :=
  ∀ pre p post c, packs = pre ++ p :: post → (Conn.new s).serve parse env u pre = (c, none) →
    ((handlePacket parse env (u c.handled) c.server p).executed.isSome → ∃ q ∈ pre, Accepted q) ∧
      (Rejected p → ∀ reply ∈ (handlePacket parse env (u c.handled) c.server p).replies,
        ¬IsOk reply)

/-- A packet not numbered 1, with a text that parses and is not the version query. -/
def Runs (pack : List UInt8) : Prop :=
  ∃ a b d seq command text stmts, pack = a :: b :: d :: seq :: command :: text ∧
    seq ≠ initPacketCnt ∧ text ≠ versionQuery ∧ parse text = .ok stmts

end

section
variable {parse : List UInt8 → Except Str (List SQLStatement)} {env : Env} {s : Server}

/-- The packets for which `Exec` is called. -/
theorem isSome_executed_iff {u : ℕ → Uninit} {pack : List UInt8} :
    (handlePacket parse env u s pack).executed.isSome ↔ Runs parse pack := by
  refine ⟨fun h => ?_, fun h => ?_⟩
  · unfold handlePacket at h
    split at h
    · next a b d seq command text =>
      split_ifs at h with hseq htext
      · split at h <;> cases h
      · split at h
        · next stmts hparse => exact ⟨a, b, d, seq, command, text, stmts, rfl, hseq, htext, hparse⟩
        · cases h
      · cases h
    · cases h
  · obtain ⟨a, b, d, seq, command, text, stmts, rfl, hseq, htext, hparse⟩ := h
    simp [handlePacket, hseq, htext, hparse]

/-- A handshake response by itself. -/
theorem handlePacket_of_handshake {u : ℕ → Uninit} {pack payload : List UInt8}
    (h : handshakeResponse pack = some payload) :
    (∀ verdict, AuthPacket.unPack payload = .ok verdict →
        ∃ seq, handlePacket parse env u s pack = ⟨none, none, [fixedOkPacket seq], .ok s⟩) ∧
      ∀ e, AuthPacket.unPack payload = .error e →
        ∃ e', (handlePacket parse env u s pack).result = .error e' := by
  unfold handshakeResponse at h
  split at h
  · next a b d seq payload' =>
    split_ifs at h with hseq
    obtain rfl := Option.some.inj h
    cases payload' with
    | nil =>
      refine ⟨fun verdict h => ?_, fun _ _ => ⟨_, rfl⟩⟩
      cases h
    | cons command text =>
      refine ⟨fun verdict h => ⟨seq + 1, ?_⟩, fun e h => ⟨e, ?_⟩⟩ <;>
        simp only [handlePacket, if_pos hseq, h]
  · cases h

/-- A handshake response that is handled without a fault was read. -/
theorem Conn.exists_verdict {u : ℕ → ℕ → Uninit} {c c' : Conn} {pack payload : List UInt8}
    (h : c.handle parse env u pack = (c', none)) (hpack : handshakeResponse pack = some payload) :
    ∃ verdict, AuthPacket.unPack payload = .ok verdict := by
  obtain ⟨-, -, hresult⟩ := handle_eq_none h
  cases hunpack : AuthPacket.unPack payload with
  | ok verdict => exact ⟨verdict, rfl⟩
  | error e =>
    obtain ⟨e', he'⟩ := (handlePacket_of_handshake hpack).2 e hunpack
    cases he'.symm.trans hresult

theorem isOk_fixedOkPacket (seq : UInt8) : IsOk (fixedOkPacket seq) :=
  rfl

end

/-- SQL waits for an accepted handshake exactly when the client has its handshakes accepted, and
sends a packet numbered 1 before the first text that parses. -/
theorem guarded_iff (parse : List UInt8 → Except Str (List SQLStatement)) (env : Env)
    (u : ℕ → ℕ → Uninit) (s : Server) (packs : List (List UInt8)) :
    Guarded parse env u s packs ↔
      ∀ pre p post c, packs = pre ++ p :: post → (Conn.new s).serve parse env u pre = (c, none) →
        ¬Rejected p ∧ (Runs parse p → ∃ q ∈ pre, (handshakeResponse q).isSome) := by
  refine ⟨fun h pre p post c hpacks hserve => ⟨fun hrej => ?_, fun hruns => ?_⟩,
    fun h pre p post c hpacks hserve => ⟨fun hexec => ?_, fun hrej => ?_⟩⟩
  · obtain ⟨payload, hp, hunpack⟩ := id hrej
    obtain ⟨seq, hhandle⟩ := (@handlePacket_of_handshake parse env c.server (u c.handled) _ _ hp).1
      _ hunpack
    have hno := (h pre p post c hpacks hserve).2 hrej
    rw [hhandle] at hno
    exact hno _ (List.mem_singleton_self _) (isOk_fixedOkPacket seq)
  · obtain ⟨q, hq, payload, hpayload, -⟩ :=
      (h pre p post c hpacks hserve).1 (isSome_executed_iff.2 hruns)
    exact ⟨q, hq, Option.isSome_iff_exists.2 ⟨payload, hpayload⟩⟩
  · obtain ⟨q, hq, hsome⟩ := (h pre p post c hpacks hserve).2 (isSome_executed_iff.1 hexec)
    obtain ⟨payload, hpayload⟩ := Option.isSome_iff_exists.1 hsome
    -- the packet was handled without a fault, so it was read
    obtain ⟨before, after, rfl⟩ := List.append_of_mem hq
    have hnone : ((Conn.new s).serve parse env u (before ++ q :: after)).2 = none := by rw [hserve]
    have hbefore := Conn.serve_left_eq_none hnone
    rw [Conn.serve_append _ hbefore] at hnone
    obtain ⟨c', hhandle, -⟩ := Conn.serve_cons_eq_none hnone
    obtain ⟨verdict, hunpack⟩ := Conn.exists_verdict hhandle hpayload
    cases verdict with
    | some ap => exact ⟨q, hq, payload, hpayload, ap, hunpack⟩
    | none =>
      have hlist : packs = before ++ q :: (after ++ p :: post) := by
        rw [hpacks, List.append_assoc, List.cons_append]
      exact absurd ⟨payload, hpayload, hunpack⟩
        (h before q _ _ hlist (Prod.ext rfl hbefore)).1
  · exact absurd hrej (h pre p post c hpacks hserve).1

/-- A query as the first packet of a connection. -/
theorem not_guarded_showTables : Reachable Env.whole (Server.fresh []) ∧
    ¬Guarded parseShowTables Env.whole (fun _ _ => .zero) (Server.fresh [])
      [showTablesPacket.bytes] := by
  refine ⟨Reachable.fresh Redis.whole_fullScan _, fun h => ?_⟩
  obtain ⟨q, hq, -⟩ := (h [] showTablesPacket.bytes [] _ rfl rfl).1 rfl
  exact absurd hq List.not_mem_nil

/-! ## Statements that change nothing -/

/-- Two states with the same catalog and the same entries in the store. -/
def SameData (s s' : Server) : Prop :=
  s'.dbms = s.dbms ∧ ∀ k, s'.store.get k = s.store.get k

/-- The statement is answered and changes nothing : a SELECT, a statement of a kind the executor
does not know, or an INSERT, UPDATE or DELETE that is turned down or finds the row it asks for
as it wants it. CREATE TABLE is never quiet. -/
def Quiet (env : Env) (u : Uninit) (s : Server) : SQLStatement → Prop
  | .create _ => False
  | .select stmt => ∃ r, selectRows env u s stmt = .ok r
  | .insert stmt => ∃ r, analyzeInsertStatement s.dbms stmt = .ok r ∧ ∀ t row, r = some (t, row) →
      row = [] ∨ ∃ first table vals, row.head? = some first ∧
        s.dbms.getCurDB.getTable t = some table ∧
          fillVals table row (List.replicate row.length []) = .ok vals ∧
            rowsOf s.dbms.getCurDB.dbName t s.store first.val = some (stringsJoin vals (str "$$"))
  | .update stmt => ∃ r, analyzeUpdateStatement s.dbms u stmt = .ok r ∧ ∀ q, r = some q →
      rowsOf s.dbms.getCurDB.dbName q.tabName s.store q.queryValue = none ∨
        ∃ oValue table cols,
          rowsOf s.dbms.getCurDB.dbName q.tabName s.store q.queryValue = some oValue ∧
            s.dbms.getCurDB.getTable q.tabName = some table ∧
              setAt (fields oValue) (table.getColIndex q.column) q.value = .ok cols ∧
                stringsJoin cols (str "$$") = oValue
  | .delete stmt => ∃ r, analyzeDeleteStatement s.dbms u stmt = .ok r ∧ ∀ q, r = some q →
      q.opType = .kOpEquals →
        rowsOf s.dbms.getCurDB.dbName q.tabName s.store q.queryValue = none ∧
          (q.queryFeild = str "1" ∧ q.queryValue = str "1" →
            (env.redis.scan s.store 0 env.objectPattern Redis.defaultCount).element = [])
  | .other => True

section
variable {s : Server}

theorem sameData_self (s : Server) : SameData s s :=
  ⟨rfl, fun _ => rfl⟩

/-- A store that was changed at one key has the same entries if that key had what it has now. -/
theorem sameData_iff {st : Store} {k : Str} {o : Option Str}
    (h : ∀ k', st.get k' = if k' = k then o else s.store.get k') :
    SameData s ⟨s.dbms, st⟩ ↔ s.store.get k = o := by
  refine ⟨fun hsame => ?_, fun hk => ⟨rfl, fun k' => ?_⟩⟩
  · rw [← hsame.2, h, if_pos rfl]
  · rw [h]
    split_ifs with hk'
    · rw [hk', hk]
    · rfl

theorem sameData_setRow_iff {t pk val : Str} : SameData s (s.setRow t pk val) ↔
    rowsOf s.dbms.getCurDB.dbName t s.store pk = some val :=
  sameData_iff fun _ => Store.get_set ..

theorem sameData_delRow_iff {t pk : Str} : SameData s (s.delRow t pk) ↔
    rowsOf s.dbms.getCurDB.dbName t s.store pk = none :=
  sameData_iff fun _ => Store.get_del ..

/-- CREATE TABLE counts a table, whether it is new or not. -/
theorem not_sameData_withTable (t : Str) (cols : List TableColumn) :
    ¬SameData s (s.withTable t cols) := by
  intro h
  have hcount := congrArg (fun d : DBMS => d.getCurDB.tableCount.toInt) h.1
  simp only [getCurDB_withTable] at hcount
  exact toInt_add_one_ne _ hcount

/-- Go on with what an analyzer found, if it went along. -/
def execAnalyzed {α : Type} (f : α → Except Fault (Server × UInt64)) :
    Option α → Except Fault (Option (Server × UInt64))
  | none => .ok none
  | some q => f q >>= fun r => .ok (some r)

theorem insertRow_eq (stmt : InsertStatement) : insertRow s stmt =
    analyzeInsertStatement s.dbms stmt >>= execAnalyzed fun q => insertRowToPMemKV s q.1 q.2 := by
  rw [insertRow]
  congr 1
  funext r
  rcases r with _ | ⟨t, row⟩ <;> rfl

theorem updateRow_eq (u : Uninit) (stmt : UpdateStatement) : updateRow u s stmt =
    analyzeUpdateStatement s.dbms u stmt >>= execAnalyzed fun q => updateRowInPMemKV s q := by
  rw [updateRow]
  congr 1
  funext r
  cases r <;> rfl

theorem deleteRows_eq (env : Env) (u : Uninit) (stmt : DeleteStatement) : deleteRows env u s stmt =
    analyzeDeleteStatement s.dbms u stmt >>= execAnalyzed fun q => deleteRowsInPMemKV env s q := by
  rw [deleteRows]
  congr 1
  funext r
  cases r <;> rfl

/-- A statement on rows that is answered and changes nothing is turned down, or executed without
a change. -/
theorem exists_replyAffected_iff {α : Type} {seq : UInt8} {what : String} {w : UInt16}
    {x : Except Fault (Option α)} {f : α → Except Fault (Server × UInt64)} :
    (∃ s' reply, ((x >>= execAnalyzed f) >>= fun r => .ok (replyAffected seq what w s r)) =
        .ok (s', reply) ∧ SameData s s') ↔
      ∃ r, x = .ok r ∧ ∀ q, r = some q → ∃ s' n, f q = .ok (s', n) ∧ SameData s s' := by
  refine ⟨fun h => ?_, fun h => ?_⟩
  · obtain ⟨s', reply, h, hsame⟩ := h
    obtain ⟨r, hr, h⟩ := bind_eq_ok.1 h
    obtain ⟨r', hx, hr⟩ := bind_eq_ok.1 hr
    refine ⟨r', hx, fun q hq => ?_⟩
    rw [hq, execAnalyzed] at hr
    obtain ⟨⟨s₁, n⟩, hf, hr⟩ := bind_eq_ok.1 hr
    obtain rfl := Except.ok.inj hr
    obtain ⟨rfl, -⟩ := Prod.mk.inj (Except.ok.inj h)
    exact ⟨s₁, n, hf, hsame⟩
  · obtain ⟨r, hx, hf⟩ := h
    rw [hx, ok_bind]
    rcases r with _ | q
    · exact ⟨s, _, rfl, sameData_self s⟩
    · obtain ⟨s', n, hf, hsame⟩ := hf q rfl
      rw [execAnalyzed, hf]
      exact ⟨s', _, rfl, hsame⟩

theorem insertRowToPMemKV_quiet_iff {t : Str} {row : List TableColumn} :
    (∃ s' n, insertRowToPMemKV s t row = .ok (s', n) ∧ SameData s s') ↔
      row = [] ∨ ∃ first table vals, row.head? = some first ∧
        s.dbms.getCurDB.getTable t = some table ∧
          fillVals table row (List.replicate row.length []) = .ok vals ∧
            rowsOf s.dbms.getCurDB.dbName t s.store first.val =
              some (stringsJoin vals (str "$$")) := by
  rcases row with _ | ⟨first, row⟩
  · exact iff_of_true ⟨s, 0, rfl, sameData_self s⟩ (Or.inl rfl)
  rw [or_iff_right (List.cons_ne_nil _ _)]
  refine ⟨fun h => ?_, fun h => ?_⟩
  · obtain ⟨s', n, h, hsame⟩ := h
    obtain ⟨table, htable, h⟩ := bind_eq_ok.1 h
    obtain ⟨vals, hvals, h⟩ := bind_eq_ok.1 h
    obtain ⟨rfl, -⟩ := Prod.mk.inj (Except.ok.inj h)
    exact ⟨first, table, vals, rfl, deref_eq_ok.1 htable, hvals, sameData_setRow_iff.1 hsame⟩
  · obtain ⟨first', table, vals, hfirst, htable, hvals, hstored⟩ := h
    obtain rfl := Option.some.inj hfirst
    rw [insertRowToPMemKV_cons htable, hvals]
    exact ⟨_, _, rfl, sameData_setRow_iff.2 hstored⟩

theorem updateRowInPMemKV_quiet_iff {q : UpdateQuery} :
    (∃ s' n, updateRowInPMemKV s q = .ok (s', n) ∧ SameData s s') ↔
      rowsOf s.dbms.getCurDB.dbName q.tabName s.store q.queryValue = none ∨
        ∃ oValue table cols,
          rowsOf s.dbms.getCurDB.dbName q.tabName s.store q.queryValue = some oValue ∧
            s.dbms.getCurDB.getTable q.tabName = some table ∧
              setAt (fields oValue) (table.getColIndex q.column) q.value = .ok cols ∧
                stringsJoin cols (str "$$") = oValue := by
  cases hold : rowsOf s.dbms.getCurDB.dbName q.tabName s.store q.queryValue with
  | none =>
    rw [rowsOf] at hold
    exact iff_of_true ⟨s, 0, by simp only [updateRowInPMemKV, hold], sameData_self s⟩ (Or.inl rfl)
  | some oValue =>
    have heq : updateRowInPMemKV s q = deref (s.dbms.getCurDB.getTable q.tabName) >>= fun table =>
        setAt (fields oValue) (table.getColIndex q.column) q.value >>= fun cols =>
          .ok (s.setRow q.tabName q.queryValue (stringsJoin cols (str "$$")), 1) := by
      rw [rowsOf] at hold
      simp only [updateRowInPMemKV, hold]
      rfl
    rw [or_iff_right (Option.some_ne_none _), heq]
    refine ⟨fun h => ?_, fun h => ?_⟩
    · obtain ⟨s', n, h, hsame⟩ := h
      obtain ⟨table, htable, h⟩ := bind_eq_ok.1 h
      obtain ⟨cols, hcols, h⟩ := bind_eq_ok.1 h
      obtain ⟨rfl, -⟩ := Prod.mk.inj (Except.ok.inj h)
      exact ⟨oValue, table, cols, rfl, deref_eq_ok.1 htable, hcols,
        Option.some.inj ((sameData_setRow_iff.1 hsame).symm.trans hold)⟩
    · obtain ⟨oValue', table, cols, hsome, htable, hcols, hjoin⟩ := h
      obtain rfl := Option.some.inj hsome
      rw [htable, deref_some, ok_bind, hcols, ok_bind]
      exact ⟨_, _, rfl, sameData_setRow_iff.2 (hold.trans (congrArg some hjoin.symm))⟩

theorem deleteRowsInPMemKV_quiet_iff {env : Env} (halt : env.redis.Alternates) {q : DeleteQuery} :
    (∃ s' n, deleteRowsInPMemKV env s q = .ok (s', n) ∧ SameData s s') ↔
      (q.opType = .kOpEquals →
        rowsOf s.dbms.getCurDB.dbName q.tabName s.store q.queryValue = none ∧
          (q.queryFeild = str "1" ∧ q.queryValue = str "1" →
            (env.redis.scan s.store 0 env.objectPattern Redis.defaultCount).element = [])) := by
  obtain ⟨t, op, c, v⟩ := q
  by_cases hop : op = .kOpEquals
  · subst hop
    rw [imp_iff_right rfl]
    by_cases h1 : c = str "1" ∧ v = str "1" →
        (env.redis.scan s.store 0 env.objectPattern Redis.defaultCount).element = []
    · rw [deleteRowsInPMemKV_eq h1, and_iff_left h1]
      refine ⟨fun h => ?_, fun h => ⟨_, _, rfl, sameData_delRow_iff.2 h⟩⟩
      obtain ⟨s', n, h, hsame⟩ := h
      obtain ⟨rfl, -⟩ := Prod.mk.inj (Except.ok.inj h)
      exact sameData_delRow_iff.1 hsame
    · refine iff_of_false (fun h => ?_) fun h => h1 h.2
      rw [Classical.not_imp] at h1
      rw [deleteRowsInPMemKV_fault halt h1.1 h1.2] at h
      obtain ⟨s', n, h, -⟩ := h
      cases h
  · rw [deleteRowsInPMemKV_of_ne hop]
    exact iff_of_true ⟨s, 1, rfl, sameData_self s⟩ fun h => absurd h hop

variable {env : Env} {u : Uninit}

/-- The table of an answer exists. -/
theorem getTable_of_selectRows {stmt : SelectStatement} {rows : List (List TableColumn)} {t : Str}
    (h : selectRows env u s stmt = .ok (some (rows, t))) :
    ∃ table, s.dbms.getCurDB.getTable t = some table := by
  obtain ⟨r, hanalyze, h⟩ := bind_eq_ok.1 h
  rcases r with _ | q
  · cases h
  obtain ⟨rows', -, h⟩ := bind_eq_ok.1 h
  obtain ⟨-, rfl⟩ := Prod.mk.inj (Option.some.inj (Except.ok.inj h))
  obtain ⟨r, hr, hname⟩ := queryTab_of_analyzeSelect hanalyze
  rw [analyzeSelectStatement, Option.mem_def.1 hr, deref_some, ok_bind, hname, deref_some, ok_bind]
    at hanalyze
  split_ifs at hanalyze with hno
  · cases hanalyze
  · simpa [DBMS.hasTable, Option.ne_none_iff_exists'] using hno

/-- A statement is answered and changes nothing exactly when it is quiet. -/
theorem quiet_iff (halt : env.redis.Alternates) {seq : UInt8} {stmt : SQLStatement} :
    (∃ s' reply, execStatement env u seq s stmt = .ok (s', reply) ∧ SameData s s') ↔
      Quiet env u s stmt := by
  cases stmt with
  | create stmt =>
    refine iff_of_false (fun h => ?_) id
    obtain ⟨s', reply, h, hsame⟩ := h
    rcases replyAffected_cases h with ⟨hnone, -⟩ | ⟨n, hn⟩
    · obtain ⟨r, hr, hnone⟩ := bind_eq_ok.1 hnone
      obtain ⟨t, -, hr⟩ := bind_eq_ok.1 hr
      obtain ⟨cols, -, hr⟩ := bind_eq_ok.1 hr
      obtain rfl := Except.ok.inj hr
      cases hnone
    · obtain ⟨t, cols, rfl⟩ := createTable_cases hn
      exact not_sameData_withTable t cols hsame
  | select stmt =>
    refine ⟨fun h => ?_, fun h => ?_⟩
    · obtain ⟨s', reply, h, -⟩ := h
      obtain ⟨r, hr, -⟩ := bind_eq_ok.1 h
      exact ⟨r, hr⟩
    · obtain ⟨r, hr⟩ := h
      rw [execStatement, hr, ok_bind]
      rcases r with _ | ⟨rows, t⟩
      · exact ⟨s, _, rfl, sameData_self s⟩
      · obtain ⟨table, htable⟩ := getTable_of_selectRows hr
        simp only [sendResultSetToClient, htable, deref_some, ok_bind]
        exact ⟨s, _, rfl, sameData_self s⟩
  | insert stmt =>
    rw [execStatement, insertRow_eq]
    refine exists_replyAffected_iff.trans ?_
    simp only [insertRowToPMemKV_quiet_iff, Prod.forall]
    rfl
  | delete stmt =>
    rw [execStatement, deleteRows_eq]
    refine exists_replyAffected_iff.trans ?_
    simp only [deleteRowsInPMemKV_quiet_iff halt]
    rfl
  | update stmt =>
    rw [execStatement, updateRow_eq]
    refine exists_replyAffected_iff.trans ?_
    simp only [updateRowInPMemKV_quiet_iff]
    rfl
  | other => exact iff_of_true ⟨s, _, rfl, sameData_self s⟩ trivial

end

/-! ## Command packets -/

/-- Every statement of a run is quiet in the state it finds. -/
def QuietRun (env : Env) (seq : UInt8) : (ℕ → Uninit) → Server → List SQLStatement → Prop
  | _, _, [] => True
  | u, s, stmt :: stmts => Quiet env (u 0) s stmt ∧ ∀ s' reply,
      execStatement env (u 0) (seq + 1) s stmt = .ok (s', reply) →
        QuietRun env seq (fun i => u (i + 1)) s' stmts

/-- The packet is handled, and leaves the data as it was, also after each statement it executes. -/
def Untouched (parse : List UInt8 → Except Str (List SQLStatement)) (env : Env) (u : ℕ → Uninit)
    (s : Server) (q : Wire.Packet) : Prop :=
  (∃ s', (handlePacket parse env u s q.bytes).result = .ok s' ∧ SameData s s') ∧
    ∀ stmts ∈ (handlePacket parse env u s q.bytes).executed, ∀ pre, pre <+: stmts →
      ∃ s', (exec env u q.seq s pre).2 = .ok s' ∧ SameData s s'

theorem SameData.trans {s s' s'' : Server} (h : SameData s s') (h' : SameData s' s'') :
    SameData s s'' :=
  ⟨h'.1.trans h.1, fun k => (h'.2 k).trans (h.2 k)⟩

theorem SameData.symm {s s' : Server} (h : SameData s s') : SameData s' s :=
  ⟨h.1.symm, fun k => (h.2 k).symm⟩

theorem exec_cons_of_ok {env : Env} {u : ℕ → Uninit} {seq : UInt8} {s s' : Server}
    {stmt : SQLStatement} {reply : List (List UInt8)}
    (h : execStatement env (u 0) (seq + 1) s stmt = .ok (s', reply)) (stmts : List SQLStatement) :
    (exec env u seq s (stmt :: stmts)).2 = (exec env (fun i => u (i + 1)) seq s' stmts).2 := by
  rw [exec, h]

section
variable {env : Env} (halt : env.redis.Alternates)
include halt

/-- A run changes nothing on the way exactly when its statements are quiet. -/
theorem quietRun_iff {seq : UInt8} {s₀ : Server} : ∀ {stmts : List SQLStatement} {u : ℕ → Uninit}
    {s : Server}, SameData s₀ s →
      ((∀ pre, pre <+: stmts → ∃ s', (exec env u seq s pre).2 = .ok s' ∧ SameData s₀ s') ↔
        QuietRun env seq u s stmts)
  | [], u, s, h => by
    refine iff_of_true (fun pre hpre => ⟨s, ?_, h⟩) trivial
    rw [List.prefix_nil.1 hpre]
    rfl
  | stmt :: stmts, u, s, h => by
    rw [QuietRun, ← @quiet_iff s env (u 0) halt (seq + 1) stmt]
    refine ⟨fun hall => ?_, fun hquiet => ?_⟩
    · obtain ⟨s₁, hone, hsame⟩ := hall [stmt] (List.cons_prefix_cons.2 ⟨rfl, List.nil_prefix⟩)
      cases hstmt : execStatement env (u 0) (seq + 1) s stmt with
      | error e =>
        rw [exec, hstmt] at hone
        cases hone
      | ok r =>
        rw [exec_cons_of_ok hstmt] at hone
        obtain rfl := Except.ok.inj hone
        refine ⟨⟨r.1, r.2, rfl, h.symm.trans hsame⟩, fun s' reply heq => ?_⟩
        obtain rfl := Except.ok.inj heq
        refine (quietRun_iff hsame).1 fun pre hpre => ?_
        rw [← exec_cons_of_ok hstmt]
        exact hall (stmt :: pre) (List.cons_prefix_cons.2 ⟨rfl, hpre⟩)
    · obtain ⟨⟨s₁, reply, hstmt, hsame⟩, hrest⟩ := hquiet
      intro pre hpre
      rcases List.prefix_cons_iff.1 hpre with rfl | ⟨pre', rfl, hpre'⟩
      · exact ⟨s, rfl, h⟩
      · rw [exec_cons_of_ok hstmt]
        exact (quietRun_iff (h.trans hsame)).2 (hrest s₁ reply hstmt) pre' hpre'

/-- A packet touches no data exactly when it is a handshake response that can be read, or its
text is the version query, does not parse, or is a run of quiet statements. Its command byte,
the first of the payload, does not matter. -/
theorem untouched_iff (parse : List UInt8 → Except Str (List SQLStatement)) (u : ℕ → Uninit)
    (s : Server) (q : Wire.Packet) {command : UInt8} {text : List UInt8}
    (hq : q.payload = command :: text) :
    Untouched parse env u s q ↔
      (q.seq = initPacketCnt → ∃ verdict, AuthPacket.unPack q.payload = .ok verdict) ∧
        (q.seq ≠ initPacketCnt → text ≠ versionQuery → ∀ stmts, parse text = .ok stmts →
          QuietRun env q.seq u s stmts) := by
  obtain ⟨a, b, d, hbytes⟩ : ∃ a b d, q.bytes = a :: b :: d :: q.seq :: command :: text :=
    ⟨_, _, _, by rw [Wire.Packet.bytes, hq]; rfl⟩
  rw [Untouched, hbytes, handlePacket, hq]
  by_cases hseq : q.seq = initPacketCnt
  · simp only [if_pos hseq]
    cases hunpack : AuthPacket.unPack (command :: text) with
    | error e =>
      refine iff_of_false (fun h => ?_) fun h => ?_
      · obtain ⟨⟨s', h, -⟩, -⟩ := h
        cases h
      · obtain ⟨verdict, h⟩ := h.1 hseq
        cases h
    | ok verdict =>
      exact iff_of_true ⟨⟨s, rfl, sameData_self s⟩, fun _ h => absurd h (Option.not_mem_none _)⟩
        ⟨fun _ => ⟨verdict, rfl⟩, fun h => absurd hseq h⟩
  rw [and_iff_right fun h => absurd h hseq, imp_iff_right hseq]
  simp only [if_neg hseq]
  by_cases htext : text = versionQuery
  · rw [if_neg (not_not_intro htext)]
    exact iff_of_true ⟨⟨s, rfl, sameData_self s⟩, fun _ h => absurd h (Option.not_mem_none _)⟩
      fun h => absurd htext h
  rw [if_pos htext, imp_iff_right htext]
  cases hparse : parse text with
  | error e =>
    refine iff_of_true ⟨⟨s, rfl, sameData_self s⟩, fun _ h => absurd h (Option.not_mem_none _)⟩
      fun stmts h => ?_
    cases h
  | ok stmts =>
    simp only [Option.mem_some_iff, forall_eq', Except.ok.injEq]
    rw [← quietRun_iff halt (sameData_self s)]
    exact and_iff_right_of_imp fun h => h stmts (List.prefix_refl _)

end

/-- COM_INIT_DB with the name of a database. -/
def initDbPacket : Wire.Packet :=
  ⟨0, 2 :: (str "default").bytes, by decide⟩

theorem untouched_initDb :
    Untouched parseShowTables Env.whole (fun _ => .zero) classServer initDbPacket := by
  refine (@untouched_iff Env.whole Redis.whole_alternates parseShowTables (fun _ => .zero)
    classServer initDbPacket 2 (str "default").bytes rfl).2 ⟨fun h => ?_, fun _ _ stmts h => ?_⟩
  · exact absurd h (by decide)
  · cases h

/-- A parser of one text, the INSERT of the test script. -/
def parseTomInsert (text : List UInt8) : Except Str (List SQLStatement) :=
  if text = (str "INSERT INTO classtab (Name, Class, Score) VALUES ('Tom', 'B', '93')").bytes then
    .ok [.insert tomInsert]
  else .error (str "syntax error")

/-- COM_STMT_PREPARE with this text. -/
def preparePacket : Wire.Packet :=
  ⟨0, 22 :: (str "INSERT INTO classtab (Name, Class, Score) VALUES ('Tom', 'B', '93')").bytes,
    by decide⟩

/-- Preparing a statement executes it. -/
theorem not_untouched_prepare : Reachable Env.whole classServer ∧
    ¬Untouched parseTomInsert Env.whole (fun _ => .zero) classServer preparePacket := by
  refine ⟨reachable_classServer, fun h => ?_⟩
  obtain ⟨s', hresult, hsame⟩ := h.1
  have hexec : (handlePacket parseTomInsert Env.whole (fun _ => .zero) classServer
      preparePacket.bytes).result =
        (exec Env.whole (fun _ => .zero) 0 classServer [.insert tomInsert]).2 := rfl
  rw [hexec, exec_cons_of_ok execStatement_tomInsert] at hresult
  obtain rfl := Except.ok.inj hresult
  exact absurd (hsame.2 (rowKey defaultDatabaseName (str "classtab") (str "Tom"))) (by decide)

end UhpSql
