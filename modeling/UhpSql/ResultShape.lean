import UhpSql.ReadYourWrites
import UhpSql.RowValues

/-!
# The shape of result sets

`ResultShape` : a reply announces as many columns as the table has, describes them in schema
order, and every row packet holds as many strings. The announced number is one byte, and a row
is as wide as its stored string splits. `hasShape_iff` says what this means for a state, and
`shape_iff` for a run of INSERTs and UPDATEs : the columns and values of every statement must make
a row of the right width.
-/

namespace UhpSql

/-! ## Replies -/

/-- The payload of a field packet. -/
def fieldPayload (db : DataBase) (queryTab colName : Str) : List UInt8 :=
  ({ name := colName
     type := Protocol.typeVarchar
     table := queryTab
     orgTable := queryTab
     dataBase := db.dbName
     orgName := colName
     columnLength := 80
     charset := Protocol.characterSetUtf8
     decimals := 0
     flags := 0 } : Protocol.FieldPacket).pack

/-- The number of columns, a field packet for each, EOF, rows of as many strings, EOF. -/
def ResultShape (db : DataBase) (table : DataTable) (queryTab : Str)
    (reply : List (List UInt8)) : Prop :=
  ∃ header eof rows, reply.map (List.drop 4) =
      header :: (table.colNames.map (fieldPayload db queryTab)) ++ eof :: rows ++ [eof] ∧
    Wire.decode header = some (table.cols.length, []) ∧
      ∀ row ∈ rows, (Wire.decodeStrings table.cols.length row).isSome

/-- SELECT on the table is answered with result sets of the right shape. -/
def HasShape (env : Env) (table : DataTable) (t : Str) (s : Server) : Prop :=
  ∀ u seq sel s' reply, sel.From t → execStatement env u seq s (.select sel) = .ok (s', reply) →
    ResultShape s.dbms.getCurDB table t reply

theorem map_drop_packets (payloads : List (List UInt8)) :
    ∀ seq, (packets seq payloads).map (List.drop 4) = payloads := by
  induction payloads with
  | nil => exact fun _ => rfl
  | cons payload payloads ih => exact fun seq => congrArg (payload :: ·) (ih (seq + 1))

theorem toNat_getColCount {table : DataTable} (h : table.cols.length < 256) :
    table.getColCount.toNat = table.cols.length := by
  rw [DataTable.getColCount, UInt8.toNat_ofNat', Nat.mod_eq_of_lt (by omega)]

/-- The fields of a table of few columns are all described. -/
theorem map_pack_fieldPacket (db : DataBase) {table : DataTable} (queryTab : Str)
    (h : table.cols.length < 256) :
    ((List.range table.getColCount.toNat).map fun i => (fieldPacket db table queryTab i).pack) =
      table.colNames.map (fieldPayload db queryTab) := by
  rw [toNat_getColCount h, ← DataTable.length_colNames]
  refine List.ext_getElem (by simp) fun i hi hi' => ?_
  have hlt : i < table.colNames.length := by simpa using hi
  simp [fieldPacket, fieldPayload, DataTable.indexCol_eq, List.getElem?_eq_getElem hlt]

/-- One byte is a length-encoded integer when it is below 251. -/
theorem decode_ofNat_iff (n : ℕ) : Wire.decode [UInt8.ofNat n] = some (n, []) ↔ n ≤ 250 := by
  refine ⟨fun h => ?_, fun h => ?_⟩
  · have htake : ∀ k, Wire.takeNat (k + 1) [] = none := fun k => rfl
    simp only [Wire.decode, htake] at h
    split_ifs at h with h1 h2 h3 h4
    have hlt := UInt8.lt_iff_toNat_lt.1 h4
    rw [(Prod.mk.inj (Option.some.inj h)).1] at hlt
    exact Nat.le_of_lt_succ hlt
  · have henc : Wire.encode n = [UInt8.ofNat n] := by
      rw [Wire.encode, if_pos (by omega)]
    rw [← henc, ← List.append_nil (Wire.encode n), Wire.decode_encode (by omega)]

/-- A result set has the right shape when the table is not too wide and every row of the set
has a value for each column. -/
theorem resultShape_iff {db : DataBase} {table : DataTable} {queryTab : Str}
    {rows : List (List TableColumn)}
    (hsize : ∀ row ∈ rows, ∀ c ∈ row, c.val.length < 2 ^ 64) (seq : UInt8) :
    ResultShape db table queryTab (packets seq (resultSetPayloads db table queryTab rows)) ↔
      table.cols.length ≤ 250 ∧ ∀ row ∈ rows, row.length = table.cols.length := by
  have hrow : ∀ row ∈ rows, (Wire.decodeStrings table.cols.length
      (Protocol.rowPack (row.map TableColumn.val))).isSome ↔ row.length = table.cols.length := by
    intro row hmem
    rw [Protocol.decodeStrings_rowPack, List.length_map]
    · split_ifs with h <;> simp [h]
    · exact List.forall_mem_map.2 (hsize row hmem)
  unfold ResultShape
  rw [map_drop_packets, resultSetPayloads]
  refine ⟨fun ⟨header, eof, rows', heq, hheader, hrows'⟩ => ?_, fun ⟨hn, hlen⟩ => ?_⟩
  · simp only [List.cons_append, List.cons.injEq] at heq
    obtain ⟨rfl, heq⟩ := heq
    have hn := (decode_ofNat_iff _).1 hheader
    refine ⟨hn, fun row hmem => (hrow row hmem).1 (hrows' _ ?_)⟩
    rw [map_pack_fieldPacket db queryTab (by omega), List.append_assoc, List.append_assoc] at heq
    have hrest := List.append_cancel_left heq
    obtain ⟨-, hrest⟩ := List.cons.inj hrest
    obtain ⟨hrows, -⟩ := List.append_inj' hrest rfl
    exact hrows ▸ List.mem_map_of_mem hmem
  · refine ⟨_, Protocol.eofPack 0 2,
      rows.map fun row => Protocol.rowPack (row.map TableColumn.val), ?_,
      (decode_ofNat_iff _).2 hn, ?_⟩
    · rw [map_pack_fieldPacket db queryTab (by omega)]
      rfl
    · exact List.forall_mem_map.2 fun row hmem => (hrow row hmem).2 (hlen row hmem)

/-! ## The rows SELECT shows -/

theorem mem_of_mem_taken {stop : ℕ → Bool} {e : Entry} : ∀ {i : ℕ} {es : List Entry},
    e ∈ taken stop i es → e ∈ es
  | _, [], h => h
  | i, e' :: es, h => by
    rw [taken] at h
    split_ifs at h
    · exact absurd h List.not_mem_nil
    · rcases List.mem_cons.1 h with rfl | h
      · exact List.mem_cons_self
      · exact List.mem_cons_of_mem _ (mem_of_mem_taken h)

section
variable {env : Env} (henv : env.redis.Sound) {s : Server} {t : Str} {table : DataTable}
  (hT : s.dbms.getCurDB.getTable t = some table)
include henv hT

/-- A loop over a scan of the table shows stored entries. -/
theorem exists_entry_of_scanLoop {stop : ℕ → Bool} {keep : Str → Bool} {q : Str} {count : ℕ}
    {rows : List (List TableColumn)}
    (h : scanLoop s.dbms t stop keep 0 (env.redis.scan s.store 0
      (dataPrefix s.dbms.getCurDB.dbName t ++ q ++ str "*") count).element = .ok rows) :
    ∀ row ∈ rows, ∃ k v, DataKey k ∧ s.store.get k = some v ∧ row = decodeRow table v := by
  rw [henv.alternates.element_eq, scanLoop_flat hT] at h
  obtain rfl := Except.ok.inj h
  refine List.forall_mem_map.2 fun ⟨k, v⟩ he => ?_
  have hmem := henv.subset _ _ _ _ (mem_of_mem_taken (List.mem_filter.1 he).1)
  obtain ⟨hget, hglob⟩ := Store.mem_matching.1 hmem
  exact ⟨k, v, dataKey_of_globMatch hglob, hget, rfl⟩

/-- SELECT shows stored entries. -/
theorem exists_entry_of_selectRows {u : Uninit} {sel : SelectStatement}
    {rows : List (List TableColumn)} (h : selectRows env u s sel = .ok (some (rows, t))) :
    ∀ row ∈ rows, ∃ k v, DataKey k ∧ s.store.get k = some v ∧ row = decodeRow table v := by
  obtain ⟨q, -, h⟩ := bind_eq_ok.1 h
  rcases q with _ | q
  · exact absurd h nofun
  obtain ⟨rows', hrows, h⟩ := bind_eq_ok.1 h
  obtain ⟨rfl, rfl⟩ := Prod.mk.inj (Option.some.inj (Except.ok.inj h))
  unfold selectRowsFromPMemKV at hrows
  simp only at hrows
  have hall : ∀ {stop keep rows}, scanLoop s.dbms q.queryTab stop keep 0 (env.redis.scan s.store 0
      (dataPrefix s.dbms.getCurDB.dbName q.queryTab ++ str "*") scanCount).element = .ok rows →
        ∀ row ∈ rows, ∃ k v, DataKey k ∧ s.store.get k = some v ∧ row = decodeRow table v := by
    intro stop keep rows h
    rw [← List.append_nil (dataPrefix _ _)] at h
    exact exists_entry_of_scanLoop henv hT h
  split at hrows
  · exact hall hrows
  · split at hrows
    · split at hrows
      · obtain rfl := Except.ok.inj hrows
        exact fun _ h => absurd h List.not_mem_nil
      · next v hget =>
        rw [decodeRowResult_eq hT] at hrows
        obtain rfl := Except.ok.inj hrows
        exact fun row hrow => ⟨_, v, dataKey_rowKey .., hget, List.mem_singleton.1 hrow⟩
    · exact hall hrows
    · obtain ⟨v, -, hrows⟩ := bind_eq_ok.1 hrows
      exact exists_entry_of_scanLoop henv hT hrows
    · obtain rfl := Except.ok.inj hrows
      exact fun _ h => absurd h List.not_mem_nil

end

/-- A table that is there is not turned down. -/
theorem hasTable_of_analyzeSelect {d : DBMS} {u : Uninit} {sel : SelectStatement} {t : Str}
    (hsel : sel.From t) (h : analyzeSelectStatement d u sel = .ok none) : d.hasTable t = false := by
  obtain ⟨r, hr, hname⟩ := hsel
  unfold analyzeSelectStatement at h
  rw [hr] at h
  simp only [deref_some, ok_bind, hname] at h
  split_ifs at h with hT
  · simpa using hT
  · cases hexpr : sel.whereClause with
    | none =>
      rw [hexpr] at h
      exact absurd h nofun
    | some expr =>
      rw [hexpr] at h
      obtain ⟨ops, -, h⟩ := bind_eq_ok.1 h
      obtain ⟨limit, -, h⟩ := bind_eq_ok.1 h
      exact absurd h nofun

/-- SELECT on a table that is there is answered with a result set of the table. -/
theorem execStatement_select {env : Env} {u : Uninit} {seq : UInt8} {s s' : Server}
    {reply : List (List UInt8)} {sel : SelectStatement} {t : Str} {table : DataTable}
    (hT : s.dbms.getCurDB.getTable t = some table) (hsel : sel.From t)
    (h : execStatement env u seq s (.select sel) = .ok (s', reply)) :
    ∃ rows, selectRows env u s sel = .ok (some (rows, t)) ∧
      reply = packets 1 (resultSetPayloads s.dbms.getCurDB table t rows) := by
  obtain ⟨r, hr, h⟩ := bind_eq_ok.1 h
  rcases r with _ | ⟨rows, tab⟩
  · obtain ⟨q, hq, hr⟩ := bind_eq_ok.1 hr
    rcases q with _ | q
    · have hno := hasTable_of_analyzeSelect hsel hq
      rw [hasTable_of_getTable hT] at hno
      exact absurd hno nofun
    · obtain ⟨rows, -, hr⟩ := bind_eq_ok.1 hr
      exact absurd hr nofun
  · obtain ⟨reply', hreply, h⟩ := bind_eq_ok.1 h
    obtain ⟨-, rfl⟩ := Prod.mk.inj (Except.ok.inj h)
    obtain ⟨q, hq, hr'⟩ := bind_eq_ok.1 hr
    rcases q with _ | q
    · exact absurd hr' nofun
    obtain ⟨rows', -, hr'⟩ := bind_eq_ok.1 hr'
    obtain ⟨rfl, rfl⟩ := Prod.mk.inj (Option.some.inj (Except.ok.inj hr'))
    obtain ⟨ref, href, hname⟩ := queryTab_of_analyzeSelect hq
    obtain ⟨ref', href', hname'⟩ := hsel
    obtain rfl := Option.some.inj (href.symm.trans href')
    obtain rfl := Option.some.inj (hname.symm.trans hname')
    obtain ⟨table', htable, hreply⟩ := bind_eq_ok.1 hreply
    obtain rfl := Option.some.inj (hT.symm.trans (deref_eq_ok.1 htable))
    exact ⟨_, hr, (Except.ok.inj hreply).symm⟩

/-! ## States of the right shape -/

@[simp] theorem length_decodeRow (table : DataTable) (val : Str) :
    (decodeRow table val).length = (fields val).length := by
  simp [decodeRow]

/-- The values shown are no longer than the stored string. -/
theorem length_val_of_mem_decodeRow {table : DataTable} {val : Str} {c : TableColumn}
    (hc : c ∈ decodeRow table val) : c.val.length ≤ val.length := by
  have hmem : c.val ∈ fields val := by
    rw [← map_val_decodeRow table val]
    exact List.mem_map_of_mem hc
  exact Delimited.length_le_of_mem_split (by decide) hmem

/-- The state of a session on one table : the table is there, all rows are its own, and no
row is longer than `size_t` counts. -/
structure OnlyTable (t : Str) (table : DataTable) (s : Server) : Prop where
  getTable : s.dbms.getCurDB.getTable t = some table
  rows : ∀ k v, DataKey k → s.store.get k = some v → ∃ pk, k = rowKey s.dbms.getCurDB.dbName t pk
  size : ∀ k v, DataKey k → s.store.get k = some v → v.length < 2 ^ 64

/-- Every row is as wide as the table, and the table is not too wide. -/
theorem hasShape_iff {env : Env} (henv : env.redis.Sound) {s : Server} {t : Str}
    {table : DataTable} (h : OnlyTable t table s) :
    HasShape env table t s ↔ table.cols.length ≤ 250 ∧
      ∀ pk v, rowsOf s.dbms.getCurDB.dbName t s.store pk = some v →
        (fields v).length = table.cols.length := by
  refine ⟨fun hshape => ?_, fun ⟨hn, hrows⟩ u seq sel s' reply hsel hexec => ?_⟩
  · -- `=` shows the row of each key
    have heq : ∀ pk, table.cols.length ≤ 250 ∧
        ∀ v ∈ rowsOf s.dbms.getCurDB.dbName t s.store pk,
          (fields v).length = table.cols.length := by
      intro pk
      have hexec : execStatement env .zero 1 s (.select (selectWhere t [] .eq pk)) =
          .ok (s, packets 1 (resultSetPayloads s.dbms.getCurDB table t
            ((rowsOf s.dbms.getCurDB.dbName t s.store pk).toList.map (decodeRow table)))) := by
        rw [execStatement, selectRows_eq env .zero [] pk h.getTable, ok_bind]
        simp only [sendResultSetToClient, h.getTable, deref_some, ok_bind, pure_eq_ok]
      have hres := hshape .zero 1 _ _ _ ⟨_, rfl, rfl⟩ hexec
      rw [resultShape_iff] at hres
      · refine ⟨hres.1, fun v hv => ?_⟩
        rw [← length_decodeRow table]
        exact hres.2 _ (List.mem_map_of_mem (Option.mem_toList.2 hv))
      · refine List.forall_mem_map.2 fun v hv c hc => ?_
        have hv' := h.size _ v (dataKey_rowKey ..) (Option.mem_toList.1 hv)
        exact (length_val_of_mem_decodeRow hc).trans_lt hv'
    exact ⟨(heq []).1, fun pk => (heq pk).2⟩
  · obtain ⟨rows, hrows', rfl⟩ := execStatement_select h.getTable hsel hexec
    have hentry := exists_entry_of_selectRows henv h.getTable hrows'
    refine (resultShape_iff (fun row hrow c hc => ?_) 1).2 ⟨hn, fun row hrow => ?_⟩
    · obtain ⟨k, v, hk, hget, rfl⟩ := hentry row hrow
      exact (length_val_of_mem_decodeRow hc).trans_lt (h.size k v hk hget)
    · obtain ⟨k, v, hk, hget, rfl⟩ := hentry row hrow
      obtain ⟨pk, rfl⟩ := h.rows k v hk hget
      rw [length_decodeRow, hrows pk v hget]

/-! ## Runs of INSERT and UPDATE -/

/-- The INSERT names no column, or the values it gives are read as a row of the table : one for each
column named, with the `$$` in them and what follows the last of these reckoned in. -/
def InsertFits (table : DataTable) (stmt : InsertStatement) : Prop :=
  stmt.pairs ≠ [] → readCount (rowValues table stmt.pairs) = table.cols.length

/-- An INSERT of values without `$` fits if it names as many columns as the table has and the last of
the fields is not blank, or one more and it is. -/
theorem insertFits_iff_of_notMem {table : DataTable} {stmt : InsertStatement}
    (h : ∀ c ∈ stmt.pairs, dollar ∉ c.val) : InsertFits table stmt ↔
      (stmt.pairs ≠ [] → stmt.pairs.length = table.cols.length +
        if trim (valueAt table stmt.pairs (stmt.pairs.length - 1)) = [] then 1 else 0) := by
  refine forall_congr' fun hne => ?_
  have hpos := List.length_pos_iff.2 hne
  rw [readCount_rowValues h]
  split_ifs <;> omega

/-- The row stored under the WHERE value, if there is one, is still read as a row of the table with
the first SET value in its place. -/
def UpdateFits (table : DataTable) (rows : Str → Option Str) (stmt : UpdateStatement) : Prop :=
  ∀ change ∈ stmt.change, ∀ old, rows change.key = some old →
    readCount ((fields old).set (table.getColIndex change.column).toNat change.value) =
      table.cols.length

/-- The statement keeps the rows as wide as the table. -/
def StepFits (table : DataTable) (rows : Str → Option Str) : SQLStatement → Prop
  | .insert stmt => InsertFits table stmt
  | .update stmt => UpdateFits table rows stmt
  | _ => True

theorem stepFits_iff {table : DataTable} {rows : Str → Option Str} {stmt : SQLStatement} :
    StepFits table rows stmt ↔
      ∀ row ∈ stmt.values table rows, readCount row.2 = table.cols.length := by
  cases stmt with
  | insert stmt =>
    rw [StepFits, InsertFits, SQLStatement.values]
    cases stmt.pairs <;> simp
  | update stmt =>
    rw [StepFits, UpdateFits, SQLStatement.values]
    cases stmt.change with
    | none => simp
    | some change =>
      cases hrow : rows change.key <;> simp [hrow]
  | create | select | delete | other => simp [StepFits, SQLStatement.values]

section
variable {env : Env} {u : Uninit} {seq : UInt8} {s s' : Server} {reply : List (List UInt8)}
  {t : Str} {table : DataTable}

theorem OnlyTable.setRow (h : OnlyTable t table s) {pk val : Str}
    (hsize : ∀ k v, (s.setRow t pk val).store.get k = some v → v.length < 2 ^ 64) :
    OnlyTable t table (s.setRow t pk val) := by
  refine ⟨h.getTable, fun k v hk hv => ?_, fun k v _ hv => hsize k v hv⟩
  rw [Server.setRow, Store.get_set] at hv
  split_ifs at hv with hkey
  · exact ⟨pk, hkey⟩
  · exact h.rows k v hk hv

/-- A step keeps the shape exactly when what it stores is read as wide as the table. -/
theorem hasShape_step_iff (henv : env.redis.Sound) {stmt : SQLStatement} (hs : OnlyTable t table s)
    (hs' : OnlyTable t table s') (hstmt : stmt.Writes t)
    (h : execStatement env u seq s stmt = .ok (s', reply)) (hshape : HasShape env table t s) :
    HasShape env table t s' ↔
      StepFits table (rowsOf s.dbms.getCurDB.dbName t s.store) stmt := by
  obtain rfl := execStatement_values hs.getTable hstmt h
  rw [stepFits_iff]
  cases hv : stmt.values table (rowsOf s.dbms.getCurDB.dbName t s.store) with
  | none => exact iff_of_true hshape nofun
  | some row =>
    obtain ⟨hn, hrows⟩ := (hasShape_iff henv hs).1 hshape
    rw [hv] at hs'
    have hupdate := rowsOf_setRow s t row.1 (stringsJoin row.2 (str "$$"))
    refine (hasShape_iff henv hs').trans ⟨fun ⟨_, hall⟩ row' hrow' => ?_, fun hfits => ⟨hn, ?_⟩⟩
    · obtain rfl := Option.some.inj hrow'
      rw [← length_fields_stringsJoin]
      refine hall row.1 _ ?_
      rw [Option.elim_some]
      exact hupdate ▸ Function.update_self ..
    · intro pk v hv
      rw [Option.elim_some] at hv
      have hv' : Function.update (rowsOf s.dbms.getCurDB.dbName t s.store) row.1
          (some (stringsJoin row.2 (str "$$"))) pk = some v := hupdate ▸ hv
      by_cases hpk : pk = row.1
      · rw [hpk, Function.update_self] at hv'
        rw [← Option.some.inj hv', length_fields_stringsJoin]
        exact hfits row rfl
      · rw [Function.update_of_ne hpk] at hv'
        exact hrows pk v hv'

end

/-- Accepted INSERTs and UPDATEs on the table, each with the state after it. -/
inductive RowRun (env : Env) (t : Str) : Server → List (Uninit × SQLStatement × Server) → Prop
  | nil (s : Server) : RowRun env t s []
  | cons {s s' : Server} {u : Uninit} {seq : UInt8} {stmt : SQLStatement}
      {reply : List (List UInt8)} {run : List (Uninit × SQLStatement × Server)} :
    stmt.Writes t → execStatement env u seq s stmt = .ok (s', reply) → RowRun env t s' run →
      RowRun env t s ((u, stmt, s') :: run)

/-- Every statement of the run fits the rows it finds. -/
def RunFits (table : DataTable) (t : Str) :
    Server → List (Uninit × SQLStatement × Server) → Prop
  | _, [] => True
  | s, (_, stmt, s') :: run =>
    StepFits table (rowsOf s.dbms.getCurDB.dbName t s.store) stmt ∧ RunFits table t s' run

/-- No stored string is longer than `size_t` counts. -/
def Server.Representable (s : Server) : Prop :=
  ∀ k v, s.store.get k = some v → v.length < 2 ^ 64

section
variable {env : Env} (henv : env.redis.Sound) {t : Str} {table : DataTable}
include henv

/-- A run from a state of the right shape keeps the shape exactly when every step does. -/
theorem RowRun.forall_hasShape_iff : ∀ {run : List (Uninit × SQLStatement × Server)} {s : Server},
    RowRun env t s run → OnlyTable t table s → (∀ x ∈ run, x.2.2.Representable) →
      HasShape env table t s → ((∀ x ∈ run, HasShape env table t x.2.2) ↔ RunFits table t s run)
  | [], _, _, _, _, _ => by simp [RunFits]
  | (u, stmt, s') :: run, s, .cons hstmt h hrun, hs, hsize, hshape => by
    have hs' : OnlyTable t table s' := by
      have hsize' := hsize _ List.mem_cons_self
      obtain rfl := execStatement_values hs.getTable hstmt h
      cases hv : stmt.values table (rowsOf s.dbms.getCurDB.dbName t s.store) with
      | none => exact hs
      | some row =>
        rw [hv] at hsize'
        exact hs.setRow hsize'
    rw [List.forall_mem_cons, RunFits, hasShape_step_iff henv hs hs' hstmt h hshape]
    refine and_congr_right fun hfits => ?_
    exact hrun.forall_hasShape_iff hs' (fun x hx => hsize x (List.mem_cons_of_mem _ hx))
      ((hasShape_step_iff henv hs hs' hstmt h hshape).2 hfits)

end

/-! ## The shape of result sets -/

/-- A fresh server with one table. -/
def tableServer (ip t : Str) (cols : List ColumnDefinition) : Server :=
  (Server.fresh ip).withTable t (ofDefinitions cols)

theorem onlyTable_tableServer (ip t : Str) (cols : List ColumnDefinition) :
    OnlyTable t ⟨t, ofDefinitions cols⟩ (tableServer ip t cols) := by
  have hnone : ∀ k v, DataKey k → (tableServer ip t cols).store.get k ≠ some v := by
    intro k v hk
    rw [tableServer, get_withTable hk, get_fresh hk]
    exact nofun
  refine ⟨?_, fun k v hk h => absurd h (hnone k v hk), fun k v hk h => absurd h (hnone k v hk)⟩
  simp [tableServer, DataBase.getTable_addTable]

/-- Result sets have the right shape in every state of a run exactly when the table has at most 250
columns and the values of every INSERT and UPDATE are read as a row of the table. -/
theorem shape_iff {env : Env} (henv : env.redis.Sound) (ip t : Str) (cols : List ColumnDefinition)
    {run : List (Uninit × SQLStatement × Server)} (hrun : RowRun env t (tableServer ip t cols) run)
    (hsize : ∀ x ∈ run, x.2.2.Representable) :
    (HasShape env ⟨t, ofDefinitions cols⟩ t (tableServer ip t cols) ∧
        ∀ x ∈ run, HasShape env ⟨t, ofDefinitions cols⟩ t x.2.2) ↔
      cols.length ≤ 250 ∧ RunFits ⟨t, ofDefinitions cols⟩ t (tableServer ip t cols) run := by
  have hs := onlyTable_tableServer ip t cols
  have hstart : HasShape env ⟨t, ofDefinitions cols⟩ t (tableServer ip t cols) ↔
      cols.length ≤ 250 := by
    have hlen : (ofDefinitions cols).length = cols.length := List.length_map ..
    rw [hasShape_iff henv hs, hlen, and_iff_left]
    intro pk v hv
    have hnone : rowsOf (tableServer ip t cols).dbms.getCurDB.dbName t (tableServer ip t cols).store
        pk = none :=
      (get_withTable (dataKey_rowKey ..) _ _ _).trans (get_fresh (dataKey_rowKey ..) ip)
    rw [hnone] at hv
    exact absurd hv nofun
  rw [hstart]
  exact and_congr_right fun hn => hrun.forall_hasShape_iff henv hs hsize (hstart.2 hn)

theorem representable_tomServer : tomServer.Representable := by
  have hall : ∀ e ∈ tomServer.store.toList, e.2.length < 2 ^ 64 := by decide
  exact fun k v h => hall (k, v) (Store.mem_toList.2 h)

/-- The run of one INSERT with a value for each column. -/
def tomRun : List (Uninit × SQLStatement × Server) :=
  [(.zero, .insert tomInsert, tomServer)]

theorem rowRun_tomRun : RowRun Env.whole (str "classtab")
    (tableServer (str "127.0.0.1") (str "classtab") classtab) tomRun :=
  .cons rfl execStatement_tomInsert (.nil _)

theorem runFits_tomRun :
    RunFits ⟨str "classtab", ofDefinitions classtab⟩ (str "classtab") classServer tomRun :=
  ⟨(insertFits_iff_of_notMem (by decide)).2 fun _ => by decide, trivial⟩

theorem shape_tom :
    HasShape Env.whole ⟨str "classtab", ofDefinitions classtab⟩ (str "classtab")
        (tableServer (str "127.0.0.1") (str "classtab") classtab) ∧
      ∀ x ∈ tomRun, HasShape Env.whole ⟨str "classtab", ofDefinitions classtab⟩ (str "classtab")
        x.2.2 :=
  (shape_iff Redis.whole_fullScan.toSound (str "127.0.0.1") (str "classtab") classtab rowRun_tomRun
    (List.forall_mem_singleton.2 representable_tomServer)).2 ⟨by decide, runFits_tomRun⟩

/-- `INSERT INTO classtab (Name) VALUES ('Tom')`. -/
def shortInsert : InsertStatement :=
  insertValues (str "classtab") [str "Name"] [str "Tom"]

/-- A row of one field in a table of three columns. -/
theorem not_shape_shortInsert : ∃ s',
    RowRun Env.whole (str "classtab") (tableServer (str "127.0.0.1") (str "classtab") classtab)
      [(.zero, .insert shortInsert, s')] ∧
    ¬HasShape Env.whole ⟨str "classtab", ofDefinitions classtab⟩ (str "classtab") s' := by
  have hexec : execStatement Env.whole .zero 1 classServer (.insert shortInsert) =
      .ok (classServer.setRow (str "classtab") (str "Tom") (str "Tom"),
        sendOkMessageToClient 1 1 0 2 0) := rfl
  refine ⟨_, .cons rfl hexec (.nil _), fun h => ?_⟩
  have hall : ∀ e ∈ (classServer.setRow (str "classtab") (str "Tom") (str "Tom")).store.toList,
      e.2.length < 2 ^ 64 := by decide
  have hs := (onlyTable_tableServer (str "127.0.0.1") (str "classtab") classtab).setRow
    fun k v hget => hall (k, v) (Store.mem_toList.2 hget)
  have hrows := ((hasShape_iff Redis.whole_fullScan.toSound hs).1 h).2 (str "Tom") (str "Tom")
  exact absurd (hrows (by decide)) (by decide)

end UhpSql
