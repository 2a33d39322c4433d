import UhpSql.InsertExact
import UhpSql.KeyedTables
import UhpSql.Machine
import UhpSql.Restart
import UhpSql.UpdateExact
import UhpSql.Isolation

/-!
# The server as a database of keyed tables

`Holds s db` : the catalog and the store of a server hold the tables and rows of the database `db`.
A row is stored under its key as its fields joined by `$$`.

Each `Command` is a statement that the executor gets right in a database where it is `Sound` :
names survive a restart, rows survive the encoding, and WHERE clauses are about the key. For these
`Holds.exec` says that the executor does what the database does and answers what it answers.
-/

namespace UhpSql

/-- The tables of a server as they are meant : names, columns and values are strings. -/
abbrev Db :=
  Keyed.Database Str Str Str

/-! ## Statements -/

/-- The statements that the database knows. -/
inductive Command
  | create (t : Str) (cols : List ColumnDefinition)
  | insert (t : Str) (row : List (Str × Str))
  | update (t c k a w : Str)
  | delete (t c k : Str)
  | find (t c k : Str)
  | like (t c p : Str)

namespace Command

/-- `CREATE TABLE t (…)`, `INSERT INTO t (c, …) VALUES ('v', …)`, `UPDATE t SET a = 'w' WHERE
c = 'k'`, `DELETE FROM t WHERE c = 'k'`, `SELECT * FROM t WHERE c = 'k'` and `SELECT * FROM t WHERE
c LIKE 'p%'`. -/
def toStatement : Command → SQLStatement
  | create t cols => .create (createStatement t cols)
  | insert t row => .insert (insertValues t (row.map Prod.fst) (row.map Prod.snd))
  | update t c k a w => .update (updateWhere t [(a, w)] c .eq k)
  | delete t c k => .delete (deleteWhere t c .eq k)
  | find t c k => .select (selectWhere t c .eq k)
  | like t c p => .select (selectWhere t c .like (p ++ str "%"))

/-- What a statement means : the column of its WHERE clause is the key. -/
def meaning : Command → Keyed.Command Str Str Str
  | create t cols => .create t (cols.map ColumnDefinition.name)
  | insert t row => .insert t row
  | update t _ k a w => .update t k a w
  | delete t _ k => .delete t k
  | find t _ k => .select t fun k' => k' = k
  | like t _ p => .select t fun k' => p <+: k'

/-- The first column of the table, if there is such a table. -/
def KeyColumn (db : Db) (t c : Str) : Prop :=
  ∀ tab, db t = some tab → tab.cols.head? = some c

/-- What the executor needs of a statement : a table that is created is `Restorable`, a row names
the key first and survives the encoding, WHERE clauses are about the key, DELETE is not told
`1 = 1`, and what is scanned has no glob characters. -/
def Sound (db : Db) : Command → Prop
  | create t cols => Restorable ⟨t, ofDefinitions cols⟩
  | insert t row => ∀ tab, db t = some tab → (row.map Prod.fst).head? = tab.cols.head? ∧
      RoundTrips dollar (Keyed.Command.ordered tab.cols row)
  | update t c k a w => KeyColumn db t c ∧ ∀ tab, db t = some tab → ∀ row, tab.rows k = some row →
      RoundTrips dollar (row.set (Keyed.Command.position tab.cols a) w)
  | delete t c k => KeyColumn db t c ∧ ¬(c = str "1" ∧ k = str "1")
  | find t c _ => KeyColumn db t c
  | like t c p => KeyColumn db t c ∧ Plain t ∧ Plain p

/-- The statement in the error message. -/
def verb : Command → String
  | create .. => "create table"
  | insert .. => "insert"
  | update .. => "update"
  | delete .. => "delete"
  | find .. | like .. => "select"

/-- The warnings in the OK packet. -/
def warnings : Command → UInt16
  | update .. | delete .. => 1
  | _ => 0

/-- The packets of an answer. -/
def reply (c : Command) (seq : UInt8) : Keyed.Answer Str Str Str → List (List UInt8)
  | .refused => sendSqlError seq c.verb
  | .done => sendOkMessageToClient seq 1 0 2 c.warnings
  | .count n => sendOkMessageToClient seq (UInt64.ofNat n) 0 2 c.warnings
  | .rows t cols rows => packets 1 (resultSetPayloads (DataBase.new defaultDatabaseName)
      ⟨t, cols.map fun c => ⟨c, .unknown, []⟩⟩ t (rows.map fun row => row.map (⟨[], .unknown, ·⟩)))

end Command

/-! ## What a server holds -/

/-- The string that a row is stored as. -/
def encodeRow (row : List Str) : Str :=
  stringsJoin row (str "$$")

/-- The server holds the tables and the rows of a database, and no other rows. -/
structure Holds (s : Server) (db : Db) : Prop where
  created : ∃ Ts, Created s Ts ∧ (Ts.map DataTable.tableName).Nodup ∧
    ∀ T ∈ Ts, Restorable T ∧ ∀ c ∈ T.cols, c.val = []
  tables : ∀ t, (s.dbms.getCurDB.getTable t).map DataTable.colNames = (db t).map Keyed.Table.cols
  nodup : ∀ t tab, db t = some tab → tab.cols.Nodup
  rows : ∀ t tab, db t = some tab →
    rowsOf defaultDatabaseName t s.store = fun k => (tab.rows k).map encodeRow
  written : ∀ t tab, db t = some tab → ∀ k row, tab.rows k = some row → RoundTrips dollar row
  owned : ∀ k val, DataKey k → s.store.get k = some val →
    ∃ t pk, (db t).isSome ∧ k = rowKey defaultDatabaseName t pk

/-- A name without `_` is what stands before the first `_`. -/
theorem takeWhile_keyInfix {t : Str} (h : CChar.ofChar '_' ∉ t) (pk : Str) :
    (keyInfix t ++ pk).takeWhile (· ≠ CChar.ofChar '_') = t := by
  have hall : ∀ c ∈ t, decide (c ≠ CChar.ofChar '_') = true := fun c hc =>
    decide_eq_true fun heq => h (heq ▸ hc)
  rw [keyInfix, List.append_assoc, List.takeWhile_append_of_pos hall,
    show str "_p_" = CChar.ofChar '_' :: str "p_" from rfl, List.cons_append,
    List.takeWhile_cons_of_neg (by simp), List.append_nil]

/-- Keys of rows in tables whose names have no `_`. -/
theorem rowKey_inj {dbName t₁ t₂ pk₁ pk₂ : Str} (h₁ : CChar.ofChar '_' ∉ t₁)
    (h₂ : CChar.ofChar '_' ∉ t₂) (h : rowKey dbName t₁ pk₁ = rowKey dbName t₂ pk₂) :
    t₁ = t₂ ∧ pk₁ = pk₂ := by
  rw [rowKey_eq_append, rowKey_eq_append, List.append_cancel_left_eq] at h
  have ht : t₁ = t₂ := by
    rw [← takeWhile_keyInfix h₁ pk₁, h, takeWhile_keyInfix h₂ pk₂]
  rw [ht] at h
  exact ⟨ht, List.append_cancel_left h⟩

/-- The catalog depends on the entries of tables and databases. -/
theorem Created.congr {s s' : Server} {Ts : List DataTable} (h : Created s Ts)
    (hd : s'.dbms.getCurDB = s.dbms.getCurDB)
    (hget : ∀ k, tablePrefix defaultDatabaseName <+: k ∨ databasePrefix <+: k →
      s'.store.get k = s.store.get k) : Created s' Ts :=
  ⟨hd.trans h.cur, fun k v hk => by rw [hget k (Or.inl hk), h.tables k v hk],
    fun k v hk => by rw [hget k (Or.inr hk), h.databases k v hk]⟩

/-- These entries are not rows. -/
theorem not_dataKey {k : Str} (hk : tablePrefix defaultDatabaseName <+: k ∨ databasePrefix <+: k) :
    ¬DataKey k := by
  rcases hk with ⟨r, rfl⟩ | ⟨r, rfl⟩
  · exact fun hdata => hdata.ne_tableKey _ _ rfl
  · exact fun hdata => hdata.ne_databaseKey _ rfl

namespace Holds

variable {s s' : Server} {db : Db} (h : Holds s db)
include h

theorem dbName : s.dbms.getCurDB.dbName = defaultDatabaseName := by
  obtain ⟨Ts, hc, -⟩ := h.created
  rw [hc.cur, DataBase.dbName_addTables]
  rfl

/-- A table of the database is one of the catalog, with the same columns. -/
theorem getTable {t : Str} {tab : Keyed.Table Str Str} (htab : db t = some tab) :
    ∃ table, s.dbms.getCurDB.getTable t = some table ∧ table.colNames = tab.cols := by
  have htables := h.tables t
  rw [htab, Option.map_some, Option.map_eq_some_iff] at htables
  exact htables

theorem hasTable (t : Str) : s.dbms.hasTable t = (db t).isSome := by
  have htables := congrArg Option.isSome (h.tables t)
  rwa [Option.isSome_map, Option.isSome_map] at htables

/-- Its name has no `_`. -/
theorem underscore {t : Str} (htab : (db t).isSome) : CChar.ofChar '_' ∉ t := by
  obtain ⟨Ts, hc, -, hrest⟩ := h.created
  rw [← h.hasTable, DBMS.hasTable, hc.getTable] at htab
  obtain ⟨T, hT⟩ := Option.isSome_iff_exists.1 htab
  have hname : T.tableName = t := by simpa using List.find?_some hT
  exact hname ▸ (hrest T (List.mem_of_find?_eq_some hT)).1.name_underscore

/-- A row is stored as its fields joined. -/
theorem fields_encodeRow {t : Str} {tab : Keyed.Table Str Str} (htab : db t = some tab)
    {k : Str} {row : List Str} (hrow : tab.rows k = some row) : fields (encodeRow row) = row := by
  have hne : row ≠ [] := by
    rintro rfl
    cases tab.keyed k [] hrow
  exact (fields_stringsJoin_iff hne).2 (h.written t tab htab k row hrow)

/-- One row of a table is set or deleted. -/
theorem changeRow {t k : Str} {tab tab' : Keyed.Table Str Str} (htab : db t = some tab)
    (hcols : tab'.cols = tab.cols) {o : Option (List Str)}
    (hrows : tab'.rows = Function.update tab.rows k o) (ho : ∀ row ∈ o, RoundTrips dollar row)
    (hd : s'.dbms = s.dbms)
    (hget : ∀ key, s'.store.get key =
      if key = rowKey defaultDatabaseName t k then o.map encodeRow else s.store.get key) :
    Holds s' (Function.update db t (some tab')) := by
  have hu := h.underscore (by rw [htab]; rfl)
  obtain ⟨Ts, hc, hTs⟩ := h.created
  refine ⟨⟨Ts, hc.congr (by rw [hd]) fun key hkey => ?_, hTs⟩, fun t' => ?_,
    fun t' tab₁ htab₁ => ?_, fun t' tab₁ htab₁ => ?_, fun t' tab₁ htab₁ k' row hrow => ?_,
    fun key val hkey hval => ?_⟩
  · rw [hget, if_neg]
    rintro rfl
    exact not_dataKey hkey (dataKey_rowKey ..)
  · rw [hd, h.tables, Function.update_apply]
    split_ifs with ht
    · rw [ht, htab, Option.map_some, Option.map_some, hcols]
    · rfl
  · rw [Function.update_apply] at htab₁
    split_ifs at htab₁ with ht
    · rw [← Option.some.inj htab₁, hcols]
      exact h.nodup t tab htab
    · exact h.nodup t' tab₁ htab₁
  · ext1 k'
    rw [rowsOf, hget]
    rw [Function.update_apply] at htab₁
    split_ifs at htab₁ with ht
    · obtain rfl := Option.some.inj htab₁
      subst ht
      simp only [hrows, Function.update_apply, (rowKey_injective _ _).eq_iff]
      split_ifs
      · rfl
      · exact congrFun (h.rows t' tab htab) k'
    · rw [if_neg]
      · exact congrFun (h.rows t' tab₁ htab₁) k'
      · exact fun heq => ht (rowKey_inj (h.underscore (by rw [htab₁]; rfl)) hu heq).1
  · rw [Function.update_apply] at htab₁
    split_ifs at htab₁ with ht
    · rw [← Option.some.inj htab₁, hrows, Function.update_apply] at hrow
      split_ifs at hrow
      · exact ho row hrow
      · exact h.written t tab htab k' row hrow
    · exact h.written t' tab₁ htab₁ k' row hrow
  · rw [hget] at hval
    split_ifs at hval with hk
    · exact ⟨t, k, by rw [Function.update_self]; rfl, hk⟩
    · obtain ⟨t', pk, hsome, hkey'⟩ := h.owned key val hkey hval
      refine ⟨t', pk, ?_, hkey'⟩
      rw [Function.update_apply]
      split_ifs
      · rfl
      · exact hsome

end Holds

/-! ## One statement -/

section
variable {s : Server} {t : Str}

/-- Statements on a table that is not there are turned down. -/
theorem exec_of_unknown (ht : s.dbms.hasTable t = false) (env : Env) (u : Uninit) {c : Command}
    {seq : UInt8} (hc : c.meaning.table = t) (hnew : c.meaning.newCols = none) :
    execStatement env u seq s c.toStatement = .ok (s, sendSqlError seq c.verb) := by
  subst hc
  cases c with
  | create => cases hnew
  | insert t row =>
    have hrow : insertRow s (insertValues t (row.map Prod.fst) (row.map Prod.snd)) = .ok none := by
      simp [insertRow, analyzeInsertStatement, insertValues, show s.dbms.hasTable t = false from ht]
    rw [Command.toStatement, execStatement, hrow]
    rfl
  | update t c k a w =>
    have hrow : updateRow u s (updateWhere t [(a, w)] c .eq k) = .ok none := by
      simp [updateRow, analyzeUpdateStatement, updateWhere, show s.dbms.hasTable t = false from ht]
    rw [Command.toStatement, execStatement, hrow]
    rfl
  | delete t c k =>
    have hrow : deleteRows env u s (deleteWhere t c .eq k) = .ok none := by
      simp [deleteRows, analyzeDeleteStatement, deleteWhere, show s.dbms.hasTable t = false from ht]
    rw [Command.toStatement, execStatement, hrow]
    rfl
  | find t c k =>
    have hrow : selectRows env u s (selectWhere t c .eq k) = .ok none := by
      simp [selectRows, analyzeSelectStatement, selectWhere, show s.dbms.hasTable t = false from ht]
    rw [Command.toStatement, execStatement, hrow]
    rfl
  | like t c p =>
    have hrow : selectRows env u s (selectWhere t c .like (p ++ str "%")) = .ok none := by
      simp [selectRows, analyzeSelectStatement, selectWhere, show s.dbms.hasTable t = false from ht]
    rw [Command.toStatement, execStatement, hrow]
    rfl

end

/-- Pairs of columns and values, as the analyzer makes them. -/
theorem pairColumns_map : ∀ row : List (Str × Str),
    pairColumns (row.map Prod.fst) (row.map Prod.snd) =
      .ok (row.map fun p => ⟨p.1, .unknown, p.2⟩)
  | [] => rfl
  | p :: row => by
    rw [List.map_cons, List.map_cons, pairColumns, pairColumns_map row]
    rfl

/-- With distinct columns the value of a column is the one it is paired with. -/
theorem given_map {x : Str} : ∀ {row : List (Str × Str)}, (row.map Prod.fst).Nodup →
    given (row.map fun p => ⟨p.1, .unknown, p.2⟩) x = Keyed.Command.value row x
  | [], _ => rfl
  | p :: row, h => by
    rw [List.map_cons, List.nodup_cons] at h
    rw [List.map_cons, given, given_map h.2, Keyed.Command.value, Keyed.Command.value,
      List.find?_cons]
    by_cases hx : p.1 = x
    · have hnone : (row.find? fun p => p.1 = x) = none := List.find?_eq_none.2 fun q hq hqx =>
        h.1 (hx ▸ of_decide_eq_true hqx ▸ List.mem_map_of_mem hq)
      simp [hnone, hx]
    · simp [hx]

/-- The values in schema order. -/
theorem givenFields_eq {table : DataTable} {row : List (Str × Str)}
    (hperm : (row.map Prod.fst).Perm table.colNames) (hnodup : table.colNames.Nodup) :
    givenFields table (row.map fun p => ⟨p.1, .unknown, p.2⟩) =
      Keyed.Command.ordered table.colNames row := by
  have hmap : ∀ x ∈ table.colNames, Keyed.Command.value row x =
      some ((given (row.map fun p => ⟨p.1, .unknown, p.2⟩) x).getD []) := by
    intro x hx
    obtain ⟨v, hv⟩ := Option.isSome_iff_exists.1
      (Keyed.Command.isSome_value_iff.2 (hperm.mem_iff.2 hx))
    rw [given_map (hperm.nodup_iff.2 hnodup), hv, Option.getD_some]
  rw [givenFields, Keyed.Command.ordered, List.filterMap_congr hmap]
  exact (congrFun List.filterMap_eq_map' _).symm

/-- With distinct columns the first position of a name is the last one. -/
theorem lastAt_position {names : List Str} (hnodup : names.Nodup) {x : Str} (hx : x ∈ names) :
    DataTable.LastAt x names (Keyed.Command.position names x) := by
  have hget := Keyed.Command.getElem?_position hx
  refine ⟨hget, fun j hj hjx => hj.ne ?_⟩
  exact (List.getElem?_inj (Keyed.Command.position_lt hx) hnodup).1 (hget.trans hjx.symm)

namespace Holds

variable (env : Env) {s : Server} {db : Db} (h : Holds s db) (u : Uninit) (seq : UInt8) {t : Str}
  {tab : Keyed.Table Str Str} (htab : db t = some tab)
include h htab

/-- INSERT of a value for every column, the key first. -/
theorem insert {row : List (Str × Str)} (hfits : (Keyed.Command.insert t row).Fits tab.cols)
    (hhead : (row.map Prod.fst).head? = tab.cols.head?)
    (hrow : RoundTrips dollar (Keyed.Command.ordered tab.cols row)) :
    ∃ s', execStatement env u seq s (Command.insert t row).toStatement =
        .ok (s', sendOkMessageToClient seq 1 0 2 0) ∧
      Holds s' (Function.update db t (some (tab.obey (.insert t row) hfits))) := by
  obtain ⟨table, hT, hcols⟩ := h.getTable htab
  obtain ⟨hperm, hne⟩ := id hfits
  have hcolsNodup := h.nodup t tab htab
  have hnodup := hperm.nodup_iff.2 hcolsNodup
  obtain ⟨⟨c, k⟩, rest, rfl⟩ : ∃ first rest, row = first :: rest := by
    cases row with
    | nil => exact absurd (List.nil_perm.1 hperm) hne
    | cons first rest => exact ⟨first, rest, rfl⟩
  -- the first value is the key
  have hk : (Keyed.Command.ordered tab.cols ((c, k) :: rest)).head? = some k := by
    obtain ⟨cols, hcons⟩ : ∃ cols, tab.cols = c :: cols := List.head?_eq_some_iff.1 hhead.symm
    rw [hcons, Keyed.Command.ordered, List.filterMap_cons_some (b := k), List.head?_cons]
    simp [Keyed.Command.value]
  have hfields := givenFields_eq (hcols ▸ hperm) (hcols ▸ hcolsNodup)
  rw [hcols] at hfields
  have hnames : (((c, k) :: rest).map fun p => (⟨p.1, .unknown, p.2⟩ : TableColumn)).map
      TableColumn.colName = ((c, k) :: rest).map Prod.fst := by
    rw [List.map_map]
    rfl
  have hfirst : (⟨c, .unknown, k⟩ : TableColumn) ∈
      (((c, k) :: rest).map fun p => (⟨p.1, .unknown, p.2⟩ : TableColumn)).head? := rfl
  have hset := insertRowToPMemKV_all hT hfirst (hnames ▸ hnodup)
    (fun x => by rw [hnames, hperm.mem_iff, hcols]) (hcols ▸ hcolsNodup)
  rw [hfields, h.dbName] at hset
  have hinsert : insertRow s (insertValues t (((c, k) :: rest).map Prod.fst)
      (((c, k) :: rest).map Prod.snd)) = .ok (some (⟨s.dbms, s.store.set
        (rowKey defaultDatabaseName t k)
          (encodeRow (Keyed.Command.ordered tab.cols ((c, k) :: rest)))⟩, 1)) := by
    rw [insertRow_insertValues hT, pairColumns_map, ok_bind, hset]
    rfl
  refine ⟨_, by rw [Command.toStatement, execStatement, hinsert]; rfl, ?_⟩
  refine h.changeRow htab rfl (Keyed.Table.rows_obey_insert hfits hk) ?_ rfl
    fun key => Store.get_set ..
  rintro _ ⟨rfl⟩
  exact hrow

/-- UPDATE of a column that is not the key. -/
theorem update {c k a w : Str} (hfits : (Keyed.Command.update t k a w).Fits tab.cols)
    (hrow : ∀ row, tab.rows k = some row →
      RoundTrips dollar (row.set (Keyed.Command.position tab.cols a) w)) :
    ∃ s', execStatement env u seq s (Command.update t c k a w).toStatement =
        .ok (s', sendOkMessageToClient seq (if (tab.rows k).isSome then 1 else 0) 0 2 1) ∧
      Holds s' (Function.update db t (some (tab.obey (.update t k a w) hfits))) := by
  obtain ⟨table, hT, hcols⟩ := h.getTable htab
  obtain ⟨hmem, -⟩ := id hfits
  have hrows := Keyed.Table.rows_obey_update hfits
  have hstored : rowsOf defaultDatabaseName t s.store k = (tab.rows k).map encodeRow :=
    congrFun (h.rows t tab htab) k
  rw [← h.dbName] at hstored
  cases hold : tab.rows k with
  | none =>
    rw [hold, Option.map_none] at hstored hrows
    refine ⟨s, ?_, h.changeRow htab rfl hrows (fun _ h => absurd h (Option.not_mem_none _)) rfl
      fun key => ?_⟩
    · rw [Command.toStatement, execStatement, updateRow_updateWhere hT,
        updateRowInPMemKV_none hstored]
      rfl
    · split_ifs with hkey
      · rw [hkey, ← h.dbName]
        exact hstored
      · rfl
  | some row =>
    rw [hold, Option.map_some] at hstored hrows
    have hindex : table.getColIndex a = (Keyed.Command.position tab.cols a : ℕ) := by
      rw [DataTable.getColIndex_eq_iff, hcols]
      exact lastAt_position (h.nodup t tab htab) hmem
    have hlt : Keyed.Command.position tab.cols a < (fields (encodeRow row)).length := by
      rw [h.fields_encodeRow htab hold, tab.full k row hold]
      exact Keyed.Command.position_lt hmem
    refine ⟨s.setRow t k (encodeRow (row.set (Keyed.Command.position tab.cols a) w)), ?_,
      h.changeRow htab rfl hrows ?_ rfl fun key => ?_⟩
    · rw [Command.toStatement, execStatement, updateRow_updateWhere hT,
        updateRowInPMemKV_some hT hstored hindex hlt, h.fields_encodeRow htab hold]
      rfl
    · rintro _ ⟨rfl⟩
      exact hrow row hold
    · rw [Server.setRow, Store.get_set, h.dbName]
      rfl

/-- DELETE by the key, which reports one row whether there was one or not. -/
theorem delete {c k : Str} (hfits : (Keyed.Command.delete t k).Fits tab.cols)
    (hone : ¬(c = str "1" ∧ k = str "1")) :
    ∃ s', execStatement env u seq s (Command.delete t c k).toStatement =
        .ok (s', sendOkMessageToClient seq 1 0 2 1) ∧
      Holds s' (Function.update db t (some (tab.obey (.delete t k) hfits))) := by
  obtain ⟨table, hT, -⟩ := h.getTable htab
  have hdel : deleteRows env u s (deleteWhere t c .eq k) =
      .ok (some (⟨s.dbms, s.store.del (rowKey defaultDatabaseName t k)⟩, 1)) := by
    rw [deleteRows_deleteWhere hT]
    change deleteRowsInPMemKV env s ⟨t, .kOpEquals, c, k⟩ >>= _ = _
    rw [deleteRowsInPMemKV_eq fun h1 => absurd h1 hone, h.dbName]
    rfl
  refine ⟨_, by rw [Command.toStatement, execStatement, hdel]; rfl, ?_⟩
  exact h.changeRow htab rfl (Keyed.Table.rows_obey_delete hfits)
    (fun _ h => absurd h (Option.not_mem_none _)) rfl fun key => Store.get_del ..

end Holds

/-- The packets of a result set depend on the names and the values. -/
theorem resultSetPayloads_congr {db db' : DataBase} {table table' : DataTable} {t : Str}
    {rows rows' : List (List TableColumn)} (hdb : db.dbName = db'.dbName)
    (hcols : table.colNames = table'.colNames)
    (hrows : rows.map (List.map TableColumn.val) = rows'.map (List.map TableColumn.val)) :
    resultSetPayloads db table t rows = resultSetPayloads db' table' t rows' := by
  have hcount : table.getColCount = table'.getColCount := by
    rw [DataTable.getColCount, DataTable.getColCount, ← DataTable.length_colNames, hcols,
      DataTable.length_colNames]
  have hfield : ∀ i, fieldPacket db table t i = fieldPacket db' table' t i := fun i => by
    rw [fieldPacket, fieldPacket, hdb, DataTable.indexCol_eq, DataTable.indexCol_eq, hcols]
  have hpack : (rows.map fun row => Protocol.rowPack (row.map TableColumn.val)) =
      rows'.map fun row => Protocol.rowPack (row.map TableColumn.val) := by
    have h := congrArg (List.map Protocol.rowPack) hrows
    rwa [List.map_map, List.map_map] at h
  simp only [resultSetPayloads, hcount, hfield, hpack]

namespace Holds

variable {env : Env} {s : Server} {db : Db} (h : Holds s db) (u : Uninit) (seq : UInt8) {t : Str}
  {tab : Keyed.Table Str Str} (htab : db t = some tab)
include h htab

/-- Rows that are shown. -/
theorem sendResultSet {table : DataTable} (hT : s.dbms.getCurDB.getTable t = some table)
    (c : Command) {rows : List (List TableColumn)} {values : List (List Str)}
    (hrows : rows.map (List.map TableColumn.val) = values) :
    sendResultSetToClient s.dbms rows t = .ok (c.reply seq (.rows t tab.cols values)) := by
  obtain ⟨table', hT', hcols⟩ := h.getTable htab
  obtain rfl := Option.some.inj (hT.symm.trans hT')
  rw [sendResultSetToClient, hT, deref_some, ok_bind, Command.reply]
  refine congrArg (fun payloads => Except.ok (packets 1 payloads))
    (resultSetPayloads_congr ?_ ?_ ?_)
  · exact h.dbName
  · rw [hcols, DataTable.colNames, List.map_map]
    exact (List.map_id' _).symm
  · rw [hrows, List.map_map]
    refine (List.map_id'' (fun row => ?_) values).symm
    rw [Function.comp_apply, List.map_map]
    exact List.map_id' _

/-- SELECT by the key. -/
theorem find (env : Env) (c k : Str) :
    execStatement env u seq s (Command.find t c k).toStatement =
      .ok (s, (Command.find t c k).reply seq (.rows t tab.cols (tab.rows k).toList)) := by
  obtain ⟨table, hT, hcols⟩ := h.getTable htab
  have hstored : rowsOf defaultDatabaseName t s.store k = (tab.rows k).map encodeRow :=
    congrFun (h.rows t tab htab) k
  rw [← h.dbName] at hstored
  have hrows : (((rowsOf s.dbms.getCurDB.dbName t s.store k).toList.map (decodeRow table)).map
      (List.map TableColumn.val)) = (tab.rows k).toList := by
    rw [hstored]
    cases hold : tab.rows k with
    | none => rfl
    | some row => simp [h.fields_encodeRow htab hold]
  rw [Command.toStatement, execStatement, selectRows_eq env u c k hT, ok_bind]
  simp only [h.sendResultSet seq htab hT (.find t c k) hrows]
  rfl

/-- What a scan of the table lists : the rows whose keys begin as asked. -/
theorem mem_page (henv : env.redis.FullScan) {p : Str} (ht : Plain t) (hp : Plain p) {e : Entry} :
    e ∈ env.redis.page s.store (dataPrefix defaultDatabaseName t ++ p ++ str "*") scanCount ↔
      ∃ k row, tab.rows k = some row ∧ p <+: k ∧
        e = (rowKey defaultDatabaseName t k, encodeRow row) := by
  have hplain : Plain (dataPrefix defaultDatabaseName t ++ p) := by
    intro c hc
    simp only [dataPrefix, List.mem_append] at hc
    rcases hc with ((((hc | hc) | hc) | hc) | hc) | hc
    · exact (by decide : Plain (str "data_")) c hc
    · exact (by decide : Plain defaultDatabaseName) c hc
    · exact (by decide : Plain (str "_")) c hc
    · exact ht c hc
    · exact (by decide : Plain (str "_p_")) c hc
    · exact hp c hc
  have hget : ∀ k, s.store.get (rowKey defaultDatabaseName t k) = (tab.rows k).map encodeRow :=
    congrFun (h.rows t tab htab)
  obtain ⟨key, val⟩ := e
  rw [henv.mem_page, globMatch_plain hplain]
  constructor
  · rintro ⟨hval, r, rfl⟩
    rw [List.append_assoc] at hval ⊢
    obtain ⟨row, hrow, rfl⟩ := Option.map_eq_some_iff.1 ((hget (p ++ r)).symm.trans hval)
    exact ⟨p ++ r, row, hrow, List.prefix_append .., rfl⟩
  · rintro ⟨k, row, hrow, ⟨r, rfl⟩, heq⟩
    obtain ⟨rfl, rfl⟩ := Prod.mk.inj heq
    refine ⟨by rw [hget, hrow, Option.map_some], r, ?_⟩
    rw [rowKey, List.append_assoc]

/-- SELECT by the beginning of the key. -/
theorem like (henv : env.redis.FullScan) (c : Str) {p : Str} (ht : Plain t) (hp : Plain p) :
    ∃ rows, execStatement env u seq s (Command.like t c p).toStatement =
        .ok (s, (Command.like t c p).reply seq (.rows t tab.cols rows)) ∧
      Rows.Selected tab.rows (fun row => ∃ k ∈ row.head?, decide (p <+: k)) id rows := by
  obtain ⟨table, hT, hcols⟩ := h.getTable htab
  have hmem := fun e => @mem_page env s db h t tab htab henv p ht hp e
  have hnodup := ((henv.full s.store (dataPrefix defaultDatabaseName t ++ p ++ str "*")
    scanCount).nodup_iff).2 (s.store.nodup_matching _)
  generalize hes : env.redis.page s.store (dataPrefix defaultDatabaseName t ++ p ++ str "*")
    scanCount = es at hmem hnodup
  refine ⟨es.map fun e => fields e.2, ?_, (Rows.selected_map_iff hnodup).2
    ⟨fun e he => ?_, fun k row hrow hsat => ?_, fun e he e' he' heq => ?_⟩⟩
  · have hsel := selectRows_like u c (p ++ str "%") henv hT (by simp [str])
    rw [likeLiteral_percent, h.dbName, hes] at hsel
    have hrows : (es.map fun e => decodeRow table e.2).map (List.map TableColumn.val) =
        es.map fun e => fields e.2 := by
      rw [List.map_map]
      exact List.map_congr_left fun e _ => map_val_decodeRow table e.2
    rw [Command.toStatement, execStatement, hsel, ok_bind]
    simp only [h.sendResultSet seq htab hT (.like t c p) hrows]
    rfl
  · obtain ⟨k, row, hrow, hp, rfl⟩ := (hmem e).1 he
    exact ⟨k, row, hrow, ⟨k, tab.keyed k row hrow, decide_eq_true hp⟩,
      (h.fields_encodeRow htab hrow).symm⟩
  · obtain ⟨k', hk', hp'⟩ := hsat
    obtain rfl := Option.some.inj ((tab.keyed k row hrow).symm.trans hk')
    exact ⟨_, (hmem _).2 ⟨k, row, hrow, of_decide_eq_true hp', rfl⟩, h.fields_encodeRow htab hrow⟩
  · obtain ⟨k, row, hrow, -, rfl⟩ := (hmem e).1 he
    obtain ⟨k', row', hrow', -, rfl⟩ := (hmem e').1 he'
    rw [h.fields_encodeRow htab hrow, h.fields_encodeRow htab hrow'] at heq
    -- rows that look alike have the same key
    have hk := (tab.keyed k row hrow).symm.trans (heq ▸ tab.keyed k' row' hrow')
    rw [heq, Option.some.inj hk]

end Holds

/-- In whatever order tables of different names are listed, a name finds the same one. -/
theorem find?_tableName_perm {Ts Ts' : List DataTable} (hperm : Ts'.Perm Ts)
    (hnames : (Ts.map DataTable.tableName).Nodup) (t : Str) :
    (Ts'.find? fun T => T.tableName = t) = Ts.find? fun T => T.tableName = t := by
  have hfind : ∀ {L : List DataTable}, (L.map DataTable.tableName).Nodup → ∀ T,
      (L.find? fun T => T.tableName = t) = some T ↔ T ∈ L ∧ T.tableName = t := by
    intro L hL T
    refine ⟨fun h => ⟨List.mem_of_find?_eq_some h, by simpa using List.find?_some h⟩, ?_⟩
    rintro ⟨hT, rfl⟩
    exact find?_tableName_eq_some hT fun T' hT' heq => List.inj_on_of_nodup_map hL hT' hT heq
  ext1 T
  rw [hfind ((hperm.map _).nodup_iff.2 hnames), hfind hnames, hperm.mem_iff]

/-- A start finds the tables that can be restored, in the order of its scan. -/
theorem Created.recovered {env : Env} (henv : env.redis.FullScan) {s : Server}
    {Ts : List DataTable} (h : Created s Ts) (hnames : (Ts.map DataTable.tableName).Nodup)
    (hTs : ∀ T ∈ Ts, Restorable T ∧ ∀ c ∈ T.cols, c.val = []) :
    ∃ Ts' : List DataTable, Ts'.Perm Ts ∧ DBMS.new env.redis s.store =
      .ok (DBMS.push none ((DataBase.new defaultDatabaseName).addTables Ts'), s.store) := by
  have hread : ∀ T ∈ Ts, DataBase.readTable (T.entry defaultDatabaseName) = .ok T :=
    fun T hT => readTable_entry (hTs T hT).1 (hTs T hT).2
  have hentries : (Ts.map (DataTable.entry defaultDatabaseName)).Nodup := by
    refine hnames.of_map.map_on fun T hT T' hT' heq => List.inj_on_of_nodup_map hnames hT hT' ?_
    exact List.append_cancel_left (Prod.mk.inj heq).1
  have hpage : (env.redis.page s.store (tablePrefix defaultDatabaseName ++ str "*")
      Redis.defaultCount).Perm (Ts.map (DataTable.entry defaultDatabaseName)) := by
    refine (List.perm_ext_iff_of_nodup ?_ hentries).2 fun e => ?_
    · exact ((henv.full _ _ _).nodup_iff).2 (s.store.nodup_matching _)
    · rw [h.mem_page henv, List.mem_map]
      simp only [eq_comm]
  obtain ⟨Ts', hTs'⟩ := exists_map_ok (f := DataBase.readTable) (l := env.redis.page s.store
      (tablePrefix defaultDatabaseName ++ str "*") Redis.defaultCount) fun e he => by
    obtain ⟨T, hT, rfl⟩ := (h.mem_page henv).1 he
    exact ⟨T, hread T hT⟩
  refine ⟨Ts', ?_, (h.new_eq_ok henv).2 ⟨Ts', hTs', rfl, rfl⟩⟩
  have hok : Ts.map (DataBase.readTable ∘ DataTable.entry defaultDatabaseName) =
      Ts.map Except.ok := List.map_congr_left hread
  have hmap := hpage.map DataBase.readTable
  rw [hTs', List.map_map, hok] at hmap
  have hunwrap : ∀ L : List DataTable,
      (L.map Except.ok).filterMap (Except.toOption (ε := Fault)) = L := fun L => by
    rw [List.filterMap_map]
    exact List.filterMap_some
  have hsome := hmap.filterMap Except.toOption
  rwa [hunwrap, hunwrap] at hsome

namespace Holds

variable {env : Env} {s : Server} {db : Db}

/-- A fresh server holds no table. -/
theorem fresh (ip : Str) : Holds (Server.fresh ip) fun _ => none := by
  refine ⟨⟨[], created_fresh ip, List.nodup_nil, fun T hT => absurd hT List.not_mem_nil⟩,
    fun t => ?_, nofun, nofun, nofun, fun k val hk hval => ?_⟩
  · rw [getCurDB_fresh]
    rfl
  · rw [get_fresh hk] at hval
    cases hval

section
variable (h : Holds s db)
include h

/-- CREATE TABLE with a new name. -/
theorem create {t : Str} (ht : db t = none) {cols : List ColumnDefinition}
    (hrest : Restorable ⟨t, ofDefinitions cols⟩)
    (hnodup : (cols.map ColumnDefinition.name).Nodup) :
    Holds (s.withTable t (ofDefinitions cols))
      (Function.update db t (some (.new (cols.map ColumnDefinition.name)))) := by
  obtain ⟨Ts, hc, hnames, hTs⟩ := h.created
  have hnone : s.dbms.getCurDB.getTable t = none := by
    rw [← Option.map_eq_none_iff, h.tables, ht, Option.map_none]
  have hnew : t ∉ Ts.map DataTable.tableName := fun hmem => by
    obtain ⟨T, hT, rfl⟩ := List.mem_map.1 hmem
    rw [hc.getTable_tableName hnames hT] at hnone
    cases hnone
  have hcols : (DataTable.mk t (ofDefinitions cols)).colNames = cols.map ColumnDefinition.name := by
    rw [DataTable.colNames, ofDefinitions, List.map_map]
    rfl
  refine ⟨⟨Ts ++ [⟨t, ofDefinitions cols⟩], hc.withTable ⟨t, ofDefinitions cols⟩ hnew, ?_, ?_⟩,
    fun t' => ?_, fun t' tab htab => ?_, fun t' tab htab => ?_, fun t' tab htab k row hrow => ?_,
    fun k val hk hval => ?_⟩
  · rw [List.map_append, List.map_singleton]
    exact hnames.append (List.nodup_singleton t) (List.disjoint_singleton.2 hnew)
  · intro T hT
    rcases List.mem_append.1 hT with hT | hT
    · exact hTs T hT
    · obtain rfl := List.mem_singleton.1 hT
      refine ⟨hrest, fun c hc => ?_⟩
      obtain ⟨c', -, rfl⟩ := List.mem_map.1 hc
      rfl
  · rw [getCurDB_withTable, DataBase.getTable_addTable, Function.update_apply]
    split_ifs with ht'
    · rw [ht', hnone, Option.none_or, Option.map_some, hcols]
      rfl
    · rw [Option.or_none, h.tables]
  · rw [Function.update_apply] at htab
    split_ifs at htab
    · rwa [← Option.some.inj htab]
    · exact h.nodup t' tab htab
  · rw [rowsOf_withTable]
    rw [Function.update_apply] at htab
    split_ifs at htab with ht'
    · -- no row is stored under a name that is new
      rw [← Option.some.inj htab, ht']
      ext1 k
      refine Option.eq_none_iff_forall_ne_some.2 fun val hval => ?_
      obtain ⟨t₁, pk, hsome, hkey⟩ := h.owned _ val (dataKey_rowKey ..) hval
      obtain ⟨rfl, -⟩ := rowKey_inj hrest.name_underscore (h.underscore hsome) hkey
      rw [ht] at hsome
      cases hsome
    · exact h.rows t' tab htab
  · rw [Function.update_apply] at htab
    split_ifs at htab
    · rw [← Option.some.inj htab] at hrow
      cases hrow
    · exact h.written t' tab htab k row hrow
  · rw [get_withTable hk] at hval
    obtain ⟨t₁, pk, hsome, hkey⟩ := h.owned k val hk hval
    refine ⟨t₁, pk, ?_, hkey⟩
    rw [Function.update_apply]
    split_ifs
    · rfl
    · exact hsome

/-- A start over what is stored finds it again. -/
theorem restart (henv : env.redis.FullScan) (ip : Str) :
    ∃ s', init env s.store ip = .ok s' ∧ Holds s' db := by
  obtain ⟨Ts, hc, hnames, hTs⟩ := h.created
  have hset : ∀ {k}, k ≠ str "pmemaddr" → (s.store.set (str "pmemaddr") ip).get k = s.store.get k :=
    fun hk => Store.get_set_of_ne _ _ hk
  have hc' : Created ⟨s.dbms, s.store.set (str "pmemaddr") ip⟩ Ts := hc.congr rfl fun k hk => by
    refine hset ?_
    rintro rfl
    revert hk
    decide
  obtain ⟨Ts', hperm, hnew⟩ := hc'.recovered henv hnames hTs
  have hcur : ((DBMS.push none ((DataBase.new defaultDatabaseName).addTables Ts')).getCurDB) =
      (DataBase.new defaultDatabaseName).addTables Ts' := DBMS.getCurDB_push ..
  have hcreated : Created ⟨DBMS.push none ((DataBase.new defaultDatabaseName).addTables Ts'),
      s.store.set (str "pmemaddr") ip⟩ Ts' :=
    ⟨hcur, fun k v hk => by simp only [hc'.tables k v hk, hperm.mem_iff], hc'.databases⟩
  have hdata : ∀ {k}, DataKey k → (s.store.set (str "pmemaddr") ip).get k = s.store.get k :=
    fun hk => hset hk.ne_pmemaddr
  refine ⟨_, by rw [init, hnew, ok_bind]; rfl, ⟨Ts', hcreated, ?_, fun T hT => ?_⟩, fun t => ?_,
    h.nodup, fun t tab htab => ?_, h.written, fun k val hk hval => ?_⟩
  · exact (hperm.map _).nodup_iff.2 hnames
  · exact hTs T (hperm.mem_iff.1 hT)
  · rw [← h.tables, hcreated.getTable, hc.getTable, find?_tableName_perm hperm hnames]
  · rw [← h.rows t tab htab]
    exact funext fun k => hdata (dataKey_rowKey ..)
  · exact h.owned k val hk ((hdata hk).symm.trans hval)

end

end Holds

/-- A sound statement does what it means. -/
theorem Holds.exec {env : Env} (henv : env.redis.FullScan) {s : Server} {db : Db}
    (h : Holds s db) (u : Uninit) (seq : UInt8) {c : Command} (hc : c.Sound db) {db' : Db}
    (hnext : db.next c.meaning = some db') :
    ∃ s' a, execStatement env u seq s c.toStatement = .ok (s', c.reply seq a) ∧
      db.Answers c.meaning a ∧ Holds s' db' := by
  cases htab : db c.meaning.table with
  | none =>
    rcases (Keyed.Database.next_of_none htab).1 hnext with ⟨hold, rfl⟩ | ⟨cols, hcols, hnew, rfl⟩
    · refine ⟨s, .refused, exec_of_unknown ?_ env u rfl hold,
        Keyed.Database.answers_refused htab hold, h⟩
      rw [h.hasTable, htab]
      rfl
    · cases c with
      | create t cols' =>
        obtain rfl := Option.some.inj hcols
        exact ⟨_, .done, rfl, rfl, h.create htab hc hnew.2⟩
      | insert | update | delete | find | like => cases hcols
  | some tab =>
    obtain ⟨hfits, rfl⟩ := (Keyed.Database.next_of_some htab).1 hnext
    cases c with
    | create => exact hfits.elim
    | insert t row =>
      replace htab : db t = some tab := htab
      obtain ⟨hhead, hrow⟩ := hc tab htab
      obtain ⟨s', hexec, h'⟩ := h.insert env u seq htab hfits hhead hrow
      exact ⟨s', .count 1, hexec, (if_pos (by rw [htab]; rfl)).symm, h'⟩
    | update t c k a w =>
      replace htab : db t = some tab := htab
      obtain ⟨s', hexec, h'⟩ := h.update env u seq htab hfits (hc.2 tab htab)
      refine ⟨s', .count (if (tab.rows k).isSome then 1 else 0), ?_, ?_, h'⟩
      · rw [hexec, Command.reply]
        split_ifs <;> rfl
      · simp only [Keyed.Database.Answers, Command.meaning, htab]
    | delete t c k =>
      replace htab : db t = some tab := htab
      obtain ⟨s', hexec, h'⟩ := h.delete env u seq htab hfits hc.2
      exact ⟨s', .done, hexec, (if_pos (by rw [htab]; rfl)).symm, h'⟩
    | find t c k =>
      replace htab : db t = some tab := htab
      refine ⟨s, _, h.find u seq htab env c k, ?_, ?_⟩
      · simp only [Keyed.Database.Answers, Command.meaning, htab, Keyed.Database.selected_key_iff]
        exact ⟨_, rfl, rfl⟩
      · exact (congrArg (Holds s) (Keyed.Database.update_obey_select htab hfits)).mpr h
    | like t c p =>
      replace htab : db t = some tab := htab
      obtain ⟨-, ht, hp⟩ := hc
      obtain ⟨rows, hexec, hsel⟩ := h.like u seq htab henv c ht hp
      refine ⟨s, _, hexec, ?_, ?_⟩
      · simp only [Keyed.Database.Answers, Command.meaning, htab]
        exact ⟨rows, rfl, hsel⟩
      · exact (congrArg (Holds s) (Keyed.Database.update_obey_select htab hfits)).mpr h

end UhpSql
