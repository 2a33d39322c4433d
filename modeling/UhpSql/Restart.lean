import UhpSql.Recovery

/-!
# Restart transparency of the catalog

`RestartTransparent env defs` : after the CREATE TABLEs `defs` on an empty store, a start over
this store gives the catalog they made. `Created` is the invariant that carries the run, one
CREATE TABLE a step. `restartTransparent_iff` : names are not lost exactly when every table
is `Restorable`.
-/

namespace UhpSql

/-- The names and types of the columns, in order. -/
def DataTable.schema (T : DataTable) : List (Str × DataType) :=
  T.cols.map fun c => (c.colName, c.colType)

/-- The current databases have one name, and the same tables with the same columns. -/
structure SameCatalog (d d' : DBMS) : Prop where
  dbName : d'.getCurDB.dbName = d.getCurDB.dbName
  tables : ∀ x, (d'.getCurDB.getTable x).map DataTable.schema =
    (d.getCurDB.getTable x).map DataTable.schema

/-- A list of `CREATE TABLE t (…)`. -/
def createStatements (defs : List (Str × List ColumnDefinition)) : List SQLStatement :=
  defs.map fun d => .create (createStatement d.1 d.2)

/-- The table a CREATE TABLE makes. -/
def createdTable (d : Str × List ColumnDefinition) : DataTable :=
  ⟨d.1, ofDefinitions d.2⟩

/-- A start over the store the CREATE TABLEs leave gives the catalog they made. -/
def RestartTransparent (env : Env) (defs : List (Str × List ColumnDefinition)) : Prop :=
  ∀ ip s₀, init env ∅ ip = .ok s₀ →
    ∀ u seq s, (exec env u seq s₀ (createStatements defs)).2 = .ok s →
      ∃ d st, DBMS.new env.redis s.store = .ok (d, st) ∧ SameCatalog s.dbms d

/-! ## The run of CREATE TABLEs -/

/-- The tables `Ts` are in the catalog, and the store holds their entries and that of the
database. -/
structure Created (s : Server) (Ts : List DataTable) : Prop where
  cur : s.dbms.getCurDB = (DataBase.new defaultDatabaseName).addTables Ts
  tables : ∀ k v, tablePrefix defaultDatabaseName <+: k →
    (s.store.get k = some v ↔ ∃ T ∈ Ts, (k, v) = T.entry defaultDatabaseName)
  databases : ∀ k v, databasePrefix <+: k →
    (s.store.get k = some v ↔ (k, v) = (databasePrefix ++ defaultDatabaseName, defaultDatabaseName))

theorem created_fresh (ip : Str) : Created (Server.fresh ip) [] := by
  refine ⟨getCurDB_fresh ip, fun k v hk => ?_, fun k v hk => ?_⟩
  · have hdb : k ≠ databasePrefix ++ defaultDatabaseName := by
      rintro rfl
      exact absurd hk (by decide)
    have hip : k ≠ str "pmemaddr" := by
      rintro rfl
      exact absurd hk (by decide)
    rw [Server.fresh, Store.get_set_of_ne _ _ hdb, Store.get_set_of_ne _ _ hip, Store.get_empty]
    simp
  · have hip : k ≠ str "pmemaddr" := by
      rintro rfl
      exact absurd hk (by decide)
    rw [Server.fresh, Store.get_set, Store.get_set_of_ne _ _ hip, Store.get_empty]
    by_cases hdb : k = databasePrefix ++ defaultDatabaseName
    · simp [hdb, eq_comm]
    · simp [hdb]

/-- CREATE TABLE with a new name. -/
theorem Created.withTable {s : Server} {Ts : List DataTable} (h : Created s Ts) (T : DataTable)
    (hT : T.tableName ∉ Ts.map DataTable.tableName) :
    Created (s.withTable T.tableName T.cols) (Ts ++ [T]) := by
  have hdb : s.dbms.getCurDB.dbName = defaultDatabaseName := by
    rw [h.cur, DataBase.dbName_addTables]
    rfl
  have hstore : (s.withTable T.tableName T.cols).store =
      s.store.set (tablePrefix defaultDatabaseName ++ T.tableName) (descriptor T.cols) := by
    rw [← hdb]
    rfl
  refine ⟨?_, fun k v hk => ?_, fun k v hk => ?_⟩
  · rw [getCurDB_withTable, h.cur, DataBase.addTables, DataBase.addTables, List.foldl_concat]
  · rw [hstore, Store.get_set]
    simp only [List.mem_append, List.mem_singleton, or_and_right, exists_or, exists_eq_left]
    split_ifs with heq
    · have hold : ¬∃ T' ∈ Ts, (k, v) = T'.entry defaultDatabaseName := by
        rintro ⟨T', hT', he⟩
        have hname := List.append_cancel_left (heq.symm.trans (Prod.mk.inj he).1)
        exact hT (hname ▸ List.mem_map_of_mem hT')
      rw [or_iff_right hold, heq, DataTable.entry, Prod.mk.injEq, Option.some_inj, eq_comm]
      simp
    · have hnew : (k, v) ≠ T.entry defaultDatabaseName := fun he => heq (Prod.mk.inj he).1
      rw [or_iff_left hnew, h.tables k v hk]
  · rw [hstore, Store.get_set_of_ne, h.databases k v hk]
    rintro rfl
    rw [tablePrefix, List.append_assoc, List.append_assoc] at hk
    exact absurd (List.prefix_of_prefix_length_le ((str "table_").prefix_append _) hk (by decide))
      (by decide)

/-- A list of CREATE TABLEs with new names runs to its end. -/
theorem Created.exec (env : Env) : ∀ {defs : List (Str × List ColumnDefinition)} {s : Server}
    {Ts : List DataTable}, Created s Ts →
    ((Ts ++ defs.map createdTable).map DataTable.tableName).Nodup → ∀ u seq,
      ∃ s', (exec env u seq s (createStatements defs)).2 = .ok s' ∧
        Created s' (Ts ++ defs.map createdTable)
  | [], s, Ts, h, _, u, seq => ⟨s, rfl, by rwa [List.map_nil, List.append_nil]⟩
  | d :: defs, s, Ts, h, hnodup, u, seq => by
    rw [List.map_cons, List.append_cons] at hnodup ⊢
    have hT : (createdTable d).tableName ∉ Ts.map DataTable.tableName := by
      rw [List.map_append] at hnodup
      have hnodup' := hnodup.of_append_left
      rw [List.map_append, List.map_singleton] at hnodup'
      exact fun hmem => (List.nodup_append.1 hnodup').2.2 _ hmem _ (List.mem_singleton_self _) rfl
    obtain ⟨s', hs', hc⟩ := Created.exec env (h.withTable _ hT) hnodup (fun i => u (i + 1)) seq
    exact ⟨s', hs', hc⟩

/-! ## The start after it -/

section
variable {env : Env} (henv : env.redis.FullScan) {s : Server} {Ts : List DataTable}
  (h : Created s Ts)
include henv h

/-- The start finds one database. -/
theorem Created.new_eq : DBMS.new env.redis s.store =
    DataBase.recover env.redis s.store defaultDatabaseName >>= fun db =>
      .ok (DBMS.push none db, s.store) := by
  have hpage : env.redis.page s.store (databasePrefix ++ str "*") Redis.defaultCount =
      [(databasePrefix ++ defaultDatabaseName, defaultDatabaseName)] := by
    have hnodup := ((henv.full s.store (databasePrefix ++ str "*") Redis.defaultCount).nodup_iff).2
      (s.store.nodup_matching _)
    have hmem : ∀ e, e ∈ env.redis.page s.store (databasePrefix ++ str "*") Redis.defaultCount ↔
        e ∈ [(databasePrefix ++ defaultDatabaseName, defaultDatabaseName)] := by
      rintro ⟨k, v⟩
      rw [henv.mem_page, globMatch_plain plain_databasePrefix, List.mem_singleton]
      refine ⟨fun ⟨hget, hk⟩ => (h.databases k v hk).1 hget, fun he => ?_⟩
      obtain ⟨rfl, rfl⟩ := Prod.mk.inj he
      have hk := List.prefix_append databasePrefix defaultDatabaseName
      exact ⟨(h.databases _ _ hk).2 rfl, hk⟩
    exact List.perm_singleton.1
      ((List.perm_ext_iff_of_nodup hnodup (List.nodup_singleton _)).2 hmem)
  unfold DBMS.new
  simp only [henv.alternates _ (databasePrefix ++ str "*"), hpage]
  cases hrec : DataBase.recover env.redis s.store defaultDatabaseName <;>
    simp [DBMS.recoverLoop, hrec]

/-- It scans the entries of the tables. -/
theorem Created.mem_page {e : Entry} :
    e ∈ env.redis.page s.store (tablePrefix defaultDatabaseName ++ str "*") Redis.defaultCount ↔
      ∃ T ∈ Ts, e = T.entry defaultDatabaseName := by
  obtain ⟨k, v⟩ := e
  rw [henv.mem_page, globMatch_plain plain_tablePrefix_default]
  refine ⟨fun ⟨hget, hk⟩ => (h.tables k v hk).1 hget, fun he => ?_⟩
  have hk : tablePrefix defaultDatabaseName <+: k := by
    obtain ⟨T, -, heq⟩ := he
    obtain ⟨rfl, rfl⟩ := Prod.mk.inj heq
    exact List.prefix_append ..
  exact ⟨(h.tables k v hk).2 he, hk⟩

/-- A start that ends well has read every entry. -/
theorem Created.new_eq_ok {d : DBMS} {st : Store} :
    DBMS.new env.redis s.store = .ok (d, st) ↔
      ∃ Ts' : List DataTable, (env.redis.page s.store (tablePrefix defaultDatabaseName ++ str "*")
        Redis.defaultCount).map DataBase.readTable = Ts'.map Except.ok ∧
          d = DBMS.push none ((DataBase.new defaultDatabaseName).addTables Ts') ∧ st = s.store := by
  rw [h.new_eq henv, bind_eq_ok]
  unfold DataBase.recover
  rw [henv.alternates]
  refine ⟨fun ⟨db, hdb, hd⟩ => ?_, fun ⟨Ts', hTs', hd, hst⟩ => ?_⟩
  · obtain ⟨Ts', hTs', rfl⟩ := DataBase.recoverLoop_flat.1 hdb
    obtain ⟨rfl, rfl⟩ := Prod.mk.inj (Except.ok.inj hd)
    exact ⟨Ts', hTs', rfl, rfl⟩
  · exact ⟨_, DataBase.recoverLoop_flat.2 ⟨Ts', hTs', rfl⟩, by rw [hd, hst]⟩

end

section
variable {s : Server} {Ts : List DataTable} (h : Created s Ts)
include h

theorem Created.getTable (x : Str) :
    s.dbms.getCurDB.getTable x = Ts.find? fun T => T.tableName = x := by
  rw [h.cur, DataBase.getTable_addTables, DataBase.getTable_new, Option.none_or]

theorem Created.getTable_tableName (hnodup : (Ts.map DataTable.tableName).Nodup) {T : DataTable}
    (hT : T ∈ Ts) : s.dbms.getCurDB.getTable T.tableName = some T := by
  rw [h.getTable]
  exact find?_tableName_eq_some hT fun T' hT' heq => List.inj_on_of_nodup_map hnodup hT' hT heq

end

/-- Restorable tables are all found again. -/
theorem Created.sameCatalog {env : Env} (henv : env.redis.FullScan) {s : Server}
    {Ts : List DataTable} (h : Created s Ts) (hnodup : (Ts.map DataTable.tableName).Nodup)
    (hval : ∀ T ∈ Ts, ∀ c ∈ T.cols, c.val = []) (hrest : ∀ T ∈ Ts, Restorable T) :
    ∃ d st, DBMS.new env.redis s.store = .ok (d, st) ∧ SameCatalog s.dbms d := by
  have hread : ∀ T ∈ Ts, DataBase.readTable (T.entry defaultDatabaseName) = .ok T :=
    fun T hT => readTable_entry (hrest T hT) (hval T hT)
  obtain ⟨Ts', hTs'⟩ := exists_map_ok (f := DataBase.readTable) (l := env.redis.page s.store
      (tablePrefix defaultDatabaseName ++ str "*") Redis.defaultCount) fun e he => by
    obtain ⟨T, hT, rfl⟩ := (h.mem_page henv).1 he
    exact ⟨T, hread T hT⟩
  have hmem : ∀ T, T ∈ Ts' ↔ T ∈ Ts := by
    refine fun T => ⟨fun hT => ?_, fun hT => ?_⟩
    · obtain ⟨e, he, heT⟩ := exists_source_of_mem hTs' hT
      obtain ⟨T', hT', rfl⟩ := (h.mem_page henv).1 he
      rw [hread T' hT'] at heT
      exact Except.ok.inj heT ▸ hT'
    · obtain ⟨T', hT', heT⟩ := exists_result_of_mem hTs'
        ((h.mem_page henv).2 ⟨T, hT, rfl⟩)
      rw [hread T hT] at heT
      exact Except.ok.inj heT ▸ hT'
  refine ⟨_, _, (h.new_eq_ok henv).2 ⟨Ts', hTs', rfl, rfl⟩, ?_, fun x => ?_⟩
  · rw [DBMS.getCurDB_push, h.cur, DataBase.dbName_addTables, DataBase.dbName_addTables]
  · rw [DBMS.getCurDB_push, DataBase.getTable_addTables, DataBase.getTable_new, Option.none_or]
    cases hx : Ts'.find? fun T => T.tableName = x with
    | some T =>
      have hT := (hmem T).1 (List.mem_of_find?_eq_some hx)
      have hname : T.tableName = x := by simpa using List.find?_some hx
      rw [← hname, h.getTable_tableName hnodup hT]
    | none =>
      have hnone : s.dbms.getCurDB.getTable x = none := by
        rw [h.getTable, List.find?_eq_none]
        exact fun T hT => List.find?_eq_none.1 hx T ((hmem T).2 hT)
      rw [hnone]

/-- Tables that are all found again are restorable. -/
theorem Created.restorable {env : Env} (henv : env.redis.FullScan) {s : Server}
    {Ts : List DataTable} (h : Created s Ts) (hnodup : (Ts.map DataTable.tableName).Nodup)
    {d : DBMS} {st : Store} (hnew : DBMS.new env.redis s.store = .ok (d, st))
    (hsame : SameCatalog s.dbms d) : ∀ T ∈ Ts, Restorable T := by
  obtain ⟨Ts', hTs', rfl, -⟩ := (h.new_eq_ok henv).1 hnew
  -- each table is read from the entry of some table
  have hfound : ∀ T ∈ Ts, ∃ T' T'', T'' ∈ Ts ∧
      DataBase.readTable (T''.entry defaultDatabaseName) = .ok T' ∧
        T'.tableName = T.tableName ∧ T'.schema = T.schema := by
    intro T hT
    have hx := hsame.tables T.tableName
    rw [h.getTable_tableName hnodup hT, DBMS.getCurDB_push, DataBase.getTable_addTables,
      DataBase.getTable_new, Option.none_or, Option.map_some, Option.map_eq_some_iff] at hx
    obtain ⟨T', hT', hschema⟩ := hx
    obtain ⟨e, he, heT⟩ := exists_source_of_mem hTs' (List.mem_of_find?_eq_some hT')
    obtain ⟨T'', hT'', rfl⟩ := (h.mem_page henv).1 he
    exact ⟨T', T'', hT'', heT, by simpa using List.find?_some hT', hschema⟩
  have hname : ∀ T ∈ Ts, trim T.tableName = T.tableName ∧ CChar.ofChar '_' ∉ T.tableName := by
    intro T hT
    obtain ⟨T', T'', -, hread, heq, -⟩ := hfound T hT
    obtain ⟨-, htrim, hu, -⟩ := of_readTable hread
    exact heq ▸ ⟨htrim, hu⟩
  intro T hT
  obtain ⟨T', T'', hT'', hread, heq, hschema⟩ := hfound T hT
  obtain ⟨hlast, -, -, hne, hcols⟩ := of_readTable hread
  refine ⟨fun hnil => ?_, (hname T hT).1, (hname T hT).2, fun hnil => ?_, fun c hc => ?_⟩
  · -- the last part of a key is never empty
    rw [heq, hnil, DataTable.entry] at hlast
    by_cases hnil'' : T''.tableName = []
    · rw [hnil'', getLast?_stringSplit_key_nil] at hlast
      exact absurd hlast (by decide)
    · rw [getLast?_stringSplit_key hnil'' (hname T'' hT'').1 (hname T'' hT'').2] at hlast
      exact hnil'' (Option.some.inj hlast)
  · rw [DataTable.schema, DataTable.schema, hnil, List.map_nil, List.map_eq_nil_iff] at hschema
    exact hne hschema
  · have hmem : (c.colName, c.colType) ∈ T'.schema := hschema ▸ List.mem_map_of_mem hc
    obtain ⟨c', hc', hcc'⟩ := List.mem_map.1 hmem
    exact (Prod.mk.inj hcc').1 ▸ hcols c' hc'

/-! ## Restart transparency -/

section
variable {env : Env} (henv : env.redis.FullScan) {defs : List (Str × List ColumnDefinition)}
  (hnodup : (defs.map Prod.fst).Nodup)
include henv hnodup

omit henv in
theorem nodup_createdTable : ((defs.map createdTable).map DataTable.tableName).Nodup := by
  rwa [List.map_map]

theorem RestartTransparent.restorable (h : RestartTransparent env defs) :
    ∀ d ∈ defs, Restorable (createdTable d) := by
  have hnodup := nodup_createdTable hnodup
  obtain ⟨s, hs, hc⟩ := (created_fresh []).exec env hnodup (fun _ => .zero) 0
  obtain ⟨d, st, hnew, hsame⟩ := h [] _ (init_empty henv []) _ _ s hs
  exact fun d hd => hc.restorable henv hnodup hnew hsame _ (List.mem_map_of_mem hd)

theorem restartTransparent_of_restorable (h : ∀ d ∈ defs, Restorable (createdTable d)) :
    RestartTransparent env defs := by
  intro ip s₀ h₀ u seq s hs
  have hnodup := nodup_createdTable hnodup
  obtain rfl := Except.ok.inj (h₀.symm.trans (init_empty henv ip))
  obtain ⟨s', hs', hc⟩ := (created_fresh ip).exec env hnodup u seq
  obtain rfl := Except.ok.inj (hs.symm.trans hs')
  refine hc.sameCatalog henv hnodup (fun T hT c hc => ?_) fun T hT => ?_
  · obtain ⟨d, -, rfl⟩ := List.mem_map.1 hT
    obtain ⟨c', -, rfl⟩ := List.mem_map.1 hc
    rfl
  · obtain ⟨d, hd, rfl⟩ := List.mem_map.1 hT
    exact h d hd

end

/-- The catalog survives a restart exactly when every table is restorable : its name is not
empty, is its own trim and has no `_`, it has a column, and no column name has `^` or `$`. -/
theorem restartTransparent_iff {env : Env} (henv : env.redis.FullScan)
    (defs : List (Str × List ColumnDefinition)) (hnodup : (defs.map Prod.fst).Nodup) :
    RestartTransparent env defs ↔ ∀ d ∈ defs, Restorable (createdTable d) :=
  ⟨RestartTransparent.restorable henv hnodup, restartTransparent_of_restorable henv hnodup⟩

/-- Two tables with plain names. -/
theorem restartTransparent_classtab :
    RestartTransparent Env.whole
      [(str "classtab", classtab), (str "users", [⟨str "user_id", .long⟩])] := by
  refine (restartTransparent_iff Redis.whole_fullScan _ (by decide)).2 ?_
  rintro d hd
  rcases List.mem_pair.1 hd with rfl | rfl <;>
    exact ⟨by decide, by decide, by decide, by decide, by decide⟩

/-- Table `my_table` comes back as `table`. -/
theorem not_restartTransparent_underscore :
    ¬RestartTransparent Env.whole [(str "my_table", [⟨str "a", .int⟩])] := fun h =>
  absurd (h.restorable Redis.whole_fullScan (by decide) _ List.mem_cons_self).name_underscore
    (by decide)

end UhpSql
