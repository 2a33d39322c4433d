import UhpSql.Restart

/-!
# The catalog in memory and in the store

`CatalogAgrees` : the counter of tables is right, the store has a descriptor for exactly the
tables in memory, and each descriptor reads back as the columns in memory. `tables_.insert`
keeps the first table of a name, while the counter and the store go on with every CREATE
TABLE. `agreesThroughout_iff` says which runs keep the agreement.
-/

namespace UhpSql

/-- Memory and store describe the same tables. -/
structure CatalogAgrees (s : Server) : Prop where
  count : s.dbms.getCurDB.tableCount.toInt = s.dbms.getCurDB.tables.entries.length
  stored : ∀ t, (s.dbms.getCurDB.getTable t).isSome ↔
    (s.store.get (tablePrefix s.dbms.getCurDB.dbName ++ t)).isSome
  columns : ∀ t T v, s.dbms.getCurDB.getTable t = some T →
    s.store.get (tablePrefix s.dbms.getCurDB.dbName ++ t) = some v →
      ∃ cols, getColFromStr v = .ok cols ∧ DataTable.schema ⟨t, cols⟩ = T.schema

/-- Every state that the CREATE TABLEs go through agrees. -/
def AgreesThroughout (env : Env) (u : ℕ → Uninit) (seq : UInt8) (s : Server)
    (defs : List (Str × List ColumnDefinition)) : Prop :=
  ∀ pre, pre <+: defs →
    ∃ s', (exec env u seq s (createStatements pre)).2 = .ok s' ∧ CatalogAgrees s'

/-! ## One descriptor -/

/-- A descriptor reads back as its columns when there are any and their names are unmarked. -/
theorem getColFromStr_descriptor_iff {cols : List TableColumn} (hval : ∀ c ∈ cols, c.val = [])
    (t : Str) :
    (∃ cols', getColFromStr (descriptor cols) = .ok cols' ∧
      DataTable.schema ⟨t, cols'⟩ = DataTable.schema ⟨t, cols⟩) ↔
        cols ≠ [] ∧ ∀ c ∈ cols, Unmarked c.colName := by
  refine ⟨fun h => ?_, fun h => ?_⟩
  · obtain ⟨cols', hread, hschema⟩ := h
    obtain ⟨hne, hmark⟩ := unmarked_of_getColLoop unmarked_nil unmarked_nil hread
    refine ⟨fun hnil => hne ?_, fun c hc => ?_⟩
    · rw [hnil] at hschema
      exact List.map_eq_nil_iff.1 hschema
    · have hmem : (c.colName, c.colType) ∈ DataTable.schema ⟨t, cols'⟩ :=
        hschema ▸ List.mem_map_of_mem hc
      obtain ⟨c', hc', heq⟩ := List.mem_map.1 hmem
      exact (Prod.mk.inj heq).1 ▸ hmark c' hc'
  · exact ⟨cols, getColLoop_descriptor h.1 (fun c hc => ⟨h.2 c hc, hval c hc⟩) [], rfl⟩

/-! ## One CREATE TABLE -/

/-- The counter goes on by one below `2 ^ 31`. -/
theorem toInt_add_one_iff {n : Int32} {m : ℕ} (h : n.toInt = m) :
    (n + 1).toInt = (m + 1 : ℕ) ↔ m + 1 < 2 ^ 31 := by
  rw [Int32.toInt_add, h, show (1 : Int32).toInt = 1 from rfl, Int.bmod_def]
  omega

theorem toInt_add_one_ne (n : Int32) : (n + 1).toInt ≠ n.toInt := by
  have hle := n.toInt_le
  have hge := n.le_toInt
  rw [Int32.toInt_add, show (1 : Int32).toInt = 1 from rfl, Int.bmod_def]
  omega

theorem length_tables_addTable {db : DataBase} {t : Str} (ht : db.getTable t = none)
    (cols : List TableColumn) :
    (db.addTable t cols).tables.entries.length = db.tables.entries.length + 1 := by
  have hmem : t ∉ db.tables := AList.lookup_eq_none.1 ht
  rw [DataBase.addTable, if_neg hmem, AList.insert_of_notMem hmem]
  rfl

theorem tables_addTable_of_isSome {db : DataBase} {t : Str} (ht : (db.getTable t).isSome)
    (cols : List TableColumn) : (db.addTable t cols).tables = db.tables := by
  rw [DataBase.addTable, if_pos (AList.lookup_isSome.1 ht)]

section
variable {s : Server} {t : Str} {cols : List ColumnDefinition}

/-- The store after a CREATE TABLE, seen by the names of tables. -/
theorem get_tableKey_withTable (x : Str) :
    (s.withTable t (ofDefinitions cols)).store.get (tablePrefix s.dbms.getCurDB.dbName ++ x) =
      if x = t then some (descriptor (ofDefinitions cols))
      else s.store.get (tablePrefix s.dbms.getCurDB.dbName ++ x) := by
  have hstore : (s.withTable t (ofDefinitions cols)).store =
      s.store.set (tablePrefix s.dbms.getCurDB.dbName ++ t) (descriptor (ofDefinitions cols)) := rfl
  rw [hstore, Store.get_set]
  simp only [List.append_cancel_left_eq]

/-- CREATE TABLE keeps the agreement exactly when the name is new, the counter has room, and
there are columns with unmarked names. -/
theorem catalogAgrees_withTable_iff (h : CatalogAgrees s) :
    CatalogAgrees (s.withTable t (ofDefinitions cols)) ↔
      s.dbms.getCurDB.getTable t = none ∧
        s.dbms.getCurDB.tables.entries.length + 1 < 2 ^ 31 ∧
          cols ≠ [] ∧ ∀ c ∈ cols, Unmarked c.name := by
  have hread := @getColFromStr_descriptor_iff (ofDefinitions cols) (fun c hc => by
    obtain ⟨d, -, rfl⟩ := List.mem_map.1 hc
    rfl) t
  have hdefs : (ofDefinitions cols ≠ [] ∧ ∀ c ∈ ofDefinitions cols, Unmarked c.colName) ↔
      cols ≠ [] ∧ ∀ c ∈ cols, Unmarked c.name := by
    simp [ofDefinitions]
  rw [← hdefs, ← hread]
  refine ⟨fun h' => ?_, fun h' => ?_⟩
  · have hcount := h'.count
    rw [getCurDB_withTable] at hcount
    have hnew : s.dbms.getCurDB.getTable t = none := by
      by_contra hold
      rw [tables_addTable_of_isSome (Option.isSome_iff_ne_none.2 hold), ← h.count] at hcount
      exact toInt_add_one_ne _ hcount
    rw [length_tables_addTable hnew] at hcount
    refine ⟨hnew, (toInt_add_one_iff h.count).1 hcount, ?_⟩
    refine h'.columns t ⟨t, ofDefinitions cols⟩ _ ?_ ?_
    · rw [getCurDB_withTable, DataBase.getTable_addTable, hnew, if_pos rfl, Option.none_or]
    · rw [getCurDB_withTable, DataBase.dbName_addTable, get_tableKey_withTable, if_pos rfl]
  · obtain ⟨hnew, hroom, hcols⟩ := h'
    refine ⟨?_, fun x => ?_, fun x T v hT hv => ?_⟩
    · rw [getCurDB_withTable, length_tables_addTable hnew]
      exact (toInt_add_one_iff h.count).2 hroom
    · rw [getCurDB_withTable, DataBase.dbName_addTable, get_tableKey_withTable,
        DataBase.getTable_addTable]
      split_ifs with hx
      · simp
      · rw [Option.or_none]
        exact h.stored x
    · rw [getCurDB_withTable, DataBase.dbName_addTable, get_tableKey_withTable] at hv
      rw [getCurDB_withTable, DataBase.getTable_addTable] at hT
      split_ifs at hT hv with hx
      · subst hx
        rw [hnew, Option.none_or] at hT
        obtain rfl := Option.some.inj hT
        obtain rfl := Option.some.inj hv
        exact hcols
      · rw [Option.or_none] at hT
        exact h.columns x T v hT hv

end

/-! ## The run -/

/-- The condition on the statements of a run, from a server on. -/
structure Agreeable (s : Server) (defs : List (Str × List ColumnDefinition)) : Prop where
  nodup : (defs.map Prod.fst).Nodup
  fresh : ∀ d ∈ defs, s.dbms.getCurDB.getTable d.1 = none
  room : s.dbms.getCurDB.tables.entries.length + defs.length < 2 ^ 31
  columns : ∀ d ∈ defs, d.2 ≠ [] ∧ ∀ c ∈ d.2, Unmarked c.name

section
variable {env : Env} {seq : UInt8} {u : ℕ → Uninit} {s : Server} {d : Str × List ColumnDefinition}
  {defs : List (Str × List ColumnDefinition)}

theorem AgreesThroughout.start (h : AgreesThroughout env u seq s defs) : CatalogAgrees s := by
  obtain ⟨s', hs', hagrees⟩ := h [] List.nil_prefix
  obtain rfl := Except.ok.inj hs'
  exact hagrees

/-- The run after the first CREATE TABLE. -/
theorem agreesThroughout_cons_iff (h : CatalogAgrees s) :
    AgreesThroughout env u seq s (d :: defs) ↔
      AgreesThroughout env (fun i => u (i + 1)) seq (s.withTable d.1 (ofDefinitions d.2)) defs := by
  refine ⟨fun hall pre hpre => ?_, fun hall pre hpre => ?_⟩
  · exact hall (d :: pre) (List.cons_prefix_cons.2 ⟨rfl, hpre⟩)
  · rcases List.prefix_cons_iff.1 hpre with rfl | ⟨pre', rfl, hpre'⟩
    · exact ⟨s, rfl, h⟩
    · exact hall pre' hpre'

/-- The condition on a run, one CREATE TABLE after the other. -/
theorem agreeable_cons_iff (h : CatalogAgrees s) :
    Agreeable s (d :: defs) ↔ CatalogAgrees (s.withTable d.1 (ofDefinitions d.2)) ∧
      Agreeable (s.withTable d.1 (ofDefinitions d.2)) defs := by
  rw [catalogAgrees_withTable_iff h]
  refine ⟨fun hs => ?_, fun hs => ?_⟩
  · have hnew := hs.fresh d List.mem_cons_self
    have hroom := hs.room
    rw [List.length_cons] at hroom
    obtain ⟨hd, hnodup⟩ := List.nodup_cons.1 hs.nodup
    refine ⟨⟨hnew, by omega, hs.columns d List.mem_cons_self⟩, hnodup, fun d' hd' => ?_, ?_,
      fun d' hd' => hs.columns d' (List.mem_cons_of_mem _ hd')⟩
    · have hne : d'.1 ≠ d.1 := fun heq => hd (heq ▸ List.mem_map_of_mem hd')
      rw [getCurDB_withTable, DataBase.getTable_addTable, if_neg hne, Option.or_none]
      exact hs.fresh d' (List.mem_cons_of_mem _ hd')
    · rw [getCurDB_withTable, length_tables_addTable hnew]
      omega
  · obtain ⟨⟨hnew, -, hcols⟩, hrest⟩ := hs
    have hroom := hrest.room
    rw [getCurDB_withTable, length_tables_addTable hnew] at hroom
    have hfresh : ∀ d' ∈ defs, s.dbms.getCurDB.getTable d'.1 = none ∧ d'.1 ≠ d.1 :=
      fun d' hd' => by
        have hnone := hrest.fresh d' hd'
        rw [getCurDB_withTable, DataBase.getTable_addTable, Option.or_eq_none_iff] at hnone
        exact ⟨hnone.1, fun heq => by simp [heq] at hnone⟩
    refine ⟨List.nodup_cons.2 ⟨fun hmem => ?_, hrest.nodup⟩, List.forall_mem_cons.2 ⟨hnew,
      fun d' hd' => (hfresh d' hd').1⟩, by rw [List.length_cons]; omega,
      List.forall_mem_cons.2 ⟨hcols, hrest.columns⟩⟩
    obtain ⟨d', hd', heq⟩ := List.mem_map.1 hmem
    exact (hfresh d' hd').2 heq

end

/-- Every state on the way agrees exactly when no name is used twice, the counter has room, and
every table has columns, with unmarked names. -/
theorem agreesThroughout_iff (env : Env) {seq : UInt8} :
    ∀ {defs : List (Str × List ColumnDefinition)} {u : ℕ → Uninit} {s : Server}, CatalogAgrees s →
      (AgreesThroughout env u seq s defs ↔ Agreeable s defs)
  | [], u, s, h => by
    refine iff_of_true (fun pre hpre => ⟨s, ?_, h⟩) ⟨List.nodup_nil, nofun, ?_, nofun⟩
    · rw [List.prefix_nil.1 hpre]
      rfl
    · have hlt := Int32.toInt_lt s.dbms.getCurDB.tableCount
      rw [h.count] at hlt
      rw [List.length_nil]
      omega
  | d :: defs, u, s, h => by
    rw [agreesThroughout_cons_iff h, agreeable_cons_iff h]
    refine ⟨fun hall => ?_, fun hs => (agreesThroughout_iff env hs.1).2 hs.2⟩
    exact ⟨hall.start, (agreesThroughout_iff env hall.start).1 hall⟩

/-- A first start leaves no tables. -/
theorem catalogAgrees_fresh (ip : Str) : CatalogAgrees (Server.fresh ip) := by
  have hget : ∀ t, (Server.fresh ip).store.get (tablePrefix defaultDatabaseName ++ t) = none :=
    fun t => by
      by_contra hsome
      obtain ⟨v, hv⟩ := Option.ne_none_iff_exists'.1 hsome
      obtain ⟨T, hT, -⟩ := ((created_fresh ip).tables _ v (List.prefix_append ..)).1 hv
      exact absurd hT List.not_mem_nil
  refine ⟨?_, fun t => ?_, fun t T v hT _ => ?_⟩
  · rw [getCurDB_fresh]
    rfl
  · rw [getCurDB_fresh]
    exact iff_of_false Bool.false_ne_true (by rw [DataBase.new, hget]; exact Bool.false_ne_true)
  · rw [getCurDB_fresh, DataBase.getTable_new] at hT
    cases hT

/-- Two tables with columns. -/
theorem agreesThroughout_classtab : AgreesThroughout Env.whole (fun _ => .zero) 0
    (Server.fresh (str "127.0.0.1"))
      [(str "classtab", classtab), (str "users", [⟨str "user_id", .long⟩])] := by
  refine (agreesThroughout_iff .whole (catalogAgrees_fresh _)).2
    ⟨by decide, fun d _ => by rw [getCurDB_fresh, DataBase.getTable_new], ?_, by decide⟩
  rw [getCurDB_fresh]
  exact show 2 < 2 ^ 31 by omega

/-- A second CREATE TABLE under one name changes the store and not the table in memory. -/
theorem not_agreesThroughout_repeated : Reachable Env.whole (Server.fresh (str "127.0.0.1")) ∧
    ¬AgreesThroughout Env.whole (fun _ => .zero) 0 (Server.fresh (str "127.0.0.1"))
      [(str "classtab", classtab), (str "classtab", [⟨str "Name", .varchar⟩])] := by
  refine ⟨Reachable.fresh Redis.whole_fullScan _, fun h => ?_⟩
  have hrest := (agreesThroughout_cons_iff (catalogAgrees_fresh _)).1 h
  have hlast := ((agreesThroughout_cons_iff hrest.start).1 hrest).start
  have hnew := ((catalogAgrees_withTable_iff hrest.start).1 hlast).1
  exact absurd (hnew.symm.trans getTable_classServer) (Option.some_ne_none _).symm

end UhpSql
