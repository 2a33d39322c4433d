import Mathlib.Data.List.Perm.Subperm
import UhpSql.ReadYourWrites
import UhpSql.Recovery

/-!
# The first page of SCAN

No loop of the server asks for the cursor after `0`, so it sees the first page of a listing and
nothing else. `NoRowLost` and `NoTableLost` say that SELECT without WHERE shows every row and
that a start recovers every database and table. They hold exactly when the first pages are
enough (`nothingLost_iff`). `Redis.paged` is a server that lists a fixed number
of entries a page.
-/

namespace UhpSql

/-! ## Pages -/

namespace Redis

/-- The server that lists `size + 1` entries a page. The cursor is the number of entries
listed so far. -/
def paged (size : ℕ) : Redis where
  scan st cursor pattern _ :=
    let es := st.matching pattern
    ⟨if cursor + (size + 1) < es.length then cursor + (size + 1) else 0,
      flat ((es.drop cursor).take (size + 1))⟩

/-- From a cursor the rest of the entries is listed. -/
theorem paged_iteration (size : ℕ) (st : Store) (pattern : Str) (count : ℕ) :
    ∀ n cursor, (st.matching pattern).length - cursor ≤ n →
      (paged size).Iteration st pattern count cursor ((st.matching pattern).drop cursor)
  | n, cursor, hn => by
    by_cases h : cursor + (size + 1) < (st.matching pattern).length
    · obtain ⟨n, rfl⟩ : ∃ m, n = m + 1 := ⟨n - 1, by omega⟩
      rw [← List.take_append_drop (size + 1) ((st.matching pattern).drop cursor), List.drop_drop]
      have hscan : (paged size).scan st cursor pattern count =
          ⟨cursor + (size + 1), flat (((st.matching pattern).drop cursor).take (size + 1))⟩ := by
        simp only [paged, if_pos h]
      exact .more hscan (by omega) (paged_iteration size st pattern count n _ (by omega))
    · refine .last ?_
      simp only [paged, if_neg h]
      rw [List.take_of_length_le (by rw [List.length_drop]; omega)]

theorem paged_pagedScan (size : ℕ) : (paged size).PagedScan := fun st pattern count =>
  ⟨_, paged_iteration size st pattern count _ 0 le_rfl, fun _ => Iff.rfl⟩

end Redis

/-! ## Rows -/

/-- The entries under which the rows of a table are stored. -/
def rowEntries (s : Server) (t : Str) : List Entry :=
  s.store.toList.filter fun e => dataPrefix s.dbms.getCurDB.dbName t <+: e.1

/-- SELECT without WHERE shows every row of the table. -/
def NoRowLost (env : Env) (u : Uninit) (s : Server) (t : Str) (table : DataTable) : Prop :=
  ∃ rows, selectRows env u s (selectAll t) = .ok (some (rows, t)) ∧
    ((rowEntries s t).map fun e => decodeRow table e.2).Subperm rows

/-- The entries of the first page that come before the limit left in `Exec`. -/
def firstRows (env : Env) (u : Uninit) (s : Server) (t : Str) : List Entry :=
  taken (pastLimit u.limit) 0
    (env.redis.page s.store (dataPrefix s.dbms.getCurDB.dbName t ++ str "*") scanCount)

/-- The entries of the first page before the limit have every row of the table. -/
def RowsOnFirstPage (env : Env) (u : Uninit) (s : Server) (t : Str) : Prop :=
  ((rowEntries s t).map fun e => fields e.2).Subperm
    ((firstRows env u s t).map fun e => fields e.2)

/-- What is shown of the fields of a row. -/
def showFields (table : DataTable) (vals : List Str) : List TableColumn :=
  vals.zipIdx.map fun c => ⟨table.indexCol c.2, table.getColType (table.indexCol c.2), c.1⟩

theorem showFields_injective (table : DataTable) : Function.Injective (showFields table) := by
  intro vals vals' h
  have hval := congrArg (List.map TableColumn.val) h
  simpa [showFields, List.map_map, Function.comp_def] using hval

theorem map_decodeRow_eq (table : DataTable) (es : List Entry) :
    es.map (fun e => decodeRow table e.2) =
      (es.map fun e => fields e.2).map (showFields table) := by
  rw [List.map_map]
  rfl

theorem map_decodeRow_subperm_iff (table : DataTable) (es es' : List Entry) :
    (es.map fun e => decodeRow table e.2).Subperm (es'.map fun e => decodeRow table e.2) ↔
      (es.map fun e => fields e.2).Subperm (es'.map fun e => fields e.2) := by
  rw [map_decodeRow_eq, map_decodeRow_eq, List.map_subperm_map_iff (showFields_injective table)]

theorem selectRows_selectAll_eq {env : Env} (halt : env.redis.Alternates) (u : Uninit)
    {s : Server} {t : Str} {table : DataTable} (hT : s.dbms.getCurDB.getTable t = some table) :
    selectRows env u s (selectAll t) =
      .ok (some ((firstRows env u s t).map fun e => decodeRow table e.2, t)) := by
  rw [selectRows_selectAll hT]
  unfold selectRowsFromPMemKV
  simp only [if_true]
  rw [halt.element_eq, scanLoop_flat hT, List.filter_true]
  rfl

theorem noRowLost_iff (env : Env) (halt : env.redis.Alternates) (u : Uninit) {s : Server} {t : Str}
    {table : DataTable} (hT : s.dbms.getCurDB.getTable t = some table) :
    NoRowLost env u s t table ↔ RowsOnFirstPage env u s t := by
  rw [NoRowLost, selectRows_selectAll_eq halt u hT, RowsOnFirstPage,
    ← map_decodeRow_subperm_iff table]
  refine ⟨fun ⟨rows, hrows, hsub⟩ => ?_, fun h => ⟨_, rfl, h⟩⟩
  obtain ⟨rfl, -⟩ := Prod.mk.inj (Option.some.inj (Except.ok.inj hrows))
  exact hsub

/-! ## Databases and tables -/

/-- The databases a start makes, with the entries it reads for each. -/
def Redis.firstDatabases (R : Redis) (st : Store) : List (Str × List Entry) :=
  let page := R.page st (databasePrefix ++ str "*") Redis.defaultCount
  if page = [] then [(defaultDatabaseName, [])]
  else page.map fun e => (e.2, R.page st (tablePrefix e.2 ++ str "*") Redis.defaultCount)

/-- Every database of the store is among `dbs`, and has every table of it with the columns its
descriptor lists. -/
def RecoversAll (st : Store) (dbs : List DataBase) : Prop :=
  ∀ e ∈ st.matching (databasePrefix ++ str "*"), ∃ db ∈ dbs, db.dbName = e.2 ∧
    ∀ e' ∈ st.matching (tablePrefix e.2 ++ str "*"),
      ∃ T, DataBase.readTable e' = .ok T ∧ db.getTable T.tableName = some T

/-- A start ends well and recovers every database and table. -/
def NoTableLost (R : Redis) (st : Store) : Prop :=
  ∃ d st', DBMS.new R st = .ok (d, st') ∧ RecoversAll st d.dbs

/-- The first pages list every database and every table, each entry on them can be read, and
no name stands for two tables. -/
structure TablesOnFirstPage (R : Redis) (st : Store) : Prop where
  readable : ∀ p ∈ R.firstDatabases st, ∀ e ∈ p.2, ∃ T, DataBase.readTable e = .ok T
  covers : ∀ e ∈ st.matching (databasePrefix ++ str "*"), ∃ p ∈ R.firstDatabases st, p.1 = e.2 ∧
    ∀ e' ∈ st.matching (tablePrefix e.2 ++ str "*"),
      ∃ e'' ∈ p.2, DataBase.readTable e'' = DataBase.readTable e'
  names : ∀ e ∈ st.matching (databasePrefix ++ str "*"),
    ∀ e₁ ∈ st.matching (tablePrefix e.2 ++ str "*"),
      ∀ e₂ ∈ st.matching (tablePrefix e.2 ++ str "*"),
        ∀ T₁ T₂, DataBase.readTable e₁ = .ok T₁ → DataBase.readTable e₂ = .ok T₂ →
          T₁.tableName = T₂.tableName → T₁ = T₂

namespace DBMS

/-- The databases are made in the order of the reply. -/
theorem recoverLoop_flat {R : Redis} {st : Store} {d' : Option DBMS} :
    ∀ {es : List Entry} {d : Option DBMS}, recoverLoop R st (flat es) d = .ok d' ↔
      ∃ newdbs : List DataBase, (es.map fun e => DataBase.recover R st e.2) = newdbs.map Except.ok ∧
        d' = newdbs.foldl (fun d db => some (push d db)) d
  | [], d => by
    refine ⟨fun h => ⟨[], rfl, (Except.ok.inj h).symm⟩, fun ⟨newdbs, hnew, h⟩ => ?_⟩
    obtain rfl := List.map_eq_nil_iff.1 hnew.symm
    rw [h]
    rfl
  | e :: es, d => by
    rw [flat_cons, recoverLoop, bind_eq_ok]
    refine ⟨fun ⟨newdb, hnew, h⟩ => ?_, fun ⟨newdbs, hnew, h⟩ => ?_⟩
    · obtain ⟨newdbs, hnewdbs, rfl⟩ := recoverLoop_flat.1 h
      exact ⟨newdb :: newdbs, by rw [List.map_cons, List.map_cons, hnew, hnewdbs], rfl⟩
    · obtain ⟨newdb, newdbs, rfl, hnewdb, hnewdbs⟩ := List.map_eq_cons_iff.1 hnew.symm
      exact ⟨newdb, hnewdb.symm, recoverLoop_flat.2 ⟨newdbs, hnewdbs.symm, h⟩⟩

theorem dbs_foldl_push (newdbs : List DataBase) : ∀ d : Option DBMS,
    (newdbs.foldl (fun d db => some (push d db)) d).elim [] dbs = d.elim [] dbs ++ newdbs := by
  induction newdbs with
  | nil => exact fun d => (List.append_nil _).symm
  | cons db newdbs ih =>
    intro d
    rw [List.foldl_cons, ih, List.append_cons]
    rfl

theorem dbs_of_foldl_push {newdbs : List DataBase} {d : DBMS}
    (h : newdbs.foldl (fun d db => some (push d db)) none = some d) : d.dbs = newdbs := by
  have hdbs := dbs_foldl_push newdbs none
  rwa [h] at hdbs

/-- A start makes the databases of the first page. -/
theorem exists_new_iff {R : Redis} (halt : R.Alternates) (st : Store) (P : List DataBase → Prop) :
    (∃ d st', new R st = .ok (d, st') ∧ P d.dbs) ↔
      ∃ newdbs : List DataBase, ((R.firstDatabases st).map fun p =>
        DataBase.recoverLoop (flat p.2) (DataBase.new p.1)) = newdbs.map Except.ok ∧ P newdbs := by
  unfold new Redis.firstDatabases
  simp only [halt.element_eq st (databasePrefix ++ str "*")]
  by_cases hpage : R.page st (databasePrefix ++ str "*") Redis.defaultCount = []
  · simp only [hpage, flat_nil, if_true]
    refine ⟨fun ⟨d, st', hnew, hP⟩ => ?_, fun ⟨newdbs, hnew, hP⟩ => ?_⟩
    · obtain ⟨rfl, -⟩ := Prod.mk.inj (Except.ok.inj hnew)
      exact ⟨_, rfl, hP⟩
    · obtain ⟨db, dbs, rfl, hdb, hdbs⟩ := List.map_eq_cons_iff.1 hnew.symm
      obtain rfl := List.map_eq_nil_iff.1 hdbs
      obtain rfl := Except.ok.inj hdb
      exact ⟨_, _, rfl, hP⟩
  · have hflat : flat (R.page st (databasePrefix ++ str "*") Redis.defaultCount) ≠ [] := by
      refine mt (fun h => List.length_eq_zero_iff.1 ?_) hpage
      have hlen := congrArg List.length h
      rw [length_flat, List.length_nil] at hlen
      omega
    have hrec : ∀ e : Entry, DataBase.recoverLoop
        (flat (R.page st (tablePrefix e.2 ++ str "*") Redis.defaultCount)) (DataBase.new e.2) =
          DataBase.recover R st e.2 := fun e => by rw [DataBase.recover, halt.element_eq]
    simp only [if_neg hpage, if_neg hflat, List.map_map, Function.comp_def, hrec]
    refine ⟨fun ⟨d, st', hnew, hP⟩ => ?_, fun ⟨newdbs, hnew, hP⟩ => ?_⟩
    · obtain ⟨d', hloop, hnew⟩ := bind_eq_ok.1 hnew
      obtain ⟨d'', hd, hnew⟩ := bind_eq_ok.1 hnew
      obtain ⟨rfl, -⟩ := Prod.mk.inj (Except.ok.inj hnew)
      obtain ⟨newdbs, hnewdbs, rfl⟩ := recoverLoop_flat.1 hloop
      exact ⟨newdbs, hnewdbs, dbs_of_foldl_push (deref_eq_ok.1 hd) ▸ hP⟩
    · have hloop := (recoverLoop_flat (d := none)).2 ⟨newdbs, hnew, rfl⟩
      cases hd : newdbs.foldl (fun d db => some (push d db)) none with
      | none =>
        have hnil := dbs_foldl_push newdbs none
        rw [hd] at hnil
        rw [← show [] = newdbs from hnil, List.map_nil, List.map_eq_nil_iff] at hnew
        exact absurd hnew hpage
      | some d =>
        rw [hd] at hloop
        exact ⟨d, st, by rw [hloop]; rfl, (dbs_of_foldl_push hd).symm ▸ hP⟩

end DBMS

theorem Redis.PagedScan.of_mem_firstDatabases {R : Redis} (hR : R.PagedScan) {st : Store}
    {p : Str × List Entry} (hp : p ∈ R.firstDatabases st) {e : Entry} (he : e ∈ p.2) :
    e ∈ st.matching (tablePrefix p.1 ++ str "*") := by
  unfold Redis.firstDatabases at hp
  simp only at hp
  split_ifs at hp
  · obtain rfl := List.mem_singleton.1 hp
    exact absurd he List.not_mem_nil
  · obtain ⟨e', -, rfl⟩ := List.mem_map.1 hp
    exact hR.toSound.subset _ _ _ _ he

theorem NoTableLost.tablesOnFirstPage {R : Redis} (halt : R.Alternates) {st : Store}
    (h : NoTableLost R st) : TablesOnFirstPage R st := by
  obtain ⟨newdbs, hnew, hall⟩ := (DBMS.exists_new_iff halt st (RecoversAll st)).1 h
  refine ⟨fun p hp e he => ?_, fun e he => ?_, fun e he e₁ he₁ e₂ he₂ T₁ T₂ hT₁ hT₂ heq => ?_⟩
  · obtain ⟨db, -, hdb⟩ := exists_result_of_mem hnew hp
    obtain ⟨Ts, hTs, -⟩ := DataBase.recoverLoop_flat.1 hdb
    obtain ⟨T, -, hT⟩ := exists_result_of_mem hTs he
    exact ⟨T, hT⟩
  · obtain ⟨db, hdb, hname, htables⟩ := hall e he
    obtain ⟨p, hp, hpdb⟩ := exists_source_of_mem hnew hdb
    obtain ⟨Ts, hTs, rfl⟩ := DataBase.recoverLoop_flat.1 hpdb
    rw [DataBase.dbName_addTables] at hname
    refine ⟨p, hp, hname, fun e' he' => ?_⟩
    obtain ⟨T, hT, hget⟩ := htables e' he'
    rw [DataBase.getTable_addTables, DataBase.getTable_new, Option.none_or] at hget
    obtain ⟨e'', he'', hT''⟩ := exists_source_of_mem hTs (List.mem_of_find?_eq_some hget)
    exact ⟨e'', he'', by rw [hT'', hT]⟩
  · obtain ⟨db, -, -, htables⟩ := hall e he
    obtain ⟨T₁', hT₁', hget₁⟩ := htables e₁ he₁
    obtain ⟨T₂', hT₂', hget₂⟩ := htables e₂ he₂
    obtain rfl := Except.ok.inj (hT₁.symm.trans hT₁')
    obtain rfl := Except.ok.inj (hT₂.symm.trans hT₂')
    rw [heq, hget₂] at hget₁
    exact (Option.some.inj hget₁).symm

theorem TablesOnFirstPage.noTableLost {R : Redis} (hR : R.PagedScan) {st : Store}
    (h : TablesOnFirstPage R st) : NoTableLost R st := by
  have hdbs : ∀ p ∈ R.firstDatabases st,
      ∃ db, DataBase.recoverLoop (flat p.2) (DataBase.new p.1) = .ok db := by
    intro p hp
    obtain ⟨Ts, hTs⟩ := exists_map_ok (h.readable p hp)
    exact ⟨_, DataBase.recoverLoop_flat.2 ⟨Ts, hTs, rfl⟩⟩
  obtain ⟨newdbs, hnew⟩ := exists_map_ok hdbs
  refine (DBMS.exists_new_iff hR.toSound.alternates st (RecoversAll st)).2
    ⟨newdbs, hnew, fun e he => ?_⟩
  obtain ⟨p, hp, hname, hcovers⟩ := h.covers e he
  obtain ⟨db, hdb, hpdb⟩ := exists_result_of_mem hnew hp
  obtain ⟨Ts, hTs, rfl⟩ := DataBase.recoverLoop_flat.1 hpdb
  refine ⟨_, hdb, by rw [DataBase.dbName_addTables]; exact hname, fun e' he' => ?_⟩
  obtain ⟨e'', he'', hsame⟩ := hcovers e' he'
  obtain ⟨T, hT, hread⟩ := exists_result_of_mem hTs he''
  refine ⟨T, hsame ▸ hread, ?_⟩
  rw [DataBase.getTable_addTables, DataBase.getTable_new, Option.none_or]
  refine find?_tableName_eq_some hT fun T' hT' heq => ?_
  obtain ⟨e₁, he₁, hread₁⟩ := exists_source_of_mem hTs hT'
  have hmem := fun e h => hname ▸ hR.of_mem_firstDatabases (e := e) hp h
  exact h.names e he e₁ (hmem _ he₁) e'' (hmem _ he'') T' T hread₁ hread heq

/-! ## Nothing is lost to paging -/

/-- Nothing is lost exactly when the first pages are enough. -/
theorem nothingLost_iff (env : Env) (henv : env.redis.PagedScan) (u : Uninit) {s : Server} {t : Str}
    {table : DataTable} (hT : s.dbms.getCurDB.getTable t = some table) :
    NoRowLost env u s t table ∧ NoTableLost env.redis s.store ↔
      RowsOnFirstPage env u s t ∧ TablesOnFirstPage env.redis s.store :=
  and_congr (noRowLost_iff env henv.toSound.alternates u hT)
    ⟨NoTableLost.tablesOnFirstPage henv.toSound.alternates, TablesOnFirstPage.noTableLost henv⟩

/-- The table of the test script. -/
def classTable : DataTable :=
  ⟨str "classtab", ofDefinitions classtab⟩

/-- A server with a table of two rows. -/
def amyServer : Server :=
  tomServer.setRow (str "classtab") (str "Amy")
    (stringsJoin [str "Amy", str "A", str "90"] (str "$$"))

theorem getTable_amyServer : amyServer.dbms.getCurDB.getTable (str "classtab") =
    some classTable :=
  getTable_classServer

theorem rowsOnFirstPage_amyServer : RowsOnFirstPage Env.whole .zero amyServer (str "classtab") := by
  have heq : firstRows Env.whole .zero amyServer (str "classtab") =
      rowEntries amyServer (str "classtab") := by decide
  rw [RowsOnFirstPage, heq]

theorem tablesOnFirstPage_amyServer : TablesOnFirstPage Redis.whole amyServer.store := by
  have hread : DataBase.readTable (classTable.entry defaultDatabaseName) = .ok classTable :=
    readTable_entry ⟨by decide, by decide, by decide, by decide, by decide⟩ (by decide)
  have hfirst : Redis.whole.firstDatabases amyServer.store =
      [(defaultDatabaseName, [classTable.entry defaultDatabaseName])] := by decide
  have hdbs : amyServer.store.matching (databasePrefix ++ str "*") =
      [(databasePrefix ++ defaultDatabaseName, defaultDatabaseName)] := by decide
  have htables : amyServer.store.matching (tablePrefix defaultDatabaseName ++ str "*") =
      [classTable.entry defaultDatabaseName] := by decide
  refine ⟨fun p hp e he => ?_, fun e he => ?_, fun e he e₁ he₁ e₂ he₂ T₁ T₂ hT₁ hT₂ _ => ?_⟩
  · rw [hfirst, List.mem_singleton] at hp
    rw [hp, List.mem_singleton] at he
    exact ⟨classTable, he ▸ hread⟩
  · rw [hdbs, List.mem_singleton] at he
    rw [he, htables, hfirst]
    exact ⟨_, List.mem_singleton_self _, rfl, fun e' he' => ⟨e', he', rfl⟩⟩
  · rw [hdbs, List.mem_singleton] at he
    rw [he, htables, List.mem_singleton] at he₁ he₂
    rw [he₁] at hT₁
    rw [he₂] at hT₂
    exact Except.ok.inj (hT₁.symm.trans hT₂)

/-- A server that lists everything at once. -/
theorem nothingLost_amy : Redis.whole.PagedScan ∧
    NoRowLost Env.whole .zero amyServer (str "classtab") classTable ∧
      NoTableLost Redis.whole amyServer.store := by
  have hpaged : Redis.whole.PagedScan := Redis.whole_fullScan.pagedScan fun _ _ _ => rfl
  exact ⟨hpaged, (nothingLost_iff Env.whole hpaged .zero getTable_amyServer).2
    ⟨rowsOnFirstPage_amyServer, tablesOnFirstPage_amyServer⟩⟩

/-- A server that lists one entry a page shows one of two rows. -/
theorem rowLost_amy : (Redis.paged 0).PagedScan ∧
    ¬(NoRowLost ⟨Redis.paged 0, []⟩ .zero amyServer (str "classtab") classTable ∧
      NoTableLost (Redis.paged 0) amyServer.store) := by
  refine ⟨Redis.paged_pagedScan 0, fun ⟨h, _⟩ => ?_⟩
  have hsub := (noRowLost_iff ⟨Redis.paged 0, []⟩ (Redis.paged_pagedScan 0).toSound.alternates .zero
    getTable_amyServer).1 h
  exact absurd hsub.length_le (by decide)

end UhpSql
