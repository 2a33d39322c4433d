import UhpSql.Paging

/-!
# Dropping tables and databases (`meta/database.cc`, `meta/dbms.cc`)

`Built` catalogs come from a first start by creating and opening databases and creating tables.
`TableDropped` and `DatabaseDropped` say what a drop is for. `DropTable` leaves the table in memory
and an empty descriptor in the store, and `DropDataBase` writes a key that no start reads, so
neither ever holds (`dropped_never`). `recover_dropTable` and `recovered_dropDataBase` are about the
next start : the one fails, the other finds the database again.
-/

namespace UhpSql

/-! ## The calls -/

/-- `DropTable`. -/
def DataBase.dropTable (db : DataBase) (st : Store) (tableName : Str) : DataBase × Store :=
  ({ db with tableCount := db.tableCount - 1 }, st.set (tablePrefix db.dbName ++ tableName) [])

namespace DBMS

/-- `dbs_.find(db_name)`. -/
def findDB (d : DBMS) (dbName : Str) : Option (Fin d.dbs.length) :=
  d.dbs.findFinIdx? fun db => db.dbName = dbName

/-- `CreateDataBase`. A name that stands in `dbs_` already still stands for the older database. -/
def createDataBase (d : DBMS) (st : Store) (dbName : Str) : DBMS × Store :=
  (⟨d.dbs ++ [DataBase.new dbName], d.cur.castLE (by simp)⟩,
    st.set (databasePrefix ++ dbName) dbName)

/-- `OpenDataBase`. -/
def openDataBase (d : DBMS) (dbName : Str) : DBMS × Bool :=
  match d.findDB dbName with
  | some i => (⟨d.dbs, i⟩, true)
  | none => (d, false)

/-- `DropDataBase`. The key it writes is the bare name. -/
def dropDataBase (d : DBMS) (st : Store) (dbName : Str) : DBMS × Store :=
  match d.findDB dbName with
  | some _ => (d, st.set dbName [])
  | none => (d, st)

/-- `GetCurDB()->CreateTable`. -/
def createTable (d : DBMS) (st : Store) (tableName : Str) (cols : List TableColumn) :
    DBMS × Store :=
  let r := d.getCurDB.createTable st tableName cols
  (d.setCurDB r.1, r.2)

/-- `GetCurDB()->DropTable`. -/
def dropTable (d : DBMS) (st : Store) (tableName : Str) : DBMS × Store :=
  let r := d.getCurDB.dropTable st tableName
  (d.setCurDB r.1, r.2)

end DBMS

/-- Catalogs and stores that come from a first start by creating databases and tables. -/
inductive Built : DBMS → Store → Prop
  | start : Built (.push none (.new defaultDatabaseName))
      (Store.set ∅ (databasePrefix ++ defaultDatabaseName) defaultDatabaseName)
  | createDataBase {d : DBMS} {st : Store} (dbName : Str) : Built d st →
      Built (d.createDataBase st dbName).1 (d.createDataBase st dbName).2
  | openDataBase {d : DBMS} {st : Store} (dbName : Str) : Built d st →
      Built (d.openDataBase dbName).1 st
  | createTable {d : DBMS} {st : Store} (tableName : Str) (cols : List TableColumn) : Built d st →
      Built (d.createTable st tableName cols).1 (d.createTable st tableName cols).2

/-! ## What a drop is for -/

/-- The table `t` is found in the database `dbName`. -/
def DBMS.HasTableIn (d : DBMS) (dbName t : Str) : Prop :=
  ∃ i, d.findDB dbName = some i ∧ ((d.dbs.get i).getTable t).isSome

/-- The table is gone from the current database, the counter is right, and the next start finds
every other table. -/
structure TableDropped (R : Redis) (d : DBMS) (st : Store) (t : Str) : Prop where
  gone : (d.dropTable st t).1.getCurDB.getTable t = none
  count : (d.dropTable st t).1.getCurDB.tableCount.toInt =
    (d.dropTable st t).1.getCurDB.tables.entries.length
  recovers : ∃ d' st', DBMS.new R (d.dropTable st t).2 = .ok (d', st') ∧ ∀ dbName x,
    d'.HasTableIn dbName x ↔ d.HasTableIn dbName x ∧ ¬(dbName = d.getCurDB.dbName ∧ x = t)

/-- The database cannot be opened, and the next start finds every other one. -/
structure DatabaseDropped (R : Redis) (d : DBMS) (st : Store) (dbName : Str) : Prop where
  gone : ((d.dropDataBase st dbName).1.openDataBase dbName).2 = false
  recovers : ∃ d' st', DBMS.new R (d.dropDataBase st dbName).2 = .ok (d', st') ∧ ∀ name,
    (d'.openDataBase name).2 = true ↔ (d.openDataBase name).2 = true ∧ name ≠ dbName

/-! ## In memory -/

section
variable (d : DBMS) (st : Store)

/-- `DropTable` leaves every table where it is. -/
theorem getTable_dropTable (t x : Str) :
    (d.dropTable st t).1.getCurDB.getTable x = d.getCurDB.getTable x := by
  rw [DBMS.dropTable, DBMS.getCurDB_setCurDB]
  rfl

/-- `DropDataBase` leaves the catalog as it is. -/
theorem fst_dropDataBase (dbName : Str) : (d.dropDataBase st dbName).1 = d := by
  unfold DBMS.dropDataBase
  cases d.findDB dbName <;> rfl

/-- A database can be opened when there is one of this name. -/
theorem snd_openDataBase_iff (dbName : Str) :
    (d.openDataBase dbName).2 = true ↔ ∃ db ∈ d.dbs, db.dbName = dbName := by
  have hfind : d.findDB dbName = none ↔ ∀ db ∈ d.dbs, db.dbName ≠ dbName := by
    simp [DBMS.findDB]
  unfold DBMS.openDataBase
  cases hdb : d.findDB dbName with
  | none =>
    refine iff_of_false Bool.false_ne_true ?_
    rintro ⟨db, hmem, heq⟩
    exact hfind.1 hdb db hmem heq
  | some i =>
    refine iff_of_true rfl ?_
    by_contra hno
    push Not at hno
    exact absurd ((hfind.2 hno).symm.trans hdb) (Option.some_ne_none i).symm

end

/-! ## The next start -/

/-- The key of a table is not that of a database. -/
theorem databaseKey_ne_tableKey (dbName t x : Str) :
    databasePrefix ++ x ≠ tablePrefix dbName ++ t := by
  intro h
  rw [tablePrefix, List.append_assoc, List.append_assoc] at h
  have htable : str "table_" <+: databasePrefix ++ x := h ▸ List.prefix_append ..
  exact absurd (List.prefix_of_prefix_length_le htable (List.prefix_append ..) (by decide))
    (by decide)

/-- Every database of a built catalog is in the store. -/
theorem Built.get_databasePrefix {d : DBMS} {st : Store} (h : Built d st) :
    ∀ db ∈ d.dbs, st.get (databasePrefix ++ db.dbName) = some db.dbName := by
  induction h with
  | start =>
    intro db hdb
    obtain rfl := List.mem_singleton.1 hdb
    exact Store.get_set_self ..
  | @createDataBase d st dbName _ ih =>
    intro db hdb
    rw [DBMS.createDataBase, Store.get_set]
    split_ifs with heq
    · exact congrArg some (List.append_cancel_left heq).symm
    · rcases List.mem_append.1 hdb with hold | hnew
      · exact ih db hold
      · obtain rfl := List.mem_singleton.1 hnew
        exact absurd rfl heq
  | @openDataBase d st dbName _ ih =>
    unfold DBMS.openDataBase
    cases d.findDB dbName with
    | none => exact ih
    | some i => exact ih
  | @createTable d st tableName cols _ ih =>
    intro db hdb
    have hget : (d.createTable st tableName cols).2.get (databasePrefix ++ db.dbName) =
        st.get (databasePrefix ++ db.dbName) :=
      Store.get_set_of_ne _ _ (databaseKey_ne_tableKey _ _ _)
    rw [hget]
    rcases List.mem_or_eq_of_mem_set hdb with hold | rfl
    · exact ih db hold
    · exact ih d.getCurDB (List.get_mem ..)

section
variable {R : Redis} (hR : R.FullScan) {d : DBMS} {st : Store}
include hR

/-- A start reads every database that is in the store. -/
theorem exists_database_of_new {name : Str} (hget : st.get (databasePrefix ++ name) = some name)
    {d' : DBMS} {st' : Store} (hnew : DBMS.new R st = .ok (d', st')) :
    ∃ db ∈ d'.dbs, DataBase.recover R st name = .ok db := by
  have hmem : (databasePrefix ++ name, name) ∈
      R.page st (databasePrefix ++ str "*") Redis.defaultCount :=
    hR.mem_page.2 ⟨hget, (globMatch_plain plain_databasePrefix _).2 (List.prefix_append ..)⟩
  obtain ⟨newdbs, hmap, hdbs⟩ := (DBMS.exists_new_iff hR.toAlternates st (· = d'.dbs)).1
    ⟨d', st', hnew, rfl⟩
  have hfirst : (name, R.page st (tablePrefix name ++ str "*") Redis.defaultCount) ∈
      R.firstDatabases st := by
    rw [Redis.firstDatabases, if_neg (List.ne_nil_of_mem hmem)]
    exact List.mem_map.2 ⟨_, hmem, rfl⟩
  obtain ⟨db, hdb, hrec⟩ := exists_result_of_mem hmap hfirst
  rw [hdbs] at hdb
  refine ⟨db, hdb, ?_⟩
  rw [DataBase.recover, hR.toAlternates.element_eq]
  exact hrec

/-- After `DropTable` no start ends well : the empty descriptor cannot be read. The name of the
database has no special characters of a pattern. -/
theorem recover_dropTable (h : Built d st) (t : Str)
    (hplain : Plain (tablePrefix d.getCurDB.dbName)) :
    ∃ e, DBMS.new R (d.dropTable st t).2 = .error e := by
  have hdb : (d.dropTable st t).2.get (databasePrefix ++ d.getCurDB.dbName) =
      some d.getCurDB.dbName := by
    rw [DBMS.dropTable, DataBase.dropTable,
      Store.get_set_of_ne _ _ (databaseKey_ne_tableKey _ _ _)]
    exact h.get_databasePrefix _ (List.get_mem ..)
  cases hnew : DBMS.new R (d.dropTable st t).2 with
  | error e => exact ⟨e, rfl⟩
  | ok r =>
    obtain ⟨db, -, hrec⟩ := exists_database_of_new hR hdb hnew
    rw [DataBase.recover, hR.toAlternates.element_eq, DataBase.recoverLoop_flat] at hrec
    obtain ⟨Ts, hTs, -⟩ := hrec
    have hentry : (tablePrefix d.getCurDB.dbName ++ t, []) ∈ R.page (d.dropTable st t).2
        (tablePrefix d.getCurDB.dbName ++ str "*") Redis.defaultCount :=
      hR.mem_page.2 ⟨Store.get_set_self .., (globMatch_plain hplain _).2 (List.prefix_append ..)⟩
    obtain ⟨T, -, hT⟩ := exists_result_of_mem hTs hentry
    cases hT

/-- After `DropDataBase` a start that ends well finds the database again. -/
theorem recovered_dropDataBase (h : Built d st) {dbName : Str}
    (hdb : (d.openDataBase dbName).2 = true) {d' : DBMS} {st' : Store}
    (hnew : DBMS.new R (d.dropDataBase st dbName).2 = .ok (d', st')) :
    (d'.openDataBase dbName).2 = true := by
  obtain ⟨db, hmem, rfl⟩ := (snd_openDataBase_iff d dbName).1 hdb
  have hget : (d.dropDataBase st db.dbName).2.get (databasePrefix ++ db.dbName) =
      some db.dbName := by
    have hold := h.get_databasePrefix db hmem
    unfold DBMS.dropDataBase
    cases d.findDB db.dbName with
    | none => exact hold
    | some i =>
      rw [Store.get_set_of_ne, hold]
      intro heq
      have hlen := congrArg List.length heq
      rw [List.length_append, show databasePrefix.length = 9 from rfl] at hlen
      omega
  obtain ⟨db', hmem', hrec⟩ := exists_database_of_new hR hget hnew
  exact (snd_openDataBase_iff d' _).2 ⟨db', hmem', DataBase.dbName_recover hrec⟩

end

/-! ## No drop drops -/

/-- Whatever the catalog, a table that is found is not dropped, and neither is a database. -/
theorem dropped_never (R : Redis) (d : DBMS) (st : Store) :
    (∀ t, (d.getCurDB.getTable t).isSome → ¬TableDropped R d st t) ∧
      ∀ dbName, (d.openDataBase dbName).2 = true → ¬DatabaseDropped R d st dbName := by
  refine ⟨fun t ht h => ?_, fun dbName hdb h => ?_⟩
  · have hgone := h.gone
    rw [getTable_dropTable] at hgone
    rw [hgone] at ht
    exact absurd ht Bool.false_ne_true
  · have hgone := h.gone
    rw [fst_dropDataBase] at hgone
    exact absurd (hgone.symm.trans hdb) Bool.false_ne_true

/-- The default database with the table `classtab` of one column. -/
def classtabCatalog : DBMS × Store :=
  DBMS.createTable (.push none (.new defaultDatabaseName))
    (Store.set ∅ (databasePrefix ++ defaultDatabaseName) defaultDatabaseName) (str "classtab")
    [⟨str "Name", .varchar, []⟩]

theorem dropped_never_classtab :
    ¬TableDropped .whole classtabCatalog.1 classtabCatalog.2 (str "classtab") ∧
      ¬DatabaseDropped .whole classtabCatalog.1 classtabCatalog.2 defaultDatabaseName := by
  obtain ⟨htable, hdb⟩ := dropped_never .whole classtabCatalog.1 classtabCatalog.2
  exact ⟨htable _ rfl, hdb _ rfl⟩

/-- The table and the database are there, and are still there after their drops. -/
theorem not_dropped_classtab : Built classtabCatalog.1 classtabCatalog.2 ∧
    (classtabCatalog.1.getCurDB.getTable (str "classtab")).isSome ∧
      ¬TableDropped .whole classtabCatalog.1 classtabCatalog.2 (str "classtab") ∧
        (classtabCatalog.1.openDataBase defaultDatabaseName).2 = true ∧
          ¬DatabaseDropped .whole classtabCatalog.1 classtabCatalog.2 defaultDatabaseName :=
  ⟨.createTable _ _ .start, rfl, fun h => absurd h.gone nofun, rfl, fun h => absurd h.gone nofun⟩

end UhpSql
