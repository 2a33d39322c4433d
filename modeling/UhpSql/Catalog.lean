import UhpSql.Ast
import UhpSql.Redis

/-!
# The catalog (`meta/`)

A `DBMS` holds databases, a `DataBase` tables, a `DataTable` columns. CREATE TABLE adds a
table to the current database and writes its descriptor to the store under
`table_<db>_<table>`. `DBMS.new` reads the databases and tables back at start-up.

A loop variable `int i` is a natural number. An index that is negative or past the end of a
vector is `Fault.outOfBounds`.
-/

namespace UhpSql

/-! ## Columns and tables -/

/-- A column, with a value when it stands for a field of a row. -/
structure TableColumn where
  colName : Str
  colType : DataType
  val : Str := []
  deriving DecidableEq

/-- `DataTable`. The constructor fills `col_type_`, `col_index_` and `index_col_` from `cols_`
and nothing changes them later, so they are functions of `cols`. -/
structure DataTable where
  tableName : Str
  cols : List TableColumn
  deriving DecidableEq

namespace DataTable

/-- `col_type_` : of columns with one name, the last counts. -/
def colTypeMap (T : DataTable) : AList fun _ : Str => DataType :=
  T.cols.foldl (fun m c => m.insert c.colName c.colType) ∅

/-- `col_index_`. -/
def colIndexMap (T : DataTable) : AList fun _ : Str => ℕ :=
  T.cols.zipIdx.foldl (fun m c => m.insert c.1.colName c.2) ∅

/-- `index_col_`. -/
def indexColMap (T : DataTable) : AList fun _ : ℕ => Str :=
  T.cols.zipIdx.foldl (fun m c => m.insert c.2 c.1.colName) ∅

/-- `GetColIndex`. -/
def getColIndex (T : DataTable) (colName : Str) : ℤ :=
  match T.colIndexMap.lookup colName with
  | some i => i
  | none => -1

/-- `GetColType`. -/
def getColType (T : DataTable) (colName : Str) : DataType :=
  (T.colTypeMap.lookup colName).getD .varchar

/-- `GetIndexColMap()[i]` : a missing entry is made on the spot, with an empty name. -/
def indexCol (T : DataTable) (i : ℕ) : Str :=
  (T.indexColMap.lookup i).getD []

/-- `GetColCount`. -/
def getColCount (T : DataTable) : UInt8 :=
  UInt8.ofNat T.cols.length

/-- The names of the columns in schema order. -/
def colNames (T : DataTable) : List Str :=
  T.cols.map TableColumn.colName

section
variable (t : Str) (cols : List TableColumn) (c : TableColumn)

theorem getColIndex_append (x : Str) : (mk t (cols ++ [c])).getColIndex x =
    if x = c.colName then (cols.length : ℤ) else (mk t cols).getColIndex x := by
  unfold getColIndex colIndexMap
  simp only [List.zipIdx_append, List.zipIdx_singleton, List.foldl_append, List.foldl_cons,
    List.foldl_nil, zero_add]
  split_ifs with h
  · rw [h, AList.lookup_insert]
  · rw [AList.lookup_insert_ne h]

theorem indexCol_append (i : ℕ) : (mk t (cols ++ [c])).indexCol i =
    if i = cols.length then c.colName else (mk t cols).indexCol i := by
  unfold indexCol indexColMap
  simp only [List.zipIdx_append, List.zipIdx_singleton, List.foldl_append, List.foldl_cons,
    List.foldl_nil, zero_add]
  split_ifs with h
  · rw [h, AList.lookup_insert, Option.getD_some]
  · rw [AList.lookup_insert_ne h]

theorem colNames_append : (mk t (cols ++ [c])).colNames = (mk t cols).colNames ++ [c.colName] := by
  simp [colNames]

@[simp] theorem length_colNames (T : DataTable) : T.colNames.length = T.cols.length :=
  List.length_map ..

end

/-- `index_col_` numbers the columns in schema order. -/
theorem indexCol_eq (T : DataTable) (i : ℕ) : T.indexCol i = (T.colNames[i]?).getD [] := by
  obtain ⟨t, cols⟩ := T
  induction cols using List.reverseRecOn with
  | nil => rfl
  | append_singleton cols c ih =>
    rw [indexCol_append, ih, colNames_append, List.getElem?_append, length_colNames]
    rcases lt_trichotomy i cols.length with h | rfl | h
    · rw [if_neg h.ne, if_pos h]
    · rw [if_pos rfl, if_neg (lt_irrefl _)]
      simp
    · rw [if_neg h.ne', if_neg h.not_gt, List.getElem?_eq_none (by simpa using h.le),
        List.getElem?_eq_none (by simp; omega)]

/-- The last position of `x` in a list. -/
def LastAt (x : Str) (names : List Str) (i : ℕ) : Prop :=
  names[i]? = some x ∧ ∀ j, i < j → names[j]? ≠ some x

theorem LastAt.unique {x : Str} {names : List Str} {i j : ℕ} (hi : LastAt x names i)
    (hj : LastAt x names j) : i = j := by
  rcases lt_trichotomy i j with h | h | h
  · exact absurd hj.1 (hi.2 j h)
  · exact h
  · exact absurd hi.1 (hj.2 i h)

theorem LastAt.append {x y : Str} {names : List Str} {i : ℕ} (h : LastAt x names i)
    (hy : x ≠ y) : LastAt x (names ++ [y]) i := by
  have hi := (List.getElem?_eq_some_iff.1 h.1).1
  refine ⟨by rw [List.getElem?_append_left hi, h.1], fun j hj => ?_⟩
  rw [List.getElem?_append]
  split_ifs with hlt
  · exact h.2 j hj
  · rw [List.getElem?_singleton]
    split_ifs
    · exact fun heq => hy (Option.some.inj heq).symm
    · exact (Option.some_ne_none _).symm

/-- `col_index_` holds the last position of a name. -/
theorem getColIndex_cases (T : DataTable) (x : Str) :
    (x ∉ T.colNames ∧ T.getColIndex x = -1) ∨
      ∃ i : ℕ, T.getColIndex x = i ∧ LastAt x T.colNames i := by
  obtain ⟨t, cols⟩ := T
  induction cols using List.reverseRecOn with
  | nil => exact Or.inl ⟨List.not_mem_nil, rfl⟩
  | append_singleton cols c ih =>
    rw [getColIndex_append, colNames_append]
    split_ifs with hx
    · refine Or.inr ⟨cols.length, rfl, by simp [hx, colNames], fun j hj => ?_⟩
      rw [List.getElem?_eq_none (by simp; omega)]
      exact (Option.some_ne_none _).symm
    · rcases ih with ⟨hmem, h⟩ | ⟨i, h, hlast⟩
      · exact Or.inl ⟨by simpa [hx] using hmem, h⟩
      · exact Or.inr ⟨i, h, hlast.append hx⟩

theorem getColIndex_eq_iff {T : DataTable} {x : Str} {i : ℕ} :
    T.getColIndex x = i ↔ LastAt x T.colNames i := by
  rcases T.getColIndex_cases x with ⟨hmem, h⟩ | ⟨j, h, hlast⟩
  · refine ⟨fun h' => by omega, fun h' => ?_⟩
    exact absurd (List.mem_of_getElem? h'.1) hmem
  · rw [h, Nat.cast_inj]
    exact ⟨fun hij => hij ▸ hlast, fun h' => hlast.unique h'⟩

end DataTable

/-! ## Table descriptors -/

/-- `name^type`, one column of a descriptor. -/
def colDesc (c : TableColumn) : Str :=
  c.colName ++ str "^" ++ toStr (dataType2Int c.colType)

/-- The value `CreateTable` writes. Its loop puts `$$` after every column but the last. -/
def descriptor (cols : List TableColumn) : Str :=
  stringsJoin (cols.map colDesc) (str "$$")

/-- The loop of `GetColFromStr`, with its `colname` and `str`. -/
def getColLoop (colname s : Str) : Str → Except Fault (List TableColumn)
  | [] => do return [⟨colname, int2DataType (← stoi s), []⟩]
  | c :: rest =>
    if c = CChar.ofChar '^' then getColLoop s [] rest
    else if c = CChar.ofChar '$' then do
      let coltype := int2DataType (← stoi s)
      -- the character after a `$` is skipped, whatever it is
      let cols ← match rest with
        | [] => getColLoop colname [] []
        | _ :: rest => getColLoop colname [] rest
      return ⟨colname, coltype, []⟩ :: cols
    else getColLoop colname (s ++ [c]) rest

/-- `GetColFromStr`. -/
def getColFromStr (value : Str) : Except Fault (List TableColumn) :=
  getColLoop [] [] value

/-! ## Databases -/

/-- `DataBase`. -/
structure DataBase where
  tableCount : Int32
  dbName : Str
  tables : AList fun _ : Str => DataTable
  deriving DecidableEq

/-- `table_<db>_`, the start of the key of every table descriptor. -/
def tablePrefix (dbName : Str) : Str :=
  str "table_" ++ dbName ++ str "_"

namespace DataBase

/-- A database without tables. -/
def new (dbName : Str) : DataBase :=
  ⟨0, dbName, ∅⟩

/-- `tables_.insert(..)`, which keeps a table of the same name, and `table_count_++`. -/
def addTable (db : DataBase) (tableName : Str) (cols : List TableColumn) : DataBase where
  tableCount := db.tableCount + 1
  dbName := db.dbName
  tables :=
    if tableName ∈ db.tables then db.tables else db.tables.insert tableName ⟨tableName, cols⟩

/-- `CreateTable`. -/
def createTable (db : DataBase) (st : Store) (tableName : Str) (cols : List TableColumn) :
    DataBase × Store :=
  (db.addTable tableName cols, st.set (tablePrefix db.dbName ++ tableName) (descriptor cols))

/-- `GetTable`. -/
def getTable (db : DataBase) (tableName : Str) : Option DataTable :=
  db.tables.lookup tableName

@[simp] theorem dbName_addTable (db : DataBase) (t : Str) (cols : List TableColumn) :
    (db.addTable t cols).dbName = db.dbName :=
  rfl

/-- A new table is found under its name unless the name was taken. -/
theorem getTable_addTable (db : DataBase) (t : Str) (cols : List TableColumn) (x : Str) :
    (db.addTable t cols).getTable x =
      (db.getTable x).or (if x = t then some ⟨t, cols⟩ else none) := by
  unfold getTable addTable
  by_cases hx : x = t
  · subst hx
    by_cases hmem : x ∈ db.tables
    · obtain ⟨T, hT⟩ := Option.isSome_iff_exists.1 (AList.lookup_isSome.2 hmem)
      simp [hmem, hT]
    · simp [hmem, AList.lookup_eq_none.2 hmem]
  · split_ifs with hmem <;> simp [AList.lookup_insert_ne hx]

@[simp] theorem getTable_new (dbName x : Str) : (new dbName).getTable x = none :=
  rfl

/-- The loop of `RecoverFromPmemKV` over the reply, which reads a key and a value a turn. The
table's name is what follows the last `_` of the key. -/
def recoverLoop : List Str → DataBase → Except Fault DataBase
  | [], db => .ok db
  | [_], _ => .error .outOfBounds
  | tablenamekey :: table :: element, db => do
    let cols ← getColFromStr table
    match (stringSplit tablenamekey (str "_")).getLast? with
    | none => .error .outOfBounds
    | some tablename => recoverLoop element (db.addTable tablename cols)

/-- `DataBase(db_name, true)`. -/
def recover (R : Redis) (st : Store) (dbName : Str) : Except Fault DataBase :=
  recoverLoop (R.scan st 0 (tablePrefix dbName ++ str "*") Redis.defaultCount).element (new dbName)

end DataBase

/-! ## The catalog -/

def defaultDatabaseName : Str :=
  str "default"

/-- `database_`, the start of the key of every database. -/
def databasePrefix : Str :=
  str "database_"

/-- `DBMS` : the databases in the order they were made, and the one `cur_db_` points at. A
name stands in `dbs_` for the first database made under it. -/
structure DBMS where
  dbs : List DataBase
  cur : Fin dbs.length
  deriving DecidableEq

namespace DBMS

/-- `GetCurDB`. -/
def getCurDB (d : DBMS) : DataBase :=
  d.dbs.get d.cur

/-- Change the database `cur_db_` points at. -/
def setCurDB (d : DBMS) (db : DataBase) : DBMS where
  dbs := d.dbs.set d.cur db
  cur := d.cur.cast (List.length_set ..).symm

@[simp] theorem getCurDB_setCurDB (d : DBMS) (db : DataBase) :
    (d.setCurDB db).getCurDB = db := by
  simp [getCurDB, setCurDB]

/-- `HasTable`. -/
def hasTable (d : DBMS) (tabName : Str) : Bool :=
  (d.getCurDB.getTable tabName).isSome

/-- Add a database and point `cur_db_` at it. -/
def push (d : Option DBMS) (db : DataBase) : DBMS where
  dbs := (d.elim [] dbs) ++ [db]
  cur := ⟨(d.elim [] dbs).length, by simp⟩

@[simp] theorem getCurDB_push (d : Option DBMS) (db : DataBase) :
    (push d db).getCurDB = db := by
  simp [getCurDB, push]

/-- The loop of `RecoverFromPmemKV`. `none` stands for the null `cur_db_` it starts with. -/
def recoverLoop (R : Redis) (st : Store) : List Str → Option DBMS → Except Fault (Option DBMS)
  | [], d => .ok d
  | [_], _ => .error .outOfBounds
  | _ :: dbname :: element, d => do
    let newdb ← DataBase.recover R st dbname
    recoverLoop R st element (push d newdb)

/-- `DBMS()` : recover, or make the default database and switch to it. -/
def new (R : Redis) (st : Store) : Except Fault (DBMS × Store) :=
  let reply := R.scan st 0 (databasePrefix ++ str "*") Redis.defaultCount
  if reply.element = [] then
    .ok (push none (DataBase.new defaultDatabaseName),
      st.set (databasePrefix ++ defaultDatabaseName) defaultDatabaseName)
  else do
    let d ← recoverLoop R st reply.element none
    return (← deref d, st)

end DBMS

end UhpSql
