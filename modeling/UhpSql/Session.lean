import UhpSql.Table

/-!
# Sessions

The states a server reaches from an empty store : it starts, executes statements, and may be
restarted over the store it has filled. `Server.fresh` is the state after the first start and
`Server.withTable` the state after a CREATE TABLE.
-/

namespace UhpSql

/-- The states reached from an empty store. -/
inductive Reachable (env : Env) : Server → Prop
  | start {s : Server} (ip : Str) : init env ∅ ip = .ok s → Reachable env s
  | exec {s s' : Server} {reply : List (List UInt8)} (u : Uninit) (seq : UInt8)
      (stmt : SQLStatement) :
    Reachable env s → execStatement env u seq s stmt = .ok (s', reply) → Reachable env s'
  | restart {s s' : Server} (ip : Str) :
    Reachable env s → init env s.store ip = .ok s' → Reachable env s'

/-- Zeros in the uninitialised locals. -/
def Uninit.zero : Uninit :=
  ⟨.kOpNone, 0, 0⟩

/-! ## The patterns of the catalog -/

/-- A string without the characters `*`, `?`, `[` and the backslash. -/
def Plain (s : Str) : Prop :=
  ∀ c ∈ s, ¬globSyntax.Special c

instance (s : Str) : Decidable (Plain s) :=
  inferInstanceAs (Decidable (∀ c ∈ s, ¬globSyntax.Special c))

/-- A pattern that ends with its only special character, `*`. -/
theorem globMatch_plain {u : Str} (hu : Plain u) (key : Str) :
    globMatch (u ++ str "*") key ↔ u <+: key :=
  Glob.glob_literal_star hu key

/-- A pattern that begins with plain characters matches keys that begin with them. -/
theorem globMatch_append {u : Str} (hu : Plain u) (p key : Str) :
    globMatch (u ++ p) key ↔ ∃ r, key = u ++ r ∧ globMatch p r :=
  Glob.glob_append hu p key

theorem plain_databasePrefix : Plain databasePrefix := by
  decide

theorem plain_tablePrefix_default : Plain (tablePrefix defaultDatabaseName) := by
  decide

/-! ## The first start and CREATE TABLE -/

/-- The state after a start over an empty store. -/
def Server.fresh (ip : Str) : Server where
  dbms := DBMS.push none (DataBase.new defaultDatabaseName)
  store := (Store.set ∅ (str "pmemaddr") ip).set (databasePrefix ++ defaultDatabaseName)
    defaultDatabaseName

/-- The state after a CREATE TABLE. -/
def Server.withTable (s : Server) (t : Str) (cols : List TableColumn) : Server :=
  (createTableMetaToPMemKV s t cols).1

theorem init_empty {env : Env} (h : env.redis.FullScan) (ip : Str) :
    init env ∅ ip = .ok (Server.fresh ip) := by
  have hempty : (env.redis.scan (Store.set ∅ (str "pmemaddr") ip) 0 (databasePrefix ++ str "*")
      Redis.defaultCount).element = [] := by
    rw [h.alternates, List.eq_nil_of_subset_nil (l := Redis.page _ _ _ _), flat_nil]
    rintro ⟨k, v⟩ hmem
    obtain ⟨hget, hglob⟩ := h.mem_page.1 hmem
    rw [Store.get_set] at hget
    split_ifs at hget with hk
    · rw [hk, globMatch_plain plain_databasePrefix] at hglob
      exact absurd hglob (by decide)
    · exact absurd hget nofun
  simp [init, DBMS.new, hempty, Server.fresh]

/-- `CREATE TABLE t (…)`. -/
def createStatement (t : Str) (cols : List ColumnDefinition) : CreateStatement where
  tableName := some t
  columns := some cols

/-- The columns CREATE TABLE makes. -/
def ofDefinitions (cols : List ColumnDefinition) : List TableColumn :=
  cols.map fun c => ⟨c.name, c.type, []⟩

theorem Reachable.fresh {env : Env} (h : env.redis.FullScan) (ip : Str) :
    Reachable env (Server.fresh ip) :=
  .start ip (init_empty h ip)

theorem Reachable.withTable {env : Env} {s : Server} (h : Reachable env s) (t : Str)
    (cols : List ColumnDefinition) : Reachable env (s.withTable t (ofDefinitions cols)) :=
  .exec .zero 1 (.create (createStatement t cols)) h rfl

@[simp] theorem getCurDB_fresh (ip : Str) :
    (Server.fresh ip).dbms.getCurDB = DataBase.new defaultDatabaseName :=
  DBMS.getCurDB_push ..

@[simp] theorem getCurDB_withTable (s : Server) (t : Str) (cols : List TableColumn) :
    (s.withTable t cols).dbms.getCurDB = s.dbms.getCurDB.addTable t cols :=
  DBMS.getCurDB_setCurDB ..

/-- A store that lists everything at once, where the object handed to `%s` reads as empty. -/
def Env.whole : Env :=
  ⟨Redis.whole, []⟩

/-! ## Rows and the other keys of the store -/

/-- The keys that begin like those of rows. -/
def DataKey (k : Str) : Prop :=
  k.take 5 = str "data_"

instance (k : Str) : Decidable (DataKey k) :=
  inferInstanceAs (Decidable (k.take 5 = str "data_"))

theorem dataKey_rowKey (dbName t pk : Str) : DataKey (rowKey dbName t pk) := by
  rw [DataKey, rowKey, dataPrefix, List.append_assoc, List.append_assoc, List.append_assoc,
    List.append_assoc]
  exact List.take_left' rfl

/-- A scan of a table matches keys that begin like those of rows. -/
theorem dataKey_of_globMatch {dbName t q k : Str}
    (h : globMatch (dataPrefix dbName t ++ q ++ str "*") k) : DataKey k := by
  simp only [dataPrefix, List.append_assoc] at h
  obtain ⟨r, rfl, -⟩ := (globMatch_append (by decide) _ _).1 h
  exact List.take_left' rfl

section
variable {k : Str} (hk : DataKey k)
include hk

theorem DataKey.ne_tableKey (dbName t : Str) : k ≠ tablePrefix dbName ++ t := by
  rintro rfl
  rw [DataKey, tablePrefix, List.append_assoc, List.append_assoc,
    List.take_append_of_le_length (by decide)] at hk
  exact absurd hk (by decide)

theorem DataKey.ne_databaseKey (dbName : Str) : k ≠ databasePrefix ++ dbName := by
  rintro rfl
  rw [DataKey, List.take_append_of_le_length (by decide)] at hk
  exact absurd hk (by decide)

theorem DataKey.ne_pmemaddr : k ≠ str "pmemaddr" := by
  rintro rfl
  exact absurd hk (by decide)

/-- A fresh server has no rows. -/
theorem get_fresh (ip : Str) : (Server.fresh ip).store.get k = none := by
  rw [Server.fresh, Store.get_set_of_ne _ _ (hk.ne_databaseKey _),
    Store.get_set_of_ne _ _ hk.ne_pmemaddr]
  rfl

/-- CREATE TABLE does not touch rows. -/
theorem get_withTable (s : Server) (t : Str) (cols : List TableColumn) :
    (s.withTable t cols).store.get k = s.store.get k :=
  Store.get_set_of_ne _ _ (hk.ne_tableKey _ _)

end

theorem rowsOf_fresh (dbName t ip : Str) :
    rowsOf dbName t (Server.fresh ip).store = fun _ => none :=
  funext fun _ => get_fresh (dataKey_rowKey ..) ip

theorem rowsOf_withTable (dbName t : Str) (s : Server) (t' : Str) (cols : List TableColumn) :
    rowsOf dbName t (s.withTable t' cols).store = rowsOf dbName t s.store :=
  funext fun _ => get_withTable (dataKey_rowKey ..) s t' cols

/-! ## The table of the test script -/

/-- The columns of the table of the test script. -/
def classtab : List ColumnDefinition :=
  [⟨str "Name", .varchar⟩, ⟨str "Class", .varchar⟩, ⟨str "Score", .int⟩]

/-- A server with the table of the test script. -/
def classServer : Server :=
  (Server.fresh (str "127.0.0.1")).withTable (str "classtab") (ofDefinitions classtab)

theorem reachable_classServer : Reachable Env.whole classServer :=
  (Reachable.fresh Redis.whole_fullScan _).withTable _ _

theorem getTable_classServer : classServer.dbms.getCurDB.getTable (str "classtab") =
    some ⟨str "classtab", ofDefinitions classtab⟩ := by
  simp [classServer, DataBase.getTable_addTable]

end UhpSql
