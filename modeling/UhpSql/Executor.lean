import UhpSql.Catalog
import UhpSql.Protocol

/-!
# The executor (`executor/`)

A query packet is executed statement by statement. For each, an analyzer reads the parse tree,
a function ending in `PMemKV` reads or changes the store, and a send function queues the
packets of the reply. `execStatement` is one turn of the loop of `Exec`, and the functions
`createTable`, `selectRows`, `insertRow`, `updateRow` and `deleteRows` are its cases up to
the reply.

Row `pk` of table `t` in database `db` is the string stored under `rowKey db t pk`.
-/

namespace UhpSql

/-- The executor's static state with the store behind it. -/
structure Server where
  dbms : DBMS
  store : Store

/-- What execution depends on besides the state. `DeleteRowsInPMemKV` hands a `std::string`
object to the `%s` of a variadic function : `objectPattern` is what is read for it. -/
structure Env where
  redis : Redis
  objectPattern : Str

/-- The contents of the locals of `Exec` that are declared without a value. -/
structure Uninit where
  opType : OperatorType
  limit : UInt64
  offset : UInt64

/-- `data_<db>_<table>_p_`, the start of the key of every row. -/
def dataPrefix (dbName tabName : Str) : Str :=
  str "data_" ++ dbName ++ str "_" ++ tabName ++ str "_p_"

/-- The key of a row. -/
def rowKey (dbName tabName pk : Str) : Str :=
  dataPrefix dbName tabName ++ pk

/-- Assign to an element of a vector. -/
def setAt {α : Type} (v : List α) (index : ℤ) (a : α) : Except Fault (List α) :=
  if 0 ≤ index ∧ index < v.length then .ok (v.set index.toNat a) else .error .outOfBounds

/-- The operator and the two names of an expression `name op name`. -/
def operands (expr : Expr) : Except Fault (OperatorType × Str × Str) := do
  let queryFeild ← deref (← deref expr.expr).name
  let queryValue ← deref (← deref expr.expr2).name
  return (expr.opType, queryFeild, queryValue)

/-- The WHERE clause of an analyzer : only `kExprOperator` sets the outputs. -/
def analyzeWhere (opType : OperatorType) (expr : Expr) :
    Except Fault (OperatorType × Str × Str) :=
  match expr.type with
  | .kExprOperator => operands expr
  | _ => .ok (opType, [], [])

/-! ## CREATE TABLE -/

/-- `AnalyzeCreateTableStatement`. -/
def analyzeCreateTableStatement (stmt : CreateStatement) :
    Except Fault (Option (Str × List TableColumn)) := do
  let tabName ← deref stmt.tableName
  let columns ← deref stmt.columns
  return some (tabName, columns.map fun c => ⟨c.name, c.type, []⟩)

/-- `CreateTableMetaToPMemKV`. -/
def createTableMetaToPMemKV (s : Server) (tabName : Str) (colDefs : List TableColumn) :
    Server × UInt64 :=
  let r := s.dbms.getCurDB.createTable s.store tabName colDefs
  (⟨s.dbms.setCurDB r.1, r.2⟩, 1)

def createTable (s : Server) (stmt : CreateStatement) :
    Except Fault (Option (Server × UInt64)) := do
  match ← analyzeCreateTableStatement stmt with
  | none => return none
  | some (tabName, colDefs) => return some (createTableMetaToPMemKV s tabName colDefs)

/-! ## SELECT -/

/-- What `AnalyzeSelectStatement` finds. -/
structure Query where
  opType : OperatorType
  queryTab : Str
  queryFeild : Str
  queryValue : Str
  limit : UInt64
  offset : UInt64
  scanAll : Bool

/-- The limit of a statement with WHERE : `limit->limit->ival`, or 0 without LIMIT. -/
def limitOf : Option LimitDescription → Except Fault UInt64
  | some l => do return (← deref l.limit).ival.toUInt64
  | none => .ok 0

/-- `AnalyzeSelectStatement`. Without WHERE it leaves the limit as it was, and it never sets
the offset. -/
def analyzeSelectStatement (d : DBMS) (u : Uninit) (stmt : SelectStatement) :
    Except Fault (Option Query) := do
  let queryTab ← deref (← deref stmt.fromTable).name
  if !d.hasTable queryTab then
    return none
  match stmt.whereClause with
  | none => return some ⟨u.opType, queryTab, [], [], u.limit, u.offset, true⟩
  | some expr => do
    let (opType, queryFeild, queryValue) ← analyzeWhere u.opType expr
    let limit ← limitOf stmt.limit
    return some ⟨opType, queryTab, queryFeild, queryValue, limit, u.offset, false⟩

/-- `DecodeRowResult`. -/
def decodeRowResult (d : DBMS) (res tab : Str) : Except Fault (List TableColumn) := do
  let table ← deref (d.getCurDB.getTable tab)
  return (stringSplit res (str "$$")).zipIdx.map fun c =>
    ⟨table.indexCol c.2, table.getColType (table.indexCol c.2), c.1⟩

/-- The loops of `SelectRowsFromPMemKV` over a reply of keys and values : stop at the first
position past the limit, and decode the rows whose keys pass. -/
def scanLoop (d : DBMS) (tab : Str) (stop : ℕ → Bool) (keep : Str → Bool) :
    ℕ → List Str → Except Fault (List (List TableColumn))
  | _, [] => .ok []
  | i, [_] => if stop i then .ok [] else .error .outOfBounds
  | i, pkey :: rowVal :: element =>
    if stop i then .ok []
    else if keep pkey then do
      let row ← decodeRowResult d rowVal tab
      let rows ← scanLoop d tab stop keep (i + 2) element
      return row :: rows
    else scanLoop d tab stop keep (i + 2) element

/-- `limit != 0 && i > limit * 2`. -/
def pastLimit (limit : UInt64) (i : ℕ) : Bool :=
  limit ≠ 0 && (limit * 2).toNat < i

/-- `i > limit * 2 + 1`, the test for `>`. -/
def pastLimitGreater (limit : UInt64) (i : ℕ) : Bool :=
  (limit * 2 + 1).toNat < i

/-- The literal of LIKE without one `%` at its end. `back()` of an empty string is undefined. -/
def likePrefix (queryValue : Str) : Except Fault Str :=
  match queryValue.getLast? with
  | none => .error .outOfBounds
  | some c => .ok (if c = CChar.ofChar '%' then queryValue.dropLast else queryValue)

/-- The page size the executor asks for. -/
def scanCount : ℕ :=
  100

/-- `SelectRowsFromPMemKV`. Neither the column nor the offset is read. -/
def selectRowsFromPMemKV (env : Env) (s : Server) (q : Query) :
    Except Fault (List (List TableColumn)) :=
  let keyPrefix := dataPrefix s.dbms.getCurDB.dbName q.queryTab
  let scan pattern := (env.redis.scan s.store 0 pattern scanCount).element
  if q.scanAll then
    scanLoop s.dbms q.queryTab (pastLimit q.limit) (fun _ => true) 0 (scan (keyPrefix ++ str "*"))
  else match q.opType with
    | .kOpEquals =>
      match s.store.get (keyPrefix ++ q.queryValue) with
      | none => .ok []
      | some result => do return [← decodeRowResult s.dbms result q.queryTab]
    | .kOpGreater =>
      scanLoop s.dbms q.queryTab (pastLimitGreater q.limit)
        (fun pkey => keyPrefix ++ q.queryValue < pkey) 0 (scan (keyPrefix ++ str "*"))
    | .kOpLike => do
      let v ← likePrefix q.queryValue
      scanLoop s.dbms q.queryTab (pastLimit q.limit) (fun _ => true) 0
        (scan (keyPrefix ++ v ++ str "*"))
    | _ => .ok []

/-- The rows and the table they are of. -/
def selectRows (env : Env) (u : Uninit) (s : Server) (stmt : SelectStatement) :
    Except Fault (Option (List (List TableColumn) × Str)) := do
  match ← analyzeSelectStatement s.dbms u stmt with
  | none => return none
  | some q => return some (← selectRowsFromPMemKV env s q, q.queryTab)

/-! ## INSERT -/

/-- The texts of the literals. Only strings and integers are collected. -/
def collectValues : List Expr → Except Fault (List Str)
  | [] => .ok []
  | expr :: values =>
    match expr.type with
    | .kExprLiteralString => do return (← deref expr.name) :: (← collectValues values)
    | .kExprLiteralInt => do return toStr expr.ival.toInt :: (← collectValues values)
    | _ => collectValues values

/-- The loop over the column names, which reads `colValues[i]`. -/
def pairColumns : List Str → List Str → Except Fault (List TableColumn)
  | [], _ => .ok []
  | _ :: _, [] => .error .outOfBounds
  | name :: names, val :: vals => do return ⟨name, .unknown, val⟩ :: (← pairColumns names vals)

/-- `AnalyzeInsertStatement`. -/
def analyzeInsertStatement (d : DBMS) (stmt : InsertStatement) :
    Except Fault (Option (Str × List TableColumn)) := do
  let tabName ← deref stmt.tableName
  if !d.hasTable tabName then
    return none
  let columnNames ← deref stmt.columns
  let colValues ← collectValues (← deref stmt.values)
  return some (tabName, ← pairColumns columnNames colValues)

/-- The loop that puts each value at the index of its column. -/
def fillVals (table : DataTable) : List TableColumn → List Str → Except Fault (List Str)
  | [], vals => .ok vals
  | col :: row, vals => do
    let vals ← setAt vals (table.getColIndex col.colName) col.val
    fillVals table row vals

/-- `InsertRowToPMemKV`. The key is the value of the first column named. -/
def insertRowToPMemKV (s : Server) (tabName : Str) (row : List TableColumn) :
    Except Fault (Server × UInt64) :=
  match row with
  | [] => .ok (s, 0)
  | first :: _ => do
    let db := s.dbms.getCurDB
    let table ← deref (db.getTable tabName)
    let vals ← fillVals table row (List.replicate row.length [])
    let key := rowKey db.dbName tabName first.val
    return ({ s with store := s.store.set key (stringsJoin vals (str "$$")) }, 1)

def insertRow (s : Server) (stmt : InsertStatement) :
    Except Fault (Option (Server × UInt64)) := do
  match ← analyzeInsertStatement s.dbms stmt with
  | none => return none
  | some (tabName, row) => return some (← insertRowToPMemKV s tabName row)

/-! ## UPDATE -/

/-- What `AnalyzeUpdateStatement` finds. -/
structure UpdateQuery where
  tabName : Str
  column : Str
  value : Str
  opType : OperatorType
  queryFeild : Str
  queryValue : Str

/-- `AnalyzeUpdateStatement`. It reads the first SET clause only. -/
def analyzeUpdateStatement (d : DBMS) (u : Uninit) (stmt : UpdateStatement) :
    Except Fault (Option UpdateQuery) := do
  let tabName ← deref (← deref stmt.table).name
  if !d.hasTable tabName then
    return none
  match ← deref stmt.updates with
  | [] => return none
  | clause :: _ => do
    let value ← deref clause.value.name
    let (opType, queryFeild, queryValue) ← analyzeWhere u.opType (← deref stmt.whereExpr)
    return some ⟨tabName, clause.column, value, opType, queryFeild, queryValue⟩

/-- `UpdateRowInPMemKV`. The value of the WHERE clause is used as a key, whatever its column
and operator. -/
def updateRowInPMemKV (s : Server) (q : UpdateQuery) : Except Fault (Server × UInt64) :=
  let db := s.dbms.getCurDB
  let key := rowKey db.dbName q.tabName q.queryValue
  match s.store.get key with
  | none => .ok (s, 0)
  | some oValue => do
    let table ← deref (db.getTable q.tabName)
    let cols ← setAt (stringSplit oValue (str "$$")) (table.getColIndex q.column) q.value
    return ({ s with store := s.store.set key (stringsJoin cols (str "$$")) }, 1)

def updateRow (u : Uninit) (s : Server) (stmt : UpdateStatement) :
    Except Fault (Option (Server × UInt64)) := do
  match ← analyzeUpdateStatement s.dbms u stmt with
  | none => return none
  | some q => return some (← updateRowInPMemKV s q)

/-! ## DELETE -/

/-- What `AnalyzeDeleteStatement` finds. -/
structure DeleteQuery where
  tabName : Str
  opType : OperatorType
  queryFeild : Str
  queryValue : Str

/-- `AnalyzeDeleteStatement`. A DELETE without WHERE becomes `1 = 1`. -/
def analyzeDeleteStatement (d : DBMS) (u : Uninit) (stmt : DeleteStatement) :
    Except Fault (Option DeleteQuery) := do
  let tabName ← deref stmt.tableName
  if !d.hasTable tabName then
    return none
  match stmt.expr with
  | none => return some ⟨tabName, .kOpEquals, str "1", str "1"⟩
  | some expr => do
    let (opType, queryFeild, queryValue) ← analyzeWhere u.opType expr
    return some ⟨tabName, opType, queryFeild, queryValue⟩

/-- The loop over the reply to SCAN : `i` goes up to twice the number of elements in steps of
two, and `element[i]` is deleted. -/
def deleteLoop (element : List Str) (st : Store) : Except Fault Store :=
  (List.range element.length).foldlM (fun st j =>
    match element[2 * j]? with
    | none => .error .outOfBounds
    | some key => .ok (st.del key)) st

/-- `DeleteRowsInPMemKV`. -/
def deleteRowsInPMemKV (env : Env) (s : Server) (q : DeleteQuery) :
    Except Fault (Server × UInt64) :=
  match q.opType with
  | .kOpEquals => do
    let st ←
      if q.queryFeild = str "1" ∧ q.queryValue = str "1" then
        deleteLoop (env.redis.scan s.store 0 env.objectPattern Redis.defaultCount).element s.store
      else .ok s.store
    let delKey := rowKey s.dbms.getCurDB.dbName q.tabName q.queryValue
    return ({ s with store := st.del delKey }, 1)
  | _ => .ok (s, 1)

def deleteRows (env : Env) (u : Uninit) (s : Server) (stmt : DeleteStatement) :
    Except Fault (Option (Server × UInt64)) := do
  match ← analyzeDeleteStatement s.dbms u stmt with
  | none => return none
  | some q => return some (← deleteRowsInPMemKV env s q)

/-! ## Replies -/

/-- A packet as the send functions build it : one byte for the length, two zero bytes, the
sequence number, and the payload. -/
def packet (seq : UInt8) (payload : List UInt8) : List UInt8 :=
  UInt8.ofNat payload.length :: 0 :: 0 :: seq :: payload

/-- Packets numbered from `seq` on. -/
def packets (seq : UInt8) : List (List UInt8) → List (List UInt8)
  | [] => []
  | payload :: payloads => packet seq payload :: packets (seq + 1) payloads

/-- `SendOkMessageToClient`. -/
def sendOkMessageToClient (seq : UInt8) (affectedRows lastInsertID : UInt64)
    (statusFlags warnings : UInt16) : List (List UInt8) :=
  [packet seq (Protocol.okPack affectedRows lastInsertID statusFlags warnings)]

/-- `SendErrorMessageToClient`. -/
def sendErrorMessageToClient (seq : UInt8) (errorCode : UInt16) (sqlState errorMessage : Str) :
    List (List UInt8) :=
  [packet seq (Protocol.errPack errorCode sqlState errorMessage)]

/-- The packet of column `i` in a result set. -/
def fieldPacket (db : DataBase) (table : DataTable) (queryTab : Str) (i : ℕ) :
    Protocol.FieldPacket where
  name := table.indexCol i
  type := Protocol.typeVarchar
  table := queryTab
  orgTable := queryTab
  dataBase := db.dbName
  orgName := table.indexCol i
  columnLength := 80
  charset := Protocol.characterSetUtf8
  decimals := 0
  flags := 0

/-- The payloads of a result set : the column count, the fields, EOF, the rows, EOF. -/
def resultSetPayloads (db : DataBase) (table : DataTable) (queryTab : Str)
    (resultSet : List (List TableColumn)) : List (List UInt8) :=
  [table.getColCount] ::
    ((List.range table.getColCount.toNat).map fun i => (fieldPacket db table queryTab i).pack) ++
    Protocol.eofPack 0 2 ::
    (resultSet.map fun row => Protocol.rowPack (row.map TableColumn.val)) ++
    [Protocol.eofPack 0 2]

/-- `SendResultSetToClient`. It overwrites its argument `seq` with 1. -/
def sendResultSetToClient (d : DBMS) (resultSet : List (List TableColumn)) (queryTab : Str) :
    Except Fault (List (List UInt8)) := do
  let table ← deref (d.getCurDB.getTable queryTab)
  return packets 1 (resultSetPayloads d.getCurDB table queryTab resultSet)

/-! ## The loop of `Exec` -/

/-- The reply to a statement that an analyzer turns down. -/
def sendSqlError (seq : UInt8) (what : String) : List (List UInt8) :=
  sendErrorMessageToClient seq 50 (str "ABCDE") (str ("exec " ++ what ++ " sql error"))

/-- The reply to a statement that changes rows. -/
def replyAffected (seq : UInt8) (what : String) (warnings : UInt16) (s : Server) :
    Option (Server × UInt64) → Server × List (List UInt8)
  | none => (s, sendSqlError seq what)
  | some (s', affectRows) => (s', sendOkMessageToClient seq affectRows 0 2 warnings)

/-- One statement : the state after it and the packets of its reply, where `seq` is one more
than the sequence number of the query. -/
def execStatement (env : Env) (u : Uninit) (seq : UInt8) (s : Server) :
    SQLStatement → Except Fault (Server × List (List UInt8))
  | .create stmt => do return replyAffected seq "create table" 0 s (← createTable s stmt)
  | .select stmt => do
    match ← selectRows env u s stmt with
    | none => return (s, sendSqlError seq "select")
    | some (rows, queryTab) => return (s, ← sendResultSetToClient s.dbms rows queryTab)
  | .insert stmt => do return replyAffected seq "insert" 0 s (← insertRow s stmt)
  | .delete stmt => do return replyAffected seq "delete" 1 s (← deleteRows env u s stmt)
  | .update stmt => do return replyAffected seq "update" 1 s (← updateRow u s stmt)
  | .other => .ok (s, sendOkMessageToClient seq 0 0 2 1)

/-- `Exec` : the packets queued, and the state at the end or the fault that ended it. The
`i`-th statement finds `u i` in its uninitialised locals. -/
def exec (env : Env) (u : ℕ → Uninit) (seq : UInt8) (s : Server) :
    List SQLStatement → List (List UInt8) × Except Fault Server
  | [] => ([], .ok s)
  | stmt :: stmts =>
    match execStatement env (u 0) (seq + 1) s stmt with
    | .error e => ([], .error e)
    | .ok (s', reply) =>
      let r := exec env (fun i => u (i + 1)) seq s' stmts
      (reply ++ r.1, r.2)

/-- `Init` over a store. -/
def init (env : Env) (st : Store) (pmemRedisIp : Str) : Except Fault Server := do
  let (dbms, st) ← DBMS.new env.redis (st.set (str "pmemaddr") pmemRedisIp)
  return ⟨dbms, st⟩

end UhpSql
