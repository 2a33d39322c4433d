import UhpSql.Columns
import UhpSql.Symbols

/-!
# The rules of the grammar (`parser/bison_parser.y`)

The rules in the order in which the tables number them, from 1 on, with their actions. Rule 1 is
the one that accepts. What an action puts into fields that the executor does not read is left
out.
-/

namespace UhpSql

/-! ## Formats -/

/-- A letter in lower case. -/
def lower (b : UInt8) : UInt8 :=
  if 65 ≤ b ∧ b ≤ 90 then b + 32 else b

/-- `strcasecmp(s, t) == 0`. -/
def strcasecmp (s t : Str) : Bool :=
  s.map (fun c => lower c.byte) = t.map fun c => lower c.byte

/-- `%d` of `sscanf` with a width : blanks, a sign and at least one digit. -/
def scanInt (width : ℕ) (s : Str) : Option (ℤ × Str) :=
  let s := s.dropWhile isSpace
  let neg := s.head? = some (CChar.ofChar '-')
  let signed := neg ∨ s.head? = some (CChar.ofChar '+')
  let digits := ((if signed then s.tail.take (width - 1) else s.take width)).takeWhile isDigit
  let n : ℤ := if neg then -digitsVal digits else digitsVal digits
  if digits = [] then none
  else some (n, (if signed then s.tail else s).drop digits.length)

/-- A character of the format. -/
def scanChar (c : Char) : Str → Option Str
  | [] => none
  | a :: s => if a = CChar.ofChar c then some s else none

/-- `%7s` : blanks and up to seven characters that are none. -/
def scanWord (s : Str) : Option (Str × Str) :=
  let s := s.dropWhile isSpace
  let word := (s.take 7).takeWhile (!isSpace ·)
  if word = [] then none else some (word, s.drop word.length)

/-- The `int` that `sscanf` stores : digits beyond a `long` count as the last one, and of a `long`
the lower half is stored. -/
def storeInt (n : ℤ) : Int64 :=
  (Int64.ofInt (max (-2 ^ 63) (min n (2 ^ 63 - 1)))).toInt32.toInt64

/-- The whole string is `%4d-%2d-%2d`. -/
def isDate (s : Str) : Bool :=
  ((do
    let (_, s) ← scanInt 4 s
    let (_, s) ← scanInt 2 (← scanChar '-' s)
    let (_, s) ← scanInt 2 (← scanChar '-' s)
    pure s.isEmpty) : Option Bool) = some true

/-- The whole string is `%d`. -/
def scanDuration (s : Str) : Option Int64 :=
  match scanInt (s.length + 1) s with
  | some (n, []) => some (storeInt n)
  | _ => none

/-- The whole string is `%d %7s`. -/
def scanInterval (s : Str) : Option (Int64 × Str) :=
  match scanInt (s.length + 1) s with
  | none => none
  | some (n, s) =>
    match scanWord s with
    | some (unit, []) => some (storeInt n, unit)
    | _ => none

/-! ## Actions -/

/-- `$$ = v`. -/
def ret {α : Type} (v : α) (st : ParseState) : Except Failure (α × ParseState) :=
  .ok (v, st)

/-- `yyerror` and `YYERROR`. -/
def yyerror {α : Type} (msg : String) : Except Failure (α × ParseState) :=
  .error (.error (str msg))

/-- Read through a pointer. -/
def derefName (expr : Expr) (st : ParseState) : Except Failure (Str × ParseState) :=
  match deref expr.name with
  | .ok name => .ok (name, st)
  | .error e => .error (.fault e)

/-- `input` : the statements go to the result. -/
def addStatements (stmts : List SQLStatement) (st : ParseState) :
    Except Failure (Unit × ParseState) :=
  .ok ((), { st with statements := st.statements ++ stmts })

/-- `param_expr`, with the number that `input` gives to the parameter. -/
def addParameter (st : ParseState) : Except Failure (Expr × ParseState) :=
  .ok (.makeParameter (Int64.ofNat (st.params % 2 ^ 32)), { st with params := st.params + 1 })

def checkFileType {α : Type} (types : List String) (name : Str) (v : α) (st : ParseState) :
    Except Failure (α × ParseState) :=
  if types.any fun type => strcasecmp name (str type) then .ok (v, st)
  else yyerror "File type is unknown."

/-- `setColumnDefsAndConstraints`. -/
def columnDefs (elems : List (Option ColumnDefinition)) : List ColumnDefinition :=
  elems.reduceOption

/-- `date_literal`. -/
def dateLiteral (val : Str) (st : ParseState) : Except Failure (Expr × ParseState) :=
  if isDate val then .ok (.makeDateLiteral val, st)
  else yyerror "Found incorrect date format. Expected format: YYYY-MM-DD"

/-- `interval_literal : INTERVAL STRING datetime_field`. -/
def intervalLiteral (val : Str) (st : ParseState) : Except Failure (Expr × ParseState) :=
  match scanDuration val with
  | some duration => .ok (.makeIntervalLiteral duration, st)
  | none => yyerror "Found incorrect interval format. Expected format: INTEGER"

/-- The words that name a unit. -/
def intervalUnits : List String :=
  ["second", "seconds", "minute", "minutes", "hour", "hours", "day", "days", "month", "months",
    "year", "years"]

/-- `interval_literal : INTERVAL STRING`. -/
def intervalLiteralUnit (val : Str) (st : ParseState) : Except Failure (Expr × ParseState) :=
  match scanInterval val with
  | none => yyerror "Found incorrect interval format. Expected format: INTEGER INTERVAL_QUALIIFIER"
  | some (duration, unit) =>
    if intervalUnits.any fun word => strcasecmp unit (str word) then
      .ok (.makeIntervalLiteral duration, st)
    else yyerror "Interval qualifier is unknown."

/-- `join_clause` with USING, which copies the name of the column. -/
def joinUsing (column : Expr) (st : ParseState) : Except Failure (TableRef × ParseState) :=
  match deref column.name with
  | .ok _ => .ok ({}, st)
  | .error e => .error (.fault e)

/-! ## Rules -/

abbrev SqlRule :=
  Lr.Rule Sem ParseState Failure

/-- The text, its statements and their hints. -/
def inputRules : List SqlRule :=
  [ ⟨.accept, [.input, .YYEOF], fun _ _ => ret ()⟩,
    ⟨.input, [.statementList, .optSemicolon], fun stmts _ => addStatements stmts⟩,
    ⟨.statementList, [.statement], fun stmt => ret [stmt]⟩,
    ⟨.statementList, [.statementList, .semicolon, .statement],
      fun (stmts : List SQLStatement) _ stmt => ret (stmts ++ [stmt])⟩,
    ⟨.statement, [.prepareStatement, .optHints], fun _ _ => ret .other⟩,
    ⟨.statement, [.preparableStatement, .optHints], fun stmt _ => ret stmt⟩,
    ⟨.statement, [.showStatement], fun _ => ret .other⟩,
    ⟨.statement, [.importStatement], fun _ => ret .other⟩,
    ⟨.statement, [.exportStatement], fun _ => ret .other⟩,
    ⟨.preparableStatement, [.selectStatement], fun stmt => ret (.select stmt)⟩,
    ⟨.preparableStatement, [.createStatement], fun stmt => ret (.create stmt)⟩,
    ⟨.preparableStatement, [.insertStatement], fun stmt => ret (.insert stmt)⟩,
    ⟨.preparableStatement, [.deleteStatement], fun stmt => ret (.delete stmt)⟩,
    ⟨.preparableStatement, [.truncateStatement], fun stmt => ret (.delete stmt)⟩,
    ⟨.preparableStatement, [.updateStatement], fun stmt => ret (.update stmt)⟩,
    ⟨.preparableStatement, [.dropStatement], fun _ => ret .other⟩,
    ⟨.preparableStatement, [.alterStatement], fun _ => ret .other⟩,
    ⟨.preparableStatement, [.executeStatement], fun _ => ret .other⟩,
    ⟨.preparableStatement, [.transactionStatement], fun _ => ret .other⟩,
    ⟨.optHints, [.WITH, .HINT, .lparen, .hintList, .rparen], fun _ _ _ _ _ => ret ()⟩,
    ⟨.optHints, [], ret ()⟩,
    ⟨.hintList, [.hint], fun _ => ret ()⟩,
    ⟨.hintList, [.hintList, .comma, .hint], fun _ _ _ => ret ()⟩,
    ⟨.hint, [.IDENTIFIER], fun _ => ret ()⟩,
    ⟨.hint, [.IDENTIFIER, .lparen, .literalList, .rparen], fun _ _ _ _ => ret ()⟩ ]

/-- Statements about transactions, prepared statements, files and the catalog. -/
def otherRules : List SqlRule :=
  [ ⟨.transactionStatement, [.BEGIN, .optTransactionKeyword], fun _ _ => ret ()⟩,
    ⟨.transactionStatement, [.ROLLBACK, .optTransactionKeyword], fun _ _ => ret ()⟩,
    ⟨.transactionStatement, [.COMMIT, .optTransactionKeyword], fun _ _ => ret ()⟩,
    ⟨.optTransactionKeyword, [.TRANSACTION], fun _ => ret ()⟩,
    ⟨.optTransactionKeyword, [], ret ()⟩,
    ⟨.prepareStatement, [.PREPARE, .IDENTIFIER, .FROM, .prepareTargetQuery],
      fun _ _ _ _ => ret ()⟩,
    ⟨.prepareTargetQuery, [.STRING], fun query => ret query⟩,
    ⟨.executeStatement, [.EXECUTE, .IDENTIFIER], fun _ _ => ret ()⟩,
    ⟨.executeStatement, [.EXECUTE, .IDENTIFIER, .lparen, .optLiteralList, .rparen],
      fun _ _ _ _ _ => ret ()⟩,
    ⟨.importStatement, [.IMPORT, .FROM, .fileType, .FILE, .filePath, .INTO, .tableName],
      fun _ _ _ _ _ _ _ => ret ()⟩,
    ⟨.importStatement, [.COPY, .tableName, .FROM, .filePath, .optFileType],
      fun _ _ _ _ _ => ret ()⟩,
    ⟨.fileType, [.IDENTIFIER], fun name => checkFileType ["csv", "tbl", "binary", "bin"] name ()⟩,
    ⟨.filePath, [.stringLiteral], fun expr => derefName expr⟩,
    ⟨.optFileType, [.WITH, .FORMAT, .fileType], fun _ _ _ => ret ()⟩,
    ⟨.optFileType, [], ret ()⟩,
    ⟨.exportStatement, [.COPY, .tableName, .TO, .filePath, .optFileType], fun _ _ _ _ _ => ret ()⟩,
    ⟨.showStatement, [.SHOW, .TABLES], fun _ _ => ret ()⟩,
    ⟨.showStatement, [.SHOW, .COLUMNS, .tableName], fun _ _ _ => ret ()⟩,
    ⟨.showStatement, [.DESCRIBE, .tableName], fun _ _ => ret ()⟩ ]

/-- CREATE. -/
def createRules : List SqlRule :=
  [ ⟨.createStatement, [.CREATE, .TABLE, .optNotExists, .tableName, .FROM, .IDENTIFIER, .FILE,
      .filePath],
      fun _ _ _ name _ type _ _ => checkFileType ["tbl"] type { tableName := some name }⟩,
    ⟨.createStatement, [.CREATE, .TABLE, .optNotExists, .tableName, .lparen, .tableElemCommalist,
      .rparen],
      fun _ _ _ name _ elems _ =>
        ret { tableName := some name, columns := some (columnDefs elems) }⟩,
    ⟨.createStatement, [.CREATE, .TABLE, .optNotExists, .tableName, .AS, .selectStatement],
      fun _ _ _ name _ _ => ret { tableName := some name }⟩,
    ⟨.createStatement, [.CREATE, .INDEX, .optNotExists, .optIndexName, .ON, .tableName, .lparen,
      .identCommalist, .rparen],
      fun _ _ _ _ _ name _ _ _ => ret { tableName := some name }⟩,
    ⟨.createStatement, [.CREATE, .VIEW, .optNotExists, .tableName, .optColumnList, .AS,
      .selectStatement],
      fun _ _ _ name _ _ _ => ret { tableName := some name }⟩,
    ⟨.optNotExists, [.IF, .NOT, .EXISTS], fun _ _ _ => ret ()⟩,
    ⟨.optNotExists, [], ret ()⟩,
    ⟨.tableElemCommalist, [.tableElem], fun elem => ret [elem]⟩,
    ⟨.tableElemCommalist, [.tableElemCommalist, .comma, .tableElem],
      fun (elems : List (Option ColumnDefinition)) _ elem => ret (elems ++ [elem])⟩,
    ⟨.tableElem, [.columnDef], fun col => ret (some col)⟩,
    ⟨.tableElem, [.tableConstraint], fun _ => ret none⟩,
    ⟨.columnDef, [.IDENTIFIER, .columnType, .optColumnConstraints],
      fun name type _ => ret ⟨name, type⟩⟩,
    ⟨.columnType, [.INT], fun _ => ret .int⟩,
    ⟨.columnType, [.INTEGER], fun _ => ret .int⟩,
    ⟨.columnType, [.LONG], fun _ => ret .long⟩,
    ⟨.columnType, [.FLOAT], fun _ => ret .float⟩,
    ⟨.columnType, [.DECIMAL, .optDecimalSpecification], fun _ _ => ret .decimal⟩,
    ⟨.columnType, [.DOUBLE], fun _ => ret .double⟩,
    ⟨.columnType, [.REAL], fun _ => ret .real⟩,
    ⟨.columnType, [.VARCHAR, .lparen, .INTVAL, .rparen], fun _ _ _ _ => ret .varchar⟩,
    ⟨.columnType, [.CHARACTER, .VARYING, .lparen, .INTVAL, .rparen],
      fun _ _ _ _ _ => ret .varchar⟩,
    ⟨.columnType, [.CHAR, .lparen, .INTVAL, .rparen], fun _ _ _ _ => ret .char⟩,
    ⟨.columnType, [.TEXT], fun _ => ret .text⟩,
    ⟨.columnType, [.TIME, .optTimeSpecification], fun _ _ => ret .time⟩,
    ⟨.columnType, [.DATETIME], fun _ => ret .datetime⟩,
    ⟨.columnType, [.DATE], fun _ => ret .date⟩,
    ⟨.optTimeSpecification, [.lparen, .INTVAL, .rparen], fun _ _ _ => ret ()⟩,
    ⟨.optTimeSpecification, [], ret ()⟩,
    ⟨.optDecimalSpecification, [.lparen, .INTVAL, .comma, .INTVAL, .rparen],
      fun _ _ _ _ _ => ret ()⟩,
    ⟨.optDecimalSpecification, [.lparen, .INTVAL, .rparen], fun _ _ _ => ret ()⟩,
    ⟨.optDecimalSpecification, [], ret ()⟩,
    ⟨.optColumnConstraints, [.columnConstraintList], fun _ => ret ()⟩,
    ⟨.optColumnConstraints, [], ret ()⟩,
    ⟨.columnConstraintList, [.columnConstraint], fun _ => ret ()⟩,
    ⟨.columnConstraintList, [.columnConstraintList, .columnConstraint], fun _ _ => ret ()⟩,
    ⟨.columnConstraint, [.PRIMARY, .KEY], fun _ _ => ret ()⟩,
    ⟨.columnConstraint, [.UNIQUE], fun _ => ret ()⟩,
    ⟨.columnConstraint, [.NULL], fun _ => ret ()⟩,
    ⟨.columnConstraint, [.NOT, .NULL], fun _ _ => ret ()⟩,
    ⟨.tableConstraint, [.PRIMARY, .KEY, .lparen, .identCommalist, .rparen],
      fun _ _ _ _ _ => ret ()⟩,
    ⟨.tableConstraint, [.UNIQUE, .lparen, .identCommalist, .rparen], fun _ _ _ _ => ret ()⟩ ]

/-- DROP and ALTER. -/
def dropRules : List SqlRule :=
  [ ⟨.dropStatement, [.DROP, .TABLE, .optExists, .tableName], fun _ _ _ _ => ret ()⟩,
    ⟨.dropStatement, [.DROP, .VIEW, .optExists, .tableName], fun _ _ _ _ => ret ()⟩,
    ⟨.dropStatement, [.DEALLOCATE, .PREPARE, .IDENTIFIER], fun _ _ _ => ret ()⟩,
    ⟨.dropStatement, [.DROP, .INDEX, .optExists, .IDENTIFIER], fun _ _ _ _ => ret ()⟩,
    ⟨.optExists, [.IF, .EXISTS], fun _ _ => ret ()⟩,
    ⟨.optExists, [], ret ()⟩,
    ⟨.alterStatement, [.ALTER, .TABLE, .optExists, .tableName, .alterAction],
      fun _ _ _ _ _ => ret ()⟩,
    ⟨.alterAction, [.dropAction], fun _ => ret ()⟩,
    ⟨.dropAction, [.DROP, .COLUMN, .optExists, .IDENTIFIER], fun _ _ _ _ => ret ()⟩ ]

/-- DELETE, TRUNCATE, INSERT and UPDATE. -/
def writeRules : List SqlRule :=
  [ ⟨.deleteStatement, [.DELETE, .FROM, .tableName, .optWhere],
      fun _ _ name cond => ret { tableName := some name, expr := cond }⟩,
    ⟨.truncateStatement, [.TRUNCATE, .tableName], fun _ name => ret { tableName := some name }⟩,
    ⟨.insertStatement, [.INSERT, .INTO, .tableName, .optColumnList, .VALUES, .lparen,
      .literalList, .rparen],
      fun _ _ name cols _ _ vals _ =>
        ret { tableName := some name, columns := cols, values := some vals }⟩,
    ⟨.insertStatement, [.INSERT, .INTO, .tableName, .optColumnList, .selectNoParen],
      fun _ _ name cols _ => ret { tableName := some name, columns := cols }⟩,
    ⟨.optColumnList, [.lparen, .identCommalist, .rparen], fun _ names _ => ret (some names)⟩,
    ⟨.optColumnList, [], ret none⟩,
    ⟨.updateStatement, [.UPDATE, .tableRefNameNoAlias, .SET, .updateClauseCommalist, .optWhere],
      fun _ table _ updates cond =>
        ret { table := some table, updates := some updates, whereExpr := cond }⟩,
    ⟨.updateClauseCommalist, [.updateClause], fun clause => ret [clause]⟩,
    ⟨.updateClauseCommalist, [.updateClauseCommalist, .comma, .updateClause],
      fun (clauses : List UpdateClause) _ clause => ret (clauses ++ [clause])⟩,
    ⟨.updateClause, [.IDENTIFIER, .eq, .expr], fun column _ value => ret ⟨column, value⟩⟩ ]

/-- SELECT, and lists of expressions. -/
def selectRules : List SqlRule :=
  [ ⟨.selectStatement, [.optWithClause, .selectWithParen], fun _ stmt => ret stmt⟩,
    ⟨.selectStatement, [.optWithClause, .selectNoParen], fun _ stmt => ret stmt⟩,
    ⟨.selectStatement, [.optWithClause, .selectWithParen, .setOperator, .selectWithinSetOperation,
      .optOrder, .optLimit],
      fun _ stmt _ _ _ _ => ret stmt⟩,
    ⟨.selectWithinSetOperation, [.selectWithParen], fun stmt => ret stmt⟩,
    ⟨.selectWithinSetOperation, [.selectWithinSetOperationNoParentheses], fun stmt => ret stmt⟩,
    ⟨.selectWithinSetOperationNoParentheses, [.selectClause], fun stmt => ret stmt⟩,
    ⟨.selectWithinSetOperationNoParentheses, [.selectClause, .setOperator,
      .selectWithinSetOperation],
      fun stmt _ _ => ret stmt⟩,
    ⟨.selectWithParen, [.lparen, .selectNoParen, .rparen], fun _ stmt _ => ret stmt⟩,
    ⟨.selectWithParen, [.lparen, .selectWithParen, .rparen], fun _ stmt _ => ret stmt⟩,
    ⟨.selectNoParen, [.selectClause, .optOrder, .optLimit],
      fun (stmt : SelectStatement) _ (limit : Option LimitDescription) =>
        ret { stmt with limit := limit.orElse fun _ => stmt.limit }⟩,
    ⟨.selectNoParen, [.selectClause, .setOperator, .selectWithinSetOperation, .optOrder, .optLimit],
      fun stmt _ _ _ _ => ret stmt⟩,
    ⟨.setOperator, [.setType, .optAll], fun _ _ => ret ()⟩,
    ⟨.setType, [.UNION], fun _ => ret ()⟩,
    ⟨.setType, [.INTERSECT], fun _ => ret ()⟩,
    ⟨.setType, [.EXCEPT], fun _ => ret ()⟩,
    ⟨.optAll, [.ALL], fun _ => ret ()⟩,
    ⟨.optAll, [], ret ()⟩,
    ⟨.selectClause, [.SELECT, .optTop, .optDistinct, .selectList, .optFromClause, .optWhere,
      .optGroup],
      fun _ limit _ _ table cond _ =>
        ret { fromTable := table, whereClause := cond, limit := limit }⟩,
    ⟨.optDistinct, [.DISTINCT], fun _ => ret ()⟩,
    ⟨.optDistinct, [], ret ()⟩,
    ⟨.selectList, [.exprList], fun _ => ret ()⟩,
    ⟨.optFromClause, [.fromClause], fun table => ret (some table)⟩,
    ⟨.optFromClause, [], ret none⟩,
    ⟨.fromClause, [.FROM, .tableRef], fun _ table => ret table⟩,
    ⟨.optWhere, [.WHERE, .expr], fun _ expr => ret (some expr)⟩,
    ⟨.optWhere, [], ret none⟩,
    ⟨.optGroup, [.GROUP, .BY, .exprList, .optHaving], fun _ _ _ _ => ret ()⟩,
    ⟨.optGroup, [], ret ()⟩,
    ⟨.optHaving, [.HAVING, .expr], fun _ expr => ret (some expr)⟩,
    ⟨.optHaving, [], ret none⟩,
    ⟨.optOrder, [.ORDER, .BY, .orderList], fun _ _ _ => ret ()⟩,
    ⟨.optOrder, [], ret ()⟩,
    ⟨.orderList, [.orderDesc], fun _ => ret ()⟩,
    ⟨.orderList, [.orderList, .comma, .orderDesc], fun _ _ _ => ret ()⟩,
    ⟨.orderDesc, [.expr, .optOrderType], fun _ _ => ret ()⟩,
    ⟨.optOrderType, [.ASC], fun _ => ret ()⟩,
    ⟨.optOrderType, [.DESC], fun _ => ret ()⟩,
    ⟨.optOrderType, [], ret ()⟩,
    ⟨.optTop, [.TOP, .intLiteral], fun _ count => ret (some { limit := some count })⟩,
    ⟨.optTop, [], ret none⟩,
    ⟨.optLimit, [.LIMIT, .expr], fun _ count => ret (some { limit := some count })⟩,
    ⟨.optLimit, [.OFFSET, .expr], fun _ skip => ret (some { offset := some skip })⟩,
    ⟨.optLimit, [.LIMIT, .expr, .OFFSET, .expr],
      fun _ count _ skip => ret (some { limit := some count, offset := some skip })⟩,
    ⟨.optLimit, [.LIMIT, .ALL], fun _ _ => ret (some {})⟩,
    ⟨.optLimit, [.LIMIT, .ALL, .OFFSET, .expr],
      fun _ _ _ skip => ret (some { offset := some skip })⟩,
    ⟨.optLimit, [], ret none⟩,
    ⟨.exprList, [.exprAlias], fun _ => ret ()⟩,
    ⟨.exprList, [.exprList, .comma, .exprAlias], fun _ _ _ => ret ()⟩,
    ⟨.optLiteralList, [.literalList], fun _ => ret ()⟩,
    ⟨.optLiteralList, [], ret ()⟩,
    ⟨.literalList, [.literal], fun expr => ret [expr]⟩,
    ⟨.literalList, [.literalList, .comma, .literal],
      fun (exprs : List Expr) _ expr => ret (exprs ++ [expr])⟩ ]

/-- Expressions. -/
def exprRules : List SqlRule :=
  [ ⟨.exprAlias, [.expr, .optAlias], fun expr _ => ret expr⟩,
    ⟨.expr, [.operand], fun expr => ret expr⟩,
    ⟨.expr, [.betweenExpr], fun expr => ret expr⟩,
    ⟨.expr, [.logicExpr], fun expr => ret expr⟩,
    ⟨.expr, [.existsExpr], fun expr => ret expr⟩,
    ⟨.expr, [.inExpr], fun expr => ret expr⟩,
    ⟨.operand, [.lparen, .expr, .rparen], fun _ expr _ => ret expr⟩,
    ⟨.operand, [.arrayIndex], fun expr => ret expr⟩,
    ⟨.operand, [.scalarExpr], fun expr => ret expr⟩,
    ⟨.operand, [.unaryExpr], fun expr => ret expr⟩,
    ⟨.operand, [.binaryExpr], fun expr => ret expr⟩,
    ⟨.operand, [.caseExpr], fun expr => ret expr⟩,
    ⟨.operand, [.functionExpr], fun expr => ret expr⟩,
    ⟨.operand, [.extractExpr], fun expr => ret expr⟩,
    ⟨.operand, [.castExpr], fun expr => ret expr⟩,
    ⟨.operand, [.arrayExpr], fun expr => ret expr⟩,
    ⟨.operand, [.lparen, .selectNoParen, .rparen], fun _ _ _ => ret .makeSelect⟩,
    ⟨.scalarExpr, [.columnName], fun expr => ret expr⟩,
    ⟨.scalarExpr, [.literal], fun expr => ret expr⟩,
    ⟨.unaryExpr, [.minus, .operand], fun _ expr => ret (.makeOpUnary .kOpUnaryMinus expr)⟩,
    ⟨.unaryExpr, [.NOT, .operand], fun _ expr => ret (.makeOpUnary .kOpNot expr)⟩,
    ⟨.unaryExpr, [.operand, .ISNULL], fun expr _ => ret (.makeOpUnary .kOpIsNull expr)⟩,
    ⟨.unaryExpr, [.operand, .IS, .NULL], fun expr _ _ => ret (.makeOpUnary .kOpIsNull expr)⟩,
    ⟨.unaryExpr, [.operand, .IS, .NOT, .NULL],
      fun expr _ _ _ => ret (.makeOpUnary .kOpNot (.makeOpUnary .kOpIsNull expr))⟩,
    ⟨.binaryExpr, [.compExpr], fun expr => ret expr⟩,
    ⟨.binaryExpr, [.operand, .minus, .operand],
      fun left _ right => ret (.makeOpBinary left .kOpMinus right)⟩,
    ⟨.binaryExpr, [.operand, .plus, .operand],
      fun left _ right => ret (.makeOpBinary left .kOpPlus right)⟩,
    ⟨.binaryExpr, [.operand, .slash, .operand],
      fun left _ right => ret (.makeOpBinary left .kOpSlash right)⟩,
    ⟨.binaryExpr, [.operand, .star, .operand],
      fun left _ right => ret (.makeOpBinary left .kOpAsterisk right)⟩,
    ⟨.binaryExpr, [.operand, .percent, .operand],
      fun left _ right => ret (.makeOpBinary left .kOpPercentage right)⟩,
    ⟨.binaryExpr, [.operand, .caret, .operand],
      fun left _ right => ret (.makeOpBinary left .kOpCaret right)⟩,
    ⟨.binaryExpr, [.operand, .LIKE, .operand],
      fun left _ right => ret (.makeOpBinary left .kOpLike right)⟩,
    ⟨.binaryExpr, [.operand, .NOT, .LIKE, .operand],
      fun left _ _ right => ret (.makeOpBinary left .kOpNotLike right)⟩,
    ⟨.binaryExpr, [.operand, .ILIKE, .operand],
      fun left _ right => ret (.makeOpBinary left .kOpILike right)⟩,
    ⟨.binaryExpr, [.operand, .CONCAT, .operand],
      fun left _ right => ret (.makeOpBinary left .kOpConcat right)⟩,
    ⟨.logicExpr, [.expr, .AND, .expr], fun left _ right => ret (.makeOpBinary left .kOpAnd right)⟩,
    ⟨.logicExpr, [.expr, .OR, .expr], fun left _ right => ret (.makeOpBinary left .kOpOr right)⟩,
    ⟨.inExpr, [.operand, .IN, .lparen, .exprList, .rparen],
      fun expr _ _ _ _ => ret (.makeInOperator expr)⟩,
    ⟨.inExpr, [.operand, .NOT, .IN, .lparen, .exprList, .rparen],
      fun expr _ _ _ _ _ => ret (.makeOpUnary .kOpNot (.makeInOperator expr))⟩,
    ⟨.inExpr, [.operand, .IN, .lparen, .selectNoParen, .rparen],
      fun expr _ _ _ _ => ret (.makeInOperator expr)⟩,
    ⟨.inExpr, [.operand, .NOT, .IN, .lparen, .selectNoParen, .rparen],
      fun expr _ _ _ _ _ => ret (.makeOpUnary .kOpNot (.makeInOperator expr))⟩,
    ⟨.caseExpr, [.CASE, .expr, .caseList, .END],
      fun _ expr _ _ => ret (.makeCase (some expr) none)⟩,
    ⟨.caseExpr, [.CASE, .expr, .caseList, .ELSE, .expr, .END],
      fun _ expr _ _ otherwise _ => ret (.makeCase (some expr) (some otherwise))⟩,
    ⟨.caseExpr, [.CASE, .caseList, .END], fun _ _ _ => ret (.makeCase none none)⟩,
    ⟨.caseExpr, [.CASE, .caseList, .ELSE, .expr, .END],
      fun _ _ _ otherwise _ => ret (.makeCase none (some otherwise))⟩,
    ⟨.caseList, [.WHEN, .expr, .THEN, .expr], fun _ _ _ _ => ret ()⟩,
    ⟨.caseList, [.caseList, .WHEN, .expr, .THEN, .expr], fun _ _ _ _ _ => ret ()⟩,
    ⟨.existsExpr, [.EXISTS, .lparen, .selectNoParen, .rparen], fun _ _ _ _ => ret .makeExists⟩,
    ⟨.existsExpr, [.NOT, .EXISTS, .lparen, .selectNoParen, .rparen],
      fun _ _ _ _ _ => ret (.makeOpUnary .kOpNot .makeExists)⟩ ]

/-- Comparisons, calls and names. -/
def operandRules : List SqlRule :=
  [ ⟨.compExpr, [.operand, .eq, .operand],
      fun left _ right => ret (.makeOpBinary left .kOpEquals right)⟩,
    ⟨.compExpr, [.operand, .EQUALS, .operand],
      fun left _ right => ret (.makeOpBinary left .kOpEquals right)⟩,
    ⟨.compExpr, [.operand, .NOTEQUALS, .operand],
      fun left _ right => ret (.makeOpBinary left .kOpNotEquals right)⟩,
    ⟨.compExpr, [.operand, .lt, .operand],
      fun left _ right => ret (.makeOpBinary left .kOpLess right)⟩,
    ⟨.compExpr, [.operand, .gt, .operand],
      fun left _ right => ret (.makeOpBinary left .kOpGreater right)⟩,
    ⟨.compExpr, [.operand, .LESSEQ, .operand],
      fun left _ right => ret (.makeOpBinary left .kOpLessEq right)⟩,
    ⟨.compExpr, [.operand, .GREATEREQ, .operand],
      fun left _ right => ret (.makeOpBinary left .kOpGreaterEq right)⟩,
    ⟨.functionExpr, [.IDENTIFIER, .lparen, .rparen], fun name _ _ => ret (.makeFunctionRef name)⟩,
    ⟨.functionExpr, [.IDENTIFIER, .lparen, .optDistinct, .exprList, .rparen],
      fun name _ _ _ _ => ret (.makeFunctionRef name)⟩,
    ⟨.extractExpr, [.EXTRACT, .lparen, .datetimeField, .FROM, .expr, .rparen],
      fun _ _ _ _ expr _ => ret (.makeExtract expr)⟩,
    ⟨.castExpr, [.CAST, .lparen, .expr, .AS, .columnType, .rparen],
      fun _ _ expr _ _ _ => ret (.makeCast expr)⟩,
    ⟨.datetimeField, [.SECOND], fun _ => ret ()⟩,
    ⟨.datetimeField, [.MINUTE], fun _ => ret ()⟩,
    ⟨.datetimeField, [.HOUR], fun _ => ret ()⟩,
    ⟨.datetimeField, [.DAY], fun _ => ret ()⟩,
    ⟨.datetimeField, [.MONTH], fun _ => ret ()⟩,
    ⟨.datetimeField, [.YEAR], fun _ => ret ()⟩,
    ⟨.datetimeFieldPlural, [.SECONDS], fun _ => ret ()⟩,
    ⟨.datetimeFieldPlural, [.MINUTES], fun _ => ret ()⟩,
    ⟨.datetimeFieldPlural, [.HOURS], fun _ => ret ()⟩,
    ⟨.datetimeFieldPlural, [.DAYS], fun _ => ret ()⟩,
    ⟨.datetimeFieldPlural, [.MONTHS], fun _ => ret ()⟩,
    ⟨.datetimeFieldPlural, [.YEARS], fun _ => ret ()⟩,
    ⟨.durationField, [.datetimeField], fun _ => ret ()⟩,
    ⟨.durationField, [.datetimeFieldPlural], fun _ => ret ()⟩,
    ⟨.arrayExpr, [.ARRAY, .lbracket, .exprList, .rbracket], fun _ _ _ _ => ret .makeArray⟩,
    ⟨.arrayIndex, [.operand, .lbracket, .intLiteral, .rbracket],
      fun expr _ (index : Expr) _ => ret (.makeArrayIndex expr index.ival)⟩,
    ⟨.betweenExpr, [.operand, .BETWEEN, .operand, .AND, .operand],
      fun expr _ _ _ _ => ret (.makeBetween expr)⟩,
    ⟨.columnName, [.IDENTIFIER], fun name => ret (.makeColumnRef name)⟩,
    ⟨.columnName, [.IDENTIFIER, .dot, .IDENTIFIER], fun _ _ name => ret (.makeColumnRef name)⟩,
    ⟨.columnName, [.star], fun _ => ret .makeStar⟩,
    ⟨.columnName, [.IDENTIFIER, .dot, .star], fun _ _ _ => ret .makeStar⟩ ]

/-- Literals. -/
def literalRules : List SqlRule :=
  [ ⟨.literal, [.stringLiteral], fun expr => ret expr⟩,
    ⟨.literal, [.boolLiteral], fun expr => ret expr⟩,
    ⟨.literal, [.numLiteral], fun expr => ret expr⟩,
    ⟨.literal, [.nullLiteral], fun expr => ret expr⟩,
    ⟨.literal, [.dateLiteral], fun expr => ret expr⟩,
    ⟨.literal, [.intervalLiteral], fun expr => ret expr⟩,
    ⟨.literal, [.paramExpr], fun expr => ret expr⟩,
    ⟨.stringLiteral, [.STRING], fun val => ret (.makeLiteral val)⟩,
    ⟨.boolLiteral, [.TRUE], fun _ => ret (.makeLiteralBool true)⟩,
    ⟨.boolLiteral, [.FALSE], fun _ => ret (.makeLiteralBool false)⟩,
    ⟨.numLiteral, [.FLOATVAL], fun _ => ret .makeLiteralFloat⟩,
    ⟨.numLiteral, [.intLiteral], fun expr => ret expr⟩,
    ⟨.intLiteral, [.INTVAL], fun val => ret (.makeLiteralInt val)⟩,
    ⟨.nullLiteral, [.NULL], fun _ => ret .makeNullLiteral⟩,
    ⟨.dateLiteral, [.DATE, .STRING], fun _ val => dateLiteral val⟩,
    ⟨.intervalLiteral, [.intLiteral, .durationField],
      fun (duration : Expr) _ => ret (.makeIntervalLiteral duration.ival)⟩,
    ⟨.intervalLiteral, [.INTERVAL, .STRING, .datetimeField], fun _ val _ => intervalLiteral val⟩,
    ⟨.intervalLiteral, [.INTERVAL, .STRING], fun _ val => intervalLiteralUnit val⟩,
    ⟨.paramExpr, [.question], fun _ => addParameter⟩ ]

/-- Tables, aliases and joins. -/
def tableRules : List SqlRule :=
  [ ⟨.tableRef, [.tableRefAtomic], fun table => ret table⟩,
    ⟨.tableRef, [.tableRefCommalist, .comma, .tableRefAtomic], fun _ _ _ => ret {}⟩,
    ⟨.tableRefAtomic, [.nonjoinTableRefAtomic], fun table => ret table⟩,
    ⟨.tableRefAtomic, [.joinClause], fun table => ret table⟩,
    ⟨.nonjoinTableRefAtomic, [.tableRefName], fun table => ret table⟩,
    ⟨.nonjoinTableRefAtomic, [.lparen, .selectStatement, .rparen, .optTableAlias],
      fun _ _ _ _ => ret {}⟩,
    ⟨.tableRefCommalist, [.tableRefAtomic], fun table => ret [table]⟩,
    ⟨.tableRefCommalist, [.tableRefCommalist, .comma, .tableRefAtomic],
      fun (tables : List TableRef) _ table => ret (tables ++ [table])⟩,
    ⟨.tableRefName, [.tableName, .optTableAlias], fun name _ => ret { name := some name }⟩,
    ⟨.tableRefNameNoAlias, [.tableName], fun name => ret { name := some name }⟩,
    ⟨.tableName, [.IDENTIFIER], fun name => ret name⟩,
    ⟨.tableName, [.IDENTIFIER, .dot, .IDENTIFIER], fun _ _ name => ret name⟩,
    ⟨.optIndexName, [.IDENTIFIER], fun _ => ret ()⟩,
    ⟨.optIndexName, [], ret ()⟩,
    ⟨.tableAlias, [.alias], fun _ => ret ()⟩,
    ⟨.tableAlias, [.AS, .IDENTIFIER, .lparen, .identCommalist, .rparen], fun _ _ _ _ _ => ret ()⟩,
    ⟨.optTableAlias, [.tableAlias], fun _ => ret ()⟩,
    ⟨.optTableAlias, [], ret ()⟩,
    ⟨.alias, [.AS, .IDENTIFIER], fun _ _ => ret ()⟩,
    ⟨.alias, [.IDENTIFIER], fun _ => ret ()⟩,
    ⟨.optAlias, [.alias], fun _ => ret ()⟩,
    ⟨.optAlias, [], ret ()⟩,
    ⟨.optWithClause, [.withClause], fun _ => ret ()⟩,
    ⟨.optWithClause, [], ret ()⟩,
    ⟨.withClause, [.WITH, .withDescriptionList], fun _ _ => ret ()⟩,
    ⟨.withDescriptionList, [.withDescription], fun _ => ret ()⟩,
    ⟨.withDescriptionList, [.withDescriptionList, .comma, .withDescription], fun _ _ _ => ret ()⟩,
    ⟨.withDescription, [.IDENTIFIER, .AS, .selectWithParen], fun _ _ _ => ret ()⟩,
    ⟨.joinClause, [.tableRefAtomic, .NATURAL, .JOIN, .nonjoinTableRefAtomic],
      fun _ _ _ _ => ret {}⟩,
    ⟨.joinClause, [.tableRefAtomic, .optJoinType, .JOIN, .tableRefAtomic, .ON, .joinCondition],
      fun _ _ _ _ _ _ => ret {}⟩,
    ⟨.joinClause, [.tableRefAtomic, .optJoinType, .JOIN, .tableRefAtomic, .USING, .lparen,
      .columnName, .rparen],
      fun _ _ _ _ _ _ (column : Expr) _ => joinUsing column⟩,
    ⟨.optJoinType, [.INNER], fun _ => ret ()⟩,
    ⟨.optJoinType, [.LEFT, .OUTER], fun _ _ => ret ()⟩,
    ⟨.optJoinType, [.LEFT], fun _ => ret ()⟩,
    ⟨.optJoinType, [.RIGHT, .OUTER], fun _ _ => ret ()⟩,
    ⟨.optJoinType, [.RIGHT], fun _ => ret ()⟩,
    ⟨.optJoinType, [.FULL, .OUTER], fun _ _ => ret ()⟩,
    ⟨.optJoinType, [.OUTER], fun _ => ret ()⟩,
    ⟨.optJoinType, [.FULL], fun _ => ret ()⟩,
    ⟨.optJoinType, [.CROSS], fun _ => ret ()⟩,
    ⟨.optJoinType, [], ret ()⟩,
    ⟨.joinCondition, [.expr], fun expr => ret expr⟩,
    ⟨.optSemicolon, [.semicolon], fun _ => ret ()⟩,
    ⟨.optSemicolon, [], ret ()⟩,
    ⟨.identCommalist, [.IDENTIFIER], fun name => ret [name]⟩,
    ⟨.identCommalist, [.identCommalist, .comma, .IDENTIFIER],
      fun (names : List Str) _ name => ret (names ++ [name])⟩ ]

/-- The rules, from number 1 on. -/
def rules : List SqlRule :=
  inputRules ++ otherRules ++ createRules ++ dropRules ++ writeRules ++
    selectRules ++ exprRules ++ operandRules ++ literalRules ++ tableRules

/-- The rule with a number. -/
def rule : ℕ → Option SqlRule
  | 0 => none
  | n + 1 => rules[n]?

end UhpSql
