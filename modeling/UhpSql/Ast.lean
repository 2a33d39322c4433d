import UhpSql.StringUtils

/-!
# Parse trees (`parser/expr.h`, `parser/*_statement.h`)

The trees the parser hands to the executor, with the fields the executor reads. A pointer
that the parser may leave null is an `Option`, and reading through it is `deref`.
-/

namespace UhpSql

/-- Read through a pointer. -/
def deref {α : Type} : Option α → Except Fault α
  | some a => .ok a
  | none => .error .nullPointer

@[simp] theorem deref_some {α : Type} (a : α) : deref (some a) = .ok a :=
  rfl

@[simp] theorem deref_none {α : Type} : deref (none : Option α) = .error .nullPointer :=
  rfl

theorem deref_eq_ok {α : Type} {o : Option α} {a : α} : deref o = .ok a ↔ o = some a := by
  cases o <;> simp

/-! ## Column types -/

/-- `hsql::DataType`. -/
inductive DataType where
  | unknown
  | int
  | long
  | float
  | double
  | decimal
  | real
  | char
  | varchar
  | text
  | datetime
  | date
  | time
  | smallint
  deriving DecidableEq, Repr

/-- `Int2DataType`. -/
def int2DataType (n : ℤ) : DataType :=
  match n with
  | 0 => .unknown
  | 1 => .int
  | 2 => .long
  | 3 => .float
  | 4 => .double
  | 5 => .decimal
  | 6 => .real
  | 7 => .char
  | 8 => .varchar
  | 9 => .text
  | 10 => .datetime
  | 11 => .date
  | 12 => .time
  | 13 => .smallint
  | _ => .varchar

/-- `DataType2Int`. -/
def dataType2Int : DataType → ℤ
  | .unknown => 0
  | .int => 1
  | .long => 2
  | .float => 3
  | .double => 4
  | .decimal => 5
  | .real => 6
  | .char => 7
  | .varchar => 8
  | .text => 9
  | .datetime => 10
  | .date => 11
  | .time => 12
  | .smallint => 13

@[simp] theorem int2DataType_dataType2Int (t : DataType) :
    int2DataType (dataType2Int t) = t := by
  cases t <;> rfl

/-! ## Expressions -/

/-- `hsql::ExprType`. -/
inductive ExprType where
  | kExprLiteralFloat
  | kExprLiteralString
  | kExprLiteralInt
  | kExprLiteralNull
  | kExprLiteralDate
  | kExprLiteralInterval
  | kExprStar
  | kExprParameter
  | kExprColumnRef
  | kExprFunctionRef
  | kExprOperator
  | kExprSelect
  | kExprHint
  | kExprArray
  | kExprArrayIndex
  | kExprExtract
  | kExprCast
  deriving DecidableEq, Repr

/-- `hsql::OperatorType`. -/
inductive OperatorType where
  | kOpNone
  | kOpBetween
  | kOpCase
  | kOpCaseListElement
  | kOpPlus
  | kOpMinus
  | kOpAsterisk
  | kOpSlash
  | kOpPercentage
  | kOpCaret
  | kOpEquals
  | kOpNotEquals
  | kOpLess
  | kOpLessEq
  | kOpGreater
  | kOpGreaterEq
  | kOpLike
  | kOpNotLike
  | kOpILike
  | kOpAnd
  | kOpOr
  | kOpIn
  | kOpConcat
  | kOpNot
  | kOpUnaryMinus
  | kOpIsNull
  | kOpExists
  deriving DecidableEq, Repr

/-- `hsql::Expr`, without the fields the executor never reads. -/
structure Expr where
  type : ExprType
  expr : Option Expr := none
  expr2 : Option Expr := none
  name : Option Str := none
  ival : Int64 := 0
  opType : OperatorType := .kOpNone

namespace Expr

def makeOpUnary (op : OperatorType) (expr : Expr) : Expr :=
  { type := .kExprOperator, opType := op, expr := some expr }

def makeOpBinary (expr1 : Expr) (op : OperatorType) (expr2 : Expr) : Expr :=
  { type := .kExprOperator, opType := op, expr := some expr1, expr2 := some expr2 }

/-- `makeLiteral(char*)`. -/
def makeLiteral (val : Str) : Expr :=
  { type := .kExprLiteralString, name := some val }

/-- `makeLiteral(int64_t)`. -/
def makeLiteralInt (val : Int64) : Expr :=
  { type := .kExprLiteralInt, ival := val }

/-- `makeLiteral(bool)`. -/
def makeLiteralBool (val : Bool) : Expr :=
  { type := .kExprLiteralInt, ival := if val then 1 else 0 }

/-- `makeLiteral(double)`. -/
def makeLiteralFloat : Expr :=
  { type := .kExprLiteralFloat }

def makeNullLiteral : Expr :=
  { type := .kExprLiteralNull }

def makeDateLiteral (string : Str) : Expr :=
  { type := .kExprLiteralDate, name := some string }

def makeIntervalLiteral (duration : Int64) : Expr :=
  { type := .kExprLiteralInterval, ival := duration }

def makeColumnRef (name : Str) : Expr :=
  { type := .kExprColumnRef, name := some name }

def makeParameter (id : Int64) : Expr :=
  { type := .kExprParameter, ival := id }

def makeStar : Expr :=
  { type := .kExprStar }

def makeFunctionRef (func_name : Str) : Expr :=
  { type := .kExprFunctionRef, name := some func_name }

/-- `makeBetween`, whose bounds go into `exprList`. -/
def makeBetween (expr : Expr) : Expr :=
  { type := .kExprOperator, expr := some expr, opType := .kOpBetween }

/-- `makeCase`, whose branches go into `exprList`. -/
def makeCase (expr elseExpr : Option Expr) : Expr :=
  { type := .kExprOperator, opType := .kOpCase, expr := expr, expr2 := elseExpr }

def makeInOperator (expr : Expr) : Expr :=
  { type := .kExprOperator, opType := .kOpIn, expr := some expr }

def makeExists : Expr :=
  { type := .kExprOperator, opType := .kOpExists }

def makeArray : Expr :=
  { type := .kExprArray }

def makeArrayIndex (expr : Expr) (index : Int64) : Expr :=
  { type := .kExprArrayIndex, expr := some expr, ival := index }

/-- `makeSelect`, whose statement goes into `select`. -/
def makeSelect : Expr :=
  { type := .kExprSelect }

def makeExtract (expr : Expr) : Expr :=
  { type := .kExprExtract, expr := some expr }

def makeCast (expr : Expr) : Expr :=
  { type := .kExprCast, expr := some expr }

end Expr

/-- The literals of the grammar, `float` and the unit of `interval` as they are written. -/
inductive Literal where
  | string (val : Str)
  | bool (val : Bool)
  | float (val : Str)
  | int (val : Int64)
  | null
  | date (val : Str)
  | interval (duration : Int64) (unit : Str)
  | parameter (id : Int64)

namespace Literal

/-- The tree the parser makes of a literal. -/
def toExpr : Literal → Expr
  | string val => .makeLiteral val
  | bool val => .makeLiteralBool val
  | float _ => .makeLiteralFloat
  | int val => .makeLiteralInt val
  | null => .makeNullLiteral
  | date val => .makeDateLiteral val
  | interval duration _ => .makeIntervalLiteral duration
  | parameter id => .makeParameter id

/-- A literal as text. The parser takes TRUE and FALSE for the integers 1 and 0. -/
def text : Literal → Str
  | string val => val
  | bool val => str (if val then "1" else "0")
  | float val => val
  | int val => toStr val.toInt
  | null => str "NULL"
  | date val => val
  | interval duration unit => toStr duration.toInt ++ str " " ++ unit
  | parameter _ => str "?"

end Literal

/-! ## Statements -/

/-- A column of CREATE TABLE : its name and `type.data_type`. -/
structure ColumnDefinition where
  name : Str
  type : DataType
  deriving DecidableEq

/-- `hsql::CreateStatement`, which the grammar makes of other statements as well. -/
structure CreateStatement where
  tableName : Option Str := none
  columns : Option (List ColumnDefinition) := none

/-- A table name, or a subquery or join, whose `name` is null. -/
structure TableRef where
  name : Option Str := none

/-- LIMIT and OFFSET, either of them left out or an expression. -/
structure LimitDescription where
  limit : Option Expr := none
  offset : Option Expr := none

/-- `hsql::SelectStatement`. Nothing is read of the list of what is selected. -/
structure SelectStatement where
  fromTable : Option TableRef := none
  whereClause : Option Expr := none
  limit : Option LimitDescription := none

/-- `hsql::InsertStatement`, whose `values` are null if they come from a SELECT. -/
structure InsertStatement where
  tableName : Option Str := none
  columns : Option (List Str) := none
  values : Option (List Expr) := none

/-- One assignment of SET. -/
structure UpdateClause where
  column : Str
  value : Expr

/-- `hsql::UpdateStatement`. -/
structure UpdateStatement where
  table : Option TableRef := none
  updates : Option (List UpdateClause) := none
  whereExpr : Option Expr := none

/-- `hsql::DeleteStatement`. `expr` is null where there is no WHERE clause. -/
structure DeleteStatement where
  tableName : Option Str := none
  expr : Option Expr := none

/-- A statement, by `type()`. The executor answers OK to every kind it does not know. -/
inductive SQLStatement where
  | create (stmt : CreateStatement)
  | select (stmt : SelectStatement)
  | insert (stmt : InsertStatement)
  | delete (stmt : DeleteStatement)
  | update (stmt : UpdateStatement)
  | other

end UhpSql
