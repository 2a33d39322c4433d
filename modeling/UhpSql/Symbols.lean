import UhpSql.Ast
import UhpSql.Lr

/-!
# The symbols of the grammar (`parser/bison_parser.y`)

`Symbol` lists the tokens and the symbols that rules make in the order in which the tables number
them. `Sem` is the member of the union `YYSTYPE` that the grammar declares for a symbol, as far as
the executor reads what it points to. `Failure` is why an action does not return.
-/

namespace UhpSql

/-- Tokens, with the characters that are tokens by themselves last, and then the other symbols. -/
inductive Symbol where
  | YYEOF | YYTERROR | YYUNDEFTOK | IDENTIFIER | STRING | FLOATVAL | INTVAL | DEALLOCATE
  | PARAMETERS | INTERSECT | TEMPORARY | TIMESTAMP | DISTINCT | NVARCHAR | RESTRICT | TRUNCATE
  | ANALYZE | BETWEEN | CASCADE | COLUMNS | CONTROL | DEFAULT | EXECUTE | EXPLAIN | INTEGER
  | NATURAL | PREPARE | PRIMARY | SCHEMAS | CHARACTER | VARYING | REAL | DECIMAL | SPATIAL
  | VARCHAR | VIRTUAL | DESCRIBE | BEFORE | COLUMN | CREATE | DELETE | DIRECT | DOUBLE | ESCAPE
  | EXCEPT | EXISTS | EXTRACT | CAST | FORMAT | GLOBAL | HAVING | IMPORT | INSERT | ISNULL | OFFSET
  | RENAME | SCHEMA | SELECT | SORTED | TABLES | UNIQUE | UNLOAD | UPDATE | VALUES | AFTER | ALTER
  | CROSS | DELTA | FLOAT | GROUP | INDEX | INNER | LIMIT | LOCAL | MERGE | MINUS | ORDER | OUTER
  | RIGHT | TABLE | UNION | USING | WHERE | CALL | CASE | CHAR | COPY | DATE | DATETIME | DESC
  | DROP | ELSE | FILE | FROM | FULL | HASH | HINT | INTO | JOIN | LEFT | LIKE | LOAD | LONG | NULL
  | PLAN | SHOW | TEXT | THEN | TIME | VIEW | WHEN | WITH | ADD | ALL | AND | ASC | END | FOR | INT
  | KEY | NOT | OFF | SET | TOP | AS | BY | IF | IN | IS | OF | ON | OR | TO | ARRAY | CONCAT
  | ILIKE | SECOND | MINUTE | HOUR | DAY | MONTH | YEAR | SECONDS | MINUTES | HOURS | DAYS | MONTHS
  | YEARS | INTERVAL | TRUE | FALSE | TRANSACTION | BEGIN | COMMIT | ROLLBACK | eq | EQUALS
  | NOTEQUALS | lt | gt | LESS | GREATER | LESSEQ | GREATEREQ | NOTNULL | plus | minus | star
  | slash | percent | caret | UMINUS | lbracket | rbracket | lparen | rparen | dot | semicolon
  | comma | question
  | accept | input | statementList | statement | preparableStatement | optHints | hintList | hint
  | transactionStatement | optTransactionKeyword | prepareStatement | prepareTargetQuery
  | executeStatement | importStatement | fileType | filePath | optFileType | exportStatement
  | showStatement | createStatement | optNotExists | tableElemCommalist | tableElem | columnDef
  | columnType | optTimeSpecification | optDecimalSpecification | optColumnConstraints
  | columnConstraintList | columnConstraint | tableConstraint | dropStatement | optExists
  | alterStatement | alterAction | dropAction | deleteStatement | truncateStatement
  | insertStatement | optColumnList | updateStatement | updateClauseCommalist | updateClause
  | selectStatement | selectWithinSetOperation | selectWithinSetOperationNoParentheses
  | selectWithParen | selectNoParen | setOperator | setType | optAll | selectClause | optDistinct
  | selectList | optFromClause | fromClause | optWhere | optGroup | optHaving | optOrder
  | orderList | orderDesc | optOrderType | optTop | optLimit | exprList | optLiteralList
  | literalList | exprAlias | expr | operand | scalarExpr | unaryExpr | binaryExpr | logicExpr
  | inExpr | caseExpr | caseList | existsExpr | compExpr | functionExpr | extractExpr | castExpr
  | datetimeField | datetimeFieldPlural | durationField | arrayExpr | arrayIndex | betweenExpr
  | columnName | literal | stringLiteral | boolLiteral | numLiteral | intLiteral | nullLiteral
  | dateLiteral | intervalLiteral | paramExpr | tableRef | tableRefAtomic | nonjoinTableRefAtomic
  | tableRefCommalist | tableRefName | tableRefNameNoAlias | tableName | optIndexName | tableAlias
  | optTableAlias | alias | optAlias | optWithClause | withClause | withDescriptionList
  | withDescription | joinClause | optJoinType | joinCondition | optSemicolon | identCommalist
  deriving DecidableEq

namespace Symbol

/-- The number of a symbol in the tables. -/
def num (X : Symbol) : ℕ :=
  X.ctorIdx

theorem num_inj {X Y : Symbol} (h : X.num = Y.num) : X = Y :=
  (ofNat_ctorIdx X).symm.trans ((congrArg ofNat h).trans (ofNat_ctorIdx Y))

end Symbol

/-- The values of a symbol. A statement that the executor does not know is `SQLStatement.other`,
and so nothing is read of it. -/
@[reducible] def Sem : Symbol → Type
  | .IDENTIFIER | .STRING | .prepareTargetQuery | .filePath | .tableName => Str
  | .INTVAL => Int64
  | .statementList => List SQLStatement
  | .statement | .preparableStatement => SQLStatement
  | .createStatement => CreateStatement
  | .tableElemCommalist => List (Option ColumnDefinition)
  | .tableElem => Option ColumnDefinition
  | .columnDef => ColumnDefinition
  | .columnType => DataType
  | .deleteStatement | .truncateStatement => DeleteStatement
  | .insertStatement => InsertStatement
  | .optColumnList => Option (List Str)
  | .identCommalist => List Str
  | .updateStatement => UpdateStatement
  | .updateClauseCommalist => List UpdateClause
  | .updateClause => UpdateClause
  | .selectStatement | .selectWithinSetOperation | .selectWithinSetOperationNoParentheses
  | .selectWithParen | .selectNoParen | .selectClause => SelectStatement
  | .optFromClause => Option TableRef
  | .fromClause | .tableRef | .tableRefAtomic | .nonjoinTableRefAtomic | .tableRefName
  | .tableRefNameNoAlias | .joinClause => TableRef
  | .tableRefCommalist => List TableRef
  | .optWhere | .optHaving => Option Expr
  | .optTop | .optLimit => Option LimitDescription
  | .literalList => List Expr
  | .exprAlias | .expr | .operand | .scalarExpr | .unaryExpr | .binaryExpr | .logicExpr | .inExpr
  | .caseExpr | .existsExpr | .compExpr | .functionExpr | .extractExpr | .castExpr | .arrayExpr
  | .arrayIndex | .betweenExpr | .columnName | .literal | .stringLiteral | .boolLiteral
  | .numLiteral | .intLiteral | .nullLiteral | .dateLiteral | .intervalLiteral | .paramExpr
  | .joinCondition => Expr
  | _ => Unit

/-- A token as the lexer returns it. -/
abbrev Token :=
  Lr.Token Sem

/-- What the actions leave behind : `statements_` of the result, and the size of `param_list`. -/
structure ParseState where
  statements : List SQLStatement := []
  params : ℕ := 0

/-- A read through a null pointer, or `YYERROR` after `yyerror` with a message. -/
inductive Failure where
  | fault (e : Fault)
  | error (msg : Str)

end UhpSql
