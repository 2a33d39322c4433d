import UhpSql.Session

/-!
# Statements as the grammar builds them (`parser/bison_parser.y`)

`Term` lists the expressions of the grammar by the builders of `parser/expr.cc` that make their
trees, `Source`, `Limit` and `CreateForm` the parts of statements in which the trees leave
pointers null, and `Parsed` the statements that are analyzed as SELECT, DELETE, UPDATE or
CREATE. `analyzed_iff` says which of them the analyzers read without following a null pointer.
-/

namespace UhpSql

/-! ## Expressions -/

/-- An expression, without the lists and subqueries in it that the executor never reads. -/
inductive Term where
  | literal (lit : Literal)
  | column (name : Str)
  | star
  | function (name : Str)
  | unary (op : OperatorType) (operand : Term)
  | binary (left : Term) (op : OperatorType) (right : Term)
  | between (operand : Term)
  | inOperator (operand : Term)
  | existsIn
  | caseOf (operand : Term)
  | caseOfElse (operand otherwise : Term)
  | caseWhen
  | caseWhenElse (otherwise : Term)
  | extract (operand : Term)
  | cast (operand : Term)
  | array
  | arrayIndex (operand : Term) (index : Int64)
  | select

namespace Term

/-- The tree of an expression. -/
def toExpr : Term → Expr
  | literal lit => lit.toExpr
  | column name => .makeColumnRef name
  | star => .makeStar
  | function name => .makeFunctionRef name
  | unary op operand => .makeOpUnary op operand.toExpr
  | binary left op right => .makeOpBinary left.toExpr op right.toExpr
  | between operand => .makeBetween operand.toExpr
  | inOperator operand => .makeInOperator operand.toExpr
  | existsIn => .makeExists
  | caseOf operand => .makeCase (some operand.toExpr) none
  | caseOfElse operand otherwise => .makeCase (some operand.toExpr) (some otherwise.toExpr)
  | caseWhen => .makeCase none none
  | caseWhenElse otherwise => .makeCase none (some otherwise.toExpr)
  | extract operand => .makeExtract operand.toExpr
  | cast operand => .makeCast operand.toExpr
  | array => .makeArray
  | arrayIndex operand index => .makeArrayIndex operand.toExpr index
  | select => .makeSelect

/-- The expressions whose tree has a name. -/
def named : Term → Bool
  | column _ | function _ | literal (.string _) | literal (.date _) => true
  | _ => false

/-- The expressions that an analyzer can read as a WHERE clause : those that are no operator,
and those with two operands that have names. -/
def readable : Term → Bool
  | binary left _ right => left.named && right.named
  | caseOfElse operand otherwise => operand.named && otherwise.named
  | unary _ _ | between _ | inOperator _ | existsIn | caseOf _ | caseWhen | caseWhenElse _ => false
  | _ => true

end Term

/-! ## Statements -/

/-- What follows FROM. Only a table by itself has a name. -/
inductive Source where
  | name (t : Str)
  | select
  | join
  | crossProduct

def Source.toTableRef : Source → TableRef
  | name t => { name := some t }
  | select => {}
  | join => {}
  | crossProduct => {}

/-- TOP, LIMIT and OFFSET. -/
inductive Limit where
  | top (count : Int64)
  | limit (count : Term)
  | offset (skip : Term)
  | limitOffset (count skip : Term)
  | limitAll
  | limitAllOffset (skip : Term)

namespace Limit

def toDescription : Limit → LimitDescription
  | top count => { limit := some (.makeLiteralInt count) }
  | limit count => { limit := some count.toExpr }
  | offset skip => { offset := some skip.toExpr }
  | limitOffset count skip => { limit := some count.toExpr, offset := some skip.toExpr }
  | limitAll => {}
  | limitAllOffset skip => { offset := some skip.toExpr }

/-- A limit with a number of rows. -/
def counted : Limit → Bool
  | top _ | limit _ | limitOffset _ _ => true
  | _ => false

end Limit

/-- The statements that begin with CREATE. -/
inductive CreateForm where
  | table (columns : List ColumnDefinition)
  | fromTbl
  | asSelect
  | index
  | view

/-- The tree of a CREATE statement : only a list of elements sets the columns. -/
def createTree (t : Str) : CreateForm → CreateStatement
  | .table columns => { tableName := some t, columns := some columns }
  | .fromTbl => { tableName := some t }
  | .asSelect => { tableName := some t }
  | .index => { tableName := some t }
  | .view => { tableName := some t }

def selectTree (source : Option Source) (cond : Option Term) (limit : Option Limit) :
    SelectStatement where
  fromTable := source.map Source.toTableRef
  whereClause := cond.map Term.toExpr
  limit := limit.map Limit.toDescription

def deleteTree (t : Str) (cond : Option Term) : DeleteStatement where
  tableName := some t
  expr := cond.map Term.toExpr

/-- The tree of UPDATE. The grammar asks for one SET clause at least. -/
def updateTree (t : Str) (clause : Str × Term) (clauses : List (Str × Term)) (cond : Option Term) :
    UpdateStatement where
  table := some { name := some t }
  updates := some ((clause :: clauses).map fun c => ⟨c.1, c.2.toExpr⟩)
  whereExpr := cond.map Term.toExpr

/-- The statements that go to the analyzers of SELECT, DELETE, UPDATE and CREATE. -/
inductive Parsed where
  | select (source : Option Source) (cond : Option Term) (limit : Option Limit)
  | delete (t : Str) (cond : Option Term)
  | update (t : Str) (clause : Str × Term) (clauses : List (Str × Term)) (cond : Option Term)
  | create (t : Str) (form : CreateForm)

namespace Parsed

/-- The analyzer of the statement returns, with true or false. -/
def Analyzed (d : DBMS) (u : Uninit) : Parsed → Prop
  | select source cond limit =>
    ∃ r, analyzeSelectStatement d u (selectTree source cond limit) = .ok r
  | delete t cond => ∃ r, analyzeDeleteStatement d u (deleteTree t cond) = .ok r
  | update t clause clauses cond =>
    ∃ r, analyzeUpdateStatement d u (updateTree t clause clauses cond) = .ok r
  | create t form => ∃ r, analyzeCreateTableStatement (createTree t form) = .ok r

/-- SELECT names a table, and where the table exists and there is a WHERE clause, the clause is
readable and any limit has a number. DELETE and UPDATE of an existing table have a readable
clause, UPDATE sets its first column to something with a name, and CREATE lists columns. -/
def Readable (d : DBMS) : Parsed → Prop
  | select source cond limit => ∃ t, source = some (.name t) ∧
      (d.hasTable t → ∀ e ∈ cond, e.readable ∧ ∀ l ∈ limit, l.counted)
  | delete t cond => d.hasTable t → ∀ e ∈ cond, e.readable
  | update t clause _ cond => d.hasTable t → clause.2.named ∧ ∃ e ∈ cond, e.readable
  | create _ form => ∃ columns, form = .table columns

end Parsed

/-! ## What the analyzers can read -/

/-- A sequence of two steps goes through when the second does after the first. -/
theorem exists_bind_eq_ok {α β : Type} {x : Except Fault α} {f : α → Except Fault β} :
    (∃ b, (x >>= f) = .ok b) ↔ ∃ a, x = .ok a ∧ ∃ b, f a = .ok b := by
  simp only [bind_eq_ok, ← exists_and_left]
  exact exists_comm

/-- Without the table there is nothing to read. -/
theorem exists_unless {α : Type} {b : Bool} {x : Except Fault (Option α)} :
    (∃ r, (if !b then pure none else x) = .ok r) ↔ (b → ∃ r, x = .ok r) := by
  cases b with
  | false => exact iff_of_true ⟨none, rfl⟩ fun h => absurd h Bool.false_ne_true
  | true => exact (imp_iff_right rfl).symm

theorem Literal.isSome_name_toExpr (lit : Literal) :
    lit.toExpr.name.isSome = (Term.literal lit).named := by
  cases lit <;> rfl

theorem Term.isSome_name_toExpr : ∀ e : Term, e.toExpr.name.isSome = e.named
  | literal lit => lit.isSome_name_toExpr
  | column _ | star | function _ | unary _ _ | binary _ _ _ | between _ | inOperator _ | existsIn
  | caseOf _ | caseOfElse _ _ | caseWhen | caseWhenElse _ | extract _ | cast _ | array
  | arrayIndex _ _ | select => rfl

theorem Term.exists_deref_name (e : Term) : (∃ x, deref e.toExpr.name = .ok x) ↔ e.named := by
  rw [← e.isSome_name_toExpr, Option.isSome_iff_exists]
  simp only [deref_eq_ok]

/-- Two operands are read when both have names. -/
theorem exists_operands (left : Term) (op : OperatorType) (right : Term) :
    (∃ r, operands (.makeOpBinary left.toExpr op right.toExpr) = .ok r) ↔
      left.named && right.named := by
  rw [Bool.and_eq_true, ← left.exists_deref_name, ← right.exists_deref_name]
  simp only [operands, Expr.makeOpBinary, deref_some, ok_bind, exists_bind_eq_ok]
  refine ⟨fun h => ?_, fun h => ?_⟩
  · obtain ⟨x, hx, y, hy, -⟩ := h
    exact ⟨⟨x, hx⟩, ⟨y, hy⟩⟩
  · obtain ⟨⟨x, hx⟩, y, hy⟩ := h
    exact ⟨x, hx, y, hy, _, rfl⟩

/-- An operator with a missing operand is not read. -/
theorem not_exists_operands {expr : Expr} (h : expr.expr = none ∨ expr.expr2 = none) :
    ¬∃ r, operands expr = .ok r := by
  simp only [operands, exists_bind_eq_ok, deref_eq_ok, not_exists, not_and]
  intro left hleft _ _ right hright
  rcases h with h | h
  · cases h.symm.trans hleft
  · cases h.symm.trans hright

/-- What a WHERE clause must be for an analyzer to read it. -/
theorem Term.exists_analyzeWhere (op : OperatorType) (e : Term) :
    (∃ r, analyzeWhere op e.toExpr = .ok r) ↔ e.readable := by
  cases e with
  | binary left op' right => exact exists_operands left op' right
  | caseOfElse operand otherwise => exact exists_operands operand _ otherwise
  | unary | between | inOperator | caseOf =>
    exact iff_of_false (not_exists_operands (Or.inr rfl)) Bool.false_ne_true
  | existsIn | caseWhen | caseWhenElse =>
    exact iff_of_false (not_exists_operands (Or.inl rfl)) Bool.false_ne_true
  | literal lit => exact iff_of_true ⟨(op, [], []), by cases lit <;> rfl⟩ rfl
  | column | star | function | extract | cast | array | arrayIndex | select =>
    exact iff_of_true ⟨_, rfl⟩ rfl

theorem exists_limitOf (limit : Option Limit) :
    (∃ n, limitOf (limit.map Limit.toDescription) = .ok n) ↔ ∀ l ∈ limit, l.counted := by
  cases limit with
  | none => exact iff_of_true ⟨0, rfl⟩ fun _ h => absurd h (Option.not_mem_none _)
  | some l =>
    simp only [Option.mem_some_iff, forall_eq']
    cases l with
    | top | limit | limitOffset => exact iff_of_true ⟨_, rfl⟩ rfl
    | offset | limitAll | limitAllOffset =>
      refine iff_of_false (fun h => ?_) Bool.false_ne_true
      obtain ⟨n, hn⟩ := h
      cases hn

section
variable (d : DBMS) (u : Uninit)

theorem exists_analyzeSelectStatement (source : Option Source) (cond : Option Term)
    (limit : Option Limit) :
    (∃ r, analyzeSelectStatement d u (selectTree source cond limit) = .ok r) ↔
      ∃ t, source = some (.name t) ∧
        (d.hasTable t → ∀ e ∈ cond, e.readable ∧ ∀ l ∈ limit, l.counted) := by
  rcases source with _ | source
  · refine iff_of_false (fun h => ?_) fun h => ?_
    · obtain ⟨r, hr⟩ := h
      cases hr
    · obtain ⟨t, ht, -⟩ := h
      cases ht
  cases source with
  | name t =>
    simp only [analyzeSelectStatement, selectTree, Option.map_some, Source.toTableRef, deref_some,
      ok_bind, Option.some_inj, Source.name.injEq, exists_eq_left', exists_unless]
    refine imp_congr_right fun _ => ?_
    cases cond with
    | none => exact iff_of_true ⟨_, rfl⟩ fun _ h => absurd h (Option.not_mem_none _)
    | some e =>
      simp only [Option.map_some, exists_bind_eq_ok, Option.mem_some_iff, forall_eq']
      rw [← e.exists_analyzeWhere u.opType, ← exists_limitOf]
      refine ⟨fun h => ?_, fun h => ?_⟩
      · obtain ⟨r, hr, n, hn, -⟩ := h
        exact ⟨⟨r, hr⟩, ⟨n, hn⟩⟩
      · obtain ⟨⟨r, hr⟩, n, hn⟩ := h
        exact ⟨r, hr, n, hn, _, rfl⟩
  | select | join | crossProduct =>
    refine iff_of_false (fun h => ?_) fun h => ?_
    · obtain ⟨r, hr⟩ := h
      cases hr
    · obtain ⟨t, ht, -⟩ := h
      cases ht

theorem exists_analyzeDeleteStatement (t : Str) (cond : Option Term) :
    (∃ r, analyzeDeleteStatement d u (deleteTree t cond) = .ok r) ↔
      (d.hasTable t → ∀ e ∈ cond, e.readable) := by
  simp only [analyzeDeleteStatement, deleteTree, deref_some, ok_bind, exists_unless]
  refine imp_congr_right fun _ => ?_
  cases cond with
  | none => exact iff_of_true ⟨_, rfl⟩ fun _ h => absurd h (Option.not_mem_none _)
  | some e =>
    simp only [Option.map_some, exists_bind_eq_ok, Option.mem_some_iff, forall_eq']
    rw [← e.exists_analyzeWhere u.opType]
    exact exists_congr fun r => and_iff_left ⟨_, rfl⟩

theorem exists_analyzeUpdateStatement (t : Str) (clause : Str × Term)
    (clauses : List (Str × Term)) (cond : Option Term) :
    (∃ r, analyzeUpdateStatement d u (updateTree t clause clauses cond) = .ok r) ↔
      (d.hasTable t → clause.2.named ∧ ∃ e ∈ cond, e.readable) := by
  simp only [analyzeUpdateStatement, updateTree, deref_some, ok_bind, List.map_cons,
    exists_unless]
  refine imp_congr_right fun _ => ?_
  rw [← clause.2.exists_deref_name]
  simp only [exists_bind_eq_ok]
  cases cond with
  | none =>
    refine iff_of_false (fun h => ?_) fun h => ?_
    · obtain ⟨x, -, e, he, -⟩ := h
      cases he
    · obtain ⟨-, e, he, -⟩ := h
      cases he
  | some e =>
    simp only [Option.map_some, deref_some, Except.ok.injEq, exists_eq_left', Option.mem_some_iff]
    rw [← e.exists_analyzeWhere u.opType]
    refine ⟨fun h => ?_, fun h => ?_⟩
    · obtain ⟨x, hx, r, hr, -⟩ := h
      exact ⟨⟨x, hx⟩, r, hr⟩
    · obtain ⟨⟨x, hx⟩, r, hr⟩ := h
      exact ⟨x, hx, r, hr, _, rfl⟩

theorem exists_analyzeCreateTableStatement (t : Str) (form : CreateForm) :
    (∃ r, analyzeCreateTableStatement (createTree t form) = .ok r) ↔
      ∃ columns, form = .table columns := by
  cases form with
  | table columns => exact iff_of_true ⟨_, rfl⟩ ⟨columns, rfl⟩
  | fromTbl | asSelect | index | view =>
    refine iff_of_false (fun h => ?_) fun h => ?_
    · obtain ⟨r, hr⟩ := h
      cases hr
    · obtain ⟨columns, h⟩ := h
      cases h

end

/-- The analyzers return, rather than follow a null pointer, exactly for the readable
statements. -/
theorem analyzed_iff (d : DBMS) (u : Uninit) (stmt : Parsed) :
    stmt.Analyzed d u ↔ stmt.Readable d := by
  cases stmt with
  | select source cond limit => exact exists_analyzeSelectStatement d u source cond limit
  | delete t cond => exact exists_analyzeDeleteStatement d u t cond
  | update t clause clauses cond => exact exists_analyzeUpdateStatement d u t clause clauses cond
  | create t form => exact exists_analyzeCreateTableStatement t form

/-- `UPDATE classtab SET Score = 94 WHERE Name = 'Tom'` : the integer has no name. -/
theorem not_analyzed_int : Reachable Env.whole classServer ∧
    ¬(Parsed.update (str "classtab") (str "Score", .literal (.int 94)) []
      (some (.binary (.column (str "Name")) .kOpEquals (.literal (.string (str "Tom")))))).Analyzed
        classServer.dbms .zero := by
  refine ⟨reachable_classServer, fun h => ?_⟩
  have hread := (exists_analyzeUpdateStatement _ _ _ _ _ _).1 h
    (hasTable_of_getTable getTable_classServer)
  exact absurd hread.1 (by decide)

end UhpSql
