import UhpSql.ParserStates
import UhpSql.StoredTables

/-!
# The texts of commands (`parser/bison_parser.y`)

The tokens a `Command` is written with, and the syntax tree of this text by the rules of the
grammar. The tables agree with the tree (`follow_tree`), its actions make the statement of the
command (`eval_tree`) and the stack has room for it, whatever the lengths of its lists
(`height_tree_le`). So the parser makes of the text the statement that the executor is given
(`run_text`).
-/

namespace UhpSql

open Lr.Tree (follow_node follows_cons follows_leaf eval_node evals_cons)

/-! ## Texts -/

def comma : Token := ⟨.comma, ()⟩

/-- Texts with commas between them. -/
def commas : List (List Token) → List Token
  | [] => []
  | u :: us => u ++ us.flatMap fun v => comma :: v

/-- An identifier with its name. -/
def ident (name : Str) : Token := ⟨.IDENTIFIER, name⟩

/-- A string without its quotes. -/
def quoted (val : Str) : Token := ⟨.STRING, val⟩

/-- `c = 'v'`. -/
def equalText (c v : Str) : List Token :=
  [ident c, ⟨.eq, ()⟩, quoted v]

/-- A type, with the length `n` if it is CHAR or VARCHAR. -/
def typeText (n : Int64) : DataType → List Token
  | .int => [⟨.INT, ()⟩]
  | .long => [⟨.LONG, ()⟩]
  | .float => [⟨.FLOAT, ()⟩]
  | .double => [⟨.DOUBLE, ()⟩]
  | .decimal => [⟨.DECIMAL, ()⟩]
  | .real => [⟨.REAL, ()⟩]
  | .char => [⟨.CHAR, ()⟩, ⟨.lparen, ()⟩, ⟨.INTVAL, n⟩, ⟨.rparen, ()⟩]
  | .varchar => [⟨.VARCHAR, ()⟩, ⟨.lparen, ()⟩, ⟨.INTVAL, n⟩, ⟨.rparen, ()⟩]
  | .text => [⟨.TEXT, ()⟩]
  | .datetime => [⟨.DATETIME, ()⟩]
  | .date => [⟨.DATE, ()⟩]
  | .time => [⟨.TIME, ()⟩]
  | .unknown | .smallint => []

/-- The types that the grammar has a text for. -/
def writtenTypes : List DataType :=
  [.int, .long, .float, .double, .decimal, .real, .char, .varchar, .text, .datetime, .date, .time]

namespace Command

/-- The tokens of `toStatement`, with `n i` for the length of the column at `i`. -/
def text (n : ℕ → Int64) : Command → List Token
  | create t cols => [⟨.CREATE, ()⟩, ⟨.TABLE, ()⟩, ident t, ⟨.lparen, ()⟩] ++
      commas (cols.zipIdx.map fun c => ident c.1.name :: typeText (n c.2) c.1.type) ++
      [⟨.rparen, ()⟩]
  | insert t row => [⟨.INSERT, ()⟩, ⟨.INTO, ()⟩, ident t, ⟨.lparen, ()⟩] ++
      commas (row.map fun a => [ident a.1]) ++ [⟨.rparen, ()⟩, ⟨.VALUES, ()⟩, ⟨.lparen, ()⟩] ++
      commas (row.map fun a => [quoted a.2]) ++ [⟨.rparen, ()⟩]
  | update t c k a w => [⟨.UPDATE, ()⟩, ident t, ⟨.SET, ()⟩] ++ equalText a w ++ [⟨.WHERE, ()⟩] ++
      equalText c k
  | delete t c k => [⟨.DELETE, ()⟩, ⟨.FROM, ()⟩, ident t, ⟨.WHERE, ()⟩] ++ equalText c k
  | find t c k => [⟨.SELECT, ()⟩, ⟨.star, ()⟩, ⟨.FROM, ()⟩, ident t, ⟨.WHERE, ()⟩] ++ equalText c k
  | like t c p => [⟨.SELECT, ()⟩, ⟨.star, ()⟩, ⟨.FROM, ()⟩, ident t, ⟨.WHERE, ()⟩, ident c,
      ⟨.LIKE, ()⟩, quoted (p ++ str "%")]

/-- The grammar asks for one element of a list at least. -/
def Writable : Command → Prop
  | create _ cols => cols ≠ [] ∧ ∀ c ∈ cols, c.type ∈ writtenTypes
  | insert _ row => row ≠ []
  | _ => True

end Command

/-! ## Syntax trees -/

/-- A text of one statement, which rule `n` makes of `stmt`. -/
def inputTree (n : ℕ) (stmt : Lr.Tree Token) : Lr.Tree Token :=
  .node 2 [.node 3 [.node 6 [.node n [stmt], .node 21 []]], .node 300 []]

/-- A table name without a schema. -/
def tableNameTree (t : Str) : Lr.Tree Token :=
  .node 267 [.leaf (ident t)]

/-- The literal that is a string. -/
def literalTree (val : Str) : Lr.Tree Token :=
  .node 238 [.node 245 [.leaf (quoted val)]]

/-- The operand that is a column. -/
def columnTree (c : Str) : Lr.Tree Token :=
  .node 165 [.node 174 [.node 234 [.leaf (ident c)]]]

/-- The operand that is a string. -/
def operandTree (val : Str) : Lr.Tree Token :=
  .node 165 [.node 175 [literalTree val]]

/-- The tree of `equalText`. -/
def equalTree (c v : Str) : Lr.Tree Token :=
  .node 181 [.node 206 [columnTree c, .leaf ⟨.eq, ()⟩, operandTree v]]

/-- The tree of `c LIKE 'p'`. -/
def likeTree (c p : Str) : Lr.Tree Token :=
  .node 188 [columnTree c, .leaf ⟨.LIKE, ()⟩, operandTree p]

/-- The WHERE clause. -/
def whereTree (cond : Lr.Tree Token) : Lr.Tree Token :=
  .node 129 [.leaf ⟨.WHERE, ()⟩, .node 158 [.node 167 [cond]]]

/-- The tree of a list with commas. -/
def commaTree (n₁ n₂ : ℕ) : List (Lr.Tree Token) → Lr.Tree Token
  | [] => .node n₁ []
  | t :: ts => .list n₁ n₂ comma t ts

/-- The tree of `typeText`. There is no rule for the last two. -/
def typeTree (n : Int64) : DataType → Lr.Tree Token
  | .int => .node 57 [.leaf ⟨.INT, ()⟩]
  | .long => .node 59 [.leaf ⟨.LONG, ()⟩]
  | .float => .node 60 [.leaf ⟨.FLOAT, ()⟩]
  | .double => .node 62 [.leaf ⟨.DOUBLE, ()⟩]
  | .decimal => .node 61 [.leaf ⟨.DECIMAL, ()⟩, .node 75 []]
  | .real => .node 63 [.leaf ⟨.REAL, ()⟩]
  | .char => .node 66 [.leaf ⟨.CHAR, ()⟩, .leaf ⟨.lparen, ()⟩, .leaf ⟨.INTVAL, n⟩,
      .leaf ⟨.rparen, ()⟩]
  | .varchar => .node 64 [.leaf ⟨.VARCHAR, ()⟩, .leaf ⟨.lparen, ()⟩, .leaf ⟨.INTVAL, n⟩,
      .leaf ⟨.rparen, ()⟩]
  | .text => .node 67 [.leaf ⟨.TEXT, ()⟩]
  | .datetime => .node 69 [.leaf ⟨.DATETIME, ()⟩]
  | .date => .node 70 [.leaf ⟨.DATE, ()⟩]
  | .time => .node 68 [.leaf ⟨.TIME, ()⟩, .node 72 []]
  | .unknown | .smallint => .node 0 []

/-- A column with its place in the list. -/
def elemTree (n : ℕ → Int64) (c : ColumnDefinition × ℕ) : Lr.Tree Token :=
  .node 54 [.node 56 [.leaf (ident c.1.name), typeTree (n c.2) c.1.type, .node 77 []]]

/-- CREATE TABLE without IF NOT EXISTS. -/
def createNode (n : ℕ → Int64) (t : Str) (cols : List ColumnDefinition) : Lr.Tree Token :=
  .node 46 [.leaf ⟨.CREATE, ()⟩, .leaf ⟨.TABLE, ()⟩, .node 51 [], tableNameTree t,
    .leaf ⟨.lparen, ()⟩, commaTree 52 53 (cols.zipIdx.map (elemTree n)), .leaf ⟨.rparen, ()⟩]

/-- INSERT with the names of its columns. -/
def insertNode (t : Str) (row : List (Str × Str)) : Lr.Tree Token :=
  .node 97 [.leaf ⟨.INSERT, ()⟩, .leaf ⟨.INTO, ()⟩, tableNameTree t,
    .node 99 [.leaf ⟨.lparen, ()⟩, commaTree 301 302 (row.map fun a => .leaf (ident a.1)),
      .leaf ⟨.rparen, ()⟩],
    .leaf ⟨.VALUES, ()⟩, .leaf ⟨.lparen, ()⟩, commaTree 155 156 (row.map fun a => literalTree a.2),
    .leaf ⟨.rparen, ()⟩]

/-- UPDATE with one assignment. -/
def updateNode (t c k a w : Str) : Lr.Tree Token :=
  .node 101 [.leaf ⟨.UPDATE, ()⟩, .node 266 [tableNameTree t], .leaf ⟨.SET, ()⟩,
    .node 102 [.node 104 [.leaf (ident a), .leaf ⟨.eq, ()⟩, .node 158 [operandTree w]]],
    whereTree (equalTree c k)]

def deleteNode (t c k : Str) : Lr.Tree Token :=
  .node 95 [.leaf ⟨.DELETE, ()⟩, .leaf ⟨.FROM, ()⟩, tableNameTree t, whereTree (equalTree c k)]

/-- SELECT of all columns of one table, with nothing behind the WHERE clause. -/
def selectNode (t : Str) (cond : Lr.Tree Token) : Lr.Tree Token :=
  .node 106 [.node 280 [], .node 114 [.node 122 [.leaf ⟨.SELECT, ()⟩, .node 144 [], .node 124 [],
    .node 125 [.node 151 [.node 157 [.node 158 [.node 165 [.node 174 [.node 236
      [.leaf ⟨.star, ()⟩]]]], .node 278 []]]],
    .node 126 [.node 128 [.leaf ⟨.FROM, ()⟩, .node 257 [.node 259 [.node 261 [.node 265
      [tableNameTree t, .node 274 []]]]]]],
    whereTree cond, .node 132 []], .node 136 [], .node 150 []]]

/-- The tree of `text`. -/
def Command.tree (n : ℕ → Int64) : Command → Lr.Tree Token
  | create t cols => inputTree 11 (createNode n t cols)
  | insert t row => inputTree 12 (insertNode t row)
  | update t c k a w => inputTree 15 (updateNode t c k a w)
  | delete t c k => inputTree 13 (deleteNode t c k)
  | find t c k => inputTree 10 (selectNode t (equalTree c k))
  | like t c p => inputTree 10 (selectNode t (likeTree c (p ++ str "%")))

/-! ## The tables agree

The numbers are those of states. The first one stands before the list, the second after it. -/

/-- A list with commas before a closing parenthesis is followed when the shapes of its elements
are. -/
theorem follow_commaTree {n₁ n₂ p q m : ℕ} {X : Symbol} {l : List (Lr.Tree Symbol)}
    (hX : (yyparse.rule n₂).map Lr.Rule.lhs = some X) (hgoto : yyparse.goto p X = q)
    (hm : m ≠ YYFINAL)
    (hfirst : ∀ s ∈ l, ∀ la ∈ [Symbol.comma, .rparen],
      (Lr.Tree.node n₁ [s]).follow yyparse p la = some q)
    (hmore : ∀ s ∈ l, ∀ la ∈ [Symbol.comma, .rparen],
      Lr.Tree.follows yyparse q [.leaf .comma, s] la = some m ∧ yyparse.action m la = .reduce n₂)
    {ts : List (Lr.Tree Token)} (hne : ts ≠ []) (hts : ∀ t ∈ ts, t.map Sigma.fst ∈ l) :
    ((commaTree n₁ n₂ ts).map Sigma.fst).follow yyparse p .rparen = some q := by
  cases ts with
  | nil => exact absurd rfl hne
  | cons t ts =>
    rw [commaTree, Lr.Tree.map_list]
    refine Lr.Tree.follow_list hX hgoto hm (hfirst _ (hts t List.mem_cons_self)) (fun s hs => ?_) _
      (List.mem_cons_of_mem _ List.mem_cons_self)
    obtain ⟨u, hu, rfl⟩ := List.mem_map.1 hs
    exact hmore _ (hts u (List.mem_cons_of_mem t hu))

set_option maxRecDepth 2000 in
/-- The columns that INSERT names. -/
theorem follow_names {δ : Type} (name : δ → Str) {row : List δ} (hne : row ≠ []) :
    ((commaTree 301 302 (row.map fun a => .leaf (ident (name a)))).map Sigma.fst).follow yyparse 146
      .rparen = some 233 :=
  follow_commaTree (m := 406) (X := .identCommalist) (l := [.leaf .IDENTIFIER])
    (by decide) (by decide) (by decide) (by decide) (by decide)
    (by simpa using hne) (by simp [Lr.Tree.map, ident])

/-- The values of INSERT. -/
theorem follow_literals {δ : Type} (val : δ → Str) {row : List δ} (hne : row ≠ []) :
    ((commaTree 155 156 (row.map fun a => literalTree (val a))).map Sigma.fst).follow yyparse 316
      .rparen = some 407 :=
  follow_commaTree (m := 262) (X := .literalList) (l := [(literalTree []).map Sigma.fst])
    (by decide) (by decide) (by decide) (by decide) (by decide)
    (by simpa using hne) (by simp [Lr.Tree.map, Lr.Tree.maps, literalTree, quoted])

set_option maxRecDepth 2000 in
/-- The columns of CREATE TABLE : the tree of each type leads to one state. -/
theorem follow_elems (n : ℕ → Int64) {cols : List ColumnDefinition} (hne : cols ≠ [])
    (hcols : ∀ c ∈ cols, c.type ∈ writtenTypes) :
    ((commaTree 52 53 (cols.zipIdx.map (elemTree n))).map Sigma.fst).follow yyparse 201 .rparen =
      some 269 := by
  refine follow_commaTree (m := 444) (X := .tableElemCommalist)
    (l := writtenTypes.map fun type => (elemTree (fun _ => 0) (⟨[], type⟩, 0)).map Sigma.fst)
    (by decide) (by decide) (by decide) (by decide) (by decide)
    (by simpa using hne) ?_
  intro t ht
  obtain ⟨c, hc, rfl⟩ := List.mem_map.1 ht
  refine List.mem_map.2 ⟨c.1.type, hcols c.1 (List.fst_mem_of_mem_zipIdx hc), ?_⟩
  obtain ⟨⟨name, type⟩, i⟩ := c
  cases type <;> rfl

set_option maxRecDepth 2000 in
/-- A statement before the end of the text. -/
theorem follow_inputTree {n : ℕ} {stmt : Lr.Tree Token}
    (h : ((Lr.Tree.node n [stmt]).map Sigma.fst).follow yyparse 0 .YYEOF = some 22) :
    ((inputTree n stmt).map Sigma.fst).follow yyparse 0 .YYEOF = some 19 := by
  have hstatement : Lr.Tree.follow yyparse 0 (.node 6 [(Lr.Tree.node n [stmt]).map Sigma.fst,
      .node 21 []]) .YYEOF = some 21 :=
    follow_node (X := .statement) (m := 71) (by decide) (by decide)
      ((follows_cons h).trans (by decide)) (by decide) (by decide)
  have hlist : Lr.Tree.follow yyparse 0 (.node 3 [.node 6 [(Lr.Tree.node n [stmt]).map Sigma.fst,
      .node 21 []]]) .YYEOF = some 20 :=
    follow_node (X := .statementList) (m := 21) (by decide) (by decide)
      (follows_cons hstatement) (by decide) (by decide)
  exact follow_node (X := .input) (m := 69) (by decide) (by decide)
    ((follows_cons hlist).trans (by decide)) (by decide) (by decide)

set_option maxRecDepth 2000 in
/-- INSERT : only its two lists have a length that the tables do not fix. -/
theorem follow_insert (t : Str) {row : List (Str × Str)} (hrow : row ≠ []) :
    ((Lr.Tree.node 12 [insertNode t row]).map Sigma.fst).follow yyparse 0 .YYEOF = some 22 := by
  have htable : ((tableNameTree t).map Sigma.fst).follow yyparse 50 .lparen = some 89 := by
    change ((tableNameTree []).map Sigma.fst).follow yyparse 50 .lparen = some 89
    decide
  have hcolumns : Lr.Tree.follow yyparse 89 (.node 99 [.leaf .lparen,
      (commaTree 301 302 (row.map fun a => .leaf (ident a.1))).map Sigma.fst, .leaf .rparen])
      .VALUES = some 147 := by
    refine follow_node (X := .optColumnList) (m := 314) (by decide)
      (by decide) ?_ (by decide) (by decide)
    rw [follows_leaf (Y := .YYEOF) (q := 146) (by decide),
      follows_cons (follow_names Prod.fst hrow)]
    decide
  have hinsert : ((insertNode t row).map Sigma.fst).follow yyparse 0 .YYEOF = some 34 := by
    rw [insertNode]
    simp only [Lr.Tree.map, Lr.Tree.maps]
    refine follow_node (X := .insertStatement) (m := 463) (by decide)
      (by decide) ?_ (by decide) (by decide)
    rw [follows_leaf (Y := .YYEOF) (q := 9) (by decide),
      follows_leaf (Y := .YYEOF) (q := 50) (by decide), follows_cons htable,
      follows_cons hcolumns, follows_leaf (Y := .YYEOF) (q := 234) (by decide),
      follows_leaf (Y := .YYEOF) (q := 316) (by decide),
      follows_cons (follow_literals Prod.snd hrow)]
    decide
  exact follow_node (X := .preparableStatement) (m := 34) (by decide)
    (by decide) (follows_cons hinsert) (by decide) (by decide)

set_option maxRecDepth 2000 in
/-- CREATE TABLE : only the list of its columns does. -/
theorem follow_create (n : ℕ → Int64) (t : Str) {cols : List ColumnDefinition} (hne : cols ≠ [])
    (hcols : ∀ c ∈ cols, c.type ∈ writtenTypes) :
    ((Lr.Tree.node 11 [createNode n t cols]).map Sigma.fst).follow yyparse 0 .YYEOF = some 22 := by
  have htable : ((tableNameTree t).map Sigma.fst).follow yyparse 84 .lparen = some 141 := by
    change ((tableNameTree []).map Sigma.fst).follow yyparse 84 .lparen = some 141
    decide
  have hcreate : ((createNode n t cols).map Sigma.fst).follow yyparse 0 .YYEOF = some 29 := by
    rw [createNode]
    simp only [Lr.Tree.map, Lr.Tree.maps]
    refine follow_node (X := .createStatement) (m := 360) (by decide)
      (by decide) ?_ (by decide) (by decide)
    have hnew : Lr.Tree.follow yyparse 46 (.node 51 []) .IDENTIFIER = some 84 := by decide
    rw [follows_leaf (Y := .YYEOF) (q := 6) (by decide),
      follows_leaf (Y := .YYEOF) (q := 46) (by decide), follows_cons hnew,
      follows_cons htable, follows_leaf (Y := .YYEOF) (q := 201) (by decide),
      follows_cons (follow_elems n hne hcols)]
    decide
  exact follow_node (X := .preparableStatement) (m := 29) (by decide)
    (by decide) (follows_cons hcreate) (by decide) (by decide)

/-! ## Their values -/

/-- The rules of a list add one element at its end. -/
theorem eval_commaTree {δ : Type} {n₁ n₂ : ℕ} {elem : δ → Lr.Tree Token} {f : List δ → Token}
    {st : ParseState} {row : List δ} (hne : row ≠ [])
    (hfirst : ∀ a ∈ row, (Lr.Tree.node n₁ [elem a]).eval yyparse st = some (f [a], st))
    (hmore : ∀ a ∈ row, ∀ (l : Lr.Tree Token) (as : List δ), l.eval yyparse st = some (f as, st) →
      (Lr.Tree.node n₂ [l, .leaf comma, elem a]).eval yyparse st = some (f (as ++ [a]), st)) :
    (commaTree n₁ n₂ (row.map elem)).eval yyparse st = some (f row, st) := by
  cases row with
  | nil => exact absurd rfl hne
  | cons a row =>
    exact Lr.Tree.eval_list (hfirst a List.mem_cons_self) fun b hb =>
      hmore b (List.mem_cons_of_mem a hb)

theorem eval_names {δ : Type} (name : δ → Str) {row : List δ} (hne : row ≠ []) (st : ParseState) :
    (commaTree 301 302 (row.map fun a => .leaf (ident (name a)))).eval yyparse st =
      some (⟨.identCommalist, row.map name⟩, st) := by
  refine eval_commaTree (f := fun row => ⟨.identCommalist, row.map name⟩) hne (fun _ _ => rfl) ?_
  intro a _ l row h
  have hr : yyparse.rule 302 = some _ := rfl
  rw [List.map_append]
  exact eval_node hr (evals_cons h (evals_cons rfl (evals_cons rfl rfl))) rfl

theorem eval_literals {δ : Type} (val : δ → Str) {row : List δ} (hne : row ≠ [])
    (st : ParseState) :
    (commaTree 155 156 (row.map fun a => literalTree (val a))).eval yyparse st =
      some (⟨.literalList, row.map fun a => .makeLiteral (val a)⟩, st) := by
  refine eval_commaTree (f := fun row => ⟨.literalList, row.map fun a => .makeLiteral (val a)⟩)
    hne (fun _ _ => rfl) ?_
  intro a _ l row h
  have hr : yyparse.rule 156 = some _ := rfl
  rw [List.map_append]
  exact eval_node hr (evals_cons h (evals_cons rfl (evals_cons rfl rfl))) rfl

/-- A column is its name and its type, and the length is lost. -/
theorem eval_elem (n : ℕ → Int64) {c : ColumnDefinition × ℕ} (hc : c.1.type ∈ writtenTypes)
    (st : ParseState) : (elemTree n c).eval yyparse st = some (⟨.tableElem, some c.1⟩, st) := by
  obtain ⟨⟨name, type⟩, i⟩ := c
  cases type with
  | unknown | smallint => simp [writtenTypes] at hc
  | _ => rfl

theorem eval_elems (n : ℕ → Int64) {cols : List (ColumnDefinition × ℕ)} (hne : cols ≠ [])
    (hcols : ∀ c ∈ cols, c.1.type ∈ writtenTypes) (st : ParseState) :
    (commaTree 52 53 (cols.map (elemTree n))).eval yyparse st =
      some (⟨.tableElemCommalist, cols.map fun c => some c.1⟩, st) := by
  have hfirst : yyparse.rule 52 = some _ := rfl
  have hmore : yyparse.rule 53 = some _ := rfl
  refine eval_commaTree (f := fun cols => ⟨.tableElemCommalist, cols.map fun c => some c.1⟩)
    hne ?_ ?_
  · intro c hc
    exact eval_node hfirst (evals_cons (eval_elem n (hcols c hc) st) rfl) rfl
  · intro c hc l cols h
    rw [List.map_append]
    exact eval_node hmore (evals_cons h (evals_cons rfl
      (evals_cons (eval_elem n (hcols c hc) st) rfl))) rfl

/-- A text that is one statement. -/
theorem eval_inputTree {n : ℕ} {t : Lr.Tree Token} {stmt : SQLStatement} {st : ParseState}
    (h : (Lr.Tree.node n [t]).eval yyparse st = some (⟨.preparableStatement, stmt⟩, st)) :
    (inputTree n t).eval yyparse st =
      some (⟨.input, ()⟩, { st with statements := st.statements ++ [stmt] }) := by
  have hinput : yyparse.rule 2 = some _ := rfl
  have hlist : yyparse.rule 3 = some _ := rfl
  have hstatement : yyparse.rule 6 = some _ := rfl
  exact eval_node hinput (evals_cons (eval_node hlist (evals_cons
    (eval_node hstatement (evals_cons h (evals_cons rfl rfl)) rfl) rfl) rfl)
    (evals_cons rfl rfl)) rfl

theorem eval_insert (t : Str) {row : List (Str × Str)} (hrow : row ≠ []) (st : ParseState) :
    (insertNode t row).eval yyparse st =
      some (⟨.insertStatement, insertValues t (row.map Prod.fst) (row.map Prod.snd)⟩, st) := by
  have hcolumns : yyparse.rule 99 = some _ := rfl
  have hinsert : yyparse.rule 97 = some _ := rfl
  have hlist : (Lr.Tree.node 99 [.leaf ⟨.lparen, ()⟩,
      commaTree 301 302 (row.map fun a => .leaf (ident a.1)), .leaf ⟨.rparen, ()⟩]).eval yyparse st
      = some (⟨.optColumnList, some (row.map Prod.fst)⟩, st) :=
    eval_node hcolumns (evals_cons rfl (evals_cons (eval_names Prod.fst hrow st)
      (evals_cons rfl rfl))) rfl
  rw [insertNode, insertValues, List.map_map]
  exact eval_node hinsert (evals_cons rfl (evals_cons rfl (evals_cons rfl
    (evals_cons hlist (evals_cons rfl (evals_cons rfl
      (evals_cons (eval_literals Prod.snd hrow st) (evals_cons rfl rfl)))))))) rfl

theorem eval_update (t c k a w : Str) (st : ParseState) : (updateNode t c k a w).eval yyparse st =
    some (⟨.updateStatement, updateWhere t [(a, w)] c .eq k⟩, st) :=
  rfl

theorem eval_delete (t c k : Str) (st : ParseState) : (deleteNode t c k).eval yyparse st =
    some (⟨.deleteStatement, deleteWhere t c .eq k⟩, st) :=
  rfl

theorem eval_find (t c k : Str) (st : ParseState) :
    (selectNode t (equalTree c k)).eval yyparse st =
      some (⟨.selectStatement, selectWhere t c .eq k⟩, st) :=
  rfl

theorem eval_like (t c p : Str) (st : ParseState) :
    (selectNode t (likeTree c p)).eval yyparse st =
      some (⟨.selectStatement, selectWhere t c .like p⟩, st) :=
  rfl

/-- `CreateStatement` takes the columns out of the list of elements. -/
theorem eval_create (n : ℕ → Int64) (t : Str) {cols : List ColumnDefinition} (hne : cols ≠ [])
    (hcols : ∀ c ∈ cols, c.type ∈ writtenTypes) (st : ParseState) :
    (createNode n t cols).eval yyparse st =
      some (⟨.createStatement, createStatement t cols⟩, st) := by
  have hcreate : yyparse.rule 46 = some _ := rfl
  have hdefs : columnDefs (cols.zipIdx.map fun c => some c.1) = cols := by
    change (cols.zipIdx.map fun c => some c.1).filterMap id = cols
    rw [List.filterMap_map]
    exact (congrFun List.filterMap_eq_map _).trans (List.zipIdx_map_fst 0 cols)
  have hne' : cols.zipIdx ≠ [] := by simpa using hne
  have helems := eval_elems n hne' (fun c hc => hcols c.1 (List.fst_mem_of_mem_zipIdx hc)) st
  have heval : (createNode n t cols).eval yyparse st = some (⟨.createStatement,
      createStatement t (columnDefs (cols.zipIdx.map fun c => some c.1))⟩, st) :=
    eval_node hcreate (evals_cons rfl (evals_cons rfl (evals_cons rfl
      (evals_cons rfl (evals_cons rfl (evals_cons helems (evals_cons rfl rfl))))))) rfl
  rw [heval, hdefs]

/-! ## Their texts -/

theorem yield_commaTree (n₁ n₂ : ℕ) (ts : List (Lr.Tree Token)) :
    (commaTree n₁ n₂ ts).yield = commas (ts.map Lr.Tree.yield) := by
  cases ts with
  | nil => rfl
  | cons t ts => rw [commaTree, Lr.Tree.yield_list, List.map_cons, commas, List.flatMap_map]

theorem yield_elemTree (n : ℕ → Int64) (c : ColumnDefinition × ℕ) :
    (elemTree n c).yield = ident c.1.name :: typeText (n c.2) c.1.type := by
  obtain ⟨⟨name, type⟩, i⟩ := c
  cases type <;> rfl

/-- The tree of a command is one of its text. -/
theorem yield_tree (n : ℕ → Int64) (c : Command) : (c.tree n).yield = c.text n := by
  cases c with
  | create t cols =>
    simp only [Command.tree, inputTree, createNode, Lr.Tree.yield, Lr.Tree.yields, yield_commaTree,
      List.map_map, Function.comp_def, yield_elemTree, Command.text, tableNameTree]
    simp
  | insert t row =>
    simp only [Command.tree, inputTree, insertNode, Lr.Tree.yield, Lr.Tree.yields, yield_commaTree,
      List.map_map, Function.comp_def, Command.text, tableNameTree, literalTree]
    simp
  | update | delete | find | like =>
    simp [Command.tree, inputTree, updateNode, deleteNode, selectNode, whereTree, equalTree,
      likeTree, columnTree, operandTree, literalTree, tableNameTree, Lr.Tree.yield, Lr.Tree.yields,
      Command.text, equalText]

/-- The lexer ends a text, no token of it does. -/
def unended (w : List Token) : Bool :=
  w.all fun x => decide (x.1 ≠ .YYEOF)

theorem unended_commas {us : List (List Token)} (h : ∀ u ∈ us, unended u = true) :
    unended (commas us) = true := by
  cases us with
  | nil => rfl
  | cons u us =>
    rw [unended, commas, List.all_append, List.all_flatMap, Bool.and_eq_true]
    refine ⟨h u List.mem_cons_self, List.all_eq_true.2 fun v hv => ?_⟩
    exact h v (List.mem_cons_of_mem u hv)

/-- A command is written without the token that ends a text. -/
theorem unended_text (n : ℕ → Int64) (c : Command) : unended (c.text n) = true := by
  cases c with
  | create t cols =>
    have h : unended (commas (cols.zipIdx.map fun c =>
        ident c.1.name :: typeText (n c.2) c.1.type)) = true := by
      refine unended_commas (List.forall_mem_map.2 ?_)
      rintro ⟨⟨name, type⟩, i⟩ -
      cases type <;> rfl
    rw [unended] at h
    rw [Command.text, unended, List.all_append, List.all_append, h]
    rfl
  | insert t row =>
    have hnames : unended (commas (row.map fun a => [ident a.1])) = true :=
      unended_commas (List.forall_mem_map.2 fun _ _ => rfl)
    have hvals : unended (commas (row.map fun a => [quoted a.2])) = true :=
      unended_commas (List.forall_mem_map.2 fun _ _ => rfl)
    rw [unended] at hnames hvals
    rw [Command.text, unended, List.all_append, List.all_append, List.all_append, List.all_append,
      hnames, hvals]
    rfl
  | update | delete | find | like => rfl

/-! ## Their heights -/

/-- A list is as high as its elements and two more, whatever its length is. -/
theorem height_commaTree_le (n₁ n₂ : ℕ) {k : ℕ} (ts : List (Lr.Tree Token)) (hk : 2 ≤ k)
    (h : ∀ t ∈ ts, t.height ≤ k) : (commaTree n₁ n₂ ts).height ≤ k + 2 := by
  cases ts with
  | nil =>
    change 1 ≤ k + 2
    omega
  | cons t ts => exact Lr.Tree.height_list_le hk h

theorem height_elemTree_le (n : ℕ → Int64) (c : ColumnDefinition × ℕ) :
    (elemTree n c).height ≤ 6 := by
  obtain ⟨⟨name, type⟩, i⟩ := c
  cases type <;> exact Nat.le_of_ble_eq_true rfl

/-- So no command comes near the limit of the stack. -/
theorem height_tree_le (n : ℕ → Int64) (c : Command) : (c.tree n).height ≤ 20 := by
  cases c with
  | create t cols =>
    have h := height_commaTree_le 52 53 (cols.zipIdx.map (elemTree n)) (by decide)
      (List.forall_mem_map.2 fun c _ => height_elemTree_le n c)
    simp only [Command.tree, inputTree, createNode, tableNameTree, Lr.Tree.height, Lr.Tree.heights]
    omega
  | insert t row =>
    have hnames := height_commaTree_le 301 302 (row.map fun a => .leaf (ident a.1)) (le_refl 2)
      (List.forall_mem_map.2 fun _ _ => Nat.le_of_ble_eq_true rfl)
    have hvals := height_commaTree_le 155 156 (row.map fun a => literalTree a.2) (le_refl 2)
      (List.forall_mem_map.2 fun _ _ => Nat.le_of_ble_eq_true rfl)
    simp only [Command.tree, inputTree, insertNode, tableNameTree, Lr.Tree.height, Lr.Tree.heights]
    omega
  | update | delete | find | like =>
    simp [Command.tree, inputTree, updateNode, deleteNode, selectNode, whereTree, equalTree,
      likeTree, columnTree, operandTree, literalTree, tableNameTree, Lr.Tree.height,
      Lr.Tree.heights]

/-! ## Parsing them -/

set_option maxRecDepth 2000 in
/-- The tables follow the tree of a command up to the end of the text. -/
theorem follow_tree (n : ℕ → Int64) {c : Command} (hc : c.Writable) :
    ((c.tree n).map Sigma.fst).follow yyparse 0 .YYEOF = some 19 := by
  cases c with
  | create t cols => exact follow_inputTree (follow_create n t hc.1 hc.2)
  | insert t row => exact follow_inputTree (follow_insert t hc)
  | update t c k a w =>
    change (((Command.update [] [] [] [] []).tree fun _ => 0).map Sigma.fst).follow yyparse 0
      .YYEOF = some 19
    decide
  | delete t c k =>
    change (((Command.delete [] [] []).tree fun _ => 0).map Sigma.fst).follow yyparse 0
      .YYEOF = some 19
    decide
  | find t c k =>
    change (((Command.find [] [] []).tree fun _ => 0).map Sigma.fst).follow yyparse 0
      .YYEOF = some 19
    decide
  | like t c p =>
    change (((Command.like [] [] []).tree fun _ => 0).map Sigma.fst).follow yyparse 0
      .YYEOF = some 19
    decide

/-- The actions put the statement of the command behind those that are there. -/
theorem eval_tree (n : ℕ → Int64) {c : Command} (hc : c.Writable) (st : ParseState) :
    (c.tree n).eval yyparse st =
      some (⟨.input, ()⟩, { st with statements := st.statements ++ [c.toStatement] }) := by
  cases c with
  | create t cols =>
    have hr : yyparse.rule 11 = some _ := rfl
    have heval := eval_create n t hc.1 hc.2 st
    exact eval_inputTree (eval_node hr (evals_cons heval rfl) rfl)
  | insert t row =>
    have hr : yyparse.rule 12 = some _ := rfl
    have heval := eval_insert t hc st
    exact eval_inputTree (eval_node hr (evals_cons heval rfl) rfl)
  | update t c k a w =>
    have hr : yyparse.rule 15 = some _ := rfl
    have heval := eval_update t c k a w st
    exact eval_inputTree (eval_node hr (evals_cons heval rfl) rfl)
  | delete t c k =>
    have hr : yyparse.rule 13 = some _ := rfl
    have heval := eval_delete t c k st
    exact eval_inputTree (eval_node hr (evals_cons heval rfl) rfl)
  | find t c k =>
    have hr : yyparse.rule 10 = some _ := rfl
    have heval := eval_find t c k st
    exact eval_inputTree (eval_node hr (evals_cons heval rfl) rfl)
  | like t c p =>
    have hr : yyparse.rule 10 = some _ := rfl
    have heval := eval_like t c (p ++ str "%") st
    exact eval_inputTree (eval_node hr (evals_cons heval rfl) rfl)

/-- The text of a command is accepted, and the result is the statement of the command. -/
theorem run_text (n : ℕ → Int64) {c : Command} (hc : c.Writable) :
    ∃ c', yyparse.run (24 * (c.text n).length + 33) ⟨[], c.text n, {}⟩ = some (.accepted, c') ∧
      c'.st.statements = [c.toStatement] := by
  have hw : ∀ x ∈ c.text n, x.1 ≠ .YYEOF := fun x hx =>
    of_decide_eq_true (List.all_eq_true.1 (unended_text n c) x hx)
  have hheight := height_tree_le n c
  obtain ⟨c', hsteps, hstop, hst⟩ := Lr.Tree.accepted (follow_tree n hc) (by decide)
    (by decide) (eval_tree n hc {}) (show max (c.tree n).height 3 < YYINITDEPTH by
      rw [YYINITDEPTH]
      omega)
  rw [yield_tree] at hsteps
  obtain ⟨stop, c₁, hrun⟩ := halts_yyparse hw {}
  obtain ⟨rfl, rfl⟩ := Lr.Parser.run_of_steps hsteps hstop hrun
  refine ⟨_, hrun, ?_⟩
  rw [hst]
  rfl

/-- `CREATE TABLE users (name VARCHAR(40), code CHAR(3))`. -/
theorem run_text_tom : ∃ c', yyparse.run (24 * 16 + 33) ⟨[], (Command.create (str "users")
      [⟨str "name", .varchar⟩, ⟨str "code", .char⟩]).text fun i => if i = 0 then 40 else 3, {}⟩ =
        some (.accepted, c') ∧
    c'.st.statements = [.create (createStatement (str "users")
      [⟨str "name", .varchar⟩, ⟨str "code", .char⟩])] :=
  run_text (fun i => if i = 0 then 40 else 3)
    (c := .create (str "users") [⟨str "name", .varchar⟩, ⟨str "code", .char⟩])
    ⟨List.cons_ne_nil _ _, by decide⟩

end UhpSql
