import UhpSql.DoubledDelimiter
import UhpSql.Steps

/-!
# The values of a statement

Which row an INSERT or UPDATE stores, in terms of its columns and values. An INSERT puts the value
of each pair at the index of its column, in a row of as many fields as there are pairs. An UPDATE
puts the value of its first SET clause into the row under the value of its WHERE clause.
`SQLStatement.values` : the key and these fields, which are stored joined with `$$`
(`execStatement_values`). `fieldCount` says how many fields are read back.
-/

namespace UhpSql

/-! ## INSERT -/

/-- The text of a literal, where the analyzer collects it : only strings and integers have one. -/
def Expr.literal? (expr : Expr) : Option Str :=
  match expr.type with
  | .kExprLiteralString => expr.name
  | .kExprLiteralInt => some (toStr expr.ival.toInt)
  | _ => none

/-- The columns of an INSERT with the texts of its literals. -/
def InsertStatement.pairs (stmt : InsertStatement) : List TableColumn :=
  ((stmt.columns.getD []).zip ((stmt.values.getD []).filterMap Expr.literal?)).map fun p =>
    ⟨p.1, .unknown, p.2⟩

/-- The value of the last pair whose column has this index, empty if there is none. -/
def valueAt (table : DataTable) (row : List TableColumn) (p : ℕ) : Str :=
  ((row.reverse.find? fun c => table.getColIndex c.colName = p).map TableColumn.val).getD []

/-- The fields of the stored row, as many as there are pairs. -/
def rowValues (table : DataTable) (row : List TableColumn) : List Str :=
  (List.range row.length).map (valueAt table row)

theorem collectValues_eq : ∀ {exprs : List Expr} {vals : List Str},
    collectValues exprs = .ok vals → vals = exprs.filterMap Expr.literal?
  | [], vals, h => (Except.ok.inj h).symm
  | expr :: exprs, vals, h => by
    rw [collectValues] at h
    split at h
    · next htype =>
      obtain ⟨name, hname, h⟩ := bind_eq_ok.1 h
      obtain ⟨vals', hvals, h⟩ := bind_eq_ok.1 h
      rw [List.filterMap_cons, Expr.literal?, htype]
      simp only [deref_eq_ok.1 hname, ← collectValues_eq hvals]
      exact (Except.ok.inj h).symm
    · next htype =>
      obtain ⟨vals', hvals, h⟩ := bind_eq_ok.1 h
      rw [List.filterMap_cons, Expr.literal?, htype]
      simp only [← collectValues_eq hvals]
      exact (Except.ok.inj h).symm
    · next hstring hint =>
      have hnone : expr.literal? = none := by
        rw [Expr.literal?]
        cases htype : expr.type <;> first | exact absurd htype ‹_› | rfl
      rw [List.filterMap_cons, hnone]
      exact collectValues_eq h

theorem pairColumns_eq_map : ∀ {names vals : List Str} {row : List TableColumn},
    pairColumns names vals = .ok row → row = (names.zip vals).map fun p => ⟨p.1, .unknown, p.2⟩
  | [], _, _, h => by
    rw [List.zip_nil_left]
    exact (Except.ok.inj h).symm
  | name :: names, val :: vals, row, h => by
    obtain ⟨row', hrow, h⟩ := bind_eq_ok.1 h
    rw [List.zip_cons_cons, List.map_cons, ← pairColumns_eq_map hrow]
    exact (Except.ok.inj h).symm

theorem pairs_of_analyzeInsert {d : DBMS} {stmt : InsertStatement} {t : Str}
    {row : List TableColumn} (h : analyzeInsertStatement d stmt = .ok (some (t, row))) :
    row = stmt.pairs := by
  obtain ⟨tab, -, h⟩ := bind_eq_ok.1 h
  split_ifs at h
  · exact absurd h nofun
  obtain ⟨names, hnames, h⟩ := bind_eq_ok.1 h
  obtain ⟨exprs, hexprs, h⟩ := bind_eq_ok.1 h
  obtain ⟨vals, hvals, h⟩ := bind_eq_ok.1 h
  obtain ⟨row', hrow, h⟩ := bind_eq_ok.1 h
  obtain ⟨-, rfl⟩ := Prod.mk.inj (Option.some.inj (Except.ok.inj h))
  rw [InsertStatement.pairs, deref_eq_ok.1 hnames, deref_eq_ok.1 hexprs, Option.getD_some,
    Option.getD_some, ← collectValues_eq hvals]
  exact pairColumns_eq_map hrow

/-- Each position has the value of the last pair for it. -/
theorem getElem?_of_fillVals_eq_ok {table : DataTable} : ∀ {row : List TableColumn}
    {vals r : List Str}, fillVals table row vals = .ok r → r.length = vals.length ∧
      ∀ p < vals.length, r[p]? =
        ((row.reverse.find? fun c => table.getColIndex c.colName = p).map
          TableColumn.val).or vals[p]?
  | [], vals, r, h => by
    obtain rfl := Except.ok.inj h
    exact ⟨rfl, fun p _ => (Option.none_or).symm⟩
  | c :: row, vals, r, h => by
    obtain ⟨vals', hset, h⟩ := bind_eq_ok.1 h
    rw [setAt] at hset
    split_ifs at hset with hi
    obtain rfl := Except.ok.inj hset
    obtain ⟨hlen, hget⟩ := getElem?_of_fillVals_eq_ok h
    rw [List.length_set] at hlen hget
    refine ⟨hlen, fun p hp => ?_⟩
    rw [hget p hp, List.reverse_cons, List.find?_append, Option.map_or, Option.or_assoc]
    congr 1
    by_cases hpi : table.getColIndex c.colName = p
    · rw [hpi, Int.toNat_natCast, List.getElem?_set_self hp, List.find?_singleton,
        if_pos (decide_eq_true hpi)]
      rfl
    · rw [List.getElem?_set_ne (by omega), List.find?_singleton]
      simp [hpi]

theorem eq_rowValues_of_fillVals {table : DataTable} {row : List TableColumn} {vals : List Str}
    (h : fillVals table row (List.replicate row.length []) = .ok vals) :
    vals = rowValues table row := by
  obtain ⟨hlen, hget⟩ := getElem?_of_fillVals_eq_ok h
  rw [List.length_replicate] at hlen hget
  refine List.ext_getElem? fun p => ?_
  rcases Nat.lt_or_ge p row.length with hp | hp
  · rw [hget p hp, rowValues, List.getElem?_map, List.getElem?_range hp,
      List.getElem?_replicate, if_pos hp, Option.map_some, valueAt]
    cases row.reverse.find? fun c => table.getColIndex c.colName = p <;> rfl
  · rw [List.getElem?_eq_none (by omega), List.getElem?_eq_none (by simpa [rowValues] using hp)]

/-! ## UPDATE -/

/-- The WHERE value that `AnalyzeUpdateStatement` takes for a key. -/
def Expr.key? (expr : Expr) : Option Str :=
  match expr.type with
  | .kExprOperator => expr.expr2.bind Expr.name
  | _ => some []

/-- The column and the value of the first SET clause, and the WHERE value. -/
structure Change where
  column : Str
  value : Str
  key : Str

def UpdateStatement.change (stmt : UpdateStatement) : Option Change := do
  let clause ← (stmt.updates.getD []).head?
  let value ← clause.value.name
  let key ← (← stmt.whereExpr).key?
  return ⟨clause.column, value, key⟩

theorem key?_of_analyzeWhere {op : OperatorType} {expr : Expr} {r : OperatorType × Str × Str}
    (h : analyzeWhere op expr = .ok r) : expr.key? = some r.2.2 := by
  unfold analyzeWhere at h
  split at h
  · next htype =>
    rw [operands] at h
    obtain ⟨e₁, -, h⟩ := bind_eq_ok.1 h
    obtain ⟨name₁, -, h⟩ := bind_eq_ok.1 h
    obtain ⟨e₂, he₂, h⟩ := bind_eq_ok.1 h
    obtain ⟨name₂, hname₂, h⟩ := bind_eq_ok.1 h
    rw [Expr.key?, htype, ← Except.ok.inj h]
    simp only [deref_eq_ok.1 he₂, Option.bind_some]
    exact deref_eq_ok.1 hname₂
  · next htype =>
    rw [Expr.key?, ← Except.ok.inj h]
    cases hty : expr.type <;> first | exact absurd hty ‹_› | rfl

theorem change_of_analyzeUpdate {d : DBMS} {u : Uninit} {stmt : UpdateStatement} {q : UpdateQuery}
    (h : analyzeUpdateStatement d u stmt = .ok (some q)) :
    stmt.change = some ⟨q.column, q.value, q.queryValue⟩ := by
  obtain ⟨r, -, h⟩ := bind_eq_ok.1 h
  obtain ⟨tab, -, h⟩ := bind_eq_ok.1 h
  split_ifs at h
  · exact absurd h nofun
  obtain ⟨clauses, hclauses, h⟩ := bind_eq_ok.1 h
  cases clauses with
  | nil => exact absurd h nofun
  | cons clause clauses =>
    obtain ⟨value, hvalue, h⟩ := bind_eq_ok.1 h
    obtain ⟨expr, hexpr, h⟩ := bind_eq_ok.1 h
    obtain ⟨ops, hops, h⟩ := bind_eq_ok.1 h
    obtain rfl := Option.some.inj (Except.ok.inj h)
    rw [UpdateStatement.change, deref_eq_ok.1 hclauses, deref_eq_ok.1 hexpr]
    simp only [Option.getD_some, List.head?_cons, Option.bind_eq_bind, Option.bind_some,
      deref_eq_ok.1 hvalue, key?_of_analyzeWhere hops]
    rfl

/-! ## What is stored -/

/-- The statement is an INSERT or UPDATE on the table. -/
def SQLStatement.Writes (t : Str) : SQLStatement → Prop
  | .insert stmt => stmt.tableName = some t
  | .update stmt => ∃ r ∈ stmt.table, r.name = some t
  | _ => False

/-- The key and the fields of the row that an INSERT or UPDATE on a table with these rows stores. -/
def SQLStatement.values (table : DataTable) (rows : Str → Option Str) :
    SQLStatement → Option (Str × List Str)
  | .insert stmt => stmt.pairs.head?.map fun first => (first.val, rowValues table stmt.pairs)
  | .update stmt => stmt.change.bind fun change => (rows change.key).map fun old =>
    (change.key, (fields old).set (table.getColIndex change.column).toNat change.value)
  | _ => none

/-- How many fields are read of a row that is stored with these values : one for each, one more for
each `$$` in them when they are written one after the other, and one less where nothing but blanks
follows the last `$$`. -/
def readCount (values : List Str) : ℕ :=
  Delimited.fieldCount isBlank dollar values

theorem length_fields_stringsJoin (values : List Str) :
    (fields (stringsJoin values (str "$$"))).length = readCount values :=
  Delimited.length_split_join (by decide) values

theorem dollar_notMem_valueAt {table : DataTable} {row : List TableColumn}
    (h : ∀ c ∈ row, dollar ∉ c.val) (p : ℕ) : dollar ∉ valueAt table row p := by
  rw [valueAt]
  cases hfind : row.reverse.find? fun c => table.getColIndex c.colName = p with
  | none => exact List.not_mem_nil
  | some c => exact h c (List.mem_reverse.1 (List.mem_of_find?_eq_some hfind))

/-- Of values without `$`, all are read but a blank last one. -/
theorem readCount_rowValues {table : DataTable} {row : List TableColumn}
    (h : ∀ c ∈ row, dollar ∉ c.val) : readCount (rowValues table row) =
      row.length - if trim (valueAt table row (row.length - 1)) = [] then 1 else 0 := by
  have hmem : ∀ s ∈ rowValues table row, dollar ∉ s :=
    List.forall_mem_map.2 fun p _ => dollar_notMem_valueAt h p
  rw [readCount, Delimited.fieldCount_of_notMem hmem]
  have hlen : (rowValues table row).length = row.length := by simp [rowValues]
  rcases hrow : row.length with - | n
  · rw [hlen, hrow, Nat.zero_sub, Nat.zero_sub]
  · have hlast : (rowValues table row).getLastD [] = valueAt table row n := by
      rw [rowValues, hrow, List.range_succ, List.map_append, List.map_singleton,
        List.getLastD_concat]
    rw [hlen, hrow, hlast, Nat.add_sub_cancel]
    rfl

theorem toNat_of_setAt {α : Type} {v v' : List α} {index : ℤ} {a : α}
    (h : setAt v index a = .ok v') : v' = v.set index.toNat a := by
  rw [setAt] at h
  split_ifs at h
  exact (Except.ok.inj h).symm

theorem analyzeInsertStatement_ne_none {d : DBMS} {stmt : InsertStatement} {t : Str}
    (hstmt : stmt.tableName = some t) (ht : d.hasTable t = true) :
    analyzeInsertStatement d stmt ≠ .ok none := by
  intro h
  obtain ⟨tab, htab, h⟩ := bind_eq_ok.1 h
  obtain rfl := Option.some.inj (hstmt.symm.trans (deref_eq_ok.1 htab))
  rw [ht] at h
  obtain ⟨names, -, h⟩ := bind_eq_ok.1 h
  obtain ⟨exprs, -, h⟩ := bind_eq_ok.1 h
  obtain ⟨vals, -, h⟩ := bind_eq_ok.1 h
  obtain ⟨row, -, h⟩ := bind_eq_ok.1 h
  cases h

/-- An UPDATE of a table that is there is turned down when it changes nothing. -/
theorem change_of_analyzeUpdate_none {d : DBMS} {u : Uninit} {stmt : UpdateStatement} {t : Str}
    (hstmt : ∃ r ∈ stmt.table, r.name = some t) (ht : d.hasTable t = true)
    (h : analyzeUpdateStatement d u stmt = .ok none) : stmt.change = none := by
  obtain ⟨r, hr, h⟩ := bind_eq_ok.1 h
  obtain ⟨tab, htab, h⟩ := bind_eq_ok.1 h
  obtain ⟨r', hr', hname⟩ := hstmt
  obtain rfl := Option.some.inj ((deref_eq_ok.1 hr).symm.trans hr')
  obtain rfl := Option.some.inj ((deref_eq_ok.1 htab).symm.trans hname)
  rw [ht] at h
  obtain ⟨clauses, hclauses, h⟩ := bind_eq_ok.1 h
  cases clauses with
  | nil =>
    rw [UpdateStatement.change, deref_eq_ok.1 hclauses]
    rfl
  | cons clause clauses =>
    obtain ⟨value, -, h⟩ := bind_eq_ok.1 h
    obtain ⟨expr, -, h⟩ := bind_eq_ok.1 h
    obtain ⟨ops, -, h⟩ := bind_eq_ok.1 h
    cases h

/-- An accepted INSERT or UPDATE stores its values and nothing else. -/
theorem execStatement_values {env : Env} {u : Uninit} {seq : UInt8} {s s' : Server}
    {reply : List (List UInt8)} {t : Str} {table : DataTable} {stmt : SQLStatement}
    (hT : s.dbms.getCurDB.getTable t = some table) (hstmt : stmt.Writes t)
    (h : execStatement env u seq s stmt = .ok (s', reply)) :
    s' = (stmt.values table (rowsOf s.dbms.getCurDB.dbName t s.store)).elim s fun row =>
      s.setRow t row.1 (stringsJoin row.2 (str "$$")) := by
  have ht := hasTable_of_getTable hT
  cases stmt with
  | insert stmt =>
    rw [SQLStatement.values]
    rcases replyAffected_cases h with ⟨hnone, -⟩ | ⟨n, hn⟩
    · obtain ⟨r, hr, hnone⟩ := bind_eq_ok.1 hnone
      rcases r with _ | ⟨tab, row⟩
      · exact absurd hr (analyzeInsertStatement_ne_none hstmt ht)
      · obtain ⟨r', -, hnone⟩ := bind_eq_ok.1 hnone
        cases hnone
    · obtain ⟨t', row, ht', hrow, hs⟩ := insertRow_spec hn
      obtain rfl := Option.some.inj (hstmt.symm.trans ht')
      rw [← pairs_of_analyzeInsert hrow]
      rcases hs with ⟨rfl, rfl⟩ | ⟨first, table', vals, hfirst, hT', hvals, rfl⟩
      · rfl
      · obtain rfl := Option.some.inj (hT.symm.trans hT')
        rw [hfirst, eq_rowValues_of_fillVals hvals]
        rfl
  | update stmt =>
    rw [SQLStatement.values]
    rcases replyAffected_cases h with ⟨hnone, rfl⟩ | ⟨n, hn⟩
    · obtain ⟨r, hr, hnone⟩ := bind_eq_ok.1 hnone
      rcases r with _ | q
      · rw [change_of_analyzeUpdate_none hstmt ht hr]
        rfl
      · obtain ⟨r', -, hnone⟩ := bind_eq_ok.1 hnone
        cases hnone
    · obtain ⟨q, ⟨r, hr, hname⟩, hq, hs⟩ := updateRow_spec hn
      obtain ⟨r', hr', hname'⟩ := hstmt
      obtain rfl := Option.some.inj (hr.symm.trans hr')
      obtain rfl := Option.some.inj (hname.symm.trans hname')
      rw [change_of_analyzeUpdate hq, Option.bind_some]
      rcases hs with ⟨hnone, rfl⟩ | ⟨old, table', cols, hget, hT', hcols, rfl⟩
      · rw [hnone]
        rfl
      · obtain rfl := Option.some.inj (hT.symm.trans hT')
        rw [hget, toNat_of_setAt hcols]
        rfl
  | create | select | delete | other => exact hstmt.elim

end UhpSql
