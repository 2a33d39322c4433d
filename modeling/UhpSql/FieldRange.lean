import UhpSql.ResultShape
import UhpSql.Transition

/-!
# The index of an updated field

UPDATE takes the index of a column from the schema and assigns to this position of the vector the
stored row splits into. `InRange` : for a column of the table the vector is long enough, and a
name that is no column is turned down before. INSERT stores a field for each column it names, and
splitting drops an empty field at the end, so a row may be shorter than the schema.
`inRange_run_iff` says for which runs of INSERT and UPDATE, on any tables, the index is in range
in every state : every statement must store enough values, counted as they are read back.
-/

namespace UhpSql

/-! ## Runs of INSERT and UPDATE on any tables -/

/-- An INSERT or UPDATE, with what its execution depends on besides the state. -/
structure Write where
  u : Uninit
  seq : UInt8
  stmt : SQLStatement
  target : Str
  writes : stmt.Writes target

namespace Write

/-- The state after the statement, unless it ends in a fault. -/
def step (env : Env) (s : Server) (a : Write) : Option Server :=
  match execStatement env a.u a.seq s a.stmt with
  | .ok (s', _) => some s'
  | .error _ => none

/-- The key that the statement sets, with the values it stores there. -/
def stored (s : Server) (a : Write) : Option (Str × List Str) :=
  (s.dbms.getCurDB.getTable a.target).bind fun table =>
    (a.stmt.values table (rowsOf s.dbms.getCurDB.dbName a.target s.store)).map fun row =>
      (rowKey s.dbms.getCurDB.dbName a.target row.1, row.2)

theorem step_eq_some {env : Env} {s s' : Server} {a : Write} (h : a.step env s = some s') :
    ∃ reply, execStatement env a.u a.seq s a.stmt = .ok (s', reply) := by
  unfold step at h
  split at h
  · next s₁ reply hexec => exact ⟨reply, Option.some.inj h ▸ hexec⟩
  · cases h

end Write

/-- A statement on a table that is not there is turned down. -/
theorem execStatement_of_not_hasTable {env : Env} {u : Uninit} {seq : UInt8} {s s' : Server}
    {reply : List (List UInt8)} {t : Str} {stmt : SQLStatement} (hstmt : stmt.Writes t)
    (hno : s.dbms.hasTable t = false) (h : execStatement env u seq s stmt = .ok (s', reply)) :
    s' = s := by
  cases stmt with
  | insert stmt =>
    have hnone : insertRow s stmt = .ok none := by
      have hname : stmt.tableName = some t := hstmt
      simp [insertRow, analyzeInsertStatement, hname, hno]
    rw [execStatement, hnone] at h
    exact (Prod.mk.inj (Except.ok.inj h)).1.symm
  | update stmt =>
    have hnone : updateRow u s stmt = .ok none := by
      obtain ⟨r, hr, hname⟩ := hstmt
      simp [updateRow, analyzeUpdateStatement, Option.mem_def.1 hr, hname, hno]
    rw [execStatement, hnone] at h
    exact (Prod.mk.inj (Except.ok.inj h)).1.symm
  | create | select | delete | other => exact hstmt.elim

/-- A statement that completes stores its values and nothing else. -/
theorem Write.step_stored {env : Env} {s s' : Server} {a : Write} (h : a.step env s = some s') :
    s' = (a.stored s).elim s fun row =>
      ⟨s.dbms, s.store.set row.1 (stringsJoin row.2 (str "$$"))⟩ := by
  obtain ⟨reply, hexec⟩ := step_eq_some h
  unfold stored
  cases hT : s.dbms.getCurDB.getTable a.target with
  | none =>
    have hno : s.dbms.hasTable a.target = false := by rw [DBMS.hasTable, hT, Option.isSome_none]
    exact execStatement_of_not_hasTable a.writes hno hexec
  | some table =>
    rw [execStatement_values hT a.writes hexec, Option.bind_some]
    cases a.stmt.values table (rowsOf s.dbms.getCurDB.dbName a.target s.store) with
    | none => rfl
    | some row => rfl

/-! ## Columns and their fields -/

/-- For a column of the table, its index is smaller than the number of fields of every stored row.
For any other name, no UPDATE of the table with this name is accepted while there is a row. -/
def InRange (t : Str) (table : DataTable) (x : Str) (s : Server) : Prop :=
  ∀ pk val, rowsOf s.dbms.getCurDB.dbName t s.store pk = some val →
    if x ∈ table.colNames then table.getColIndex x < (fields val).length
    else ∀ u stmt q, analyzeUpdateStatement s.dbms u stmt = .ok (some q) →
      q.tabName = t → q.column ≠ x

/-- The column is one of the table and its field is there. -/
def HasField (table : DataTable) (x val : Str) : Prop :=
  x ∈ table.colNames ∧ table.getColIndex x < (fields val).length

/-- The assignment is in range exactly when the field is there. -/
theorem exists_setAt_iff {table : DataTable} {x val : Str} (w : Str) :
    (∃ cols, setAt (fields val) (table.getColIndex x) w = .ok cols) ↔ HasField table x val := by
  unfold setAt HasField
  rcases table.getColIndex_cases x with ⟨hmem, hneg⟩ | ⟨i, hi, hlast⟩
  · refine iff_of_false (fun ⟨cols, h⟩ => ?_) fun h => hmem h.1
    rw [if_neg (by rw [hneg]; omega)] at h
    cases h
  · have hmem : x ∈ table.colNames := List.mem_of_getElem? hlast.1
    rw [hi, and_iff_right hmem]
    split_ifs with hlt
    · exact iff_of_true ⟨_, rfl⟩ hlt.2
    · refine iff_of_false (fun ⟨cols, h⟩ => by cases h) fun h => hlt ⟨Int.natCast_nonneg i, h⟩

/-- The analyzer never looks at the column. -/
theorem analyzeUpdateStatement_updateWhere {d : DBMS} {t : Str} (h : d.hasTable t = true)
    (u : Uninit) (x : Str) :
    analyzeUpdateStatement d u (updateWhere t [(x, [])] x .eq []) =
      .ok (some ⟨t, x, [], .kOpEquals, x, []⟩) := by
  simp [analyzeUpdateStatement, updateWhere, h, Expr.makeLiteral]
  rfl

section
variable {t : Str} {table : DataTable} {x : Str} {s : Server}
  (hT : s.dbms.getCurDB.getTable t = some table)
include hT

/-- No name is turned down, so it must be a column as soon as there is a row. -/
theorem inRange_iff : InRange t table x s ↔
    ∀ pk val, rowsOf s.dbms.getCurDB.dbName t s.store pk = some val → HasField table x val := by
  unfold InRange HasField
  refine forall₃_congr fun pk val _ => ?_
  split_ifs with hmem
  · exact (and_iff_right hmem).symm
  · refine iff_of_false (fun h => ?_) fun h => hmem h.1
    have haccept := analyzeUpdateStatement_updateWhere (hasTable_of_getTable hT) .zero x
    exact h .zero _ _ haccept rfl rfl

/-- SET of a key keeps the index in range when a row of the table stored under it has the
field. -/
theorem inRange_set_iff (h : InRange t table x s) (e : Entry) :
    InRange t table x ⟨s.dbms, s.store.set e.1 e.2⟩ ↔
      ∀ pk, e.1 = rowKey s.dbms.getCurDB.dbName t pk → HasField table x e.2 := by
  rw [inRange_iff hT] at h
  rw [@inRange_iff t table x ⟨s.dbms, s.store.set e.1 e.2⟩ hT]
  refine ⟨fun h' pk hpk => h' pk e.2 ?_, fun h' pk val hval => ?_⟩
  · rw [rowsOf, ← hpk, Store.get_set_self]
  · rw [rowsOf, Store.get_set] at hval
    split_ifs at hval with hkey
    · exact Option.some.inj hval ▸ h' pk hkey.symm
    · exact h pk val hval

end

/-! ## Runs -/

/-- The column is one of the table, and of the values that the statement stores under a key of the
table more fields are read than its index : `readCount` reckons with the columns an INSERT names,
with the `$$` in the values and with an empty end. -/
def StoresField (t : Str) (table : DataTable) (x : Str) (s : Server) (a : Write) : Prop :=
  ∀ row ∈ a.stored s, ∀ pk, row.1 = rowKey s.dbms.getCurDB.dbName t pk →
    x ∈ table.colNames ∧ table.getColIndex x < readCount row.2

/-- From a table without rows, the index of a column is in range in every state of a run exactly
when every statement stores enough values under the keys of the table. -/
theorem inRange_run_iff {env : Env} {s s' : Server} {t : Str} {table : DataTable}
    (hT : s.dbms.getCurDB.getTable t = some table)
    (hnone : ∀ pk, rowsOf s.dbms.getCurDB.dbName t s.store pk = none) (x : Str) {run : List Write}
    (hrun : Transition.run (Write.step env) s run = some s') :
    Transition.Throughout (Write.step env) (InRange t table x) s run ↔
      Transition.Allowed (Write.step env) (StoresField t table x) s run := by
  have hstart : InRange t table x s := fun pk val hval => by
    rw [hnone pk] at hval
    cases hval
  refine @Transition.throughout_iff_allowed _ _ (Write.step env) (StoresField t table x)
    (fun s => s.dbms.getCurDB.getTable t = some table) (InRange t table x) ?_ _ _ _ hT hstart hrun
  intro s s' a hT hsafe hstep
  rw [Write.step_stored hstep]
  unfold StoresField
  cases a.stored s with
  | none => exact ⟨hT, iff_of_true hsafe fun row hrow => absurd hrow (Option.not_mem_none row)⟩
  | some row =>
    refine ⟨hT, (inRange_set_iff hT hsafe (row.1, stringsJoin row.2 (str "$$"))).trans ?_⟩
    simp only [Option.mem_some_iff, forall_eq', HasField, length_fields_stringsJoin]

/-- An INSERT with a value for each column. -/
def tomWrite : Write :=
  ⟨.zero, 1, .insert tomInsert, str "classtab", rfl⟩

theorem run_tomWrite :
    Transition.run (Write.step Env.whole) classServer [tomWrite] = some tomServer := by
  refine Transition.run_cons_eq_some.2 ⟨tomServer, ?_, rfl⟩
  unfold Write.step tomWrite
  simp only [execStatement_tomInsert]

theorem rowsOf_classServer (pk : Str) : rowsOf classServer.dbms.getCurDB.dbName (str "classtab")
    classServer.store pk = none := by
  rw [classServer, rowsOf_withTable, rowsOf_fresh]

theorem inRange_tom : Transition.Throughout (Write.step Env.whole)
    (InRange (str "classtab") ⟨str "classtab", ofDefinitions classtab⟩ (str "Score"))
    classServer [tomWrite] := by
  refine (inRange_run_iff getTable_classServer rowsOf_classServer _ run_tomWrite).2
    ⟨fun row hrow pk _ => ?_, fun _ _ => trivial⟩
  have hstored : tomWrite.stored classServer =
      some (rowKey defaultDatabaseName (str "classtab") (str "Tom"),
        [str "Tom", str "B", str "93"]) := rfl
  obtain rfl := Option.some.inj (hstored.symm.trans hrow)
  exact ⟨by decide, by decide⟩

/-- `INSERT INTO classtab (Name, Class) VALUES ('Tom', 'B')`, as in the test script. -/
def scriptInsert : Write :=
  ⟨.zero, 1, .insert (insertValues (str "classtab") [str "Name", str "Class"] [str "Tom", str "B"]),
    str "classtab", rfl⟩

/-- After it, `UPDATE classtab SET Score = '78' WHERE Name = 'Tom'` assigns past the end. -/
theorem not_inRange_script : ∃ s', Reachable Env.whole s' ∧
    Transition.run (Write.step Env.whole) classServer [scriptInsert] = some s' ∧
    updateRow .zero s' (updateWhere (str "classtab") [(str "Score", str "78")] (str "Name") .eq
      (str "Tom")) = .error .outOfBounds ∧
    ¬InRange (str "classtab") ⟨str "classtab", ofDefinitions classtab⟩ (str "Score") s' := by
  have hexec : execStatement Env.whole .zero 1 classServer scriptInsert.stmt =
      .ok (classServer.setRow (str "classtab") (str "Tom") (str "Tom$$B"),
        sendOkMessageToClient 1 1 0 2 0) := rfl
  refine ⟨_, .exec .zero 1 _ reachable_classServer hexec, rfl, rfl, fun h => ?_⟩
  have hrow : rowsOf defaultDatabaseName (str "classtab")
      (classServer.setRow (str "classtab") (str "Tom") (str "Tom$$B")).store (str "Tom") =
        some (str "Tom$$B") := rfl
  have hindex := h (str "Tom") (str "Tom$$B") hrow
  rw [if_pos (by decide)] at hindex
  exact absurd hindex (by decide)

end UhpSql
