import UhpSql.Grammar
import UhpSql.ReadYourWrites
import UhpSql.Steps

/-!
# Locals without a value

`Exec` declares `op_type`, `limit` and `offset` without a value and hands them to the analyzers,
which set them on some paths only. `Independent` : what the function on the store answers and
does is the same for any two contents of these locals. `independent_iff` says for which
statements it is.
-/

namespace UhpSql

/-- The analyzer of a SELECT or DELETE returns true. -/
def SQLStatement.Accepted (d : DBMS) (u : Uninit) : SQLStatement → Prop
  | .select stmt => ∃ q, analyzeSelectStatement d u stmt = .ok (some q)
  | .delete stmt => ∃ q, analyzeDeleteStatement d u stmt = .ok (some q)
  | _ => False

/-- Two contents of the locals give the same rows, or the same store and count. -/
def Independent (env : Env) (s : Server) : SQLStatement → Prop
  | .select stmt => ∀ u u', selectRows env u s stmt = selectRows env u' s stmt
  | .delete stmt => ∀ u u', deleteRows env u s stmt = deleteRows env u' s stmt
  | _ => True

/-- Without WHERE the first reply to the scan of the table holds at most one entry, and with it
the clause is an operator. -/
def DeterminedSelect (env : Env) (s : Server) (stmt : SelectStatement) : Prop :=
  match stmt.whereClause with
  | none => ∀ t, stmt.From t → (env.redis.scan s.store 0
      (dataPrefix s.dbms.getCurDB.dbName t ++ str "*") scanCount).element.length ≤ 2
  | some expr => expr.type = .kExprOperator

/-- A WHERE clause is an operator, or no row is stored under the empty key. -/
def DeterminedDelete (s : Server) (stmt : DeleteStatement) : Prop :=
  ∀ expr ∈ stmt.expr, expr.type = .kExprOperator ∨
    ∀ t ∈ stmt.tableName, rowsOf s.dbms.getCurDB.dbName t s.store [] = none

/-- The statements whose outcome the locals have no part in. -/
def Determined (env : Env) (s : Server) : SQLStatement → Prop
  | .select stmt => DeterminedSelect env s stmt
  | .delete stmt => DeterminedDelete s stmt
  | _ => True

/-! ## The limit of a loop -/

/-- Every limit lets the loop read one entry. -/
theorem pastLimit_zero (limit : UInt64) : pastLimit limit 0 = false := by
  simp [pastLimit]

section
variable {d : DBMS} {t : Str} {table : DataTable} (hT : d.getCurDB.getTable t = some table)
include hT

/-- A reply of one entry is read to its end under every limit, and a longer one is not. -/
theorem scanLoop_pastLimit_iff (element : List Str) :
    (∀ limit limit', scanLoop d t (pastLimit limit) (fun _ => true) 0 element =
      scanLoop d t (pastLimit limit') (fun _ => true) 0 element) ↔ element.length ≤ 2 := by
  rcases element with _ | ⟨k, _ | ⟨v, _ | ⟨k', element⟩⟩⟩
  · exact iff_of_true (fun _ _ => rfl) (by simp)
  · exact iff_of_true (fun limit limit' => by simp [scanLoop, pastLimit_zero]) (by simp)
  · exact iff_of_true (fun limit limit' => by simp [scanLoop, pastLimit_zero]) (by simp)
  · refine iff_of_false (fun h => ?_) (by simp)
    -- twice the limit `2 ^ 63` is 0, which stops the loop after one entry
    have hstop : pastLimit 0x8000000000000000 2 = true := by decide
    have hone : scanLoop d t (pastLimit 0x8000000000000000) (fun _ => true) 0
        (k :: v :: k' :: element) = .ok [decodeRow table v] := by
      have hrest : scanLoop d t (pastLimit 0x8000000000000000) (fun _ => true) 2 (k' :: element) =
          .ok [] := by
        cases element <;> rw [scanLoop, if_pos hstop]
      rw [scanLoop, pastLimit_zero, if_neg Bool.false_ne_true, if_pos rfl, decodeRowResult_eq hT,
        ok_bind, hrest]
      rfl
    have hall : scanLoop d t (pastLimit 0) (fun _ => true) 0 (k :: v :: k' :: element) =
        .ok [decodeRow table v] := (h 0 0x8000000000000000).trans hone
    rw [scanLoop, pastLimit_zero, if_neg Bool.false_ne_true, if_pos rfl, decodeRowResult_eq hT,
      ok_bind] at hall
    obtain ⟨rows, hrows, heq⟩ := bind_eq_ok.1 hall
    obtain ⟨-, rfl⟩ := List.cons.inj (Except.ok.inj heq)
    have hgo : pastLimit 0 2 ≠ true := by decide
    rcases element with _ | ⟨v', element⟩
    · rw [scanLoop, if_neg hgo] at hrows
      cases hrows
    · rw [scanLoop, if_neg hgo, if_pos rfl] at hrows
      obtain ⟨row, -, hrows⟩ := bind_eq_ok.1 hrows
      obtain ⟨rows, -, hrows⟩ := bind_eq_ok.1 hrows
      cases hrows

end

/-! ## SELECT and DELETE -/

theorem analyzeWhere_of_eq {expr : Expr} (h : expr.type = .kExprOperator) (op : OperatorType) :
    analyzeWhere op expr = operands expr := by
  rw [analyzeWhere, h]

theorem analyzeWhere_of_ne {expr : Expr} (h : expr.type ≠ .kExprOperator) (op : OperatorType) :
    analyzeWhere op expr = .ok (op, [], []) := by
  unfold analyzeWhere
  split
  · contradiction
  · rfl

/-- Two answers are the same when they have the same rows. -/
theorem bind_some_inj {α β : Type} {x y : Except Fault α} {t : β} :
    ((x >>= fun rows => Except.ok (some (rows, t))) = y >>= fun rows => .ok (some (rows, t))) ↔
      x = y := by
  cases x <;> cases y <;> simp

/-- A SELECT reads one table. -/
theorem SelectStatement.From.forall_iff {stmt : SelectStatement} {t : Str} (h : stmt.From t)
    {P : Str → Prop} : (∀ t', stmt.From t' → P t') ↔ P t := by
  refine ⟨fun hall => hall t h, fun hP t' ⟨r', hr', ht'⟩ => ?_⟩
  obtain ⟨r, hr, ht⟩ := h
  obtain rfl := Option.some.inj (hr.symm.trans hr')
  obtain rfl := Option.some.inj (ht.symm.trans ht')
  exact hP

section
variable {env : Env} {s : Server} {stmt : SelectStatement} {r : TableRef} {t : Str}
  (hr : stmt.fromTable = some r) (ht : r.name = some t) (hhas : s.dbms.hasTable t = true)
include hr ht hhas

theorem selectRows_of_where_none (hw : stmt.whereClause = none) (u : Uninit) :
    selectRows env u s stmt =
      scanLoop s.dbms t (pastLimit u.limit) (fun _ => true) 0 (env.redis.scan s.store 0
        (dataPrefix s.dbms.getCurDB.dbName t ++ str "*") scanCount).element >>= fun rows =>
          .ok (some (rows, t)) := by
  simp [selectRows, analyzeSelectStatement, hr, ht, hhas, hw, selectRowsFromPMemKV]

theorem selectRows_of_where_some {expr : Expr} (hw : stmt.whereClause = some expr) (u : Uninit) :
    selectRows env u s stmt =
      analyzeWhere u.opType expr >>= fun w => limitOf stmt.limit >>= fun limit =>
        selectRowsFromPMemKV env s ⟨w.1, t, w.2.1, w.2.2, limit, u.offset, false⟩ >>= fun rows =>
          .ok (some (rows, t)) := by
  simp only [selectRows, analyzeSelectStatement, hr, ht, hhas, hw, deref_some, ok_bind]
  cases analyzeWhere u.opType expr with
  | error e => rfl
  | ok w =>
    cases limitOf stmt.limit with
    | error e => rfl
    | ok limit => rfl

end

theorem deleteRows_of_where_some {env : Env} {s : Server} {stmt : DeleteStatement} {t : Str}
    (ht : stmt.tableName = some t) (hhas : s.dbms.hasTable t = true) {expr : Expr}
    (hw : stmt.expr = some expr) (u : Uninit) :
    deleteRows env u s stmt =
      analyzeWhere u.opType expr >>= fun w =>
        deleteRowsInPMemKV env s ⟨t, w.1, w.2.1, w.2.2⟩ >>= fun r => .ok (some r) := by
  simp only [deleteRows, analyzeDeleteStatement, ht, hhas, hw, deref_some, ok_bind]
  cases analyzeWhere u.opType expr with
  | error e => rfl
  | ok w => rfl

section
variable {env : Env} {s : Server}

theorem independent_select_iff {u : Uninit} {stmt : SelectStatement}
    (h : SQLStatement.Accepted s.dbms u (.select stmt)) :
    Independent env s (.select stmt) ↔ DeterminedSelect env s stmt := by
  obtain ⟨q, h⟩ := h
  obtain ⟨r, hr, h⟩ := bind_eq_ok.1 h
  obtain ⟨t, ht, h⟩ := bind_eq_ok.1 h
  rw [deref_eq_ok] at hr ht
  split_ifs at h with hno
  · cases h
  have hhas : s.dbms.hasTable t = true := by simpa using hno
  unfold Independent DeterminedSelect
  cases hw : stmt.whereClause with
  | none =>
    obtain ⟨table, hT⟩ := Option.isSome_iff_exists.1 hhas
    have hfrom : stmt.From t := ⟨r, hr, ht⟩
    simp only [selectRows_of_where_none hr ht hhas hw, bind_some_inj]
    rw [hfrom.forall_iff, ← scanLoop_pastLimit_iff hT]
    exact ⟨fun h limit limit' => h ⟨.kOpNone, limit, 0⟩ ⟨.kOpNone, limit', 0⟩,
      fun h u u' => h u.limit u'.limit⟩
  | some expr =>
    simp only [selectRows_of_where_some hr ht hhas hw]
    by_cases hop : expr.type = .kExprOperator
    · simp only [analyzeWhere_of_eq hop]
      exact iff_of_true (fun _ _ => rfl) hop
    · rw [hw] at h
      obtain ⟨_, -, h⟩ := bind_eq_ok.1 h
      obtain ⟨limit, hlimit, -⟩ := bind_eq_ok.1 h
      refine iff_of_false (fun h => ?_) hop
      simp only [analyzeWhere_of_ne hop, hlimit, ok_bind] at h
      -- LIKE looks at the last character of the empty value
      have heq := h ⟨.kOpLike, 0, 0⟩ ⟨.kOpNone, 0, 0⟩
      simp [selectRowsFromPMemKV, likePrefix] at heq

theorem independent_delete_iff {u : Uninit} {stmt : DeleteStatement}
    (h : SQLStatement.Accepted s.dbms u (.delete stmt)) :
    Independent env s (.delete stmt) ↔ DeterminedDelete s stmt := by
  obtain ⟨q, h⟩ := h
  obtain ⟨t, ht, h⟩ := bind_eq_ok.1 h
  rw [deref_eq_ok] at ht
  split_ifs at h with hno
  · cases h
  have hhas : s.dbms.hasTable t = true := by simpa using hno
  unfold Independent DeterminedDelete
  cases hw : stmt.expr with
  | none =>
    refine iff_of_true (fun u u' => ?_) fun expr h => absurd h (Option.not_mem_none _)
    simp only [deleteRows, analyzeDeleteStatement, ht, deref_some, ok_bind, hhas, hw]
  | some expr =>
    rw [hw] at h
    simp only [deleteRows_of_where_some ht hhas hw, Option.mem_some_iff, forall_eq', ht]
    by_cases hop : expr.type = .kExprOperator
    · simp only [analyzeWhere_of_eq hop]
      exact iff_of_true (fun _ _ => trivial) (Or.inl hop)
    · have hdel : ∀ op, deleteRowsInPMemKV env s ⟨t, op, [], []⟩ = .ok
          (if op = .kOpEquals then s.delRow t [] else s, 1) := by
        intro op
        split_ifs with heq
        · rw [heq, deleteRowsInPMemKV_eq fun h1 => absurd h1.1 (by decide)]
          rfl
        · exact deleteRowsInPMemKV_of_ne heq
      simp only [analyzeWhere_of_ne hop, ok_bind, hdel, hop, false_or]
      rw [rowsOf, ← Store.del_eq_self_iff]
      refine ⟨fun h => ?_, fun h u u' => ?_⟩
      · have heq := h ⟨.kOpEquals, 0, 0⟩ ⟨.kOpNone, 0, 0⟩
        have hne : OperatorType.kOpNone ≠ .kOpEquals := by decide
        simp only [if_true, if_neg hne, Except.ok.injEq, Option.some.injEq, Prod.mk.injEq,
          and_true] at heq
        exact congrArg Server.store heq
      · have hs : s.delRow t [] = s := congrArg (Server.mk s.dbms) h
        simp only [hs, ite_self]

/-- The outcome of a SELECT or DELETE that is accepted does not depend on the locals exactly
under `Determined`. -/
theorem independent_iff {u : Uninit} {stmt : SQLStatement} (h : stmt.Accepted s.dbms u) :
    Independent env s stmt ↔ Determined env s stmt := by
  cases stmt with
  | select stmt => exact independent_select_iff h
  | delete stmt => exact independent_delete_iff h
  | create | insert | update | other => exact h.elim

end

/-- `SELECT * FROM classtab WHERE Name = 'Tom'`. -/
theorem independent_tom : Independent Env.whole tomServer
    (.select (selectWhere (str "classtab") (str "Name") .eq (str "Tom"))) :=
  have haccepted : SQLStatement.Accepted tomServer.dbms .zero
      (.select (selectWhere (str "classtab") (str "Name") .eq (str "Tom"))) :=
    ⟨_, rfl⟩
  (independent_iff haccepted).2 rfl

/-- `SELECT * FROM classtab WHERE Name`. -/
def selectName : SelectStatement :=
  selectTree (some (.name (str "classtab"))) (some (.column (str "Name"))) none

/-- With `>` left in the local the row is answered, and with no operator it is not. -/
theorem not_independent_name : Reachable Env.whole tomServer ∧
    SQLStatement.Accepted tomServer.dbms .zero (.select selectName) ∧
    ¬Independent Env.whole tomServer (.select selectName) := by
  refine ⟨reachable_tomServer, ⟨_, rfl⟩, fun h => ?_⟩
  have hnone : selectRows Env.whole ⟨.kOpNone, 0, 0⟩ tomServer selectName =
      .ok (some ([], str "classtab")) := rfl
  have hgreater : selectRows Env.whole ⟨.kOpGreater, 0, 0⟩ tomServer selectName =
      .ok (some ([[⟨str "Name", .varchar, str "Tom"⟩, ⟨str "Class", .varchar, str "B"⟩,
        ⟨str "Score", .int, str "93"⟩]], str "classtab")) := rfl
  have heq := h ⟨.kOpGreater, 0, 0⟩ ⟨.kOpNone, 0, 0⟩
  rw [hnone, hgreater] at heq
  cases heq

end UhpSql
