import UhpSql.ReadYourWrites

/-!
# DELETE

`DeletesExactly` is what DELETE means : the rows that satisfy the WHERE clause are removed,
everything else is kept, and their number is reported. The code removes the row stored under
the WHERE value when the operator is `=`, reports one row whatever it did, and takes
`1 = '1'` for a DELETE of all rows. `deletesExactly_iff` says when this is the same, and
`emptiesTable_iff` when a DELETE without WHERE empties the table.
-/

namespace UhpSql

/-- DELETE is turned down, or removes exactly the rows that satisfy the clause. -/
def DeletesExactly (env : Env) (u : Uninit) (s : Server) (t : Str) (table : DataTable) (c : Str)
    (cmp : Comparison) (v : Str) : Prop :=
  ∃ r, deleteRows env u s (deleteWhere t c cmp v) = .ok r ∧ ∀ s' n, r = some (s', n) →
    Rows.Deleted (rowsOf s.dbms.getCurDB.dbName t s.store)
      (rowsOf s.dbms.getCurDB.dbName t s'.store) (Satisfies table c cmp v) n.toNat ∧
    ∀ k, ¬dataPrefix s.dbms.getCurDB.dbName t <+: k → s'.store.get k = s.store.get k

/-! ## When it is exact -/

theorem Comparison.opType_eq_kOpEquals_iff {cmp : Comparison} :
    cmp.opType = .kOpEquals ↔ cmp = .eq := by
  cases cmp <;> decide

variable {s : Server} {t : Str} {table : DataTable}

/-- DELETE does what it says exactly when the operator is `=`, the row stored under the value
is the one row that satisfies the clause, and, where the clause reads `1 = '1'`, the store
finds no entry for the pattern made of the object handed to SCAN. -/
theorem deletesExactly_iff {env : Env} (halt : env.redis.Alternates) (u : Uninit)
    (hT : s.dbms.getCurDB.getTable t = some table) (c : Str) (cmp : Comparison) (v : Str) :
    DeletesExactly env u s t table c cmp v ↔
      cmp = .eq ∧
        Rows.selected (rowsOf s.dbms.getCurDB.dbName t s.store) (Satisfies table c cmp v) = {v} ∧
        (c = str "1" ∧ v = str "1" →
          (env.redis.scan s.store 0 env.objectPattern Redis.defaultCount).element = []) := by
  rw [DeletesExactly, deleteRows_deleteWhere hT]
  by_cases hcmp : cmp = .eq
  · subst hcmp
    by_cases h1 : c = str "1" ∧ v = str "1" →
        (env.redis.scan s.store 0 env.objectPattern Redis.defaultCount).element = []
    · have hone := @Rows.deleted_update_none_iff _ _ _ (rowsOf s.dbms.getCurDB.dbName t s.store)
        (Satisfies table c .eq v) v
      rw [← rowsOf_del] at hone
      rw [Comparison.opType, deleteRowsInPMemKV_eq h1, ok_bind]
      constructor
      · rintro ⟨r, hr, hspec⟩
        obtain rfl := Except.ok.inj hr
        exact ⟨rfl, hone.1 (hspec _ 1 rfl).1, h1⟩
      · rintro ⟨-, hsel, -⟩
        refine ⟨_, rfl, fun s' n hr => ?_⟩
        obtain ⟨rfl, rfl⟩ := Prod.mk.inj (Option.some.inj hr)
        refine ⟨hone.2 hsel, fun k hk => Store.get_del_of_ne _ ?_⟩
        rintro rfl
        exact hk (List.prefix_append _ _)
    · have hfault : c = str "1" ∧ v = str "1" ∧
          (env.redis.scan s.store 0 env.objectPattern Redis.defaultCount).element ≠ [] := by
        simpa [and_assoc] using h1
      rw [Comparison.opType, deleteRowsInPMemKV_fault halt ⟨hfault.1, hfault.2.1⟩ hfault.2.2,
        error_bind]
      refine ⟨fun h => ?_, fun h => absurd h.2.2 h1⟩
      obtain ⟨r, hr, -⟩ := h
      cases hr
  · rw [deleteRowsInPMemKV_of_ne (mt Comparison.opType_eq_kOpEquals_iff.1 hcmp), ok_bind]
    refine ⟨fun h => ?_, fun h => absurd h.1 hcmp⟩
    obtain ⟨r, hr, hspec⟩ := h
    obtain rfl := Except.ok.inj hr
    exact absurd (hspec s 1 rfl).1 Rows.not_deleted_self

/-- A DELETE by key. -/
theorem deletesExactly_tom : DeletesExactly .whole .zero tomServer (str "classtab")
    ⟨str "classtab", ofDefinitions classtab⟩ (str "Name") .eq (str "Tom") := by
  refine (deletesExactly_iff Redis.whole_alternates .zero getTable_tomServer _ _ _).2
    ⟨rfl, ?_, fun h => absurd h.1 (by decide)⟩
  rw [show tomServer.dbms.getCurDB.dbName = defaultDatabaseName from rfl, rowsOf_tomServer,
    Rows.selected_single]
  ext pk
  simp only [Set.mem_ofPred_eq, Set.mem_singleton_iff, and_iff_left_iff_imp]
  exact fun _ => by decide

/-- A WHERE clause on another column deletes the row whose key is its value. -/
theorem not_deletesExactly_class : Reachable Env.whole tomServer ∧
    KeyedByFirst defaultDatabaseName (str "classtab") tomServer.store ∧
    ¬DeletesExactly .whole .zero tomServer (str "classtab")
      ⟨str "classtab", ofDefinitions classtab⟩ (str "Class") .eq (str "Tom") := by
  refine ⟨reachable_tomServer, keyedByFirst_tomServer, ?_⟩
  rintro ⟨r, hr, hspec⟩
  rw [deleteRows_deleteWhere getTable_tomServer, Comparison.opType,
    deleteRowsInPMemKV_eq fun h => absurd h.1 (by decide), ok_bind] at hr
  obtain rfl := Except.ok.inj hr
  have hdel := (hspec _ 1 rfl).1
  rw [rowsOf_del] at hdel
  have hmem : str "Tom" ∈ Rows.selected
      (rowsOf tomServer.dbms.getCurDB.dbName (str "classtab") tomServer.store)
      (Satisfies ⟨str "classtab", ofDefinitions classtab⟩ (str "Class") .eq (str "Tom")) := by
    rw [Rows.deleted_update_none_iff.1 hdel]
    exact Set.mem_singleton _
  rw [show tomServer.dbms.getCurDB.dbName = defaultDatabaseName from rfl, rowsOf_tomServer,
    Rows.selected_single] at hmem
  exact absurd hmem.2 (by decide)

/-! ## DELETE without WHERE -/

/-- `DELETE FROM t` and `TRUNCATE t`. -/
def deleteAll (t : Str) : DeleteStatement :=
  { tableName := some t }

/-- The statement goes through, removes every row of the table and no other key, and reports
their number. -/
def EmptiesTable (env : Env) (u : Uninit) (s : Server) (t : Str) : Prop :=
  ∃ s' n, deleteRows env u s (deleteAll t) = .ok (some (s', n)) ∧
    Rows.Deleted (rowsOf s.dbms.getCurDB.dbName t s.store)
      (rowsOf s.dbms.getCurDB.dbName t s'.store) (fun _ => True) n.toNat ∧
    ∀ k, ¬dataPrefix s.dbms.getCurDB.dbName t <+: k → s'.store.get k = s.store.get k

theorem deleteRows_deleteAll (hT : s.dbms.getCurDB.getTable t = some table) (env : Env)
    (u : Uninit) : deleteRows env u s (deleteAll t) =
      deleteRowsInPMemKV env s ⟨t, .kOpEquals, str "1", str "1"⟩ >>= fun r => .ok (some r) := by
  rw [deleteRows, analyzeDeleteStatement, deleteAll, deref_some, ok_bind,
    hasTable_of_getTable hT]
  rfl

theorem Redis.FullScan.element_eq_nil_iff {R : Redis} (h : R.FullScan) (st : Store)
    (pattern : Str) (count : ℕ) :
    (R.scan st 0 pattern count).element = [] ↔
      ∀ k v, st.get k = some v → ¬globMatch pattern k := by
  have hflat : flat (R.page st pattern count) = [] ↔ R.page st pattern count = [] := by
    rw [← List.length_eq_zero_iff, ← List.length_eq_zero_iff, length_flat]
    omega
  rw [h.alternates, hflat, List.eq_nil_iff_forall_not_mem]
  refine ⟨fun hno k v hk hglob => hno (k, v) (h.mem_page.2 ⟨hk, hglob⟩), fun hno e he => ?_⟩
  exact hno e.1 e.2 (h.mem_page.1 he).1 (h.mem_page.1 he).2

/-- A DELETE of all rows does so exactly when the table has one row, stored under `1`, and the
store has no key that matches the object handed to SCAN as a pattern. -/
theorem emptiesTable_iff {env : Env} (hscan : env.redis.FullScan) (u : Uninit)
    (hT : s.dbms.getCurDB.getTable t = some table) :
    EmptiesTable env u s t ↔
      (∀ pk, (rowsOf s.dbms.getCurDB.dbName t s.store pk).isSome ↔ pk = str "1") ∧
        ∀ k v, s.store.get k = some v → ¬globMatch env.objectPattern k := by
  have hone := @Rows.deleted_update_none_iff _ _ _ (rowsOf s.dbms.getCurDB.dbName t s.store)
    (fun _ => True) (str "1")
  rw [← rowsOf_del, Set.ext_iff] at hone
  simp only [Rows.mem_selected, and_true, ← Option.isSome_iff_exists, Set.mem_singleton_iff]
    at hone
  rw [EmptiesTable, deleteRows_deleteAll hT, ← hscan.element_eq_nil_iff s.store env.objectPattern
    Redis.defaultCount]
  by_cases hnil : (env.redis.scan s.store 0 env.objectPattern Redis.defaultCount).element = []
  · rw [deleteRowsInPMemKV_eq fun _ => hnil, ok_bind, and_iff_left hnil, ← hone]
    refine ⟨fun h => ?_, fun h => ⟨_, _, rfl, h, fun k hk => Store.get_del_of_ne _ ?_⟩⟩
    · obtain ⟨s', n, heq, hdel, -⟩ := h
      obtain ⟨rfl, rfl⟩ := Prod.mk.inj (Option.some.inj (Except.ok.inj heq))
      exact hdel
    · rintro rfl
      exact hk (List.prefix_append _ _)
  · rw [deleteRowsInPMemKV_fault hscan.toAlternates ⟨rfl, rfl⟩ hnil, error_bind]
    refine ⟨fun h => ?_, fun h => absurd h.2 hnil⟩
    obtain ⟨s', n, heq, -⟩ := h
    cases heq

/-- The table of the test script with one row, whose key is `1`. -/
def oneServer : Server :=
  ⟨classServer.dbms, classServer.store.set (rowKey defaultDatabaseName (str "classtab") (str "1"))
    (stringsJoin [str "1", str "B", str "93"] (str "$$"))⟩

theorem rowsOf_oneServer : rowsOf defaultDatabaseName (str "classtab") oneServer.store =
    Function.update (fun _ => none) (str "1")
      (some (stringsJoin [str "1", str "B", str "93"] (str "$$"))) := by
  rw [oneServer, rowsOf_set, classServer, rowsOf_withTable, rowsOf_fresh]

theorem emptiesTable_one : EmptiesTable .whole .zero oneServer (str "classtab") := by
  refine (@emptiesTable_iff oneServer _ _ .whole Redis.whole_fullScan .zero
    getTable_classServer).2
    ⟨fun pk => ?_, fun k v hk hglob => ?_⟩
  · rw [show oneServer.dbms.getCurDB.dbName = defaultDatabaseName from rfl, rowsOf_oneServer]
    by_cases hpk : pk = str "1"
    · simp [hpk]
    · simp [hpk]
  · have hmem : (k, v) ∈ oneServer.store.matching [] := Store.mem_matching.2 ⟨hk, hglob⟩
    rw [show oneServer.store.matching [] = [] by decide] at hmem
    exact List.not_mem_nil hmem

/-- The row of a table whose key is not `1` stays. -/
theorem not_emptiesTable_tom : Reachable Env.whole tomServer ∧
    ¬EmptiesTable .whole .zero tomServer (str "classtab") := by
  refine ⟨reachable_tomServer, fun h => ?_⟩
  obtain ⟨s', n, heq, hdel, -⟩ := h
  rw [deleteRows_deleteAll getTable_tomServer, deleteRowsInPMemKV_eq fun _ => by decide,
    ok_bind] at heq
  obtain ⟨rfl, -⟩ := Prod.mk.inj (Option.some.inj (Except.ok.inj heq))
  have hgone := hdel.gone (str "Tom") ⟨_, congrFun rowsOf_tomServer _ |>.trans
    (Function.update_self ..), trivial⟩
  rw [rowsOf_del, Function.update_of_ne (by decide)] at hgone
  exact absurd hgone (by decide)

end UhpSql
