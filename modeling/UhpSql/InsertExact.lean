import UhpSql.ReadYourWrites

/-!
# What INSERT writes

AnalyzeInsertStatement pairs columns with values, and InsertRowToPMemKV stores the values of
the pairs in schema order under the value of the first pair.

`pairsOff_iff` : the pairs are the right ones as long as no literal before them is of a kind
the analyzer passes over. `insertComplete_iff` : the stored row is complete when as many
columns are named as the table has. `sameInsert_iff` : the order of the pairs matters for the
key, and for nothing else.
-/

namespace UhpSql

/-! ## Complete rows -/

/-- INSERT of the pairs changes nothing, or stores a string whose fields are the values given for
the columns in schema order, empty where a column has none. -/
def InsertComplete (s : Server) (t : Str) (table : DataTable) (row : List TableColumn) : Prop :=
  insertRowToPMemKV s t row = .ok (s, 0) ∨ ∃ first ∈ row.head?, ∃ val,
    insertRowToPMemKV s t row =
        .ok (⟨s.dbms, s.store.set (rowKey s.dbms.getCurDB.dbName t first.val) val⟩, 1) ∧
      Delimited.Separated (str "$$") val (givenFields table row)

/-- As many pairs as the table has columns, every name among them a column, no value for a
column whose name occurs again later, and fields that stay apart. -/
structure Insertable (table : DataTable) (row : List TableColumn) : Prop where
  count : row.length = table.cols.length
  known : ∀ c ∈ row, c.colName ∈ table.colNames
  unshadowed : NoneShadowed table.colNames (givenFields table row)
  noDelimiter : ∀ v ∈ givenFields table row, ¬str "$$" <:+: v
  noHalf : ∀ v ∈ (givenFields table row).dropLast, v.getLast? ≠ some dollar

@[simp] theorem length_givenFields (table : DataTable) (row : List TableColumn) :
    (givenFields table row).length = table.cols.length := by
  rw [givenFields, List.length_map, DataTable.length_colNames]

theorem getElem?_givenFields {table : DataTable} {x : Str} {p : ℕ}
    (h : table.colNames[p]? = some x) (row : List TableColumn) :
    (givenFields table row)[p]? = some ((given row x).getD []) := by
  rw [givenFields, List.getElem?_map, h, Option.map_some]

/-- What is stored agrees with the values given, and is empty where a name occurs again later. -/
theorem getElem?_of_fillVals {table : DataTable} {row : List TableColumn} {vals : List Str}
    (h : fillVals table row (List.replicate row.length []) = .ok vals) :
    vals.length = row.length ∧
      (∀ p x, DataTable.LastAt x table.colNames p → p < row.length →
        vals[p]? = (givenFields table row)[p]?) ∧
      ∀ p, (¬∃ x, DataTable.LastAt x table.colNames p) → p < row.length → vals[p]? = some [] := by
  obtain ⟨vals', hvals, hlen, hlast, hother⟩ := fillVals_spec (lastAt_of_fillVals h)
  obtain rfl := Except.ok.inj (h.symm.trans hvals)
  refine ⟨by rw [hlen, List.length_replicate], fun p x hx hp => ?_, fun p hno hp => ?_⟩
  · rw [hlast p x hx, getElem?_givenFields hx.1, List.getElem?_replicate, if_pos hp]
    cases given row x <;> rfl
  · rw [hother p hno, List.getElem?_replicate, if_pos hp]

/-- As many pairs as columns fill the row, as it should be unless a value is shadowed. -/
theorem eq_givenFields_iff {table : DataTable} {row : List TableColumn} {vals : List Str}
    (h : fillVals table row (List.replicate row.length []) = .ok vals)
    (hcount : row.length = table.cols.length) :
    vals = givenFields table row ↔ NoneShadowed table.colNames (givenFields table row) := by
  obtain ⟨hlen, hlast, hother⟩ := getElem?_of_fillVals h
  refine (forall₂_of_fillVals (by simp) (by rw [hlen, hcount, length_givenFields])
    (fun p hp => ?_) fun p hp => ?_).2
  · obtain ⟨x, hx⟩ := hp
    have hlt := (List.getElem?_eq_some_iff.1 hx.1).1
    rw [DataTable.length_colNames] at hlt
    exact hlast p x hx (by omega)
  · rcases Nat.lt_or_ge p row.length with hlt | hge
    · rw [hother p hp hlt, length_givenFields, List.getElem?_replicate, if_pos (by omega)]
    · rw [List.getElem?_eq_none (by omega),
        List.getElem?_eq_none (by rw [List.length_replicate, length_givenFields]; omega)]

/-- What is stored has the right fields exactly when the pairs are insertable. -/
theorem insertable_iff {table : DataTable} {row : List TableColumn} (hrow : row ≠ []) :
    (∃ vals, fillVals table row (List.replicate row.length []) = .ok vals ∧
      Delimited.Separated (str "$$") (stringsJoin vals (str "$$")) (givenFields table row)) ↔
        Insertable table row := by
  have hpos := List.length_pos_iff.2 hrow
  refine ⟨fun h => ?_, fun h => ?_⟩
  · obtain ⟨vals, hvals, hsep⟩ := h
    obtain ⟨hlen, hlast, hother⟩ := getElem?_of_fillVals hvals
    -- a value that differs from the one given was left empty
    have heq : vals = givenFields table row := by
      refine Delimited.eq_of_separated (by decide) (List.length_pos_iff.1 (by omega)) hsep
        fun i a b ha hb => ?_
      have hi : i < row.length := hlen ▸ (List.getElem?_eq_some_iff.1 ha).1
      by_cases hx : ∃ x, DataTable.LastAt x table.colNames i
      · obtain ⟨x, hx⟩ := hx
        exact Or.inl (Option.some.inj (ha.symm.trans ((hlast i x hx hi).trans hb)))
      · exact Or.inr (Option.some.inj (ha.symm.trans (hother i hx hi)))
    have hcount : row.length = table.cols.length := by
      rw [← hlen, heq, length_givenFields]
    obtain ⟨hno, hhalf⟩ := (Delimited.cut_pair_iff (c := dollar) (heq ▸
      List.length_pos_iff.1 (by omega))).1 hsep.2
    refine ⟨hcount, fun c hc => ?_, (eq_givenFields_iff hvals hcount).1 heq, hno, hhalf⟩
    obtain ⟨i, hi, -⟩ := lastAt_of_fillVals hvals c hc
    exact List.mem_of_getElem? hi.1
  · have hknown : ∀ c ∈ row, ∃ i, DataTable.LastAt c.colName table.colNames i ∧
        i < (List.replicate row.length ([] : Str)).length := fun c hc => by
      rcases table.getColIndex_cases c.colName with ⟨hmem, -⟩ | ⟨i, -, hi⟩
      · exact absurd (h.known c hc) hmem
      · have hlt := (List.getElem?_eq_some_iff.1 hi.1).1
        rw [DataTable.length_colNames] at hlt
        exact ⟨i, hi, by rw [List.length_replicate, h.count]; exact hlt⟩
    obtain ⟨vals, hvals, -⟩ := fillVals_spec hknown
    have heq := (eq_givenFields_iff hvals h.count).2 h.unshadowed
    have hne : givenFields table row ≠ [] := by
      rw [← List.length_pos_iff, length_givenFields, ← h.count]
      exact hpos
    exact ⟨vals, hvals, by rw [heq]; rfl,
      (Delimited.cut_pair_iff (c := dollar) hne).2 ⟨h.noDelimiter, h.noHalf⟩⟩

section
variable {s : Server} {t : Str} {table : DataTable}
  (hT : s.dbms.getCurDB.getTable t = some table)
include hT

theorem insertRowToPMemKV_cons (first : TableColumn) (row : List TableColumn) :
    insertRowToPMemKV s t (first :: row) =
      fillVals table (first :: row) (List.replicate (first :: row).length []) >>= fun vals =>
        .ok (⟨s.dbms, s.store.set (rowKey s.dbms.getCurDB.dbName t first.val)
          (stringsJoin vals (str "$$"))⟩, 1) := by
  rw [insertRowToPMemKV, hT]
  rfl

/-- INSERT stores a complete row exactly when as many columns are named as the table has, all
of them known, and the fields stay apart. -/
theorem insertComplete_iff (row : List TableColumn) :
    InsertComplete s t table row ↔ row = [] ∨ Insertable table row := by
  rcases row with _ | ⟨first, row⟩
  · exact iff_of_true (Or.inl rfl) (Or.inl rfl)
  rw [or_iff_right (List.cons_ne_nil _ _), ← insertable_iff (List.cons_ne_nil _ _), InsertComplete,
    insertRowToPMemKV_cons hT]
  refine ⟨fun h => ?_, fun h => ?_⟩
  · rcases h with h | ⟨c, hc, val, hval, hsep⟩
    · obtain ⟨vals, -, hvals⟩ := bind_eq_ok.1 h
      cases congrArg Prod.snd (Except.ok.inj hvals)
    · obtain rfl := Option.some.inj hc
      obtain ⟨vals, hvals, heq⟩ := bind_eq_ok.1 hval
      have hstore := congrArg (fun r => r.1.store.get
        (rowKey s.dbms.getCurDB.dbName t first.val)) (Except.ok.inj heq)
      simp only [Store.get_set_self, Option.some.injEq] at hstore
      exact ⟨vals, hvals, hstore ▸ hsep⟩
  · obtain ⟨vals, hvals, hsep⟩ := h
    exact Or.inr ⟨first, rfl, _, by rw [hvals]; rfl, hsep⟩

end

/-- A row of the test script with its columns the other way round. -/
theorem insertComplete_tom : InsertComplete classServer (str "classtab")
    ⟨str "classtab", ofDefinitions classtab⟩
    [⟨str "Score", .unknown, str "93"⟩, ⟨str "Class", .unknown, str "B"⟩,
      ⟨str "Name", .unknown, str "Tom"⟩] :=
  (insertComplete_iff getTable_classServer _).2
    (Or.inr ⟨rfl, by decide, noneShadowed_classtab _, by decide, by decide⟩)

/-- Two of three columns, the last among them : the analyzer accepts the statement, and the
vector of two values is written at index 2. -/
theorem not_insertComplete_subset : Reachable Env.whole classServer ∧
    ∃ row, analyzeInsertStatement classServer.dbms
        (insertValues (str "classtab") [str "Name", str "Score"] [str "Tom", str "93"]) =
          .ok (some (str "classtab", row)) ∧
      insertRowToPMemKV classServer (str "classtab") row = .error .outOfBounds ∧
      ¬InsertComplete classServer (str "classtab") ⟨str "classtab", ofDefinitions classtab⟩ row := by
  have hfault : insertRowToPMemKV classServer (str "classtab")
      [⟨str "Name", .unknown, str "Tom"⟩, ⟨str "Score", .unknown, str "93"⟩] =
        .error .outOfBounds := rfl
  refine ⟨reachable_classServer, _, rfl, hfault, fun h => ?_⟩
  rcases h with h | ⟨first, -, val, h, -⟩
  · cases hfault.symm.trans h
  · cases hfault.symm.trans h

/-! ## The order of the pairs -/

/-- INSERT of either list of pairs goes through and leaves the same store. -/
def SameInsert (s : Server) (t : Str) (row row' : List TableColumn) : Prop :=
  ∃ s₁ n₁ s₂ n₂, insertRowToPMemKV s t row = .ok (s₁, n₁) ∧
    insertRowToPMemKV s t row' = .ok (s₂, n₂) ∧ ∀ k, s₁.store.get k = s₂.store.get k

theorem sameInsert_iff_get {s s₁ s₂ : Server} {t : Str} {row row' : List TableColumn}
    {n₁ n₂ : UInt64} (h₁ : insertRowToPMemKV s t row = .ok (s₁, n₁))
    (h₂ : insertRowToPMemKV s t row' = .ok (s₂, n₂)) :
    SameInsert s t row row' ↔ ∀ k, s₁.store.get k = s₂.store.get k := by
  refine ⟨fun h => ?_, fun h => ⟨s₁, n₁, s₂, n₂, h₁, h₂, h⟩⟩
  obtain ⟨s₁', n₁', s₂', n₂', h₁', h₂', h⟩ := h
  obtain ⟨rfl, -⟩ := Prod.mk.inj (Except.ok.inj (h₁.symm.trans h₁'))
  obtain ⟨rfl, -⟩ := Prod.mk.inj (Except.ok.inj (h₂.symm.trans h₂'))
  exact h

/-- Where no name is repeated, the values given are those of the pairs. -/
theorem given_eq_some_iff {x v : Str} : ∀ {row : List TableColumn},
    (row.map TableColumn.colName).Nodup →
      (given row x = some v ↔ ∃ c ∈ row, c.colName = x ∧ c.val = v)
  | [], _ => by simp [given]
  | c :: row, h => by
    rw [List.map_cons, List.nodup_cons] at h
    have ih := @given_eq_some_iff x v row h.2
    by_cases hc : c.colName = x
    · have hnone : given row x = none := given_eq_none_iff.2 (hc ▸ h.1)
      rw [given, hnone, Option.none_or, if_pos hc, Option.some_inj, List.exists_mem_cons_iff]
      refine ⟨fun hv => Or.inl ⟨hc, hv⟩, fun hv => ?_⟩
      rcases hv with hv | hv
      · exact hv.2
      · cases hnone.symm.trans (ih.2 hv)
    · rw [given, if_neg hc, Option.or_none, ih, List.exists_mem_cons_iff,
        or_iff_right fun hv => hc hv.1]

/-- The values given do not depend on the order of the pairs. -/
theorem givenFields_perm {row row' : List TableColumn} (hperm : row.Perm row')
    (hnodup : (row.map TableColumn.colName).Nodup) (table : DataTable) :
    givenFields table row = givenFields table row' := by
  have hgiven : ∀ x, given row x = given row' x := fun x => by
    ext v
    rw [given_eq_some_iff hnodup, given_eq_some_iff ((hperm.map _).nodup_iff.1 hnodup)]
    simp only [hperm.mem_iff]
  simp only [givenFields, hgiven]

/-- Distinct names that are those of the columns are as many as the distinct columns. -/
theorem length_eq_dedup {table : DataTable} {row : List TableColumn}
    (hnodup : (row.map TableColumn.colName).Nodup)
    (hall : ∀ x, x ∈ row.map TableColumn.colName ↔ x ∈ table.colNames) :
    row.length = table.colNames.dedup.length := by
  have hperm : (row.map TableColumn.colName).Perm table.colNames.dedup :=
    (List.perm_ext_iff_of_nodup hnodup (List.nodup_dedup _)).2 fun x => by
      rw [hall, List.mem_dedup]
  rw [← hperm.length_eq, List.length_map]

section
variable {s : Server} {t : Str} {table : DataTable}
  (hT : s.dbms.getCurDB.getTable t = some table)
include hT

/-- A value for each of distinct columns : the row is stored under the value of the first pair. -/
theorem insertRowToPMemKV_all {row : List TableColumn} {first : TableColumn}
    (hfirst : first ∈ row.head?) (hnodup : (row.map TableColumn.colName).Nodup)
    (hall : ∀ x, x ∈ row.map TableColumn.colName ↔ x ∈ table.colNames)
    (hcols : table.colNames.Nodup) :
    insertRowToPMemKV s t row = .ok (⟨s.dbms, s.store.set
      (rowKey s.dbms.getCurDB.dbName t first.val) (stringsJoin (givenFields table row)
        (str "$$"))⟩, 1) := by
  have hcount : row.length = table.cols.length := by
    rw [length_eq_dedup hnodup hall, hcols.dedup, DataTable.length_colNames]
  obtain ⟨vals, hvals, -⟩ := @fillVals_spec table row (List.replicate row.length []) fun c hc => by
    rcases table.getColIndex_cases c.colName with ⟨hmem, -⟩ | ⟨i, -, hi⟩
    · exact absurd ((hall _).1 (List.mem_map_of_mem hc)) hmem
    · have hlt := (List.getElem?_eq_some_iff.1 hi.1).1
      rw [DataTable.length_colNames] at hlt
      exact ⟨i, hi, by rwa [List.length_replicate, hcount]⟩
  have heq := (eq_givenFields_iff hvals hcount).2 (noneShadowed_of_nodup hcols _)
  obtain ⟨row, rfl⟩ := List.head?_eq_some_iff.1 hfirst
  rw [insertRowToPMemKV_cons hT, hvals, ok_bind, heq]

/-- Every name once, but a column more : the last column is out of bounds. -/
theorem nodup_of_insertRowToPMemKV {row : List TableColumn} {r : Server × UInt64}
    (hnodup : (row.map TableColumn.colName).Nodup)
    (hall : ∀ x, x ∈ row.map TableColumn.colName ↔ x ∈ table.colNames)
    (h : insertRowToPMemKV s t row = .ok r) : table.colNames.Nodup := by
  rcases row with _ | ⟨first, row⟩
  · rw [List.eq_nil_iff_forall_not_mem.2 fun x hx => List.not_mem_nil ((hall x).2 hx)]
    exact List.nodup_nil
  rw [insertRowToPMemKV_cons hT] at h
  obtain ⟨vals, hvals, -⟩ := bind_eq_ok.1 h
  -- the last column is named, and its index is within the vector
  have hpos : 0 < table.colNames.length :=
    List.length_pos_of_mem ((hall _).1 (List.mem_map_of_mem List.mem_cons_self))
  obtain ⟨x, hx⟩ : ∃ x, table.colNames[table.colNames.length - 1]? = some x :=
    ⟨_, List.getElem?_eq_getElem (by omega)⟩
  have hlast : DataTable.LastAt x table.colNames (table.colNames.length - 1) :=
    ⟨hx, fun j hj => by rw [List.getElem?_eq_none (by omega)]; nofun⟩
  obtain ⟨c, hc, hname⟩ := List.mem_map.1 ((hall _).2 (List.mem_of_getElem? hlast.1))
  obtain ⟨i, hi, hlt⟩ := lastAt_of_fillVals hvals c hc
  obtain rfl := (hname ▸ hi).unique hlast
  rw [List.length_replicate, length_eq_dedup hnodup hall] at hlt
  exact List.dedup_eq_self.1 ((List.dedup_sublist _).eq_of_length_le (by omega))

/-- The order of the pairs does not matter exactly when the columns are distinct, and both
lists begin with the same value or the row is stored under both first values already. -/
theorem sameInsert_iff {row row' : List TableColumn} (hperm : row.Perm row')
    (hnodup : (row.map TableColumn.colName).Nodup)
    (hall : ∀ x, x ∈ row.map TableColumn.colName ↔ x ∈ table.colNames) :
    SameInsert s t row row' ↔ table.colNames.Nodup ∧
      (row.head?.map TableColumn.val = row'.head?.map TableColumn.val ∨
        ∀ c, c ∈ row.head? ∨ c ∈ row'.head? →
          rowsOf s.dbms.getCurDB.dbName t s.store c.val =
            some (stringsJoin (givenFields table row) (str "$$"))) := by
  have hnodup' : (row'.map TableColumn.colName).Nodup := (hperm.map _).nodup_iff.1 hnodup
  have hall' : ∀ x, x ∈ row'.map TableColumn.colName ↔ x ∈ table.colNames := fun x => by
    rw [← hall, (hperm.map _).mem_iff]
  rcases row with _ | ⟨first, row⟩
  · obtain rfl := hperm.nil_eq
    refine iff_of_true ⟨s, 0, s, 0, rfl, rfl, fun _ => rfl⟩ ⟨?_, Or.inl rfl⟩
    exact nodup_of_insertRowToPMemKV hT hnodup hall rfl
  rcases row' with _ | ⟨first', row'⟩
  · cases hperm.eq_nil
  have hcols : SameInsert s t (first :: row) (first' :: row') → table.colNames.Nodup := fun h => by
    obtain ⟨s₁, n₁, -, -, h₁, -⟩ := h
    exact nodup_of_insertRowToPMemKV hT hnodup hall h₁
  refine (and_iff_right_of_imp hcols).symm.trans (and_congr_right fun hcols => ?_)
  rw [sameInsert_iff_get (insertRowToPMemKV_all hT rfl hnodup hall hcols)
    (insertRowToPMemKV_all hT rfl hnodup' hall' hcols), ← givenFields_perm hperm hnodup,
    Store.get_set_eq_get_set_iff, (rowKey_injective _ _).eq_iff]
  refine or_congr ?_ ⟨fun h c hc => ?_, fun h => ⟨h first (Or.inl rfl), h first' (Or.inr rfl)⟩⟩
  · rw [List.head?_cons, List.head?_cons, Option.map_some, Option.map_some, Option.some_inj]
  · rcases hc with hc | hc
    · obtain rfl := Option.some.inj hc
      exact h.1
    · obtain rfl := Option.some.inj hc
      exact h.2

end

/-- The pairs of the test script. -/
def tomPairs : List TableColumn :=
  [⟨str "Name", .unknown, str "Tom"⟩, ⟨str "Class", .unknown, str "B"⟩,
    ⟨str "Score", .unknown, str "93"⟩]

/-- The pairs with the columns after the key the other way round. -/
theorem sameInsert_tom : SameInsert classServer (str "classtab") tomPairs
    [⟨str "Name", .unknown, str "Tom"⟩, ⟨str "Score", .unknown, str "93"⟩,
      ⟨str "Class", .unknown, str "B"⟩] :=
  (@sameInsert_iff _ _ _ getTable_classServer tomPairs _ (by decide) (by decide)
    fun _ => Iff.rfl).2 ⟨by decide, Or.inl rfl⟩

/-- With the class first the row is stored under the class. -/
theorem not_sameInsert_class : Reachable Env.whole classServer ∧
    ¬SameInsert classServer (str "classtab") tomPairs
      [⟨str "Class", .unknown, str "B"⟩, ⟨str "Name", .unknown, str "Tom"⟩,
        ⟨str "Score", .unknown, str "93"⟩] := by
  refine ⟨reachable_classServer, fun h => ?_⟩
  have hget := (sameInsert_iff_get rfl rfl).1 h (rowKey defaultDatabaseName (str "classtab")
    (str "Tom"))
  exact absurd hget (by decide)

/-! ## Columns and their values -/

/-- The literals whose text the analyzer collects. -/
def Literal.collected : Literal → Bool
  | .string _ | .bool _ | .int _ => true
  | _ => false

/-- The trees of INSERT : with or without columns, with VALUES or with a SELECT. -/
def insertTree (t : Str) (columns : Option (List Str)) (values : Option (List Literal)) :
    InsertStatement where
  tableName := some t
  columns := columns
  values := values.map fun lits => lits.map Literal.toExpr

/-- The analyzer turns the statement down, or pairs the columns with the texts of the literals,
the first with the first and so on. -/
def PairsOff (d : DBMS) (t : Str) (columns : Option (List Str)) (values : Option (List Literal)) :
    Prop :=
  ∃ r, analyzeInsertStatement d (insertTree t columns values) = .ok r ∧
    ∀ tabName row, r = some (tabName, row) → tabName = t ∧
      ∃ cols ∈ columns, ∃ lits ∈ values, row.map TableColumn.colName = cols ∧
        row.map TableColumn.val = (lits.map Literal.text).take cols.length

/-- The texts the analyzer collects. -/
theorem collectValues_map_toExpr : ∀ lits : List Literal,
    collectValues (lits.map Literal.toExpr) =
      .ok ((lits.filter Literal.collected).map Literal.text)
  | [] => rfl
  | lit :: lits => by
    rw [List.map_cons, collectValues, collectValues_map_toExpr lits]
    cases lit with
    | bool val => cases val <;> rfl
    | _ => rfl

/-- A pairing that goes through has a value for every column. -/
theorem length_le_of_pairColumns : ∀ {names vals : List Str} {row : List TableColumn},
    pairColumns names vals = .ok row → names.length ≤ vals.length
  | [], _, _, _ => Nat.zero_le _
  | _ :: names, _ :: vals, row, h => by
    rw [pairColumns] at h
    obtain ⟨row, hrow, -⟩ := bind_eq_ok.1 h
    exact Nat.succ_le_succ (length_le_of_pairColumns hrow)

theorem analyzeInsertStatement_insertTree {d : DBMS} {t : Str} (ht : d.hasTable t)
    (columns : Option (List Str)) (values : Option (List Literal)) :
    analyzeInsertStatement d (insertTree t columns values) = deref columns >>= fun cols =>
      deref values >>= fun lits =>
        pairColumns cols ((lits.filter Literal.collected).map Literal.text) >>= fun row =>
          .ok (some (t, row)) := by
  rw [analyzeInsertStatement, insertTree, deref_some, ok_bind, ht]
  cases columns with
  | none => rfl
  | some cols =>
    cases values with
    | none => rfl
    | some lits =>
      simp only [Option.map_some, deref_some, ok_bind, collectValues_map_toExpr]
      rfl

/-- The pairs are the right ones exactly when there are columns and values, enough strings,
integers and truth values for the columns, and these are the literals at the columns' places. -/
theorem pairsOff_iff (d : DBMS) (t : Str) (columns : Option (List Str))
    (values : Option (List Literal)) :
    PairsOff d t columns values ↔ (d.hasTable t → ∃ cols ∈ columns, ∃ lits ∈ values,
      cols.length ≤ (lits.filter Literal.collected).length ∧
        ((lits.filter Literal.collected).map Literal.text).take cols.length =
          (lits.map Literal.text).take cols.length) := by
  by_cases ht : d.hasTable t
  · rw [imp_iff_right ht, PairsOff, analyzeInsertStatement_insertTree ht]
    refine ⟨fun h => ?_, fun h => ?_⟩
    · obtain ⟨r, hr, hspec⟩ := h
      obtain ⟨cols, hcols, hr⟩ := bind_eq_ok.1 hr
      obtain ⟨lits, hlits, hr⟩ := bind_eq_ok.1 hr
      obtain ⟨row, hrow, hr⟩ := bind_eq_ok.1 hr
      obtain ⟨-, cols', hcols', lits', hlits', -, hval⟩ := hspec t row (Except.ok.inj hr).symm
      obtain rfl := Option.some.inj ((deref_eq_ok.1 hcols).symm.trans hcols')
      obtain rfl := Option.some.inj ((deref_eq_ok.1 hlits).symm.trans hlits')
      have hle := length_le_of_pairColumns hrow
      obtain ⟨row', hrow', -, hval'⟩ := pairColumns_eq hle
      obtain rfl := Except.ok.inj (hrow.symm.trans hrow')
      rw [List.length_map] at hle
      exact ⟨cols, hcols', lits, hlits', hle, hval'.symm.trans hval⟩
    · obtain ⟨cols, hcols, lits, hlits, hle, htake⟩ := h
      obtain ⟨row, hrow, hname, hval⟩ := @pairColumns_eq cols
        ((lits.filter Literal.collected).map Literal.text) (by rwa [List.length_map])
      refine ⟨some (t, row), ?_, fun tabName row' h => ?_⟩
      · rw [Option.mem_def.1 hcols, Option.mem_def.1 hlits, deref_some, ok_bind, deref_some,
          ok_bind, hrow, ok_bind]
      · obtain ⟨rfl, rfl⟩ := Prod.mk.inj (Option.some.inj h)
        exact ⟨rfl, cols, hcols, lits, hlits, hname, hval.trans htake⟩
  · refine iff_of_true ⟨none, ?_, fun _ _ h => absurd h.symm (Option.some_ne_none _)⟩
      fun h => absurd h ht
    simp [analyzeInsertStatement, insertTree, ht]

/-- A NULL is passed over, and the values after it move up. -/
theorem not_pairsOff_null : Reachable Env.whole classServer ∧
    ¬PairsOff classServer.dbms (str "classtab") (some [str "Name", str "Class"])
      (some [.string (str "Tom"), .null, .string (str "93")]) := by
  refine ⟨reachable_classServer, fun h => ?_⟩
  obtain ⟨r, hr, hspec⟩ := h
  obtain rfl := Except.ok.inj hr
  obtain ⟨-, cols, hcols, lits, hlits, -, hval⟩ := hspec _ _ rfl
  obtain rfl := Option.some.inj hcols
  obtain rfl := Option.some.inj hlits
  exact absurd hval (by decide)

end UhpSql
