import UhpSql.CatalogAgreement

/-!
# The columns of CREATE TABLE

What the catalog makes of a list of columns. The store gets a descriptor, which a start reads
back : `descriptorRoundTrips_iff` says for which names the columns come back. Memory gets a
`DataTable`, whose maps are filled in one loop : `mapsAgree_iff` says for which lists they are
inverse to one another.
-/

namespace UhpSql

/-! ## Identifiers -/

/-- `[A-Za-z]`. -/
def isLetter (c : CChar) : Bool :=
  (65 ≤ c.1 && c.1 ≤ 90) || (97 ≤ c.1 && c.1 ≤ 122)

/-- `[A-Za-z0-9_]`. -/
def isWordChar (c : CChar) : Bool :=
  isLetter c || isDigit c || c = CChar.ofChar '_'

/-- The identifiers of the lexer. -/
inductive Identifier where
  | unquoted (first : CChar) (rest : Str)
      (chars : isLetter first ∧ ∀ c ∈ rest, isWordChar c)
  | quoted (text : Str)
      (chars : text ≠ [] ∧ ∀ c ∈ text, c ≠ CChar.ofChar '"' ∧ c ≠ CChar.ofChar '\n')

namespace Identifier

/-- The name an identifier stands for. The quotes are cropped. -/
def name : Identifier → Str
  | unquoted first rest _ => first :: rest
  | quoted text _ => text

/-- A quoted identifier that holds a character which structures a descriptor. -/
def Marked : Identifier → Prop
  | unquoted .. => False
  | quoted text _ => CChar.ofChar '^' ∈ text ∨ CChar.ofChar '$' ∈ text

theorem not_marked_iff (i : Identifier) : ¬i.Marked ↔ Unmarked i.name := by
  cases i with
  | unquoted first rest chars =>
    refine iff_of_true not_false ?_
    have hword : ∀ c ∈ first :: rest, isWordChar c := by
      refine List.forall_mem_cons.2 ⟨?_, chars.2⟩
      rw [isWordChar, chars.1, Bool.true_or, Bool.true_or]
    exact ⟨fun h => absurd (hword _ h) (by decide), fun h => absurd (hword _ h) (by decide)⟩
  | quoted text chars => exact not_or

end Identifier

/-! ## Descriptors -/

/-- The columns that CREATE TABLE declares. -/
def declared (cols : List (Identifier × DataType)) : List TableColumn :=
  ofDefinitions (cols.map fun c => ⟨c.1.name, c.2⟩)

/-- The descriptor that `CreateTable` writes is decoded to the columns it was written for. -/
def DescriptorRoundTrips (cols : List (Identifier × DataType)) : Prop :=
  getColFromStr (descriptor (declared cols)) = .ok (declared cols)

theorem mem_declared {cols : List (Identifier × DataType)} {c : TableColumn} :
    c ∈ declared cols ↔ ∃ d ∈ cols, c = ⟨d.1.name, d.2, []⟩ := by
  simp [declared, ofDefinitions, eq_comm]

/-- Columns come back exactly when no quoted name holds a `^` or a `$`. -/
theorem descriptorRoundTrips_iff {cols : List (Identifier × DataType)} (hcols : cols ≠ []) :
    DescriptorRoundTrips cols ↔ ∀ c ∈ cols, ¬c.1.Marked := by
  have hne : declared cols ≠ [] := by
    simpa [declared, ofDefinitions] using hcols
  have hval : ∀ c ∈ declared cols, c.val = [] := fun c hc => by
    obtain ⟨d, -, rfl⟩ := mem_declared.1 hc
    rfl
  refine ⟨fun h c hc => ?_, fun h => ?_⟩
  · have hschema := (getColFromStr_descriptor_iff hval []).1 ⟨_, h, rfl⟩
    rw [Identifier.not_marked_iff]
    exact hschema.2 _ (mem_declared.2 ⟨c, hc, rfl⟩)
  · refine getColLoop_descriptor hne (fun c hc => ⟨?_, hval c hc⟩) []
    obtain ⟨d, hd, rfl⟩ := mem_declared.1 hc
    exact (Identifier.not_marked_iff d.1).1 (h d hd)

/-- `"Full name" VARCHAR(80), Score INT`. -/
def scoreColumns : List (Identifier × DataType) :=
  [(.quoted (str "Full name") (by decide), .varchar),
    (.unquoted (CChar.ofChar 'S') (str "core") (by decide), .int)]

theorem descriptorRoundTrips_score : DescriptorRoundTrips scoreColumns :=
  (descriptorRoundTrips_iff (List.cons_ne_nil _ _)).2
    (List.forall_mem_cons.2 ⟨not_or.2 (by decide), List.forall_mem_singleton.2 not_false⟩)

/-- `"a^b" INT` comes back as `b INT`. -/
theorem not_descriptorRoundTrips_caret :
    ¬DescriptorRoundTrips [(.quoted (str "a^b") (by decide), .int)] := by
  have h : getColFromStr (str "a^b^1") = .ok [⟨str "b", .int, []⟩] := by decide
  intro hround
  exact absurd (h.symm.trans hround) (by decide)

/-! ## The maps of a table -/

namespace DataTable

/-- The maps of a table are inverse to one another and agree with its columns. -/
structure MapsAgree (T : DataTable) : Prop where
  count : T.getColCount.toNat = T.cols.length
  keys : ∀ i, i ∈ T.indexColMap ↔ i < T.getColCount.toNat
  index : ∀ i < T.cols.length, T.getColIndex (T.indexCol i) = i
  names : ∀ x, T.getColIndex x ≠ -1 ↔ x ∈ T.colNames
  types : ∀ c ∈ T.cols, T.getColType c.colName = c.colType

theorem mem_indexColMap_append (t : Str) (cols : List TableColumn) (c : TableColumn) (i : ℕ) :
    i ∈ (mk t (cols ++ [c])).indexColMap ↔ i = cols.length ∨ i ∈ (mk t cols).indexColMap := by
  unfold indexColMap
  simp only [List.zipIdx_append, List.zipIdx_singleton, List.foldl_append, List.foldl_cons,
    List.foldl_nil, zero_add]
  rw [AList.mem_insert]

theorem getColType_append (t : Str) (cols : List TableColumn) (c : TableColumn) (x : Str) :
    (mk t (cols ++ [c])).getColType x =
      if x = c.colName then c.colType else (mk t cols).getColType x := by
  unfold getColType colTypeMap
  simp only [List.foldl_append, List.foldl_cons, List.foldl_nil]
  split_ifs with h
  · rw [h, AList.lookup_insert, Option.getD_some]
  · rw [AList.lookup_insert_ne h]

/-- `index_col_` has a name for every position, however many there are. -/
theorem mem_indexColMap (T : DataTable) (i : ℕ) : i ∈ T.indexColMap ↔ i < T.cols.length := by
  obtain ⟨t, cols⟩ := T
  induction cols using List.reverseRecOn with
  | nil => exact iff_of_false (AList.notMem_empty i) (Nat.not_lt_zero i)
  | append_singleton cols c ih =>
    have hlen : (cols ++ [c]).length = cols.length + 1 := List.length_append
    rw [mem_indexColMap_append, ih]
    change i = cols.length ∨ i < cols.length ↔ i < (cols ++ [c]).length
    omega

/-- Columns of different names keep their types. -/
theorem getColType_of_nodup {T : DataTable} (h : T.colNames.Nodup) :
    ∀ c ∈ T.cols, T.getColType c.colName = c.colType := by
  obtain ⟨t, cols⟩ := T
  induction cols using List.reverseRecOn with
  | nil => exact fun c hc => absurd hc List.not_mem_nil
  | append_singleton cols c ih =>
    rw [colNames_append, List.nodup_append] at h
    obtain ⟨hcols, -, hdisj⟩ := h
    refine fun c' hc' => ?_
    rw [getColType_append]
    rcases List.mem_append.1 hc' with hmem | hmem
    · have hne : c'.colName ≠ c.colName :=
        hdisj _ (List.mem_map_of_mem hmem) _ (List.mem_singleton_self _)
      rw [if_neg hne, ih hcols c' hmem]
    · rw [List.mem_singleton.1 hmem, if_pos rfl]

/-- Only names of columns have an index. -/
theorem getColIndex_ne_iff (T : DataTable) (x : Str) : T.getColIndex x ≠ -1 ↔ x ∈ T.colNames := by
  rcases T.getColIndex_cases x with ⟨hmem, h⟩ | ⟨i, h, hlast⟩
  · exact iff_of_false (fun hne => hne h) hmem
  · refine iff_of_true (fun heq => ?_) (List.mem_of_getElem? hlast.1)
    omega

/-- The position of a column leads to its name and back when no later column has the name. -/
theorem getColIndex_indexCol_iff (T : DataTable) :
    (∀ i < T.cols.length, T.getColIndex (T.indexCol i) = i) ↔ T.colNames.Nodup := by
  have hname : ∀ i (hi : i < T.colNames.length), T.indexCol i = T.colNames[i] := fun i hi => by
    rw [indexCol_eq, List.getElem?_eq_getElem hi, Option.getD_some]
  rw [← length_colNames]
  refine ⟨fun h => ?_, fun h i hi => ?_⟩
  · refine List.nodup_iff_injective_get.2 fun i j hij => Fin.ext ?_
    have hi := h i i.isLt
    have hj := h j j.isLt
    rw [hname _ i.isLt] at hi
    rw [hname _ j.isLt] at hj
    have heq : T.colNames[(i : ℕ)] = T.colNames[(j : ℕ)] := hij
    rw [heq, hj] at hi
    exact (Nat.cast_inj.1 hi).symm
  · rw [hname i hi, getColIndex_eq_iff]
    refine ⟨List.getElem?_eq_getElem hi, fun j hij hj => ?_⟩
    obtain ⟨hjlt, heq⟩ := List.getElem?_eq_some_iff.1 hj
    exact absurd ((List.Nodup.getElem_inj_iff h).1 heq) (Nat.ne_of_gt hij)

/-- `col_count_` is one byte. -/
theorem toNat_getColCount_iff (T : DataTable) :
    T.getColCount.toNat = T.cols.length ↔ T.cols.length < 256 := by
  rw [getColCount, UInt8.toNat_ofNat']
  refine ⟨fun h => ?_, fun h => Nat.mod_eq_of_lt h⟩
  rw [← h]
  exact Nat.mod_lt _ (by omega)

end DataTable

/-- The table that CREATE TABLE makes of columns has maps that agree exactly when no name is
used twice and there are fewer than 256 columns. -/
theorem mapsAgree_iff (t : Str) (cols : List ColumnDefinition) :
    DataTable.MapsAgree ⟨t, ofDefinitions cols⟩ ↔
      (cols.map ColumnDefinition.name).Nodup ∧ cols.length < 256 := by
  have hnames : DataTable.colNames ⟨t, ofDefinitions cols⟩ = cols.map ColumnDefinition.name := by
    rw [DataTable.colNames, ofDefinitions, List.map_map]
    rfl
  have hlen : (ofDefinitions cols).length = cols.length := List.length_map ..
  rw [← hnames, ← hlen]
  refine ⟨fun h => ?_, fun h => ?_⟩
  · exact ⟨(DataTable.getColIndex_indexCol_iff _).1 h.index,
      (DataTable.toNat_getColCount_iff _).1 h.count⟩
  · obtain ⟨hnodup, hlt⟩ := h
    have hcount := (DataTable.toNat_getColCount_iff ⟨t, ofDefinitions cols⟩).2 hlt
    exact
      { count := hcount
        keys := fun i => by rw [hcount, DataTable.mem_indexColMap]
        index := (DataTable.getColIndex_indexCol_iff _).2 hnodup
        names := DataTable.getColIndex_ne_iff _
        types := DataTable.getColType_of_nodup hnodup }

/-- `CREATE TABLE t (a INT, a LONG)` : position 0 leads to `a`, and `a` leads to position 1. -/
theorem not_mapsAgree_repeated :
    ¬DataTable.MapsAgree ⟨str "t", ofDefinitions [⟨str "a", .int⟩, ⟨str "a", .long⟩]⟩ := by
  intro h
  exact absurd (h.index 0 (by decide)) (by decide)

end UhpSql
