import UhpSql.ReadYourWrites

/-!
# SELECT with a WHERE clause

`SelectsExactly` is what `SELECT * FROM t WHERE c op 'v'` means : it answers the rows that
satisfy the clause, each once. The code never looks at the column. It answers `=` with the row
stored under the value, `>` with the first entry listed when its key is beyond that of the
value, LIKE with the entries whose keys match a glob, and every other operator with nothing.
`selectsExactly_iff` says when this is the same, one condition for each operator.
-/

namespace UhpSql

/-- SELECT is turned down, or answers exactly the rows that satisfy the clause. -/
def SelectsExactly (env : Env) (u : Uninit) (s : Server) (t : Str) (table : DataTable) (c : Str)
    (cmp : Comparison) (v : Str) : Prop :=
  ∃ r, selectRows env u s (selectWhere t c cmp v) = .ok r ∧ ∀ rows tab, r = some (rows, tab) →
    tab = t ∧ Rows.Selected (rowsOf s.dbms.getCurDB.dbName t s.store) (Satisfies table c cmp v)
      (decodeRow table) rows

/-- A set of entries has the fields of the rows that satisfy a condition : each entry those of
such a row, each such row those of an entry, and no two entries the same. -/
structure SameAnswer (rows : Str → Option Str) (sat : Str → Prop) (es : Entry → Prop) : Prop where
  row : ∀ e, es e → ∃ pk val, rows pk = some val ∧ sat val ∧ fields val = fields e.2
  entry : ∀ pk val, rows pk = some val → sat val → ∃ e, es e ∧ fields e.2 = fields val
  inj : ∀ e, es e → ∀ e', es e' → fields e.2 = fields e'.2 → e = e'

/-- The entries whose keys match a pattern. -/
def Matches (st : Store) (pattern : Str) (e : Entry) : Prop :=
  st.get e.1 = some e.2 ∧ globMatch pattern e.1

/-- When the answer is exact. For `=` : the rows that satisfy the clause are those stored
under the value. For `>` : the first entry listed, if its key is beyond that of the value,
has the fields of the one row that satisfies the clause, and else there is no such row. For
LIKE : the value is not empty and the entries that match the glob have the fields of the rows
that satisfy the clause. For the others : no row satisfies it. -/
def SelectCondition (env : Env) (dbName : Str) (st : Store) (t : Str) (table : DataTable)
    (c : Str) (cmp : Comparison) (v : Str) : Prop :=
  match cmp with
  | .eq => ∀ pk val, rowsOf dbName t st pk = some val → (Satisfies table c .eq v val ↔ pk = v)
  | .gt => SameAnswer (rowsOf dbName t st) (Satisfies table c .gt v) fun e =>
      e ∈ (env.redis.page st (dataPrefix dbName t ++ str "*") scanCount).head? ∧
        rowKey dbName t v < e.1
  | .like => v ≠ [] ∧ SameAnswer (rowsOf dbName t st) (Satisfies table c .like v)
      (Matches st (dataPrefix dbName t ++ likeLiteral v ++ str "*"))
  | cmp => ∀ pk val, rowsOf dbName t st pk = some val → ¬Satisfies table c cmp v val

/-- The decoded entries are a right answer when the entries have the fields of the rows. -/
theorem selected_decodeRow_iff {rows : Str → Option Str} {sat : Str → Prop} (table : DataTable)
    {es : List Entry} (hes : es.Nodup) :
    Rows.Selected rows sat (decodeRow table) (es.map fun e => decodeRow table e.2) ↔
      SameAnswer rows sat (· ∈ es) := by
  rw [Rows.selected_map_iff hes]
  simp only [decodeRow_eq_iff]
  exact ⟨fun h => ⟨h.1, h.2.1, h.2.2⟩, fun h => ⟨h.row, h.entry, h.inj⟩⟩

theorem selected_eq_empty_iff {rows : Str → Option Str} {sat : Str → Prop} :
    Rows.selected rows sat = ∅ ↔ ∀ pk val, rows pk = some val → ¬sat val := by
  rw [Set.eq_empty_iff_forall_notMem]
  exact ⟨fun h pk val hv hs => h pk ⟨val, hv, hs⟩, fun h pk ⟨val, hv, hs⟩ => h pk val hv hs⟩

section
variable {env : Env} {u : Uninit} {s : Server} {t : Str} {table : DataTable} {c v : Str}
  {cmp : Comparison}

theorem selectsExactly_of_eq_ok {rows : List (List TableColumn)}
    (h : selectRows env u s (selectWhere t c cmp v) = .ok (some (rows, t))) :
    SelectsExactly env u s t table c cmp v ↔
      Rows.Selected (rowsOf s.dbms.getCurDB.dbName t s.store) (Satisfies table c cmp v)
        (decodeRow table) rows := by
  rw [SelectsExactly, h]
  constructor
  · rintro ⟨r, hr, hspec⟩
    obtain rfl := Except.ok.inj hr
    exact (hspec rows t rfl).2
  · refine fun hsel => ⟨_, rfl, fun rows' tab hr => ?_⟩
    obtain ⟨rfl, rfl⟩ := Prod.mk.inj (Option.some.inj hr)
    exact ⟨rfl, hsel⟩

/-- The decoded reply to a scan is a right answer when the entries that match have the fields of the
rows. -/
theorem selected_page_iff (henv : env.redis.FullScan) {st : Store} {rows : Str → Option Str}
    {sat : Str → Prop} {pattern : Str} {count : ℕ} (table : DataTable) :
    Rows.Selected rows sat (decodeRow table)
        ((env.redis.page st pattern count).map fun e => decodeRow table e.2) ↔
      SameAnswer rows sat (Matches st pattern) := by
  rw [selected_decodeRow_iff table ((henv.full ..).nodup_iff.2 (Store.nodup_matching ..))]
  refine iff_of_eq (congrArg (SameAnswer _ _) (funext fun e => ?_))
  rw [eq_iff_iff]
  exact henv.mem_page

variable (hT : s.dbms.getCurDB.getTable t = some table)
include hT

theorem selectsExactly_eq_iff (hkey : KeyedByFirst s.dbms.getCurDB.dbName t s.store) :
    SelectsExactly env u s t table c .eq v ↔ ∀ pk val,
      rowsOf s.dbms.getCurDB.dbName t s.store pk = some val →
        (Satisfies table c .eq v val ↔ pk = v) := by
  rw [selectsExactly_of_eq_ok (selectRows_eq env u c v hT)]
  cases h : rowsOf s.dbms.getCurDB.dbName t s.store v with
  | none =>
    rw [Option.toList_none, List.map_nil, Rows.selected_nil_iff, selected_eq_empty_iff]
    refine forall₃_congr fun pk val hv => ?_
    have hne : pk ≠ v := by
      rintro rfl
      exact absurd (h.symm.trans hv) nofun
    simp [hne]
  | some val₀ =>
    rw [Option.toList_some, List.map_singleton,
      Rows.selected_singleton_of_injective (hkey.decodeRow_injective table) h]
    constructor
    · intro hsel pk val hv
      exact (Rows.mem_selected_of_some hv).symm.trans (by rw [hsel, Set.mem_singleton_iff])
    · intro hall
      ext pk
      rw [Set.mem_singleton_iff]
      constructor
      · rintro ⟨val, hv, hs⟩
        exact (hall pk val hv).1 hs
      · rintro rfl
        exact ⟨val₀, h, (hall pk val₀ h).2 rfl⟩

variable (henv : env.redis.FullScan)
include henv

theorem selectsExactly_gt_iff :
    SelectsExactly env u s t table c .gt v ↔
      SelectCondition env s.dbms.getCurDB.dbName s.store t table c .gt v := by
  rw [selectsExactly_of_eq_ok (selectRows_gt u c v henv hT), selected_decodeRow_iff]
  · rw [SelectCondition]
    refine iff_of_eq (congrArg (SameAnswer _ _) (funext fun e => ?_))
    cases env.redis.page s.store (dataPrefix s.dbms.getCurDB.dbName t ++ str "*") scanCount with
    | nil => simp
    | cons e' es =>
      simp [List.mem_filter, eq_comm]
  · exact (((henv.full ..).nodup_iff.2 (Store.nodup_matching ..)).sublist
      (List.take_sublist ..)).filter _

theorem selectsExactly_like_iff :
    SelectsExactly env u s t table c .like v ↔
      SelectCondition env s.dbms.getCurDB.dbName s.store t table c .like v := by
  by_cases hv : v = []
  · subst hv
    refine ⟨fun ⟨r, hr, _⟩ => ?_, fun h => absurd rfl h.1⟩
    rw [selectRows_like_nil u c hT] at hr
    exact absurd hr nofun
  · rw [selectsExactly_of_eq_ok (selectRows_like u c v henv hT hv), selected_page_iff henv,
      SelectCondition, and_iff_right hv]

end

variable {env : Env} {s : Server} {t : Str} {table : DataTable}

/-- SELECT on a table keyed by its first column is exact under `SelectCondition` only. -/
theorem selectsExactly_iff (henv : env.redis.FullScan) (u : Uninit)
    (hT : s.dbms.getCurDB.getTable t = some table)
    (hkey : KeyedByFirst s.dbms.getCurDB.dbName t s.store) (c : Str) (cmp : Comparison) (v : Str) :
    SelectsExactly env u s t table c cmp v ↔
      SelectCondition env s.dbms.getCurDB.dbName s.store t table c cmp v := by
  by_cases heq : cmp = .eq
  · subst heq
    exact selectsExactly_eq_iff hT hkey
  by_cases hgt : cmp = .gt
  · subst hgt
    exact selectsExactly_gt_iff hT henv
  by_cases hlike : cmp = .like
  · subst hlike
    exact selectsExactly_like_iff hT henv
  rw [selectsExactly_of_eq_ok (selectRows_of_unknown env u c v hT heq hgt hlike),
    Rows.selected_nil_iff, selected_eq_empty_iff]
  cases cmp <;> first | contradiction | rfl

/-- A SELECT by key. -/
theorem selectsExactly_tom : SelectsExactly .whole .zero tomServer (str "classtab")
    ⟨str "classtab", ofDefinitions classtab⟩ (str "Name") .eq (str "Tom") := by
  refine (selectsExactly_iff Redis.whole_fullScan .zero getTable_tomServer
    keyedByFirst_tomServer _ _ _).2 fun pk val hval => ?_
  rw [show tomServer.dbms.getCurDB.dbName = defaultDatabaseName from rfl, rowsOf_tomServer] at hval
  by_cases hpk : pk = str "Tom"
  · rw [hpk, Function.update_self, Option.some.injEq] at hval
    rw [← hval, hpk]
    decide
  · rw [Function.update_of_ne hpk] at hval
    exact absurd hval nofun

/-- A WHERE clause on a column that is not the key misses the row. -/
theorem not_selectsExactly_class : Reachable Env.whole tomServer ∧
    KeyedByFirst defaultDatabaseName (str "classtab") tomServer.store ∧
    ¬SelectsExactly .whole .zero tomServer (str "classtab")
      ⟨str "classtab", ofDefinitions classtab⟩ (str "Class") .eq (str "B") := by
  refine ⟨reachable_tomServer, keyedByFirst_tomServer, fun h => ?_⟩
  have hval : rowsOf tomServer.dbms.getCurDB.dbName (str "classtab") tomServer.store (str "Tom") =
      some (stringsJoin [str "Tom", str "B", str "93"] (str "$$")) := by
    rw [show tomServer.dbms.getCurDB.dbName = defaultDatabaseName from rfl, rowsOf_tomServer,
      Function.update_self]
  have hiff := (selectsExactly_eq_iff getTable_tomServer keyedByFirst_tomServer).1 h _ _ hval
  exact absurd hiff (by decide)

end UhpSql
