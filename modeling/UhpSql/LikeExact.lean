import UhpSql.SelectExact

/-!
# LIKE on the key

`LikePattern` is a pattern with at most one `%`, at its end. `LikesExactly` : SELECT with LIKE on
the key answers the rows whose keys begin with the literal part, or without a `%` the row under
it. The code drops the `%` and hands the rest to SCAN with a `*` behind it, so the special
characters of a glob keep their meaning and a pattern without `%` stands for a beginning too.
`likesExactly_iff` says when the answer is right.
-/

namespace UhpSql

/-! ## Patterns -/

/-- A literal part without `%` and `_`, with a `%` behind it or not. -/
structure LikePattern where
  stem : Str
  percent : Bool
  literal : ∀ c ∈ stem, c ≠ CChar.ofChar '%' ∧ c ≠ CChar.ofChar '_'

namespace LikePattern

/-- The pattern as it is written. -/
def text (P : LikePattern) : Str :=
  if P.percent then P.stem ++ str "%" else P.stem

/-- What the pattern says of a key. -/
def Matches (P : LikePattern) (key : Str) : Prop :=
  if P.percent then P.stem <+: key else key = P.stem

instance (P : LikePattern) (key : Str) : Decidable (P.Matches key) := by
  unfold Matches
  infer_instance

end LikePattern

/-- A stretch of a pattern with no special character in it stands for itself. -/
theorem likeMatch_append {p : Str} (hp : ∀ c ∈ p, c ≠ CChar.ofChar '%' ∧ c ≠ CChar.ofChar '_')
    (q : Str) : ∀ s : Str, Comparison.likeMatch (fun a b => a = b) (p ++ q) s ↔
      ∃ r, s = p ++ r ∧ Comparison.likeMatch (fun a b => a = b) q r := by
  induction p with
  | nil => simp
  | cons a p ih =>
    obtain ⟨⟨hpercent, hany⟩, hp⟩ := List.forall_mem_cons.1 hp
    intro s
    cases s with
    | nil => simp [Comparison.likeMatch, hpercent]
    | cons c s =>
      rw [List.cons_append, Comparison.likeMatch, if_neg hpercent]
      simp only [decide_eq_false hany, Bool.false_or, Bool.and_eq_true, decide_eq_true_eq, ih hp,
        List.cons_append, List.cons.injEq, and_assoc, exists_and_left, @eq_comm _ c a]

/-- What the pattern says is what LIKE means. -/
theorem LikePattern.holds_iff (P : LikePattern) (key : Str) :
    Comparison.like.holds key P.text ↔ P.Matches key := by
  unfold Comparison.holds text Matches
  cases P.percent with
  | true =>
    simp only [if_true, likeMatch_append P.literal]
    refine ⟨fun ⟨r, hr, _⟩ => hr ▸ List.prefix_append .., fun ⟨r, hr⟩ => ⟨r, hr.symm, ?_⟩⟩
    have htails : [] ∈ r.tails := (List.mem_tails ..).2 List.nil_suffix
    exact List.any_eq_true.2 ⟨[], htails, rfl⟩
  | false =>
    have hstem := likeMatch_append P.literal [] key
    rw [List.append_nil] at hstem
    simp only [Bool.false_eq_true, if_false, hstem]
    refine ⟨fun ⟨r, hr, hnil⟩ => ?_, fun h => ⟨[], by rw [h, List.append_nil], rfl⟩⟩
    rw [hr, List.isEmpty_iff.1 hnil, List.append_nil]

/-- The code scans for the literal part, unless there is nothing. -/
theorem LikePattern.likeLiteral_text (P : LikePattern) : likeLiteral P.text = P.stem := by
  unfold text
  cases P.percent with
  | true => exact likeLiteral_percent P.stem
  | false =>
    refine if_neg fun h => ?_
    exact (P.literal _ (List.mem_of_getLast? h)).1 rfl

/-! ## The rows a scan lists -/

/-- Rows keyed by their first field have different fields. -/
theorem KeyedByFirst.eq_of_fields_eq {dbName t : Str} {st : Store} (hkey : KeyedByFirst dbName t st)
    {pk val pk' val' : Str} (h : rowsOf dbName t st pk = some val)
    (h' : rowsOf dbName t st pk' = some val') (heq : fields val = fields val') : pk = pk' := by
  rw [← hkey pk val h, ← hkey pk' val' h', fieldAt, fieldAt, heq]

section
variable {dbName t : Str} {st : Store} (hplain : Plain (dataPrefix dbName t))
include hplain

/-- Where the names have no special character, a scan of a table lists rows of this table. -/
theorem matches_dataPrefix_iff {q : Str} {e : Entry} :
    Matches st (dataPrefix dbName t ++ q) e ↔ ∃ pk val, e = (rowKey dbName t pk, val) ∧
      rowsOf dbName t st pk = some val ∧ globMatch q pk := by
  rw [Matches, globMatch_append hplain]
  constructor
  · rintro ⟨hget, pk, hpk, hglob⟩
    rw [hpk] at hget
    exact ⟨pk, e.2, Prod.ext hpk rfl, hget, hglob⟩
  · rintro ⟨pk, val, rfl, hval, hglob⟩
    exact ⟨hval, pk, rfl, hglob⟩

/-- The scan lists the rows whose keys satisfy a condition when the keys that match the glob are
those that satisfy it. -/
theorem sameAnswer_matches_iff (hkey : KeyedByFirst dbName t st) {sat : Str → Prop} {q : Str} :
    SameAnswer (rowsOf dbName t st) (fun val => sat (fieldAt val 0))
        (Matches st (dataPrefix dbName t ++ q)) ↔
      ∀ pk val, rowsOf dbName t st pk = some val → (globMatch q pk ↔ sat pk) := by
  constructor
  · intro h pk val hval
    constructor
    · intro hglob
      obtain ⟨pk', val', hval', hsat, heq⟩ :=
        h.row _ ((matches_dataPrefix_iff hplain).2 ⟨pk, val, rfl, hval, hglob⟩)
      rwa [hkey pk' val' hval', hkey.eq_of_fields_eq hval' hval heq] at hsat
    · intro hsat
      have hsat' : sat (fieldAt val 0) := by rwa [hkey pk val hval]
      obtain ⟨e, he, heq⟩ := h.entry pk val hval hsat'
      obtain ⟨pk', val', rfl, hval', hglob⟩ := (matches_dataPrefix_iff hplain).1 he
      rwa [hkey.eq_of_fields_eq hval' hval heq] at hglob
  · intro h
    refine ⟨fun e he => ?_, fun pk val hval hsat => ?_, fun e he e' he' heq => ?_⟩
    · obtain ⟨pk, val, rfl, hval, hglob⟩ := (matches_dataPrefix_iff hplain).1 he
      refine ⟨pk, val, hval, ?_, rfl⟩
      rw [hkey pk val hval]
      exact (h pk val hval).1 hglob
    · rw [hkey pk val hval] at hsat
      have hmatch := (matches_dataPrefix_iff hplain).2 ⟨pk, val, rfl, hval, (h pk val hval).2 hsat⟩
      exact ⟨_, hmatch, rfl⟩
    · obtain ⟨pk, val, rfl, hval, -⟩ := (matches_dataPrefix_iff hplain).1 he
      obtain ⟨pk', val', rfl, hval', -⟩ := (matches_dataPrefix_iff hplain).1 he'
      obtain rfl := hkey.eq_of_fields_eq hval hval' heq
      obtain rfl := Option.some.inj (hval.symm.trans hval')
      rfl

end

/-! ## The answer to LIKE -/

/-- SELECT with LIKE answers the rows whose keys the pattern describes, each once. The key of a
row is its first field. -/
def LikesExactly (env : Env) (u : Uninit) (s : Server) (t : Str) (table : DataTable) (c : Str)
    (P : LikePattern) : Prop :=
  ∃ rows, selectRows env u s (selectWhere t c .like P.text) = .ok (some (rows, t)) ∧
    Rows.Selected (rowsOf s.dbms.getCurDB.dbName t s.store) (fun val => P.Matches (fieldAt val 0))
      (decodeRow table) rows

/-- The pattern is not empty, and the glob made of it matches the keys of the table that it
describes and no others. Where the name of the database or table is a glob itself, the entries
that match have the fields of these rows. -/
def LikeCondition (dbName : Str) (st : Store) (t : Str) (P : LikePattern) : Prop :=
  P.text ≠ [] ∧
    if Plain (dataPrefix dbName t) then
      ∀ pk val, rowsOf dbName t st pk = some val →
        (globMatch (P.stem ++ str "*") pk ↔ P.Matches pk)
    else SameAnswer (rowsOf dbName t st) (fun val => P.Matches (fieldAt val 0))
      (Matches st (dataPrefix dbName t ++ P.stem ++ str "*"))

/-- A literal part without special characters matches what begins with it, which is what the
pattern says when it ends with `%`. Without it no key may go on after the literal part. -/
theorem globMatch_stem_iff {P : LikePattern} (hplain : Plain P.stem) (pk : Str) :
    (globMatch (P.stem ++ str "*") pk ↔ P.Matches pk) ↔
      P.percent ∨ (P.stem <+: pk → pk = P.stem) := by
  rw [globMatch_plain hplain, LikePattern.Matches]
  cases P.percent with
  | true => simp
  | false =>
    simp only [Bool.false_eq_true, if_false, false_or]
    exact ⟨fun h => h.1, fun h => ⟨h, fun hpk => hpk ▸ List.prefix_rfl⟩⟩

/-- LIKE on the key of a table keyed by its first column is exact under `LikeCondition` only. -/
theorem likesExactly_iff {env : Env} (henv : env.redis.FullScan) (u : Uninit) {s : Server} {t : Str}
    {table : DataTable} (hT : s.dbms.getCurDB.getTable t = some table)
    (hkey : KeyedByFirst s.dbms.getCurDB.dbName t s.store) (c : Str) (P : LikePattern) :
    LikesExactly env u s t table c P ↔ LikeCondition s.dbms.getCurDB.dbName s.store t P := by
  unfold LikesExactly LikeCondition
  by_cases hv : P.text = []
  · refine iff_of_false (fun ⟨rows, hrows, _⟩ => ?_) fun h => h.1 hv
    rw [hv, selectRows_like_nil u c hT] at hrows
    cases hrows
  rw [selectRows_like u c P.text henv hT hv, P.likeLiteral_text, and_iff_right hv]
  simp only [Except.ok.injEq, Option.some.injEq, Prod.mk.injEq, and_true, exists_eq_left']
  rw [selected_page_iff henv]
  split_ifs with hplain
  · rw [List.append_assoc, sameAnswer_matches_iff hplain hkey]
  · rfl

/-- `'Tom%'`. -/
def tomPercent : LikePattern :=
  ⟨str "Tom", true, by decide⟩

theorem plain_classtab : Plain (dataPrefix defaultDatabaseName (str "classtab")) := by
  decide

theorem likesExactly_tom : LikesExactly .whole .zero tomServer (str "classtab")
    ⟨str "classtab", ofDefinitions classtab⟩ (str "Name") tomPercent := by
  refine (likesExactly_iff Redis.whole_fullScan .zero getTable_tomServer keyedByFirst_tomServer
    _ _).2 ⟨by decide, ?_⟩
  have hplain : Plain (dataPrefix tomServer.dbms.getCurDB.dbName (str "classtab")) := plain_classtab
  rw [if_pos hplain]
  exact fun pk val _ => (globMatch_stem_iff (by decide) pk).2 (Or.inl rfl)

/-- `'To'`. -/
def toLiteral : LikePattern :=
  ⟨str "To", false, by decide⟩

/-- Without a `%` a beginning of the key is enough. -/
theorem not_likesExactly_to : Reachable Env.whole tomServer ∧
    KeyedByFirst defaultDatabaseName (str "classtab") tomServer.store ∧
    ¬LikesExactly .whole .zero tomServer (str "classtab")
      ⟨str "classtab", ofDefinitions classtab⟩ (str "Name") toLiteral := by
  refine ⟨reachable_tomServer, keyedByFirst_tomServer, fun ⟨rows, hrows, hsel⟩ => ?_⟩
  have htom : selectRows .whole .zero tomServer (selectWhere (str "classtab") (str "Name") .like
      toLiteral.text) = .ok (some ([[⟨str "Name", .varchar, str "Tom"⟩,
        ⟨str "Class", .varchar, str "B"⟩, ⟨str "Score", .int, str "93"⟩]], str "classtab")) := rfl
  obtain ⟨rfl, -⟩ := Prod.mk.inj (Option.some.inj (Except.ok.inj (htom.symm.trans hrows)))
  obtain ⟨pk, val, hval, hmatch, -⟩ := (hsel.mem _).1 (List.mem_singleton_self _)
  -- no row is stored under `To`
  have hpk : pk = str "To" := (keyedByFirst_tomServer pk val hval).symm.trans hmatch
  have hval' : rowsOf defaultDatabaseName (str "classtab") tomServer.store (str "To") = some val :=
    hpk ▸ hval
  rw [rowsOf_tomServer] at hval'
  cases hval'

end UhpSql
