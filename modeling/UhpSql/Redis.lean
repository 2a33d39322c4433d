import Mathlib.Data.List.AList
import UhpSql.Glob
import UhpSql.StringUtils

/-!
# The pmem redis

The store is a finite map with SET, GET and DEL. SCAN is a parameter of the model
(`Redis`) : the server answers a cursor, a pattern and a page size with the next cursor and
the entries of a page, keys and values alternating (`flat`).

Two readings of SCAN are used. Under `Redis.FullScan` one reply lists every entry whose key
matches the pattern, as the executor and the catalog assume. Under `Redis.PagedScan` a reply
is one page of an iteration that is complete once the cursor is back at `0`.
-/

namespace UhpSql

/-- Keys and values of the store. -/
abbrev Store :=
  AList fun _ : Str => Str

/-- A key with its value. -/
abbrev Entry :=
  Str × Str

namespace Store

/-- `GET k`. -/
def get (st : Store) (k : Str) : Option Str :=
  st.lookup k

/-- `SET k v`. -/
def set (st : Store) (k v : Str) : Store :=
  st.insert k v

/-- `DEL k`. -/
def del (st : Store) (k : Str) : Store :=
  st.erase k

@[simp] theorem get_empty (k : Str) : get ∅ k = none :=
  rfl

@[simp] theorem get_set_self (st : Store) (k v : Str) : (st.set k v).get k = some v :=
  AList.lookup_insert st

theorem get_set_of_ne (st : Store) (v : Str) {k k' : Str} (h : k' ≠ k) :
    (st.set k v).get k' = st.get k' :=
  AList.lookup_insert_ne h

theorem get_set (st : Store) (k v k' : Str) :
    (st.set k v).get k' = if k' = k then some v else st.get k' := by
  split_ifs with h
  · rw [h, get_set_self]
  · exact get_set_of_ne st v h

/-- SET of one value at either of two keys is the same when both have this value already. -/
theorem get_set_eq_get_set_iff {st : Store} {k₁ k₂ v : Str} :
    (∀ k, (st.set k₁ v).get k = (st.set k₂ v).get k) ↔
      k₁ = k₂ ∨ st.get k₁ = some v ∧ st.get k₂ = some v := by
  refine ⟨fun h => ?_, fun h k => ?_⟩
  · refine or_iff_not_imp_left.2 fun hne => ⟨?_, ?_⟩
    · rw [← get_set_of_ne st v hne, ← h, get_set_self]
    · rw [← get_set_of_ne st v (Ne.symm hne), h, get_set_self]
  · rcases h with rfl | ⟨h₁, h₂⟩
    · rfl
    · rw [get_set, get_set]
      split_ifs with hk₁ hk₂ hk₂
      · rfl
      · rw [hk₁, h₁]
      · rw [hk₂, h₂]
      · rfl

@[simp] theorem get_del_self (st : Store) (k : Str) : (st.del k).get k = none :=
  AList.lookup_erase k st

theorem get_del_of_ne (st : Store) {k k' : Str} (h : k' ≠ k) :
    (st.del k).get k' = st.get k' :=
  AList.lookup_erase_ne h

theorem get_del (st : Store) (k k' : Str) :
    (st.del k).get k' = if k' = k then none else st.get k' := by
  split_ifs with h
  · rw [h, get_del_self]
  · exact get_del_of_ne st h

/-- DEL of a key that is not there changes nothing. -/
theorem del_eq_self_iff {st : Store} {k : Str} : st.del k = st ↔ st.get k = none := by
  refine ⟨fun h => ?_, fun h => ?_⟩
  · rw [← h, get_del_self]
  · exact AList.ext (List.kerase_of_notMem_keys (AList.lookup_eq_none.1 h))

/-- The entries of the store, in no particular order. -/
def toList (st : Store) : List Entry :=
  st.entries.map fun e => (e.1, e.2)

theorem mem_toList {st : Store} {k v : Str} : (k, v) ∈ st.toList ↔ st.get k = some v := by
  rw [get, ← Option.mem_def, AList.mem_lookup_iff, toList, List.mem_map]
  constructor
  · rintro ⟨⟨k', v'⟩, h, heq⟩
    obtain ⟨rfl, rfl⟩ := Prod.mk.inj heq
    exact h
  · exact fun h => ⟨⟨k, v⟩, h, rfl⟩

/-- No key is listed twice. -/
theorem nodup_keys (st : Store) : (st.toList.map Prod.fst).Nodup := by
  rw [toList, List.map_map]
  exact st.nodupKeys

theorem nodup_toList (st : Store) : st.toList.Nodup :=
  st.nodup_keys.of_map _

end Store

/-! ## SCAN -/

/-- The special characters of a `MATCH` pattern. -/
def globSyntax : Glob.Syntax CChar where
  star := CChar.ofChar '*'
  any := CChar.ofChar '?'
  setOpen := CChar.ofChar '['
  setClose := CChar.ofChar ']'
  caret := CChar.ofChar '^'
  dash := CChar.ofChar '-'
  escape := CChar.ofChar '\\'

/-- Whether a `MATCH` pattern matches a key. -/
def globMatch (pattern key : Str) : Bool :=
  Glob.glob globSyntax pattern key

/-- The entries whose keys match a pattern. -/
def Store.matching (st : Store) (pattern : Str) : List Entry :=
  st.toList.filter fun e => globMatch pattern e.1

theorem Store.mem_matching {st : Store} {pattern k v : Str} :
    (k, v) ∈ st.matching pattern ↔ st.get k = some v ∧ globMatch pattern k := by
  rw [matching, List.mem_filter, mem_toList]

theorem Store.nodup_matching (st : Store) (pattern : Str) : (st.matching pattern).Nodup :=
  st.nodup_toList.filter _

/-- Keys and values alternating, as in `reply->element[1]`. -/
def flat (es : List Entry) : List Str :=
  es.flatMap fun e => [e.1, e.2]

@[simp] theorem flat_nil : flat [] = [] :=
  rfl

@[simp] theorem flat_cons (e : Entry) (es : List Entry) : flat (e :: es) = e.1 :: e.2 :: flat es :=
  rfl

@[simp] theorem length_flat (es : List Entry) : (flat es).length = 2 * es.length := by
  induction es with
  | nil => rfl
  | cons e es ih => rw [flat_cons, List.length_cons, List.length_cons, ih, List.length_cons]; omega

/-- The entries of a page. -/
def pairs : List Str → List Entry
  | k :: v :: rest => (k, v) :: pairs rest
  | _ => []

@[simp] theorem pairs_flat (es : List Entry) : pairs (flat es) = es := by
  induction es with
  | nil => rfl
  | cons e es ih => rw [flat_cons, pairs, ih]

/-- A reply to SCAN : the next cursor, and the array of keys and values. -/
structure ScanReply where
  cursor : ℕ
  element : List Str

/-- The server's answer to `SCAN cursor MATCH pattern COUNT count`. -/
structure Redis where
  scan : Store → (cursor : ℕ) → (pattern : Str) → (count : ℕ) → ScanReply

namespace Redis

/-- The page size of a SCAN without `COUNT`. -/
def defaultCount : ℕ :=
  10

/-- The entries in the first reply. -/
def page (R : Redis) (st : Store) (pattern : Str) (count : ℕ) : List Entry :=
  pairs (R.scan st 0 pattern count).element

/-- Replies alternate keys and values. Cursor `0` is the only one the server asks for. -/
def Alternates (R : Redis) : Prop :=
  ∀ st pattern count, ∃ es, (R.scan st 0 pattern count).element = flat es

theorem Alternates.element_eq {R : Redis} (h : R.Alternates) (st : Store) (pattern : Str)
    (count : ℕ) : (R.scan st 0 pattern count).element = flat (R.page st pattern count) := by
  obtain ⟨es, hes⟩ := h st pattern count
  rw [page, hes, pairs_flat]

/-- A reply lists entries that are stored and match. -/
structure Sound (R : Redis) : Prop where
  alternates : R.Alternates
  subset : ∀ st pattern count, ∀ e ∈ R.page st pattern count, e ∈ st.matching pattern

/-- One reply lists every matching entry, in any order. -/
structure FullScan (R : Redis) : Prop where
  alternates : ∀ st pattern count, (R.scan st 0 pattern count).element =
    flat (R.page st pattern count)
  full : ∀ st pattern count, (R.page st pattern count).Perm (st.matching pattern)

/-- What a reply lists, and in which order, depends on the matching entries only. -/
def Settled (R : Redis) : Prop :=
  ∀ st st' pattern count, st.matching pattern = st'.matching pattern →
    R.page st pattern count = R.page st' pattern count

theorem FullScan.toAlternates {R : Redis} (h : R.FullScan) : R.Alternates :=
  fun st pattern count => ⟨_, h.alternates st pattern count⟩

theorem FullScan.mem_page {R : Redis} (h : R.FullScan) {st : Store} {pattern k v : Str}
    {count : ℕ} :
    (k, v) ∈ R.page st pattern count ↔ st.get k = some v ∧ globMatch pattern k := by
  rw [(h.full st pattern count).mem_iff, Store.mem_matching]

theorem FullScan.toSound {R : Redis} (h : R.FullScan) : R.Sound :=
  ⟨h.toAlternates, fun st pattern count _ he => (h.full st pattern count).mem_iff.1 he⟩

/-- `R.Iteration st pattern count c es` : the replies from cursor `c` up to cursor `0` list
`es`. -/
inductive Iteration (R : Redis) (st : Store) (pattern : Str) (count : ℕ) : ℕ → List Entry → Prop
  | last {c : ℕ} {es : List Entry} :
    R.scan st c pattern count = ⟨0, flat es⟩ → Iteration R st pattern count c es
  | more {c c' : ℕ} {es rest : List Entry} :
    R.scan st c pattern count = ⟨c', flat es⟩ → c' ≠ 0 →
      Iteration R st pattern count c' rest → Iteration R st pattern count c (es ++ rest)

/-- The cursor comes back to `0` once every matching entry has been listed. How many
entries a page holds is up to the server. -/
def PagedScan (R : Redis) : Prop :=
  ∀ st pattern count, ∃ es, R.Iteration st pattern count 0 es ∧
    ∀ e, e ∈ es ↔ e ∈ st.matching pattern

/-- The first page is part of the listing. -/
theorem PagedScan.toSound {R : Redis} (h : R.PagedScan) : R.Sound := by
  have hfirst : ∀ st pattern count, ∃ es, (R.scan st 0 pattern count).element = flat es ∧
      ∀ e ∈ es, e ∈ st.matching pattern := by
    intro st pattern count
    obtain ⟨all, hit, hall⟩ := h st pattern count
    cases hit with
    | last hscan => exact ⟨all, by rw [hscan], fun e he => (hall e).1 he⟩
    | @more _ c' es rest hscan _ _ =>
      exact ⟨es, by rw [hscan], fun e he => (hall e).1 (List.mem_append_left rest he)⟩
  refine ⟨fun st pattern count => ?_, fun st pattern count e he => ?_⟩
  · obtain ⟨es, hes, -⟩ := hfirst st pattern count
    exact ⟨es, hes⟩
  · obtain ⟨es, hes, hsub⟩ := hfirst st pattern count
    rw [page, hes, pairs_flat] at he
    exact hsub e he

/-- The server that lists every matching entry at once, in the order of the store. -/
def whole : Redis where
  scan st _ pattern _ := ⟨0, flat (st.matching pattern)⟩

theorem page_whole (st : Store) (pattern : Str) (count : ℕ) :
    whole.page st pattern count = st.matching pattern :=
  pairs_flat _

theorem whole_alternates : whole.Alternates :=
  fun _ _ _ => ⟨_, rfl⟩

theorem whole_fullScan : whole.FullScan where
  alternates st pattern count := by rw [page_whole]; rfl
  full st pattern count := by rw [page_whole]

theorem whole_settled : whole.Settled := fun st st' pattern count h => by
  rw [page_whole, page_whole, h]

/-- The server that lists the matching entries the other way round until `key` is stored. -/
def turning (key : Str) : Redis where
  scan st _ pattern _ :=
    ⟨0, flat (if (st.get key).isSome then st.matching pattern else (st.matching pattern).reverse)⟩

theorem page_turning (key : Str) (st : Store) (pattern : Str) (count : ℕ) :
    (turning key).page st pattern count =
      if (st.get key).isSome then st.matching pattern else (st.matching pattern).reverse :=
  pairs_flat _

theorem turning_fullScan (key : Str) : (turning key).FullScan where
  alternates st pattern count := by rw [page_turning]; rfl
  full st pattern count := by
    rw [page_turning]
    split_ifs
    · rfl
    · exact List.reverse_perm _

/-- A whole listing is an iteration of one page. -/
theorem FullScan.pagedScan {R : Redis} (h : R.FullScan)
    (hc : ∀ st pattern count, (R.scan st 0 pattern count).cursor = 0) : R.PagedScan := by
  intro st pattern count
  refine ⟨R.page st pattern count, .last ?_, fun e => (h.full st pattern count).mem_iff⟩
  rw [← h.alternates st pattern count]
  exact congrArg (ScanReply.mk · _) (hc st pattern count)

end Redis

/-! ## A change of one key and the entries of other keys -/

theorem Store.filter_kerase (q : Str → Bool) {k : Str} (h : ¬q k) :
    ∀ es : List ((_ : Str) × Str),
      (es.kerase k).filter (fun e => q e.1) = es.filter fun e => q e.1
  | [] => rfl
  | e :: es => by
    by_cases he : k = e.1
    · rw [List.kerase_cons_eq he, List.filter_cons_of_neg (he ▸ h)]
    · rw [List.kerase_cons_ne he, List.filter_cons, List.filter_cons, filter_kerase q h es]

theorem Store.matching_eq (st : Store) (pattern : Str) :
    st.matching pattern =
      (st.entries.filter fun e => globMatch pattern e.1).map fun e => (e.1, e.2) := by
  rw [matching, toList, List.filter_map]
  rfl

/-- A pattern that does not match a key lists the same entries before and after SET. -/
theorem Store.matching_set {st : Store} {k v pattern : Str} (h : ¬globMatch pattern k) :
    (st.set k v).matching pattern = st.matching pattern := by
  rw [matching_eq, matching_eq, set, AList.entries_insert, List.filter_cons_of_neg (by exact h),
    filter_kerase _ h]

/-- Nor does DEL change what it lists. -/
theorem Store.matching_del {st : Store} {k pattern : Str} (h : ¬globMatch pattern k) :
    (st.del k).matching pattern = st.matching pattern := by
  rw [matching_eq, matching_eq, del, show (st.erase k).entries = st.entries.kerase k from rfl,
    filter_kerase _ h]

end UhpSql
