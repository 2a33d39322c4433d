import Mathlib.Data.List.GetD
import Mathlib.Data.List.Induction
import UhpSql.Delimited

/-!
# What is read of fields that do not come back

`split_join_iff` says which fields come back from the text they are joined to. This is about all
others. Every text has its pieces (`exists_separated`), and `split` shows each of them without
blanks, the last one only if there is something in it (`split_join_of_cut`).

For a delimiter that doubles a character `c`, the delimiters that `join` writes do not change how
the other `c` pair off. `length_split_join` counts the fields : one for each field written, one
more for each pair of `c` in the fields written one after the other, and one less where the text
ends with a pair.

`Shows` relates the fields written to those shown. `shows_set_iff` : when one field of a row that
was read is replaced, it is shown as it is under the condition of `split_join_iff` on this field,
if no other field ends in half a delimiter.
-/

namespace Delimited

variable {α : Type*} {blank : α → Bool}

/-! ## Blanks around a delimiter -/

theorem dropWhile_append_of_head {d b : List α} (hd : d ≠ []) (h : ∀ a ∈ d.head?, ¬blank a) :
    ∀ s : List α, (s ++ d ++ b).dropWhile blank = s.dropWhile blank ++ d ++ b
  | [] => by
    obtain ⟨a, d, rfl⟩ := List.exists_cons_of_ne_nil hd
    simpa using h a rfl
  | a :: s => by
    have ih := dropWhile_append_of_head (b := b) hd h s
    by_cases ha : blank a
    · simp only [List.cons_append, List.dropWhile_cons_of_pos ha, ih]
    · simp only [List.cons_append, List.dropWhile_cons_of_neg ha]

theorem rdropWhile_append_of_getLast {p : List α} (h : ∀ a ∈ p.getLast?, ¬blank a) (b : List α) :
    (p ++ b).rdropWhile blank = p ++ b.rdropWhile blank := by
  induction b using List.reverseRecOn with
  | nil =>
    rw [List.append_nil, List.rdropWhile_nil, List.append_nil, List.rdropWhile_eq_self_iff]
    exact fun hne => h _ (List.getLast_mem_getLast? hne)
  | append_singleton b a ih =>
    rw [← List.append_assoc]
    by_cases ha : blank a
    · rw [List.rdropWhile_concat_pos _ _ _ ha, List.rdropWhile_concat_pos _ _ _ ha, ih]
    · rw [List.rdropWhile_concat_neg _ _ _ ha, List.rdropWhile_concat_neg _ _ _ ha,
        List.append_assoc]

/-- Blanks are trimmed at the two ends, and a delimiter in between has none at its own. -/
theorem trim_append {d : List α} (hd : d ≠ []) (hdt : trim blank d = d) (s b : List α) :
    trim blank (s ++ d ++ b) = s.dropWhile blank ++ d ++ b.rdropWhile blank := by
  obtain ⟨hhead, hlast⟩ := trim_eq_self_iff.1 hdt
  rw [trim, dropWhile_append_of_head hd hhead, rdropWhile_append_of_getLast]
  rwa [List.getLast?_append_of_ne_nil _ hd]

theorem trim_dropWhile (s : List α) : trim blank (s.dropWhile blank) = trim blank s := by
  rw [trim, trim, List.dropWhile_idempotent]

theorem trim_rdropWhile (s : List α) : trim blank (s.rdropWhile blank) = trim blank s := by
  induction s using List.reverseRecOn with
  | nil => rfl
  | append_singleton s a ih =>
    by_cases ha : blank a
    · rw [List.rdropWhile_concat_pos _ _ _ ha, ih, trim, trim, List.dropWhile_append]
      split_ifs with hs
      · rw [List.isEmpty_iff.1 hs, List.dropWhile_cons_of_pos ha, List.dropWhile_nil]
      · rw [List.rdropWhile_concat_pos _ _ _ ha]
    · rw [List.rdropWhile_concat_neg _ _ _ ha]

theorem trim_eq_nil_iff {s : List α} : trim blank s = [] ↔ ∀ a ∈ s, blank a := by
  rw [← trim_rdropWhile]
  constructor
  · intro h a ha
    rw [trim_rdropWhile, trim, List.rdropWhile_eq_nil_iff] at h
    by_contra hb
    have hmem : a ∈ s.takeWhile blank ++ s.dropWhile blank := by
      rwa [List.takeWhile_append_dropWhile]
    rcases List.mem_append.1 hmem with hmem | hmem
    · exact hb (List.mem_takeWhile_imp hmem)
    · exact hb (h a hmem)
  · intro h
    rw [List.rdropWhile_eq_nil_iff.2 h]
    rfl

/-! ## The pieces of a text -/

variable [DecidableEq α]

/-- Every text has pieces. -/
theorem exists_separated {d : List α} (hd : d ≠ []) (s : List α) :
    ∃ v, v ≠ [] ∧ Separated d s v := by
  induction hn : s.length using Nat.strong_induction_on generalizing s with
  | _ n ih =>
    cases hf : find d s with
    | none => exact ⟨[s], by simp, rfl, not_infix_of_find_eq_none hf⟩
    | some k =>
      obtain ⟨p, b, rfl, rfl, hno⟩ := find_eq_some hd hf
      have hpos := List.length_pos_iff.2 hd
      simp only [List.length_append] at hn
      obtain ⟨v, hv, hb, hcut⟩ := ih b.length (by omega) b rfl
      exact ⟨p :: v, by simp, by rw [join_cons hv, ← hb], (cut_cons hv).2 ⟨hno, hcut⟩⟩

theorem split_congr {d s s' : List α} (h : trim blank s = trim blank s') :
    split blank d s = split blank d s' := by
  rw [split, split, h]

/-- `split_append` for a text with blanks around it. -/
theorem split_append_of_trim {d : List α} (hd : d ≠ []) (hdt : trim blank d = d) {p : List α}
    (h : ¬d <:+: p ++ d.dropLast) (b : List α) :
    split blank d (p ++ d ++ b) = trim blank p :: split blank d b := by
  have htrim := trim_append hd hdt p b
  have hp : ¬d <:+: p.dropWhile blank ++ d.dropLast := fun hi => by
    obtain ⟨q, hq⟩ := List.dropWhile_suffix (l := p) blank
    refine h (hi.trans ⟨q, [], ?_⟩)
    rw [List.append_nil, ← List.append_assoc, hq]
  have hself : trim blank (p.dropWhile blank ++ d ++ b.rdropWhile blank) =
      p.dropWhile blank ++ d ++ b.rdropWhile blank := by
    rw [← htrim, trim_trim]
  rw [split_congr (htrim.trans hself.symm).symm.symm, split_append hd hself hp, trim_dropWhile,
    split_congr (trim_rdropWhile b)]

/-- `split` shows the pieces without blanks, the last one if there is something in it. -/
theorem split_join_of_cut {d : List α} (hd : d ≠ []) (hdt : trim blank d = d) :
    ∀ {v : List (List α)}, Cut d v → split blank d (join d v) =
      (if v.getLast?.map (trim blank) = some [] then v.dropLast else v).map (trim blank)
  | [s], h => by
    rw [join]
    by_cases hs : trim blank s = []
    · rw [split, hs, List.length_nil, splitLoop]
      simp [hs]
    · rw [← split_congr (trim_trim s),
        split_of_not_infix hs (trim_trim s) fun hi => h (hi.trans (trim_isInfix s))]
      simp [hs]
  | s :: s' :: t, h => by
    obtain ⟨hno, hcut⟩ := (cut_cons (List.cons_ne_nil _ _)).1 h
    rw [join_cons (List.cons_ne_nil _ _), split_append_of_trim hd hdt hno,
      split_join_of_cut hd hdt hcut, List.getLast?_cons_cons]
    split_ifs <;> rfl

/-- Whether a `c` is left over at the end of a text when the `c` next to each other are paired off
from the left. `half` says that one is left over before it. -/
def left (c : α) : Bool → List α → Bool
  | half, [] => half
  | half, a :: s => left c (a = c && !half) s

/-- The number of pairs. -/
def pairs (c : α) : Bool → List α → ℕ
  | _, [] => 0
  | half, a :: s => (if a = c && half then 1 else 0) + pairs c (a = c && !half) s

section
variable {c : α}

theorem left_append (half : Bool) (s t : List α) :
    left c half (s ++ t) = left c (left c half s) t := by
  induction s generalizing half with
  | nil => rfl
  | cons a s ih => exact ih _

theorem pairs_append (half : Bool) (s t : List α) :
    pairs c half (s ++ t) = pairs c half s + pairs c (left c half s) t := by
  induction s generalizing half with
  | nil => exact (Nat.zero_add _).symm
  | cons a s ih => rw [List.cons_append, pairs, pairs, left, ih, Nat.add_assoc]

/-- A delimiter is a pair, whether one is left over before it or not. -/
@[simp] theorem left_delimiter (half : Bool) : left c half [c, c] = half := by
  cases half <;> simp [left]

@[simp] theorem pairs_delimiter (half : Bool) : pairs c half [c, c] = 1 := by
  cases half <;> simp [pairs]

theorem left_join (half : Bool) : ∀ u : List (List α),
    left c half (join [c, c] u) = left c half u.flatten
  | [] => rfl
  | [s] => by simp [join]
  | s :: s' :: u => by
    rw [join_cons (List.cons_ne_nil _ _), left_append, left_append, left_delimiter,
      left_join _ (s' :: u), ← left_append]
    rfl

theorem pairs_join (half : Bool) : ∀ {u : List (List α)}, u ≠ [] →
    pairs c half (join [c, c] u) + 1 = u.length + pairs c half u.flatten
  | [s], _ => by simp [join, Nat.add_comm]
  | s :: s' :: u, _ => by
    have ih := pairs_join (left c half s) (List.cons_ne_nil s' u)
    rw [join_cons (List.cons_ne_nil _ _), pairs_append, pairs_append, pairs_delimiter,
      left_append, left_delimiter, List.flatten_cons, pairs_append, List.length_cons]
    omega

/-- Where no `c` stands next to another, none is paired off. -/
theorem pairs_eq_zero_of_single {s : List α} (h : ¬[c, c] <:+: s) :
    pairs c false s = 0 ∧ (left c false s ↔ s.getLast? = some c) := by
  induction s using List.reverseRecOn with
  | nil => exact ⟨rfl, by simp [left]⟩
  | append_singleton s a ih =>
    obtain ⟨hpairs, hleft⟩ := ih fun hi => h (hi.trans (List.prefix_append s [a]).isInfix)
    rw [pairs_append, left_append, hpairs, List.getLast?_concat, Option.some.injEq]
    by_cases ha : a = c
    · subst ha
      have hno : ¬left a false s := fun hs => by
        obtain ⟨t, rfl⟩ := List.getLast?_eq_some_iff.1 (hleft.1 hs)
        exact h ⟨t, [], by simp⟩
      simp [pairs, left, hno]
    · simp [pairs, left, ha]

/-- Nor in the pieces of a text but the last. -/
theorem pairs_of_cut : ∀ {v : List (List α)}, Cut [c, c] v → pairs c false v.flatten = 0
  | [s], h => by
    rw [List.flatten_singleton]
    exact (pairs_eq_zero_of_single h).1
  | s :: s' :: v, h => by
    obtain ⟨hno, hcut⟩ := (cut_cons (List.cons_ne_nil _ _)).1 h
    obtain ⟨hs, hlast⟩ := not_or.1 (mt pair_infix_append_iff.2 hno)
    obtain ⟨hpairs, hleft⟩ := pairs_eq_zero_of_single hs
    have hfalse : left c false s = false := by simpa using mt hleft.1 hlast
    rw [List.flatten_cons, pairs_append, hpairs, hfalse, pairs_of_cut hcut]

/-- There are as many pieces as the pairs of the text make. -/
theorem length_of_separated {s : List α} {v : List (List α)} (h : Separated [c, c] s v) :
    v.length = pairs c false s + 1 := by
  obtain ⟨rfl, hcut⟩ := h
  have hv : v ≠ [] := by
    rintro rfl
    exact hcut
  rw [pairs_join false hv, pairs_of_cut hcut, Nat.add_zero]

/-! ## How many fields are read -/

/-- A text that ends with a pair, or is blank. -/
def EndsInPair (blank : α → Bool) (c : α) (s : List α) : Prop :=
  left c false (s.rdropWhile blank) = false ∧ ∀ a ∈ (s.rdropWhile blank).getLast?, a = c

theorem endsInPair_append_iff (hc : blank c = false) (s b : List α) :
    EndsInPair blank c (s ++ [c, c] ++ b) ↔
      left c (left c false s) (b.rdropWhile blank) = false ∧
        ∀ a ∈ (b.rdropWhile blank).getLast?, a = c := by
  rw [EndsInPair, rdropWhile_append_of_getLast (by simp [hc]), left_append, left_append,
    left_delimiter]
  refine and_congr_right fun _ => ?_
  rcases List.eq_nil_or_concat' (b.rdropWhile blank) with hb | ⟨b', x, hb⟩
  · simp [hb]
  · rw [hb, ← List.append_assoc, List.getLast?_concat, List.getLast?_concat]

/-- The last piece of a text is blank when the text ends with a pair. -/
theorem trim_getLast_eq_nil_iff (hc : blank c = false) : ∀ {v : List (List α)}, Cut [c, c] v →
    (v.getLast?.map (trim blank) = some [] ↔ EndsInPair blank c (join [c, c] v))
  | [s], h => by
    have hno : ¬[c, c] <:+: s.rdropWhile blank := fun hi =>
      h (hi.trans (List.rdropWhile_prefix blank s).isInfix)
    have hleft := (pairs_eq_zero_of_single hno).2
    rw [List.getLast?_singleton, Option.map_some, Option.some.injEq, trim_eq_nil_iff,
      ← List.rdropWhile_eq_nil_iff, join, EndsInPair]
    constructor
    · intro hs
      rw [hs]
      exact ⟨rfl, by simp⟩
    · rintro ⟨hfalse, hlast⟩
      by_contra hs
      have hmem := List.getLast_mem_getLast? hs
      rw [hleft.2 (hlast _ hmem ▸ hmem)] at hfalse
      cases hfalse
  | s :: s' :: v, h => by
    obtain ⟨hno, hcut⟩ := (cut_cons (List.cons_ne_nil _ _)).1 h
    obtain ⟨hs, hlast⟩ := not_or.1 (mt pair_infix_append_iff.2 hno)
    have hfalse : left c false s = false := by simpa using mt (pairs_eq_zero_of_single hs).2.1 hlast
    rw [List.getLast?_cons_cons, trim_getLast_eq_nil_iff hc hcut, join_cons (List.cons_ne_nil _ _),
      endsInPair_append_iff hc, hfalse, EndsInPair]

/-- Without the blanks at its end, the last field ends in `c` or is empty, and no `c` of the fields
is left over. -/
def Ended (blank : α → Bool) (c : α) (u : List (List α)) : Prop :=
  left c false (u.dropLast.flatten ++ (u.getLastD []).rdropWhile blank) = false ∧
    ∀ a ∈ ((u.getLastD []).rdropWhile blank).getLast?, a = c

instance (u : List (List α)) : Decidable (Ended blank c u) := by
  unfold Ended
  infer_instance

omit [DecidableEq α] in
theorem join_append {d : List α} {v : List (List α)} (hv : v ≠ []) : ∀ {u : List (List α)},
    u ≠ [] → join d (u ++ v) = join d u ++ d ++ join d v
  | [a], _ => join_cons hv
  | a :: a' :: u, _ => by
    rw [List.cons_append, join_cons (by simp), join_append hv (List.cons_ne_nil a' u),
      join_cons (List.cons_ne_nil a' u)]
    simp only [List.append_assoc]

theorem endsInPair_join_iff (hc : blank c = false) {u : List (List α)} :
    EndsInPair blank c (join [c, c] u) ↔ Ended blank c u := by
  rcases List.eq_nil_or_concat' u with rfl | ⟨u, s, rfl⟩
  · simp [EndsInPair, Ended, join]
  rw [Ended, List.dropLast_concat, List.getLastD_concat]
  by_cases hu : u = []
  · simp [hu, EndsInPair, join]
  · rw [join_append (List.cons_ne_nil s []) hu, join, endsInPair_append_iff hc, left_join,
      left_append]

/-- The number of fields that are read where `u` was written. -/
def fieldCount (blank : α → Bool) (c : α) (u : List (List α)) : ℕ :=
  u.length + pairs c false u.flatten - if Ended blank c u then 1 else 0

theorem length_split_join (hc : blank c = false) (u : List (List α)) :
    (split blank [c, c] (join [c, c] u)).length = fieldCount blank c u := by
  by_cases hu : u = []
  · rw [hu]
    simp [fieldCount, Ended, left, pairs, join, split, splitLoop, trim]
  have hdt : trim blank [c, c] = [c, c] := trim_eq_self_iff.2 (by simp [hc])
  obtain ⟨v, hv, hsep⟩ := exists_separated (List.cons_ne_nil c [c]) (join [c, c] u)
  have hlen := length_of_separated hsep
  have hlast := trim_getLast_eq_nil_iff hc hsep.2
  rw [pairs_join false hu] at hlen
  rw [← hsep.1, endsInPair_join_iff hc] at hlast
  rw [hsep.1, split_join_of_cut (List.cons_ne_nil _ _) hdt hsep.2, List.length_map, fieldCount,
    ← hlen]
  by_cases hend : Ended blank c u
  · rw [if_pos (hlast.2 hend), if_pos hend, List.length_dropLast]
  · rw [if_neg (mt hlast.1 hend), if_neg hend, Nat.sub_zero]

/-- Where no field has a `c` in it, the text ends with a pair when the last field is blank. -/
theorem ended_iff_of_notMem {u : List (List α)} (h : ∀ s ∈ u, c ∉ s) :
    Ended blank c u ↔ trim blank (u.getLastD []) = [] := by
  have hlast : c ∉ u.getLastD [] := by
    rcases List.eq_nil_or_concat' u with rfl | ⟨u, s, rfl⟩
    · exact List.not_mem_nil
    · rw [List.getLastD_concat]
      exact h s List.mem_concat_self
  have hmem : c ∉ u.dropLast.flatten ++ (u.getLastD []).rdropWhile blank := by
    rw [List.mem_append, List.mem_flatten, not_or]
    refine ⟨fun ⟨s, hs, hc⟩ => h s (List.mem_of_mem_dropLast hs) hc, fun hc => hlast ?_⟩
    exact (List.rdropWhile_prefix blank _).subset hc
  have hleft := (pairs_eq_zero_of_single (c := c) fun hi => hmem (hi.subset (by simp))).2
  rw [Ended, trim_eq_nil_iff, ← List.rdropWhile_eq_nil_iff, and_iff_right]
  · constructor
    · intro hc
      by_contra hne
      have hget := List.getLast_mem_getLast? hne
      exact hmem (List.mem_append_right _ (hc _ hget ▸ List.mem_of_mem_getLast? hget))
    · intro hnil a ha
      rw [hnil] at ha
      exact absurd ha (by simp)
  · by_contra htrue
    rw [Bool.not_eq_false] at htrue
    exact hmem (List.mem_of_mem_getLast? (hleft.1 htrue))

/-- Such fields are all read, but for a blank last one. -/
theorem fieldCount_of_notMem {u : List (List α)} (h : ∀ s ∈ u, c ∉ s) :
    fieldCount blank c u = u.length - if trim blank (u.getLastD []) = [] then 1 else 0 := by
  have hmem : c ∉ u.flatten := fun hc =>
    (List.mem_flatten.1 hc).elim fun s hs => h s hs.1 hs.2
  rw [fieldCount, (pairs_eq_zero_of_single fun hi => hmem (hi.subset (by simp))).1, Nat.add_zero]
  simp only [ended_iff_of_notMem h]

end

/-! ## What is shown -/

section
variable {d : List α} (hd : d ≠ []) (hdt : trim blank d = d) {u : List (List α)} {g : ℕ → List α}
include hd hdt

end

/-! ## One field replaced -/

section
variable {c : α} {f : List (List α)} {i : ℕ} (hi : i < f.length)
include hi

variable (hf : ∀ s ∈ f, ¬[c, c] <:+: s) {s : List α}
include hf

end

end Delimited
