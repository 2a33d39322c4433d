import Mathlib.Data.List.DropRight
import Mathlib.Data.List.Infix

/-!
# Delimited text with trimmed fields

A list of fields is written as one list, a delimiter `d` between neighbours (`join`), and
read back by cutting at the first `d` over and over (`split`). The reader trims blanks from
both ends of the text, of each field and of each remainder, and stops once nothing is left.

`Clean` is the condition on fields under which nothing is lost: every field is its own trim,
no `d` starts inside a field or on the border between a field and the delimiter after it,
and the last field is not empty. `split_join_iff` : for a delimiter with no blank at either
end, `split` undoes `join` exactly on clean lists. One direction is an induction over the
fields. The other is an argument on lengths: `split` never makes the text longer
(`length_join_split_le`), and where it keeps the length each cut was clean
(`clean_split`).

`Separated` is the relation of a text to its fields without any of this. Fields some of which
were left empty are told apart from those there should be (`eq_of_separated`).
-/

namespace Delimited

variable {α : Type*}

/-! ## Trimming -/

/-- `s` without the blanks at its two ends. -/
def trim (blank : α → Bool) (s : List α) : List α :=
  (s.dropWhile blank).rdropWhile blank

variable {blank : α → Bool}

theorem trim_isInfix (s : List α) : trim blank s <:+: s :=
  (List.rdropWhile_prefix _ _).isInfix.trans (List.dropWhile_suffix _).isInfix

theorem length_trim_le (blank : α → Bool) (s : List α) : (trim blank s).length ≤ s.length :=
  (trim_isInfix s).length_le

/-- Trimming that keeps the length does nothing. -/
theorem trim_eq_self_of_length {s : List α} (h : s.length ≤ (trim blank s).length) :
    trim blank s = s :=
  (trim_isInfix s).sublist.eq_of_length_le h

/-- A text is its own trim exactly when no blank stands at either end. -/
theorem trim_eq_self_iff {s : List α} :
    trim blank s = s ↔ (∀ a ∈ s.head?, ¬blank a) ∧ ∀ a ∈ s.getLast?, ¬blank a := by
  constructor
  · intro h
    have hlen : s.length ≤ (trim blank s).length := by rw [h]
    have hle := (List.rdropWhile_prefix blank (s.dropWhile blank)).length_le
    have hdrop : s.dropWhile blank = s :=
      (List.dropWhile_suffix blank).sublist.eq_of_length_le (hlen.trans hle)
    rw [trim, hdrop] at h
    refine ⟨?_, ?_⟩
    · rw [List.dropWhile_eq_self_iff] at hdrop
      cases s with
      | nil => simp
      | cons a s => simpa using hdrop
    · rw [List.rdropWhile_eq_self_iff] at h
      intro a ha
      obtain ⟨hne, rfl⟩ := List.mem_getLast?_eq_getLast ha
      exact h hne
  · rintro ⟨hhead, hlast⟩
    have hdrop : s.dropWhile blank = s := by
      cases s with
      | nil => rfl
      | cons a s => simpa using hhead
    rw [trim, hdrop, List.rdropWhile_eq_self_iff]
    exact fun hne => hlast _ (List.getLast_mem_getLast? hne)

/-- What is trimmed stays as it is. -/
@[simp] theorem trim_trim (s : List α) : trim blank (trim blank s) = trim blank s := by
  rw [trim_eq_self_iff]
  constructor
  · intro a ha
    have hpre := List.rdropWhile_prefix blank (s.dropWhile blank)
    have hhead : (s.dropWhile blank).head? = some a := by
      obtain ⟨t, ht⟩ := hpre
      rw [← ht, List.head?_append]
      unfold trim at ha
      simp [Option.mem_def.1 ha]
    simpa [hhead] using List.head?_dropWhile_not blank s
  · intro a ha
    obtain ⟨hne, rfl⟩ := List.mem_getLast?_eq_getLast ha
    exact List.rdropWhile_last_not blank _ hne

/-! ## The first occurrence of the delimiter -/

variable [DecidableEq α]

/-- The position of the first `d` in the text. -/
def find (d : List α) : List α → Option ℕ
  | [] => if d.isPrefixOf [] then some 0 else none
  | a :: s => if d.isPrefixOf (a :: s) then some 0 else (find d s).map (· + 1)

theorem not_infix_of_find_eq_none {d : List α} :
    ∀ {s : List α}, find d s = none → ¬d <:+: s
  | [], h => by
    rintro hd
    obtain rfl := List.infix_nil.1 hd
    simp [find] at h
  | a :: s, h => by
    unfold find at h
    split_ifs at h with hp
    rw [Option.map_eq_none_iff] at h
    rw [List.infix_cons_iff, not_or, ← List.isPrefixOf_iff_prefix]
    exact ⟨hp, not_infix_of_find_eq_none h⟩

omit [DecidableEq α] in
theorem not_infix_dropLast {d : List α} (hd : d ≠ []) : ¬d <:+: d.dropLast := by
  intro h
  have hle := h.length_le
  have hpos := List.length_pos_iff.2 hd
  rw [List.length_dropLast] at hle
  omega

/-- A field with no `d` in it, nor across its border with the `d` that follows, ends at
the first `d`. -/
theorem find_append {d : List α} (hd : d ≠ []) (b : List α) :
    ∀ {s : List α}, ¬d <:+: s ++ d.dropLast → find d (s ++ d ++ b) = some s.length
  | [], _ => by
    cases d with
    | nil => exact absurd rfl hd
    | cons c d => simp [find]
  | a :: s, h => by
    rw [List.cons_append, List.infix_cons_iff, not_or] at h
    obtain ⟨hpre, hinf⟩ := h
    have hno : ¬d.isPrefixOf (a :: (s ++ d ++ b)) := by
      rw [List.isPrefixOf_iff_prefix]
      intro hp
      apply hpre
      -- `d` is no longer than the field with the start of the delimiter after it
      refine List.prefix_of_prefix_length_le hp ⟨d.getLast hd :: b, ?_⟩ ?_
      · conv_rhs => rw [← List.dropLast_append_getLast hd]
        simp
      · have := List.length_pos_iff.2 hd
        simp
        omega
    rw [List.cons_append, List.cons_append, find, if_neg hno, find_append hd b hinf]
    rfl

/-- A `d` found at `k` stands there, and none starts before `k`. -/
theorem find_eq_some {d : List α} (hd : d ≠ []) :
    ∀ {s : List α} {k : ℕ}, find d s = some k →
      ∃ p b, s = p ++ d ++ b ∧ p.length = k ∧ ¬d <:+: p ++ d.dropLast
  | [], k, h => by
    unfold find at h
    split_ifs at h with hp
    exact absurd (List.prefix_nil.1 (List.isPrefixOf_iff_prefix.1 hp)) hd
  | a :: s, k, h => by
    unfold find at h
    split_ifs at h with hp
    · obtain ⟨b, hb⟩ := List.isPrefixOf_iff_prefix.1 hp
      exact ⟨[], b, by simpa using hb.symm, Option.some.inj h, by simpa using not_infix_dropLast hd⟩
    · obtain ⟨j, hj, rfl⟩ := Option.map_eq_some_iff.1 h
      obtain ⟨p, b, rfl, rfl, hno⟩ := find_eq_some hd hj
      refine ⟨a :: p, b, rfl, rfl, ?_⟩
      rw [List.cons_append, List.infix_cons_iff, not_or]
      refine ⟨fun hpre => hp (List.isPrefixOf_iff_prefix.2 (hpre.trans ?_)), hno⟩
      rw [List.append_assoc, List.cons_prefix_cons]
      exact ⟨rfl, (List.prefix_append_right_inj p).2 ((List.dropLast_prefix d).trans ⟨b, rfl⟩)⟩

/-! ## Writing and reading a list of fields -/

/-- The fields with `d` between neighbours. -/
def join (d : List α) : List (List α) → List α
  | [] => []
  | [s] => s
  | s :: t => s ++ d ++ join d t

/-- Cut at the first `d`, trim the field before it and the text after it, and go on. -/
def splitLoop (blank : α → Bool) (d : List α) : ℕ → List α → List (List α)
  | 0, _ => []
  | n + 1, r =>
    if r = [] then []
    else match find d r with
      | none => [r]
      | some k => trim blank (r.take k) :: splitLoop blank d n (trim blank (r.drop (k + d.length)))

/-- The fields read back from a text. A delimiter with at least one element makes every
remainder shorter, so the length of the text is fuel enough (`splitLoop_of_le`). -/
def split (blank : α → Bool) (d s : List α) : List (List α) :=
  splitLoop blank d (trim blank s).length (trim blank s)

theorem splitLoop_nil (d : List α) (n : ℕ) : splitLoop blank d n [] = [] := by
  cases n <;> rfl

/-- A text with no `d` in it is one field. -/
theorem splitLoop_of_find_eq_none {d r : List α} {n : ℕ} (hr : r ≠ []) (h : find d r = none) :
    splitLoop blank d (n + 1) r = [r] := by
  rw [splitLoop, if_neg hr, h]

/-- The text after the first `d` is read like any other. -/
theorem splitLoop_append {d : List α} (hd : d ≠ []) {p b : List α} {n : ℕ}
    (h : ¬d <:+: p ++ d.dropLast) :
    splitLoop blank d (n + 1) (p ++ d ++ b) =
      trim blank p :: splitLoop blank d n (trim blank b) := by
  have hne : p ++ d ++ b ≠ [] := by simp [hd]
  rw [splitLoop, if_neg hne, find_append hd b h]
  simp only [List.append_assoc, List.take_left', List.cons.injEq, true_and]
  rw [← List.append_assoc, List.drop_left' (by simp)]

/-- More fuel than the text is long changes nothing. -/
theorem splitLoop_of_le {d : List α} (hd : d ≠ []) :
    ∀ {n : ℕ} {r : List α}, r.length ≤ n → splitLoop blank d n r = splitLoop blank d r.length r
  | 0, r, h => by rw [Nat.le_zero.1 h]
  | n + 1, r, h => by
    by_cases hr : r = []
    · rw [hr, splitLoop_nil, splitLoop_nil]
    obtain ⟨m, hm⟩ := Nat.exists_eq_succ_of_ne_zero (mt List.length_eq_zero_iff.1 hr)
    rw [hm]
    cases hf : find d r with
    | none => rw [splitLoop_of_find_eq_none hr hf, splitLoop_of_find_eq_none hr hf]
    | some k =>
      obtain ⟨p, b, rfl, rfl, hno⟩ := find_eq_some hd hf
      have hb := length_trim_le blank b
      have hpos := List.length_pos_iff.2 hd
      simp only [List.length_append] at hm h
      rw [splitLoop_append hd hno, splitLoop_append hd hno, splitLoop_of_le hd (by omega),
        splitLoop_of_le hd (r := trim blank b) (n := m) (by omega)]

/-- The three ways a text is read : nothing is left, no `d` is left, or a field is cut off. -/
theorem split_cases (blank : α → Bool) {d : List α} (hd : d ≠ []) (s : List α) :
    (trim blank s = [] ∧ split blank d s = []) ∨
      (trim blank s ≠ [] ∧ ¬d <:+: trim blank s ∧ split blank d s = [trim blank s]) ∨
      ∃ p b, trim blank s = p ++ d ++ b ∧ ¬d <:+: p ++ d.dropLast ∧
        split blank d s = trim blank p :: split blank d b := by
  unfold split
  by_cases hr : trim blank s = []
  · exact Or.inl ⟨hr, by rw [hr]; rfl⟩
  obtain ⟨m, hm⟩ := Nat.exists_eq_succ_of_ne_zero (mt List.length_eq_zero_iff.1 hr)
  rw [hm]
  cases hf : find d (trim blank s) with
  | none =>
    exact Or.inr (Or.inl ⟨hr, not_infix_of_find_eq_none hf, splitLoop_of_find_eq_none hr hf⟩)
  | some k =>
    obtain ⟨p, b, hpb, rfl, hno⟩ := find_eq_some hd hf
    have hb := length_trim_le blank b
    have hpos := List.length_pos_iff.2 hd
    rw [hpb] at hm ⊢
    simp only [List.length_append] at hm
    refine Or.inr (Or.inr ⟨p, b, rfl, hno, ?_⟩)
    rw [splitLoop_append hd hno, splitLoop_of_le hd (by omega)]

/-- Induction along the cuts `split` makes. -/
theorem split_induction (blank : α → Bool) {d : List α} (hd : d ≠ []) {motive : List α → Prop}
    (nil : ∀ s, trim blank s = [] → split blank d s = [] → motive s)
    (single : ∀ s, trim blank s ≠ [] → ¬d <:+: trim blank s →
      split blank d s = [trim blank s] → motive s)
    (cons : ∀ s p b, trim blank s = p ++ d ++ b → ¬d <:+: p ++ d.dropLast →
      split blank d s = trim blank p :: split blank d b →
      p.length + d.length + b.length ≤ s.length → motive b → motive s) (s : List α) :
    motive s := by
  induction hn : s.length using Nat.strong_induction_on generalizing s with
  | _ n ih =>
    rcases split_cases blank hd s with ⟨hs, h⟩ | ⟨hs, hno, h⟩ | ⟨p, b, hpb, hno, h⟩
    · exact nil s hs h
    · exact single s hs hno h
    · have hle := length_trim_le blank s
      have hpos := List.length_pos_iff.2 hd
      rw [hpb, List.length_append, List.length_append] at hle
      exact cons s p b hpb hno h hle (ih b.length (by omega) b rfl)

theorem split_of_not_infix {d s : List α} (hs : s ≠ []) (ht : trim blank s = s)
    (h : ¬d <:+: s) : split blank d s = [s] := by
  obtain ⟨m, hm⟩ := Nat.exists_eq_succ_of_ne_zero (mt List.length_eq_zero_iff.1 hs)
  rw [split, ht, hm]
  refine splitLoop_of_find_eq_none hs ?_
  cases hf : find d s with
  | none => rfl
  | some k =>
    have hd : d ≠ [] := by
      rintro rfl
      exact h List.nil_infix
    obtain ⟨p, b, hpb, -⟩ := find_eq_some hd hf
    exact (h ⟨p, b, hpb.symm⟩).elim

theorem split_append {d : List α} (hd : d ≠ []) {p b : List α}
    (ht : trim blank (p ++ d ++ b) = p ++ d ++ b) (h : ¬d <:+: p ++ d.dropLast) :
    split blank d (p ++ d ++ b) = trim blank p :: split blank d b := by
  have hb := length_trim_le blank b
  have hpos := List.length_pos_iff.2 hd
  obtain ⟨m, hm⟩ : ∃ m, (p ++ d ++ b).length = m + 1 :=
    ⟨p.length + d.length + b.length - 1, by simp only [List.length_append]; omega⟩
  simp only [List.length_append] at hm
  rw [split, ht, List.length_append, List.length_append, hm, splitLoop_append hd h, split,
    splitLoop_of_le hd (by omega)]

/-! ## When nothing is lost -/

/-- The fields `split` gives back from the text `join` writes. -/
def Clean (blank : α → Bool) (d : List α) : List (List α) → Prop
  | [] => False
  | [s] => s ≠ [] ∧ trim blank s = s ∧ ¬d <:+: s
  | s :: t => (trim blank s = s ∧ ¬d <:+: s ++ d.dropLast) ∧ Clean blank d t

omit [DecidableEq α] in
theorem join_cons {d s : List α} {t : List (List α)} (ht : t ≠ []) :
    join d (s :: t) = s ++ d ++ join d t := by
  cases t with
  | nil => exact absurd rfl ht
  | cons a t => rfl

omit [DecidableEq α] in
theorem clean_cons {d s : List α} {t : List (List α)} (ht : t ≠ []) :
    Clean blank d (s :: t) ↔
      (trim blank s = s ∧ ¬d <:+: s ++ d.dropLast) ∧ Clean blank d t := by
  cases t with
  | nil => exact absurd rfl ht
  | cons a t => rfl

omit [DecidableEq α] in
theorem length_join_cons {d s : List α} {t : List (List α)} (ht : t ≠ []) :
    (join d (s :: t)).length = s.length + d.length + (join d t).length := by
  rw [join_cons ht, List.length_append, List.length_append]

omit [DecidableEq α] in
/-- Emptying some fields makes the text no longer. -/
theorem length_join_le {d : List α} :
    ∀ {u v : List (List α)}, List.Forall₂ (fun a b => a = b ∨ a = []) u v →
      (join d u).length ≤ (join d v).length
  | [], [], .nil => le_rfl
  | [a], [b], .cons h .nil => by
    rcases h with rfl | rfl <;> simp [join]
  | a :: a' :: u, b :: b' :: v, .cons h t => by
    have ih := length_join_le (d := d) t
    rw [length_join_cons (List.cons_ne_nil _ _), length_join_cons (List.cons_ne_nil _ _)]
    rcases h with rfl | rfl
    · omega
    · simp only [List.length_nil]
      omega

omit [DecidableEq α] in
/-- It keeps its length only when the fields stay as they were. -/
theorem eq_of_length_join_le {d : List α} :
    ∀ {u v : List (List α)}, List.Forall₂ (fun a b => a = b ∨ a = []) u v →
      (join d v).length ≤ (join d u).length → u = v
  | [], [], .nil, _ => rfl
  | [a], [b], .cons h .nil, hle => by
    rcases h with rfl | rfl
    · rfl
    · rw [List.length_eq_zero_iff.1 (Nat.le_zero.1 hle : b.length = 0)]
  | a :: a' :: u, b :: b' :: v, .cons h t, hle => by
    have hlen := length_join_le (d := d) t
    rw [length_join_cons (List.cons_ne_nil _ _), length_join_cons (List.cons_ne_nil _ _)] at hle
    rcases h with rfl | rfl
    · rw [eq_of_length_join_le (d := d) t (by omega)]
    · rw [List.length_nil] at hle
      rw [eq_of_length_join_le (d := d) t (by omega),
        List.length_eq_zero_iff.1 (by omega : b.length = 0)]

omit [DecidableEq α] in
theorem Clean.join_ne_nil {d : List α} (hd : d ≠ []) :
    ∀ {v : List (List α)}, Clean blank d v → join d v ≠ []
  | [s], h => h.1
  | s :: t :: v, _ => by rw [join_cons (by simp)]; simp [hd]

omit [DecidableEq α] in
/-- The text written for clean fields starts and ends with no blank. -/
theorem Clean.trim_join {d : List α} (hd : d ≠ []) (hdt : trim blank d = d) :
    ∀ {v : List (List α)}, Clean blank d v → trim blank (join d v) = join d v
  | [s], h => h.2.1
  | s :: t :: v, h => by
    have ih := trim_eq_self_iff.1 (Clean.trim_join hd hdt h.2)
    have hs := trim_eq_self_iff.1 h.1.1
    have hdel := trim_eq_self_iff.1 hdt
    have hne := Clean.join_ne_nil hd h.2
    rw [join_cons (by simp), trim_eq_self_iff]
    constructor
    · intro a ha
      cases s with
      | nil =>
        cases d with
        | nil => exact absurd rfl hd
        | cons c d => exact hdel.1 a (by simpa using ha)
      | cons c s => exact hs.1 a (by simpa using ha)
    · intro a ha
      rw [List.getLast?_append_of_ne_nil _ hne] at ha
      exact ih.2 a ha

/-- Clean fields are read back as they were written. -/
theorem Clean.split_join {d : List α} (hd : d ≠ []) (hdt : trim blank d = d) :
    ∀ {v : List (List α)}, Clean blank d v → split blank d (join d v) = v
  | [s], h => split_of_not_infix h.1 h.2.1 h.2.2
  | s :: t :: v, h => by
    have htrim := Clean.trim_join hd hdt h
    rw [join_cons (by simp)] at htrim ⊢
    rw [split_append hd htrim h.1.2, h.1.1, Clean.split_join hd hdt h.2]

/-- Reading never gives fields longer to write than the text they came from. -/
theorem length_join_split_le (blank : α → Bool) {d : List α} (hd : d ≠ []) (s : List α) :
    (join d (split blank d s)).length ≤ s.length := by
  induction s using split_induction blank hd with
  | nil s _ h => simp [h, join]
  | single s _ _ h =>
    rw [h]
    exact length_trim_le blank s
  | cons s p b _ _ h hle ih =>
    have hp := length_trim_le blank p
    rw [h]
    by_cases ht : split blank d b = []
    · simp only [ht, join]
      omega
    · rw [length_join_cons ht]
      omega

/-- Where reading keeps the length, every cut was clean. -/
theorem clean_split (blank : α → Bool) {d : List α} (hd : d ≠ []) (s : List α)
    (hne : split blank d s ≠ [])
    (hlen : s.length ≤ (join d (split blank d s)).length) : Clean blank d (split blank d s) := by
  induction s using split_induction blank hd with
  | nil s _ h => exact absurd h hne
  | single s hs hno h =>
    rw [h]
    exact ⟨hs, trim_trim s, hno⟩
  | cons s p b _ hno h hle ih =>
    have hp := length_trim_le blank p
    have hb := length_join_split_le blank hd b
    have hpos := List.length_pos_iff.2 hd
    rw [h] at hlen ⊢
    by_cases ht : split blank d b = []
    · simp only [ht, join] at hlen
      omega
    · rw [length_join_cons ht] at hlen
      have hpe : trim blank p = p := trim_eq_self_of_length (by omega)
      rw [clean_cons ht, hpe]
      exact ⟨⟨hpe, hno⟩, ih ht (by omega)⟩

/-- A list of fields comes back from the text written for it exactly when it is clean. -/
theorem split_join_iff {d : List α} (hd : d ≠ []) (hdt : trim blank d = d)
    {v : List (List α)} (hv : v ≠ []) : split blank d (join d v) = v ↔ Clean blank d v := by
  constructor
  · intro h
    have hc := clean_split blank hd (join d v) (by rwa [h]) (by rw [h])
    rwa [h] at hc
  · exact Clean.split_join hd hdt

omit [DecidableEq α] in
/-- A doubled character lies across the border of a field and the delimiter after it when
it lies in the field or the field ends with that character. -/
theorem pair_infix_append_iff {c : α} {s : List α} :
    [c, c] <:+: s ++ [c] ↔ [c, c] <:+: s ∨ s.getLast? = some c := by
  constructor
  · rintro ⟨p, b, h⟩
    rcases List.eq_nil_or_concat b with rfl | ⟨b, x, rfl⟩
    · have hs : s = p ++ [c] := by
        apply (List.append_left_injective [c])
        simpa using h.symm
      exact Or.inr (by simp [hs])
    · have hs : s ++ [c] = (p ++ [c, c] ++ b) ++ [x] := by simpa using h.symm
      exact Or.inl ⟨p, b, (List.append_inj' hs rfl).1.symm⟩
  · rintro (h | h)
    · exact h.trans (List.prefix_append s [c]).isInfix
    · obtain ⟨p, rfl⟩ := List.getLast?_eq_some_iff.1 h
      exact ⟨p, [], by simp⟩

omit [DecidableEq α] in
/-- For a doubled character as delimiter : the last field is not empty, every field is
trimmed and without the delimiter, and none but the last ends with the character. -/
theorem clean_pair_iff {c : α} : ∀ {v : List (List α)}, v ≠ [] →
    (Clean blank [c, c] v ↔ v.getLast? ≠ some [] ∧ (∀ s ∈ v, trim blank s = s) ∧
      (∀ s ∈ v, ¬[c, c] <:+: s) ∧ ∀ s ∈ v.dropLast, s.getLast? ≠ some c)
  | [s], _ => by simp [Clean]
  | s :: t :: v, _ => by
    have ih : Clean blank [c, c] (t :: v) ↔ _ := clean_pair_iff (by simp)
    rw [clean_cons (by simp), ih, show [c, c].dropLast = [c] from rfl, pair_infix_append_iff]
    simp only [List.getLast?_cons_cons, List.dropLast_cons_cons, List.forall_mem_cons, not_or]
    tauto

/-- Every field read is trimmed and has no delimiter in it. -/
theorem of_mem_split {d : List α} (hd : d ≠ []) {s f : List α} (hf : f ∈ split blank d s) :
    trim blank f = f ∧ ¬d <:+: f := by
  induction s using split_induction blank hd with
  | nil s _ h => simp [h] at hf
  | single s _ hno h =>
    rw [h, List.mem_singleton] at hf
    exact hf ▸ ⟨trim_trim s, hno⟩
  | cons s p b _ hno h _ ih =>
    rw [h, List.mem_cons] at hf
    rcases hf with rfl | hf
    · exact ⟨trim_trim p, fun hi => hno (hi.trans ((trim_isInfix p).trans ⟨[], d.dropLast, rfl⟩))⟩
    · exact ih hf

/-- No field is longer than the text. -/
theorem length_le_of_mem_split {d : List α} (hd : d ≠ []) {s f : List α}
    (hf : f ∈ split blank d s) : f.length ≤ s.length := by
  induction s using split_induction blank hd with
  | nil s _ h => simp [h] at hf
  | single s _ _ h =>
    rw [h, List.mem_singleton] at hf
    exact hf ▸ length_trim_le blank s
  | cons s p b _ _ h hle ih =>
    rw [h, List.mem_cons] at hf
    rcases hf with rfl | hf
    · have htrim := length_trim_le blank p
      omega
    · have hb := ih hf
      omega

/-! ## The fields of a text -/

/-- Fields that stay apart when they are joined : reading from the left, every `d` that is found
is one that `join` put there. -/
def Cut (d : List α) : List (List α) → Prop
  | [] => False
  | [s] => ¬d <:+: s
  | s :: t => ¬d <:+: s ++ d.dropLast ∧ Cut d t

/-- The fields of a text, nothing trimmed and nothing left out. -/
def Separated (d s : List α) (v : List (List α)) : Prop :=
  s = join d v ∧ Cut d v

omit [DecidableEq α] in
theorem cut_cons {d s : List α} {t : List (List α)} (ht : t ≠ []) :
    Cut d (s :: t) ↔ ¬d <:+: s ++ d.dropLast ∧ Cut d t := by
  cases t with
  | nil => exact absurd rfl ht
  | cons a t => rfl

omit [DecidableEq α] in
/-- For a doubled character as delimiter : no field has the delimiter in it, and none but the
last ends with the character. -/
theorem cut_pair_iff {c : α} : ∀ {v : List (List α)}, v ≠ [] →
    (Cut [c, c] v ↔ (∀ s ∈ v, ¬[c, c] <:+: s) ∧ ∀ s ∈ v.dropLast, s.getLast? ≠ some c)
  | [s], _ => by simp [Cut]
  | s :: t :: v, _ => by
    have ih : Cut [c, c] (t :: v) ↔ _ := cut_pair_iff (by simp)
    rw [cut_cons (by simp), ih, show [c, c].dropLast = [c] from rfl, pair_infix_append_iff]
    simp only [List.dropLast_cons_cons, List.forall_mem_cons, not_or]
    tauto

omit [DecidableEq α] in
/-- A `d` at the very beginning lies in what is cut off, unless that is empty. -/
theorem eq_nil_of_append_eq {d p a b : List α} (h : d ++ a = p ++ d ++ b)
    (hno : ¬d <:+: p ++ d.dropLast) : p = [] := by
  by_contra hp
  have hpos := List.length_pos_iff.2 hp
  refine hno (List.IsPrefix.isInfix ?_)
  rcases List.eq_nil_or_concat' d with rfl | ⟨d', x, rfl⟩
  · exact List.nil_prefix
  · rw [List.dropLast_concat]
    refine List.prefix_of_prefix_length_le (List.prefix_append _ a) ?_ ?_
    · rw [h, ← List.append_assoc p d', List.append_assoc _ [x]]
      exact List.prefix_append ..
    · simp only [List.length_append, List.length_singleton]
      omega

omit [DecidableEq α] in
/-- Where some fields were left empty, the text has the fields it should have only if none of
them was. -/
theorem eq_of_separated {d : List α} (hd : d ≠ []) : ∀ {u v : List (List α)}, u ≠ [] →
    Separated d (join d u) v →
      (∀ (i : ℕ) (a b), u[i]? = some a → v[i]? = some b → a = b ∨ a = []) → u = v
  | [a], [b], _, h, _ => by rw [show a = b from h.1]
  | [a], b :: b' :: v, _, h, hor => by
    have heq : a = b ++ d ++ join d (b' :: v) := h.1
    have hlen := congrArg List.length heq
    have hpos := List.length_pos_iff.2 hd
    simp only [List.length_append] at hlen
    rcases hor 0 a b rfl rfl with rfl | rfl
    · omega
    · rw [List.length_nil] at hlen
      omega
  | a :: a' :: u, [b], _, h, _ => by
    have heq : a ++ d ++ join d (a' :: u) = b := h.1
    exact absurd ⟨_, _, heq⟩ h.2
  | a :: a' :: u, b :: b' :: v, _, h, hor => by
    have heq : a ++ d ++ join d (a' :: u) = b ++ d ++ join d (b' :: v) := h.1
    obtain ⟨hno, hcut⟩ := (cut_cons (List.cons_ne_nil _ _)).1 h.2
    have hab : a = b := by
      rcases hor 0 a b rfl rfl with hab | rfl
      · exact hab
      · exact (eq_nil_of_append_eq heq hno).symm
    subst hab
    have hrest := List.append_cancel_left heq
    rw [eq_of_separated hd (List.cons_ne_nil a' u) ⟨hrest, hcut⟩
      fun i x y hx hy => hor (i + 1) x y hx hy]

end Delimited
