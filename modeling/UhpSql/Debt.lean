import UhpSql.Transition

/-!
# A debt over a run

The states of a transition system have a debt. An action that pays takes one off it, and `pass`
takes on as much as the state covers beyond a margin; it goes wrong where the state does not cover
the debt that it finds. `allowed_iff_paced` : every pass of a run finds its debt covered exactly if
from any pass to any later one the cover falls by at most the margin and one for each action between
them that pays. So the debt itself, which the passes make, need not be known.
-/

namespace Transition

variable {σ α : Type*}

/-- Each pass finds `debt` covered, but for what was paid of it. -/
def Covers (step : σ → α → Option σ) (cover : σ → ℕ) (pays : α → Bool) (pass : α) (debt : ℕ)
    (s : σ) (actions : List α) : Prop :=
  ∀ mid t, mid ++ [pass] <+: actions → run step s mid = some t →
    debt ≤ cover t + mid.countP pays

/-- From any pass to any later one, the cover falls by at most the margin and what was paid. -/
def Paced (step : σ → α → Option σ) (cover : σ → ℕ) (pays : α → Bool) (pass : α) (margin : ℕ)
    (s : σ) (actions : List α) : Prop :=
  ∀ pre mid t u, pre ++ pass :: (mid ++ [pass]) <+: actions → run step s pre = some t →
    run step t (pass :: mid) = some u → cover t ≤ cover u + margin + mid.countP pays

variable {step : σ → α → Option σ} {cover : σ → ℕ} {pays : α → Bool} {pass a : α} {debt margin : ℕ}
  {s s' t : σ} {actions : List α}

theorem covers_nil : Covers step cover pays pass debt s [] := by
  intro mid t h
  exact absurd (List.prefix_nil.1 h) (by simp)

theorem covers_zero : Covers step cover pays pass 0 s actions :=
  fun _ _ _ _ => Nat.zero_le _

/-- The greater of two debts is covered where both are. -/
theorem covers_max {debt' : ℕ} : Covers step cover pays pass (max debt debt') s actions ↔
    Covers step cover pays pass debt s actions ∧ Covers step cover pays pass debt' s actions := by
  constructor
  · intro h
    exact ⟨fun mid t hmid ht => (le_max_left _ _).trans (h mid t hmid ht),
      fun mid t hmid ht => (le_max_right _ _).trans (h mid t hmid ht)⟩
  · rintro ⟨h, h'⟩ mid t hmid ht
    exact max_le (h mid t hmid ht) (h' mid t hmid ht)

/-- The first action may be a pass, and what it pays is off the debt for the later ones. -/
theorem covers_cons (ht : step s a = some t) : Covers step cover pays pass debt s (a :: actions) ↔
    (a = pass → debt ≤ cover s) ∧
      Covers step cover pays pass (debt - (pays a).toNat) t actions := by
  have hcount (mid : List α) : (a :: mid).countP pays = mid.countP pays + (pays a).toNat := by
    rw [List.countP_cons]
    cases pays a <;> rfl
  constructor
  · intro h
    refine ⟨fun ha => ?_, fun mid u hmid hu => ?_⟩
    · exact h [] s (ha ▸ List.prefix_append [a] actions) rfl
    · have hle := h (a :: mid) u (List.cons_prefix_cons.2 ⟨rfl, hmid⟩)
        (run_cons_eq_some.2 ⟨t, ht, hu⟩)
      rw [hcount, ← Nat.add_assoc] at hle
      exact Nat.sub_le_of_le_add hle
  · rintro ⟨hfirst, h⟩ mid u hmid hu
    cases mid with
    | nil =>
      obtain ⟨rfl, -⟩ := List.cons_prefix_cons.1 hmid
      exact Option.some.inj hu ▸ hfirst rfl
    | cons b mid =>
      obtain ⟨rfl, hrest⟩ := List.cons_prefix_cons.1 hmid
      obtain ⟨t', ht', hu⟩ := run_cons_eq_some.1 hu
      obtain rfl := Option.some.inj (ht'.symm.trans ht)
      rw [hcount, ← Nat.add_assoc]
      exact Nat.le_add_of_sub_le (h mid u hrest hu)

theorem paced_nil : Paced step cover pays pass margin s [] := by
  intro pre mid t u h
  exact absurd (List.prefix_nil.1 h) (by simp)

/-- What a first pass takes on is a debt to the later ones. -/
theorem paced_cons (ht : step s a = some t) :
    Paced step cover pays pass margin s (a :: actions) ↔
      (a = pass → Covers step cover pays pass (cover s - margin) t actions) ∧
        Paced step cover pays pass margin t actions := by
  constructor
  · intro h
    refine ⟨?_, fun pre mid u v hpre hu hv => ?_⟩
    · rintro rfl mid u hmid hu
      have hle := h [] mid s u (List.cons_prefix_cons.2 ⟨rfl, hmid⟩) rfl
        (run_cons_eq_some.2 ⟨t, ht, hu⟩)
      omega
    · exact h (a :: pre) mid u v (List.cons_prefix_cons.2 ⟨rfl, hpre⟩)
        (run_cons_eq_some.2 ⟨t, ht, hu⟩) hv
  · rintro ⟨hfirst, h⟩ pre mid u v hpre hu hv
    cases pre with
    | nil =>
      obtain ⟨rfl, hmid⟩ := List.cons_prefix_cons.1 hpre
      obtain rfl := Option.some.inj hu
      obtain ⟨t', ht', hv⟩ := run_cons_eq_some.1 hv
      obtain rfl := Option.some.inj (ht'.symm.trans ht)
      have hle := hfirst rfl mid v hmid hv
      omega
    | cons b pre =>
      obtain ⟨rfl, hrest⟩ := List.cons_prefix_cons.1 hpre
      obtain ⟨t', ht', hu⟩ := run_cons_eq_some.1 hu
      obtain rfl := Option.some.inj (ht'.symm.trans ht)
      exact h pre mid u v hrest hu hv

/-- The passes of a run find their debts covered exactly if what the first debt asks for is covered
at each of them, and what any of them takes on is covered at the later ones. -/
theorem allowed_iff_paced {Inv : σ → Prop} {owed : σ → ℕ} {ok : σ → α → Prop}
    (hpays : pays pass = false)
    (hpass : ∀ {s s' : σ}, Inv s → step s pass = some s' →
      (ok s pass ↔ owed s ≤ cover s) ∧
        (owed s ≤ cover s → Inv s' ∧ owed s' = max (owed s) (cover s - margin)))
    (hstep : ∀ {s s' : σ} {a : α}, Inv s → a ≠ pass → step s a = some s' →
      ok s a ∧ Inv s' ∧ owed s = owed s' + (pays a).toNat)
    (hinv : Inv s) (hrun : run step s actions = some s') :
    Allowed step ok s actions ↔
      Covers step cover pays pass (owed s) s actions ∧
        Paced step cover pays pass margin s actions := by
  induction actions generalizing s with
  | nil => exact iff_of_true trivial ⟨covers_nil, paced_nil⟩
  | cons a actions ih =>
    obtain ⟨t, ht, hrun⟩ := run_cons_eq_some.1 hrun
    rw [allowed_cons ht, covers_cons ht, paced_cons ht]
    by_cases ha : a = pass
    · obtain rfl := ha
      obtain ⟨hok, hnext⟩ := hpass hinv ht
      rw [hok, hpays, Bool.toNat_false, Nat.sub_zero, imp_iff_right rfl, imp_iff_right rfl,
        and_assoc]
      refine and_congr_right fun hle => ?_
      obtain ⟨hinv', howed⟩ := hnext hle
      rw [ih hinv' hrun, howed, covers_max, and_assoc]
    · obtain ⟨hok, hinv', howed⟩ := hstep hinv ha ht
      rw [ih hinv' hrun, howed, Nat.add_sub_cancel, and_iff_right hok,
        and_iff_right (fun h => absurd h ha), and_iff_right (fun h => absurd h ha)]

end Transition
