import Mathlib.Data.List.Infix
import Mathlib.Order.Basic

/-!
# Runs of a transition function

A function `step` says what an action does in a state, if it can be taken there. A run is a list
of actions taken one after the other. `Allowed` : each action of a run meets a condition in the
state where it is taken. `invariant_of_run` : what every action that meets the condition keeps,
holds at the end of such a run, and so in every state on the way (`Allowed.of_prefix`).
`throughout_iff_allowed` is the other direction : a property that each action decides anew holds in
all these states exactly when every action meets the condition.
-/

namespace Transition

variable {σ α : Type*}

/-- The state after the actions. -/
def run (step : σ → α → Option σ) : σ → List α → Option σ
  | s, [] => some s
  | s, a :: actions => (step s a).bind fun s' => run step s' actions

/-- Every action meets the condition in the state where it is taken. -/
def Allowed (step : σ → α → Option σ) (ok : σ → α → Prop) : σ → List α → Prop
  | _, [] => True
  | s, a :: actions => ok s a ∧ ∀ s' ∈ step s a, Allowed step ok s' actions

/-- The property holds in every state on the way, the first and the last included. -/
def Throughout (step : σ → α → Option σ) (P : σ → Prop) (s : σ) (actions : List α) : Prop :=
  ∀ pre t, pre <+: actions → run step s pre = some t → P t

variable {step : σ → α → Option σ} {ok : σ → α → Prop}

theorem run_cons_eq_some {s s' : σ} {a : α} {actions : List α} :
    run step s (a :: actions) = some s' ↔ ∃ t, step s a = some t ∧ run step t actions = some s' :=
  Option.bind_eq_some_iff

theorem allowed_cons {s t : σ} {a : α} {actions : List α} (hs : step s a = some t) :
    Allowed step ok s (a :: actions) ↔ ok s a ∧ Allowed step ok t actions := by
  refine and_congr_right fun _ => ⟨fun h => h t hs, fun h s' hs' => ?_⟩
  rwa [Option.some.inj (hs'.symm.trans hs)]

theorem Allowed.cons {s t : σ} {a : α} {actions : List α} (ha : ok s a) (hs : step s a = some t)
    (h : Allowed step ok t actions) : Allowed step ok s (a :: actions) :=
  (allowed_cons hs).2 ⟨ha, h⟩

/-- What holds of a run holds of its beginnings. -/
theorem Allowed.of_prefix {s : σ} {pre actions : List α} (h : Allowed step ok s actions)
    (hpre : pre <+: actions) : Allowed step ok s pre := by
  induction pre generalizing s actions with
  | nil => trivial
  | cons a pre ih =>
    obtain ⟨rest, rfl⟩ := hpre
    obtain ⟨ha, h⟩ := h
    exact ⟨ha, fun s' hs' => ih (h s' hs') (List.prefix_append ..)⟩

/-- An invariant of the actions that meet the condition. -/
theorem invariant_of_run {Inv : σ → Prop}
    (hstep : ∀ {s s' : σ} {a : α}, Inv s → ok s a → step s a = some s' → Inv s')
    {s s' : σ} {actions : List α} (hinv : Inv s) (h : Allowed step ok s actions)
    (hrun : run step s actions = some s') : Inv s' := by
  induction actions generalizing s with
  | nil => rwa [← Option.some.inj hrun]
  | cons a actions ih =>
    obtain ⟨t, ht, hrun⟩ := run_cons_eq_some.1 hrun
    obtain ⟨ha, h⟩ := h
    exact ih (hstep hinv ha ht) (h t ht) hrun

/-- What every action keeps holds in every state on the way. -/
theorem throughout_of_step {Inv : σ → Prop}
    (hstep : ∀ {s s' : σ} {a : α}, Inv s → step s a = some s' → Inv s') {s : σ}
    {actions : List α} (hinv : Inv s) : Throughout step Inv s actions := by
  rintro pre t - hrun
  induction pre generalizing s with
  | nil => rwa [← Option.some.inj hrun]
  | cons a pre ih =>
    obtain ⟨t', ht, hrun⟩ := run_cons_eq_some.1 hrun
    exact ih (hstep hinv ht) hrun

/-- Where every action can be taken, and what is safe stays so exactly under the actions that meet a
condition, the safe runs are those whose actions all meet it. -/
theorem exists_run_iff {Inv Safe : σ → Prop} {pre : σ → α → Prop}
    (hstep : ∀ {s : σ} {a : α}, Inv s → pre s a →
      ∃ s', step s a = some s' ∧ Inv s' ∧ (Safe s' ↔ Safe s ∧ ok s a))
    {s : σ} {actions : List α} (hinv : Inv s) (h : Allowed step pre s actions) :
    ∃ s', run step s actions = some s' ∧ Inv s' ∧
      (Safe s' ↔ Safe s ∧ Allowed step ok s actions) := by
  induction actions generalizing s with
  | nil => exact ⟨s, rfl, hinv, (and_iff_left trivial).symm⟩
  | cons a actions ih =>
    obtain ⟨ha, h⟩ := h
    obtain ⟨t, ht, htinv, htsafe⟩ := hstep hinv ha
    obtain ⟨s', hrun, hinv', hsafe⟩ := ih htinv (h t ht)
    refine ⟨s', run_cons_eq_some.2 ⟨t, ht, hrun⟩, hinv', ?_⟩
    rw [hsafe, htsafe, and_assoc, allowed_cons ht]

/-- Where the actions that meet a condition are those after which a safe state is still safe, a run
from a safe state goes through safe states exactly when its actions all meet it. -/
theorem throughout_iff_allowed {Inv Safe : σ → Prop}
    (hstep : ∀ {s s' : σ} {a : α}, Inv s → Safe s → step s a = some s' →
      Inv s' ∧ (Safe s' ↔ ok s a))
    {s s' : σ} {actions : List α} (hinv : Inv s) (hsafe : Safe s)
    (hrun : run step s actions = some s') :
    Throughout step Safe s actions ↔ Allowed step ok s actions := by
  induction actions generalizing s with
  | nil =>
    refine iff_of_true (fun pre t hpre ht => ?_) trivial
    rw [List.prefix_nil.1 hpre] at ht
    exact Option.some.inj ht ▸ hsafe
  | cons a actions ih =>
    obtain ⟨t, ht, hrun⟩ := run_cons_eq_some.1 hrun
    obtain ⟨hinv', hsafe'⟩ := hstep hinv hsafe ht
    constructor
    · intro h
      have htsafe : Safe t :=
        h [a] t (List.prefix_append [a] actions) (run_cons_eq_some.2 ⟨t, ht, rfl⟩)
      refine .cons (hsafe'.1 htsafe) ht ((ih hinv' htsafe hrun).1 fun pre t' hpre ht' => ?_)
      exact h (a :: pre) t' (List.cons_prefix_cons.2 ⟨rfl, hpre⟩) (run_cons_eq_some.2 ⟨t, ht, ht'⟩)
    · rintro ⟨ha, hall⟩ pre t' hpre ht'
      cases pre with
      | nil => exact Option.some.inj ht' ▸ hsafe
      | cons b pre =>
        obtain ⟨rfl, hpre'⟩ := List.cons_prefix_cons.1 hpre
        obtain ⟨t₁, ht₁, ht'⟩ := run_cons_eq_some.1 ht'
        obtain rfl := Option.some.inj (ht₁.symm.trans ht)
        exact (ih hinv' (hsafe'.2 ha) hrun).2 (hall _ ht) pre t' hpre' ht'

end Transition
