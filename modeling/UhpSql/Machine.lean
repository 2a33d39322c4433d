import Mathlib.Logic.Basic
import UhpSql.Transition

/-!
# Machines that answer

A machine takes actions and answers each of them. `run` lists the answers. `refines` : if each step
of one machine can be taken by another one in a related state, with the same answer, then so can a
run. `conserves` : if in each step what a state holds and what goes in is what comes out and what
the next state holds, then so it is over a run, with all that went in and all that came out in
order. `exists_run_of_allowed` : if each step that a specification allows can be taken by a machine
in a related state, with an answer that may be given, then so can a run.
-/

namespace Machine

variable {σ τ α ω β : Type*}

/-- The state after the actions, and the answers. -/
def run (step : σ → α → Option (σ × ω)) : σ → List α → Option (σ × List ω)
  | s, [] => some (s, [])
  | s, a :: actions =>
    (step s a).bind fun r => (run step r.1 actions).map fun r' => (r'.1, r.2 :: r'.2)

/-- What goes through a machine in a run, action by action. -/
def passed (through : α → ω → List β) (actions : List α) (answers : List ω) : List β :=
  (List.zipWith through actions answers).flatten

variable {step : σ → α → Option (σ × ω)}

theorem run_cons_eq_some {s s' : σ} {a : α} {actions : List α} {answers : List ω} :
    run step s (a :: actions) = some (s', answers) ↔
      ∃ t o rest, step s a = some (t, o) ∧ run step t actions = some (s', rest) ∧
        answers = o :: rest := by
  simp only [run, Option.bind_eq_some_iff, Option.map_eq_some_iff, Prod.exists, Prod.mk.injEq]
  constructor
  · rintro ⟨t, o, hstep, s'', rest, hrun, rfl, rfl⟩
    exact ⟨t, o, rest, hstep, hrun, rfl⟩
  · rintro ⟨t, o, rest, hstep, hrun, rfl⟩
    exact ⟨t, o, hstep, s', rest, hrun, rfl, rfl⟩

/-- What holds of the answer of each step holds of every answer of a run. -/
theorem answers_of_run {P : ω → Prop}
    (hstep : ∀ {s s' : σ} {a : α} {o : ω}, step s a = some (s', o) → P o) {s s' : σ}
    {actions : List α} {answers : List ω} (hrun : run step s actions = some (s', answers)) :
    ∀ o ∈ answers, P o := by
  induction actions generalizing s answers with
  | nil =>
    obtain ⟨-, rfl⟩ := Prod.mk.inj (Option.some.inj hrun)
    exact fun _ ho => absurd ho List.not_mem_nil
  | cons a actions ih =>
    obtain ⟨t, o, rest, ha, hrest, rfl⟩ := run_cons_eq_some.1 hrun
    exact List.forall_mem_cons.2 ⟨hstep ha, ih hrest⟩

/-- A run of a machine that refines another one is a run of that one, with the same answers. How the
states are related may depend on the actions that are still to come. -/
theorem refines_before {spec : τ → α → Option (τ × ω)} {R : List α → σ → τ → Prop}
    (hstep : ∀ {s s' : σ} {t : τ} {a : α} {rest : List α} {o : ω}, R (a :: rest) s t →
      step s a = some (s', o) → ∃ t', spec t a = some (t', o) ∧ R rest s' t')
    {s s' : σ} {t : τ} {actions : List α} {answers : List ω} (hst : R actions s t)
    (hrun : run step s actions = some (s', answers)) :
    ∃ t', run spec t actions = some (t', answers) ∧ R [] s' t' := by
  induction actions generalizing s t answers with
  | nil =>
    obtain ⟨rfl, rfl⟩ := Prod.mk.inj (Option.some.inj hrun)
    exact ⟨t, rfl, hst⟩
  | cons a actions ih =>
    obtain ⟨s₁, o, rest, ha, hrest, rfl⟩ := run_cons_eq_some.1 hrun
    obtain ⟨t₁, ha', hst'⟩ := hstep hst ha
    obtain ⟨t', hrun', hst''⟩ := ih hst' hrest
    exact ⟨t', run_cons_eq_some.2 ⟨t₁, o, rest, ha', hrun', rfl⟩, hst''⟩

/-- The same, for a relation that does not. -/
theorem refines {spec : τ → α → Option (τ × ω)} {R : σ → τ → Prop}
    (hstep : ∀ {s s' : σ} {t : τ} {a : α} {o : ω}, R s t → step s a = some (s', o) →
      ∃ t', spec t a = some (t', o) ∧ R s' t')
    {s s' : σ} {t : τ} {actions : List α} {answers : List ω} (hst : R s t)
    (hrun : run step s actions = some (s', answers)) :
    ∃ t', run spec t actions = some (t', answers) ∧ R s' t' := by
  refine refines_before (R := fun _ => R) ?_ hst hrun
  exact fun h ha => hstep h ha

/-- The actions can be taken one after the other, and these answers may be given to them. -/
inductive Answered (next : τ → α → Option τ) (answers : τ → α → ω → Prop) :
    τ → List α → List ω → τ → Prop
  | nil (t : τ) : Answered next answers t [] [] t
  | cons {t t' t'' : τ} {a : α} {o : ω} {actions : List α} {outs : List ω} :
    next t a = some t' → answers t a o → Answered next answers t' actions outs t'' →
      Answered next answers t (a :: actions) (o :: outs) t''

/-- The state that answered actions lead to. -/
theorem Answered.run {next : τ → α → Option τ} {answers : τ → α → ω → Prop} {t t' : τ}
    {actions : List α} {outs : List ω} (h : Answered next answers t actions outs t') :
    Transition.run next t actions = some t' := by
  induction h with
  | nil => rfl
  | cons hnext _ _ ih => exact Transition.run_cons_eq_some.2 ⟨_, hnext, ih⟩

/-- A machine that takes every action which is allowed in a related state of a specification, with
an answer that may be given there, takes every run of such actions. -/
theorem exists_run_of_allowed {next : τ → α → Option τ} {answers : τ → α → ω → Prop}
    {ok : τ → α → Prop} {R : σ → τ → Prop}
    (hstep : ∀ {s : σ} {t : τ} {a : α}, R s t → ok t a →
      ∃ s' o t', step s a = some (s', o) ∧ next t a = some t' ∧ answers t a o ∧ R s' t')
    {s : σ} {t : τ} {actions : List α} (hst : R s t)
    (h : Transition.Allowed next ok t actions) :
    ∃ s' outs t', run step s actions = some (s', outs) ∧
      Answered next answers t actions outs t' ∧ R s' t' := by
  induction actions generalizing s t with
  | nil => exact ⟨s, [], t, rfl, .nil t, hst⟩
  | cons a actions ih =>
    obtain ⟨ha, h⟩ := h
    obtain ⟨s₁, o, t₁, hs, ht, hanswer, hst₁⟩ := hstep hst ha
    obtain ⟨s', outs, t', hrun, hanswers, hst'⟩ := ih hst₁ (h t₁ ht)
    exact ⟨s', o :: outs, t', run_cons_eq_some.2 ⟨s₁, o, outs, hs, hrun, rfl⟩,
      .cons ht hanswer hanswers, hst'⟩

/-- Nothing is lost, made up or put out of order. -/
theorem conserves {holds : σ → List β} {put got : α → ω → List β}
    (hstep : ∀ {s s' : σ} {a : α} {o : ω}, step s a = some (s', o) →
      holds s ++ put a o = got a o ++ holds s')
    {s s' : σ} {actions : List α} {answers : List ω}
    (hrun : run step s actions = some (s', answers)) :
    holds s ++ passed put actions answers = passed got actions answers ++ holds s' := by
  induction actions generalizing s answers with
  | nil =>
    obtain ⟨rfl, rfl⟩ := Prod.mk.inj (Option.some.inj hrun)
    exact List.append_nil _
  | cons a actions ih =>
    obtain ⟨t, o, rest, ha, hrest, rfl⟩ := run_cons_eq_some.1 hrun
    simp only [passed, List.zipWith_cons_cons, List.flatten_cons, List.append_assoc] at ih ⊢
    rw [← List.append_assoc, hstep ha, List.append_assoc, ih hrest]

end Machine
