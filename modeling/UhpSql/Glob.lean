import Mathlib.Data.List.Infix
import Mathlib.Order.Lattice

/-!
# Glob patterns

A pattern is read into tokens (`parse`) and the tokens are matched against a text
(`matchToks`) : `*` stands for any text, `?` for one character, `[..]` for one character of
a set given by characters and ranges (`[^..]` for one outside it), and an escaped character
for itself. A set that is never closed ends with the pattern.

The alphabet is any ordered type, with the seven special characters given as a `Syntax`.
`glob_append` : a stretch of a pattern with no special character in it matches itself and
nothing else. `glob_literal_star` : followed by `*` it matches the texts that begin with it.
-/

namespace Glob

variable {α : Type*}

/-- The special characters of a pattern. -/
structure Syntax (α : Type*) where
  star : α
  any : α
  setOpen : α
  setClose : α
  caret : α
  dash : α
  escape : α

/-- Whether `c` starts something other than itself outside a set. -/
def Syntax.Special (S : Syntax α) (c : α) : Prop :=
  c = S.star ∨ c = S.any ∨ c = S.setOpen ∨ c = S.escape

instance [DecidableEq α] (S : Syntax α) (c : α) : Decidable (S.Special c) := by
  unfold Syntax.Special
  infer_instance

/-- One piece of a pattern. A set lists the ends of its ranges; `negated` is `[^..]`. -/
inductive Tok (α : Type*) where
  | star
  | any
  | lit (c : α)
  | set (negated : Bool) (ranges : List (α × α))

/-- The two ends of a range, the smaller first. -/
def range [LinearOrder α] (a b : α) : α × α :=
  (min a b, max a b)

/-- The ranges of a set up to its end, and the pattern after it. -/
def parseSet [LinearOrder α] (S : Syntax α) : List α → List (α × α) × List α
  | [] => ([], [])
  | [c] => if c = S.setClose then ([], []) else ([(c, c)], [])
  | [c, x] =>
    if c = S.escape then ([(x, x)], [])
    else if c = S.setClose then ([], [x])
    else if x = S.setClose then ([(c, c)], [])
    else ([(c, c), (x, x)], [])
  | c :: x :: y :: rest =>
    if c = S.escape then ((x, x) :: (parseSet S (y :: rest)).1, (parseSet S (y :: rest)).2)
    else if c = S.setClose then ([], x :: y :: rest)
    else if x = S.dash then (range c y :: (parseSet S rest).1, (parseSet S rest).2)
    else ((c, c) :: (parseSet S (x :: y :: rest)).1, (parseSet S (x :: y :: rest)).2)

/-- The tokens of a pattern. Each takes at least one character, so the length of the
pattern is fuel enough. -/
def parseLoop [LinearOrder α] (S : Syntax α) : ℕ → List α → List (Tok α)
  | 0, _ => []
  | _, [] => []
  | n + 1, c :: p =>
    if c = S.star then .star :: parseLoop S n p
    else if c = S.any then .any :: parseLoop S n p
    else if c = S.setOpen then
      match p with
      | [] => [.set false []]
      | x :: q =>
        if x = S.caret then .set true (parseSet S q).1 :: parseLoop S n (parseSet S q).2
        else .set false (parseSet S p).1 :: parseLoop S n (parseSet S p).2
    else if c = S.escape then
      match p with
      | [] => [.lit c]
      | x :: q => .lit x :: parseLoop S n q
    else .lit c :: parseLoop S n p

/-- The tokens of a whole pattern. -/
def parse [LinearOrder α] (S : Syntax α) (p : List α) : List (Tok α) :=
  parseLoop S p.length p

/-- Whether a token that stands for one character stands for `c`. -/
def Tok.accepts [LinearOrder α] : Tok α → α → Bool
  | .star, _ => false
  | .any, _ => true
  | .lit a, c => a = c
  | .set negated ranges, c => (ranges.any fun r => r.1 ≤ c ∧ c ≤ r.2) != negated

/-- Match tokens against a whole text. -/
def matchToks [LinearOrder α] : List (Tok α) → List α → Bool
  | [], s => s.isEmpty
  | .star :: ts, s => s.tails.any fun r => matchToks ts r
  | _ :: _, [] => false
  | t :: ts, c :: s => t.accepts c && matchToks ts s

variable [LinearOrder α] (S : Syntax α)

/-- Whether the pattern matches the whole text. -/
def glob (p s : List α) : Bool :=
  matchToks (parse S p) s

theorem matchToks_lit (ts : List (Tok α)) :
    ∀ u s : List α, matchToks (u.map .lit ++ ts) s ↔ ∃ r, s = u ++ r ∧ matchToks ts r
  | [], s => by simp
  | c :: u, [] => by simp [matchToks]
  | c :: u, a :: s => by
    simp only [List.map_cons, List.cons_append, matchToks, Tok.accepts, Bool.and_eq_true,
      decide_eq_true_eq, List.cons.injEq, matchToks_lit ts u s]
    constructor
    · rintro ⟨rfl, r, rfl, hr⟩
      exact ⟨r, ⟨rfl, rfl⟩, hr⟩
    · rintro ⟨r, ⟨rfl, rfl⟩, hr⟩
      exact ⟨rfl, r, rfl, hr⟩

/-- A single `*` at the end matches every text. -/
theorem matchToks_star (s : List α) : matchToks [Tok.star] s := by
  simp only [matchToks, List.any_eq_true, List.mem_tails, List.isEmpty_iff]
  exact ⟨[], List.nil_suffix, rfl⟩

variable {S}

theorem parseLoop_append {u : List α} (hu : ∀ c ∈ u, ¬S.Special c) (p : List α) (n : ℕ) :
    parseLoop S (u.length + n) (u ++ p) = u.map .lit ++ parseLoop S n p := by
  induction u with
  | nil => simp
  | cons c u ih =>
    have hc := hu c (by simp)
    simp only [Syntax.Special, not_or] at hc
    obtain ⟨h1, h2, h3, h4⟩ := hc
    have ih := ih fun a ha => hu a (by simp [ha])
    rw [List.length_cons, Nat.add_right_comm, List.cons_append]
    simp only [parseLoop, h1, h2, h3, h4, if_false, ih, List.map_cons, List.cons_append]

/-- A stretch of a pattern with no special character in it matches itself. -/
theorem glob_append {u : List α} (hu : ∀ c ∈ u, ¬S.Special c) (p s : List α) :
    glob S (u ++ p) s ↔ ∃ r, s = u ++ r ∧ glob S p r := by
  unfold glob parse
  rw [List.length_append, parseLoop_append hu, matchToks_lit]

theorem glob_star (s : List α) : glob S [S.star] s := by
  simpa [glob, parse, parseLoop] using matchToks_star s

/-- Followed by `*`, such a stretch matches the texts that begin with it. -/
theorem glob_literal_star {u : List α} (hu : ∀ c ∈ u, ¬S.Special c) (s : List α) :
    glob S (u ++ [S.star]) s ↔ u <+: s := by
  rw [glob_append hu]
  constructor
  · rintro ⟨r, rfl, -⟩
    exact List.prefix_append u r
  · rintro ⟨r, rfl⟩
    exact ⟨r, rfl, glob_star r⟩

end Glob
