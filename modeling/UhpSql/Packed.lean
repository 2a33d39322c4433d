import Mathlib.Data.Nat.Bitwise

/-!
# Tables packed into a number

A list of numbers below `2 ^ w` is one number with `w` bits for each of them, and an entry is read
with a shift (`nth_pack`). Lists of such lists are packed once more (`rows_pack`). A decision
procedure reads an entry of a long table faster this way than it walks the list.
-/

namespace Packed

/-- The numbers of a list, the first in the lowest bits. -/
def pack (w : ℕ) : List ℕ → ℕ
  | [] => 0
  | a :: l => pack w l <<< w ||| a

/-- An entry. -/
def nth (w n i : ℕ) : ℕ :=
  n >>> (w * i) % 2 ^ w

/-- The entries up to the first 0, at most `k` of them. -/
def unpack (w : ℕ) : ℕ → ℕ → List ℕ
  | 0, _ => []
  | _ + 1, 0 => []
  | k + 1, n + 1 => (n + 1) % 2 ^ w :: unpack w k ((n + 1) >>> w)

/-- A list of lists of at most `k` numbers. -/
def packRows (w k : ℕ) (ls : List (List ℕ)) : ℕ :=
  pack (w * k) (ls.map (pack w))

/-- One of the lists. -/
def row (w k n i : ℕ) : List ℕ :=
  unpack w k (nth (w * k) n i)

variable {w : ℕ}

theorem pack_cons {a : ℕ} (ha : a < 2 ^ w) (l : List ℕ) :
    pack w (a :: l) = 2 ^ w * pack w l + a := by
  rw [pack, ← Nat.shiftLeft_add_eq_or_of_lt ha, Nat.shiftLeft_eq, Nat.mul_comm]

theorem shiftRight_pack_cons {a : ℕ} (ha : a < 2 ^ w) (l : List ℕ) :
    pack w (a :: l) >>> w = pack w l := by
  rw [pack_cons ha, Nat.shiftRight_eq_div_pow, Nat.mul_add_div (Nat.two_pow_pos w),
    Nat.div_eq_of_lt ha, Nat.add_zero]

theorem pack_cons_mod {a : ℕ} (ha : a < 2 ^ w) (l : List ℕ) : pack w (a :: l) % 2 ^ w = a := by
  rw [pack_cons ha, Nat.mul_add_mod, Nat.mod_eq_of_lt ha]

theorem nth_pack {l : List ℕ} (h : ∀ a ∈ l, a < 2 ^ w) (i : ℕ) :
    nth w (pack w l) i = l.getD i 0 := by
  induction l generalizing i with
  | nil => simp [nth, pack]
  | cons a l ih =>
    have ha := h a List.mem_cons_self
    cases i with
    | zero => exact pack_cons_mod ha l
    | succ i =>
      rw [List.getD_cons_succ, ← ih fun b hb => h b (List.mem_cons_of_mem a hb), nth, nth,
        Nat.mul_succ, Nat.add_comm, Nat.shiftRight_add, shiftRight_pack_cons ha]

theorem pack_lt {l : List ℕ} {k : ℕ} (h : ∀ a ∈ l, a < 2 ^ w) (hk : l.length ≤ k) :
    pack w l < 2 ^ (w * k) := by
  induction l generalizing k with
  | nil => exact Nat.two_pow_pos _
  | cons a l ih =>
    obtain ⟨k, rfl⟩ := Nat.exists_eq_add_one_of_ne_zero (Nat.ne_zero_of_lt hk)
    have hl := ih (fun b hb => h b (List.mem_cons_of_mem a hb)) (Nat.le_of_succ_le_succ hk)
    have ha := h a List.mem_cons_self
    calc pack w (a :: l) = 2 ^ w * pack w l + a := pack_cons ha l
      _ < 2 ^ w * pack w l + 2 ^ w := Nat.add_lt_add_left ha _
      _ = 2 ^ w * (pack w l + 1) := (Nat.mul_succ _ _).symm
      _ ≤ 2 ^ w * 2 ^ (w * k) := Nat.mul_le_mul_left _ hl
      _ = 2 ^ (w * (k + 1)) := by rw [← Nat.pow_add, Nat.mul_succ, Nat.add_comm]

theorem unpack_pack {l : List ℕ} {k : ℕ} (h : ∀ a ∈ l, a < 2 ^ w) (h₀ : ∀ a ∈ l, a ≠ 0)
    (hk : l.length ≤ k) : unpack w k (pack w l) = l := by
  induction l generalizing k with
  | nil => cases k <;> rfl
  | cons a l ih =>
    obtain ⟨k, rfl⟩ := Nat.exists_eq_add_one_of_ne_zero (Nat.ne_zero_of_lt hk)
    have ha := h a List.mem_cons_self
    have hpos : pack w (a :: l) ≠ 0 := by
      rw [pack_cons ha]
      exact Nat.ne_of_gt (Nat.add_pos_right _ (Nat.pos_of_ne_zero (h₀ a List.mem_cons_self)))
    obtain ⟨n, hn⟩ := Nat.exists_eq_add_one_of_ne_zero hpos
    rw [hn, unpack, ← hn, pack_cons_mod ha, shiftRight_pack_cons ha,
      ih (fun b hb => h b (List.mem_cons_of_mem a hb))
        (fun b hb => h₀ b (List.mem_cons_of_mem a hb)) (Nat.le_of_succ_le_succ hk)]

theorem nth_packRows {k : ℕ} {ls : List (List ℕ)}
    (h : ∀ l ∈ ls, l.length ≤ k ∧ ∀ a ∈ l, a < 2 ^ w) (i : ℕ) :
    nth (w * k) (packRows w k ls) i = pack w (ls.getD i []) := by
  have hlt : ∀ n ∈ ls.map (pack w), n < 2 ^ (w * k) := by
    intro n hn
    obtain ⟨l, hl, rfl⟩ := List.mem_map.1 hn
    exact pack_lt (h l hl).2 (h l hl).1
  rw [packRows, nth_pack hlt, List.getD_eq_getElem?_getD, List.getElem?_map,
    List.getD_eq_getElem?_getD]
  cases ls[i]? <;> rfl

theorem row_packRows {k : ℕ} {ls : List (List ℕ)}
    (h : ∀ l ∈ ls, l.length ≤ k ∧ ∀ a ∈ l, a < 2 ^ w) (h₀ : ∀ l ∈ ls, ∀ a ∈ l, a ≠ 0) (i : ℕ) :
    row w k (packRows w k ls) i = ls.getD i [] := by
  rw [row, nth_packRows h, List.getD_eq_getElem?_getD]
  cases hl : ls[i]? with
  | none => cases k <;> rfl
  | some l =>
    have hmem := List.mem_of_getElem? hl
    exact unpack_pack (h l hmem).2 (h₀ l hmem) (h l hmem).1

end Packed
