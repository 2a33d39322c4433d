import Mathlib.Algebra.Order.Ring.Nat
import Mathlib.Data.UInt

/-!
# The MySQL wire format

Numbers are little-endian. A length-encoded integer is one byte below 251, or a marker and
the two, three or eight bytes after it. A length-encoded string is its length and its bytes.
A packet is the length of its payload in three bytes, a sequence number and the payload.

`decodeStrings_flatMap` : a run of length-encoded strings is read back as these strings, and
as no other number of strings. `parse_flatMap_bytes` : a run of packets is cut at its packets.
-/

namespace Wire

/-- The `k` low bytes of `n`, the least first. -/
def leBytes : ℕ → ℕ → List UInt8
  | 0, _ => []
  | k + 1, n => UInt8.ofNat n :: leBytes k (n / 256)

/-- The number with the given bytes, the least first. -/
def leVal : List UInt8 → ℕ
  | [] => 0
  | b :: bs => b.toNat + 256 * leVal bs

@[simp] theorem length_leBytes : ∀ k n : ℕ, (leBytes k n).length = k
  | 0, _ => rfl
  | k + 1, n => congrArg (· + 1) (length_leBytes k (n / 256))

theorem leVal_leBytes : ∀ {k n : ℕ}, n < 256 ^ k → leVal (leBytes k n) = n
  | 0, n, h => by
    rw [pow_zero, Nat.lt_one_iff] at h
    rw [h]
    rfl
  | k + 1, n, h => by
    have hdiv : n / 256 < 256 ^ k := by
      rw [pow_succ] at h
      exact Nat.div_lt_of_lt_mul (by rwa [mul_comm])
    rw [leBytes, leVal, leVal_leBytes hdiv, UInt8.toNat_ofNat']
    exact Nat.mod_add_div n 256

/-- The low bits of a number and the byte above them, put together by `|`. -/
theorem mod_or_byte (k n : ℕ) : n % 2 ^ k ||| 2 ^ k * (n / 2 ^ k % 256) = n % 2 ^ (k + 8) := by
  have hor : 2 ^ k * (n / 2 ^ k % 256) + n % 2 ^ k = 2 ^ k * (n / 2 ^ k % 256) ||| n % 2 ^ k :=
    Nat.two_pow_add_eq_or_of_lt (Nat.mod_lt n (Nat.two_pow_pos k)) _
  rw [Nat.or_comm, ← hor, Nat.pow_add, Nat.mod_mul, Nat.add_comm]

/-- Four bytes in their places make up a word. -/
theorem or_places_u32 {v b0 b8 b16 b24 : UInt32} (h0 : b0.toNat = v.toNat % 2 ^ 8)
    (h8 : b8.toNat = 2 ^ 8 * (v.toNat / 2 ^ 8 % 256))
    (h16 : b16.toNat = 2 ^ 16 * (v.toNat / 2 ^ 16 % 256))
    (h24 : b24.toNat = 2 ^ 24 * (v.toNat / 2 ^ 24 % 256)) : b0 ||| b8 ||| b16 ||| b24 = v := by
  rw [← UInt32.toNat_inj, UInt32.toNat_or, UInt32.toNat_or, UInt32.toNat_or, h0, h8, h16, h24,
    mod_or_byte, mod_or_byte, mod_or_byte]
  exact Nat.mod_eq_of_lt v.toNat_lt

/-! ## Length-encoded integers and strings -/

def encode (n : ℕ) : List UInt8 :=
  if n < 251 then [UInt8.ofNat n]
  else if n < 2 ^ 16 then 0xfc :: leBytes 2 n
  else if n < 2 ^ 24 then 0xfd :: leBytes 3 n
  else 0xfe :: leBytes 8 n

/-- `k` bytes as a number, and the bytes after them. -/
def takeNat (k : ℕ) (bs : List UInt8) : Option (ℕ × List UInt8) :=
  if k ≤ bs.length then some (leVal (bs.take k), bs.drop k) else none

/-- A length-encoded integer, and the bytes after it. -/
def decode : List UInt8 → Option (ℕ × List UInt8)
  | [] => none
  | b :: bs =>
    if b = 0xfc then takeNat 2 bs
    else if b = 0xfd then takeNat 3 bs
    else if b = 0xfe then takeNat 8 bs
    else if b < 251 then some (b.toNat, bs)
    else none

theorem takeNat_leBytes {k n : ℕ} (h : n < 256 ^ k) (bs : List UInt8) :
    takeNat k (leBytes k n ++ bs) = some (n, bs) := by
  have hlen : k ≤ (leBytes k n ++ bs).length := by simp
  rw [takeNat, if_pos hlen, List.take_left' (length_leBytes k n),
    List.drop_left' (length_leBytes k n), leVal_leBytes h]

theorem decode_encode {n : ℕ} (h : n < 2 ^ 64) (bs : List UInt8) :
    decode (encode n ++ bs) = some (n, bs) := by
  unfold encode
  split_ifs with h1 h2 h3
  · have hn : (UInt8.ofNat n).toNat = n := by
      rw [UInt8.toNat_ofNat', Nat.mod_eq_of_lt (by omega)]
    have hlt : UInt8.ofNat n < 251 := by
      rw [UInt8.lt_iff_toNat_lt, hn]
      exact h1
    have hne : ∀ m : UInt8, 251 ≤ m → UInt8.ofNat n ≠ m := by
      rintro m hm rfl
      exact absurd hlt (UInt8.not_lt.2 hm)
    simp [decode, hne 0xfc (by decide), hne 0xfd (by decide), hne 0xfe (by decide), hlt, hn]
  · exact takeNat_leBytes (k := 2) (by omega) bs
  · exact takeNat_leBytes (k := 3) (by omega) bs
  · exact takeNat_leBytes (k := 8) (by omega) bs

/-- A length-encoded string. -/
def encodeString (s : List UInt8) : List UInt8 :=
  encode s.length ++ s

/-- A length-encoded string, and the bytes after it. -/
def decodeString (bs : List UInt8) : Option (List UInt8 × List UInt8) :=
  match decode bs with
  | none => none
  | some (n, rest) => if n ≤ rest.length then some (rest.take n, rest.drop n) else none

theorem decodeString_encodeString {s : List UInt8} (h : s.length < 2 ^ 64) (bs : List UInt8) :
    decodeString (encodeString s ++ bs) = some (s, bs) := by
  simp [decodeString, encodeString, List.append_assoc, decode_encode h]

/-- Exactly `n` length-encoded strings. -/
def decodeStrings : ℕ → List UInt8 → Option (List (List UInt8))
  | 0, bs => if bs = [] then some [] else none
  | n + 1, bs =>
    match decodeString bs with
    | none => none
    | some (s, rest) => (decodeStrings n rest).map (s :: ·)

theorem encodeString_ne_nil (s : List UInt8) : encodeString s ≠ [] := by
  unfold encodeString encode
  split_ifs <;> simp

/-- A run of strings is read back as it is, and as no other number of strings. -/
theorem decodeStrings_flatMap : ∀ {n : ℕ} {row : List (List UInt8)},
    (∀ s ∈ row, s.length < 2 ^ 64) →
      decodeStrings n (row.flatMap encodeString) = if row.length = n then some row else none
  | 0, [], _ => rfl
  | 0, s :: row, _ => by
    have hne := encodeString_ne_nil s
    simp [decodeStrings, hne]
  | n + 1, [], _ => rfl
  | n + 1, s :: row, h => by
    have ih := @decodeStrings_flatMap n row fun s hs => h s (by simp [hs])
    rw [List.flatMap_cons, decodeStrings, decodeString_encodeString (h s (by simp))]
    simp only [ih, List.length_cons, Nat.add_right_cancel_iff]
    split_ifs <;> rfl

/-! ## Packets -/

/-- A packet. Its payload fits the three bytes of its length. -/
structure Packet where
  seq : UInt8
  payload : List UInt8
  length_lt : payload.length < 2 ^ 24
  deriving DecidableEq

namespace Packet

/-- The bytes of a packet. -/
def bytes (p : Packet) : List UInt8 :=
  leBytes 3 p.payload.length ++ p.seq :: p.payload

theorem length_bytes (p : Packet) : p.bytes.length = p.payload.length + 4 := by
  simp [bytes]
  omega

theorem bytes_ne_nil (p : Packet) : p.bytes ≠ [] := by
  rw [← List.length_pos_iff, length_bytes]
  omega

/-- The first packet of a text, and the bytes after it. -/
def parse (bs : List UInt8) : Option (Packet × List UInt8) :=
  match takeNat 3 bs with
  | some (n, seq :: rest) =>
    if h : (rest.take n).length < 2 ^ 24 ∧ n ≤ rest.length then
      some (⟨seq, rest.take n, h.1⟩, rest.drop n)
    else none
  | _ => none

theorem parse_bytes (p : Packet) (bs : List UInt8) : parse (p.bytes ++ bs) = some (p, bs) := by
  have h : takeNat 3 (p.bytes ++ bs) = some (p.payload.length, p.seq :: (p.payload ++ bs)) := by
    have hlt := p.length_lt
    rw [bytes, List.append_assoc, takeNat_leBytes (by omega), List.cons_append]
  simp [parse, h, show p.payload.length < 16777216 from p.length_lt]

/-- Packets are cut apart in one way only. -/
theorem flatMap_bytes_injective :
    Function.Injective fun ps : List Packet => ps.flatMap bytes := by
  intro ps
  induction ps with
  | nil =>
    intro qs h
    cases qs with
    | nil => rfl
    | cons q qs =>
      have hlen := congrArg List.length h
      simp only [List.flatMap_nil, List.flatMap_cons, List.length_nil, List.length_append,
        length_bytes] at hlen
      omega
  | cons p ps ih =>
    intro qs h
    cases qs with
    | nil =>
      have hlen := congrArg List.length h
      simp only [List.flatMap_nil, List.flatMap_cons, List.length_nil, List.length_append,
        length_bytes] at hlen
      omega
    | cons q qs =>
      have hp := parse_bytes p (ps.flatMap bytes)
      have hq := parse_bytes q (qs.flatMap bytes)
      simp only [List.flatMap_cons] at h
      rw [h, hq] at hp
      obtain ⟨rfl, hrest⟩ := Prod.mk.inj (Option.some.inj hp)
      rw [ih hrest.symm]

end Packet

end Wire
