import Mathlib.Data.UInt
import Mathlib.Order.Basic
import UhpSql.Delimited

/-!
# Strings of the server (`network/string_utils.h`)

Every `std::string` of the executor and of the catalog is built from `char*` values : the
names and literals of the parser, replies of the store, and string constants. None holds a
NUL, so a string is a list of `CChar`, a byte other than NUL, and `c_str()` loses nothing.
Packets of the wire protocol do hold NULs and are lists of `UInt8`.

A row is stored as its fields joined with `$$` and read back with `stringSplit`, which trims.
`stringSplit_stringsJoin_iff` says which rows survive, and `rowCodec_iff` says it for rows of
bytes.
-/

namespace UhpSql

/-! ## Characters -/

/-- Types of `char` values : all bytes, or the bytes other than NUL. -/
class CharType (α : Type) where
  byte : α → UInt8

instance : CharType UInt8 :=
  ⟨id⟩

/-- A character of a `char*` string. -/
@[ext]
structure CChar where
  byte : UInt8
  ne_zero : byte ≠ 0
  deriving DecidableEq

instance : CharType CChar :=
  ⟨CChar.byte⟩

/-- `std::string::compare` compares characters as unsigned bytes. -/
instance : LinearOrder CChar where
  le a b := a.byte.toNat ≤ b.byte.toNat
  lt a b := a.byte.toNat < b.byte.toNat
  le_refl _ := Nat.le_refl _
  le_trans _ _ _ := Nat.le_trans
  lt_iff_le_not_ge _ _ := Nat.lt_iff_le_and_not_ge
  le_antisymm _ _ h h' := CChar.ext (UInt8.toNat_inj.1 (Nat.le_antisymm h h'))
  le_total _ _ := Nat.le_total _ _
  toDecidableLE a b := inferInstanceAs (Decidable (a.byte.toNat ≤ b.byte.toNat))
  toDecidableLT a b := inferInstanceAs (Decidable (a.byte.toNat < b.byte.toNat))
  toDecidableEq := inferInstance

/-- A NUL-free string. -/
abbrev Str :=
  List CChar

/-- The character with a code between 1 and 255. -/
def CChar.ofChar (c : Char) : CChar :=
  if h : c.toNat.toUInt8 ≠ 0 then ⟨c.toNat.toUInt8, h⟩ else ⟨63, by decide⟩

/-- A string constant of the source. -/
def str (s : String) : Str :=
  s.toList.map CChar.ofChar

/-- The bytes of a string, as a packet carries them. -/
def Str.bytes (s : Str) : List UInt8 :=
  s.map CChar.byte

@[simp] theorem Str.length_bytes (s : Str) : s.bytes.length = s.length := by
  simp [Str.bytes]

/-! ## Trim, StringSplit and StringsJoin -/

section
variable {α : Type} [CharType α]

/-- `s[i] <= 32`. A `char` is signed, so the bytes from 128 on are blank too. -/
def isBlank (c : α) : Bool :=
  CharType.byte c ≤ 32 || 128 ≤ CharType.byte c

/-- `Trim`. -/
def trim (s : List α) : List α :=
  Delimited.trim isBlank s

variable [DecidableEq α]

/-- `StringSplit`. -/
def stringSplit (s d : List α) : List (List α) :=
  Delimited.split isBlank d s

/-- `StringsJoin`. -/
def stringsJoin (v : List (List α)) (d : List α) : List α :=
  Delimited.join d v

/-- The rows that come back from `stringSplit` as they went into `stringsJoin`, for a
delimiter that doubles `c` : the last field is not empty, every field is trimmed and free
of the delimiter, and none but the last ends with `c`. -/
structure RoundTrips (c : α) (v : List (List α)) : Prop where
  last : v.getLast? ≠ some []
  trimmed : ∀ s ∈ v, trim s = s
  noDelimiter : ∀ s ∈ v, ¬[c, c] <:+: s
  noHalf : ∀ s ∈ v.dropLast, s.getLast? ≠ some c

omit [DecidableEq α] in
theorem roundTrips_iff {c : α} {v : List (List α)} :
    RoundTrips c v ↔ v.getLast? ≠ some [] ∧ (∀ s ∈ v, trim s = s) ∧
      (∀ s ∈ v, ¬[c, c] <:+: s) ∧ ∀ s ∈ v.dropLast, s.getLast? ≠ some c :=
  ⟨fun h => ⟨h.1, h.2, h.3, h.4⟩, fun h => ⟨h.1, h.2.1, h.2.2.1, h.2.2.2⟩⟩

instance (c : α) (v : List (List α)) : Decidable (RoundTrips c v) :=
  decidable_of_iff' _ roundTrips_iff

theorem stringSplit_stringsJoin_iff {c : α} (hc : isBlank c = false) {v : List (List α)}
    (hv : v ≠ []) : stringSplit (stringsJoin v [c, c]) [c, c] = v ↔ RoundTrips c v := by
  have htrim : Delimited.trim isBlank [c, c] = [c, c] := by
    rw [Delimited.trim_eq_self_iff]
    simp [hc]
  unfold stringSplit stringsJoin
  rw [Delimited.split_join_iff (by simp) htrim hv, Delimited.clean_pair_iff hv, roundTrips_iff]
  rfl

end

/-! ## Rows of bytes -/

/-- A byte is blank when its value as a signed `char` is at most 32. -/
theorem isBlank_iff (b : UInt8) : isBlank b ↔ b.toInt8 ≤ 32 := by
  have hlt := b.toNat_lt
  have hint : b.toInt8.toInt = (b.toNat : ℤ).bmod 256 :=
    BitVec.toInt_eq_toNat_bmod _
  have h32 : (32 : UInt8).toNat = 32 := rfl
  have h128 : (128 : UInt8).toNat = 128 := rfl
  rw [isBlank, show CharType.byte b = b from rfl, Int8.le_iff_toInt_le, hint, Int.bmod_def,
    show (32 : Int8).toInt = 32 from rfl, Bool.or_eq_true, decide_eq_true_iff, decide_eq_true_iff,
    UInt8.le_iff_toNat_le, UInt8.le_iff_toNat_le]
  omega

/-- `Trim` leaves the bytes whose first and last have a value over 32 as signed characters : what it
removes are the control characters, the space and the bytes from 128 on. -/
theorem trim_eq_self_iff {s : List UInt8} :
    trim s = s ↔ (∀ b ∈ s.head?, 32 < b.toInt8) ∧ ∀ b ∈ s.getLast?, 32 < b.toInt8 := by
  rw [trim, Delimited.trim_eq_self_iff]
  simp only [isBlank_iff, Int8.not_le]

/-- The delimiter of fields as bytes. -/
def dollars : List UInt8 :=
  (str "$$").bytes

/-- The rows of bytes that `stringSplit` gives back as they went into `stringsJoin`. Fields must be
their own `trim`, so neither begin nor end with a byte of 0 to 32 or of 128 to 255
(`trim_eq_self_iff`). -/
theorem rowCodec_iff {v : List (List UInt8)} (hv : v ≠ []) :
    stringSplit (stringsJoin v dollars) dollars = v ↔
      v.getLast hv ≠ [] ∧ (∀ s ∈ v, trim s = s) ∧ (∀ s ∈ v, ¬dollars <:+: s) ∧
        ∀ s ∈ v.dropLast, s.getLast? ≠ some 36 := by
  have hd : dollars = [36, 36] := rfl
  rw [hd, stringSplit_stringsJoin_iff (by decide) hv, roundTrips_iff,
    List.getLast?_eq_some_getLast hv, ne_eq, Option.some.injEq]

/-- A row with an empty field in the middle. -/
theorem rowCodec_tom :
    stringSplit (stringsJoin [(str "Tom").bytes, [], (str "93").bytes] dollars) dollars =
      [(str "Tom").bytes, [], (str "93").bytes] :=
  (rowCodec_iff (List.cons_ne_nil _ _)).2 (by decide)

/-! ## Numbers in text -/

/-- What ends an operation without a result : a C++ exception nobody catches, or a step
whose behaviour is undefined. -/
inductive Fault where
  | nullPointer
  | outOfBounds
  | invalidArgument
  | outOfRange
  | lengthError
  deriving DecidableEq, Repr

section
variable {α β : Type}

@[simp] theorem pure_eq_ok (a : α) : (pure a : Except Fault α) = .ok a :=
  rfl

@[simp] theorem ok_bind (a : α) (f : α → Except Fault β) : (Except.ok a >>= f) = f a :=
  rfl

@[simp] theorem error_bind (e : Fault) (f : α → Except Fault β) :
    (Except.error e >>= f) = .error e :=
  rfl

/-- A sequence of two steps ends well when both do. -/
theorem bind_eq_ok {x : Except Fault α} {f : α → Except Fault β} {b : β} :
    (x >>= f) = .ok b ↔ ∃ a, x = .ok a ∧ f a = .ok b := by
  cases x with
  | error e => simp
  | ok a => simp

end

/-- `std::to_string`. -/
def toStr : ℤ → Str
  | .ofNat n => (Nat.toDigits 10 n).map CChar.ofChar
  | .negSucc n => str "-" ++ (Nat.toDigits 10 (n + 1)).map CChar.ofChar

/-- `isspace` in the C locale. -/
def isSpace (c : CChar) : Bool :=
  c.1 = 32 || (9 ≤ c.1 && c.1 ≤ 13)

def isDigit (c : CChar) : Bool :=
  48 ≤ c.1 && c.1 ≤ 57

/-- The value of a run of decimal digits. -/
def digitsVal (s : Str) : ℕ :=
  s.foldl (fun n c => 10 * n + (c.1.toNat - 48)) 0

/-- `std::stoi` : blanks, a sign, then digits up to the first other character. -/
def stoi (s : Str) : Except Fault ℤ :=
  let s := s.dropWhile isSpace
  let neg := s.head? = some (CChar.ofChar '-')
  let s := if neg ∨ s.head? = some (CChar.ofChar '+') then s.tail else s
  let digits := s.takeWhile isDigit
  let n : ℤ := if neg then -digitsVal digits else digitsVal digits
  if digits = [] then .error .invalidArgument
  else if n < -2147483648 ∨ 2147483647 < n then .error .outOfRange
  else .ok n

example : stoi (str " -12$") = .ok (-12) := by decide

end UhpSql
