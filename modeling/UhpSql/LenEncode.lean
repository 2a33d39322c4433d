import UhpSql.Protocol

/-!
# Reading length-encoded values (`network/protocol_buffer.cc`, `field.cc`)

A reader moves a cursor, here the bytes from the cursor on. It ends with `none` where its
behaviour is undefined : a read past the end, or a shift of an `int` by its width or more.

`readLenEncode_writeLenEncode` is what is read where a number was written, and
`lenRoundTrips_iff` says what is read back as it was.
-/

namespace UhpSql

namespace Protocol

/-! ## The readers -/

/-- `b << k`, where the byte is promoted to `int` first. -/
def shl (b : UInt8) (k : ℕ) : Option Int32 :=
  if k < 32 then some (.ofNat (b.toNat <<< k)) else none

def readU8 : List UInt8 → Option (UInt8 × List UInt8)
  | v :: it => some (v, it)
  | [] => none

def readU16 : List UInt8 → Option (UInt16 × List UInt8)
  | b0 :: b1 :: it => do
    let b1 ← shl b1 8
    return (b0.toUInt16 ||| b1.toUInt32.toUInt16, it)
  | _ => none

/-- `ReadU24` returns a `uint16_t`. -/
def readU24 : List UInt8 → Option (UInt16 × List UInt8)
  | b0 :: b1 :: b2 :: it => do
    let b1 ← shl b1 8
    let b2 ← shl b2 16
    return ((b0.toUInt32 ||| b1.toUInt32 ||| b2.toUInt32).toUInt16, it)
  | _ => none

def readU64 : List UInt8 → Option (UInt64 × List UInt8)
  | b0 :: b1 :: b2 :: b3 :: b4 :: b5 :: b6 :: b7 :: it => do
    let b1 ← shl b1 8
    let b2 ← shl b2 16
    let b3 ← shl b3 24
    let b4 ← shl b4 32
    let b5 ← shl b5 40
    let b6 ← shl b6 48
    let b7 ← shl b7 56
    return (b0.toUInt64 ||| b1.toInt64.toUInt64 ||| b2.toInt64.toUInt64 ||| b3.toInt64.toUInt64 |||
      b4.toInt64.toUInt64 ||| b5.toInt64.toUInt64 ||| b6.toInt64.toUInt64 |||
      b7.toInt64.toUInt64, it)
  | _ => none

/-- `ReadLenEncode`. For NULL it returns `numeric_limits::max` without calling it : the
address of a function. -/
def readLenEncode (maxAddress : UInt64) (packet : List UInt8) :
    Option (UInt64 × List UInt8) := do
  let (u8, it) ← readU8 packet
  if u8 = 0xfb then
    return (maxAddress, it)
  else if u8 = 0xfc then do
    let (u16, it) ← readU16 it
    return (u16.toUInt64, it)
  else if u8 = 0xfd then do
    let (u24, it) ← readU24 it
    return (u24.toUInt64, it)
  else if u8 = 0xfe then
    readU64 it
  else
    return (u8.toUInt64, it)

def readString (packet : List UInt8) (readBytes : ℕ) : Option (List UInt8 × List UInt8) :=
  if readBytes ≤ packet.length then some (packet.take readBytes, packet.drop readBytes) else none

def readLenEncodeString (maxAddress : UInt64) (packet : List UInt8) :
    Option (List UInt8 × List UInt8) := do
  let (strLen, it) ← readLenEncode maxAddress packet
  readString it strLen.toNat

def writeLenEncodeNUL : List UInt8 :=
  [0xfb]

/-- `RowPacket::Pack` for strings of any bytes. -/
def rowPackBytes (row : List (List UInt8)) : List UInt8 :=
  row.flatMap writeLenEncodeString

/-- `RowPacket::UnPack` into an empty row. -/
def rowUnPack (maxAddress : UInt64) : ℕ → List UInt8 → Option (List (List UInt8))
  | 0, _ => some []
  | colCount + 1, packet => do
    let (str, it) ← readLenEncodeString maxAddress packet
    return str :: (← rowUnPack maxAddress colCount it)

theorem rowPack_eq (row : List Str) : rowPack row = rowPackBytes (row.map Str.bytes) := by
  rw [rowPack, rowPackBytes, List.flatMap_map]

/-! ## Reading what was written -/

/-- A shift by less than 32 bits is defined. -/
theorem shl_eq (b : UInt8) {k : ℕ} (h : k < 32) :
    ∃ n, shl b k = some n ∧ n.toUInt32 = UInt32.ofNat (2 ^ k * b.toNat) := by
  refine ⟨_, if_pos h, ?_⟩
  rw [Nat.shiftLeft_eq, Nat.mul_comm]
  rfl

theorem readU16_writeU16 (v : UInt16) (t : List UInt8) :
    readU16 (writeU16 v ++ t) = some (v, t) := by
  obtain ⟨n, hn, hval⟩ := shl_eq (v >>> 8).toUInt8 (show 8 < 32 by omega)
  have hhigh : n.toUInt32.toUInt16.toNat = 2 ^ 8 * (v.toNat / 2 ^ 8 % 256) := by
    rw [hval]
    simp [Nat.shiftRight_eq_div_pow]
    omega
  have hv : v.toUInt8.toUInt16 ||| n.toUInt32.toUInt16 = v := by
    have hlow : v.toUInt8.toUInt16.toNat = v.toNat % 2 ^ 8 := by simp
    rw [← UInt16.toNat_inj, UInt16.toNat_or, hlow, hhigh, Wire.mod_or_byte]
    exact Nat.mod_eq_of_lt v.toNat_lt
  simp only [writeU16, readU16, List.cons_append, List.nil_append, hn, Option.bind_eq_bind,
    Option.bind_some, Option.pure_def, hv]

/-- The third byte is read and lost. -/
theorem readU24_writeU24 (v : UInt32) (t : List UInt8) :
    readU24 (writeU24 v ++ t) = some (v.toUInt16, t) := by
  obtain ⟨n, hn, hval⟩ := shl_eq (v >>> 8).toUInt8 (show 8 < 32 by omega)
  obtain ⟨m, hm, hval'⟩ := shl_eq (v >>> 16).toUInt8 (show 16 < 32 by omega)
  have hmid : n.toUInt32.toUInt16.toNat = 2 ^ 8 * (v.toNat / 2 ^ 8 % 256) := by
    rw [hval]
    simp [Nat.shiftRight_eq_div_pow]
    omega
  have hhigh : m.toUInt32.toUInt16 = 0 := by
    rw [hval', ← UInt16.toNat_inj]
    simp
  have hv : (v.toUInt8.toUInt32 ||| n.toUInt32 ||| m.toUInt32).toUInt16 = v.toUInt16 := by
    have hlow : v.toUInt8.toUInt32.toUInt16.toNat = v.toNat % 2 ^ 8 := by
      simp
      omega
    rw [UInt32.toUInt16_or, UInt32.toUInt16_or, hhigh, UInt16.or_zero, ← UInt16.toNat_inj,
      UInt16.toNat_or, hlow, hmid, Wire.mod_or_byte, UInt32.toNat_toUInt16]
  simp only [writeU24, readU24, List.cons_append, List.nil_append, hn, hm, Option.bind_eq_bind,
    Option.bind_some, Option.pure_def, hv]

/-- The fifth byte is shifted by the width of `int`. -/
theorem readU64_eq_none (packet : List UInt8) : readU64 packet = none := by
  have hshl : ∀ b, shl b 32 = none := fun b => if_neg (by omega)
  unfold readU64
  split
  · simp [hshl]
  · rfl

/-- A byte below 251 stands for itself. -/
theorem readLenEncode_byte (maxAddress : UInt64) {b : UInt8} (hb : b < 251) (t : List UInt8) :
    readLenEncode maxAddress (b :: t) = some (b.toUInt64, t) := by
  have hne : ∀ m : UInt8, 251 ≤ m → b ≠ m := by
    rintro m hm rfl
    exact absurd hb (UInt8.not_lt.2 hm)
  simp [readLenEncode, readU8, hne 0xfb (by decide), hne 0xfc (by decide), hne 0xfd (by decide),
    hne 0xfe (by decide)]

/-- What is read where a number was written : the number up to 16 bits, its two low bytes up to
24 bits, and nothing that is defined beyond. -/
theorem readLenEncode_writeLenEncode (maxAddress v : UInt64) (t : List UInt8) :
    readLenEncode maxAddress (writeLenEncode v ++ t) =
      if v.toNat < 2 ^ 16 then some (v, t)
      else if v.toNat < 2 ^ 24 then some (v.toUInt32.toUInt16.toUInt64, t)
      else none := by
  unfold writeLenEncode
  simp only [UInt64.lt_iff_toNat_lt, UInt64.le_iff_toNat_le, UInt64.reduceToNat]
  split_ifs with h1 h2 h3 h4 h5 h6 h7 <;> first | omega | skip
  · have hb : v.toUInt8.toNat = v.toNat := by
      rw [UInt64.toNat_toUInt8, Nat.mod_eq_of_lt (by omega)]
    have hv : v.toUInt8.toUInt64 = v := by
      rw [← UInt64.toNat_inj, UInt8.toNat_toUInt64, hb]
    have hlt : v.toUInt8 < 251 := by
      rw [UInt8.lt_iff_toNat_lt, hb]
      exact h1
    rw [List.singleton_append, readLenEncode_byte _ hlt, hv]
  · have hv : v.toUInt16.toUInt64 = v := by
      rw [← UInt64.toNat_inj, UInt16.toNat_toUInt64, UInt64.toNat_toUInt16,
        Nat.mod_eq_of_lt (by omega)]
    simp [readLenEncode, readU8, readU16_writeU16, hv]
  · simp [readLenEncode, readU8, readU24_writeU24]
  · simp [readLenEncode, readU8, readU64_eq_none]

/-! ## What comes back -/

/-- What is written length-encoded. -/
inductive LenEncoded where
  | int (v : UInt64)
  | nul
  | row (strings : List (List UInt8))

/-- A number and NULL are read back with the cursor after them, and a row is unpacked as it
was. -/
def LenRoundTrips (maxAddress : UInt64) : LenEncoded → Prop
  | .int v => ∀ t, readLenEncode maxAddress (writeLenEncode v ++ t) = some (v, t)
  | .nul => ∀ t, readLenEncode maxAddress (writeLenEncodeNUL ++ t) =
      some (UInt64.ofNat (2 ^ 64 - 1), t)
  | .row strings => rowUnPack maxAddress strings.length (rowPackBytes strings) = some strings

/-- A number or lengths of at most 16 bits. NULL would be read back if a function stood at the
last address. -/
def Short (maxAddress : UInt64) : LenEncoded → Prop
  | .int v => v.toNat < 2 ^ 16
  | .nul => maxAddress.toNat = 2 ^ 64 - 1
  | .row strings => ∀ s ∈ strings, s.length < 2 ^ 16

section
variable (maxAddress : UInt64)

/-- No number of more than 16 bits is read. -/
theorem lt_of_readLenEncode {v n : UInt64} {t it : List UInt8}
    (h : readLenEncode maxAddress (writeLenEncode v ++ t) = some (n, it)) : n.toNat < 2 ^ 16 := by
  rw [readLenEncode_writeLenEncode] at h
  split_ifs at h with h1 h2
  · obtain ⟨rfl, -⟩ := Prod.mk.inj (Option.some.inj h)
    exact h1
  · obtain ⟨rfl, -⟩ := Prod.mk.inj (Option.some.inj h)
    rw [UInt16.toNat_toUInt64]
    exact UInt16.toNat_lt _

theorem readLenEncode_int_iff (v : UInt64) :
    LenRoundTrips maxAddress (.int v) ↔ v.toNat < 2 ^ 16 := by
  refine ⟨fun h => lt_of_readLenEncode maxAddress (h []), fun h t => ?_⟩
  rw [readLenEncode_writeLenEncode, if_pos h]

theorem readLenEncode_nul_iff :
    LenRoundTrips maxAddress .nul ↔ maxAddress.toNat = 2 ^ 64 - 1 := by
  have hread : ∀ t, readLenEncode maxAddress (writeLenEncodeNUL ++ t) = some (maxAddress, t) :=
    fun _ => rfl
  have hlast : (UInt64.ofNat (2 ^ 64 - 1)).toNat = 2 ^ 64 - 1 := rfl
  refine ⟨fun h => ?_, fun h t => ?_⟩
  · obtain ⟨heq, -⟩ := Prod.mk.inj (Option.some.inj ((hread []).symm.trans (h [])))
    rw [heq, hlast]
  · rw [hread, UInt64.toNat_inj.1 (h.trans hlast.symm)]

theorem readLenEncodeString_of_lt {s : List UInt8} (h : s.length < 2 ^ 16) (t : List UInt8) :
    readLenEncodeString maxAddress (writeLenEncodeString s ++ t) = some (s, t) := by
  have hlen : (UInt64.ofNat s.length).toNat = s.length := by
    rw [UInt64.toNat_ofNat', Nat.mod_eq_of_lt (by omega)]
  rw [readLenEncodeString, writeLenEncodeString, List.append_assoc, readLenEncode_writeLenEncode,
    if_pos (by rwa [hlen])]
  simp [readString, hlen]

/-- No string of a longer length is read. -/
theorem length_lt_of_readLenEncodeString {s str t it : List UInt8}
    (h : readLenEncodeString maxAddress (writeLenEncodeString s ++ t) = some (str, it)) :
    str.length < 2 ^ 16 := by
  rw [readLenEncodeString, writeLenEncodeString, List.append_assoc] at h
  obtain ⟨⟨n, it'⟩, hread, h⟩ := Option.bind_eq_some_iff.1 h
  have hn := lt_of_readLenEncode maxAddress hread
  simp only [readString] at h
  split_ifs at h with hle
  obtain ⟨rfl, -⟩ := Prod.mk.inj (Option.some.inj h)
  rw [List.length_take]
  omega

theorem rowUnPack_rowPackBytes_iff : ∀ strings : List (List UInt8),
    LenRoundTrips maxAddress (.row strings) ↔ ∀ s ∈ strings, s.length < 2 ^ 16
  | [] => iff_of_true rfl (fun s hs => absurd hs List.not_mem_nil)
  | s :: strings => by
    have ih := rowUnPack_rowPackBytes_iff strings
    rw [LenRoundTrips] at ih ⊢
    rw [List.length_cons, rowUnPack, rowPackBytes, List.flatMap_cons, List.forall_mem_cons, ← ih]
    refine ⟨fun h => ?_, fun ⟨hs, h⟩ => ?_⟩
    · obtain ⟨⟨str, it⟩, hread, h⟩ := Option.bind_eq_some_iff.1 h
      obtain ⟨rest, hrest, h⟩ := Option.bind_eq_some_iff.1 h
      obtain ⟨rfl, rfl⟩ := List.cons.inj (Option.some.inj h)
      have hs := length_lt_of_readLenEncodeString maxAddress hread
      rw [readLenEncodeString_of_lt maxAddress hs] at hread
      obtain ⟨-, rfl⟩ := Prod.mk.inj (Option.some.inj hread)
      exact ⟨hs, hrest⟩
    · rw [readLenEncodeString_of_lt maxAddress hs]
      simp only [Option.bind_eq_bind, Option.bind_some]
      rw [show List.flatMap writeLenEncodeString strings = rowPackBytes strings from rfl, h]
      rfl

end

/-- Length-encoded values are read back as they were exactly when they are short. -/
theorem lenRoundTrips_iff (maxAddress : UInt64) (x : LenEncoded) :
    LenRoundTrips maxAddress x ↔ Short maxAddress x := by
  cases x with
  | int v => exact readLenEncode_int_iff maxAddress v
  | nul => exact readLenEncode_nul_iff maxAddress
  | row strings => exact rowUnPack_rowPackBytes_iff maxAddress strings

/-- 65536 comes back as 0. -/
theorem not_lenRoundTrips_65536 : ¬LenRoundTrips 0x401000 (.int 65536) := by
  intro h
  exact absurd (h []) (by decide)

end Protocol

end UhpSql
