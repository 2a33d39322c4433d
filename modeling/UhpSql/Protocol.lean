import UhpSql.StringUtils
import UhpSql.Wire

/-!
# Protocol packets (`network/protocol_buffer.cc`, `ok.cc`, `err.cc`, `eof.cc`, `field.cc`)

The payloads of the packets the server sends, byte by byte, and what they are in terms of
the wire format : `writeLenEncode` is `Wire.encode`, `writeLenEncodeString` is
`Wire.encodeString`.
-/

namespace UhpSql

namespace Protocol

/-! ## Numbers and strings -/

def writeU16 (v : UInt16) : List UInt8 :=
  [v.toUInt8, (v >>> 8).toUInt8]

def writeU24 (v : UInt32) : List UInt8 :=
  [v.toUInt8, (v >>> 8).toUInt8, (v >>> 16).toUInt8]

def writeU32 (v : UInt32) : List UInt8 :=
  [v.toUInt8, (v >>> 8).toUInt8, (v >>> 16).toUInt8, (v >>> 24).toUInt8]

def writeU64 (v : UInt64) : List UInt8 :=
  [v.toUInt8, (v >>> 8).toUInt8, (v >>> 16).toUInt8, (v >>> 24).toUInt8,
    (v >>> 32).toUInt8, (v >>> 40).toUInt8, (v >>> 48).toUInt8, (v >>> 56).toUInt8]

def writeLenEncode (v : UInt64) : List UInt8 :=
  if v < 251 then [v.toUInt8]
  else if 251 ≤ v ∧ v < 65536 then 0xfc :: writeU16 v.toUInt16
  else if 65536 ≤ v ∧ v < 16777216 then 0xfd :: writeU24 v.toUInt32
  else 0xfe :: writeU64 v

def writeLenEncodeString (v : List UInt8) : List UInt8 :=
  writeLenEncode (UInt64.ofNat v.length) ++ v

/-! ## Packets -/

/-- `OkPacket::Pack`. -/
def okPack (affectedRows lastInsertID : UInt64) (statusFlags warnings : UInt16) : List UInt8 :=
  [0x00] ++ writeLenEncode affectedRows ++ writeLenEncode lastInsertID ++ writeU16 statusFlags ++
    writeU16 warnings

/-- `ErrPacket::Pack`. It compares an empty `sqlState` with `"HY000"` and leaves it empty. -/
def errPack (errorCode : UInt16) (sqlState errorMessage : Str) : List UInt8 :=
  [0xff] ++ writeU16 errorCode ++ (str "#").bytes ++ sqlState.bytes ++ errorMessage.bytes

/-- `EofPacket::Pack`. -/
def eofPack (warnings statusFlags : UInt16) : List UInt8 :=
  [0xfe] ++ writeU16 warnings ++ writeU16 statusFlags

/-- `TYPE_TO_MYSQL[..]` : the MySQL type and flags, made `(0, 0)` where missing. -/
def typeToMySQL (type : UInt32) : UInt8 × UInt16 :=
  match type.toNat with
  | 257 => (1, 0)
  | 770 => (1, 32)
  | 259 => (2, 0)
  | 772 => (2, 32)
  | 263 => (3, 0)
  | 776 => (3, 32)
  | 1035 => (4, 0)
  | 1036 => (5, 0)
  | 0 => (6, 128)
  | 2061 => (7, 0)
  | 265 => (8, 0)
  | 778 => (8, 32)
  | 261 => (9, 0)
  | 774 => (9, 32)
  | 2062 => (10, 128)
  | 2063 => (11, 128)
  | 2064 => (12, 128)
  | 785 => (13, 32)
  | 2073 => (16, 32)
  | 2078 => (245, 0)
  | 18 => (246, 0)
  | 6163 => (252, 0)
  | 10260 => (252, 128)
  | 6165 => (253, 0)
  | 10262 => (253, 128)
  | 6167 => (254, 0)
  | 10264 => (254, 128)
  | 2074 => (254, 256)
  | 2075 => (254, 2048)
  | 2077 => (255, 0)
  | _ => (0, 0)

def typeVarchar : UInt32 :=
  6165

def characterSetUtf8 : UInt32 :=
  33

/-- `FieldPacket`. -/
structure FieldPacket where
  name : Str
  type : UInt32
  table : Str
  orgTable : Str
  dataBase : Str
  orgName : Str
  columnLength : UInt32
  charset : UInt32
  decimals : UInt32
  flags : UInt32

/-- `FieldPacket::Pack`. The flags are those of the type. -/
def FieldPacket.pack (p : FieldPacket) : List UInt8 :=
  writeLenEncodeString (str "def").bytes ++ writeLenEncodeString p.dataBase.bytes ++
    writeLenEncodeString p.table.bytes ++ writeLenEncodeString p.orgTable.bytes ++
    writeLenEncodeString p.name.bytes ++ writeLenEncodeString p.orgName.bytes ++
    writeLenEncode 0x0c ++ writeU16 p.charset.toUInt16 ++ writeU32 p.columnLength ++
    [(typeToMySQL p.type).1] ++ writeU16 (typeToMySQL p.type).2 ++ [p.decimals.toUInt8] ++
    writeU16 0

/-- `RowPacket::Pack`. -/
def rowPack (row : List Str) : List UInt8 :=
  row.flatMap fun s => writeLenEncodeString s.bytes

/-! ## The wire format -/

theorem writeU16_eq (v : UInt16) : writeU16 v = Wire.leBytes 2 v.toNat := by
  simp [writeU16, Wire.leBytes, ← UInt8.toNat_inj, Nat.shiftRight_eq_div_pow]

theorem writeU24_eq (v : UInt32) : writeU24 v = Wire.leBytes 3 v.toNat := by
  simp [writeU24, Wire.leBytes, ← UInt8.toNat_inj, Nat.shiftRight_eq_div_pow,
    Nat.div_div_eq_div_mul]

theorem writeU64_eq (v : UInt64) : writeU64 v = Wire.leBytes 8 v.toNat := by
  simp [writeU64, Wire.leBytes, ← UInt8.toNat_inj, Nat.shiftRight_eq_div_pow,
    Nat.div_div_eq_div_mul]

theorem writeLenEncode_eq (v : UInt64) : writeLenEncode v = Wire.encode v.toNat := by
  unfold writeLenEncode Wire.encode
  simp only [UInt64.lt_iff_toNat_lt, UInt64.le_iff_toNat_le, UInt64.reduceToNat]
  split_ifs with h1 h2 h3 h4 h5 h6 <;> first | omega | skip
  · rw [← UInt8.toNat_inj.1 (by simp : v.toUInt8.toNat = (UInt8.ofNat v.toNat).toNat)]
  · rw [writeU16_eq, UInt64.toNat_toUInt16, Nat.mod_eq_of_lt (by omega)]
  · rw [writeU24_eq, UInt64.toNat_toUInt32, Nat.mod_eq_of_lt (by omega)]
  · rw [writeU64_eq]

/-- A string of a size that `size_t` holds. -/
theorem writeLenEncodeString_eq {v : List UInt8} (h : v.length < 2 ^ 64) :
    writeLenEncodeString v = Wire.encodeString v := by
  rw [writeLenEncodeString, Wire.encodeString, writeLenEncode_eq, UInt64.toNat_ofNat',
    Nat.mod_eq_of_lt h]

/-- A row packet holds as many length-encoded strings as the row has fields. -/
theorem decodeStrings_rowPack {row : List Str} (h : ∀ s ∈ row, s.length < 2 ^ 64) (n : ℕ) :
    Wire.decodeStrings n (rowPack row) =
      if row.length = n then some (row.map Str.bytes) else none := by
  have hpack : rowPack row = (row.map Str.bytes).flatMap Wire.encodeString := by
    rw [rowPack, List.flatMap_map]
    refine List.flatMap_congr fun s hs => ?_
    exact writeLenEncodeString_eq (by simpa using h s hs)
  rw [hpack, Wire.decodeStrings_flatMap, List.length_map]
  intro s hs
  obtain ⟨t, ht, rfl⟩ := List.mem_map.1 hs
  simpa using h t ht

end Protocol

end UhpSql
