import UhpSql.LenEncode

/-!
# Field packets on bytes (`network/field.cc`, `network/type.h`)

`FieldImpl` is a field packet whose strings are any bytes. `FieldImpl.unPack` reads what
`FieldImpl.pack` writes : six strings, a length that is passed over, numbers of a fixed width, and
the type as a MySQL type with flags. `mySQLToType_typeToMySQL` : the two tables of types fit
together. `field_unPack_pack` : a packet of short strings comes back as it was, but for its flags.
-/

namespace UhpSql

namespace Protocol

/-! ## Types -/

def mysqlUnsigned : UInt16 :=
  32

def mysqlBinary : UInt16 :=
  128

def mysqlEnum : UInt16 :=
  256

def mysqlSet : UInt16 :=
  2048

/-- The keys of `TYPE_TO_MYSQL`. -/
def typeToMySQLKeys : List UInt32 :=
  [257, 770, 259, 772, 263, 776, 1035, 1036, 0, 2061, 265, 778, 261, 774, 2062, 2063, 2064, 785,
    2073, 2078, 18, 6163, 10260, 6165, 10262, 6167, 10264, 2074, 2075, 2077]

/-- `MYSQL_TO_TYPE_MAP[..]`, made 0 where missing. -/
def mySQLToTypeMap (mysqlType : UInt8) : UInt32 :=
  match mysqlType.toNat with
  | 1 => 257
  | 2 => 259
  | 3 => 263
  | 4 => 1035
  | 5 => 1036
  | 6 => 0
  | 7 => 2061
  | 8 => 265
  | 9 => 261
  | 10 => 2062
  | 11 => 2063
  | 12 => 2064
  | 13 => 785
  | 16 => 2073
  | 245 => 2078
  | 246 => 18
  | 249 => 6163
  | 250 => 6163
  | 251 => 6163
  | 252 => 6163
  | 253 => 6165
  | 254 => 6167
  | 255 => 2077
  | _ => 0

/-- `MySQLToType`. -/
def mySQLToType (mysqlType : UInt8) (flags : UInt16) : UInt32 :=
  let typ := mySQLToTypeMap mysqlType
  match typ.toNat with
  | 257 => if flags &&& mysqlUnsigned ≠ 0 then 770 else 257
  | 259 => if flags &&& mysqlUnsigned ≠ 0 then 772 else 259
  | 263 => if flags &&& mysqlUnsigned ≠ 0 then 776 else 263
  | 265 => if flags &&& mysqlUnsigned ≠ 0 then 778 else 265
  | 261 => if flags &&& mysqlUnsigned ≠ 0 then 774 else 261
  | 6163 => if flags &&& mysqlBinary ≠ 0 then 10260 else 6163
  | 6165 => if flags &&& mysqlBinary ≠ 0 then 10262 else 6165
  | 6167 =>
    if flags &&& mysqlBinary ≠ 0 then 10264
    else if flags &&& mysqlEnum ≠ 0 then 2074
    else if flags &&& mysqlSet ≠ 0 then 2075
    else 6167
  | _ => typ

/-- A type is read back from the MySQL type and the flags it is written with. -/
theorem mySQLToType_typeToMySQL {type : UInt32} (h : type ∈ typeToMySQLKeys) :
    mySQLToType (typeToMySQL type).1 (typeToMySQL type).2 = type := by
  have hall : typeToMySQLKeys.all
      (fun type => mySQLToType (typeToMySQL type).1 (typeToMySQL type).2 == type) := by decide
  exact eq_of_beq (List.all_eq_true.1 hall type h)

/-! ## Packets -/

/-- `ReadU32`. -/
def readU32 : List UInt8 → Option (UInt32 × List UInt8)
  | b0 :: b1 :: b2 :: b3 :: it => do
    let b1 ← shl b1 8
    let b2 ← shl b2 16
    let b3 ← shl b3 24
    return (b0.toUInt32 ||| b1.toUInt32 ||| b2.toUInt32 ||| b3.toUInt32, it)
  | _ => none

/-- `FieldPacket::Impl`. -/
structure FieldImpl where
  name : List UInt8
  type : UInt32
  table : List UInt8
  orgTable : List UInt8
  dataBase : List UInt8
  orgName : List UInt8
  columnLength : UInt32
  charset : UInt32
  decimals : UInt32
  flags : UInt32
  deriving DecidableEq

/-- A packet whose strings have no NUL, on bytes. -/
def FieldPacket.impl (p : FieldPacket) : FieldImpl where
  name := p.name.bytes
  type := p.type
  table := p.table.bytes
  orgTable := p.orgTable.bytes
  dataBase := p.dataBase.bytes
  orgName := p.orgName.bytes
  columnLength := p.columnLength
  charset := p.charset
  decimals := p.decimals
  flags := p.flags

namespace FieldImpl

/-- `FieldPacket::Pack`. -/
def pack (p : FieldImpl) : List UInt8 :=
  writeLenEncodeString (str "def").bytes ++ writeLenEncodeString p.dataBase ++
    writeLenEncodeString p.table ++ writeLenEncodeString p.orgTable ++
    writeLenEncodeString p.name ++ writeLenEncodeString p.orgName ++
    writeLenEncode 0x0c ++ writeU16 p.charset.toUInt16 ++ writeU32 p.columnLength ++
    [(typeToMySQL p.type).1] ++ writeU16 (typeToMySQL p.type).2 ++ [p.decimals.toUInt8] ++
    writeU16 0

/-- `FieldPacket::UnPack`, with the bytes it stops before. Every field of the packet object is
written, so what it held does not matter. -/
def unPack (maxAddress : UInt64) (packet : List UInt8) : Option (FieldImpl × List UInt8) := do
  let (_, seek) ← readLenEncodeString maxAddress packet
  let (dataBase, seek) ← readLenEncodeString maxAddress seek
  let (table, seek) ← readLenEncodeString maxAddress seek
  let (orgTable, seek) ← readLenEncodeString maxAddress seek
  let (name, seek) ← readLenEncodeString maxAddress seek
  let (orgName, seek) ← readLenEncodeString maxAddress seek
  let (_, seek) ← readLenEncode maxAddress seek
  let (charset, seek) ← readU16 seek
  let (columnLength, seek) ← readU32 seek
  let (t, seek) ← readU8 seek
  let (flags, seek) ← readU16 seek
  let (decimals, seek) ← readU8 seek
  return ({
    name := name
    type := mySQLToType t flags
    table := table
    orgTable := orgTable
    dataBase := dataBase
    orgName := orgName
    columnLength := columnLength
    charset := charset.toUInt32
    decimals := decimals.toUInt32
    flags := flags.toUInt32 }, seek)

end FieldImpl

theorem FieldPacket.pack_eq (p : FieldPacket) : p.pack = p.impl.pack :=
  rfl

theorem readU32_writeU32 (v : UInt32) (t : List UInt8) :
    readU32 (writeU32 v ++ t) = some (v, t) := by
  obtain ⟨n, hn, hn'⟩ := shl_eq (v >>> 8).toUInt8 (show 8 < 32 by omega)
  obtain ⟨m, hm, hm'⟩ := shl_eq (v >>> 16).toUInt8 (show 16 < 32 by omega)
  obtain ⟨k, hk, hk'⟩ := shl_eq (v >>> 24).toUInt8 (show 24 < 32 by omega)
  have h0 : v.toUInt8.toUInt32.toNat = v.toNat % 2 ^ 8 := by simp
  have h8 : n.toUInt32.toNat = 2 ^ 8 * (v.toNat / 2 ^ 8 % 256) := by
    rw [hn']
    simp [Nat.shiftRight_eq_div_pow]
    omega
  have h16 : m.toUInt32.toNat = 2 ^ 16 * (v.toNat / 2 ^ 16 % 256) := by
    rw [hm']
    simp [Nat.shiftRight_eq_div_pow]
    omega
  have h24 : k.toUInt32.toNat = 2 ^ 24 * (v.toNat / 2 ^ 24 % 256) := by
    rw [hk']
    simp [Nat.shiftRight_eq_div_pow]
    omega
  have hv : v.toUInt8.toUInt32 ||| n.toUInt32 ||| m.toUInt32 ||| k.toUInt32 = v :=
    Wire.or_places_u32 h0 h8 h16 h24
  simp only [writeU32, readU32, List.cons_append, List.nil_append, hn, hm, hk,
    Option.bind_eq_bind, Option.bind_some, Option.pure_def, hv]

theorem readU8_cons (v : UInt8) (t : List UInt8) : readU8 (v :: t) = some (v, t) :=
  rfl

/-- The length of the fixed fields. -/
theorem readLenEncode_fixed (maxAddress : UInt64) (t : List UInt8) :
    readLenEncode maxAddress (writeLenEncode 0x0c ++ t) = some (0x0c, t) := by
  rw [readLenEncode_writeLenEncode, if_pos (by decide)]

/-- A packet of a known type with short strings is read back as it was, with the flags of its
type, up to the filler. -/
theorem field_unPack_pack (maxAddress : UInt64) {p : FieldImpl} (htype : p.type ∈ typeToMySQLKeys)
    (hcharset : p.charset.toNat < 2 ^ 16) (hdecimals : p.decimals.toNat < 2 ^ 8)
    (hlen : ∀ s ∈ [p.name, p.table, p.orgTable, p.dataBase, p.orgName], s.length < 2 ^ 16) :
    FieldImpl.unPack maxAddress p.pack =
      some ({ p with flags := (typeToMySQL p.type).2.toUInt32 }, [0, 0]) := by
  have hcharset' : p.charset.toUInt16.toUInt32 = p.charset := by
    rw [← UInt32.toNat_inj, UInt16.toNat_toUInt32, UInt32.toNat_toUInt16, Nat.mod_eq_of_lt hcharset]
  have hdecimals' : p.decimals.toUInt8.toUInt32 = p.decimals := by
    rw [← UInt32.toNat_inj, UInt8.toNat_toUInt32, UInt32.toNat_toUInt8, Nat.mod_eq_of_lt hdecimals]
  have hread : ∀ {s : List UInt8} (t : List UInt8), s.length < 2 ^ 16 →
      readLenEncodeString maxAddress (writeLenEncodeString s ++ t) = some (s, t) :=
    fun t h => readLenEncodeString_of_lt maxAddress h t
  simp only [List.forall_mem_cons] at hlen
  obtain ⟨hname, htable, horgTable, hdataBase, horgName, -⟩ := hlen
  have hdef : (str "def").bytes.length < 2 ^ 16 := by decide
  rw [FieldImpl.unPack]
  simp only [FieldImpl.pack, List.append_assoc]
  -- the reads, in the order of the packet
  refine Option.bind_eq_some_iff.2 ⟨_, hread _ hdef, ?_⟩
  refine Option.bind_eq_some_iff.2 ⟨_, hread _ hdataBase, ?_⟩
  refine Option.bind_eq_some_iff.2 ⟨_, hread _ htable, ?_⟩
  refine Option.bind_eq_some_iff.2 ⟨_, hread _ horgTable, ?_⟩
  refine Option.bind_eq_some_iff.2 ⟨_, hread _ hname, ?_⟩
  refine Option.bind_eq_some_iff.2 ⟨_, hread _ horgName, ?_⟩
  refine Option.bind_eq_some_iff.2 ⟨_, readLenEncode_fixed .., ?_⟩
  refine Option.bind_eq_some_iff.2 ⟨_, readU16_writeU16 .., ?_⟩
  refine Option.bind_eq_some_iff.2 ⟨_, readU32_writeU32 .., ?_⟩
  refine Option.bind_eq_some_iff.2 ⟨_, readU8_cons .., ?_⟩
  refine Option.bind_eq_some_iff.2 ⟨_, readU16_writeU16 .., ?_⟩
  refine Option.bind_eq_some_iff.2 ⟨_, readU8_cons .., ?_⟩
  simp only [hcharset', hdecimals', mySQLToType_typeToMySQL htype]
  rfl

/-- The packet of a column `Name`, with a NUL in the name of its database. -/
theorem field_unPack_pack_name : FieldImpl.unPack 0x401000
    (FieldImpl.pack
      ⟨(str "Name").bytes, 6165, (str "classtab").bytes, [], [100, 0, 98], [], 255, 33, 0, 0⟩) =
    some (⟨(str "Name").bytes, 6165, (str "classtab").bytes, [], [100, 0, 98], [], 255, 33, 0, 0⟩,
      [0, 0]) :=
  field_unPack_pack 0x401000 (by decide) (by decide) (by decide) (by decide)

end Protocol

end UhpSql
