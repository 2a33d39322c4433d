import UhpSql.FieldCodec

/-!
# Greetings (`network/greeting.cc`)

The first packet of a connection. `pack` writes the version of the server up to a zero, and after it
fields of fixed widths, the capability word in two halves with three other bytes between them.
`unPack` counts the same widths off again. `greeting_unPack_pack` : it finds every field, whatever
bytes the salts have, as long as there is no zero in the version.
-/

namespace UhpSql

namespace Protocol

/-- `GreetingPacket::Impl`. -/
structure GreetingImpl where
  protocolVersion : UInt8
  charset : UInt8
  status : UInt16
  capability : UInt32
  connectionID : UInt32
  serverVersion : List UInt8
  authPluginName : List UInt8
  saltPart1 : List UInt8
  saltPart2 : List UInt8
  authPluginDataLength : UInt8
  deriving DecidableEq

/-- The `pluginName` of `Pack`. -/
def greetingPluginName : List UInt8 :=
  (str "mysql_native_password").bytes

/-- A step of the cursor over bytes that are not read. -/
def skip (packet : List UInt8) (bytes : ℕ) : Option (List UInt8) :=
  if bytes ≤ packet.length then some (packet.drop bytes) else none

/-- The bytes up to the zero that `std::find` finds, and those after it. -/
def cutName (seek : List UInt8) : Option (List UInt8 × List UInt8) :=
  if 0 ∈ seek then some (seek.takeWhile (· ≠ 0), (seek.dropWhile (· ≠ 0)).tail) else none

namespace GreetingImpl

/-- The part of `Pack` between the two names. The length of the plugin data is a constant. -/
def fixed (p : GreetingImpl) : List UInt8 :=
  let capLower := p.capability.toUInt16
  let capUpper := (p.capability >>> 16).toUInt16
  writeU32 p.connectionID ++ p.saltPart1 ++ [0x00] ++ writeU16 capLower ++ [p.charset] ++
    writeU16 p.status ++ writeU16 capUpper ++ [21] ++ List.replicate 10 0x00 ++ p.saltPart2 ++
    [0x00]

/-- `Pack`. -/
def pack (p : GreetingImpl) : List UInt8 :=
  [p.protocolVersion] ++ p.serverVersion ++ [0x00] ++ p.fixed ++ greetingPluginName ++ [0x00]

/-- The part of `UnPack` between the two names. -/
def unPackFixed (p : GreetingImpl) (seek : List UInt8) : Option (GreetingImpl × List UInt8) := do
  let (connectionID, seek) ← readU32 seek
  let (saltPart1, seek) ← readString seek 8
  let seek ← skip seek 1
  let (capLower, seek) ← readU16 seek
  let (charset, seek) ← readU8 seek
  let (status, seek) ← readU16 seek
  let (capUpper, seek) ← readU16 seek
  let (authPluginDataLength, seek) ← readU8 seek
  let seek ← skip seek 10
  let (saltPart2, seek) ← readString seek 12
  let seek ← skip seek 1
  return ({ p with
    connectionID := connectionID
    saltPart1 := saltPart1
    charset := charset
    status := status
    capability := capUpper.toUInt32 <<< 16 ||| capLower.toUInt32
    authPluginDataLength := authPluginDataLength
    saltPart2 := saltPart2 }, seek)

/-- `UnPack` into a packet object, with its verdict. It ends with `none` where it reads past the
end. -/
def unPack (p : GreetingImpl) (packet : List UInt8) : Option (GreetingImpl × Bool) := do
  let (protocolVersion, seek) ← readU8 packet
  let p := { p with protocolVersion := protocolVersion }
  match cutName seek with
  | none => return (p, false)
  | some (serverVersion, seek) =>
    let (p, seek) ← unPackFixed { p with serverVersion := serverVersion } seek
    match cutName seek with
    | none => return (p, false)
    | some (authPluginName, _) => return ({ p with authPluginName := authPluginName }, true)

end GreetingImpl

/-! ## Cutting the packet -/

/-- A name is cut off at the zero after it. -/
theorem cutName_append {name : List UInt8} (h : 0 ∉ name) (t : List UInt8) :
    cutName (name ++ 0 :: t) = some (name, t) := by
  have hname : ∀ b ∈ name, decide (b ≠ 0) = true :=
    fun b hb => decide_eq_true fun heq => h (heq ▸ hb)
  rw [cutName, if_pos (List.mem_append_right name List.mem_cons_self),
    List.takeWhile_append_of_pos hname, List.dropWhile_append_of_pos hname,
    List.takeWhile_cons_of_neg (by simp), List.dropWhile_cons_of_neg (by simp), List.append_nil,
    List.tail_cons]

theorem readString_append {s : List UInt8} {n : ℕ} (h : s.length = n) (t : List UInt8) :
    readString (s ++ t) n = some (s, t) := by
  rw [readString, if_pos (by rw [List.length_append]; omega), List.take_left' h, List.drop_left' h]

theorem skip_append {s : List UInt8} {n : ℕ} (h : s.length = n) (t : List UInt8) :
    skip (s ++ t) n = some t := by
  rw [skip, if_pos (by rw [List.length_append]; omega), List.drop_left' h]

/-- The two halves of a word, put together. -/
theorem halves_u32 (v : UInt32) :
    (v >>> 16).toUInt16.toUInt32 <<< 16 ||| v.toUInt16.toUInt32 = v := by
  have hlow : v.toUInt16.toUInt32.toNat = v.toNat % 2 ^ 16 := by simp
  have hhigh : ((v >>> 16).toUInt16.toUInt32 <<< 16).toNat = 2 ^ 16 * (v.toNat / 2 ^ 16) := by
    have hlt := v.toNat_lt
    simp [Nat.shiftRight_eq_div_pow, Nat.shiftLeft_eq]
    omega
  rw [← UInt32.toNat_inj, UInt32.toNat_or, hlow, hhigh,
    ← Nat.two_pow_add_eq_or_of_lt (Nat.mod_lt _ (Nat.two_pow_pos 16)), Nat.div_add_mod]

/-! ## The round trip -/

namespace GreetingImpl

/-- The fields of fixed widths, with what follows them. -/
theorem unPackFixed_fixed (old p : GreetingImpl) (hsalt1 : p.saltPart1.length = 8)
    (hsalt2 : p.saltPart2.length = 12) (t : List UInt8) :
    old.unPackFixed (p.fixed ++ t) = some ({ p with
      protocolVersion := old.protocolVersion
      serverVersion := old.serverVersion
      authPluginName := old.authPluginName
      authPluginDataLength := 21 }, t) := by
  have hfilter := @skip_append [0x00] 1 rfl
  have hreserved := @skip_append (List.replicate 10 0x00) 10 List.length_replicate
  rw [unPackFixed]
  simp only [fixed, List.append_assoc]
  -- the reads, in the order of the packet
  refine Option.bind_eq_some_iff.2 ⟨_, readU32_writeU32 .., ?_⟩
  refine Option.bind_eq_some_iff.2 ⟨_, readString_append hsalt1 _, ?_⟩
  refine Option.bind_eq_some_iff.2 ⟨_, hfilter _, ?_⟩
  refine Option.bind_eq_some_iff.2 ⟨_, readU16_writeU16 .., ?_⟩
  refine Option.bind_eq_some_iff.2 ⟨_, readU8_cons .., ?_⟩
  refine Option.bind_eq_some_iff.2 ⟨_, readU16_writeU16 .., ?_⟩
  refine Option.bind_eq_some_iff.2 ⟨_, readU16_writeU16 .., ?_⟩
  refine Option.bind_eq_some_iff.2 ⟨_, readU8_cons .., ?_⟩
  refine Option.bind_eq_some_iff.2 ⟨_, hreserved _, ?_⟩
  refine Option.bind_eq_some_iff.2 ⟨_, readString_append hsalt2 _, ?_⟩
  refine Option.bind_eq_some_iff.2 ⟨_, hfilter _, ?_⟩
  simp only [halves_u32]
  rfl

/-- What is packed is unpacked, into any packet object, with the constants of `Pack` for the name
of the plugin and the length of its data. -/
theorem greeting_unPack_pack (old : GreetingImpl) {p : GreetingImpl} (h : 0 ∉ p.serverVersion)
    (hsalt1 : p.saltPart1.length = 8) (hsalt2 : p.saltPart2.length = 12) :
    old.unPack p.pack = some ({ p with
      authPluginName := greetingPluginName
      authPluginDataLength := 21 }, true) := by
  have hplugin : 0 ∉ greetingPluginName := by decide
  have hpack : p.pack = p.protocolVersion ::
      (p.serverVersion ++ 0 :: (p.fixed ++ (greetingPluginName ++ 0 :: []))) := by
    simp only [pack, List.append_assoc, List.cons_append, List.nil_append]
  rw [hpack]
  simp only [unPack, readU8_cons, cutName_append h, cutName_append hplugin,
    unPackFixed_fixed _ p hsalt1 hsalt2, Option.bind_eq_bind, Option.bind_some, Option.pure_def]

/-- A server of version 8.0, with zeros in both salts. -/
theorem greeting_unPack_pack_zeros : ∃ old p : GreetingImpl,
    old.serverVersion = [] ∧ p.serverVersion = (str "8.0").bytes ∧
      p.saltPart1 = [0, 1, 2, 3, 4, 5, 6, 0] ∧ p.connectionID = 0xfffefdfc ∧
      old.unPack p.pack = some (p, true) :=
  ⟨⟨0, 0, 0, 0, 0, [], [], [], [], 0⟩,
    ⟨10, 33, 2, 0x81088f0d, 0xfffefdfc, (str "8.0").bytes, greetingPluginName,
      [0, 1, 2, 3, 4, 5, 6, 0], List.replicate 12 0, 21⟩, rfl, rfl, rfl, rfl,
    greeting_unPack_pack _ (by decide) rfl List.length_replicate⟩

end GreetingImpl

end Protocol

end UhpSql
