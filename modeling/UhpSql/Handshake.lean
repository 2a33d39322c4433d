import UhpSql.Client

/-!
# The answer to the greeting, byte by byte (`network/auth.cc`)

`unPackInto` is `UnPack` with all that it leaves behind : what it stores in the packet object,
and its verdict, which is missing where the function ends without a `return`.

`decoded_iff` says when a well-formed answer is decoded to what the client sent, and
`inside_iff` when `UnPack` stays inside its argument and ends with a verdict.
-/

namespace UhpSql

namespace AuthPacket

/-- The strings that `UnPack` stores, empty until they are read. -/
structure Strings where
  user : List UInt8 := []
  authResponse : List UInt8 := []
  database : List UInt8 := []
  pluginName : List UInt8 := []
  deriving DecidableEq

def hasDB (clientFlags : UInt32) : Bool :=
  clientFlags &&& clientConnectWithDB > 0

def hasPlugin (clientFlags : UInt32) : Bool :=
  clientFlags &&& clientPluginAuth > 0

def isSecure (clientFlags : UInt32) : Bool :=
  clientFlags &&& clientSecureConnection > 0

/-- The plugin name and the verdict. -/
def unPackPlugin (packet : List UInt8) (clientFlags : UInt32)
    (user authResponse database : List UInt8) (seek : ℕ) :
    Except Fault (Strings × Option Bool) := do
  match ← readName packet (hasPlugin clientFlags) seek with
  | none => return (⟨user, authResponse, database, []⟩, some false)
  | some (pluginName, _) =>
    let returned := if pluginName ≠ defaultAuthPluginName.bytes then some false else none
    return (⟨user, authResponse, database, pluginName⟩, returned)

/-- The last two sections. -/
def unPackNames (packet : List UInt8) (clientFlags : UInt32) (user authResponse : List UInt8)
    (seek : ℕ) : Except Fault (Strings × Option Bool) := do
  match ← readName packet (hasDB clientFlags) seek with
  | none => return (⟨user, authResponse, [], []⟩, some false)
  | some (database, seek) => unPackPlugin packet clientFlags user authResponse database seek

/-- `UnPack`, with the strings it stores and what it returns. -/
def unPackInto (packet : List UInt8) : Except Fault (Strings × Option Bool) := do
  let clientFlags ← readU32 packet 0
  if clientFlags &&& clientProtocol41 = 0 then
    return ({}, some false)
  let _ ← readU32 packet 4
  let _ ← readAt packet 8
  match ← readName packet true 32 with
  | none => return ({}, some false)
  | some (user, seek) =>
    let (authResponse, seek) ← readAuthResponse packet clientFlags seek
    unPackNames packet clientFlags user authResponse seek

/-- `unPack` is `unPackInto` with the end of the function for a verdict. -/
theorem unPack_eq (packet : List UInt8) :
    (unPack packet).map (fun r => r.map fun p =>
        (⟨p.user, p.authResponse, p.database, p.pluginName⟩ : Strings)) =
      (unPackInto packet).map fun r => if r.2 = none then some r.1 else none := by
  unfold unPack unPackInto unPackNames unPackPlugin
  cases readU32 packet 0 with
  | error e => rfl
  | ok clientFlags =>
    simp only [ok_bind]
    split_ifs with hproto
    · rfl
    cases readU32 packet 4 with
    | error e => rfl
    | ok maxPacketSize =>
      cases readAt packet 8 with
      | error e => rfl
      | ok charset =>
        simp only [ok_bind]
        rcases readName packet true 32 with e | _ | ⟨user, seek⟩
        · rfl
        · rfl
        simp only [ok_bind]
        rcases readAuthResponse packet clientFlags seek with e | ⟨authResponse, seek⟩
        · rfl
        simp only [ok_bind, hasDB]
        rcases readName packet (clientFlags &&& clientConnectWithDB > 0) seek with
          e | _ | ⟨database, seek⟩
        · rfl
        · rfl
        simp only [ok_bind, hasPlugin]
        rcases readName packet (clientFlags &&& clientPluginAuth > 0) seek with
          e | _ | ⟨pluginName, seek⟩
        · rfl
        · rfl
        simp only [ok_bind]
        split_ifs <;> rfl

/-! ## The readers -/

section
variable {packet : List UInt8} {seek : ℕ}

theorem readAt_of_drop {b : UInt8} {rest : List UInt8} (h : packet.drop seek = b :: rest) :
    readAt packet seek = .ok b := by
  have hget : packet[seek]? = some b := by
    rw [← List.head?_drop, h, List.head?_cons]
  rw [readAt, hget]

theorem readAt_of_le (h : packet.length ≤ seek) : readAt packet seek = .error .outOfBounds := by
  rw [readAt, List.getElem?_eq_none h]

theorem findIdx_zero {s : List UInt8} (h0 : 0 ∉ s) : s.findIdx (· = 0) = s.length := by
  refine List.findIdx_eq_length_of_false fun b hb => decide_eq_false fun heq => ?_
  rw [heq] at hb
  exact h0 hb

theorem findIdx_zero_append {name : List UInt8} (h0 : 0 ∉ name) (rest : List UInt8) :
    (name ++ 0 :: rest).findIdx (· = 0) = name.length := by
  have hname := findIdx_zero h0
  rw [List.findIdx_append, if_neg (by omega), List.findIdx_cons, decide_eq_true rfl, cond_true,
    Nat.zero_add]

theorem drop_of_drop {name rest : List UInt8} (h : packet.drop seek = name ++ rest) :
    packet.drop (seek + name.length) = rest := by
  rw [← List.drop_drop, h, List.drop_left]

/-- A name with a zero after it. -/
theorem readName_of_drop {name rest : List UInt8} (h : packet.drop seek = name ++ 0 :: rest)
    (h0 : 0 ∉ name) : readName packet true seek = .ok (some (name, seek + name.length + 1)) := by
  have hlen := congrArg List.length h
  rw [List.length_drop, List.length_append, List.length_cons] at hlen
  have hfind : findZero packet seek = .ok (seek + name.length) := by
    rw [findZero, if_neg (by omega), h, findIdx_zero_append h0]
  have hslice : slice packet seek (seek + name.length) = .ok name := by
    rw [slice, if_neg (by omega), Nat.add_sub_cancel_left, h, List.take_left]
  rw [readName, if_pos rfl, hfind, ok_bind, if_neg (by omega), hslice]
  rfl

/-- No zero up to the end. -/
theorem readName_of_not_mem (h : seek ≤ packet.length) (h0 : 0 ∉ packet.drop seek) :
    readName packet true seek = .ok none := by
  have hidx : (packet.drop seek).findIdx (· = 0) = packet.length - seek := by
    rw [findIdx_zero h0, List.length_drop]
  have hfind : findZero packet seek = .ok packet.length := by
    rw [findZero, if_neg (by omega), hidx, Nat.add_sub_cancel' h]
  rw [readName, if_pos rfl, hfind, ok_bind, if_pos rfl]
  rfl

theorem readName_of_lt (h : packet.length < seek) :
    readName packet true seek = .error .outOfBounds := by
  rw [readName, if_pos rfl, findZero, if_pos h, error_bind]

/-- The four bytes of a number, put together by `|`. -/
theorem or_bytes_u32 (v : UInt32) :
    v.toUInt8.toUInt32 ||| (v >>> 8).toUInt8.toUInt32 <<< 8 |||
      (v >>> 16).toUInt8.toUInt32 <<< 16 ||| (v >>> 24).toUInt8.toUInt32 <<< 24 = v := by
  have h0 : v.toUInt8.toUInt32.toNat = v.toNat % 2 ^ 8 := by simp
  have h8 : ((v >>> 8).toUInt8.toUInt32 <<< 8).toNat = 2 ^ 8 * (v.toNat / 2 ^ 8 % 256) := by
    simp [Nat.shiftRight_eq_div_pow, Nat.shiftLeft_eq]
    omega
  have h16 : ((v >>> 16).toUInt8.toUInt32 <<< 16).toNat = 2 ^ 16 * (v.toNat / 2 ^ 16 % 256) := by
    simp [Nat.shiftRight_eq_div_pow, Nat.shiftLeft_eq]
    omega
  have h24 : ((v >>> 24).toUInt8.toUInt32 <<< 24).toNat = 2 ^ 24 * (v.toNat / 2 ^ 24 % 256) := by
    simp [Nat.shiftRight_eq_div_pow, Nat.shiftLeft_eq]
    omega
  exact Wire.or_places_u32 h0 h8 h16 h24

theorem readU32_of_drop {v : UInt32} {rest : List UInt8}
    (h : packet.drop seek = Protocol.writeU32 v ++ rest) : readU32 packet seek = .ok v := by
  have hread : ∀ (i : ℕ) (b : UInt8), (Protocol.writeU32 v ++ rest)[i]? = some b →
      readAt packet (seek + i) = .ok b := by
    intro i b hb
    rw [readAt, ← List.getElem?_drop, h, hb]
  rw [readU32, ← Nat.add_zero seek, hread 0 _ rfl, hread 1 _ rfl, hread 2 _ rfl, hread 3 _ rfl]
  exact congrArg Except.ok (or_bytes_u32 v)

theorem exists_readAt (h : seek < packet.length) : ∃ b, readAt packet seek = .ok b :=
  ⟨_, readAt_of_drop (List.drop_eq_getElem_cons h)⟩

theorem exists_readU32 (h : seek + 4 ≤ packet.length) : ∃ v, readU32 packet seek = .ok v := by
  obtain ⟨b0, h0⟩ := @exists_readAt packet seek (by omega)
  obtain ⟨b1, h1⟩ := @exists_readAt packet (seek + 1) (by omega)
  obtain ⟨b2, h2⟩ := @exists_readAt packet (seek + 2) (by omega)
  obtain ⟨b3, h3⟩ := @exists_readAt packet (seek + 3) (by omega)
  rw [readU32, h0, h1, h2, h3]
  exact ⟨_, rfl⟩

theorem lt_of_readAt {b : UInt8} (h : readAt packet seek = .ok b) : seek < packet.length := by
  by_contra hge
  rw [readAt_of_le (by omega)] at h
  cases h

theorem le_of_readU32 {v : UInt32} (h : readU32 packet seek = .ok v) :
    seek + 4 ≤ packet.length := by
  obtain ⟨b0, -, h⟩ := bind_eq_ok.1 h
  obtain ⟨b1, -, h⟩ := bind_eq_ok.1 h
  obtain ⟨b2, -, h⟩ := bind_eq_ok.1 h
  obtain ⟨b3, h3, -⟩ := bind_eq_ok.1 h
  exact lt_of_readAt h3

/-- The first zero of a text is in one place. -/
theorem append_zero_inj {name name' rest rest' : List UInt8} (h : 0 ∉ name) (h' : 0 ∉ name')
    (heq : name ++ 0 :: rest = name' ++ 0 :: rest') : name = name' ∧ rest = rest' := by
  have hlen : name.length = name'.length := by
    rw [← findIdx_zero_append h rest, heq, findIdx_zero_append h']
  obtain ⟨rfl, hrest⟩ := List.append_inj heq hlen
  exact ⟨rfl, (List.cons.inj hrest).2⟩

/-- What becomes of a name. -/
theorem readName_cases (packet : List UInt8) (isSet : Bool) (seek : ℕ) :
    isSet = false ∧ readName packet isSet seek = .ok (some ([], seek)) ∨
    isSet = true ∧ packet.length < seek ∧ readName packet isSet seek = .error .outOfBounds ∨
    isSet = true ∧ seek ≤ packet.length ∧ 0 ∉ packet.drop seek ∧
      readName packet isSet seek = .ok none ∨
    isSet = true ∧ seek ≤ packet.length ∧ ∃ name rest, packet.drop seek = name ++ 0 :: rest ∧
      0 ∉ name ∧ readName packet isSet seek = .ok (some (name, seek + name.length + 1)) ∧
        packet.drop (seek + name.length + 1) = rest ∧ seek + name.length + 1 ≤ packet.length := by
  cases isSet with
  | false => exact Or.inl ⟨rfl, rfl⟩
  | true =>
    rcases Nat.lt_or_ge packet.length seek with hlt | hle
    · exact Or.inr (Or.inl ⟨rfl, hlt, readName_of_lt hlt⟩)
    by_cases h0 : 0 ∈ packet.drop seek
    · obtain ⟨name, rest, h, hname⟩ := List.eq_append_cons_of_mem h0
      have hlen := congrArg List.length h
      rw [List.length_drop, List.length_append, List.length_cons] at hlen
      refine Or.inr (Or.inr (Or.inr ⟨rfl, hle, name, rest, h, hname, readName_of_drop h hname, ?_,
        by omega⟩))
      rw [← List.drop_drop, drop_of_drop h]
      rfl
    · exact Or.inr (Or.inr (Or.inl ⟨rfl, hle, h0, readName_of_not_mem hle h0⟩))

end

/-! ## The last two sections -/

/-- A zero-terminated name, if there is one. -/
def part (isSet : Bool) (name : List UInt8) : List UInt8 :=
  if isSet then name ++ [0] else []

theorem part_true_append (name rest : List UInt8) :
    part true name ++ rest = name ++ 0 :: rest :=
  List.append_assoc name [0] rest

/-- Sections are cut off in one way only. -/
theorem part_append_inj {isSet : Bool} {name name' rest rest' : List UInt8} (h : 0 ∉ name)
    (h' : 0 ∉ name') (hno : isSet = false → name = []) (hno' : isSet = false → name' = [])
    (heq : part isSet name ++ rest = part isSet name' ++ rest') : name = name' ∧ rest = rest' := by
  cases isSet with
  | false => exact ⟨(hno rfl).trans (hno' rfl).symm, heq⟩
  | true =>
    rw [part_true_append, part_true_append] at heq
    exact append_zero_inj h h' heq

/-- A name without zeros in a section of zeros is empty. -/
theorem eq_nil_of_part_subset {isSet : Bool} {name s : List UInt8} (h : 0 ∉ name)
    (hno : isSet = false → name = []) (hs : ∀ b ∈ s, b = 0) (hsub : part isSet name ⊆ s) :
    name = [] := by
  cases isSet with
  | false => exact hno rfl
  | true =>
    refine List.eq_nil_iff_forall_not_mem.2 fun b hb => h ?_
    exact hs b (hsub (List.mem_append_left _ hb)) ▸ hb

theorem zero_mem_part {name : List UInt8} : 0 ∈ part true name :=
  List.mem_append_right name (List.mem_singleton_self 0)

section
variable (packet : List UInt8) (clientFlags : UInt32) (user authResponse : List UInt8)

/-- What becomes of the plugin name : a search from past the end, no zero, or a name. -/
theorem unPackPlugin_cases (database : List UInt8) (seek : ℕ) :
    hasPlugin clientFlags = true ∧ packet.length < seek ∧
      unPackPlugin packet clientFlags user authResponse database seek = .error .outOfBounds ∨
    (hasPlugin clientFlags = true → seek ≤ packet.length) ∧
      (hasPlugin clientFlags = true ∧ 0 ∉ packet.drop seek ∧
        unPackPlugin packet clientFlags user authResponse database seek =
          .ok (⟨user, authResponse, database, []⟩, some false) ∨
      ∃ pluginName rest, packet.drop seek = part (hasPlugin clientFlags) pluginName ++ rest ∧
        0 ∉ pluginName ∧ (hasPlugin clientFlags = false → pluginName = []) ∧
        unPackPlugin packet clientFlags user authResponse database seek =
          .ok (⟨user, authResponse, database, pluginName⟩,
            if pluginName ≠ defaultAuthPluginName.bytes then some false else none)) := by
  unfold unPackPlugin
  rcases readName_cases packet (hasPlugin clientFlags) seek with ⟨hset, hread⟩ |
    ⟨hset, hlt, hread⟩ | ⟨hset, hle, h0, hread⟩ | ⟨hset, hle, name, rest, hdrop, h0, hread, -, -⟩
  · refine Or.inr ⟨fun h => absurd (hset.symm.trans h) Bool.false_ne_true, Or.inr
      ⟨[], packet.drop seek, by rw [hset]; rfl, List.not_mem_nil, fun _ => rfl, by rw [hread]; rfl⟩⟩
  · exact Or.inl ⟨hset, hlt, by rw [hread]; rfl⟩
  · exact Or.inr ⟨fun _ => hle, Or.inl ⟨hset, h0, by rw [hread]; rfl⟩⟩
  · refine Or.inr ⟨fun _ => hle, Or.inr ⟨name, rest, by rw [hset, part_true_append, hdrop], h0,
      fun h => absurd (h.symm.trans hset) Bool.false_ne_true, by rw [hread]; rfl⟩⟩

/-- What becomes of the last two sections : a search from past the end, no zero in one of them,
or both names. -/
theorem unPackNames_cases (seek : ℕ) :
    (hasDB clientFlags = true ∨ hasPlugin clientFlags = true) ∧ packet.length < seek ∧
      unPackNames packet clientFlags user authResponse seek = .error .outOfBounds ∨
    (hasDB clientFlags = true ∨ hasPlugin clientFlags = true → seek ≤ packet.length) ∧
      (hasDB clientFlags = true ∧ 0 ∉ packet.drop seek ∧
          unPackNames packet clientFlags user authResponse seek =
            .ok (⟨user, authResponse, [], []⟩, some false) ∨
        (∃ database rest, hasPlugin clientFlags = true ∧
          packet.drop seek = part (hasDB clientFlags) database ++ rest ∧ 0 ∉ database ∧
          (hasDB clientFlags = false → database = []) ∧ 0 ∉ rest ∧
          unPackNames packet clientFlags user authResponse seek =
            .ok (⟨user, authResponse, database, []⟩, some false)) ∨
        ∃ database pluginName rest, packet.drop seek = part (hasDB clientFlags) database ++
            (part (hasPlugin clientFlags) pluginName ++ rest) ∧ 0 ∉ database ∧ 0 ∉ pluginName ∧
          (hasDB clientFlags = false → database = []) ∧
          (hasPlugin clientFlags = false → pluginName = []) ∧
          unPackNames packet clientFlags user authResponse seek =
            .ok (⟨user, authResponse, database, pluginName⟩,
              if pluginName ≠ defaultAuthPluginName.bytes then some false else none)) := by
  unfold unPackNames
  rcases readName_cases packet (hasDB clientFlags) seek with ⟨hset, hread⟩ | ⟨hset, hlt, hread⟩ |
    ⟨hset, hle, h0, hread⟩ | ⟨hset, hle, database, rest, hdrop, h0, hread, hrest, hle'⟩
  · rw [hread, hset]
    rcases unPackPlugin_cases packet clientFlags user authResponse [] seek with
      ⟨hplugin, hlt, hr⟩ | ⟨hle, ⟨hplugin, h0, hr⟩ | ⟨pluginName, rest, hdrop, h0, hno, hr⟩⟩
    · exact Or.inl ⟨Or.inr hplugin, hlt, hr⟩
    · exact Or.inr ⟨fun h => hle (h.resolve_left Bool.false_ne_true), Or.inr (Or.inl
        ⟨[], packet.drop seek, hplugin, rfl, List.not_mem_nil, fun _ => rfl, h0, hr⟩)⟩
    · exact Or.inr ⟨fun h => hle (h.resolve_left Bool.false_ne_true), Or.inr (Or.inr
        ⟨[], pluginName, rest, hdrop, List.not_mem_nil, h0, fun _ => rfl, hno, hr⟩)⟩
  · exact Or.inl ⟨Or.inl hset, hlt, by rw [hread]; rfl⟩
  · exact Or.inr ⟨fun _ => hle, Or.inl ⟨hset, h0, by rw [hread]; rfl⟩⟩
  · have hnot : hasDB clientFlags = false → database = [] :=
      fun h => absurd (h.symm.trans hset) Bool.false_ne_true
    have hdrop' : packet.drop seek = part (hasDB clientFlags) database ++ rest := by
      rw [hset, part_true_append, hdrop]
    rw [hread]
    refine Or.inr ⟨fun _ => hle, Or.inr ?_⟩
    rcases unPackPlugin_cases packet clientFlags user authResponse database
        (seek + database.length + 1) with
      ⟨hplugin, hlt, hr⟩ | ⟨-, ⟨hplugin, h0', hr⟩ | ⟨pluginName, rest', hdrop'', h0', hno, hr⟩⟩
    · omega
    · exact Or.inl ⟨database, rest, hplugin, hdrop', h0, hnot, hrest ▸ h0', hr⟩
    · refine Or.inr ⟨database, pluginName, rest', ?_, h0, h0', hnot, hno, hr⟩
      rw [hdrop', ← hrest, hdrop'']

end

/-! ## The sections before them -/

/-- The length of the response in the bytes after the user name, with the byte that announces
it. -/
def responseEnd (clientFlags : UInt32) (rest : List UInt8) : ℕ :=
  if isSecure clientFlags then 1 + (rest.headD 0).toNat else 20

/-- How far the cursor goes after the user name. -/
def namesStart (clientFlags : UInt32) (rest : List UInt8) : ℕ :=
  if isSecure clientFlags then 1 + 2 * (rest.headD 0).toNat else 21

/-- The response in the bytes after the user name. -/
def responseOf (clientFlags : UInt32) (rest : List UInt8) : List UInt8 :=
  if isSecure clientFlags then rest.tail.take (rest.headD 0).toNat else rest.take 20

theorem readAuthResponse_eq {packet : List UInt8} {seek : ℕ} (hle : seek ≤ packet.length)
    (clientFlags : UInt32) :
    readAuthResponse packet clientFlags seek =
      if responseEnd clientFlags (packet.drop seek) ≤ (packet.drop seek).length then
        .ok (responseOf clientFlags (packet.drop seek),
          seek + namesStart clientFlags (packet.drop seek))
      else .error .outOfBounds := by
  have hlen : (packet.drop seek).length = packet.length - seek := List.length_drop
  unfold readAuthResponse responseEnd namesStart responseOf slice
  cases hsecure : isSecure clientFlags with
  | false =>
    rw [isSecure, decide_eq_false_iff_not] at hsecure
    simp only [if_neg hsecure, Bool.false_eq_true, if_false, Nat.add_sub_cancel_left]
    rw [hlen]
    split_ifs with h1 h2 h2
    · omega
    · rfl
    · rfl
    · omega
  | true =>
    rw [isSecure, decide_eq_true_iff] at hsecure
    simp only [if_pos hsecure, if_true]
    cases hdrop : packet.drop seek with
    | nil =>
      rw [hdrop] at hlen
      rw [readAt_of_le (by simp at hlen; omega), error_bind]
      rfl
    | cons n response =>
      rw [hdrop, List.length_cons] at hlen
      have hdrop' : packet.drop (seek + 1) = response := by
        rw [← List.drop_drop, hdrop]
        rfl
      rw [readAt_of_drop hdrop, ok_bind, hdrop', Nat.add_sub_cancel_left]
      by_cases hfit : 1 + n.toNat ≤ response.length + 1
      · rw [if_neg (by omega), ok_bind, pure_eq_ok,
          show seek + 1 + n.toNat + n.toNat = seek + (1 + 2 * n.toNat) by omega]
        exact (if_pos hfit).symm
      · rw [if_pos (by omega), error_bind]
        exact (if_neg hfit).symm

section
variable {packet : List UInt8} {clientFlags : UInt32}
  (hflags : readU32 packet 0 = .ok clientFlags) (hproto : clientFlags &&& clientProtocol41 ≠ 0)
include hflags hproto

/-- No answer is taken that ends before the user name. -/
theorem le_of_unPackInto {r : Strings × Option Bool} (h : unPackInto packet = .ok r) :
    32 ≤ packet.length := by
  by_contra hlt
  rw [unPackInto, hflags, ok_bind, if_neg hproto] at h
  obtain ⟨_, -, h⟩ := bind_eq_ok.1 h
  obtain ⟨_, -, h⟩ := bind_eq_ok.1 h
  rw [readName_of_lt (by omega)] at h
  obtain ⟨_, h, -⟩ := bind_eq_ok.1 h
  cases h

theorem unPackInto_of_le (hle : 32 ≤ packet.length) :
    unPackInto packet = readName packet true 32 >>= fun name => match name with
      | none => .ok ({}, some false)
      | some (user, seek) => readAuthResponse packet clientFlags seek >>= fun response =>
          unPackNames packet clientFlags user response.1 response.2 := by
  obtain ⟨_, h4⟩ := @exists_readU32 packet 4 (by omega)
  obtain ⟨_, h8⟩ := @exists_readAt packet 8 (by omega)
  rw [unPackInto, hflags, ok_bind, if_neg hproto, h4, ok_bind, h8, ok_bind]
  rfl

/-- The cursor after a user name. -/
theorem unPackInto_of_drop {user rest : List UInt8} (hdrop : packet.drop 32 = user ++ 0 :: rest)
    (h0 : 0 ∉ user) :
    ∃ seek, packet.drop seek = rest ∧ seek ≤ packet.length ∧
      unPackInto packet = if responseEnd clientFlags rest ≤ rest.length then
        unPackNames packet clientFlags user (responseOf clientFlags rest)
          (seek + namesStart clientFlags rest)
      else .error .outOfBounds := by
  have hlen := congrArg List.length hdrop
  rw [List.length_drop, List.length_append, List.length_cons] at hlen
  have hrest : packet.drop (32 + user.length + 1) = rest := by
    rw [← List.drop_drop, drop_of_drop hdrop]
    rfl
  refine ⟨32 + user.length + 1, hrest, by omega, ?_⟩
  rw [unPackInto_of_le hflags hproto (by omega), readName_of_drop hdrop h0, ok_bind]
  simp only
  rw [readAuthResponse_eq (by omega), hrest]
  split_ifs <;> rfl

end

/-! ## Well-formed answers -/

/-- What a client answers to the greeting. A section that the flags do not announce is empty. -/
structure Answer where
  clientFlags : UInt32
  maxPacketSize : UInt32
  charset : UInt8
  reserved : List UInt8
  user : List UInt8
  authResponse : List UInt8
  database : List UInt8
  pluginName : List UInt8
  protocol41 : clientFlags &&& clientProtocol41 ≠ 0
  length_reserved : reserved.length = 23
  zero_user : 0 ∉ user
  length_response : if isSecure clientFlags then authResponse.length ≤ 255
    else authResponse.length = 20
  zero_database : 0 ∉ database
  zero_plugin : 0 ∉ pluginName
  no_database : hasDB clientFlags = false → database = []
  no_plugin : hasPlugin clientFlags = false → pluginName = []

namespace Answer

/-- The response, with its length before it or a zero after it. -/
def responseBytes (h : Answer) : List UInt8 :=
  if isSecure h.clientFlags then UInt8.ofNat h.authResponse.length :: h.authResponse
  else h.authResponse ++ [0]

/-- The names after the response. -/
def names (h : Answer) : List UInt8 :=
  part (hasDB h.clientFlags) h.database ++ part (hasPlugin h.clientFlags) h.pluginName

/-- The packet. -/
def bytes (h : Answer) : List UInt8 :=
  Protocol.writeU32 h.clientFlags ++ Protocol.writeU32 h.maxPacketSize ++ h.charset :: h.reserved ++
    h.user ++ 0 :: (h.responseBytes ++ h.names)

/-- The answer is decoded to what it was made of, and accepted when it names the plugin. -/
def Decoded (h : Answer) : Prop :=
  unPackInto h.bytes = .ok (⟨h.user, h.authResponse, h.database, h.pluginName⟩,
    some (decide (h.pluginName = defaultAuthPluginName.bytes)))

/-- How many bytes of the names are passed over. -/
def passedOver (h : Answer) : ℕ :=
  if isSecure h.clientFlags then h.authResponse.length else 0

/-- Nothing is passed over that says anything : the response has no length before it or is
empty, or there are no names, or the names are empty and the response is no longer than their
zeros. -/
def Aligned (h : Answer) : Prop :=
  h.passedOver = 0 ∨ h.names = [] ∨ h.passedOver ≤ h.names.length ∧ ∀ b ∈ h.names, b = 0

section
variable (h : Answer)

theorem readU32_bytes : readU32 h.bytes 0 = .ok h.clientFlags := by
  refine @readU32_of_drop _ _ _ (Protocol.writeU32 h.maxPacketSize ++ h.charset :: h.reserved ++
    h.user ++ 0 :: (h.responseBytes ++ h.names)) ?_
  rw [List.drop_zero, bytes]
  simp only [List.append_assoc]

theorem drop_bytes : h.bytes.drop 32 = h.user ++ 0 :: (h.responseBytes ++ h.names) := by
  have hlen : (Protocol.writeU32 h.clientFlags ++ Protocol.writeU32 h.maxPacketSize ++
      h.charset :: h.reserved).length = 32 := by
    simp [Protocol.writeU32, h.length_reserved]
  rw [bytes, List.append_assoc, List.drop_left' hlen]

/-- The response is read as it is, and the cursor goes on past it. -/
theorem response_spec :
    responseEnd h.clientFlags (h.responseBytes ++ h.names) ≤ (h.responseBytes ++ h.names).length ∧
    responseOf h.clientFlags (h.responseBytes ++ h.names) = h.authResponse ∧
    (h.responseBytes ++ h.names).drop (namesStart h.clientFlags (h.responseBytes ++ h.names)) =
      h.names.drop h.passedOver ∧
    (namesStart h.clientFlags (h.responseBytes ++ h.names) ≤ (h.responseBytes ++ h.names).length ↔
      h.passedOver ≤ h.names.length) := by
  have hlen := h.length_response
  unfold responseEnd responseOf namesStart passedOver responseBytes
  cases hsecure : isSecure h.clientFlags with
  | false =>
    rw [hsecure, if_neg Bool.false_ne_true] at hlen
    have hlen' : (h.authResponse ++ [0]).length = 21 := by
      rw [List.length_append, hlen, List.length_singleton]
    simp only [Bool.false_eq_true, if_false]
    rw [List.length_append, hlen', List.drop_left' hlen', List.append_assoc, List.take_left' hlen]
    exact ⟨by omega, rfl, rfl, iff_of_true (by omega) (Nat.zero_le _)⟩
  | true =>
    rw [hsecure, if_pos rfl] at hlen
    have hn : (UInt8.ofNat h.authResponse.length).toNat = h.authResponse.length := by
      rw [UInt8.toNat_ofNat', Nat.mod_eq_of_lt (by omega)]
    simp only [if_true, List.cons_append, List.headD_cons, hn, List.tail_cons, List.length_cons,
      List.length_append]
    refine ⟨by omega, List.take_left, ?_, by omega⟩
    rw [Nat.add_comm 1, List.drop_succ_cons, Nat.two_mul, ← List.drop_drop, List.drop_left]

/-- What `UnPack` makes of an answer is what it makes of the names after `passedOver` bytes. -/
theorem unPackInto_bytes : ∃ seek, h.bytes.drop seek = h.names.drop h.passedOver ∧
    (seek ≤ h.bytes.length ↔ h.passedOver ≤ h.names.length) ∧
    unPackInto h.bytes = unPackNames h.bytes h.clientFlags h.user h.authResponse seek := by
  obtain ⟨hend, hresponse, hdrop, hle⟩ := h.response_spec
  obtain ⟨seek, hseek, hseekle, hr⟩ :=
    unPackInto_of_drop h.readU32_bytes h.protocol41 h.drop_bytes h.zero_user
  refine ⟨_, ?_, ?_, by rw [hr, if_pos hend, hresponse]⟩
  · rw [← List.drop_drop, hseek, hdrop]
  · have hlen := congrArg List.length hseek
    rw [List.length_drop] at hlen
    rw [← hle, ← hlen]
    omega

theorem names_eq_nil_iff :
    h.names = [] ↔ hasDB h.clientFlags = false ∧ hasPlugin h.clientFlags = false := by
  unfold names part
  cases hasDB h.clientFlags <;> cases hasPlugin h.clientFlags <;> simp

/-- Names that are all zeros are empty. -/
theorem names_zero_iff : (∀ b ∈ h.names, b = 0) ↔ h.database = [] ∧ h.pluginName = [] := by
  refine ⟨fun hz => ⟨?_, ?_⟩, fun ⟨hdb, hpl⟩ b hb => ?_⟩
  · exact eq_nil_of_part_subset h.zero_database h.no_database hz (List.subset_append_left _ _)
  · exact eq_nil_of_part_subset h.zero_plugin h.no_plugin hz (List.subset_append_right _ _)
  · rw [names, hdb, hpl] at hb
    have hpart : ∀ isSet, ∀ b ∈ part isSet [], b = 0 := by
      intro isSet b hb
      cases isSet with
      | false => exact absurd hb List.not_mem_nil
      | true => exact List.mem_singleton.1 hb
    rcases List.mem_append.1 hb with hb | hb
    · exact hpart _ b hb
    · exact hpart _ b hb

/-- The names from somewhere on begin with the database name and a zero : they are all zeros. -/
theorem database_eq_nil_of_drop {rest : List UInt8} (hplugin : h.pluginName = [])
    (hset : hasPlugin h.clientFlags = true) (hpos : h.passedOver ≠ 0)
    (hdrop : h.names.drop h.passedOver = part (hasDB h.clientFlags) h.database ++ rest) :
    h.database = [] := by
  cases hdb : hasDB h.clientFlags with
  | false => exact h.no_database hdb
  | true =>
    have h0 := h.zero_database
    rw [names, hdb, hset, hplugin] at hdrop
    generalize h.database = database at hdrop h0
    have hlen := congrArg List.length hdrop
    simp only [part, if_true, List.nil_append, List.length_drop, List.length_append,
      List.length_singleton] at hlen
    have hone : h.passedOver = 1 := by omega
    obtain rfl : rest = [] := List.length_eq_zero_iff.1 (by omega)
    cases database with
    | nil => rfl
    | cons b database =>
      -- one zero too many
      rw [hone] at hdrop
      have heq : database ++ [0] = b :: database :=
        List.append_cancel_right (hdrop.trans (List.append_nil _))
      rw [← heq] at h0
      exact absurd zero_mem_part h0

/-- Empty names may be passed over, as far as there are any. -/
theorem aligned_of_eq_nil (hle : h.passedOver ≤ h.names.length) (hdb : h.database = [])
    (hpl : h.pluginName = []) : h.Aligned :=
  Or.inr (Or.inr ⟨hle, h.names_zero_iff.2 ⟨hdb, hpl⟩⟩)

/-- Where the names are read once more from the start, nothing was passed over. -/
theorem aligned_of_drop_eq {rest : List UInt8}
    (hnames : h.names.drop h.passedOver = h.names ++ rest) : h.Aligned := by
  have hlen := congrArg List.length hnames
  rw [List.length_append, List.length_drop] at hlen
  by_cases hnil : h.names = []
  · exact Or.inr (Or.inl hnil)
  · have hpos := List.length_pos_iff.2 hnil
    exact Or.inl (by omega)

section
variable {h} (hal : h.Aligned)
include hal

/-- Where no zero is left for the database name, the names of an aligned answer are empty. -/
theorem Aligned.eq_nil_of_no_zero (hdb : hasDB h.clientFlags = true)
    (h0 : 0 ∉ h.names.drop h.passedOver) : h.database = [] ∧ h.pluginName = [] := by
  rcases hal with hzero | hnames | ⟨-, hzeros⟩
  · rw [hzero, List.drop_zero, names, hdb] at h0
    exact absurd (List.mem_append_left _ zero_mem_part) h0
  · exact absurd (hdb.symm.trans (h.names_eq_nil_iff.1 hnames).1) (by decide)
  · exact h.names_zero_iff.1 hzeros

variable {database : List UInt8} (h0 : 0 ∉ database)
  (hno : hasDB h.clientFlags = false → database = [])
include h0 hno

/-- Nor is anything but empty names left where a database name is read and no zero comes after
it. -/
theorem Aligned.eq_nil_of_no_second_zero {rest : List UInt8}
    (hpl : hasPlugin h.clientFlags = true) (h0' : 0 ∉ rest)
    (hnames : h.names.drop h.passedOver = part (hasDB h.clientFlags) database ++ rest) :
    database = [] ∧ h.database = [] ∧ h.pluginName = [] := by
  rcases hal with hzero | hnames' | ⟨-, hzeros⟩
  · rw [hzero, List.drop_zero, names] at hnames
    obtain ⟨-, hrest⟩ := part_append_inj h.zero_database h0 h.no_database hno hnames
    rw [hpl] at hrest
    exact absurd (hrest ▸ zero_mem_part) h0'
  · exact absurd (hpl.symm.trans (h.names_eq_nil_iff.1 hnames').2) (by decide)
  · refine ⟨eq_nil_of_part_subset h0 hno hzeros fun b hb => ?_, h.names_zero_iff.1 hzeros⟩
    exact List.mem_of_mem_drop (hnames ▸ List.mem_append_left _ hb)

/-- The names that are read of an aligned answer are its own. -/
theorem Aligned.eq_of_drop_eq {pluginName rest : List UInt8} (h0' : 0 ∉ pluginName)
    (hno' : hasPlugin h.clientFlags = false → pluginName = [])
    (hnames : h.names.drop h.passedOver = part (hasDB h.clientFlags) database ++
      (part (hasPlugin h.clientFlags) pluginName ++ rest)) :
    database = h.database ∧ pluginName = h.pluginName := by
  rcases hal with hzero | hnames' | ⟨-, hzeros⟩
  · rw [hzero, List.drop_zero, names] at hnames
    obtain ⟨hdb', hrest⟩ := part_append_inj h.zero_database h0 h.no_database hno hnames
    rw [← List.append_nil (part (hasPlugin h.clientFlags) h.pluginName)] at hrest
    exact ⟨hdb'.symm, (part_append_inj h.zero_plugin h0' h.no_plugin hno' hrest).1.symm⟩
  · obtain ⟨hdb', hpl'⟩ := h.names_eq_nil_iff.1 hnames'
    exact ⟨(hno hdb').trans (h.no_database hdb').symm,
      (hno' hpl').trans (h.no_plugin hpl').symm⟩
  · obtain ⟨hdb', hpl'⟩ := h.names_zero_iff.1 hzeros
    refine ⟨(eq_nil_of_part_subset h0 hno hzeros fun b hb => ?_).trans hdb'.symm,
      (eq_nil_of_part_subset h0' hno' hzeros fun b hb => ?_).trans hpl'.symm⟩
    · exact List.mem_of_mem_drop (hnames ▸ List.mem_append_left _ hb)
    · exact List.mem_of_mem_drop (hnames ▸ List.mem_append_right _ (List.mem_append_left _ hb))

end

/-- An answer is decoded to what it was made of exactly when it does not name the plugin and
nothing that says anything is passed over. -/
theorem decoded_iff : h.Decoded ↔ h.pluginName ≠ defaultAuthPluginName.bytes ∧ h.Aligned := by
  obtain ⟨seek, hdrop, hle, hr⟩ := h.unPackInto_bytes
  have hnil : ([] : List UInt8) ≠ defaultAuthPluginName.bytes := by decide
  have hresult : ∀ {database pluginName : List UInt8} {returned : Option Bool},
      unPackInto h.bytes = .ok (⟨h.user, h.authResponse, database, pluginName⟩, returned) →
        (h.Decoded ↔ database = h.database ∧ pluginName = h.pluginName ∧
          returned = some (decide (h.pluginName = defaultAuthPluginName.bytes))) := by
    intro database pluginName returned heq
    rw [Decoded, heq]
    simp [and_assoc]
  rcases unPackNames_cases h.bytes h.clientFlags h.user h.authResponse seek with
    ⟨hnamed, hlt, hread⟩ | ⟨hin, ⟨hdb, h0, hread⟩ |
      ⟨database, rest, hpl, hnames, h0, hno, h0', hread⟩ |
      ⟨database, pluginName, rest, hnames, h0, h0', hno, hno', hread⟩⟩
  · -- the search begins past the end
    have hpast : ¬h.passedOver ≤ h.names.length := fun hle' => absurd (hle.2 hle') (by omega)
    rw [Decoded, hr, hread]
    refine iff_of_false (fun heq => by cases heq) fun ⟨_, hal⟩ => ?_
    rcases hal with hzero | hnames | ⟨hle', -⟩
    · omega
    · obtain ⟨hdb, hpl⟩ := h.names_eq_nil_iff.1 hnames
      rw [hdb, hpl] at hnamed
      exact hnamed.elim Bool.false_ne_true Bool.false_ne_true
    · exact hpast hle'
  · -- no zero is left
    rw [hresult (hr.trans hread)]
    rw [hdrop] at h0
    refine ⟨fun ⟨hdb', hpl', _⟩ => ?_, fun ⟨_, hal⟩ => ?_⟩
    · rw [← hpl']
      exact ⟨hnil, h.aligned_of_eq_nil (hle.1 (hin (Or.inl hdb))) hdb'.symm hpl'.symm⟩
    · obtain ⟨hdb', hpl'⟩ := hal.eq_nil_of_no_zero hdb h0
      rw [hdb', hpl']
      exact ⟨rfl, rfl, rfl⟩
  · -- no zero is left after the database name
    rw [hresult (hr.trans hread)]
    rw [hdrop] at hnames
    refine ⟨fun ⟨hdb', hpl', _⟩ => ?_, fun ⟨_, hal⟩ => ?_⟩
    · rw [← hpl']
      refine ⟨hnil, or_iff_not_imp_left.2 fun hpos => ?_⟩
      rw [hdb'] at hnames
      have hempty := h.database_eq_nil_of_drop hpl'.symm hpl hpos hnames
      exact (h.aligned_of_eq_nil (hle.1 (hin (Or.inr hpl))) hempty hpl'.symm).resolve_left hpos
    · obtain ⟨hempty, hdb', hpl'⟩ := hal.eq_nil_of_no_second_zero h0 hno hpl h0' hnames
      rw [hdb', hpl', hempty]
      exact ⟨rfl, rfl, rfl⟩
  · -- both names are read
    rw [hresult (hr.trans hread)]
    rw [hdrop] at hnames
    refine ⟨fun ⟨hdb', hpl', hret⟩ => ?_, fun ⟨hne, hal⟩ => ?_⟩
    · refine ⟨fun heq => ?_, ?_⟩
      · rw [hpl', if_neg (not_not_intro heq)] at hret
        cases hret
      · rw [hdb', hpl', ← List.append_assoc] at hnames
        exact h.aligned_of_drop_eq hnames
    · obtain ⟨hdb', hpl'⟩ := hal.eq_of_drop_eq h0 hno h0' hno' hnames
      refine ⟨hdb', hpl', ?_⟩
      rw [hpl', if_pos hne, decide_eq_false hne]

end

/-- User `root` with a response of 20 bytes, the database `test` and the plugin. -/
def root : Answer where
  clientFlags := 557576
  maxPacketSize := 16777216
  charset := 33
  reserved := List.replicate 23 0
  user := (str "root").bytes
  authResponse := List.replicate 20 7
  database := (str "test").bytes
  pluginName := defaultAuthPluginName.bytes
  protocol41 := by decide
  length_reserved := by decide
  zero_user := by decide
  length_response := by decide
  zero_database := by decide
  zero_plugin := by decide
  no_database := by decide
  no_plugin := by decide

/-- The end of the plugin's name is taken for the database, and the answer is turned down. -/
theorem not_decoded_root : unPackInto root.bytes =
    .ok (⟨(str "root").bytes, List.replicate 20 7, (str "ssword").bytes, []⟩, some false) ∧
      ¬root.Decoded := by
  have h : unPackInto root.bytes =
      .ok (⟨(str "root").bytes, List.replicate 20 7, (str "ssword").bytes, []⟩, some false) := by
    decide
  refine ⟨h, fun hdecoded => ?_⟩
  exact absurd (h.symm.trans hdecoded) (by decide)

end Answer

/-! ## Every packet -/

/-- A packet that ends before a well-formed answer does. -/
def Truncated (packet : List UInt8) : Prop :=
  ∃ h : Answer, packet <+: h.bytes ∧ packet ≠ h.bytes

/-- `UnPack` reads and searches inside the packet, ends with a verdict, and turns a truncated
packet down. -/
def StaysInside (packet : List UInt8) : Prop :=
  ∃ strings verdict, unPackInto packet = .ok (strings, some verdict) ∧
    (Truncated packet → verdict = false)

/-- The plugin's name stands where a plugin's name is looked for. -/
def NamesPlugin (clientFlags : UInt32) (names : List UInt8) : Prop :=
  hasPlugin clientFlags = true ∧ ∃ database rest, 0 ∉ database ∧
    (hasDB clientFlags = false → database = []) ∧
    names = part (hasDB clientFlags) database ++ (defaultAuthPluginName.bytes ++ 0 :: rest)

/-- The response lies in the packet, and so does the place after it where the search for a name
begins, if there is a name to search for ; this name is not that of the plugin. -/
structure RestInside (clientFlags : UInt32) (rest : List UInt8) : Prop where
  response : responseEnd clientFlags rest ≤ rest.length
  names : hasDB clientFlags = true ∨ hasPlugin clientFlags = true →
    namesStart clientFlags rest ≤ rest.length
  plugin : ¬NamesPlugin clientFlags (rest.drop (namesStart clientFlags rest))

/-- The packet has flags, and the sections that the flags announce up to the first one whose zero is
missing. -/
def Inside (packet : List UInt8) : Prop :=
  4 ≤ packet.length ∧ ∀ clientFlags, readU32 packet 0 = .ok clientFlags →
    clientFlags &&& clientProtocol41 ≠ 0 → 32 ≤ packet.length ∧ ∀ user rest,
      packet.drop 32 = user ++ 0 :: rest → 0 ∉ user → RestInside clientFlags rest

/-- No path returns `true`. -/
theorem verdict_eq_false {packet : List UInt8} {strings : Strings} {verdict : Bool}
    (h : unPackInto packet = .ok (strings, some verdict)) : verdict = false := by
  have hfalse : ∀ {s : Strings},
      (Except.ok (s, some false) : Except Fault (Strings × Option Bool)) =
        .ok (strings, some verdict) → verdict = false := fun heq =>
    (Option.some.inj (Prod.mk.inj (Except.ok.inj heq)).2).symm
  obtain ⟨clientFlags, -, h⟩ := bind_eq_ok.1 h
  split_ifs at h
  · exact hfalse h
  obtain ⟨_, -, h⟩ := bind_eq_ok.1 h
  obtain ⟨_, -, h⟩ := bind_eq_ok.1 h
  obtain ⟨name, -, h⟩ := bind_eq_ok.1 h
  rcases name with _ | ⟨user, seek⟩
  · exact hfalse h
  obtain ⟨⟨response, seek'⟩, -, h⟩ := bind_eq_ok.1 h
  rcases unPackNames_cases packet clientFlags user response seek' with ⟨-, -, hread⟩ |
    ⟨-, ⟨-, -, hread⟩ | ⟨_, _, -, -, -, -, -, hread⟩ | ⟨_, _, _, -, -, -, -, -, hread⟩⟩
  · exact absurd (hread.symm.trans h) (by simp)
  · exact hfalse (hread.symm.trans h)
  · exact hfalse (hread.symm.trans h)
  · have heq := (Prod.mk.inj (Except.ok.inj (hread.symm.trans h))).2
    split_ifs at heq
    exact (Option.some.inj heq).symm

/-- The last two sections are inside, and the function ends with a verdict. -/
theorem unPackNames_returns_iff (packet : List UInt8) (clientFlags : UInt32)
    (user authResponse : List UInt8) (seek : ℕ) :
    (∃ strings, unPackNames packet clientFlags user authResponse seek =
      .ok (strings, some false)) ↔
      (hasDB clientFlags = true ∨ hasPlugin clientFlags = true → seek ≤ packet.length) ∧
        ¬NamesPlugin clientFlags (packet.drop seek) := by
  rcases unPackNames_cases packet clientFlags user authResponse seek with ⟨hnamed, hlt, hread⟩ |
    ⟨hin, ⟨hdb, h0, hread⟩ | ⟨database, rest, hpl, hdrop, h0, hno, h0', hread⟩ |
      ⟨database, pluginName, rest, hdrop, h0, h0', hno, hno', hread⟩⟩
  · rw [hread]
    exact iff_of_false (by simp) fun ⟨hle, _⟩ => absurd (hle hnamed) (by omega)
  · refine iff_of_true ⟨_, hread⟩ ⟨hin, fun ⟨_, database, rest, _, _, hdrop⟩ => h0 ?_⟩
    simp [hdrop]
  · refine iff_of_true ⟨_, hread⟩ ⟨hin, fun ⟨_, database', rest', hdb', hno', hdrop'⟩ => h0' ?_⟩
    rw [(part_append_inj h0 hdb' hno hno' (hdrop.symm.trans hdrop')).2]
    simp
  · rw [and_iff_right hin, hread]
    have hnamed : NamesPlugin clientFlags (packet.drop seek) ↔
        pluginName = defaultAuthPluginName.bytes := by
      refine ⟨fun ⟨hpl, database', rest', hdb', hno', hdrop'⟩ => ?_, fun heq => ?_⟩
      · have hrest := (part_append_inj h0 hdb' hno hno' (hdrop.symm.trans hdrop')).2
        rw [hpl, part_true_append] at hrest
        exact (append_zero_inj h0' (by decide) hrest).1
      · have hpl : hasPlugin clientFlags = true := by
          by_contra hset
          rw [hno' (Bool.eq_false_of_not_eq_true hset)] at heq
          exact absurd heq (by decide)
        refine ⟨hpl, database, rest, h0, hno, ?_⟩
        rw [hdrop, hpl, part_true_append, heq]
    rw [hnamed]
    split_ifs with hne
    · exact iff_of_true ⟨_, rfl⟩ hne
    · exact iff_of_false (by simp) hne

/-- After the user name, the sections are inside exactly under `RestInside`. -/
theorem returns_iff_restInside {packet : List UInt8} {clientFlags : UInt32}
    (hflags : readU32 packet 0 = .ok clientFlags) (hproto : clientFlags &&& clientProtocol41 ≠ 0)
    {user rest : List UInt8} (hdrop : packet.drop 32 = user ++ 0 :: rest) (h0 : 0 ∉ user) :
    (∃ strings, unPackInto packet = .ok (strings, some false)) ↔ RestInside clientFlags rest := by
  obtain ⟨seek, hseek, hle, hr⟩ := unPackInto_of_drop hflags hproto hdrop h0
  by_cases hend : responseEnd clientFlags rest ≤ rest.length
  · have hlen := congrArg List.length hseek
    rw [List.length_drop] at hlen
    have hstart : seek + namesStart clientFlags rest ≤ packet.length ↔
        namesStart clientFlags rest ≤ rest.length := by omega
    rw [hr, if_pos hend, unPackNames_returns_iff, hstart, ← List.drop_drop, hseek]
    exact ⟨fun h => ⟨hend, h.1, h.2⟩, fun h => ⟨h.names, h.plugin⟩⟩
  · rw [hr, if_neg hend]
    exact iff_of_false (by simp) fun h => hend h.response

/-- `UnPack` stays inside a packet and ends with a verdict exactly when the sections are there
as far as they are read, and the plugin is not named. -/
theorem staysInside_iff (packet : List UInt8) : StaysInside packet ↔ Inside packet := by
  have hstays : StaysInside packet ↔ ∃ strings, unPackInto packet = .ok (strings, some false) := by
    refine ⟨fun ⟨strings, verdict, h, _⟩ => ⟨strings, ?_⟩,
      fun ⟨strings, h⟩ => ⟨strings, false, h, fun _ => rfl⟩⟩
    rw [h, verdict_eq_false h]
  rw [hstays]
  by_cases h4 : 4 ≤ packet.length
  · obtain ⟨clientFlags, hflags⟩ := @exists_readU32 packet 0 (by omega)
    have hinside : Inside packet ↔ (clientFlags &&& clientProtocol41 ≠ 0 → 32 ≤ packet.length ∧
        ∀ user rest, packet.drop 32 = user ++ 0 :: rest → 0 ∉ user →
          RestInside clientFlags rest) := by
      refine ⟨fun h => h.2 clientFlags hflags, fun h => ⟨h4, fun clientFlags' hflags' => ?_⟩⟩
      obtain rfl := Except.ok.inj (hflags.symm.trans hflags')
      exact h
    rw [hinside]
    by_cases hproto : clientFlags &&& clientProtocol41 = 0
    · refine iff_of_true ⟨{}, ?_⟩ fun hne => absurd hproto hne
      rw [unPackInto, hflags, ok_bind, if_pos hproto]
      rfl
    rw [imp_iff_right hproto]
    by_cases hle : 32 ≤ packet.length
    · rw [and_iff_right hle]
      by_cases h0 : 0 ∈ packet.drop 32
      · obtain ⟨user, rest, hdrop, huser⟩ := List.eq_append_cons_of_mem h0
        have hrest : (∀ user rest, packet.drop 32 = user ++ 0 :: rest → 0 ∉ user →
            RestInside clientFlags rest) ↔ RestInside clientFlags rest := by
          refine ⟨fun h => h user rest hdrop huser, fun h user' rest' hdrop' huser' => ?_⟩
          rw [← (append_zero_inj huser huser' (hdrop.symm.trans hdrop')).2]
          exact h
        rw [hrest]
        exact returns_iff_restInside hflags hproto hdrop huser
      · refine iff_of_true ⟨{}, ?_⟩ fun user rest hdrop _ => absurd (by simp [hdrop]) h0
        rw [unPackInto_of_le hflags hproto hle, readName_of_not_mem hle h0, ok_bind]
    · exact iff_of_false (fun ⟨_, h⟩ => hle (le_of_unPackInto hflags hproto h)) fun h => hle h.1
  · refine iff_of_false (fun ⟨strings, h⟩ => ?_) fun h => h4 h.1
    obtain ⟨clientFlags, hflags, -⟩ := bind_eq_ok.1 h
    have hle := le_of_readU32 hflags
    omega

/-- A packet of one byte. -/
theorem not_staysInside_short : ¬StaysInside [0] := by
  rintro ⟨strings, verdict, h, -⟩
  have herror : unPackInto [0] = .error .outOfBounds := rfl
  exact absurd (herror.symm.trans h) (by simp)

end AuthPacket

end UhpSql
