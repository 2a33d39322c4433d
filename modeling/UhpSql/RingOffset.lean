import UhpSql.Ring

/-!
# Writes at an offset (`network/buffer.h`)

`PushDataAt` with an offset decides where to write by the position at the offset, but copies to
`writePos_`. `Agrees` is what `PushDataAt`, `AdjustWritePtr` and `PeekDataAt` are to make of data
that fit : they come back, and the bytes that can be read stay as they are.

`agrees_iff` : they do exactly if the copy stays in the buffer, and each byte that comes back, which
is `offset` bytes further on in the data or was in its cell before, is the byte that was to be
there. `agrees_zero` : without an offset this is so, unless 2 GB or more go round the end.
-/

namespace UhpSql

namespace CircularBuffer

variable {α : Type}

section
variable (b : CircularBuffer α)

/-- `PushDataAt`, with an offset that does not make the size wrap around. A copy to cells outside of
the buffer has no result. -/
def pushDataAt (data : List α) (offset : ℕ) : Option (CircularBuffer α × Bool) :=
  if data = [] then some (b, true)
  else if b.writeableSize < offset + data.length then some (b, false)
  else if h : ∀ segment ∈ b.pushSegments data.length offset,
      segment.1 + segment.2 ≤ b.buffer.length then
    some ({ b with
      buffer := scatter (b.pushSegments data.length offset) data b.buffer
      length_buffer := by rw [length_scatter _ h, b.length_buffer] }, true)
  else none

/-- The data are written inside of the buffer and beside the bytes that can be read, and come back.
-/
def Agrees (data : List α) (offset : ℕ) : Prop :=
  ∃ b', b.pushDataAt data offset = some (b', true) ∧ b'.contents = b.contents ∧
    (b'.adjustWritePtr (offset + data.length)).peekDataAt data.length (b.readableSize + offset) =
      some data

/-- How many bytes are copied : all, unless those that go round the end are cast to an `int` that
has not room for them. -/
def copied (nSize offset : ℕ) : ℕ :=
  if b.mask (b.writePos + offset) < b.readPos ∨ nSize < b.maxSize - b.writePos then nSize
  else
    b.maxSize - b.writePos + (Int32.ofNat (nSize - (b.maxSize - b.writePos))).toInt.toNat

/-- The copy stays in the buffer, and the bytes that come back are the data : as far as the copy
goes those `offset` bytes further on, and then those that are in the buffer already. -/
structure Lands (data : List α) (offset : ℕ) : Prop where
  room : b.mask (b.writePos + offset) < b.readPos → b.writePos + data.length ≤ b.maxSize
  copied : ∀ i < data.length, offset + i < b.copied data.length offset →
    data[offset + i]? = data[i]?
  old : ∀ i < data.length, b.copied data.length offset ≤ offset + i →
    b.buffer[(b.writePos + (offset + i)) % b.maxSize]? = data[i]?

theorem toInt_ofNat_le (n : ℕ) : (Int32.ofNat n).toInt ≤ n := by
  rw [Int32.toInt_ofNat', Int.bmod_def, Int32.size]
  split <;> omega

theorem copied_le (nSize offset : ℕ) : b.copied nSize offset ≤ nSize := by
  have hint := toInt_ofNat_le (nSize - (b.maxSize - b.writePos))
  rw [copied]
  split_ifs <;> omega

/-- The copies are to the cells from `writePos_` on. -/
theorem pushSegments_eq_copied {nSize offset : ℕ}
    (h : b.mask (b.writePos + offset) < b.readPos → b.writePos + nSize ≤ b.maxSize) :
    b.pushSegments nSize offset = arc b.maxSize b.writePos (b.copied nSize offset) := by
  have hw := b.writePos_lt_maxSize
  unfold pushSegments copied arc
  simp only
  split_ifs <;> simp only [List.cons.injEq, Prod.mk.injEq, true_and, and_true,
    reduceCtorEq, and_false] <;> omega

/-- Only as many data as the cells are written. -/
theorem scatter_arc_take {buffer data : List α} {cap pos n : ℕ} :
    scatter (arc cap pos n) data buffer = scatter (arc cap pos n) (data.take n) buffer := by
  unfold arc
  split_ifs with hle
  · simp only [scatter, List.take_take, Nat.min_self]
  · simp only [scatter, List.take_take, List.drop_take, Nat.min_self]
    rw [Nat.min_eq_left (by omega)]

theorem readableSize_adjustWritePtr {size : ℕ} (h : size ≤ b.writeableSize) :
    (b.adjustWritePtr size).readableSize = b.readableSize + size := by
  have hr := b.readPos_lt_maxSize
  have hw := b.writePos_lt_maxSize
  have hsize := b.readableSize_lt
  have heq := b.readableSize_eq
  rw [writeableSize] at h
  have hmod := add_mod_eq hw (show size < b.maxSize by omega)
  have hnew := (b.adjustWritePtr size).readableSize_eq
  rw [show (b.adjustWritePtr size).writePos = (b.writePos + size) % b.maxSize from b.mask_eq _,
    show (b.adjustWritePtr size).readPos = b.readPos from rfl,
    show (b.adjustWritePtr size).maxSize = b.maxSize from rfl] at hnew
  split_ifs at hmod heq hnew <;> omega

end

section
variable {b b' : CircularBuffer α} {data : List α} {offset : ℕ}

/-- The cells after the copy, from `writePos_` on. -/
structure Copied (b b' : CircularBuffer α) (data : List α) (offset : ℕ) : Prop where
  bits : b'.bits = b.bits
  readPos : b'.readPos = b.readPos
  writePos : b'.writePos = b.writePos
  cells : ∀ j < b.maxSize, b'.buffer[(b.writePos + j) % b.maxSize]? =
    if j < b.copied data.length offset then data[j]? else b.buffer[(b.writePos + j) % b.maxSize]?

theorem copied_of_pushDataAt (hdata : data ≠ []) (h : offset + data.length ≤ b.writeableSize)
    (hpush : b.pushDataAt data offset = some (b', true))
    (hroom : b.mask (b.writePos + offset) < b.readPos → b.writePos + data.length ≤ b.maxSize) :
    Copied b b' data offset := by
  have hw := b.writePos_lt_maxSize
  have hsize := b.readableSize_lt
  have hle := b.copied_le data.length offset
  have hwrite : b.writeableSize = b.maxSize - b.readableSize - 1 := rfl
  have htake : (data.take (b.copied data.length offset)).length = b.copied data.length offset := by
    rw [List.length_take, Nat.min_eq_left hle]
  rw [pushDataAt, if_neg hdata, if_neg (Nat.not_lt.2 h)] at hpush
  split_ifs at hpush
  obtain ⟨rfl, -⟩ := Prod.mk.inj (Option.some.inj hpush)
  refine ⟨rfl, rfl, rfl, fun j hj => ?_⟩
  simp only
  rw [b.pushSegments_eq_copied hroom, scatter_arc_take,
    getElem?_scatter b.length_buffer_eq hw (by omega) htake.le hj, htake]
  refine if_ctx_congr Iff.rfl (fun hlt => ?_) fun _ => rfl
  rw [List.getElem?_take, if_pos hlt]

theorem Copied.maxSize_eq (hb : Copied b b' data offset) : b'.maxSize = b.maxSize := by
  rw [maxSize, maxSize, hb.bits]

theorem Copied.readableSize_eq (hb : Copied b b' data offset) :
    b'.readableSize = b.readableSize := by
  rw [CircularBuffer.readableSize_eq, CircularBuffer.readableSize_eq, hb.readPos, hb.writePos,
    hb.maxSize_eq]

/-- What can be read is not touched. -/
theorem Copied.contents (hb : Copied b b' data offset)
    (h : offset + data.length ≤ b.writeableSize) : b'.contents = b.contents := by
  have hr := b.readPos_lt_maxSize
  have hsize := b.readableSize_lt
  have hle := b.copied_le data.length offset
  rw [writeableSize] at h
  refine List.ext_getElem? fun i => ?_
  rw [getElem?_contents, getElem?_contents, hb.readableSize_eq, hb.maxSize_eq, hb.readPos]
  refine if_ctx_congr Iff.rfl (fun hi => ?_) fun _ => rfl
  -- An unread cell is the last but some on the way round from `writePos_`.
  have hround : (b.readPos + i) % b.maxSize =
      (b.writePos + (b.maxSize - b.readableSize + i)) % b.maxSize := by
    rw [← readPos_add_readableSize, Nat.mod_add_mod,
      show b.readPos + b.readableSize + (b.maxSize - b.readableSize + i) =
        b.readPos + i + b.maxSize by omega, Nat.add_mod_right]
  rw [hround, hb.cells _ (by omega), if_neg (by omega)]

/-- What comes back. -/
theorem Copied.peekDataAt (hb : Copied b b' data offset)
    (h : offset + data.length ≤ b.writeableSize) :
    (b'.adjustWritePtr (offset + data.length)).peekDataAt data.length (b.readableSize + offset) =
        some data ↔
      ∀ i < data.length,
        (if offset + i < b.copied data.length offset then data[offset + i]?
          else b.buffer[(b.writePos + (offset + i)) % b.maxSize]?) = data[i]? := by
  have hsize := b.readableSize_lt
  have hmax := hb.maxSize_eq
  have hreadable := hb.readableSize_eq
  have hwrite : b.writeableSize = b.maxSize - b.readableSize - 1 := rfl
  have hwrite' : b'.writeableSize = b'.maxSize - b'.readableSize - 1 := rfl
  have hfits : offset + data.length ≤ b'.writeableSize := by omega
  have hnew := b'.readableSize_adjustWritePtr hfits
  rw [hreadable] at hnew
  rw [peekDataAt_eq _ (by omega), Option.some_inj]
  have hcell (i : ℕ) : (((b'.adjustWritePtr (offset + data.length)).contents.drop
      (b.readableSize + offset)).take data.length)[i]? =
        if i < data.length then
          if offset + i < b.copied data.length offset then data[offset + i]?
          else b.buffer[(b.writePos + (offset + i)) % b.maxSize]?
        else none := by
    rw [getElem?_take_drop]
    refine if_ctx_congr Iff.rfl (fun hi => ?_) fun _ => rfl
    rw [← hb.cells (offset + i) (by omega), getElem?_contents, if_pos (by omega)]
    have hpos : (b.readPos + (b.readableSize + offset + i)) % b.maxSize =
        (b.writePos + (offset + i)) % b.maxSize := by
      rw [← readPos_add_readableSize, Nat.mod_add_mod]
      congr 1
      omega
    rw [show (b'.adjustWritePtr (offset + data.length)).maxSize = b.maxSize from hmax,
      show (b'.adjustWritePtr (offset + data.length)).readPos = b.readPos from hb.readPos, hpos]
    rfl
  constructor
  · intro heq i hi
    have hi' := hcell i
    rw [heq, if_pos hi] at hi'
    exact hi'.symm
  · intro hall
    refine List.ext_getElem? fun i => ?_
    rw [hcell]
    by_cases hi : i < data.length
    · rw [if_pos hi]
      exact hall i hi
    · rw [if_neg hi, List.getElem?_eq_none (Nat.not_lt.1 hi)]

theorem lands_of_agrees (hdata : data ≠ []) (h : offset + data.length ≤ b.writeableSize)
    (hagrees : b.Agrees data offset) : b.Lands data offset := by
  obtain ⟨b', hpush, -, hpeek⟩ := hagrees
  have hroom : b.mask (b.writePos + offset) < b.readPos → b.writePos + data.length ≤ b.maxSize := by
    intro hlt
    rw [pushDataAt, if_neg hdata, if_neg (Nat.not_lt.2 h)] at hpush
    split_ifs at hpush with hinside
    have hsegment := hinside (b.writePos, data.length) (by
      rw [pushSegments]
      simp only [if_pos hlt, List.mem_singleton])
    rwa [length_buffer_eq] at hsegment
  have hcells := ((copied_of_pushDataAt hdata h hpush hroom).peekDataAt h).1 hpeek
  refine ⟨hroom, fun i hi hlt => ?_, fun i hi hge => ?_⟩
  · have hcell := hcells i hi
    rwa [if_pos hlt] at hcell
  · have hcell := hcells i hi
    rwa [if_neg (Nat.not_lt.2 hge)] at hcell

theorem agrees_of_lands (hdata : data ≠ []) (h : offset + data.length ≤ b.writeableSize)
    (hlands : b.Lands data offset) : b.Agrees data offset := by
  have hsize := b.readableSize_lt
  have hle := b.copied_le data.length offset
  have hwrite : b.writeableSize = b.maxSize - b.readableSize - 1 := rfl
  have hinside : ∀ segment ∈ b.pushSegments data.length offset,
      segment.1 + segment.2 ≤ b.buffer.length := by
    rw [b.pushSegments_eq_copied hlands.room, length_buffer_eq]
    exact fun segment hs => arc_le b.writePos_lt_maxSize (by omega) hs
  obtain ⟨b', hpush⟩ : ∃ b', b.pushDataAt data offset = some (b', true) := by
    rw [pushDataAt, if_neg hdata, if_neg (Nat.not_lt.2 h), dif_pos hinside]
    exact ⟨_, rfl⟩
  have hcopied := copied_of_pushDataAt hdata h hpush hlands.room
  refine ⟨b', hpush, hcopied.contents h, (hcopied.peekDataAt h).2 fun i hi => ?_⟩
  split_ifs with hlt
  · exact hlands.copied i hi hlt
  · exact hlands.old i hi (Nat.not_lt.1 hlt)

/-- Data that fit at an offset come back exactly if they land where they are looked for. -/
theorem agrees_iff (hdata : data ≠ []) (h : offset + data.length ≤ b.writeableSize) :
    b.Agrees data offset ↔ b.Lands data offset :=
  ⟨lands_of_agrees hdata h, agrees_of_lands hdata h⟩

/-- At no offset all is well, unless 2 GB or more go round the end. -/
theorem agrees_zero (hdata : data ≠ []) (h : data.length ≤ b.writeableSize)
    (hround : data.length - (b.maxSize - b.writePos) < 2 ^ 31) : b.Agrees data 0 := by
  have hw := b.writePos_lt_maxSize
  have hr := b.readPos_lt_maxSize
  have heq := b.readableSize_eq
  have hwrite : b.writeableSize = b.maxSize - b.readableSize - 1 := rfl
  have hleft : (Int32.ofNat (data.length - (b.maxSize - b.writePos))).toInt =
      (data.length - (b.maxSize - b.writePos) : ℕ) := Int32.toInt_ofNat_of_lt hround
  have hall : b.copied data.length 0 = data.length := by
    rw [CircularBuffer.copied, hleft, Int.toNat_natCast]
    split_ifs <;> omega
  refine agrees_of_lands hdata (by rwa [Nat.zero_add])
    ⟨fun hlt => ?_, fun i _ _ => ?_, fun i hi hge => ?_⟩
  · rw [mask_eq, Nat.add_zero, Nat.mod_eq_of_lt hw] at hlt
    split_ifs at heq <;> omega
  · rw [Nat.zero_add]
  · omega

/-- An empty ring of eight cells. -/
def eight : CircularBuffer UInt8 :=
  new 3 (by decide) 0

theorem agrees_iff_eight : eight.Agrees [97] 0 ↔ eight.Lands [97] 0 :=
  agrees_iff (by decide) (by decide)

/-- One byte at the offset `1` is written to the cell before, and a zero comes back. -/
theorem not_agrees_eight : [97] ≠ ([] : List UInt8) ∧ 1 + [97].length ≤ eight.writeableSize ∧
    ¬eight.Agrees [97] 1 := by
  refine ⟨by decide, by decide, fun hagrees => ?_⟩
  have hold := (lands_of_agrees (by decide) (by decide) hagrees).old 0 (by decide) (by decide)
  exact absurd hold (by decide)

end

end CircularBuffer

end UhpSql
