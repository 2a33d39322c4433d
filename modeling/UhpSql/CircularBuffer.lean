import Mathlib.Algebra.BigOperators.Group.List.Basic
import Mathlib.Data.Nat.Bitwise

/-!
# Circular buffers (`network/buffer.h`)

A buffer of `2 ^ bits` cells with a position to read at and one to write at, all arithmetic
done under a mask. What can be read is `contents` : the cells from the read position on,
round the end of the buffer. `attached_getDatum` : the segments of `GetDatum`, put together,
are the contents. `contents_recv` : reading from a socket into the segments of `GetSpace`
appends to them, `contents_pushData` : so does pushing.
-/

namespace UhpSql

/-- `CircularBuffer`. Its capacity is a power of two that a `size_t` can hold, and both positions
stand inside the buffer. -/
structure CircularBuffer (α : Type) where
  bits : ℕ
  buffer : List α
  readPos : ℕ
  writePos : ℕ
  bits_le : bits ≤ 63
  length_buffer : buffer.length = 2 ^ bits
  readPos_lt : readPos < 2 ^ bits
  writePos_lt : writePos < 2 ^ bits

/-- The base and the length of an `iovec`, as a position in the buffer. -/
abbrev Segment :=
  ℕ × ℕ

namespace CircularBuffer

variable {α : Type}

/-- `Buffer(maxSize)` for a `maxSize` that is rounded up to `2 ^ bits`. -/
def new (bits : ℕ) (h : bits ≤ 63) (zero : α) : CircularBuffer α where
  bits := bits
  buffer := List.replicate (2 ^ bits) zero
  readPos := 0
  writePos := 0
  bits_le := h
  length_buffer := List.length_replicate ..
  readPos_lt := Nat.two_pow_pos bits
  writePos_lt := Nat.two_pow_pos bits

/-- `InitCapacity` of a buffer of `2 ^ bits` cells, 1 GB at most. -/
def initCapacity (bits : ℕ) (h : bits ≤ 30) (zero : α) : CircularBuffer α :=
  new bits (by omega) zero

section
variable (b : CircularBuffer α)

def maxSize : ℕ :=
  2 ^ b.bits

/-- `pos & (maxSize_ - 1)`. -/
def mask (pos : ℕ) : ℕ :=
  pos &&& (b.maxSize - 1)

/-- `IsEmpty`. -/
def isEmpty : Bool :=
  b.writePos = b.readPos

/-- `ReadableSize`. The difference of two `size_t` wraps around. -/
def readableSize : ℕ :=
  b.mask (((b.writePos : ℤ) - b.readPos) % 2 ^ 64).toNat

/-- `WriteableSize`. -/
def writeableSize : ℕ :=
  b.maxSize - b.readableSize - 1

/-- `AdjustReadPtr`. -/
def adjustReadPtr (size : ℕ) : CircularBuffer α :=
  { b with
    readPos := b.mask (b.readPos + size)
    readPos_lt := by
      rw [mask, maxSize, Nat.and_two_pow_sub_one_eq_mod]
      exact Nat.mod_lt _ (Nat.two_pow_pos _) }

@[simp] theorem readPos_adjustReadPtr (size : ℕ) :
    (b.adjustReadPtr size).readPos = b.mask (b.readPos + size) :=
  rfl

@[simp] theorem writePos_adjustReadPtr (size : ℕ) :
    (b.adjustReadPtr size).writePos = b.writePos :=
  rfl

/-- `GetDatum`. -/
def getDatum (maxSize offset : ℕ) : List Segment :=
  if maxSize = 0 ∨ b.readableSize ≤ offset then []
  else
    let readPos := b.mask (b.readPos + offset)
    if readPos < b.writePos then [(readPos, min maxSize (b.writePos - readPos))]
    else
      let nLeft := min maxSize (b.maxSize - readPos)
      if 0 < maxSize - nLeft ∧ 0 < b.writePos then
        [(readPos, nLeft), (0, min (maxSize - nLeft) b.writePos)]
      else [(readPos, nLeft)]

/-- `GetSpace`. It gives no space for the last byte but one. -/
def getSpace (offset : ℕ) : List Segment :=
  if b.writeableSize ≤ offset + 1 then []
  else
    let writePos := b.mask (b.writePos + offset)
    if writePos < b.readPos then [(writePos, b.readPos - writePos - 1)]
    else if b.readPos = 0 then [(writePos, b.maxSize - writePos - 1)]
    else if 1 < b.readPos then [(writePos, b.maxSize - writePos), (0, b.readPos - 1)]
    else [(writePos, b.maxSize - writePos)]

/-- `AttachedBuffer(bf)` : the bytes of the segments, one after the other. -/
def attached (segments : List Segment) : List α :=
  segments.flatMap fun segment => (b.buffer.drop segment.1).take segment.2

end

/-- Write to the buffer from a position on. -/
def overwrite (buffer : List α) (pos : ℕ) (data : List α) : List α :=
  buffer.take pos ++ data ++ buffer.drop (pos + data.length)

/-- The two copies of `PushDataAt` round the end of the buffer. The number of bytes left for the
second is cast to an `int`. -/
def copyRound (buffer : List α) (availBytes1 writePos : ℕ) (data : List α) : List α :=
  let bytesLeft := (Int32.ofNat (data.length - availBytes1)).toInt
  let buffer := overwrite buffer writePos (data.take availBytes1)
  if 0 < bytesLeft then overwrite buffer 0 ((data.drop availBytes1).take bytesLeft.toNat)
  else buffer

/-- What `readv` makes of the buffer : each segment takes what is left of the data. -/
def scatter : List Segment → List α → List α → List α
  | [], _, buffer => buffer
  | (pos, len) :: segments, data, buffer =>
    scatter segments (data.drop len) (overwrite buffer pos (data.take len))

/-- The bytes that `readv` takes. -/
def space (segments : List Segment) : ℕ :=
  (segments.map Prod.snd).sum

/-! ## Arithmetic under the mask -/

section
variable (b : CircularBuffer α)

theorem maxSize_pos : 0 < b.maxSize :=
  Nat.two_pow_pos _

@[simp] theorem mask_eq (pos : ℕ) : b.mask pos = pos % b.maxSize := by
  rw [mask, maxSize, Nat.and_two_pow_sub_one_eq_mod]

/-- A position that went round once. -/
theorem mod_maxSize (pos : ℕ) (h : pos < 2 * b.maxSize) :
    pos % b.maxSize = if pos < b.maxSize then pos else pos - b.maxSize := by
  split_ifs with hlt
  · exact Nat.mod_eq_of_lt hlt
  · rw [Nat.mod_eq_sub_mod (by omega), Nat.mod_eq_of_lt (by omega)]

theorem readPos_lt_maxSize : b.readPos < b.maxSize :=
  b.readPos_lt

theorem writePos_lt_maxSize : b.writePos < b.maxSize :=
  b.writePos_lt

theorem readableSize_eq : b.readableSize =
    if b.readPos ≤ b.writePos then b.writePos - b.readPos
    else b.maxSize - b.readPos + b.writePos := by
  have hr := b.readPos_lt_maxSize
  have hw := b.writePos_lt_maxSize
  have hq : (b.maxSize : ℤ) ∣ 2 ^ 64 := by
    have hbits := b.bits_le
    rw [maxSize, Int.natCast_pow]
    exact pow_dvd_pow _ (by omega)
  have hnonneg : 0 ≤ ((b.writePos : ℤ) - b.readPos) % 2 ^ 64 := Int.emod_nonneg _ (by decide)
  have hcast : (b.readableSize : ℤ) = ((b.writePos : ℤ) - b.readPos) % b.maxSize := by
    rw [readableSize, mask_eq, Int.natCast_mod, Int.toNat_of_nonneg hnonneg,
      Int.emod_emod_of_dvd _ hq]
  split_ifs with hle
  · rw [Int.emod_eq_of_lt (by omega) (by omega)] at hcast
    omega
  · rw [← Int.add_emod_right, Int.emod_eq_of_lt (by omega) (by omega)] at hcast
    omega

theorem isEmpty_iff : b.isEmpty ↔ b.readableSize = 0 := by
  have hr := b.readPos_lt_maxSize
  have hw := b.writePos_lt_maxSize
  rw [isEmpty, decide_eq_true_iff, readableSize_eq]
  split_ifs <;> omega

end

/-! ## The contents -/

/-- The cells from one position up to another, round the end if the second comes first. -/
def between (buffer : List α) (readPos writePos : ℕ) : List α :=
  if readPos ≤ writePos then (buffer.drop readPos).take (writePos - readPos)
  else buffer.drop readPos ++ buffer.take writePos

section
variable (b : CircularBuffer α)

/-- What can be read, in order. -/
def contents : List α :=
  between b.buffer b.readPos b.writePos

theorem length_buffer_eq : b.buffer.length = b.maxSize :=
  b.length_buffer

@[simp] theorem length_contents : b.contents.length = b.readableSize := by
  have hr := b.readPos_lt_maxSize
  have hw := b.writePos_lt_maxSize
  rw [contents, between, readableSize_eq]
  split_ifs
  · rw [List.length_take, List.length_drop, length_buffer_eq]
    omega
  · rw [List.length_append, List.length_take, List.length_drop, length_buffer_eq]
    omega

/-- The segments of everything that can be read, put together. -/
theorem attached_getDatum : b.attached (b.getDatum b.readableSize 0) = b.contents := by
  have hr := b.readPos_lt_maxSize
  have hw := b.writePos_lt_maxSize
  have hlen := b.length_buffer_eq
  have hsize := b.readableSize_eq
  have hmask : b.mask (b.readPos + 0) = b.readPos := by
    rw [mask_eq, Nat.add_zero, Nat.mod_eq_of_lt hr]
  unfold getDatum contents between
  simp only [hmask]
  rcases lt_trichotomy b.readPos b.writePos with hlt | heq | hgt
  · rw [if_pos hlt.le] at hsize
    have hne : ¬(b.readableSize = 0 ∨ b.readableSize ≤ 0) := by omega
    rw [if_neg hne, if_pos hlt, if_pos hlt.le, hsize, Nat.min_self]
    exact List.append_nil _
  · rw [if_pos heq.le] at hsize
    have hempty : b.readableSize = 0 ∨ b.readableSize ≤ 0 := by omega
    rw [if_pos hempty, if_pos heq.le, heq, Nat.sub_self]
    rfl
  · rw [if_neg hgt.not_ge] at hsize
    have hne : ¬(b.readableSize = 0 ∨ b.readableSize ≤ 0) := by omega
    have hfirst : min b.readableSize (b.maxSize - b.readPos) = b.maxSize - b.readPos := by omega
    have hrest : b.readableSize - (b.maxSize - b.readPos) = b.writePos := by omega
    have hfull : (b.buffer.drop b.readPos).take (b.maxSize - b.readPos) =
        b.buffer.drop b.readPos := List.take_of_length_le (by rw [List.length_drop, hlen])
    rw [if_neg hne, if_neg hgt.not_gt, if_neg hgt.not_ge, hfirst, hrest, Nat.min_self]
    by_cases hpos : 0 < b.writePos
    · rw [if_pos ⟨hpos, hpos⟩]
      simp only [attached, List.flatMap_cons, List.flatMap_nil, List.drop_zero, List.append_nil,
        hfull]
    · have hzero : b.writePos = 0 := by omega
      rw [if_neg (fun h => hpos h.1), hzero]
      simp only [attached, List.flatMap_cons, List.flatMap_nil, List.append_nil, hfull,
        List.take_zero]

theorem isEmpty_iff_contents : b.isEmpty ↔ b.contents = [] := by
  rw [isEmpty_iff, ← length_contents, List.length_eq_zero_iff]

@[simp] theorem contents_new (bits : ℕ) (h : bits ≤ 63) (zero : α) :
    (new bits h zero).contents = [] :=
  ((new bits h zero).isEmpty_iff_contents).1 (decide_eq_true rfl)

theorem isEmpty_initCapacity (bits : ℕ) (h : bits ≤ 30) (zero : α) :
    (initCapacity bits h zero).isEmpty :=
  decide_eq_true rfl

/-- Everything is read. -/
theorem isEmpty_adjustReadPtr : (b.adjustReadPtr b.readableSize).isEmpty := by
  have hr := b.readPos_lt_maxSize
  have hw := b.writePos_lt_maxSize
  have hsize := b.readableSize_eq
  have hpos : b.mask (b.readPos + b.readableSize) = b.writePos := by
    rw [mask_eq, mod_maxSize b _ (by split_ifs at hsize <;> omega)]
    split_ifs at hsize ⊢ <;> omega
  rw [isEmpty, decide_eq_true_iff, readPos_adjustReadPtr, writePos_adjustReadPtr, hpos]

end

/-! ## Reading from a socket -/

theorem length_overwrite {buffer data : List α} {pos : ℕ} (h : pos + data.length ≤ buffer.length) :
    (overwrite buffer pos data).length = buffer.length := by
  simp only [overwrite, List.length_append, List.length_take, List.length_drop]
  omega

theorem length_scatter : ∀ {segments : List Segment} (data : List α) {buffer : List α},
    (∀ segment ∈ segments, segment.1 + segment.2 ≤ buffer.length) →
      (scatter segments data buffer).length = buffer.length
  | [], _, _, _ => rfl
  | (pos, len) :: segments, data, buffer, h => by
    have hlen : (overwrite buffer pos (data.take len)).length = buffer.length := by
      have hpos := h _ List.mem_cons_self
      refine length_overwrite ?_
      rw [List.length_take]
      simp only at hpos
      omega
    rw [scatter, length_scatter _ fun segment hs => ?_, hlen]
    rw [hlen]
    exact h segment (List.mem_cons_of_mem _ hs)

/-- Cells written from the second position on come last, as long as they do not reach the first. -/
theorem between_overwrite {buffer data : List α} {readPos writePos : ℕ}
    (hlen : writePos + data.length ≤ buffer.length)
    (h : readPos ≤ writePos ∨ writePos + data.length < readPos) :
    between (overwrite buffer writePos data) readPos (writePos + data.length) =
      between buffer readPos writePos ++ data := by
  have htake : (buffer.take writePos).length = writePos := by
    rw [List.length_take]
    omega
  have hfront : (overwrite buffer writePos data).take (writePos + data.length) =
      buffer.take writePos ++ data := by
    rw [overwrite]
    exact List.take_left' (by rw [List.length_append, htake])
  rcases h with hle | hlt
  · have hle' : readPos ≤ writePos + data.length := by omega
    rw [between, between, if_pos hle, if_pos hle', ← List.drop_take, hfront,
      List.drop_append_of_le_length (by omega), List.drop_take]
  · have hnot : ¬readPos ≤ writePos + data.length := by omega
    have hnot' : ¬readPos ≤ writePos := by omega
    have hback : (overwrite buffer writePos data).drop readPos = buffer.drop readPos := by
      rw [overwrite, List.drop_append, List.length_append, htake, List.drop_drop,
        List.drop_eq_nil_of_le (by rw [List.length_append, htake]; omega), List.nil_append]
      congr 1
      omega
    rw [between, between, if_neg hnot, if_neg hnot', hfront, hback, List.append_assoc]

/-- The end of the buffer is its beginning. -/
theorem between_zero {buffer : List α} {readPos : ℕ} (hpos : 0 < readPos)
    (hle : readPos ≤ buffer.length) :
    between buffer readPos 0 = between buffer readPos buffer.length := by
  rw [between, between, if_neg hpos.not_ge, if_pos hle, List.take_zero, List.append_nil,
    List.take_of_length_le (by rw [List.length_drop])]

@[simp] theorem overwrite_nil (buffer : List α) (pos : ℕ) : overwrite buffer pos [] = buffer := by
  simp [overwrite]

/-- Data that reaches the end of the buffer goes on at its beginning. -/
theorem between_round {buffer data : List α} {readPos writePos : ℕ} (hle : readPos ≤ writePos)
    (hw : writePos ≤ buffer.length) (hround : buffer.length ≤ writePos + data.length)
    (hlt : writePos + data.length - buffer.length < readPos) :
    between (overwrite (overwrite buffer writePos (data.take (buffer.length - writePos))) 0
      (data.drop (buffer.length - writePos))) readPos (writePos + data.length - buffer.length) =
        between buffer readPos writePos ++ data := by
  have htake : (data.take (buffer.length - writePos)).length = buffer.length - writePos := by
    rw [List.length_take]
    omega
  have hdrop : 0 + (data.drop (buffer.length - writePos)).length =
      writePos + data.length - buffer.length := by
    rw [List.length_drop]
    omega
  have hfull : (overwrite buffer writePos (data.take (buffer.length - writePos))).length =
      buffer.length := length_overwrite (by omega)
  have hend : writePos + (data.take (buffer.length - writePos)).length = buffer.length := by
    omega
  have hfirst : between (overwrite buffer writePos (data.take (buffer.length - writePos))) readPos
      (writePos + (data.take (buffer.length - writePos)).length) =
        between buffer readPos writePos ++ data.take (buffer.length - writePos) :=
    between_overwrite hend.le (Or.inl hle)
  rw [hend] at hfirst
  rw [← hdrop, between_overwrite (by omega) (Or.inr (by omega)), between_zero (by omega) (by omega),
    hfull, hfirst, List.append_assoc, List.take_append_drop]

section
variable (b : CircularBuffer α)

/-- The space lies in the buffer. -/
theorem getSpace_le {segment : Segment} (h : segment ∈ b.getSpace 0) :
    segment.1 + segment.2 ≤ b.buffer.length := by
  have hr := b.readPos_lt_maxSize
  have hw := b.writePos_lt_maxSize
  rw [length_buffer_eq]
  unfold getSpace at h
  simp only [mask_eq, Nat.add_zero, Nat.mod_eq_of_lt hw] at h
  split_ifs at h <;> simp at h <;> grind

/-- `Recv` : as much of the data as there is space for, and the rest. -/
def recv (data : List α) : CircularBuffer α × List α :=
  let segments := b.getSpace 0
  let ret := min data.length (space segments)
  ({ b with
      buffer := scatter segments (data.take ret) b.buffer
      writePos := b.mask (b.writePos + ret)
      length_buffer := by
        rw [length_scatter _ fun _ hs => b.getSpace_le hs, b.length_buffer]
      writePos_lt := by
        rw [mask_eq]
        exact Nat.mod_lt _ b.maxSize_pos }, data.drop ret)

/-- What fits in the segments is written round the end of the buffer. -/
theorem between_scatter {data : List α} (h : data.length ≤ space (b.getSpace 0)) :
    between (scatter (b.getSpace 0) data b.buffer) b.readPos
      ((b.writePos + data.length) % b.maxSize) = b.contents ++ data := by
  have hr := b.readPos_lt_maxSize
  have hw := b.writePos_lt_maxSize
  have hlen := b.length_buffer_eq
  have hmask : b.mask (b.writePos + 0) = b.writePos := by
    rw [mask_eq, Nat.add_zero, Nat.mod_eq_of_lt hw]
  have hshort : ∀ len, data.length ≤ len → b.writePos + data.length < b.maxSize →
      (b.readPos ≤ b.writePos ∨ b.writePos + data.length < b.readPos) →
        between (overwrite b.buffer b.writePos (data.take len)) b.readPos
          ((b.writePos + data.length) % b.maxSize) = b.contents ++ data := by
    intro len hle hlt hor
    rw [List.take_of_length_le hle, Nat.mod_eq_of_lt hlt, between_overwrite (by omega) hor,
      contents]
  have hround : b.readPos ≤ b.writePos → b.writePos + data.length - b.maxSize < b.readPos →
      between (overwrite (overwrite b.buffer b.writePos (data.take (b.maxSize - b.writePos))) 0
        (data.drop (b.maxSize - b.writePos))) b.readPos
          ((b.writePos + data.length) % b.maxSize) = b.contents ++ data := by
    intro hle hlt
    by_cases hend : b.writePos + data.length < b.maxSize
    · rw [List.drop_eq_nil_of_le (by omega), overwrite_nil]
      exact hshort _ (by omega) hend (Or.inl hle)
    · have hmod := b.mod_maxSize (b.writePos + data.length) (by omega)
      rw [if_neg hend] at hmod
      rw [hmod, ← hlen, between_round hle (by omega) (by omega) (by omega), contents]
  unfold getSpace at h ⊢
  simp only [hmask] at h ⊢
  split_ifs at h ⊢ with hfull hlt hzero hone
  · obtain rfl := List.eq_nil_of_length_eq_zero (Nat.le_zero.1 h)
    rw [scatter, List.length_nil, Nat.add_zero, Nat.mod_eq_of_lt hw, List.append_nil, contents]
  · simp only [space, List.map_cons, List.map_nil, List.sum_cons, List.sum_nil] at h
    exact hshort _ (by omega) (by omega) (Or.inr (by omega))
  · simp only [space, List.map_cons, List.map_nil, List.sum_cons, List.sum_nil] at h
    exact hshort _ (by omega) (by omega) (Or.inl (by omega))
  · simp only [space, List.map_cons, List.map_nil, List.sum_cons, List.sum_nil] at h
    have hrest : (data.drop (b.maxSize - b.writePos)).length ≤ b.readPos - 1 := by
      rw [List.length_drop]
      omega
    rw [scatter, scatter, scatter, List.take_of_length_le hrest]
    exact hround (by omega) (by omega)
  · simp only [space, List.map_cons, List.map_nil, List.sum_cons, List.sum_nil] at h
    have hrest : data.drop (b.maxSize - b.writePos) = [] := List.drop_eq_nil_of_le (by omega)
    have hlast := hround (by omega) (by omega)
    rwa [hrest, overwrite_nil] at hlast

/-- What fits is appended to the contents. -/
theorem contents_recv {data : List α} (h : data.length ≤ space (b.getSpace 0)) :
    (b.recv data).1.contents = b.contents ++ data ∧ (b.recv data).2 = [] := by
  have hret : min data.length (space (b.getSpace 0)) = data.length := Nat.min_eq_left h
  refine ⟨?_, ?_⟩
  · rw [← between_scatter b h]
    simp only [contents, recv, hret, List.take_length, mask_eq]
  · simp only [recv, hret, List.drop_length]

/-- An empty buffer has space for all its cells but one. -/
theorem space_of_isEmpty (h : b.isEmpty) (hsize : 2 < b.maxSize) :
    space (b.getSpace 0) = b.maxSize - 1 := by
  have hw := b.writePos_lt_maxSize
  have heq : b.writePos = b.readPos := of_decide_eq_true h
  have hmask : b.mask (b.writePos + 0) = b.writePos := by
    rw [mask_eq, Nat.add_zero, Nat.mod_eq_of_lt hw]
  have hfull : ¬b.writeableSize ≤ 0 + 1 := by
    rw [writeableSize, b.isEmpty_iff.1 h]
    omega
  unfold getSpace
  simp only [hmask]
  rw [if_neg hfull, if_neg heq.not_lt]
  split_ifs <;> simp only [space, List.map_cons, List.map_nil, List.sum_cons, List.sum_nil] <;>
    omega

end

/-! ## Pushing and skipping -/

theorem length_copyRound {buffer data : List α} {availBytes1 writePos : ℕ}
    (h : writePos + availBytes1 ≤ buffer.length) (hlen : data.length ≤ buffer.length) :
    (copyRound buffer availBytes1 writePos data).length = buffer.length := by
  have hfirst : (overwrite buffer writePos (data.take availBytes1)).length = buffer.length :=
    length_overwrite (by rw [List.length_take]; omega)
  unfold copyRound
  simp only
  split_ifs
  · rw [length_overwrite, hfirst]
    rw [hfirst, List.length_take, List.length_drop]
    omega
  · exact hfirst

section
variable (b : CircularBuffer α)

/-- The cells that `PushDataAt` writes, for data that fit. -/
def pushCells (data : List α) : List α :=
  if b.writePos < b.readPos then overwrite b.buffer b.writePos data
  else
    let availBytes1 := b.maxSize - b.writePos
    if data.length + 1 ≤ availBytes1 then overwrite b.buffer b.writePos data
    else copyRound b.buffer availBytes1 b.writePos data

theorem length_pushCells {data : List α} (h : data.length ≤ b.writeableSize) :
    (b.pushCells data).length = b.buffer.length := by
  have hr := b.readPos_lt_maxSize
  have hw := b.writePos_lt_maxSize
  have hlen := b.length_buffer_eq
  have hsize := b.readableSize_eq
  rw [writeableSize] at h
  unfold pushCells
  simp only
  split_ifs with hlt hshort
  · refine length_overwrite ?_
    split_ifs at hsize <;> omega
  · exact length_overwrite (by omega)
  · exact length_copyRound (by omega) (by omega)

/-- `PushData`. -/
def pushData (data : List α) : CircularBuffer α × Bool :=
  if h : data.length ≤ b.writeableSize then
    ({ b with
        buffer := b.pushCells data
        writePos := b.mask (b.writePos + data.length)
        length_buffer := by rw [b.length_pushCells h, b.length_buffer]
        writePos_lt := by
          rw [mask_eq]
          exact Nat.mod_lt _ b.maxSize_pos }, true)
  else (b, false)

theorem bits_pushData (data : List α) : (b.pushData data).1.bits = b.bits := by
  unfold pushData
  split_ifs <;> rfl

theorem maxSize_pushData (data : List α) : (b.pushData data).1.maxSize = b.maxSize := by
  rw [maxSize, maxSize, bits_pushData]

theorem writePos_pushData {data : List α} (h : data.length ≤ b.writeableSize) :
    (b.pushData data).1.writePos = (b.writePos + data.length) % b.maxSize := by
  rw [pushData, dif_pos h, ← mask_eq]

/-- A copy that goes on with fewer than 2 GB at the beginning is complete. -/
theorem copyRound_eq {buffer data : List α} {availBytes1 writePos : ℕ}
    (h : data.length - availBytes1 < 2 ^ 31) :
    copyRound buffer availBytes1 writePos data =
      overwrite (overwrite buffer writePos (data.take availBytes1)) 0 (data.drop availBytes1) := by
  have hleft : (Int32.ofNat (data.length - availBytes1)).toInt =
      (data.length - availBytes1 : ℕ) := Int32.toInt_ofNat_of_lt h
  have hall : (data.drop availBytes1).length ≤
      (Int32.ofNat (data.length - availBytes1)).toInt.toNat := by
    rw [hleft, Int.toNat_natCast, List.length_drop]
  unfold copyRound
  simp only
  split_ifs with hpos
  · rw [List.take_of_length_le hall]
  · rw [hleft] at hpos
    rw [List.drop_eq_nil_of_le (by omega), overwrite_nil]

/-- What fits is appended to the contents, unless 2 GB of it or more go round the end. -/
theorem contents_pushData {data : List α} (h : data.length ≤ b.writeableSize)
    (hround : data.length - (b.maxSize - b.writePos) < 2 ^ 31) :
    (b.pushData data).1.contents = b.contents ++ data := by
  have hr := b.readPos_lt_maxSize
  have hw := b.writePos_lt_maxSize
  have hlen := b.length_buffer_eq
  have hsize := b.readableSize_eq
  have hcells : (b.pushData data).1.contents =
      between (b.pushCells data) b.readPos ((b.writePos + data.length) % b.maxSize) := by
    rw [pushData, dif_pos h, ← mask_eq]
    rfl
  rw [writeableSize] at h
  rw [hcells, pushCells, contents]
  simp only
  split_ifs with hlt hshort
  · rw [if_neg (by omega)] at hsize
    rw [Nat.mod_eq_of_lt (by omega), between_overwrite (by omega) (Or.inr (by omega))]
  · rw [Nat.mod_eq_of_lt (by omega), between_overwrite (by omega) (Or.inl (by omega))]
  · rw [if_pos (by omega)] at hsize
    have hmod := b.mod_maxSize (b.writePos + data.length) (by omega)
    rw [if_neg (by omega)] at hmod
    rw [copyRound_eq hround, hmod, ← hlen,
      between_round (by omega) (by omega) (by omega) (by omega)]

/-- Skipping takes from the front of the contents. -/
theorem contents_adjustReadPtr {size : ℕ} (h : size ≤ b.readableSize) :
    (b.adjustReadPtr size).contents = b.contents.drop size := by
  have hr := b.readPos_lt_maxSize
  have hw := b.writePos_lt_maxSize
  have hlen := b.length_buffer_eq
  have hsize := b.readableSize_eq
  have hcells : (b.adjustReadPtr size).contents =
      between b.buffer ((b.readPos + size) % b.maxSize) b.writePos := by
    rw [← mask_eq]
    rfl
  have hmod := b.mod_maxSize (b.readPos + size) (by split_ifs at hsize <;> omega)
  rw [hcells, contents, hmod, between, between]
  by_cases hle : b.readPos ≤ b.writePos
  · rw [if_pos hle] at hsize
    rw [if_pos (show b.readPos + size < b.maxSize by omega), if_pos hle, if_pos (by omega),
      List.drop_take, List.drop_drop, Nat.sub_sub]
  · rw [if_neg hle] at hsize
    rw [if_neg hle, List.drop_append, List.drop_drop, List.length_drop, hlen, List.drop_take]
    split_ifs with hend hround hround
    · omega
    · rw [show size - (b.maxSize - b.readPos) = 0 by omega, List.drop_zero, Nat.sub_zero]
    · rw [List.drop_eq_nil_of_le (show b.buffer.length ≤ b.readPos + size by omega),
        List.nil_append]
      congr 1
      · omega
      · congr 1
        omega
    · omega

end

/-! ## Pieces pushed one by one -/

/-- No piece goes round the end of the ring with 2 GB or more. -/
def Rounds (b : CircularBuffer α) (data : List (List α)) : Prop :=
  ∀ pre piece post, data = pre ++ piece :: post →
    piece.length - (b.maxSize - (b.writePos + pre.flatten.length) % b.maxSize) < 2 ^ 31

theorem contents_pushAll {data : List (List α)} {b : CircularBuffer α}
    (h : data.flatten.length ≤ b.writeableSize) (hround : b.Rounds data) :
    (data.foldl (fun ring piece => (ring.pushData piece).1) b).contents =
      b.contents ++ data.flatten := by
  induction data generalizing b with
  | nil => exact (List.append_nil _).symm
  | cons piece data ih =>
    rw [List.flatten_cons, List.length_append] at h
    have hpush : (b.pushData piece).1.contents = b.contents ++ piece := by
      refine b.contents_pushData (by omega) ?_
      have hfirst := hround [] piece data rfl
      rwa [List.flatten_nil, List.length_nil, Nat.add_zero,
        Nat.mod_eq_of_lt b.writePos_lt_maxSize] at hfirst
    have hsize : (b.pushData piece).1.readableSize = b.readableSize + piece.length := by
      rw [← length_contents, hpush, List.length_append, length_contents]
    have hmax : (b.pushData piece).1.maxSize = b.maxSize := b.maxSize_pushData piece
    have hpos := b.writePos_pushData (show piece.length ≤ b.writeableSize by omega)
    rw [List.foldl_cons, ih, hpush, List.append_assoc, List.flatten_cons]
    · rw [writeableSize] at h ⊢
      omega
    · intro pre piece' post heq
      have hnext := hround (piece :: pre) piece' post (by rw [heq, List.cons_append])
      rw [hmax, hpos, Nat.mod_add_mod, Nat.add_assoc, ← List.length_append]
      exact hnext

theorem bits_pushAll (data : List (List α)) (b : CircularBuffer α) :
    (data.foldl (fun ring piece => (ring.pushData piece).1) b).bits = b.bits := by
  induction data generalizing b with
  | nil => rfl
  | cons piece data ih => rw [List.foldl_cons, ih, bits_pushData]

/-- No piece that fits in a ring of at most 2 GB goes round its end with so much. -/
theorem rounds_of_bits_le {data : List (List α)} {b : CircularBuffer α}
    (h : data.flatten.length ≤ b.writeableSize) (hbits : b.bits ≤ 31) : b.Rounds data := by
  intro pre piece post heq
  have hmax : b.maxSize ≤ 2 ^ 31 := Nat.pow_le_pow_right (by decide) hbits
  have hpiece : piece.length ≤ data.flatten.length := by
    rw [heq, List.flatten_append, List.flatten_cons, List.length_append, List.length_append]
    omega
  have hpos := b.maxSize_pos
  rw [writeableSize] at h
  omega

end CircularBuffer

end UhpSql
