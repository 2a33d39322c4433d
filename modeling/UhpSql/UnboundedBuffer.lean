import UhpSql.CircularBuffer

/-!
# Unbounded buffers (`network/unbounded_buffer.cc`)

A vector with a position to read at and one to write at. What can be read is `contents`.
`contents_pushData` : pushing appends to them, however the vector grows and its cells are moved.
Memory is not bounded here, so that `MAX_BUFFER_SIZE` is never reached.
-/

namespace UhpSql

/-- `UnboundedBuffer`. -/
structure UnboundedBuffer (α : Type) where
  buffer : List α
  readPos : ℕ
  writePos : ℕ
  readPos_le : readPos ≤ writePos
  writePos_le : writePos ≤ buffer.length

namespace UnboundedBuffer

variable {α : Type}

/-- `UnboundedBuffer()`. -/
def empty : UnboundedBuffer α where
  buffer := []
  readPos := 0
  writePos := 0
  readPos_le := Nat.le_refl 0
  writePos_le := Nat.le_refl 0

/-- The loop of `_AssureSpace` over the size of the vector. -/
def growTo (needed maxSize : ℕ) : ℕ :=
  if needed ≤ maxSize then maxSize
  else growTo needed (if maxSize < 64 then 64 else maxSize + maxSize / 2)
  termination_by needed - maxSize
  decreasing_by split_ifs <;> omega

theorem le_growTo (needed maxSize : ℕ) : needed ≤ growTo needed maxSize := by
  induction maxSize using growTo.induct needed with
  | case1 maxSize h => rwa [growTo, if_pos h]
  | case2 maxSize h ih => rwa [growTo, if_neg h]

section
variable (b : UnboundedBuffer α)

/-- `ReadableSize`. -/
def readableSize : ℕ :=
  b.writePos - b.readPos

/-- `WriteableSize`. -/
def writeableSize : ℕ :=
  b.buffer.length - b.writePos

/-- `IsEmpty`. -/
def isEmpty : Bool :=
  b.readableSize = 0

/-- What can be read, in order. -/
def contents : List α :=
  (b.buffer.drop b.readPos).take b.readableSize

/-- `AdjustReadPtr`, as far as there is something to read. -/
def adjustReadPtr (nBytes : ℕ) (h : nBytes ≤ b.readableSize) : UnboundedBuffer α where
  buffer := b.buffer
  readPos := b.readPos + nBytes
  writePos := b.writePos
  readPos_le := by
    have hle := b.readPos_le
    rw [readableSize] at h
    omega
  writePos_le := b.writePos_le

theorem length_contents : b.contents.length = b.readableSize := by
  have hw := b.writePos_le
  rw [contents, List.length_take, List.length_drop, readableSize]
  omega

theorem isEmpty_iff_contents : b.isEmpty ↔ b.contents = [] := by
  rw [← List.length_eq_zero_iff, length_contents, isEmpty, decide_eq_true_iff]

@[simp] theorem contents_empty : (empty : UnboundedBuffer α).contents = [] :=
  rfl

theorem contents_adjustReadPtr {nBytes : ℕ} (h : nBytes ≤ b.readableSize) :
    (b.adjustReadPtr nBytes h).contents = b.contents.drop nBytes := by
  rw [contents, contents, List.drop_take, List.drop_drop, readableSize, readableSize]
  congr 1
  exact (Nat.sub_sub ..).symm

/-- `buffer_.resize(size)` for a size that is not smaller : the new cells have the default value. -/
def grow [Inhabited α] (size : ℕ) : UnboundedBuffer α where
  buffer := b.buffer ++ List.replicate (size - b.buffer.length) default
  readPos := b.readPos
  writePos := b.writePos
  readPos_le := b.readPos_le
  writePos_le := by
    have hw := b.writePos_le
    rw [List.length_append]
    omega

/-- The `memmove` of `_AssureSpace`, which moves what can be read to the beginning. -/
def compact : UnboundedBuffer α :=
  if 0 < b.readPos then
    { buffer := CircularBuffer.overwrite b.buffer 0 b.contents
      readPos := 0
      writePos := b.readableSize
      readPos_le := Nat.zero_le _
      writePos_le := by
        have hw := b.writePos_le
        have hlen := b.length_contents
        rw [CircularBuffer.length_overwrite] <;> rw [readableSize] at * <;> omega }
  else b

/-- `_AssureSpace`. -/
def assureSpace [Inhabited α] (nSize : ℕ) : UnboundedBuffer α :=
  if nSize ≤ b.writeableSize then b
  else (b.grow (growTo (nSize + b.readableSize) b.buffer.length)).compact

theorem contents_grow [Inhabited α] (size : ℕ) : (b.grow size).contents = b.contents := by
  have hr := b.readPos_le
  have hw := b.writePos_le
  have hlen : b.readableSize ≤ (b.buffer.drop b.readPos).length := by
    rw [List.length_drop, readableSize]
    omega
  rw [contents, contents, ← List.take_append_of_le_length hlen,
    ← List.drop_append_of_le_length (by omega)]
  rfl

theorem contents_compact : b.compact.contents = b.contents := by
  unfold compact
  split_ifs with h
  · rw [contents, readableSize, List.drop_zero, Nat.sub_zero]
    simp only [CircularBuffer.overwrite, List.take_zero, List.nil_append]
    exact List.take_left' b.length_contents
  · rfl

theorem writeableSize_compact :
    b.compact.writeableSize = b.buffer.length - b.readableSize := by
  have hw := b.writePos_le
  have hlen := b.length_contents
  unfold compact
  split_ifs with h
  · rw [writeableSize, CircularBuffer.length_overwrite]
    rw [readableSize] at hlen
    omega
  · rw [writeableSize, readableSize]
    omega

/-- Making space does not change what can be read. -/
theorem contents_assureSpace [Inhabited α] (nSize : ℕ) :
    (b.assureSpace nSize).contents = b.contents := by
  unfold assureSpace
  split_ifs
  · rfl
  · rw [contents_compact, contents_grow]

theorem le_writeableSize_assureSpace [Inhabited α] (nSize : ℕ) :
    nSize ≤ (b.assureSpace nSize).writeableSize := by
  unfold assureSpace
  split_ifs with h
  · exact h
  · have hgrow := le_growTo (nSize + b.readableSize) b.buffer.length
    have hread : (b.grow (growTo (nSize + b.readableSize) b.buffer.length)).readableSize =
        b.readableSize := rfl
    rw [writeableSize_compact, hread, grow, List.length_append, List.length_replicate]
    omega

/-- Write to the cells after what can be read. -/
def append (data : List α) (h : data.length ≤ b.writeableSize) : UnboundedBuffer α where
  buffer := CircularBuffer.overwrite b.buffer b.writePos data
  readPos := b.readPos
  writePos := b.writePos + data.length
  readPos_le := by
    have hr := b.readPos_le
    omega
  writePos_le := by
    have hw := b.writePos_le
    rw [writeableSize] at h
    rw [CircularBuffer.length_overwrite] <;> omega

theorem contents_append (data : List α) (h : data.length ≤ b.writeableSize) :
    (b.append data h).contents = b.contents ++ data := by
  have hr := b.readPos_le
  have hw := b.writePos_le
  rw [writeableSize] at h
  have hbetween := @CircularBuffer.between_overwrite α b.buffer data b.readPos b.writePos
    (by omega) (Or.inl hr)
  rw [CircularBuffer.between, if_pos (by omega), CircularBuffer.between, if_pos hr] at hbetween
  exact hbetween

/-- `PushData`. -/
def pushData [Inhabited α] (data : List α) : UnboundedBuffer α :=
  if data = [] then b
  else (b.assureSpace data.length).append data (b.le_writeableSize_assureSpace data.length)

/-- What is pushed is appended to the contents. -/
theorem contents_pushData [Inhabited α] (data : List α) :
    (b.pushData data).contents = b.contents ++ data := by
  unfold pushData
  split_ifs with h
  · rw [h, List.append_nil]
  · rw [contents_append, contents_assureSpace]

end

/-- Pieces pushed one by one. -/
theorem contents_pushAll [Inhabited α] (data : List (List α)) (b : UnboundedBuffer α) :
    (data.foldl (fun buf piece => buf.pushData piece) b).contents =
      b.contents ++ data.flatten := by
  induction data generalizing b with
  | nil => exact (List.append_nil _).symm
  | cons piece data ih =>
    rw [List.foldl_cons, ih, contents_pushData, List.append_assoc, List.flatten_cons]

end UnboundedBuffer

end UhpSql
