import UhpSql.UnboundedBuffer

/-!
# The memory of an unbounded buffer (`network/unbounded_buffer.cc`)

The functions of `UnboundedBuffer` on the fields alone, with the arithmetic of `std::size_t`. A copy
that leaves the vector, or an assertion that fails, is `none`.

`pushData_fields` and its siblings : as long as sizes stay below `2 ^ 62`, nothing of the sort
happens, `MAX_BUFFER_SIZE` is not reached, and the functions do what the ones on `UnboundedBuffer`
do, whose positions are in order.
-/

namespace UhpSql

/-- `a + b` of type `std::size_t`. -/
def sizeAdd (a b : ℕ) : ℕ :=
  (a + b) % 2 ^ 64

/-- `a - b` of type `std::size_t`. -/
def sizeSub (a b : ℕ) : ℕ :=
  (a + 2 ^ 64 - b) % 2 ^ 64

theorem sizeAdd_of_lt {a b : ℕ} (h : a + b < 2 ^ 64) : sizeAdd a b = a + b :=
  Nat.mod_eq_of_lt h

theorem sizeSub_of_le {a b : ℕ} (h : b ≤ a) (ha : a < 2 ^ 64) : sizeSub a b = a - b := by
  rw [sizeSub]
  omega

namespace UnboundedBuffer

variable {α : Type}

/-- The fields of an `UnboundedBuffer`, whatever the positions are. -/
@[ext]
structure Fields (α : Type) where
  buffer : List α
  readPos : ℕ
  writePos : ℕ

/-- `MAX_BUFFER_SIZE`. -/
def maxBufferSize : ℕ :=
  (2 ^ 64 - 1) / 2

namespace Fields

variable (f : Fields α)

/-- `ReadableSize`. -/
def readableSize : ℕ :=
  sizeSub f.writePos f.readPos

/-- `WriteableSize`. -/
def writeableSize : ℕ :=
  sizeSub f.buffer.length f.writePos

/-- `AdjustReadPtr`. -/
def adjustReadPtr (nBytes : ℕ) : Fields α :=
  { f with readPos := sizeAdd f.readPos nBytes }

/-- `AdjustWritePtr`. -/
def adjustWritePtr (nBytes : ℕ) : Fields α :=
  { f with writePos := sizeAdd f.writePos nBytes }

/-- `n` bytes read from `pos` on, all of them in the vector. -/
def load (pos n : ℕ) : Option (List α) :=
  if pos + n ≤ f.buffer.length then some ((f.buffer.drop pos).take n) else none

/-- The vector after bytes are written from `pos` on, all of them to cells it has. -/
def store (pos : ℕ) (data : List α) : Option (List α) :=
  if pos + data.length ≤ f.buffer.length then some (CircularBuffer.overwrite f.buffer pos data)
  else none

/-- `buffer_.resize(size)`. -/
def resize [Inhabited α] (size : ℕ) : Fields α :=
  { f with
    buffer := f.buffer.take size ++ List.replicate (size - f.buffer.length) default }

/-- The loop of `_AssureSpace`, where `maxSize` is the size of the vector. -/
def growLoop [Inhabited α] (nSize : ℕ) (f : Fields α) (maxSize : ℕ) : Fields α :=
  if nSize ≤ sizeAdd f.writeableSize f.readPos then f
  else if maxSize < 64 then growLoop nSize (f.resize 64) 64
  else if maxSize ≤ maxBufferSize then
    growLoop nSize (f.resize (maxSize + maxSize / 2)) (maxSize + maxSize / 2)
  else f
  termination_by 2 ^ 64 - maxSize
  decreasing_by
    · omega
    · rename_i hmax
      rw [maxBufferSize] at hmax
      omega

/-- The `memmove` of `_AssureSpace`. -/
def compact : Option (Fields α) :=
  if 0 < f.readPos then
    (f.load f.readPos f.readableSize).bind fun data =>
      (f.store 0 data).map fun buffer => ⟨buffer, 0, f.readableSize⟩
  else some f

/-- `_AssureSpace`. -/
def assureSpace [Inhabited α] (nSize : ℕ) : Option (Fields α) :=
  if nSize ≤ f.writeableSize then some f
  else (growLoop nSize f f.buffer.length).compact

/-- `PushDataAt`. -/
def pushDataAt [Inhabited α] (data : List α) (offset : ℕ) : Option (Fields α × ℕ) :=
  if data.length = 0 then some (f, 0)
  else if f.readableSize = maxBufferSize then some (f, 0)
  else
    (f.assureSpace (sizeAdd data.length offset)).bind fun f =>
      if sizeAdd data.length offset ≤ f.writeableSize then
        (f.store (sizeAdd f.writePos offset) data).map fun buffer =>
          ({ f with buffer := buffer }, data.length)
      else none

/-- `PushData`. -/
def pushData [Inhabited α] (data : List α) : Option (Fields α × ℕ) :=
  (f.pushDataAt data 0).map fun (f, nBytes) => (f.adjustWritePtr nBytes, nBytes)

/-- `PeekDataAt`. -/
def peekDataAt (nSize offset : ℕ) : Option (List α) :=
  if nSize = 0 ∨ f.readableSize ≤ offset then some []
  else
    f.load (sizeAdd f.readPos offset)
      (if f.readableSize < sizeAdd nSize offset then sizeSub f.readableSize offset else nSize)

/-- `PeekData`. -/
def peekData (nSize : ℕ) : Option (Fields α × List α) :=
  (f.peekDataAt nSize 0).map fun data => (f.adjustReadPtr data.length, data)

/-- `Clear`. -/
def clear : Fields α :=
  { f with readPos := 0, writePos := 0 }

/-- `Shrink`, without the assertion about the capacity. -/
def shrink (tight : Bool) : Option (Fields α) :=
  if f.buffer = [] then
    if f.readPos = 0 ∧ f.writePos = 0 then some f else none
  else if !tight ∧ f.buffer.length / 2 < f.readableSize then some f
  else (f.load f.readPos f.readableSize).map fun tmp => ⟨tmp, 0, f.readableSize⟩

end Fields

/-! ## Growth -/

/-- The vector grows to at most one and a half times what is needed. -/
theorem growTo_le (needed maxSize : ℕ) :
    growTo needed maxSize ≤ max maxSize (max 64 (needed + needed / 2)) := by
  induction maxSize using growTo.induct needed with
  | case1 maxSize h =>
    rw [growTo, if_pos h]
    exact Nat.le_max_left ..
  | case2 maxSize h ih =>
    rw [growTo, if_neg h]
    refine ih.trans (max_le ?_ (Nat.le_max_right ..))
    refine le_trans ?_ (Nat.le_max_right ..)
    split_ifs
    · exact Nat.le_max_left ..
    · exact le_trans (by omega) (Nat.le_max_right ..)

theorem size_le_growTo (needed maxSize : ℕ) : maxSize ≤ growTo needed maxSize := by
  induction maxSize using growTo.induct needed with
  | case1 maxSize h => rw [growTo, if_pos h]
  | case2 maxSize h ih =>
    rw [growTo, if_neg h]
    refine le_trans ?_ ih
    split_ifs <;> omega

section
variable (b : UnboundedBuffer α)

/-- The fields alone. -/
def fields : Fields α :=
  ⟨b.buffer, b.readPos, b.writePos⟩

@[simp] theorem buffer_fields : b.fields.buffer = b.buffer :=
  rfl

@[simp] theorem readPos_fields : b.fields.readPos = b.readPos :=
  rfl

@[simp] theorem writePos_fields : b.fields.writePos = b.writePos :=
  rfl

/-- With `n` more bytes there is no overflow, and `MAX_BUFFER_SIZE` is not reached. -/
structure Within (b : UnboundedBuffer α) (n : ℕ) : Prop where
  length_le : b.buffer.length ≤ 3 * 2 ^ 61
  lt : b.readableSize + n < 2 ^ 62

variable {b : UnboundedBuffer α} {n : ℕ}

theorem readableSize_fields (h : b.buffer.length ≤ 3 * 2 ^ 61) :
    b.fields.readableSize = b.readableSize :=
  sizeSub_of_le b.readPos_le (b.writePos_le.trans_lt (h.trans_lt (by decide)))

theorem writeableSize_fields (h : b.buffer.length ≤ 3 * 2 ^ 61) :
    b.fields.writeableSize = b.writeableSize :=
  sizeSub_of_le b.writePos_le (h.trans_lt (by decide))

theorem resize_fields [Inhabited α] {size : ℕ} (h : b.buffer.length ≤ size) :
    b.fields.resize size = (b.grow size).fields := by
  rw [Fields.resize, fields, List.take_of_length_le h]
  rfl

theorem length_grow [Inhabited α] {size : ℕ} (h : b.buffer.length ≤ size) :
    (b.grow size).buffer.length = size := by
  rw [grow, List.length_append, List.length_replicate]
  omega

theorem grow_length [Inhabited α] (b : UnboundedBuffer α) :
    (b.grow b.buffer.length).fields = b.fields := by
  have hcells :
      b.buffer ++ List.replicate (b.buffer.length - b.buffer.length) default = b.buffer := by
    rw [Nat.sub_self, List.replicate_zero, List.append_nil]
  exact Fields.ext hcells rfl rfl

theorem grow_grow [Inhabited α] {size size' : ℕ} (h : b.buffer.length ≤ size) (h' : size ≤ size') :
    ((b.grow size).grow size').fields = (b.grow size').fields := by
  have hlen := length_grow h
  have hcells :
      (b.grow size).buffer ++ List.replicate (size' - (b.grow size).buffer.length) default =
        b.buffer ++ List.replicate (size' - b.buffer.length) default := by
    rw [hlen, grow, List.append_assoc, List.replicate_append_replicate]
    congr 2
    omega
  exact Fields.ext hcells rfl rfl

/-- The guard of the loop counts the space that only the `memmove` makes free. -/
theorem guard_iff [Inhabited α] {nSize maxSize : ℕ} (hlen : b.buffer.length ≤ maxSize)
    (hmax : maxSize ≤ 3 * 2 ^ 61) :
    nSize ≤ sizeAdd (b.grow maxSize).fields.writeableSize (b.grow maxSize).fields.readPos ↔
      nSize + b.readableSize ≤ maxSize := by
  have hr := b.readPos_le
  have hw := b.writePos_le
  have hgrow := length_grow hlen
  have hpos : (b.grow maxSize).fields.readPos = b.readPos := rfl
  have hspace : (b.grow maxSize).fields.writeableSize = maxSize - b.writePos := by
    rw [writeableSize_fields (hgrow.trans_le hmax), writeableSize, hgrow]
    rfl
  rw [hspace, hpos, sizeAdd_of_lt (by omega), readableSize]
  omega

/-- The loop grows the vector to the size that `growTo` computes, and does not break off. -/
theorem growLoop_fields [Inhabited α] {nSize maxSize : ℕ} (hn : nSize + b.readableSize < 2 ^ 62)
    (hlen : b.buffer.length ≤ maxSize) (hmax : maxSize ≤ 3 * 2 ^ 61) :
    Fields.growLoop nSize (b.grow maxSize).fields maxSize =
      (b.grow (growTo (nSize + b.readableSize) maxSize)).fields := by
  induction maxSize using growTo.induct (nSize + b.readableSize) with
  | case1 maxSize h =>
    rw [Fields.growLoop, growTo, if_pos h, if_pos ((guard_iff hlen hmax).2 h)]
  | case2 maxSize h ih =>
    have hresize {size : ℕ} (hsize : maxSize ≤ size) :
        (b.grow maxSize).fields.resize size = (b.grow size).fields := by
      rw [resize_fields ((length_grow hlen).trans_le hsize), grow_grow hlen hsize]
    rw [Fields.growLoop, growTo, if_neg h, if_neg (mt (guard_iff hlen hmax).1 h)]
    split_ifs at ih ⊢ with hsmall hguard
    · rw [hresize (by omega)]
      exact ih (by omega) (by omega)
    · rw [hresize (by omega)]
      exact ih (by omega) (by omega)
    · rw [maxBufferSize] at hguard
      omega

/-! ## Copies -/

theorem load_fields {pos len : ℕ} (h : pos + len ≤ b.buffer.length) :
    b.fields.load pos len = some ((b.buffer.drop pos).take len) :=
  if_pos h

theorem store_fields {pos : ℕ} {data : List α} (h : pos + data.length ≤ b.buffer.length) :
    b.fields.store pos data = some (CircularBuffer.overwrite b.buffer pos data) :=
  if_pos h

theorem load_contents (b : UnboundedBuffer α) :
    b.fields.load b.readPos b.readableSize = some b.contents := by
  have hr := b.readPos_le
  have hw := b.writePos_le
  exact load_fields (by rw [readableSize]; omega)

theorem compact_fields (h : b.buffer.length ≤ 3 * 2 ^ 61) :
    b.fields.compact = some b.compact.fields := by
  have hr := b.readPos_le
  have hw := b.writePos_le
  have hlen := b.length_contents
  have hstore := @store_fields α b 0 b.contents (by rw [hlen, readableSize]; omega)
  rw [Fields.compact, compact, readableSize_fields h, readPos_fields, load_contents,
    Option.bind_some, hstore]
  split_ifs <;> rfl

theorem length_compact (b : UnboundedBuffer α) : b.compact.buffer.length = b.buffer.length := by
  have hw := b.writePos_le
  have hlen := b.length_contents
  unfold compact
  split_ifs
  · refine CircularBuffer.length_overwrite ?_
    rw [hlen, readableSize]
    omega
  · rfl

theorem Within.growTo_le (h : b.Within n) :
    growTo (n + b.readableSize) b.buffer.length ≤ 3 * 2 ^ 61 := by
  have hn := h.lt
  refine (UnboundedBuffer.growTo_le _ _).trans (max_le h.length_le (max_le (by decide) ?_))
  omega

theorem Within.length_grow_le [Inhabited α] (h : b.Within n) :
    (b.grow (growTo (n + b.readableSize) b.buffer.length)).buffer.length ≤ 3 * 2 ^ 61 :=
  (length_grow (size_le_growTo _ _)).trans_le h.growTo_le

/-- `_AssureSpace` does not leave the vector. -/
theorem assureSpace_fields [Inhabited α] (h : b.Within n) :
    b.fields.assureSpace n = some (b.assureSpace n).fields := by
  have hn := h.lt
  rw [Fields.assureSpace, assureSpace, writeableSize_fields h.length_le]
  split_ifs with hspace
  · rfl
  · have hloop := @growLoop_fields α b _ n _ (by omega) b.buffer.length.le_refl h.length_le
    rw [grow_length] at hloop
    rw [buffer_fields, hloop, compact_fields h.length_grow_le]

theorem Within.length_assureSpace_le [Inhabited α] (h : b.Within n) :
    (b.assureSpace n).buffer.length ≤ 3 * 2 ^ 61 := by
  rw [assureSpace]
  split_ifs
  · exact h.length_le
  · exact (length_compact _).trans_le h.length_grow_le

/-! ## The functions -/

/-- The assertion holds, and what is pushed is written behind what can be read. -/
theorem pushDataAt_fields [Inhabited α] {data : List α} (h : b.Within data.length)
    (hnil : data ≠ []) :
    b.fields.pushDataAt data 0 =
      some ({ (b.assureSpace data.length).fields with
        buffer := CircularBuffer.overwrite (b.assureSpace data.length).buffer
          (b.assureSpace data.length).writePos data }, data.length) := by
  have hread := h.lt
  have hspace := b.le_writeableSize_assureSpace data.length
  have hlen := h.length_assureSpace_le
  have hfits : (b.assureSpace data.length).writePos + data.length ≤
      (b.assureSpace data.length).buffer.length := by
    have hw := (b.assureSpace data.length).writePos_le
    rw [writeableSize] at hspace
    omega
  have hmax : b.readableSize ≠ maxBufferSize := by
    rw [maxBufferSize]
    omega
  have hpos : sizeAdd (b.assureSpace data.length).writePos 0 =
      (b.assureSpace data.length).writePos :=
    sizeAdd_of_lt (by omega)
  rw [Fields.pushDataAt, if_neg (mt List.length_eq_zero_iff.1 hnil),
    readableSize_fields h.length_le, if_neg hmax, sizeAdd_of_lt (by omega), Nat.add_zero,
    assureSpace_fields h, Option.bind_some, writeableSize_fields hlen, if_pos hspace,
    writePos_fields, hpos, store_fields hfits]
  rfl

theorem adjustWritePtr_fields {nBytes : ℕ} (h : b.writePos + nBytes < 2 ^ 64) :
    b.fields.adjustWritePtr nBytes = { b.fields with writePos := b.writePos + nBytes } :=
  Fields.ext rfl rfl (sizeAdd_of_lt h)

theorem pushData_fields [Inhabited α] {data : List α} (h : b.Within data.length) :
    b.fields.pushData data = some ((b.pushData data).fields, data.length) := by
  have hread := h.lt
  by_cases hnil : data = []
  · have hw := b.writePos_le
    have hlen := h.length_le
    rw [Fields.pushData, Fields.pushDataAt, if_pos (List.length_eq_zero_iff.2 hnil), pushData,
      if_pos hnil, hnil]
    exact congrArg (fun f => some (f, 0)) (adjustWritePtr_fields (by omega))
  · have hw := (b.assureSpace data.length).writePos_le
    have hlen := h.length_assureSpace_le
    have hpos : sizeAdd (b.assureSpace data.length).writePos data.length =
        (b.assureSpace data.length).writePos + data.length :=
      sizeAdd_of_lt (by omega)
    rw [Fields.pushData, pushDataAt_fields h hnil, pushData, if_neg hnil]
    exact congrArg (fun f => some (f, data.length)) (Fields.ext rfl rfl hpos)

theorem length_pushData_le [Inhabited α] {data : List α} (h : b.Within data.length) :
    (b.pushData data).buffer.length ≤ 3 * 2 ^ 61 := by
  have hw := (b.assureSpace data.length).writePos_le
  have hspace := b.le_writeableSize_assureSpace data.length
  rw [pushData]
  split_ifs
  · exact h.length_le
  · refine (CircularBuffer.length_overwrite ?_).trans_le h.length_assureSpace_le
    rw [writeableSize] at hspace
    omega

theorem peekDataAt_fields {nSize offset : ℕ} (hlen : b.buffer.length ≤ 3 * 2 ^ 61)
    (h : nSize + offset < 2 ^ 62) :
    b.fields.peekDataAt nSize offset = some ((b.contents.drop offset).take nSize) := by
  have hw := b.writePos_le
  have hread : b.readPos + b.readableSize = b.writePos := Nat.add_sub_of_le b.readPos_le
  rw [Fields.peekDataAt, readableSize_fields hlen]
  by_cases hnone : nSize = 0 ∨ b.readableSize ≤ offset
  · rw [if_pos hnone]
    rcases hnone with rfl | hoffset
    · rfl
    · rw [List.drop_of_length_le (b.length_contents.trans_le hoffset), List.take_nil]
  · rw [not_or, Nat.not_le] at hnone
    have hcut : (if b.readableSize < nSize + offset then b.readableSize - offset else nSize) =
        min nSize (b.readableSize - offset) := by
      split_ifs <;> omega
    rw [if_neg (by omega), readPos_fields,
      sizeAdd_of_lt (show b.readPos + offset < 2 ^ 64 by omega),
      sizeAdd_of_lt (show nSize + offset < 2 ^ 64 by omega), sizeSub_of_le (by omega) (by omega),
      hcut, load_fields (by omega), contents, List.drop_take, List.drop_drop, List.take_take]

theorem adjustReadPtr_fields {nBytes : ℕ} (hlen : b.buffer.length ≤ 3 * 2 ^ 61)
    (h : nBytes ≤ b.readableSize) :
    b.fields.adjustReadPtr nBytes = (b.adjustReadPtr nBytes h).fields := by
  have hw := b.writePos_le
  have hread : b.readPos + b.readableSize = b.writePos := Nat.add_sub_of_le b.readPos_le
  have hpos : sizeAdd b.readPos nBytes = b.readPos + nBytes := sizeAdd_of_lt (by omega)
  exact Fields.ext rfl hpos rfl

end

/-! ## Clear and shrink -/

/-- A buffer of which the first `writePos` cells can be read. -/
def fromStart (buffer : List α) (writePos : ℕ) (h : writePos ≤ buffer.length) :
    UnboundedBuffer α where
  buffer := buffer
  readPos := 0
  writePos := writePos
  readPos_le := Nat.zero_le writePos
  writePos_le := h

section
variable (b : UnboundedBuffer α)

/-- `Clear`. -/
def clear : UnboundedBuffer α :=
  fromStart b.buffer 0 (Nat.zero_le _)

/-- `Shrink`. -/
def shrink (tight : Bool) : UnboundedBuffer α :=
  if b.buffer = [] ∨ (!tight ∧ b.buffer.length / 2 < b.readableSize) then b
  else fromStart b.contents b.readableSize b.length_contents.ge

@[simp] theorem contents_clear : b.clear.contents = [] :=
  rfl

/-- Shrinking does not change what can be read. -/
theorem contents_shrink (tight : Bool) : (b.shrink tight).contents = b.contents := by
  rw [shrink]
  split_ifs
  · rfl
  · exact List.take_of_length_le b.length_contents.le

theorem length_shrink_le (tight : Bool) : (b.shrink tight).buffer.length ≤ b.buffer.length := by
  have hw := b.writePos_le
  rw [shrink]
  split_ifs
  · exact Nat.le_refl _
  · refine b.length_contents.trans_le ?_
    rw [readableSize]
    omega

theorem shrink_fields {tight : Bool} (hlen : b.buffer.length ≤ 3 * 2 ^ 61) :
    b.fields.shrink tight = some (b.shrink tight).fields := by
  have hr := b.readPos_le
  have hw := b.writePos_le
  rw [Fields.shrink, shrink, buffer_fields, readPos_fields, writePos_fields,
    readableSize_fields hlen, load_contents]
  by_cases hnil : b.buffer = []
  · rw [hnil, List.length_nil] at hw
    rw [if_pos hnil, if_pos (by omega), if_pos (Or.inl hnil)]
  · rw [if_neg hnil]
    by_cases hkeep : !tight ∧ b.buffer.length / 2 < b.readableSize
    · rw [if_pos hkeep, if_pos (Or.inr hkeep)]
    · rw [if_neg hkeep, if_neg (not_or.2 ⟨hnil, hkeep⟩)]
      rfl

end

end UnboundedBuffer

end UhpSql
