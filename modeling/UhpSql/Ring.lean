import UhpSql.CircularBuffer
import Mathlib.Data.Nat.Log

/-!
# The ring, cell by cell (`network/buffer.h`)

`arc cap pos n` are the segments of `n` cells from `pos` on, round the end of a ring of `cap` cells.
All that the buffer reads and writes is an arc : what `GetDatum` returns (`getDatum_eq_arc`), the
space of `GetSpace` (`getSpace_eq_arc`), and the copies of `PeekDataAt` and `PushData`.
`getElem?_gather` and `getElem?_scatter` say what is read from an arc and what a write to one
leaves, cell by cell, and `getElem?_contents` where the unread bytes are.
-/

namespace UhpSql

/-! ## Capacities -/

/-- The loop of `RoundUp2Power`, with a bound on its turns. -/
def roundUpLoop (size : ℕ) : ℕ → ℕ → Option ℕ
  | 0, _ => none
  | k + 1, roundSize =>
    if roundSize < size then roundUpLoop size k (roundSize <<< 1 % 2 ^ 64) else some roundSize

/-- `RoundUp2Power`. Of a size that no power of two in a `size_t` reaches there is no result. -/
def roundUp2Power (size : ℕ) : Option ℕ :=
  if size = 0 then some 0 else roundUpLoop size 65 1

/-- The loop with `turns` turns more than it takes. -/
theorem roundUpLoop_eq {size : ℕ} (hsize : size ≤ 2 ^ 63) (k : ℕ) {i turns : ℕ}
    (hk : i + k = Nat.clog 2 size) :
    roundUpLoop size (k + (turns + 1)) (2 ^ i) = some (2 ^ Nat.clog 2 size) := by
  have hclog : Nat.clog 2 size ≤ 63 := Nat.clog_le_of_le_pow hsize
  induction k generalizing i with
  | zero =>
    have hle := Nat.le_pow_clog Nat.one_lt_two size
    obtain rfl : i = Nat.clog 2 size := hk
    rw [Nat.zero_add, roundUpLoop, if_neg (Nat.not_lt.2 hle)]
  | succ k ih =>
    have hlt : 2 ^ i < size := Nat.pow_lt_of_lt_clog (by omega)
    have hnext : 2 ^ i <<< 1 % 2 ^ 64 = 2 ^ (i + 1) := by
      rw [Nat.shiftLeft_eq, ← Nat.pow_add]
      exact Nat.mod_eq_of_lt (Nat.pow_lt_pow_right Nat.one_lt_two (by omega))
    rw [Nat.add_right_comm, roundUpLoop, if_pos hlt, hnext]
    exact ih (by omega)

/-- The least power of two that is not below the size. -/
theorem roundUp2Power_eq {size : ℕ} (hpos : 0 < size) (hsize : size ≤ 2 ^ 63) :
    roundUp2Power size = some (2 ^ Nat.clog 2 size) := by
  have hclog : Nat.clog 2 size ≤ 63 := Nat.clog_le_of_le_pow hsize
  have hturns : 65 = Nat.clog 2 size + (64 - Nat.clog 2 size + 1) := by omega
  rw [roundUp2Power, if_neg hpos.ne', hturns]
  exact roundUpLoop_eq hsize _ (Nat.zero_add _)

namespace CircularBuffer

variable {α : Type}

/-! ## Arcs -/

/-- `n` cells of `cap` from `pos` on, round the end. -/
def arc (cap pos n : ℕ) : List Segment :=
  if pos + n ≤ cap then [(pos, n)] else [(pos, cap - pos), (0, n - (cap - pos))]

/-- The bytes of the segments of a buffer. -/
def gather (buffer : List α) (segments : List Segment) : List α :=
  segments.flatMap fun segment => (buffer.drop segment.1).take segment.2

theorem attached_eq_gather (b : CircularBuffer α) (segments : List Segment) :
    b.attached segments = gather b.buffer segments :=
  rfl

section
variable {buffer data : List α} {cap pos n i j : ℕ}

/-- The position `i` cells further on. -/
theorem add_mod_eq (hpos : pos < cap) (hi : i < cap) :
    (pos + i) % cap = if pos + i < cap then pos + i else pos + i - cap := by
  split_ifs with hlt
  · exact Nat.mod_eq_of_lt hlt
  · rw [Nat.mod_eq_sub_mod (by omega), Nat.mod_eq_of_lt (by omega)]

theorem add_mod_inj (hpos : pos < cap) (hi : i < cap) (hj : j < cap)
    (h : (pos + i) % cap = (pos + j) % cap) : i = j := by
  rw [add_mod_eq hpos hi, add_mod_eq hpos hj] at h
  split_ifs at h <;> omega

/-- An arc lies in the ring. -/
theorem arc_le (hpos : pos < cap) (hn : n ≤ cap) {segment : Segment} (h : segment ∈ arc cap pos n) :
    segment.1 + segment.2 ≤ cap := by
  unfold arc at h
  split_ifs at h with hle
  · obtain rfl := List.mem_singleton.1 h
    exact hle
  · rcases List.mem_cons.1 h with rfl | h
    · simp only
      omega
    · obtain rfl := List.mem_singleton.1 h
      simp only
      omega

theorem space_arc (hpos : pos ≤ cap) : space (arc cap pos n) = n := by
  unfold arc
  split_ifs with hle
  · simp only [space, List.map_cons, List.map_nil, List.sum_cons, List.sum_nil, Nat.add_zero]
  · simp only [space, List.map_cons, List.map_nil, List.sum_cons, List.sum_nil]
    omega

theorem getElem?_take_drop (buffer : List α) (pos len i : ℕ) :
    ((buffer.drop pos).take len)[i]? = if i < len then buffer[pos + i]? else none := by
  rw [List.getElem?_take, List.getElem?_drop]

/-- What is read from an arc. -/
theorem getElem?_gather (hlen : buffer.length = cap) (hpos : pos < cap) (hn : n ≤ cap) (i : ℕ) :
    (gather buffer (arc cap pos n))[i]? = if i < n then buffer[(pos + i) % cap]? else none := by
  unfold arc gather
  by_cases hle : pos + n ≤ cap
  · simp only [if_pos hle, List.flatMap_cons, List.flatMap_nil, List.append_nil, getElem?_take_drop]
    refine if_ctx_congr Iff.rfl (fun hi => ?_) fun _ => rfl
    rw [Nat.mod_eq_of_lt (by omega)]
  · have hfirst : ((buffer.drop pos).take (cap - pos)).length = cap - pos := by
      rw [List.length_take, List.length_drop, hlen, Nat.min_self]
    simp only [if_neg hle, List.flatMap_cons, List.flatMap_nil, List.append_nil,
      List.getElem?_append, hfirst, getElem?_take_drop, Nat.zero_add]
    by_cases hi : i < n
    · rw [if_pos hi, add_mod_eq hpos (by omega)]
      split_ifs <;> first | omega | rfl | (congr 1; omega)
    · rw [if_neg hi, if_neg (by omega), if_neg (by omega)]

theorem getElem?_overwrite (h : pos + data.length ≤ buffer.length) (k : ℕ) :
    (overwrite buffer pos data)[k]? =
      if pos ≤ k ∧ k < pos + data.length then data[k - pos]? else buffer[k]? := by
  have hfront : (buffer.take pos).length = pos := by
    rw [List.length_take]
    omega
  rw [overwrite, List.append_assoc, List.getElem?_append, List.getElem?_append, hfront,
    List.getElem?_take, List.getElem?_drop]
  split_ifs <;> first | omega | rfl | (congr 1; omega)

/-- What a write to an arc leaves in the cell `j` cells from its beginning. -/
theorem getElem?_scatter (hlen : buffer.length = cap) (hpos : pos < cap) (hn : n ≤ cap)
    (hdata : data.length ≤ n) (hj : j < cap) :
    (scatter (arc cap pos n) data buffer)[(pos + j) % cap]? =
      if j < data.length then data[j]? else buffer[(pos + j) % cap]? := by
  have hmod := add_mod_eq hpos hj
  unfold arc
  by_cases hle : pos + n ≤ cap
  · rw [if_pos hle, scatter, scatter, List.take_of_length_le hdata,
      getElem?_overwrite (by omega), hmod]
    split_ifs <;> first | omega | rfl | (congr 1; omega)
  · have htake : (data.take (cap - pos)).length = min (cap - pos) data.length := List.length_take
    have hrest : (data.drop (cap - pos)).length ≤ n - (cap - pos) := by
      rw [List.length_drop]
      omega
    have hcells : (overwrite buffer pos (data.take (cap - pos))).length = buffer.length :=
      length_overwrite (by omega)
    rw [if_neg hle, scatter, scatter, scatter, List.take_of_length_le hrest,
      getElem?_overwrite (by rw [hcells, List.length_drop]; omega), List.length_drop,
      getElem?_overwrite (by omega), htake, hmod, List.getElem?_drop, List.getElem?_take]
    split_ifs <;> first | omega | rfl | (congr 1; omega)

end

/-! ## Reading and writing -/

section
variable (b : CircularBuffer α)

theorem mask_lt (n : ℕ) : b.mask n < b.maxSize := by
  rw [mask_eq]
  exact Nat.mod_lt _ b.maxSize_pos

/-- `AdjustWritePtr`. -/
def adjustWritePtr (size : ℕ) : CircularBuffer α :=
  { b with
    writePos := b.mask (b.writePos + size)
    writePos_lt := by
      rw [mask, maxSize, Nat.and_two_pow_sub_one_eq_mod]
      exact Nat.mod_lt _ (Nat.two_pow_pos _) }

/-- The copies of `PeekDataAt`. -/
def peekSegments (nSize offset : ℕ) : List Segment :=
  let readPos := b.mask (b.readPos + offset)
  if readPos < b.writePos then [(readPos, nSize)]
  else
    let availBytes1 := b.maxSize - readPos
    if nSize ≤ availBytes1 then [(readPos, nSize)]
    else [(readPos, availBytes1), (0, nSize - availBytes1)]

/-- `PeekDataAt`, with an offset that does not make the size wrap around. -/
def peekDataAt (nSize offset : ℕ) : Option (List α) :=
  if nSize = 0 then some []
  else if b.readableSize < nSize + offset then none
  else some (gather b.buffer (b.peekSegments nSize offset))

/-- `PeekData`. -/
def peekData (nSize : ℕ) : Option (CircularBuffer α × List α) :=
  (b.peekDataAt nSize 0).map fun data => (b.adjustReadPtr nSize, data)

/-- The copies of `PushDataAt`. They start at `writePos_`, whatever the offset. -/
def pushSegments (nSize offset : ℕ) : List Segment :=
  let writePos := b.mask (b.writePos + offset)
  if writePos < b.readPos then [(b.writePos, nSize)]
  else
    let availBytes1 := b.maxSize - b.writePos
    if nSize + 1 ≤ availBytes1 then [(b.writePos, nSize)]
    else
      let bytesLeft := (Int32.ofNat (nSize - availBytes1)).toInt
      (b.writePos, availBytes1) :: if 0 < bytesLeft then [(0, bytesLeft.toNat)] else []

/-- A segment has the cell. -/
def Touches (segments : List Segment) (k : ℕ) : Prop :=
  ∃ segment ∈ segments, segment.1 ≤ k ∧ k < segment.1 + segment.2

/-- The cell has a byte that can be read. -/
def Unread (k : ℕ) : Prop :=
  ∃ i < b.readableSize, (b.readPos + i) % b.maxSize = k

theorem readableSize_lt : b.readableSize < b.maxSize := by
  have hr := b.readPos_lt_maxSize
  have hw := b.writePos_lt_maxSize
  rw [readableSize_eq]
  split_ifs <;> omega

/-- Where the unread bytes end. -/
theorem readPos_add_readableSize : (b.readPos + b.readableSize) % b.maxSize = b.writePos := by
  have hr := b.readPos_lt_maxSize
  have hw := b.writePos_lt_maxSize
  rw [add_mod_eq hr b.readableSize_lt, readableSize_eq]
  split_ifs <;> omega

/-- Where the unread bytes are. -/
theorem getElem?_contents (i : ℕ) : b.contents[i]? =
    if i < b.readableSize then b.buffer[(b.readPos + i) % b.maxSize]? else none := by
  have hr := b.readPos_lt_maxSize
  have hw := b.writePos_lt_maxSize
  have hsize := b.readableSize_lt
  have hlen := b.length_buffer_eq
  by_cases hi : i < b.readableSize
  · rw [if_pos hi, add_mod_eq hr (by omega)]
    rw [readableSize_eq] at hi
    rw [contents, between]
    split_ifs at hi ⊢ with hle hlt hlt
    · rw [getElem?_take_drop, if_pos hi]
    · omega
    · rw [List.getElem?_append_left (by rw [List.length_drop]; omega), List.getElem?_drop]
    · rw [List.getElem?_append_right (by rw [List.length_drop]; omega), List.length_drop,
        List.getElem?_take, if_pos (by omega)]
      congr 1
      omega
  · rw [if_neg hi, List.getElem?_eq_none (by rw [length_contents]; omega)]

/-- What is read from an arc among the unread bytes. -/
theorem gather_arc {offset n : ℕ} (h : offset + n ≤ b.readableSize) :
    gather b.buffer (arc b.maxSize (b.mask (b.readPos + offset)) n) =
      (b.contents.drop offset).take n := by
  have hsize := b.readableSize_lt
  refine List.ext_getElem? fun i => ?_
  rw [mask_eq, getElem?_gather b.length_buffer_eq (Nat.mod_lt _ b.maxSize_pos) (by omega),
    getElem?_take_drop, Nat.mod_add_mod, Nat.add_assoc]
  refine if_ctx_congr Iff.rfl (fun hi => ?_) fun _ => rfl
  rw [getElem?_contents, if_pos (by omega)]

theorem peekSegments_eq_arc {nSize offset : ℕ} (hpos : 0 < nSize)
    (h : nSize + offset ≤ b.readableSize) :
    b.peekSegments nSize offset = arc b.maxSize (b.mask (b.readPos + offset)) nSize := by
  have hr := b.readPos_lt_maxSize
  have hw := b.writePos_lt_maxSize
  have hsize := b.readableSize_lt
  have hmod := add_mod_eq hr (show offset < b.maxSize by omega)
  have heq := b.readableSize_eq
  rw [← b.mask_eq] at hmod
  unfold peekSegments arc
  simp only
  split_ifs at hmod heq ⊢ <;> first | rfl | omega

/-- `PeekDataAt` returns a slice. -/
theorem peekDataAt_eq {nSize offset : ℕ} (h : nSize + offset ≤ b.readableSize) :
    b.peekDataAt nSize offset = some ((b.contents.drop offset).take nSize) := by
  rw [peekDataAt]
  split_ifs with hzero hmore
  · rw [hzero, List.take_zero]
  · omega
  · rw [peekSegments_eq_arc b (by omega) h, gather_arc b (by omega)]

/-- What can be read from a position on : up to the write position, or to it round the end. -/
theorem readableSize_sub {offset : ℕ} (h : offset < b.readableSize) :
    b.readableSize - offset =
      if b.mask (b.readPos + offset) < b.writePos then b.writePos - b.mask (b.readPos + offset)
      else b.maxSize - b.mask (b.readPos + offset) + b.writePos := by
  have hr := b.readPos_lt_maxSize
  have hw := b.writePos_lt_maxSize
  have hsize := b.readableSize_lt
  have heq := b.readableSize_eq
  rw [b.mask_eq, add_mod_eq hr (show offset < b.maxSize by omega)]
  split_ifs at heq ⊢ <;> omega

/-- What can be written from a position on : up to the cell before the read position, or to it round
the end. -/
theorem writeableSize_sub {offset : ℕ} (h : offset < b.writeableSize) :
    b.writeableSize - offset =
      if b.mask (b.writePos + offset) < b.readPos then
        b.readPos - b.mask (b.writePos + offset) - 1
      else b.maxSize - b.mask (b.writePos + offset) + b.readPos - 1 := by
  have hr := b.readPos_lt_maxSize
  have hw := b.writePos_lt_maxSize
  have hsize := b.readableSize_lt
  have hwrite : b.writeableSize = b.maxSize - b.readableSize - 1 := rfl
  have heq := b.readableSize_eq
  rw [b.mask_eq, add_mod_eq hw (show offset < b.maxSize by omega)]
  split_ifs at heq ⊢ <;> omega

theorem getDatum_eq_arc {maxSize offset : ℕ} (hmax : 0 < maxSize) (h : offset < b.readableSize) :
    b.getDatum maxSize offset =
      arc b.maxSize (b.mask (b.readPos + offset)) (min maxSize (b.readableSize - offset)) := by
  have hpos := b.mask_lt (b.readPos + offset)
  have hw := b.writePos_lt_maxSize
  have hsub := b.readableSize_sub h
  rw [getDatum, if_neg (by omega)]
  simp only
  by_cases hlt : b.mask (b.readPos + offset) < b.writePos
  · rw [if_pos hlt] at hsub ⊢
    rw [arc, if_pos (by omega), hsub]
  · rw [if_neg hlt] at hsub ⊢
    by_cases hround : 0 < maxSize - min maxSize (b.maxSize - b.mask (b.readPos + offset)) ∧
        0 < b.writePos
    · rw [if_pos hround, arc, if_neg (by omega)]
      congr 3 <;> omega
    · rw [if_neg hround, arc, if_pos (by omega)]
      congr 2
      omega

theorem getSpace_eq_arc {offset : ℕ} (h : offset + 1 < b.writeableSize) :
    b.getSpace offset =
      arc b.maxSize (b.mask (b.writePos + offset)) (b.writeableSize - offset) := by
  have hpos := b.mask_lt (b.writePos + offset)
  have hr := b.readPos_lt_maxSize
  have hsub := b.writeableSize_sub (show offset < b.writeableSize by omega)
  rw [getSpace, if_neg (by omega)]
  simp only
  by_cases hlt : b.mask (b.writePos + offset) < b.readPos
  · rw [if_pos hlt] at hsub ⊢
    rw [arc, if_pos (by omega), hsub]
  · rw [if_neg hlt] at hsub ⊢
    rw [hsub]
    by_cases hzero : b.readPos = 0
    · rw [if_pos hzero, arc, if_pos (by omega), hzero, Nat.add_zero]
    · rw [if_neg hzero]
      by_cases hone : 1 < b.readPos
      · rw [if_pos hone, arc, if_neg (by omega)]
        congr 3
        omega
      · rw [if_neg hone, arc, if_pos (by omega)]
        congr 2
        omega

/-- `GetDatum` returns a slice. -/
theorem gather_getDatum (maxSize offset : ℕ) :
    gather b.buffer (b.getDatum maxSize offset) = (b.contents.drop offset).take maxSize := by
  by_cases h : maxSize = 0 ∨ b.readableSize ≤ offset
  · rw [getDatum, if_pos h]
    rcases h with rfl | h
    · rfl
    · rw [List.drop_eq_nil_of_le (by rw [length_contents]; exact h), List.take_nil]
      rfl
  · rw [not_or, Nat.not_le] at h
    rw [getDatum_eq_arc b (by omega) h.2, gather_arc b (by omega), Nat.min_comm, ← List.take_take,
      List.take_of_length_le (i := b.readableSize - offset)]
    rw [List.length_take, List.length_drop, length_contents]
    omega

theorem space_getDatum (maxSize : ℕ) :
    space (b.getDatum maxSize 0) = min maxSize b.readableSize := by
  by_cases h : maxSize = 0 ∨ b.readableSize ≤ 0
  · rw [getDatum, if_pos h]
    simp only [space, List.map_nil, List.sum_nil]
    omega
  · rw [not_or, Nat.not_le] at h
    rw [getDatum_eq_arc b (by omega) h.2, space_arc (b.mask_lt _).le, Nat.sub_zero]

theorem space_getSpace_le : space (b.getSpace 0) ≤ b.writeableSize := by
  by_cases h : 0 + 1 < b.writeableSize
  · rw [getSpace_eq_arc b h, space_arc (b.mask_lt _).le, Nat.sub_zero]
  · rw [getSpace, if_pos (by omega)]
    exact Nat.zero_le _

/-- What fits is written to an arc, unless 2 GB of it or more go round the end. -/
theorem pushSegments_eq_arc {nSize : ℕ} (h : nSize ≤ b.writeableSize)
    (hround : nSize - (b.maxSize - b.writePos) < 2 ^ 31) :
    b.pushSegments nSize 0 = arc b.maxSize b.writePos nSize := by
  have hr := b.readPos_lt_maxSize
  have hw := b.writePos_lt_maxSize
  have hsize := b.readableSize_lt
  have heq := b.readableSize_eq
  have hmask : b.mask (b.writePos + 0) = b.writePos := by
    rw [mask_eq, Nat.add_zero, Nat.mod_eq_of_lt hw]
  have hleft : (Int32.ofNat (nSize - (b.maxSize - b.writePos))).toInt =
      (nSize - (b.maxSize - b.writePos) : ℕ) := Int32.toInt_ofNat_of_lt hround
  rw [writeableSize] at h
  unfold pushSegments arc
  simp only [hmask, hleft, Int.toNat_natCast]
  split_ifs at heq ⊢ <;> simp only [List.cons.injEq, Prod.mk.injEq, true_and, and_true,
    reduceCtorEq, and_false] <;> omega

/-- The cells that `PushData` leaves are those after its copies. -/
theorem pushCells_eq_scatter (data : List α) :
    b.pushCells data = scatter (b.pushSegments data.length 0) data b.buffer := by
  have hmask : b.mask (b.writePos + 0) = b.writePos := by
    rw [mask_eq, Nat.add_zero, Nat.mod_eq_of_lt b.writePos_lt_maxSize]
  unfold pushCells pushSegments copyRound
  simp only [hmask]
  split_ifs <;> simp only [scatter, List.take_length]

/-- The cells of an arc. -/
theorem exists_of_touches_arc {cap pos n k : ℕ} (hpos : pos < cap) (hn : n ≤ cap)
    (h : Touches (arc cap pos n) k) : ∃ j < n, (pos + j) % cap = k := by
  obtain ⟨segment, hmem, hle, hlt⟩ := h
  unfold arc at hmem
  split_ifs at hmem with hend
  · obtain rfl := List.mem_singleton.1 hmem
    simp only at hle hlt
    refine ⟨k - pos, by omega, ?_⟩
    rw [Nat.add_sub_cancel' hle, Nat.mod_eq_of_lt (by omega)]
  · rcases List.mem_cons.1 hmem with rfl | hmem
    · simp only at hle hlt
      refine ⟨k - pos, by omega, ?_⟩
      rw [Nat.add_sub_cancel' hle, Nat.mod_eq_of_lt (by omega)]
    · obtain rfl := List.mem_singleton.1 hmem
      simp only at hle hlt
      refine ⟨cap - pos + k, by omega, ?_⟩
      rw [add_mod_eq hpos (by omega)]
      split_ifs <;> omega

/-- The cells behind the unread bytes are free. -/
theorem not_unread {j : ℕ} (hj : j < b.writeableSize) :
    ¬b.Unread ((b.writePos + j) % b.maxSize) := by
  rintro ⟨i, hi, heq⟩
  have hsize := b.readableSize_lt
  rw [writeableSize] at hj
  rw [← readPos_add_readableSize, Nat.mod_add_mod, Nat.add_assoc] at heq
  have hinj := add_mod_inj b.readPos_lt_maxSize (by omega) (by omega) heq
  omega

/-- The space of `GetSpace` has no unread byte in it. -/
theorem not_unread_of_touches {k : ℕ} (h : Touches (b.getSpace 0) k) : ¬b.Unread k := by
  by_cases hspace : 0 + 1 < b.writeableSize
  · have hw := b.writePos_lt_maxSize
    have hsize : b.writeableSize ≤ b.maxSize := by
      rw [writeableSize]
      omega
    rw [getSpace_eq_arc b hspace, mask_eq, Nat.add_zero, Nat.mod_eq_of_lt hw, Nat.sub_zero] at h
    obtain ⟨j, hj, rfl⟩ := exists_of_touches_arc hw hsize h
    exact b.not_unread hj
  · rw [getSpace, if_pos (by omega)] at h
    obtain ⟨segment, hmem, -⟩ := h
    exact absurd hmem List.not_mem_nil

end

end CircularBuffer

end UhpSql
