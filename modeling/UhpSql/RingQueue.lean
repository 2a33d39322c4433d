import UhpSql.Machine
import UhpSql.Ring

/-!
# The ring as a queue (`network/buffer.h`)

`Queue.step` is what a ring is for : a queue of bytes that holds up to some number of them.
`Holds.run` : a ring of at most 1 GB does what this queue does, call for call, with the same
answers, where `fill` stands for `GetSpace`, a write to the space and `AdjustWritePtr`, and `skip`
for `GetDatum`, the bytes of an `AttachedBuffer` and `AdjustReadPtr`.

`ring_fifo` : so what was read is what was written, in order, up to what is still in the ring. No
call touches a cell outside, and none of the space that `GetSpace` returns has an unread byte in it.
A call returns if it keeps to the space and the bytes that it is given (`exists_run_of_proper`).
-/

namespace UhpSql

variable {α : Type}

/-! ## Attached buffers -/

/-- `AttachedBuffer` : `buffer` is the memory from `buffer_` on. -/
structure AttachedBuffer (α : Type) where
  buffer : List α
  maxSize : ℕ
  readPos : ℕ
  writePos : ℕ

namespace AttachedBuffer

/-- `ReadableSize`. -/
def readableSize (a : AttachedBuffer α) : ℕ :=
  (a.writePos - a.readPos) &&& (a.maxSize - 1)

/-- The bytes from `ReadAddr` on that can be read. -/
def bytes (a : AttachedBuffer α) : List α :=
  (a.buffer.drop a.readPos).take a.readableSize

end AttachedBuffer

namespace CircularBuffer

/-- The memory and the write position of `AttachedBuffer(bf)` : no segment, one, which is used where
it is and has its length cast to an `int`, or some, which are copied. -/
def attachCells (b : CircularBuffer α) : List Segment → List α × ℕ
  | [] => ([], 0)
  | [(pos, len)] => (b.buffer.drop pos, ((Int32.ofNat len).toInt % 2 ^ 64).toNat)
  | segments => (gather b.buffer segments, space segments)

/-- `AttachedBuffer(bf)`. -/
def attach (b : CircularBuffer α) (segments : List Segment) : Option (AttachedBuffer α) :=
  (roundUp2Power (((b.attachCells segments).2 + 1) % 2 ^ 64)).map fun maxSize =>
    ⟨(b.attachCells segments).1, maxSize, 0, (b.attachCells segments).2⟩

theorem length_gather_le (buffer : List α) (segments : List Segment) :
    (gather buffer segments).length ≤ space segments := by
  induction segments with
  | nil => exact Nat.le_refl 0
  | cons segment segments ih =>
    rw [gather, List.flatMap_cons, List.length_append, space, List.map_cons, List.sum_cons]
    exact Nat.add_le_add (List.length_take_le _ _) ih

theorem attachCells_eq {b : CircularBuffer α} {segments : List Segment}
    (h : space segments < 2 ^ 31) :
    (b.attachCells segments).2 = space segments ∧
      (b.attachCells segments).1.take (space segments) = gather b.buffer segments := by
  match segments, h with
  | [], _ => exact ⟨rfl, rfl⟩
  | [(pos, len)], h =>
    have hspace : space [(pos, len)] = len := by
      simp only [space, List.map_cons, List.map_nil, List.sum_cons, List.sum_nil, Nat.add_zero]
    rw [hspace] at h ⊢
    have hint : (Int32.ofNat len).toInt = (len : ℤ) := Int32.toInt_ofNat_of_lt h
    refine ⟨?_, ?_⟩
    · rw [attachCells, hint]
      simp only
      omega
    · simp only [attachCells, gather, List.flatMap_cons, List.flatMap_nil, List.append_nil]
  | first :: second :: segments, _ =>
    exact ⟨rfl, List.take_of_length_le (length_gather_le _ _)⟩

/-- An attached buffer has the bytes of its segments. -/
theorem bytes_attach {b : CircularBuffer α} {segments : List Segment}
    (h : space segments < 2 ^ 31) :
    (b.attach segments).map AttachedBuffer.bytes = some (gather b.buffer segments) := by
  obtain ⟨hpos, hcells⟩ := @attachCells_eq α b segments h
  have hle := Nat.le_pow_clog Nat.one_lt_two (space segments + 1)
  rw [attach, hpos, Nat.mod_eq_of_lt (by omega),
    roundUp2Power_eq (show 0 < space segments + 1 by omega) (by omega),
    Option.map_some, Option.map_some, AttachedBuffer.bytes, AttachedBuffer.readableSize]
  simp only [Nat.sub_zero, List.drop_zero, Nat.and_two_pow_sub_one_eq_mod]
  rw [Nat.mod_eq_of_lt (by omega), hcells]

end CircularBuffer

/-! ## The queue -/

/-- What is called on a ring. -/
inductive RingCall (α : Type)
  | pushData (data : List α)
  | peekData (nSize : ℕ)
  | fill (data : List α)
  | skip (maxSize size : ℕ)

/-- What a call returns. -/
inductive RingReply (α : Type)
  | pushed (ok : Bool)
  | peeked (data : Option (List α))
  | filled
  | skipped (data : List α)

/-- The bytes that go in with a call. -/
def RingCall.written : RingCall α → RingReply α → List α
  | .pushData data, .pushed ok => if ok then data else []
  | .fill data, _ => data
  | _, _ => []

/-- The bytes that come out with a call. -/
def RingCall.read : RingCall α → RingReply α → List α
  | .peekData _, .peeked data => data.getD []
  | .skip _ size, .skipped data => data.take size
  | _, _ => []

/-- A queue of up to `size` bytes : `fill` is for data that fit, and `skip` for at most as many
bytes as are returned. -/
def Queue.step (size : ℕ) (queue : List α) : RingCall α → Option (List α × RingReply α)
  | .pushData data =>
    if queue.length + data.length ≤ size then some (queue ++ data, .pushed true)
    else some (queue, .pushed false)
  | .peekData nSize =>
    if nSize ≤ queue.length then some (queue.drop nSize, .peeked (some (queue.take nSize)))
    else some (queue, .peeked none)
  | .fill data => if queue.length + data.length ≤ size then some (queue ++ data, .filled) else none
  | .skip maxSize size =>
    if size ≤ min maxSize queue.length then some (queue.drop size, .skipped (queue.take maxSize))
    else none

/-- A queue loses nothing. -/
theorem Queue.conserves {size : ℕ} {queue queue' : List α} {call : RingCall α}
    {reply : RingReply α} (h : Queue.step size queue call = some (queue', reply)) :
    queue ++ call.written reply = call.read reply ++ queue' := by
  cases call with
  | pushData data =>
    rw [Queue.step] at h
    split_ifs at h
    · obtain ⟨rfl, rfl⟩ := Prod.mk.inj (Option.some.inj h)
      rfl
    · obtain ⟨rfl, rfl⟩ := Prod.mk.inj (Option.some.inj h)
      exact List.append_nil _
  | peekData nSize =>
    rw [Queue.step] at h
    split_ifs at h
    · obtain ⟨rfl, rfl⟩ := Prod.mk.inj (Option.some.inj h)
      exact (List.append_nil _).trans (List.take_append_drop _ _).symm
    · obtain ⟨rfl, rfl⟩ := Prod.mk.inj (Option.some.inj h)
      exact List.append_nil _
  | fill data =>
    rw [Queue.step] at h
    split_ifs at h
    obtain ⟨rfl, rfl⟩ := Prod.mk.inj (Option.some.inj h)
    rfl
  | skip maxSize size =>
    rw [Queue.step] at h
    split_ifs at h with hle
    obtain ⟨rfl, rfl⟩ := Prod.mk.inj (Option.some.inj h)
    have hread : (queue.take maxSize).take size = queue.take size := by
      rw [List.take_take, Nat.min_eq_left (Nat.le_min.1 hle).1]
    refine (List.append_nil _).trans ?_
    rw [RingCall.read, hread, List.take_append_drop]

namespace CircularBuffer

/-! ## The ring -/

/-- `Buffer(size)`. -/
def ofSize (size : ℕ) (h : size ≤ 2 ^ 30) (zero : α) : CircularBuffer α :=
  new (Nat.clog 2 size) ((Nat.clog_le_of_le_pow h).trans (by decide)) zero

def step (b : CircularBuffer α) : RingCall α → Option (CircularBuffer α × RingReply α)
  | .pushData data => some ((b.pushData data).1, .pushed (b.pushData data).2)
  | .peekData nSize =>
    match b.peekData nSize with
    | some (b', data) => some (b', .peeked (some data))
    | none => some (b, .peeked none)
  | .fill data =>
    if data.length ≤ space (b.getSpace 0) then some ((b.recv data).1, .filled) else none
  | .skip maxSize size =>
    if size ≤ space (b.getDatum maxSize 0) then
      (b.attach (b.getDatum maxSize 0)).map fun a => (b.adjustReadPtr size, .skipped a.bytes)
    else none

/-- The ring holds the bytes of the queue, in `2 ^ bits` cells. -/
def Holds (bits : ℕ) (b : CircularBuffer α) (queue : List α) : Prop :=
  b.bits = bits ∧ b.contents = queue

variable {bits : ℕ} {b b' : CircularBuffer α} {queue : List α} {reply : RingReply α}

/-- What fits is what keeps one cell free. -/
theorem Holds.le_writeableSize_iff (h : b.Holds bits queue) (n : ℕ) :
    n ≤ b.writeableSize ↔ queue.length + n ≤ 2 ^ bits - 1 := by
  have hsize := b.readableSize_lt
  have hlen := congrArg List.length h.2
  have hmax : b.maxSize = 2 ^ bits := congrArg _ h.1
  rw [length_contents] at hlen
  rw [writeableSize]
  omega

theorem Holds.pushData (h : b.Holds bits queue) (hbits : bits ≤ 30) (data : List α) :
    ∃ queue', Queue.step (2 ^ bits - 1) queue (.pushData data) =
        some (queue', .pushed (b.pushData data).2) ∧ (b.pushData data).1.Holds bits queue' := by
  have hfits := h.le_writeableSize_iff data.length
  have hmax : b.maxSize = 2 ^ bits := congrArg _ h.1
  have hle : 2 ^ bits ≤ 2 ^ 30 := Nat.pow_le_pow_right Nat.two_pos hbits
  rw [Queue.step]
  by_cases hlen : data.length ≤ b.writeableSize
  · have hround : data.length - (b.maxSize - b.writePos) < 2 ^ 31 := by
      rw [writeableSize] at hlen
      omega
    have hok : (b.pushData data).2 = true := by rw [CircularBuffer.pushData, dif_pos hlen]
    rw [if_pos (hfits.1 hlen), hok]
    refine ⟨_, rfl, (b.bits_pushData data).trans h.1, ?_⟩
    rw [b.contents_pushData hlen hround, h.2]
  · have hno : b.pushData data = (b, false) := by rw [CircularBuffer.pushData, dif_neg hlen]
    rw [if_neg (mt hfits.2 hlen), hno]
    exact ⟨queue, rfl, h⟩

theorem Holds.adjustReadPtr (h : b.Holds bits queue) {size : ℕ} (hsize : size ≤ queue.length) :
    (b.adjustReadPtr size).Holds bits (queue.drop size) := by
  rw [← h.2, length_contents] at hsize
  exact ⟨h.1, by rw [b.contents_adjustReadPtr hsize, h.2]⟩

/-- A step of the ring is one of the queue. -/
theorem Holds.step (h : b.Holds bits queue) (hbits : bits ≤ 30) {call : RingCall α}
    (hstep : b.step call = some (b', reply)) :
    ∃ queue', Queue.step (2 ^ bits - 1) queue call = some (queue', reply) ∧
      b'.Holds bits queue' := by
  have hlen : queue.length = b.readableSize := by rw [← h.2, length_contents]
  have hmax : b.maxSize = 2 ^ bits := congrArg _ h.1
  cases call with
  | pushData data =>
    obtain ⟨rfl, rfl⟩ := Prod.mk.inj (Option.some.inj hstep)
    exact h.pushData hbits data
  | peekData nSize =>
    rw [Queue.step]
    by_cases hle : nSize ≤ queue.length
    · have hpeek : b.peekData nSize = some (b.adjustReadPtr nSize, queue.take nSize) := by
        rw [peekData, b.peekDataAt_eq (by omega), h.2]
        rfl
      simp only [CircularBuffer.step, hpeek] at hstep
      obtain ⟨rfl, rfl⟩ := Prod.mk.inj (Option.some.inj hstep)
      rw [if_pos hle]
      exact ⟨_, rfl, h.adjustReadPtr hle⟩
    · have hpeek : b.peekData nSize = none := by
        rw [peekData, peekDataAt, if_neg (by omega), if_pos (by omega)]
        rfl
      simp only [CircularBuffer.step, hpeek] at hstep
      obtain ⟨rfl, rfl⟩ := Prod.mk.inj (Option.some.inj hstep)
      rw [if_neg hle]
      exact ⟨_, rfl, h⟩
  | fill data =>
    rw [CircularBuffer.step] at hstep
    split_ifs at hstep with hle
    obtain ⟨rfl, rfl⟩ := Prod.mk.inj (Option.some.inj hstep)
    have hfits : data.length ≤ b.writeableSize := hle.trans b.space_getSpace_le
    rw [Queue.step, if_pos ((h.le_writeableSize_iff _).1 hfits)]
    refine ⟨_, rfl, h.1, ?_⟩
    rw [(b.contents_recv hle).1, h.2]
  | skip maxSize size =>
    rw [CircularBuffer.step] at hstep
    split_ifs at hstep with hle
    have hle' : size ≤ min maxSize queue.length := by
      rw [hlen, ← b.space_getDatum]
      exact hle
    have hsmall : space (b.getDatum maxSize 0) < 2 ^ 31 := by
      have hsize := b.readableSize_lt
      have hcap : 2 ^ bits ≤ 2 ^ 30 := Nat.pow_le_pow_right Nat.two_pos hbits
      rw [b.space_getDatum]
      omega
    obtain ⟨a, ha, hbytes⟩ := Option.map_eq_some_iff.1 (bytes_attach hsmall)
    rw [b.gather_getDatum, List.drop_zero, h.2] at hbytes
    rw [ha, Option.map_some, hbytes] at hstep
    obtain ⟨rfl, rfl⟩ := Prod.mk.inj (Option.some.inj hstep)
    rw [Queue.step, if_pos hle']
    exact ⟨_, rfl, h.adjustReadPtr (Nat.le_min.1 hle').2⟩

/-- What is filled in fits the space that `GetSpace` returns, and no more is skipped than `GetDatum`
returns. -/
def Proper (b : CircularBuffer α) : RingCall α → Prop
  | .pushData _ | .peekData _ => True
  | .fill data => data.length ≤ space (b.getSpace 0)
  | .skip maxSize size => size ≤ space (b.getDatum maxSize 0)

/-- A proper call of a ring of at most 1 GB returns : `AttachedBuffer` finds its size. -/
theorem exists_step_of_proper (hbits : b.bits ≤ 30) {call : RingCall α} (h : b.Proper call) :
    ∃ b' reply, b.step call = some (b', reply) := by
  cases call with
  | pushData data => exact ⟨_, _, rfl⟩
  | peekData nSize =>
    rw [CircularBuffer.step]
    cases b.peekData nSize with
    | none => exact ⟨_, _, rfl⟩
    | some r => exact ⟨_, _, rfl⟩
  | fill data => exact ⟨_, _, if_pos h⟩
  | skip maxSize size =>
    have hsmall : space (b.getDatum maxSize 0) < 2 ^ 31 := by
      have hsize := b.readableSize_lt
      have hcap : b.maxSize ≤ 2 ^ 30 := Nat.pow_le_pow_right Nat.two_pos hbits
      rw [b.space_getDatum]
      omega
    obtain ⟨a, ha, -⟩ := Option.map_eq_some_iff.1 (@bytes_attach α b _ hsmall)
    refine ⟨b.adjustReadPtr size, .skipped a.bytes, ?_⟩
    rw [Proper] at h
    rw [CircularBuffer.step, if_pos h, ha, Option.map_some]

/-- A run of the ring is one of the queue, with the same answers. -/
theorem Holds.run (h : b.Holds bits queue) (hbits : bits ≤ 30) {calls : List (RingCall α)}
    {replies : List (RingReply α)}
    (hrun : Machine.run CircularBuffer.step b calls = some (b', replies)) :
    ∃ queue', Machine.run (Queue.step (2 ^ bits - 1)) queue calls = some (queue', replies) ∧
      b'.Holds bits queue' :=
  Machine.refines (fun h hstep => h.step hbits hstep) h hrun

/-! ## Any order of calls -/

/-- The segments of a call that finds enough bytes or enough room. -/
inductive Used (b : CircularBuffer α) : List Segment → Prop
  | push {nSize} : nSize ≤ b.writeableSize → Used b (b.pushSegments nSize 0)
  | peek {nSize} : 0 < nSize → nSize ≤ b.readableSize → Used b (b.peekSegments nSize 0)
  | space : Used b (b.getSpace 0)
  | datum {maxSize} : Used b (b.getDatum maxSize 0)

/-- What is claimed of a ring of a size after calls and their answers. -/
structure Fifo (size : ℕ) (calls : List (RingCall α)) (replies : List (RingReply α))
    (b : CircularBuffer α) : Prop where
  capacity : roundUp2Power size = some b.maxSize
  least : size ≤ b.maxSize ∧ ∀ k, size ≤ 2 ^ k → b.maxSize ≤ 2 ^ k
  readPos : b.readPos < b.maxSize
  writePos : b.writePos < b.maxSize
  ordered : Machine.passed RingCall.written calls replies =
    Machine.passed RingCall.read calls replies ++ b.contents
  readable : (Machine.passed RingCall.read calls replies).length + b.readableSize =
    (Machine.passed RingCall.written calls replies).length
  inside : ∀ segments, b.Used segments → ∀ segment ∈ segments, segment.1 + segment.2 ≤ b.maxSize
  writeable : b.writeableSize = b.maxSize - 1 - b.readableSize
  pushed : ∀ data, (b.pushData data).2 = true ↔ data.length ≤ b.writeableSize
  unread : ∀ k, Touches (b.getSpace 0) k → ¬b.Unread k

/-- A ring of at most 1 GB touches no cell outside. -/
theorem Used.inside (hbits : b.bits ≤ 30) {segments : List Segment} (h : b.Used segments) :
    ∀ segment ∈ segments, segment.1 + segment.2 ≤ b.maxSize := by
  have hsize := b.readableSize_lt
  have hmax : b.maxSize ≤ 2 ^ 30 := Nat.pow_le_pow_right Nat.two_pos hbits
  cases h with
  | push h =>
    rw [writeableSize] at h
    rw [b.pushSegments_eq_arc (by rw [writeableSize]; omega) (by omega)]
    exact fun _ hs => arc_le b.writePos_lt_maxSize (by omega) hs
  | peek hpos' h =>
    rw [b.peekSegments_eq_arc hpos' (by omega)]
    exact fun _ hs => arc_le (b.mask_lt _) (by omega) hs
  | space =>
    rw [← b.length_buffer_eq]
    exact fun _ hs => b.getSpace_le hs
  | @datum maxSize =>
    by_cases hnone : maxSize = 0 ∨ b.readableSize ≤ 0
    · rw [getDatum, if_pos hnone]
      exact fun _ hs => absurd hs List.not_mem_nil
    · rw [not_or, Nat.not_le] at hnone
      rw [b.getDatum_eq_arc (by omega) hnone.2]
      exact fun _ hs => arc_le (b.mask_lt _) (by omega) hs

/-- A ring whose size is between 2 bytes and 1 GB is a queue of bytes, in any order of calls. -/
theorem ring_fifo {size : ℕ} (hlow : 2 ≤ size) (hhigh : size ≤ 2 ^ 30) (zero : α)
    {calls : List (RingCall α)} {replies : List (RingReply α)}
    (hrun : Machine.run step (ofSize size hhigh zero) calls = some (b, replies)) :
    b.Fifo size calls replies := by
  have hbits : Nat.clog 2 size ≤ 30 := Nat.clog_le_of_le_pow hhigh
  obtain ⟨queue, hqueue, hb⟩ := Holds.run ⟨rfl, contents_new _ _ _⟩ hbits hrun
  have hordered := Machine.conserves Queue.conserves hqueue
  have hmax : b.maxSize = 2 ^ Nat.clog 2 size := congrArg _ hb.1
  rw [List.nil_append, ← hb.2] at hordered
  have hlen := congrArg List.length hordered
  rw [List.length_append, length_contents] at hlen
  have hpushed (data : List α) : (b.pushData data).2 = true ↔ data.length ≤ b.writeableSize := by
    rw [pushData]
    split_ifs with hfits
    · exact iff_of_true rfl hfits
    · exact iff_of_false not_false hfits
  exact
    { capacity := by rw [hmax, roundUp2Power_eq (by omega) (by omega)]
      least := by
        rw [hmax]
        exact ⟨Nat.le_pow_clog Nat.one_lt_two size, fun k hk =>
          Nat.pow_le_pow_right Nat.two_pos (Nat.clog_le_of_le_pow hk)⟩
      readPos := b.readPos_lt_maxSize
      writePos := b.writePos_lt_maxSize
      ordered := hordered
      readable := hlen.symm
      inside := fun _ hused => hused.inside (hb.1.le.trans hbits)
      writeable := by
        rw [writeableSize]
        omega
      pushed := hpushed
      unread := fun _ h => b.not_unread_of_touches h }

/-- Any proper calls, one after the other, return. -/
theorem exists_run_of_proper {size : ℕ} (hhigh : size ≤ 2 ^ 30) (zero : α)
    {calls : List (RingCall α)}
    (h : Transition.Allowed (fun b call => (step b call).map Prod.fst) Proper
      (ofSize size hhigh zero) calls) :
    ∃ b replies, Machine.run step (ofSize size hhigh zero) calls = some (b, replies) := by
  have hbits : Nat.clog 2 size ≤ 30 := Nat.clog_le_of_le_pow hhigh
  obtain ⟨b, replies, -, hrun, -⟩ := @Machine.exists_run_of_allowed _ _ _ _ step
    (fun b call => (step b call).map Prod.fst) (fun _ _ _ => True) Proper
    (fun b b' => b = b' ∧ ∃ queue, b.Holds (Nat.clog 2 size) queue)
    (by
      rintro b _ call ⟨rfl, queue, hb⟩ hproper
      obtain ⟨b₁, reply, hstep⟩ := exists_step_of_proper (hb.1.le.trans hbits) hproper
      obtain ⟨queue', -, hb₁⟩ := hb.step hbits hstep
      exact ⟨b₁, reply, b₁, hstep, by rw [hstep, Option.map_some], trivial, rfl, queue', hb₁⟩)
    _ _ _ ⟨rfl, _, rfl, contents_new _ _ _⟩ h
  exact ⟨b, replies, hrun⟩

/-- Bytes go in and out of four cells, round the end of the buffer. -/
def roundCalls : List (RingCall UInt8) :=
  [.fill [97, 98, 99], .skip 2 2, .pushData [100, 101], .skip 3 3, .pushData [102, 103, 104, 105],
    .peekData 1]

def roundReplies : List (RingReply UInt8) :=
  [.filled, .skipped [97, 98], .pushed true, .skipped [99, 100, 101], .pushed false, .peeked none]

theorem ring_fifo_four : ∃ b : CircularBuffer UInt8,
    Machine.run step (ofSize 3 (by decide) 0) roundCalls = some (b, roundReplies) ∧
      b.Fifo 3 roundCalls roundReplies := by
  have hrun : Machine.run step (ofSize 3 (by decide) (0 : UInt8)) roundCalls =
      some (_, roundReplies) := rfl
  exact ⟨_, hrun, ring_fifo (by decide) (by decide) 0 hrun⟩

end CircularBuffer

end UhpSql
