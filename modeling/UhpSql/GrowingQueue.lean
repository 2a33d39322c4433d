import Mathlib.Logic.Equiv.Basic
import UhpSql.Machine
import UhpSql.BufferMemory

/-!
# Unbounded buffers as queues (`network/unbounded_buffer.cc`)

Calls on some buffers, in any order. `BufferOp.onQueue` is what a call is for : the same call on a
queue of bytes. `growing_fifo` : as long as sizes and offsets add up to less than `2 ^ 62`, the
buffers answer what the queues answer and hold what the queues hold, no copy leaves a vector and no
assertion fails.
-/

namespace UhpSql

/-- A call on one buffer. -/
inductive BufferOp (α : Type)
  | pushData (data : List α)
  | peekData (nSize : ℕ)
  | peekDataAt (nSize offset : ℕ)
  | adjustReadPtr (nBytes : ℕ)
  | clear
  | shrink (tight : Bool)

/-- What a call returns. -/
inductive BufferReply (α : Type)
  | size (nBytes : ℕ)
  | bytes (data : List α)
  | nothing

/-- A call on one of some buffers, or on two of them. -/
inductive BufferCall (ι α : Type)
  | on (i : ι) (op : BufferOp α)
  | swap (i j : ι)

variable {ι α σ : Type}

/-- The sizes and offsets of a call. -/
def BufferOp.total : BufferOp α → ℕ
  | .pushData data => data.length
  | .peekData nSize => nSize
  | .peekDataAt nSize offset => nSize + offset
  | .adjustReadPtr nBytes => nBytes
  | _ => 0

def BufferCall.total : BufferCall ι α → ℕ
  | .on _ op => op.total
  | .swap _ _ => 0

/-- The sizes and offsets of all calls. -/
def totalOf (calls : List (BufferCall ι α)) : ℕ :=
  (calls.map BufferCall.total).sum

/-- A call on some buffers, where `step` is a call on one. An answer of `none` is a failure. -/
def family [DecidableEq ι] (step : σ → BufferOp α → Option (σ × Option (BufferReply α)))
    (s : ι → σ) : BufferCall ι α → Option ((ι → σ) × Option (BufferReply α))
  | .on i op => (step (s i) op).map fun (b, reply) => (Function.update s i b, reply)
  | .swap i j => some (s ∘ Equiv.swap i j, some .nothing)

theorem family_on [DecidableEq ι] {step : σ → BufferOp α → Option (σ × Option (BufferReply α))}
    {s : ι → σ} {i : ι} {op : BufferOp α} {b : σ} {reply : Option (BufferReply α)}
    (h : step (s i) op = some (b, reply)) :
    family step s (.on i op) = some (Function.update s i b, reply) := by
  rw [family, h]
  rfl

/-- The call on a queue. -/
def BufferOp.onQueue (queue : List α) : BufferOp α → Option (List α × Option (BufferReply α))
  | .pushData data => some (queue ++ data, some (.size data.length))
  | .peekData nSize => some (queue.drop nSize, some (.bytes (queue.take nSize)))
  | .peekDataAt nSize offset => some (queue, some (.bytes ((queue.drop offset).take nSize)))
  | .adjustReadPtr nBytes =>
    if nBytes ≤ queue.length then some (queue.drop nBytes, some .nothing) else none
  | .clear => some ([], some .nothing)
  | .shrink _ => some (queue, some .nothing)

namespace UnboundedBuffer

namespace Fields

/-- `UnboundedBuffer()`. -/
def new : Fields α :=
  ⟨[], 0, 0⟩

/-- What can be read, in order. -/
def contents (f : Fields α) : List α :=
  (f.buffer.drop f.readPos).take f.readableSize

/-- A call, if it does not fail. -/
def call [Inhabited α] (f : Fields α) : BufferOp α → Option (Fields α × BufferReply α)
  | .pushData data => (f.pushData data).map fun (f, nBytes) => (f, .size nBytes)
  | .peekData nSize => (f.peekData nSize).map fun (f, data) => (f, .bytes data)
  | .peekDataAt nSize offset => (f.peekDataAt nSize offset).map fun data => (f, .bytes data)
  | .adjustReadPtr nBytes => some (f.adjustReadPtr nBytes, .nothing)
  | .clear => some (f.clear, .nothing)
  | .shrink tight => (f.shrink tight).map fun f => (f, .nothing)

/-- `AdjustReadPtr` is called for what can be read. -/
def Allows (f : Fields α) : BufferOp α → Prop
  | .adjustReadPtr nBytes => nBytes ≤ f.readableSize
  | _ => True

instance (f : Fields α) : DecidablePred f.Allows
  | .adjustReadPtr nBytes => inferInstanceAs (Decidable (nBytes ≤ f.readableSize))
  | .pushData _ | .peekData _ | .peekDataAt _ _ | .clear | .shrink _ => isTrue trivial

def step [Inhabited α] (f : Fields α) (op : BufferOp α) :
    Option (Fields α × Option (BufferReply α)) :=
  if f.Allows op then
    match f.call op with
    | some (f, reply) => some (f, some reply)
    | none => some (f, none)
  else none

theorem step_of_call [Inhabited α] {f f' : Fields α} {op : BufferOp α} {reply : BufferReply α}
    (hop : f.Allows op) (hcall : f.call op = some (f', reply)) :
    f.step op = some (f', some reply) := by
  rw [step, if_pos hop, hcall]

end Fields

/-! ## Simulation -/

variable {b : UnboundedBuffer α} {f : Fields α} {n : ℕ}

theorem Within.mono {m : ℕ} (h : b.Within n) (hm : m ≤ n) : b.Within m :=
  ⟨h.length_le, Nat.lt_of_le_of_lt (Nat.add_le_add_left hm _) h.lt⟩

theorem Within.of_contents {m : ℕ} (hlen : b.buffer.length ≤ 3 * 2 ^ 61)
    (hm : b.contents.length + m < 2 ^ 62) : b.Within m :=
  ⟨hlen, by rwa [← b.length_contents]⟩

variable [Inhabited α]

/-- A call on the fields does what it does on the queue, and stays within the bounds. -/
theorem call_fields {op : BufferOp α} (h : b.Within (op.total + n)) (hop : b.fields.Allows op) :
    ∃ (b' : UnboundedBuffer α) (reply : BufferReply α),
      b.fields.call op = some (b'.fields, reply) ∧
        op.onQueue b.contents = some (b'.contents, some reply) ∧ b'.Within n := by
  have hlt := h.lt
  have hlen := h.length_le
  have hsame : b.Within n := h.mono (Nat.le_add_left ..)
  have hcontents := b.length_contents
  cases op with
  | pushData data =>
    rw [BufferOp.total] at h hlt
    have hdata : b.Within data.length := h.mono (Nat.le_add_right ..)
    refine ⟨b.pushData data, .size data.length, ?_, ?_, ?_⟩
    · rw [Fields.call, pushData_fields hdata]
      rfl
    · rw [contents_pushData]
      rfl
    · refine Within.of_contents (length_pushData_le hdata) ?_
      rw [contents_pushData, List.length_append]
      omega
  | peekData nSize =>
    rw [BufferOp.total] at hlt
    have htaken : (b.contents.take nSize).length ≤ b.readableSize :=
      hcontents ▸ List.length_take_le' ..
    have hdrop : b.contents.drop (b.contents.take nSize).length = b.contents.drop nSize := by
      rw [List.length_take, List.drop_eq_drop_iff, Nat.min_assoc, Nat.min_self]
    refine ⟨b.adjustReadPtr _ htaken, .bytes (b.contents.take nSize), ?_, ?_, ?_⟩
    · rw [Fields.call, Fields.peekData, peekDataAt_fields hlen (by omega), Option.map_some,
        List.drop_zero, adjustReadPtr_fields hlen htaken]
      rfl
    · rw [contents_adjustReadPtr, hdrop]
      rfl
    · refine Within.of_contents hlen ?_
      rw [contents_adjustReadPtr, List.length_drop]
      omega
  | peekDataAt nSize offset =>
    rw [BufferOp.total] at hlt
    refine ⟨b, .bytes ((b.contents.drop offset).take nSize), ?_, rfl, hsame⟩
    rw [Fields.call, peekDataAt_fields hlen (by omega)]
    rfl
  | adjustReadPtr nBytes =>
    rw [Fields.Allows, readableSize_fields hlen] at hop
    refine ⟨b.adjustReadPtr nBytes hop, .nothing, ?_, ?_, ?_⟩
    · rw [Fields.call, adjustReadPtr_fields hlen hop]
    · rw [BufferOp.onQueue, if_pos (hcontents ▸ hop), contents_adjustReadPtr]
    · refine Within.of_contents hlen ?_
      rw [contents_adjustReadPtr, List.length_drop]
      omega
  | clear =>
    refine ⟨b.clear, .nothing, rfl, rfl, Within.of_contents hlen ?_⟩
    rw [contents_clear, List.length_nil]
    omega
  | shrink tight =>
    refine ⟨b.shrink tight, .nothing, ?_, ?_, ?_⟩
    · rw [Fields.call, b.shrink_fields hlen]
      rfl
    · rw [contents_shrink]
      rfl
    · refine Within.of_contents ((b.length_shrink_le tight).trans hlen) ?_
      rw [contents_shrink]
      omega

/-- `n` more bytes are within the bounds of each buffer, and it holds what its queue holds. -/
def Holds (n : ℕ) (s : ι → Fields α) (queues : ι → List α) : Prop :=
  ∀ i, ∃ b : UnboundedBuffer α, s i = b.fields ∧ b.contents = queues i ∧ b.Within n

variable [DecidableEq ι] {s s' : ι → Fields α} {queues : ι → List α}

/-- A call on the buffers is the call on the queues. -/
theorem Holds.step {call : BufferCall ι α} {reply : Option (BufferReply α)}
    (h : Holds (call.total + n) s queues) (hstep : family Fields.step s call = some (s', reply)) :
    ∃ queues', family BufferOp.onQueue queues call = some (queues', reply) ∧
      Holds n s' queues' := by
  cases call with
  | on i op =>
    obtain ⟨b, hb, hqueue, hwithin⟩ := h i
    obtain ⟨⟨f, reply'⟩, hf, hs'⟩ := Option.map_eq_some_iff.1 hstep
    obtain ⟨rfl, rfl⟩ := Prod.mk.inj hs'
    rw [hb] at hf
    have hop : b.fields.Allows op := by
      rw [Fields.step] at hf
      split_ifs at hf with hop
      exact hop
    obtain ⟨b', reply', hcall, honqueue, hwithin'⟩ := call_fields hwithin hop
    rw [Fields.step_of_call hop hcall] at hf
    obtain ⟨rfl, rfl⟩ := Prod.mk.inj (Option.some.inj hf)
    refine ⟨Function.update queues i b'.contents, ?_, fun j => ?_⟩
    · exact family_on (hqueue ▸ honqueue)
    · by_cases hj : j = i
      · rw [hj, Function.update_self, Function.update_self]
        exact ⟨b', rfl, rfl, hwithin'⟩
      · rw [Function.update_of_ne hj, Function.update_of_ne hj]
        obtain ⟨c, hc, hqueue, hwithin⟩ := h j
        exact ⟨c, hc, hqueue, hwithin.mono (Nat.le_add_left ..)⟩
  | swap i j =>
    obtain ⟨rfl, rfl⟩ := Prod.mk.inj (Option.some.inj hstep)
    refine ⟨_, rfl, fun k => ?_⟩
    obtain ⟨b, hb, hqueue, hwithin⟩ := h (Equiv.swap i j k)
    exact ⟨b, hb, hqueue, hwithin.mono (Nat.le_add_left ..)⟩

/-- A run of the buffers is one of the queues, with the same answers. -/
theorem Holds.run {calls : List (BufferCall ι α)} {replies : List (Option (BufferReply α))}
    (h : Holds (totalOf calls + n) s queues)
    (hrun : Machine.run (family Fields.step) s calls = some (s', replies)) :
    ∃ queues', Machine.run (family BufferOp.onQueue) queues calls = some (queues', replies) ∧
      Holds n s' queues' := by
  have hrefines : ∃ queues', Machine.run (family BufferOp.onQueue) queues calls =
      some (queues', replies) ∧ Holds (totalOf ([] : List (BufferCall ι α)) + n) s' queues' := by
    refine Machine.refines_before (R := fun rest => Holds (totalOf rest + n)) ?_ h hrun
    intro s s' queues call rest reply h hstep
    rw [totalOf, List.map_cons, List.sum_cons, Nat.add_assoc] at h
    exact h.step hstep
  rwa [totalOf, List.map_nil, List.sum_nil, Nat.zero_add] at hrefines

/-! ## Any order of calls -/

omit [Inhabited α] [DecidableEq ι] in
theorem holds_new (hn : n < 2 ^ 62) :
    Holds n (fun _ : ι => (Fields.new : Fields α)) fun _ => [] :=
  fun _ => ⟨empty, rfl, rfl, Within.of_contents (Nat.zero_le _) ((Nat.zero_add n).trans_lt hn)⟩

omit [Inhabited α] [DecidableEq ι] in
theorem reply_ne_none_of_onQueue {op : BufferOp α} {queue queue' : List α}
    {reply : Option (BufferReply α)} (h : op.onQueue queue = some (queue', reply)) :
    reply ≠ none := by
  cases op with
  | adjustReadPtr nBytes =>
    rw [BufferOp.onQueue] at h
    split_ifs at h
    obtain ⟨-, rfl⟩ := Prod.mk.inj (Option.some.inj h)
    exact Option.some_ne_none _
  | _ =>
    obtain ⟨-, rfl⟩ := Prod.mk.inj (Option.some.inj h)
    exact Option.some_ne_none _

omit [Inhabited α] in
/-- A queue answers every call. -/
theorem reply_ne_none_of_family {call : BufferCall ι α} {queues' : ι → List α}
    {reply : Option (BufferReply α)}
    (h : family BufferOp.onQueue queues call = some (queues', reply)) : reply ≠ none := by
  cases call with
  | on i op =>
    obtain ⟨r, hr, h⟩ := Option.map_eq_some_iff.1 h
    obtain ⟨-, rfl⟩ := Prod.mk.inj h
    exact reply_ne_none_of_onQueue hr
  | swap i j =>
    obtain ⟨-, rfl⟩ := Prod.mk.inj (Option.some.inj h)
    exact Option.some_ne_none _

/-- What is claimed of buffers after calls and their answers. -/
structure Fifo (calls : List (BufferCall ι α)) (replies : List (Option (BufferReply α)))
    (s : ι → Fields α) : Prop where
  queue : Machine.run (family BufferOp.onQueue) (fun _ => []) calls =
    some (fun i => (s i).contents, replies)
  answers : none ∉ replies
  ordered : ∀ i, (s i).readPos ≤ (s i).writePos ∧ (s i).writePos ≤ (s i).buffer.length
  assures : ∀ i nSize, totalOf calls + nSize < 2 ^ 62 →
    ∃ f, (s i).assureSpace nSize = some f ∧ nSize ≤ f.writeableSize

/-- Unbounded buffers are queues of bytes, in any order of calls. -/
theorem growing_fifo {calls : List (BufferCall ι α)} {replies : List (Option (BufferReply α))}
    (htotal : totalOf calls < 2 ^ 62)
    (hrun : Machine.run (family Fields.step) (fun _ => Fields.new) calls = some (s, replies)) :
    Fifo calls replies s := by
  have hholds (nSize : ℕ) (hn : totalOf calls + nSize < 2 ^ 62) := (holds_new hn).run hrun
  obtain ⟨queues, hqueues, hs⟩ := hholds 0 htotal
  have hcontents : (fun i => (s i).contents) = queues := by
    ext1 i
    obtain ⟨b, hb, hqueue, hwithin⟩ := hs i
    rw [hb, Fields.contents, readableSize_fields hwithin.length_le]
    exact hqueue
  exact
    { queue := hcontents ▸ hqueues
      answers := fun hnone => Machine.answers_of_run reply_ne_none_of_family hqueues none hnone rfl
      ordered := fun i => by
        obtain ⟨b, hb, -, -⟩ := hs i
        rw [hb]
        exact ⟨b.readPos_le, b.writePos_le⟩
      assures := fun i nSize hn => by
        obtain ⟨_, -, hs⟩ := hholds nSize hn
        obtain ⟨b, hb, -, hwithin⟩ := hs i
        refine ⟨_, hb ▸ assureSpace_fields hwithin, ?_⟩
        rw [writeableSize_fields hwithin.length_assureSpace_le]
        exact b.le_writeableSize_assureSpace nSize }

/-- Two bytes are pushed to one buffer, which is exchanged with another one, and read there. -/
theorem growing_fifo_swap : ∃ s : Bool → Fields UInt8,
    Machine.run (family Fields.step) (fun _ => Fields.new)
        [.on true (.pushData [97, 98]), .swap true false, .on false (.peekData 2)] =
      some (s, [some (.size 2), some .nothing, some (.bytes [97, 98])]) ∧
      Fifo [.on true (.pushData [97, 98]), .swap true false, .on false (.peekData 2)]
        [some (.size 2), some .nothing, some (.bytes [97, 98])] s := by
  have hwithin : (empty : UnboundedBuffer UInt8).Within 2 := ⟨by decide, by decide⟩
  have hpush : (Fields.new : Fields UInt8).call (.pushData [97, 98]) =
      some ((empty.pushData [97, 98]).fields, .size 2) := by
    rw [Fields.call, show (Fields.new : Fields UInt8) = empty.fields from rfl,
      pushData_fields hwithin]
    rfl
  have hpeek : (empty.pushData [(97 : UInt8), 98]).fields.call (.peekData 2) =
      some ((empty.pushData [97, 98]).fields.adjustReadPtr 2, .bytes [97, 98]) := by
    rw [Fields.call, Fields.peekData, peekDataAt_fields (length_pushData_le hwithin) (by decide),
      contents_pushData]
    rfl
  have hpushed := @Fields.step_of_call UInt8 _ _ _ (.pushData [97, 98]) _ trivial hpush
  have hpeeked := @Fields.step_of_call UInt8 _ _ _ (.peekData 2) _ trivial hpeek
  have hswap (f : Fields UInt8) :
      (Function.update (fun _ => Fields.new) true f ∘ Equiv.swap true false) false = f :=
    rfl
  rw [← hswap (empty.pushData _).fields] at hpeeked
  have hrun : Machine.run (family Fields.step) (fun _ : Bool => (Fields.new : Fields UInt8))
      [.on true (.pushData [97, 98]), .swap true false, .on false (.peekData 2)] =
      some (_, [some (.size 2), some .nothing, some (.bytes [97, 98])]) :=
    Machine.run_cons_eq_some.2 ⟨_, _, _, family_on hpushed,
      Machine.run_cons_eq_some.2 ⟨_, _, _, rfl,
        Machine.run_cons_eq_some.2 ⟨_, _, _, family_on hpeeked, rfl, rfl⟩, rfl⟩, rfl⟩
  exact ⟨_, hrun, growing_fifo (by decide) hrun⟩

end UnboundedBuffer

end UhpSql
