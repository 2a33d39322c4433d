import UhpSql.Transition
import UhpSql.UnboundedBuffer

/-!
# Asynchronous buffers (`network/async_buffer.cc`)

A ring between one writer and one reader, with two unbounded buffers for what does not fit. The
reader tests the buffers it owns, and if both are empty swaps in what the writer put aside. Between
the two the writer can fill the ring, and the swap then puts later bytes before earlier ones.

`AsyncState` is the buffer with where the reader stands, all that was written and all that was
skipped. A step is `Calm` if it does not swap while both sides of the buffer hold something, and if
the ring takes no piece that goes round its end with 2 GB or more. `Inv.step` : a calm step keeps
the order. `fifo_of_calm` : so a calm run of any interleaving is first in, first out.
-/

namespace UhpSql

/-- `AsyncBuffer`. -/
structure AsyncBuffer (α : Type) where
  buffer : CircularBuffer α
  tmpBuf : UnboundedBuffer α
  backBytes : ℕ
  backBuf : UnboundedBuffer α

namespace AsyncBuffer

variable {α : Type}

/-- `AsyncBuffer(size)` for a size that is rounded up to `2 ^ bits`. -/
def new [Inhabited α] (bits : ℕ) (h : bits ≤ 63) : AsyncBuffer α where
  buffer := CircularBuffer.new bits h default
  tmpBuf := UnboundedBuffer.empty
  backBytes := 0
  backBuf := UnboundedBuffer.empty

section
variable (b : AsyncBuffer α)

/-- The test of `Write` for what does not go to the ring. -/
def spills (len : ℕ) : Prop :=
  0 < b.backBytes ∨ b.buffer.writeableSize < len

instance (len : ℕ) : Decidable (b.spills len) :=
  inferInstanceAs (Decidable (_ ∨ _))

/-- `Write`. -/
def write [Inhabited α] (data : List (List α)) : AsyncBuffer α :=
  if b.spills data.flatten.length then
    { b with
      backBuf := data.foldl (fun buf piece => buf.pushData piece) b.backBuf
      backBytes := b.backBytes + data.flatten.length }
  else { b with buffer := data.foldl (fun ring piece => (ring.pushData piece).1) b.buffer }

/-- The tests of `ProcessBuffer` on the buffers of the reader, with the data that is offered unless
both are empty. -/
def test : Option (List α) :=
  if ¬b.tmpBuf.isEmpty then some b.tmpBuf.contents
  else if ¬b.buffer.isEmpty then
    some (b.buffer.attached (b.buffer.getDatum b.buffer.readableSize 0))
  else none

/-- The rest of `ProcessBuffer` once the lock is taken, with the data that is offered. -/
def swapBack : AsyncBuffer α × List α :=
  if 0 < b.backBytes then
    ({ b with backBytes := 0, tmpBuf := b.backBuf, backBuf := b.tmpBuf }, b.backBuf.contents)
  else (b, [])

/-- `Skip`. -/
def skip (size : ℕ) : Option (AsyncBuffer α) :=
  if ¬b.tmpBuf.isEmpty then
    if h : size ≤ b.tmpBuf.readableSize then
      some { b with tmpBuf := b.tmpBuf.adjustReadPtr size h }
    else none
  else if size ≤ b.buffer.readableSize then
    some { b with buffer := b.buffer.adjustReadPtr size }
  else none

/-- All that is held, in the order in which the reader is meant to get it. -/
def contents : List α :=
  b.tmpBuf.contents ++ b.buffer.contents ++ b.backBuf.contents

/-- The data are the beginning of what `Skip` takes from. -/
def Offers (data : List α) : Prop :=
  b.tmpBuf.contents ≠ [] ∧ data = b.tmpBuf.contents ∨
    b.tmpBuf.contents = [] ∧ data <+: b.buffer.contents

theorem contents_new [Inhabited α] (bits : ℕ) (h : bits ≤ 63) :
    (new bits h : AsyncBuffer α).contents = [] := by
  rw [contents, new, UnboundedBuffer.contents_empty, CircularBuffer.contents_new]
  rfl

theorem write_of_spills [Inhabited α] {data : List (List α)} (h : b.spills data.flatten.length) :
    b.write data = { b with
      backBuf := data.foldl (fun buf piece => buf.pushData piece) b.backBuf
      backBytes := b.backBytes + data.flatten.length } :=
  if_pos h

theorem write_of_not_spills [Inhabited α] {data : List (List α)}
    (h : ¬b.spills data.flatten.length) :
    b.write data = { b with
      buffer := data.foldl (fun ring piece => (ring.pushData piece).1) b.buffer } :=
  if_neg h

variable {b}

/-- A write that spills appends to what was put aside, and to all that is held. -/
theorem contents_write_of_spills [Inhabited α] {data : List (List α)}
    (h : b.spills data.flatten.length) :
    (b.write data).contents = b.contents ++ data.flatten := by
  simp only [write_of_spills b h, contents, UnboundedBuffer.contents_pushAll, List.append_assoc]

theorem contents_buffer_write [Inhabited α] {data : List (List α)}
    (h : ¬b.spills data.flatten.length) (hround : b.buffer.Rounds data) :
    (b.write data).buffer.contents = b.buffer.contents ++ data.flatten := by
  have hsize : data.flatten.length ≤ b.buffer.writeableSize := Nat.not_lt.1 (not_or.1 h).2
  rw [write_of_not_spills b h, CircularBuffer.contents_pushAll hsize hround]

/-- A write to the ring appends to all that is held, as nothing was put aside. -/
theorem contents_write_of_not_spills [Inhabited α] {data : List (List α)}
    (h : ¬b.spills data.flatten.length) (hround : b.buffer.Rounds data)
    (hback : b.backBytes = b.backBuf.contents.length) :
    (b.write data).contents = b.contents ++ data.flatten := by
  have hzero : b.backBuf.contents = [] := by
    rw [spills, not_or, hback, Nat.not_lt, Nat.le_zero, List.length_eq_zero_iff] at h
    exact h.1
  rw [contents, contents_buffer_write h hround, write_of_not_spills b h, contents, hzero,
    List.append_nil, List.append_nil, List.append_assoc]

/-- What was offered is still offered after a write. -/
theorem Offers.write [Inhabited α] {d : List α} {pieces : List (List α)} (h : b.Offers d)
    (hround : ¬b.spills pieces.flatten.length → b.buffer.Rounds pieces) :
    (b.write pieces).Offers d := by
  by_cases hspill : b.spills pieces.flatten.length
  · rw [write_of_spills b hspill]
    exact h
  · have htmp : (b.write pieces).tmpBuf = b.tmpBuf := by rw [write_of_not_spills b hspill]
    rw [Offers, htmp, contents_buffer_write hspill (hround hspill)]
    exact h.imp_right fun ⟨hnil, hd⟩ => ⟨hnil, hd.trans (List.prefix_append ..)⟩

theorem test_eq_some {d : List α} (h : b.test = some d) : b.Offers d := by
  unfold test at h
  split_ifs at h with htmp hring
  · rw [← Option.some.inj h, CircularBuffer.attached_getDatum]
    exact Or.inr ⟨(UnboundedBuffer.isEmpty_iff_contents _).1 htmp, List.prefix_rfl⟩
  · exact Or.inl ⟨mt (UnboundedBuffer.isEmpty_iff_contents _).2 htmp, (Option.some.inj h).symm⟩

theorem test_eq_none (h : b.test = none) : b.tmpBuf.contents = [] ∧ b.buffer.contents = [] := by
  unfold test at h
  split_ifs at h with htmp hring
  exact ⟨(UnboundedBuffer.isEmpty_iff_contents _).1 htmp,
    (CircularBuffer.isEmpty_iff_contents _).1 hring⟩

/-- Skipping no more than was offered passes its check, and takes the front of all that is held. -/
theorem Offers.skip {d : List α} (h : b.Offers d) {size : ℕ} (hsize : size ≤ d.length) :
    ∃ b', b.skip size = some b' ∧ d.take size ++ b'.contents = b.contents ∧
      b'.backBytes = b.backBytes ∧ b'.backBuf = b.backBuf := by
  unfold AsyncBuffer.skip
  rcases h with ⟨htmp, rfl⟩ | ⟨htmp, rest, hrest⟩
  · have hempty : ¬b.tmpBuf.isEmpty := mt (UnboundedBuffer.isEmpty_iff_contents _).1 htmp
    rw [UnboundedBuffer.length_contents] at hsize
    rw [if_pos hempty, dif_pos hsize]
    refine ⟨_, rfl, ?_, rfl, rfl⟩
    rw [contents, contents, UnboundedBuffer.contents_adjustReadPtr, ← List.append_assoc,
      ← List.append_assoc, List.take_append_drop]
  · have hempty : b.tmpBuf.isEmpty := (UnboundedBuffer.isEmpty_iff_contents _).2 htmp
    have hread : size ≤ b.buffer.readableSize := by
      rw [← CircularBuffer.length_contents, ← hrest, List.length_append]
      omega
    rw [if_neg (not_not.2 hempty), if_pos hread]
    refine ⟨_, rfl, ?_, rfl, rfl⟩
    have htake : d.take size = b.buffer.contents.take size := by
      rw [← hrest, List.take_append_of_le_length hsize]
    rw [contents, contents, CircularBuffer.contents_adjustReadPtr _ hread, htmp, List.nil_append,
      List.nil_append, htake, ← List.append_assoc, List.take_append_drop]

end

/-! ## The ring keeps its size -/

theorem bits_write [Inhabited α] (b : AsyncBuffer α) (data : List (List α)) :
    (b.write data).buffer.bits = b.buffer.bits := by
  by_cases h : b.spills data.flatten.length
  · rw [write_of_spills b h]
  · rw [write_of_not_spills b h]
    exact CircularBuffer.bits_pushAll data b.buffer

theorem buffer_swapBack (b : AsyncBuffer α) : b.swapBack.1.buffer = b.buffer := by
  unfold swapBack
  split_ifs <;> rfl

theorem bits_skip {b b' : AsyncBuffer α} {size : ℕ} (h : b.skip size = some b') :
    b'.buffer.bits = b.buffer.bits := by
  unfold AsyncBuffer.skip at h
  split_ifs at h <;> exact Option.some.inj h ▸ rfl

end AsyncBuffer

/-! ## The two parties -/

/-- Where the reader stands : between two turns, between the two steps of `ProcessBuffer`, or with
data that it was offered. -/
inductive Reader (α : Type) where
  | idle
  | tested
  | offered (data : List α)

/-- A step of the writer or of the reader. The reader does not wait for the lock (`busy`). -/
inductive AsyncAction (α : Type) where
  | write (data : List (List α))
  | test
  | swap
  | busy
  | skip (size : ℕ)

/-- The buffer, where its reader stands, and what was written and skipped so far. -/
structure AsyncState (α : Type) where
  buffer : AsyncBuffer α
  reader : Reader α
  written : List α
  skipped : List α

namespace AsyncState

variable {α : Type}

/-- A new buffer. -/
def new [Inhabited α] (bits : ℕ) (h : bits ≤ 63) : AsyncState α :=
  ⟨AsyncBuffer.new bits h, .idle, [], []⟩

/-- A step, if its party can take it. -/
def step [Inhabited α] (s : AsyncState α) : AsyncAction α → Option (AsyncState α)
  | .write data =>
    some { s with buffer := s.buffer.write data, written := s.written ++ data.flatten }
  | .test =>
    match s.reader with
    | .idle =>
      match s.buffer.test with
      | some data => some { s with reader := .offered data }
      | none => some { s with reader := .tested }
    | _ => none
  | .swap =>
    match s.reader with
    | .tested =>
      some { s with buffer := s.buffer.swapBack.1, reader := .offered s.buffer.swapBack.2 }
    | _ => none
  | .busy =>
    match s.reader with
    | .tested => some { s with reader := .offered [] }
    | _ => none
  | .skip size =>
    match s.reader with
    | .offered data =>
      if size ≤ data.length then
        (s.buffer.skip size).map fun buffer =>
          { s with buffer := buffer, reader := .idle, skipped := s.skipped ++ data.take size }
      else none
    | _ => none

/-- What was skipped is the beginning of what was written, and the rest is still held. -/
structure Fifo (s : AsyncState α) : Prop where
  skipped : s.skipped <+: s.written
  held : (s.written.drop s.skipped.length).Perm s.buffer.contents

/-- A swap finds nothing in the ring or nothing put aside, and the ring takes no piece that goes
round its end with 2 GB or more. -/
def Calm (s : AsyncState α) : AsyncAction α → Prop
  | .write data => ¬s.buffer.spills data.flatten.length → s.buffer.buffer.Rounds data
  | .swap => s.buffer.buffer.isEmpty ∨ s.buffer.backBytes = 0
  | _ => True

/-- What holds between two steps : all that was written was skipped or is held in order, the writer
knows how much it put aside, and a reader that was offered data finds them where `Skip` looks. -/
structure Inv (s : AsyncState α) : Prop where
  order : s.skipped ++ s.buffer.contents = s.written
  backBytes : s.buffer.backBytes = s.buffer.backBuf.contents.length
  tested : s.reader = .tested → s.buffer.tmpBuf.contents = []
  offered : ∀ data, s.reader = .offered data → s.buffer.Offers data

theorem Inv.fifo {s : AsyncState α} (h : s.Inv) : s.Fifo := by
  refine ⟨⟨_, h.order⟩, ?_⟩
  rw [← h.order, List.drop_left]

theorem inv_new [Inhabited α] (bits : ℕ) (h : bits ≤ 63) :
    (new bits h : AsyncState α).Inv where
  order := AsyncBuffer.contents_new bits h
  backBytes := rfl
  tested h := by cases h
  offered _ h := by cases h

/-! ## What a calm step keeps -/

section
variable {s : AsyncState α}

theorem Inv.write [Inhabited α] (h : s.Inv) {data : List (List α)}
    (hcalm : s.Calm (.write data)) :
    Inv { s with buffer := s.buffer.write data, written := s.written ++ data.flatten } := by
  have htmp : (s.buffer.write data).tmpBuf = s.buffer.tmpBuf := by
    by_cases hspill : s.buffer.spills data.flatten.length
    · rw [AsyncBuffer.write_of_spills _ hspill]
    · rw [AsyncBuffer.write_of_not_spills _ hspill]
  refine ⟨?_, ?_, fun hr => ?_, fun d hd => (h.offered d hd).write hcalm⟩
  · rw [← h.order, List.append_assoc]
    congr 1
    by_cases hspill : s.buffer.spills data.flatten.length
    · exact AsyncBuffer.contents_write_of_spills hspill
    · exact AsyncBuffer.contents_write_of_not_spills hspill (hcalm hspill) h.backBytes
  · by_cases hspill : s.buffer.spills data.flatten.length
    · simp only [AsyncBuffer.write_of_spills _ hspill, UnboundedBuffer.contents_pushAll,
        List.length_append, h.backBytes]
    · simp only [AsyncBuffer.write_of_not_spills _ hspill, h.backBytes]
  · rw [htmp]
    exact h.tested hr

theorem Inv.test (h : s.Inv) {d : List α} (hd : s.buffer.test = some d) :
    Inv { s with reader := .offered d } where
  order := h.order
  backBytes := h.backBytes
  tested hr := by cases hr
  offered data hdata := by
    obtain rfl := Reader.offered.inj hdata
    exact AsyncBuffer.test_eq_some hd

theorem Inv.testNone (h : s.Inv) (hnone : s.buffer.test = none) :
    Inv { s with reader := .tested } where
  order := h.order
  backBytes := h.backBytes
  tested _ := (AsyncBuffer.test_eq_none hnone).1
  offered _ hdata := by cases hdata

/-- Nothing is offered, and nothing was held when the reader looked. -/
theorem Inv.offeredNil (h : s.Inv) (hr : s.reader = .tested) :
    Inv { s with reader := .offered [] } where
  order := h.order
  backBytes := h.backBytes
  tested hr' := by cases hr'
  offered data hdata := by
    obtain rfl := Reader.offered.inj hdata
    exact Or.inr ⟨h.tested hr, List.nil_prefix⟩

/-- The swap keeps the order as long as the writer left the ring alone. -/
theorem Inv.swap (h : s.Inv) (hr : s.reader = .tested) (hcalm : s.Calm .swap) :
    Inv { s with buffer := s.buffer.swapBack.1, reader := .offered s.buffer.swapBack.2 } := by
  have htmp := h.tested hr
  by_cases hback : 0 < s.buffer.backBytes
  · have hring : s.buffer.buffer.contents = [] :=
      (CircularBuffer.isEmpty_iff_contents _).1 (hcalm.resolve_right hback.ne')
    have hne : s.buffer.backBuf.contents ≠ [] := by
      rw [h.backBytes] at hback
      exact List.length_pos_iff.1 hback
    rw [AsyncBuffer.swapBack, if_pos hback]
    refine ⟨?_, ?_, fun hr' => (by cases hr'), fun d hd => ?_⟩
    · rw [← h.order]
      simp only [AsyncBuffer.contents, htmp, hring, List.append_nil, List.nil_append]
    · rw [htmp, List.length_nil]
    · obtain rfl := Reader.offered.inj hd
      exact Or.inl ⟨hne, rfl⟩
  · rw [AsyncBuffer.swapBack, if_neg hback]
    exact h.offeredNil hr

theorem Inv.skip (h : s.Inv) {d : List α} (hr : s.reader = .offered d) {size : ℕ}
    (hsize : size ≤ d.length) {buffer : AsyncBuffer α} (hskip : s.buffer.skip size = some buffer) :
    Inv { s with buffer := buffer, reader := .idle, skipped := s.skipped ++ d.take size } := by
  obtain ⟨b, hb, hcontents, hbytes, hback⟩ := (h.offered d hr).skip hsize
  obtain rfl := Option.some.inj (hskip.symm.trans hb)
  refine ⟨?_, ?_, fun hr' => (by cases hr'), fun d hd => (by cases hd)⟩
  · rw [← h.order, ← hcontents, List.append_assoc]
  · rw [hbytes, hback, h.backBytes]

/-- A write is calm on a ring of at most 2 GB. -/
theorem calm_write (hbits : s.buffer.buffer.bits ≤ 31) (data : List (List α)) :
    s.Calm (.write data) := fun h =>
  CircularBuffer.rounds_of_bits_le (Nat.not_lt.1 (not_or.1 h).2) hbits

/-- A calm step keeps the order. -/
theorem Inv.step [Inhabited α] {s' : AsyncState α} {a : AsyncAction α} (h : s.Inv)
    (hcalm : s.Calm a) (hstep : s.step a = some s') : s'.Inv := by
  unfold AsyncState.step at hstep
  cases a with
  | write data =>
    rw [← Option.some.inj hstep]
    exact h.write hcalm
  | test =>
    cases hr : s.reader with
    | idle =>
      simp only [hr] at hstep
      cases htest : s.buffer.test with
      | none =>
        simp only [htest] at hstep
        rw [← Option.some.inj hstep]
        exact h.testNone htest
      | some d =>
        simp only [htest] at hstep
        rw [← Option.some.inj hstep]
        exact h.test htest
    | tested | offered => simp only [hr, reduceCtorEq] at hstep
  | swap =>
    cases hr : s.reader with
    | tested =>
      simp only [hr] at hstep
      rw [← Option.some.inj hstep]
      exact h.swap hr hcalm
    | idle | offered => simp only [hr, reduceCtorEq] at hstep
  | busy =>
    cases hr : s.reader with
    | tested =>
      simp only [hr] at hstep
      rw [← Option.some.inj hstep]
      exact h.offeredNil hr
    | idle | offered => simp only [hr, reduceCtorEq] at hstep
  | skip size =>
    cases hr : s.reader with
    | offered d =>
      simp only [hr] at hstep
      split_ifs at hstep with hsize
      obtain ⟨buffer, hskip, rfl⟩ := Option.map_eq_some_iff.1 hstep
      exact h.skip hr hsize hskip
    | idle | tested => simp only [hr, reduceCtorEq] at hstep

end

/-! ## Runs -/

/-- Every state of a calm run of a new buffer is first in, first out. -/
theorem fifo_of_calm [Inhabited α] {bits : ℕ} (h : bits ≤ 63) {actions : List (AsyncAction α)}
    (hcalm : Transition.Allowed step Calm (new bits h) actions) {pre : List (AsyncAction α)}
    (hpre : pre <+: actions) {s : AsyncState α}
    (hrun : Transition.run step (new bits h) pre = some s) : s.Fifo :=
  (Transition.invariant_of_run Inv.step (inv_new bits h) (hcalm.of_prefix hpre) hrun).fifo

/-- After a swap that is not calm the next byte that is skipped is out of order, unless the ring
begins with the same one as what was put aside. -/
theorem not_fifo_of_swap [Inhabited α] {s s' : AsyncState α} (h : s.Inv)
    (hr : s.reader = .tested) {x y : α}
    {xs ys : List α} (hring : s.buffer.buffer.contents = x :: xs)
    (hback : s.buffer.backBuf.contents = y :: ys) (hne : x ≠ y)
    (hrun : Transition.run step s [.swap, .skip 1] = some s') : ¬s'.Fifo := by
  have hpos : 0 < s.buffer.backBytes := by
    rw [h.backBytes, hback]
    exact Nat.succ_pos _
  obtain ⟨t, hswap, hrun⟩ := Transition.run_cons_eq_some.1 hrun
  simp only [step, hr, AsyncBuffer.swapBack, if_pos hpos] at hswap
  obtain rfl := Option.some.inj hswap
  obtain ⟨t, hskip, hrun⟩ := Transition.run_cons_eq_some.1 hrun
  obtain rfl := Option.some.inj hrun
  simp only [step, hback, List.length_cons] at hskip
  rw [if_pos (Nat.le_add_left 1 _)] at hskip
  obtain ⟨b, -, rfl⟩ := Option.map_eq_some_iff.1 hskip
  rintro ⟨hskipped, -⟩
  -- What was held begins with the ring, and what was skipped with the bytes put aside.
  have horder : s.written = s.skipped ++ x :: (xs ++ y :: ys) := by
    rw [← h.order, AsyncBuffer.contents, h.tested hr, hring, hback, List.nil_append,
      List.cons_append]
  rw [horder] at hskipped
  have hfirst := (List.prefix_append_right_inj _).1 hskipped
  exact hne (List.cons_prefix_cons.1 hfirst).1.symm

/-- A ring of two cells, and a write put aside that the reader gets after the ring. -/
theorem fifo_of_calm_spilled : ∃ s : AsyncState UInt8,
    Transition.run step (new 1 (by decide))
      [.write [[97]], .test, .write [[98]], .skip 1, .test, .swap, .skip 1] = some s ∧
      s.skipped = [97, 98] ∧ s.Fifo := by
  have hcalm : Transition.Allowed step Calm (new 1 (by decide) : AsyncState UInt8)
      [.write [[97]], .test, .write [[98]], .skip 1, .test, .swap, .skip 1] := by
    refine .cons (calm_write (by decide) _) rfl ?_
    refine .cons trivial rfl ?_
    refine .cons (calm_write (by decide) _) rfl ?_
    refine .cons trivial rfl ?_
    refine .cons trivial rfl ?_
    refine .cons (Or.inl rfl) rfl ?_
    exact .cons trivial rfl trivial
  exact ⟨_, rfl, rfl, fifo_of_calm (by decide) hcalm List.prefix_rfl rfl⟩

/-- A writer that fills the ring between the two steps of `ProcessBuffer` is overtaken by its own
next write. -/
theorem not_fifo_filled : ∃ s : AsyncState UInt8,
    Transition.run step (new 1 (by decide))
      [.test, .write [[97]], .write [[98]], .swap, .skip 1] = some s ∧ ¬s.Fifo := by
  refine ⟨_, rfl, fun h => ?_⟩
  have hpre : [98] <+: [(97 : UInt8), 98] := h.skipped
  exact absurd hpre (by decide)

end AsyncState

end UhpSql
