import UhpSql.RingOffset
import UhpSql.RingQueue
import UhpSql.Transition

/-!
# The receive buffer between two threads (`network/stream_socket.cc`)

The receiving thread reads from the socket into the ring (`Recv`) while the main thread parses what
is in it (`DoMsgParse`). They share the two positions of the ring, and each moves one of them. Here
every function that loads the position which the other thread moves is a step of its own, and a run
is any order of the steps. `GetDatum` loads the write position twice in its step. What it returns is
the same wherever the writer has got to meanwhile, as all of the bytes it is asked for were there
before (`getDatum_eq_arc`).

`handover_of_run` : what is handed to `_HandlePacket` is what was received, in order and without
gaps, and `readv` never writes to a cell that is being parsed.
-/

namespace UhpSql

open CircularBuffer

namespace CircularBuffer

/-! ## Steps on the ring -/

section
variable {α : Type} (b : CircularBuffer α)

theorem readableSize_adjustReadPtr {size : ℕ} (h : size ≤ b.readableSize) :
    (b.adjustReadPtr size).readableSize = b.readableSize - size := by
  rw [← length_contents, contents_adjustReadPtr b h, List.length_drop, length_contents]

theorem writeableSize_adjustReadPtr {size : ℕ} (h : size ≤ b.readableSize) :
    b.writeableSize ≤ (b.adjustReadPtr size).writeableSize := by
  have hread := b.readableSize_adjustReadPtr h
  have hmax : (b.adjustReadPtr size).maxSize = b.maxSize := rfl
  rw [writeableSize, writeableSize]
  omega

/-- What lies behind the unread bytes is added to them. -/
theorem contents_adjustWritePtr {size : ℕ} (h : size ≤ b.writeableSize) :
    (b.adjustWritePtr size).contents =
      b.contents ++ gather b.buffer (arc b.maxSize b.writePos size) := by
  have hw := b.writePos_lt_maxSize
  have hsize := b.readableSize_lt
  have hread := b.readableSize_adjustWritePtr h
  rw [writeableSize] at h
  refine List.ext_getElem? fun i => ?_
  rw [getElem?_contents, hread, List.getElem?_append, length_contents, getElem?_contents,
    getElem?_gather b.length_buffer_eq hw (by omega)]
  have hbuffer : (b.adjustWritePtr size).buffer = b.buffer := rfl
  have hpos : (b.adjustWritePtr size).readPos = b.readPos := rfl
  have hmax : (b.adjustWritePtr size).maxSize = b.maxSize := rfl
  rw [hbuffer, hpos, hmax]
  by_cases hi : i < b.readableSize
  · rw [if_pos hi, if_pos hi, if_pos (by omega)]
  · have hround : (b.writePos + (i - b.readableSize)) % b.maxSize =
        (b.readPos + i) % b.maxSize := by
      rw [← readPos_add_readableSize, Nat.mod_add_mod]
      congr 1
      omega
    rw [if_neg hi, hround]
    exact if_congr (by omega) rfl rfl

/-- The unread bytes depend on their cells alone. -/
theorem contents_congr (b' : CircularBuffer α) (hbits : b'.bits = b.bits)
    (hread : b'.readPos = b.readPos) (hwrite : b'.writePos = b.writePos)
    (h : ∀ k, b.Unread k → b'.buffer[k]? = b.buffer[k]?) : b'.contents = b.contents := by
  have hmax : b'.maxSize = b.maxSize := by rw [maxSize, maxSize, hbits]
  have hsize : b'.readableSize = b.readableSize := by
    rw [readableSize_eq, readableSize_eq, hread, hwrite, hmax]
  refine List.ext_getElem? fun i => ?_
  rw [getElem?_contents, getElem?_contents, hsize, hread, hmax]
  exact if_ctx_congr Iff.rfl (fun hi => h _ ⟨i, hi, rfl⟩) fun _ => rfl

/-- A cell that is unread is not among those behind the unread bytes. -/
theorem scatter_of_unread {data : List α} {n k : ℕ} (hn : n ≤ b.writeableSize)
    (hdata : data.length ≤ n) (hk : b.Unread k) :
    (scatter (arc b.maxSize b.writePos n) data b.buffer)[k]? = b.buffer[k]? := by
  have hsize := b.readableSize_lt
  have hfree : n ≤ b.maxSize - b.readableSize - 1 := hn
  obtain ⟨i, hi, rfl⟩ := id hk
  have hround : (b.readPos + i) % b.maxSize =
      (b.writePos + (b.maxSize - b.readableSize + i)) % b.maxSize := by
    rw [← readPos_add_readableSize, Nat.mod_add_mod,
      show b.readPos + b.readableSize + (b.maxSize - b.readableSize + i) =
        b.readPos + i + b.maxSize by omega, Nat.add_mod_right]
  rw [hround, getElem?_scatter b.length_buffer_eq b.writePos_lt_maxSize (by omega) hdata (by omega),
    if_neg (by omega)]

/-- What was written is there. -/
theorem gather_scatter {buffer data : List α} {cap pos n : ℕ} (hlen : buffer.length = cap)
    (hpos : pos < cap) (hn : n ≤ cap) (hdata : data.length ≤ n) :
    gather (scatter (arc cap pos n) data buffer) (arc cap pos data.length) = data := by
  have hcells : (scatter (arc cap pos n) data buffer).length = cap := by
    rw [length_scatter _ fun segment hs => ?_, hlen]
    rw [hlen]
    exact arc_le hpos hn hs
  refine List.ext_getElem? fun i => ?_
  rw [getElem?_gather hcells hpos (by omega)]
  by_cases hi : i < data.length
  · rw [if_pos hi, getElem?_scatter hlen hpos hn hdata (by omega), if_pos hi]
  · rw [if_neg hi, List.getElem?_eq_none (by omega)]

/-- An arc that starts where the unread bytes do. -/
theorem unread_of_touches {n k : ℕ} (hn : n ≤ b.readableSize)
    (h : Touches (arc b.maxSize b.readPos n) k) : b.Unread k := by
  have hsize := b.readableSize_lt
  obtain ⟨j, hj, rfl⟩ := exists_of_touches_arc b.readPos_lt_maxSize (by omega) h
  exact ⟨j, by omega, rfl⟩

/-- An arc that starts where they end. -/
theorem not_unread_of_touches_arc {n k : ℕ} (hn : n ≤ b.writeableSize)
    (h : Touches (arc b.maxSize b.writePos n) k) : ¬b.Unread k := by
  have hfree : n ≤ b.maxSize - b.readableSize - 1 := hn
  obtain ⟨j, hj, rfl⟩ := exists_of_touches_arc b.writePos_lt_maxSize (by omega) h
  exact b.not_unread (by omega)

end

end CircularBuffer

/-- Where the receiving thread is in `Recv`. -/
inductive RecvPos
  | idle
  /-- In `GetSpace`, which found room and loads `readPos_` again. -/
  | roomy
  | space (segments : List Segment)
  /-- `readv` returned `ret`. -/
  | filled (ret : ℕ)

/-- Where the main thread is in `DoMsgParse`. -/
inductive ParsePos
  | idle
  /-- `IsEmpty` said no. -/
  | nonempty
  | sized (bytes : ℕ)
  | datum (segments : List Segment)
  /-- `_HandlePacket` returned `bodyLen`. -/
  | handled (bodyLen : ℕ)

/-- A socket between the two threads, with the bytes that `readv` returned and those that were
handed to `_HandlePacket`, call by call. -/
structure RecvState (α : Type) where
  recvBuf : CircularBuffer α
  recv : RecvPos
  parse : ParsePos
  received : List α
  packs : List (List α)

/-- The steps of the receiving thread and of the main thread, in the order in which each takes its
own. -/
inductive RecvAction (α : Type)
  | writeableSize
  | getSpace
  | readv (data : List α)
  | adjustWritePtr
  | isEmpty
  | readableSize
  | getDatum
  | handlePacket
  | adjustReadPtr

namespace RecvState

variable {α : Type}

def new (bits : ℕ) (h : bits < 31) (zero : α) : RecvState α where
  recvBuf := initCapacity bits (Nat.le_of_lt_succ h) zero
  recv := .idle
  parse := .idle
  received := []
  packs := []

section
variable (s : RecvState α)

/-- The bytes that `readv` wrote and `AdjustWritePtr` did not add yet. -/
def landed : List α :=
  match s.recv with
  | .filled ret => gather s.recvBuf.buffer (arc s.recvBuf.maxSize s.recvBuf.writePos ret)
  | _ => []

/-- The number of bytes that were handled and not skipped yet. -/
def taken : ℕ :=
  match s.parse with
  | .handled bodyLen => bodyLen
  | _ => 0

/-- The bytes that the main thread can see or has seen. -/
def published : List α :=
  s.packs.flatten ++ s.recvBuf.contents.drop s.taken

/-- The bytes at `ReadAddr` of the `AttachedBuffer`, when `_HandlePacket` is called. -/
def pack : Option (List α) :=
  match s.parse with
  | .datum segments => some (s.recvBuf.attached segments)
  | _ => none

/-- `readv` into the segments. There is no state after a write outside of the ring. -/
def readv (segments : List Segment) (data : List α) : Option (RecvState α) :=
  if h : data.length ≤ space segments ∧
      ∀ segment ∈ segments, segment.1 + segment.2 ≤ s.recvBuf.buffer.length then
    some { s with
      recvBuf := { s.recvBuf with
        buffer := scatter segments data s.recvBuf.buffer
        length_buffer := by rw [length_scatter _ h.2, s.recvBuf.length_buffer] }
      recv := if data = [] then .idle else .filled data.length
      received := s.received ++ data }
  else none

/-- A step of one of the threads, if it is where it takes this step. -/
def step : RecvAction α → Option (RecvState α)
  | .writeableSize =>
    match s.recv with
    | .idle => some (if s.recvBuf.writeableSize ≤ 1 then s else { s with recv := .roomy })
    | _ => none
  | .getSpace =>
    match s.recv with
    | .roomy => some { s with recv := .space (s.recvBuf.getSpace 0) }
    | _ => none
  | .readv data =>
    match s.recv with
    | .space segments => s.readv segments data
    | _ => none
  | .adjustWritePtr =>
    match s.recv with
    | .filled ret => some { s with recvBuf := s.recvBuf.adjustWritePtr ret, recv := .idle }
    | _ => none
  | .isEmpty =>
    match s.parse with
    | .idle => some (if s.recvBuf.isEmpty then s else { s with parse := .nonempty })
    | _ => none
  | .readableSize =>
    match s.parse with
    | .nonempty => some { s with parse := .sized s.recvBuf.readableSize }
    | _ => none
  | .getDatum =>
    match s.parse with
    | .sized bytes => some { s with parse := .datum (s.recvBuf.getDatum bytes 0) }
    | _ => none
  | .handlePacket =>
    match s.pack with
    | some pack => some { s with parse := .handled pack.length, packs := s.packs ++ [pack] }
    | none => none
  | .adjustReadPtr =>
    match s.parse with
    | .handled bodyLen => some { s with recvBuf := s.recvBuf.adjustReadPtr bodyLen, parse := .idle }
    | _ => none

/-- What is handed over : the bytes that were received, in order, up to what is still in the ring
or on its way into it. What `readv` writes to and what is parsed lie in the ring and apart. -/
structure Handover (s : RecvState α) : Prop where
  handled : s.packs.flatten <+: s.received
  waiting : s.parse = .idle → s.received = s.packs.flatten ++ s.recvBuf.contents ++ s.landed
  nonempty : ∀ pack ∈ s.packs, pack ≠ []
  inside : ∀ segments, s.recv = .space segments ∨ s.parse = .datum segments →
    ∀ segment ∈ segments, segment.1 + segment.2 ≤ s.recvBuf.maxSize
  apart : ∀ segments segments', s.recv = .space segments → s.parse = .datum segments' →
    ∀ k, Touches segments k → ¬Touches segments' k

/-- What the receiving thread relies on where it is. -/
def RecvInv : Prop :=
  match s.recv with
  | .idle => True
  | .roomy => 1 < s.recvBuf.writeableSize
  | .space segments => ∃ n, n ≤ s.recvBuf.writeableSize ∧
      segments = arc s.recvBuf.maxSize s.recvBuf.writePos n
  | .filled ret => ret ≤ s.recvBuf.writeableSize

/-- What the main thread relies on where it is. -/
def ParseInv : Prop :=
  match s.parse with
  | .idle => True
  | .nonempty => 0 < s.recvBuf.readableSize
  | .sized bytes => 0 < bytes ∧ bytes ≤ s.recvBuf.readableSize
  | .datum segments => ∃ n, 0 < n ∧ n ≤ s.recvBuf.readableSize ∧
      segments = arc s.recvBuf.maxSize s.recvBuf.readPos n
  | .handled bodyLen => bodyLen ≤ s.recvBuf.readableSize

structure Inv : Prop where
  ordered : s.received = s.packs.flatten ++ (s.recvBuf.contents.drop s.taken ++ s.landed)
  nonempty : ∀ pack ∈ s.packs, pack ≠ []
  recv : s.RecvInv
  parse : s.ParseInv

end

/-! ## Each step keeps what both threads rely on -/

variable {s s' : RecvState α}

theorem inv_new (bits : ℕ) (h : bits < 31) (zero : α) : (new bits h zero).Inv where
  ordered := by
    have hempty := (isEmpty_iff_contents _).1 (isEmpty_initCapacity bits (Nat.le_of_lt_succ h) zero)
    simp only [new, hempty, taken, landed, List.drop_nil, List.flatten_nil, List.append_nil]
  nonempty _ h := absurd h List.not_mem_nil
  recv := trivial
  parse := trivial

/-- `readv` adds what it returns, and no more of it lands in the ring. -/
theorem received_readv {segments : List Segment} {data : List α}
    (h : s.readv segments data = some s') :
    s'.received = s.received ++ data ∧ s'.landed.length ≤ data.length := by
  rw [readv, Option.dite_none_right_eq_some] at h
  obtain ⟨hfits, h⟩ := h
  obtain rfl := Option.some.inj h
  refine ⟨rfl, ?_⟩
  by_cases hnil : data = []
  · simp only [landed, if_pos hnil, List.length_nil, Nat.zero_le]
  · simp only [landed, if_neg hnil]
    exact (length_gather_le _ _).trans (space_arc s.recvBuf.writePos_lt_maxSize.le).le

namespace Inv

variable (hs : s.Inv)
include hs

theorem readv {segments : List Segment} {data : List α} (hrecv : s.recv = .space segments)
    (h : s.readv segments data = some s') : s'.Inv := by
  have hinv := hs.recv
  have hordered := hs.ordered
  simp only [RecvInv, hrecv] at hinv
  simp only [landed, hrecv, List.append_nil] at hordered
  obtain ⟨n, hn, rfl⟩ := hinv
  have hw := s.recvBuf.writePos_lt_maxSize
  have hfree : n ≤ s.recvBuf.maxSize - s.recvBuf.readableSize - 1 := hn
  rw [RecvState.readv, Option.dite_none_right_eq_some] at h
  obtain ⟨⟨hdata, hinside⟩, h⟩ := h
  obtain rfl := Option.some.inj h
  rw [space_arc hw.le] at hdata
  have hcontents := s.recvBuf.contents_congr
    { s.recvBuf with
      buffer := scatter (arc s.recvBuf.maxSize s.recvBuf.writePos n) data s.recvBuf.buffer
      length_buffer := by rw [length_scatter _ hinside, s.recvBuf.length_buffer] }
    rfl rfl rfl fun k hk => s.recvBuf.scatter_of_unread hn hdata hk
  refine ⟨?_, hs.nonempty, ?_, hs.parse⟩
  · simp only [hcontents, hordered, taken, List.append_assoc, List.append_cancel_left_eq]
    by_cases hnil : data = []
    · subst hnil
      rfl
    · simp only [landed, if_neg hnil]
      exact (gather_scatter s.recvBuf.length_buffer_eq hw (by omega) hdata).symm
  · by_cases hnil : data = []
    · simp only [RecvInv, if_pos hnil]
    · simp only [RecvInv, if_neg hnil]
      exact hdata.trans hn

theorem adjustWritePtr {ret : ℕ} (hrecv : s.recv = .filled ret) :
    Inv { s with recvBuf := s.recvBuf.adjustWritePtr ret, recv := .idle } := by
  have hinv := hs.recv
  have hparse := hs.parse
  have hordered := hs.ordered
  simp only [RecvInv, hrecv] at hinv
  simp only [landed, hrecv] at hordered
  have hread := s.recvBuf.readableSize_adjustWritePtr hinv
  have htaken : s.taken ≤ s.recvBuf.readableSize := by
    rw [taken]
    cases hp : s.parse with
    | handled bodyLen =>
      simp only [ParseInv, hp] at hparse
      exact hparse
    | idle | nonempty | sized | datum => exact Nat.zero_le _
  refine ⟨?_, hs.nonempty, trivial, ?_⟩
  · simp only [landed, List.append_nil, s.recvBuf.contents_adjustWritePtr hinv]
    rw [hordered, ← List.drop_append_of_le_length (by rw [length_contents]; exact htaken)]
    rfl
  · rw [ParseInv] at hparse ⊢
    cases hp : s.parse with
    | idle => trivial
    | nonempty =>
      simp only [hp] at hparse ⊢
      omega
    | sized bytes =>
      simp only [hp] at hparse ⊢
      omega
    | datum segments =>
      simp only [hp] at hparse ⊢
      obtain ⟨n, hpos, hle, heq⟩ := hparse
      exact ⟨n, hpos, by omega, heq⟩
    | handled bodyLen =>
      simp only [hp] at hparse ⊢
      omega

theorem handlePacket {segments : List Segment} (hparse : s.parse = .datum segments) :
    Inv { s with
      parse := .handled (s.recvBuf.attached segments).length
      packs := s.packs ++ [s.recvBuf.attached segments] } := by
  have hinv := hs.parse
  have hordered := hs.ordered
  simp only [ParseInv, hparse] at hinv
  simp only [taken, hparse, List.drop_zero] at hordered
  obtain ⟨n, hpos, hle, rfl⟩ := hinv
  have hpack : s.recvBuf.attached (arc s.recvBuf.maxSize s.recvBuf.readPos n) =
      s.recvBuf.contents.take n := by
    have hgather := s.recvBuf.gather_arc (show 0 + n ≤ s.recvBuf.readableSize by omega)
    rwa [Nat.add_zero, mask_eq, Nat.mod_eq_of_lt s.recvBuf.readPos_lt_maxSize] at hgather
  have hlen : (s.recvBuf.contents.take n).length = n := by
    rw [List.length_take, length_contents, Nat.min_eq_left hle]
  rw [hpack, hlen]
  refine ⟨?_, fun pack hmem => ?_, hs.recv, hle⟩
  · simp only [taken, List.flatten_append, List.flatten_singleton, List.append_assoc]
    rw [← List.append_assoc (List.take _ _), List.take_append_drop]
    exact hordered
  · rcases List.mem_append.1 hmem with hmem | hmem
    · exact hs.nonempty pack hmem
    · rw [List.mem_singleton.1 hmem, ← List.length_pos_iff, hlen]
      exact hpos

theorem adjustReadPtr {bodyLen : ℕ} (hparse : s.parse = .handled bodyLen) :
    Inv { s with recvBuf := s.recvBuf.adjustReadPtr bodyLen, parse := .idle } := by
  have hinv := hs.parse
  have hrecv := hs.recv
  have hordered := hs.ordered
  simp only [ParseInv, hparse] at hinv
  simp only [taken, hparse] at hordered
  have hwrite := s.recvBuf.writeableSize_adjustReadPtr hinv
  refine ⟨?_, hs.nonempty, ?_, trivial⟩
  · simp only [taken, List.drop_zero, s.recvBuf.contents_adjustReadPtr hinv]
    exact hordered
  · rw [RecvInv] at hrecv ⊢
    cases hr : s.recv with
    | idle => trivial
    | roomy =>
      simp only [hr] at hrecv ⊢
      omega
    | space segments =>
      simp only [hr] at hrecv ⊢
      obtain ⟨n, hn, heq⟩ := hrecv
      exact ⟨n, by omega, heq⟩
    | filled ret =>
      simp only [hr] at hrecv ⊢
      omega

/-- Every step. -/
theorem step {action : RecvAction α} (hstep : s.step action = some s') : s'.Inv := by
  cases action with
  | writeableSize =>
    cases hr : s.recv <;> simp only [RecvState.step, hr, reduceCtorEq] at hstep
    obtain rfl := Option.some.inj hstep
    split_ifs with hfull
    · exact hs
    · have hordered := hs.ordered
      simp only [landed, hr] at hordered
      exact ⟨hordered, hs.nonempty, Nat.not_le.1 hfull, hs.parse⟩
  | getSpace =>
    cases hr : s.recv <;> simp only [RecvState.step, hr, reduceCtorEq] at hstep
    obtain rfl := Option.some.inj hstep
    have hordered := hs.ordered
    have hinv := hs.recv
    simp only [landed, hr] at hordered
    simp only [RecvInv, hr] at hinv
    refine ⟨hordered, hs.nonempty, ⟨s.recvBuf.writeableSize, Nat.le_refl _, ?_⟩, hs.parse⟩
    simp only
    rw [getSpace_eq_arc _ hinv, mask_eq, Nat.add_zero,
      Nat.mod_eq_of_lt s.recvBuf.writePos_lt_maxSize, Nat.sub_zero]
  | readv data =>
    cases hr : s.recv <;> simp only [RecvState.step, hr, reduceCtorEq] at hstep
    exact hs.readv hr hstep
  | adjustWritePtr =>
    cases hr : s.recv <;> simp only [RecvState.step, hr, reduceCtorEq] at hstep
    obtain rfl := Option.some.inj hstep
    exact hs.adjustWritePtr hr
  | isEmpty =>
    cases hp : s.parse <;> simp only [RecvState.step, hp, reduceCtorEq] at hstep
    obtain rfl := Option.some.inj hstep
    split_ifs with hempty
    · exact hs
    · have hordered := hs.ordered
      simp only [taken, hp] at hordered
      refine ⟨hordered, hs.nonempty, hs.recv, ?_⟩
      exact Nat.pos_of_ne_zero (mt s.recvBuf.isEmpty_iff.2 hempty)
  | readableSize =>
    cases hp : s.parse <;> simp only [RecvState.step, hp, reduceCtorEq] at hstep
    obtain rfl := Option.some.inj hstep
    have hordered := hs.ordered
    have hinv := hs.parse
    simp only [taken, hp] at hordered
    simp only [ParseInv, hp] at hinv
    exact ⟨hordered, hs.nonempty, hs.recv, hinv, Nat.le_refl _⟩
  | getDatum =>
    cases hp : s.parse <;> simp only [RecvState.step, hp, reduceCtorEq] at hstep
    obtain rfl := Option.some.inj hstep
    have hordered := hs.ordered
    have hinv := hs.parse
    simp only [taken, hp] at hordered
    simp only [ParseInv, hp] at hinv
    refine ⟨hordered, hs.nonempty, hs.recv, _, hinv.1, hinv.2, ?_⟩
    rw [getDatum_eq_arc _ hinv.1 (by omega), mask_eq, Nat.add_zero,
      Nat.mod_eq_of_lt s.recvBuf.readPos_lt_maxSize, Nat.sub_zero, Nat.min_eq_left hinv.2]
  | handlePacket =>
    cases hp : s.parse <;> simp only [RecvState.step, pack, hp, reduceCtorEq] at hstep
    obtain rfl := Option.some.inj hstep
    exact hs.handlePacket hp
  | adjustReadPtr =>
    cases hp : s.parse <;> simp only [RecvState.step, hp, reduceCtorEq] at hstep
    obtain rfl := Option.some.inj hstep
    exact hs.adjustReadPtr hp

/-! ## What follows in each state -/

theorem handover : s.Handover := by
  have hordered := hs.ordered
  have hrecv := hs.recv
  have hparse := hs.parse
  refine ⟨⟨_, hordered.symm⟩, fun hidle => ?_, hs.nonempty, ?_, ?_⟩
  · simp only [taken, hidle, List.drop_zero] at hordered
    rw [hordered, List.append_assoc]
  · rintro segments (hr | hp)
    · simp only [RecvInv, hr] at hrecv
      obtain ⟨n, hn, rfl⟩ := hrecv
      have hfree : n ≤ s.recvBuf.maxSize - s.recvBuf.readableSize - 1 := hn
      exact fun segment h => arc_le s.recvBuf.writePos_lt_maxSize (by omega) h
    · simp only [ParseInv, hp] at hparse
      obtain ⟨n, -, hn, rfl⟩ := hparse
      have hsize := s.recvBuf.readableSize_lt
      exact fun segment h => arc_le s.recvBuf.readPos_lt_maxSize (by omega) h
  · intro segments segments' hr hp k hk hk'
    simp only [RecvInv, hr] at hrecv
    simp only [ParseInv, hp] at hparse
    obtain ⟨n, hn, rfl⟩ := hrecv
    obtain ⟨n', -, hn', rfl⟩ := hparse
    exact s.recvBuf.not_unread_of_touches_arc hn hk (s.recvBuf.unread_of_touches hn' hk')

theorem received_eq : s.received = s.published ++ s.landed := by
  rw [hs.ordered, published, List.append_assoc]

/-- What the main thread saw stays, and only `AdjustWritePtr` adds to it. -/
theorem prefix_published {action : RecvAction α} (hstep : s.step action = some s') :
    s.published <+: s'.published := by
  have hreceived := hs.received_eq
  have hreceived' := (hs.step hstep).received_eq
  have hsame : s'.received = s.received → s'.landed = s.landed → s.published <+: s'.published := by
    intro hr hl
    rw [hr, hl, hreceived] at hreceived'
    rw [List.append_cancel_right hreceived']
  cases action with
  | writeableSize =>
    cases hr : s.recv <;> simp only [RecvState.step, hr, reduceCtorEq] at hstep
    obtain rfl := Option.some.inj hstep
    split_ifs
    · exact List.prefix_refl _
    · exact List.prefix_refl _
  | getSpace =>
    cases hr : s.recv <;> simp only [RecvState.step, hr, reduceCtorEq] at hstep
    obtain rfl := Option.some.inj hstep
    exact List.prefix_refl _
  | readv data =>
    cases hr : s.recv <;> simp only [RecvState.step, hr, reduceCtorEq] at hstep
    have hnil : s.landed = [] := by rw [landed, hr]
    obtain ⟨hgrown, hlen⟩ := received_readv hstep
    rw [hgrown, hreceived, hnil, List.append_nil] at hreceived'
    have hlength := congrArg List.length hreceived'
    rw [List.length_append, List.length_append] at hlength
    exact List.prefix_of_prefix_length_le ⟨data, hreceived'⟩ ⟨s'.landed, rfl⟩ (by omega)
  | adjustWritePtr =>
    cases hr : s.recv <;> simp only [RecvState.step, hr, reduceCtorEq] at hstep
    have hgrown : s'.received = s.received := by rw [← Option.some.inj hstep]
    have hnil : s'.landed = [] := by rw [← Option.some.inj hstep, landed]
    rw [hgrown, hreceived, hnil, List.append_nil] at hreceived'
    exact ⟨s.landed, hreceived'⟩
  | isEmpty =>
    cases hp : s.parse <;> simp only [RecvState.step, hp, reduceCtorEq] at hstep
    obtain rfl := Option.some.inj hstep
    split_ifs at hsame ⊢
    · exact List.prefix_refl _
    · exact hsame rfl rfl
  | readableSize | getDatum | adjustReadPtr =>
    cases hp : s.parse <;> simp only [RecvState.step, hp, reduceCtorEq] at hstep
    obtain rfl := Option.some.inj hstep
    exact hsame rfl rfl
  | handlePacket =>
    cases hp : s.parse <;> simp only [RecvState.step, pack, hp, reduceCtorEq] at hstep
    obtain rfl := Option.some.inj hstep
    exact hsame rfl rfl

end Inv

/-- In any order of the steps of the two threads, the bytes are handed over as they came in. -/
theorem handover_of_run {bits : ℕ} (h : bits < 31) (zero : α) (actions : List (RecvAction α)) :
    Transition.Throughout step Handover (new bits h zero) actions := by
  have hinv : Transition.Throughout step Inv (new bits h zero) actions :=
    Transition.throughout_of_step (fun hs hstep => hs.step hstep) (inv_new bits h zero)
  exact fun pre t hpre ht => (hinv pre t hpre ht).handover

/-- A second `readv` goes on while the bytes of the first one are parsed. -/
def interleaved : List (RecvAction UInt8) :=
  [.writeableSize, .getSpace, .readv [97, 98], .adjustWritePtr, .writeableSize, .isEmpty, .getSpace,
    .readableSize, .readv [99], .getDatum, .handlePacket, .adjustWritePtr, .adjustReadPtr]

theorem handover_of_run_eight : ∃ s : RecvState UInt8,
    Transition.run step (new 3 (by decide) 0) interleaved = some s ∧ s.packs = [[97, 98]] ∧
      s.recvBuf.contents = [99] ∧ s.Handover := by
  have hrun : Transition.run step (new 3 (by decide) (0 : UInt8)) interleaved = some _ := rfl
  exact ⟨_, hrun, rfl, rfl,
    handover_of_run (by decide) 0 interleaved interleaved _ (List.prefix_refl _) hrun⟩

end RecvState

end UhpSql
