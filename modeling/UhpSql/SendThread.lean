import UhpSql.AsyncBuffer

/-!
# The send thread (`network/net_thread_pool.cc`, `network/stream_socket.cc`)

The loop of the thread as one of its sockets sees it. A round sends what the socket has to send,
drops the socket if it is invalid, and polls unless every socket of the thread sent all it had. A
socket that can be written to again gets `OnWritable`, for which `StreamSocket` has a method of
another name : the one that is called sends nothing and fails.

`unharmed_iff` : a socket whose `writev` does nothing worse than to take part of the bytes is left
alone, and offered again what it did not take, exactly in the runs in which no poll finds it
writable.
-/

namespace UhpSql

/-! ## Sending -/

/-- What `writev` returns, and whether `errno` stands for `EAGAIN` or `EWOULDBLOCK` then. -/
structure Writev where
  ret : ℤ
  again : Bool

namespace Writev

/-- `static_cast<int>` of what it returned. -/
def int (w : Writev) : ℤ :=
  (Int32.ofInt w.ret).toInt

/-- `static_cast<size_t>` of the `int`. -/
def size (w : Writev) : ℕ :=
  (w.int % 2 ^ 64).toNat

/-- The socket takes no bytes for now. -/
def Blocked (w : Writev) : Prop :=
  w.int = -1 ∧ w.again

/-- Fewer bytes were taken than there were. -/
def Short (w : Writev) (total : ℕ) : Prop :=
  w.Blocked ∨ 0 < w.int ∧ w.size < total

/-- What was returned is an error to an `int`. -/
def Fails (w : Writev) : Prop :=
  ¬w.Blocked ∧ w.int < 0

instance (w : Writev) : Decidable w.Blocked :=
  inferInstanceAs (Decidable (_ ∧ _))

/-- `writev` took at least one of the bytes, or none for now. -/
def Accepts (w : Writev) (total : ℕ) : Prop :=
  1 ≤ w.ret ∧ w.ret ≤ total ∨ w.ret = -1 ∧ w.again

/-- `_Send` with `total` bytes, of which there is one at least : `epollOut_` and the result. -/
def send (w : Writev) (epollOut : Bool) (total : ℕ) : Bool × ℤ :=
  if w.Blocked then (true, 0)
  else if 0 < w.int ∧ w.size < total then (true, w.int)
  else if w.size = total then (false, w.int)
  else (epollOut, w.int)

theorem int_le {w : Writev} (h : 0 ≤ w.ret) : w.int ≤ w.ret := by
  rw [int, Int32.toInt_ofInt, Int.bmod_def, Int32.size]
  split <;> omega

theorem blocked_of_ret {w : Writev} (h : w.ret = -1 ∧ w.again) : w.Blocked := by
  refine ⟨?_, h.2⟩
  rw [int, h.1]
  rfl

theorem snd_send_nonneg_iff (w : Writev) (epollOut : Bool) (total : ℕ) :
    0 ≤ (w.send epollOut total).2 ↔ ¬w.Fails := by
  rw [Fails, not_and, Int.not_lt]
  unfold send
  split_ifs with hb
  · exact iff_of_true (Int.le_refl 0) fun h => absurd hb h
  · exact ⟨fun h _ => h, fun h => h hb⟩
  · exact ⟨fun h _ => h, fun h => h hb⟩
  · exact ⟨fun h _ => h, fun h => h hb⟩

/-- `epollOut_` is set by what was not taken. -/
theorem fst_send_iff (w : Writev) (total : ℕ) : (w.send false total).1 ↔ w.Short total := by
  rw [Short]
  unfold send
  split_ifs with hb hshort
  · exact iff_of_true rfl (Or.inl hb)
  · exact iff_of_true rfl (Or.inr hshort)
  · exact iff_of_false not_false (not_or.2 ⟨hb, hshort⟩)
  · exact iff_of_false not_false (not_or.2 ⟨hb, hshort⟩)

/-- No more is skipped than was offered. -/
theorem Accepts.toNat_le {w : Writev} {total : ℕ} (h : w.Accepts total) (epollOut : Bool) :
    (w.send epollOut total).2.toNat ≤ total := by
  rcases h with ⟨hpos, hle⟩ | hagain
  · have hint := int_le (show 0 ≤ w.ret by omega)
    unfold send
    split_ifs <;> simp only <;> omega
  · rw [send, if_pos (blocked_of_ret hagain)]
    exact Nat.zero_le _

end Writev

/-- Packets that other threads send, one `Write` each. -/
def AsyncBuffer.sendPackets (b : AsyncBuffer UInt8) (packets : List (List UInt8)) :
    AsyncBuffer UInt8 :=
  packets.foldl (fun b data => if data = [] then b else b.write [data]) b

/-- `ProcessBuffer`, with the packets that come between its two steps, and whether they keep the
lock. -/
def AsyncBuffer.processBuffer (b : AsyncBuffer UInt8) (between : List (List UInt8))
    (locked : Bool) : AsyncBuffer UInt8 × List UInt8 :=
  match b.test with
  | some data => (b.sendPackets between, data)
  | none => if locked then (b.sendPackets between, []) else (b.sendPackets between).swapBack

namespace AsyncBuffer

variable {b : AsyncBuffer UInt8}

theorem sendPackets_cons (b : AsyncBuffer UInt8) (data : List UInt8) (packets : List (List UInt8)) :
    b.sendPackets (data :: packets) =
      (if data = [] then b else b.write [data]).sendPackets packets :=
  rfl

theorem bits_sendPackets (packets : List (List UInt8)) (b : AsyncBuffer UInt8) :
    (b.sendPackets packets).buffer.bits = b.buffer.bits := by
  induction packets generalizing b with
  | nil => rfl
  | cons data packets ih =>
    rw [sendPackets_cons, ih]
    split_ifs
    · rfl
    · exact bits_write b _

/-- Packets leave what was offered where it is. -/
theorem Offers.sendPackets {d : List UInt8} (packets : List (List UInt8)) (h : b.Offers d)
    (hbits : b.buffer.bits ≤ 31) : (b.sendPackets packets).Offers d := by
  induction packets generalizing b with
  | nil => exact h
  | cons data packets ih =>
    rw [sendPackets_cons]
    split_ifs
    · exact ih h hbits
    · refine ih (h.write fun hfit => ?_) (by rwa [bits_write])
      exact CircularBuffer.rounds_of_bits_le (Nat.not_lt.1 (not_or.1 hfit).2) hbits

theorem bits_processBuffer (b : AsyncBuffer UInt8) (between : List (List UInt8)) (locked : Bool) :
    (b.processBuffer between locked).1.buffer.bits = b.buffer.bits := by
  unfold processBuffer
  split
  · exact bits_sendPackets between b
  · split_ifs
    · exact bits_sendPackets between b
    · rw [buffer_swapBack, bits_sendPackets]

/-- What `ProcessBuffer` offers can be skipped, whatever comes in between. -/
theorem offers_processBuffer (hbits : b.buffer.bits ≤ 31) (between : List (List UInt8))
    (locked : Bool) :
    (b.processBuffer between locked).1.Offers (b.processBuffer between locked).2 := by
  unfold processBuffer
  cases htest : b.test with
  | some data => exact (test_eq_some htest).sendPackets between hbits
  | none =>
    have hnil : (b.sendPackets between).Offers [] :=
      Offers.sendPackets between (Or.inr ⟨(test_eq_none htest).1, List.nil_prefix⟩) hbits
    simp only
    split_ifs
    · exact hnil
    · unfold swapBack
      split_ifs
      · by_cases hback : (b.sendPackets between).backBuf.contents = []
        · rw [hback]
          exact Or.inr ⟨hback, List.nil_prefix⟩
        · exact Or.inl ⟨hback, rfl⟩
      · exact hnil

end AsyncBuffer

/-- What a round of the loop meets : the packets that other threads send before `Send`, inside of
`ProcessBuffer`, until the bytes that were taken are skipped and before the poll, what `writev`
returns, how many other sockets have `epollOut_` set, and whether a poll finds the socket
writable. -/
structure Round where
  before : List (List UInt8)
  between : List (List UInt8)
  during : List (List UInt8)
  after : List (List UInt8)
  locked : Bool
  writev : Writev
  others : ℕ
  writable : Bool

/-- The part of a `StreamSocket` that sends, with its interest in write events. -/
structure SendSocket where
  sendBuf : AsyncBuffer UInt8
  epollOut : Bool
  invalid : Bool
  interest : Bool

namespace SendSocket

/-- A new socket in the thread. Its buffer is a ring of 128 KB. -/
def new : SendSocket where
  sendBuf := AsyncBuffer.new 17 (by decide)
  epollOut := false
  invalid := false
  interest := true

section
variable (sock : SendSocket)

def sendPackets (packets : List (List UInt8)) : SendSocket :=
  { sock with sendBuf := sock.sendBuf.sendPackets packets }

/-- The bytes that `Send` offers to `writev`. -/
def offers (r : Round) : List UInt8 :=
  if sock.epollOut then [] else (sock.sendBuf.processBuffer r.between r.locked).2

/-- `Send`. -/
def send (r : Round) : Option (SendSocket × Bool) :=
  if sock.epollOut then some ((sock.sendPackets r.between).sendPackets r.during, true)
  else
    let processed := sock.sendBuf.processBuffer r.between r.locked
    let sendBuf := processed.1.sendPackets r.during
    if processed.2 = [] then some ({ sock with sendBuf := sendBuf }, true)
    else
      let sent := r.writev.send sock.epollOut processed.2.length
      (if 0 < sent.2 then sendBuf.skip sent.2.toNat else some sendBuf).map fun sendBuf =>
        ({ sock with
            sendBuf := sendBuf
            epollOut := sent.1
            interest := sock.interest || sent.1 }, decide (0 ≤ sent.2))

/-- `Socket::OnWritable`, which `StreamSocket` leaves as it is : the result, and the bytes that it
offers to `writev`. What `StreamSocket` has for it, `OnWriteable`, is called by nothing. -/
def onWritable : Bool × List UInt8 :=
  (false, [])

/-- `OnError`. -/
def onError : SendSocket :=
  { sock with invalid := true }

end

end SendSocket

/-! ## The loop -/

/-- What can be seen of the socket : a call of `OnError`, and a write event with the bytes that are
pending and those that its handler offers to `writev`. -/
inductive SendEvent where
  | error
  | ready (pending offered : List UInt8)

/-- The socket is not harmed by the event : it is no error, and what is pending is offered again
from the first byte that was not taken. -/
def SendEvent.Harmless : SendEvent → Prop
  | .error => False
  | .ready pending offered => pending ≠ [] → offered ≠ [] ∧ offered <+: pending

/-- The socket in the thread, whether it is still one of the tasks, the bytes that were sent to it,
how many of them `writev` took, and what was seen of it. -/
structure SendState where
  sock : SendSocket
  task : Bool
  written : List UInt8
  accepted : ℕ
  log : List SendEvent

namespace SendState

def new : SendState :=
  ⟨SendSocket.new, true, [], 0, []⟩

section
variable (s : SendState)

/-- Packets from other threads. -/
def sendPackets (packets : List (List UInt8)) : SendState :=
  { s with sock := s.sock.sendPackets packets, written := s.written ++ packets.flatten }

/-- `OnError`, if a call before it failed. -/
def check (ok : Bool) : SendState :=
  if ok then s else { s with sock := s.sock.onError, log := s.log ++ [.error] }

/-- `DisableWrite`, `RemoveSocket` and `erase` of a socket that is invalid. -/
def drop : SendState :=
  if s.sock.invalid then { s with sock := { s.sock with interest := false }, task := false } else s

/-- The body of the loop over the tasks. -/
def pass (r : Round) : Option SendState :=
  (s.sock.send r).map fun sent =>
    drop <| check { s with
      sock := sent.1
      written := s.written ++ (r.between ++ r.during).flatten
      accepted := s.accepted + if s.sock.offers r = [] then 0 else r.writev.ret.toNat } sent.2

/-- The poll and the body of the loop over its events. -/
def poll (r : Round) : SendState :=
  if r.others + s.sock.epollOut.toNat = 0 then s
  else if r.writable ∧ s.sock.interest then
    let ready := SendSocket.onWritable
    check { s with log := s.log ++ [.ready (s.written.drop s.accepted) ready.2] } ready.1
  else s

/-- A round of the loop. -/
def step (r : Round) : Option SendState :=
  if s.task then
    ((s.sendPackets r.before).pass r).map fun s' =>
      if s'.task then (s'.sendPackets r.after).poll r else s'.sendPackets r.after
  else some (((s.sendPackets r.before).sendPackets (r.between ++ r.during)).sendPackets r.after)

end

/-- All that was seen of the socket is harmless. -/
def Unharmed (s : SendState) : Prop :=
  ∀ e ∈ s.log, e.Harmless

/-- The bytes that the socket offers to `writev` in the round. -/
def offers (s : SendState) (r : Round) : List UInt8 :=
  (s.sendPackets r.before).sock.offers r

/-- A `writev` of the round does nothing worse than to take part of the bytes. -/
def Accepting (s : SendState) (r : Round) : Prop :=
  s.offers r ≠ [] → r.writev.Accepts (s.offers r).length

/-- No poll of the round finds the socket writable : there is none while every socket of the thread
sent all it had. What `writev` took is no negative `int`. -/
structure Smooth (s : SendState) (r : Round) : Prop where
  signed : s.offers r ≠ [] → ¬r.writev.Fails
  unready : r.writable → r.others = 0 ∧ ¬s.sock.epollOut ∧
    (s.offers r ≠ [] → ¬r.writev.Short (s.offers r).length)

end SendState

/-! ## One round -/

/-- What `writev` took can be skipped, whatever other threads send meanwhile. -/
theorem AsyncBuffer.exists_skip_sent {b : AsyncBuffer UInt8} (hbits : b.buffer.bits = 17)
    {r : Round} (hacc : r.writev.Accepts (b.processBuffer r.between r.locked).2.length)
    (epollOut : Bool) :
    ∃ b', (if 0 < (r.writev.send epollOut (b.processBuffer r.between r.locked).2.length).2 then
        ((b.processBuffer r.between r.locked).1.sendPackets r.during).skip
          (r.writev.send epollOut (b.processBuffer r.between r.locked).2.length).2.toNat
      else some ((b.processBuffer r.between r.locked).1.sendPackets r.during)) = some b' ∧
        b'.buffer.bits = 17 := by
  have hprocessed : (b.processBuffer r.between r.locked).1.buffer.bits = 17 := by
    rw [bits_processBuffer, hbits]
  have hoffers := (offers_processBuffer (by omega : b.buffer.bits ≤ 31) r.between
    r.locked).sendPackets r.during (by omega)
  have hduring := (bits_sendPackets r.during _).trans hprocessed
  split_ifs
  · obtain ⟨b', hb', -⟩ := hoffers.skip (hacc.toNat_le epollOut)
    exact ⟨b', hb', (bits_skip hb').trans hduring⟩
  · exact ⟨_, rfl, hduring⟩

/-- What `Send` does to a socket with a ring of 128 KB. -/
theorem SendSocket.send_spec {sock : SendSocket} {r : Round}
    (hbits : sock.sendBuf.buffer.bits = 17)
    (hacc : sock.offers r ≠ [] → r.writev.Accepts (sock.offers r).length) :
    ∃ sock' ok, sock.send r = some (sock', ok) ∧ sock'.sendBuf.buffer.bits = 17 ∧
      sock'.invalid = sock.invalid ∧ (sock.interest → sock'.interest) ∧
      (ok ↔ (sock.offers r ≠ [] → ¬r.writev.Fails)) ∧
      (sock'.epollOut ↔
        sock.epollOut ∨ sock.offers r ≠ [] ∧ r.writev.Short (sock.offers r).length) := by
  unfold send
  unfold offers at hacc ⊢
  by_cases hout : sock.epollOut
  · rw [if_pos hout, if_pos hout]
    refine ⟨_, _, rfl, ?_, rfl, id, ?_, ?_⟩
    · exact (AsyncBuffer.bits_sendPackets _ _).trans
        ((AsyncBuffer.bits_sendPackets _ _).trans hbits)
    · exact iff_of_true rfl fun h => absurd rfl h
    · exact iff_of_true hout (Or.inl hout)
  rw [if_neg hout] at hacc
  rw [if_neg hout, if_neg hout]
  simp only
  by_cases hnil : (sock.sendBuf.processBuffer r.between r.locked).2 = []
  · rw [if_pos hnil]
    refine ⟨_, _, rfl, ?_, rfl, id, ?_, ?_⟩
    · exact (AsyncBuffer.bits_sendPackets _ _).trans
        ((AsyncBuffer.bits_processBuffer _ _ _).trans hbits)
    · exact iff_of_true rfl fun h => absurd hnil h
    · exact iff_of_false hout (not_or.2 ⟨hout, fun h => h.1 hnil⟩)
  obtain ⟨buf, hbuf, hbits'⟩ :=
    AsyncBuffer.exists_skip_sent hbits (hacc hnil) sock.epollOut
  rw [if_neg hnil, hbuf]
  refine ⟨_, _, rfl, hbits', rfl, fun h => ?_, ?_, ?_⟩
  · exact Bool.or_eq_true_iff.2 (Or.inl h)
  · rw [decide_eq_true_iff, Writev.snd_send_nonneg_iff]
    exact ⟨fun h _ => h, fun h => h hnil⟩
  · rw [Bool.eq_false_iff.2 hout, Writev.fst_send_iff]
    exact ⟨fun h => Or.inr ⟨hnil, h⟩, fun h => (h.resolve_left Bool.false_ne_true).2⟩

namespace SendState

section
variable {s s' : SendState} {r : Round}

/-- What holds in every round : the ring keeps its size, and a socket that was not harmed is still
one of the tasks, valid and waiting for write events. -/
structure Inv (s : SendState) : Prop where
  bits : s.sock.sendBuf.buffer.bits = 17
  task : s.Unharmed → s.task
  valid : s.Unharmed → ¬s.sock.invalid
  interest : s.Unharmed → s.sock.interest

theorem inv_new : new.Inv where
  bits := rfl
  task _ := rfl
  valid _ := Bool.false_ne_true
  interest _ := rfl

theorem bits_sendPackets (s : SendState) (packets : List (List UInt8)) :
    (s.sendPackets packets).sock.sendBuf.buffer.bits = s.sock.sendBuf.buffer.bits :=
  AsyncBuffer.bits_sendPackets packets _

/-- Packets that come in change only what is there to send. -/
theorem Inv.sendPackets (h : s.Inv) (packets : List (List UInt8)) :
    (s.sendPackets packets).Inv where
  bits := (bits_sendPackets s packets).trans h.bits
  task := h.task
  valid := h.valid
  interest := h.interest

theorem unharmed_append {l : List SendEvent} {e : SendEvent} (h : s'.log = l ++ [e])
    (hl : l = s.log) : s'.Unharmed ↔ s.Unharmed ∧ e.Harmless := by
  rw [Unharmed, Unharmed, h, hl]
  refine ⟨fun hs => ⟨fun e' he' => hs e' (List.mem_append_left _ he'), ?_⟩, fun hs e' he' => ?_⟩
  · exact hs e (List.mem_append_right _ (List.mem_singleton_self e))
  · rcases List.mem_append.1 he' with he' | he'
    · exact hs.1 e' he'
    · rw [List.mem_singleton.1 he']
      exact hs.2

/-- A call that fails is seen. -/
theorem unharmed_check (s : SendState) (ok : Bool) : (s.check ok).Unharmed ↔ s.Unharmed ∧ ok := by
  cases ok with
  | true => exact (and_iff_left rfl).symm
  | false =>
    rw [unharmed_append rfl rfl]
    exact and_congr_right fun _ => iff_of_false id Bool.false_ne_true

theorem Inv.check (h : s.Inv) (ok : Bool) : (s.check ok).Inv := by
  cases ok with
  | true => exact h
  | false =>
    have hharmed : ¬(s.check false).Unharmed := by
      rw [unharmed_check]
      exact fun hs => Bool.false_ne_true hs.2
    exact ⟨h.bits, fun hs => absurd hs hharmed, fun hs => absurd hs hharmed,
      fun hs => absurd hs hharmed⟩

theorem unharmed_drop (s : SendState) : s.drop.Unharmed ↔ s.Unharmed := by
  unfold drop
  split_ifs <;> rfl

/-- Only a socket that was harmed is dropped. -/
theorem Inv.drop (h : s.Inv) : s.drop.Inv := by
  by_cases hinvalid : s.sock.invalid
  · have hharmed : ¬s.drop.Unharmed := fun hs => h.valid ((unharmed_drop s).1 hs) hinvalid
    refine ⟨?_, fun hs => absurd hs hharmed, fun hs => absurd hs hharmed,
      fun hs => absurd hs hharmed⟩
    rw [SendState.drop, if_pos hinvalid]
    exact h.bits
  · rwa [SendState.drop, if_neg hinvalid]

theorem epollOut_drop_check (s : SendState) (ok : Bool) :
    (s.check ok).drop.sock.epollOut = s.sock.epollOut := by
  unfold drop check SendSocket.onError
  split_ifs <;> rfl

/-- The turn of the socket in the loop over the tasks. -/
theorem exists_pass (h : s.Inv)
    (hacc : s.sock.offers r ≠ [] → r.writev.Accepts (s.sock.offers r).length) :
    ∃ s', s.pass r = some s' ∧ s'.Inv ∧
      (s'.Unharmed ↔ s.Unharmed ∧ (s.sock.offers r ≠ [] → ¬r.writev.Fails)) ∧
      (s'.sock.epollOut ↔ s.sock.epollOut ∨
        s.sock.offers r ≠ [] ∧ r.writev.Short (s.sock.offers r).length) := by
  obtain ⟨sock, ok, hsend, hbits, hinvalid, hinterest, hok, hout⟩ :=
    SendSocket.send_spec h.bits hacc
  have hsent : Inv { s with
      sock := sock
      written := s.written ++ (r.between ++ r.during).flatten
      accepted := s.accepted + if s.sock.offers r = [] then 0 else r.writev.ret.toNat } := by
    refine ⟨hbits, h.task, fun hs => ?_, fun hs => hinterest (h.interest hs)⟩
    rw [hinvalid]
    exact h.valid hs
  refine ⟨_, by rw [pass, hsend, Option.map_some], (hsent.check ok).drop, ?_, ?_⟩
  · rw [unharmed_drop, unharmed_check, hok]
    rfl
  · rw [epollOut_drop_check]
    exact hout

/-- A write event harms the socket. -/
theorem unharmed_poll (h : s.Inv) (r : Round) : (s.poll r).Unharmed ↔
    s.Unharmed ∧ (r.writable → r.others = 0 ∧ ¬s.sock.epollOut) := by
  have hpoll : r.others + s.sock.epollOut.toNat = 0 ↔ r.others = 0 ∧ ¬s.sock.epollOut := by
    rw [Nat.add_eq_zero_iff, Bool.toNat_eq_zero, Bool.not_eq_true]
  unfold poll
  by_cases hout : r.others + s.sock.epollOut.toNat = 0
  · rw [if_pos hout]
    exact (and_iff_left fun _ => hpoll.1 hout).symm
  rw [if_neg hout]
  by_cases hready : r.writable ∧ s.sock.interest
  · rw [if_pos hready, unharmed_check]
    exact iff_of_false (fun hs => Bool.false_ne_true hs.2)
      fun hs => hout (hpoll.2 (hs.2 hready.1))
  · rw [if_neg hready]
    exact ⟨fun hs => ⟨hs, fun hw => absurd ⟨hw, h.interest hs⟩ hready⟩, fun hs => hs.1⟩

theorem Inv.poll (h : s.Inv) (r : Round) : (s.poll r).Inv := by
  unfold SendState.poll
  split_ifs
  · exact h
  · have hready : Inv { s with
        log := s.log ++ [.ready (s.written.drop s.accepted) SendSocket.onWritable.2] } := by
      refine ⟨h.bits, fun hs => h.task ?_, fun hs => h.valid ?_, fun hs => h.interest ?_⟩
      all_goals exact ((unharmed_append rfl rfl).1 hs).1
    exact hready.check _
  · exact h

/-- A round harms the socket unless it is smooth. -/
theorem exists_step (h : s.Inv) (hacc : s.Accepting r) :
    ∃ s', s.step r = some s' ∧ s'.Inv ∧ (s'.Unharmed ↔ s.Unharmed ∧ s.Smooth r) := by
  unfold step
  by_cases htask : s.task
  · obtain ⟨s', hpass, hinv, hunharmed, hout⟩ := exists_pass (h.sendPackets r.before) hacc
    rw [if_pos htask, hpass, Option.map_some]
    refine ⟨_, rfl, ?_, ?_⟩
    · split_ifs
      · exact (hinv.sendPackets r.after).poll r
      · exact hinv.sendPackets r.after
    have hsmooth : s'.Unharmed ∧ (r.writable → r.others = 0 ∧ ¬s'.sock.epollOut) ↔
        s.Unharmed ∧ s.Smooth r := by
      rw [hunharmed, hout, not_or, not_and]
      exact ⟨fun hs => ⟨hs.1.1, hs.1.2, hs.2⟩, fun hs => ⟨⟨hs.1, hs.2.signed⟩, hs.2.unready⟩⟩
    rw [← hsmooth]
    split_ifs with htask'
    · exact unharmed_poll (hinv.sendPackets r.after) r
    · have hharmed : ¬s'.Unharmed := mt hinv.task htask'
      exact iff_of_false hharmed fun hs => hharmed hs.1
  · have hharmed : ¬s.Unharmed := mt h.task htask
    rw [if_neg htask]
    exact ⟨_, rfl, ((h.sendPackets _).sendPackets _).sendPackets _,
      iff_of_false hharmed fun hs => hharmed hs.1⟩

end

/-! ## Runs -/

/-- In a run in which `writev` does nothing worse than to take part of the bytes, the socket is
harmed unless every round is smooth. -/
theorem unharmed_iff {rounds : List Round}
    (hacc : Transition.Allowed step Accepting new rounds) :
    ∃ s, Transition.run step new rounds = some s ∧
      (s.Unharmed ↔ Transition.Allowed step Smooth new rounds) := by
  obtain ⟨s, hrun, -, hs⟩ := Transition.exists_run_iff exists_step inv_new hacc
  exact ⟨s, hrun, hs.trans (and_iff_right fun e he => absurd he List.not_mem_nil)⟩

/-- A packet of two bytes of which `writev` takes one, with or without a write event after it. -/
def shortRound (writable : Bool) : Round where
  before := [[97, 98]]
  between := []
  during := []
  after := []
  locked := false
  writev := ⟨1, false⟩
  others := 0
  writable := writable

theorem accepting_shortRound (writable : Bool) :
    Transition.Allowed step Accepting new [shortRound writable] := by
  refine ⟨fun _ => Or.inl ⟨Int.le_refl 1, ?_⟩, fun _ _ => trivial⟩
  cases writable <;> decide

/-- A socket that is left waiting. -/
theorem unharmed_iff_waiting : ∃ s, Transition.run step new [shortRound false] = some s ∧
    (s.Unharmed ↔ Transition.Allowed step Smooth new [shortRound false]) :=
  unharmed_iff (accepting_shortRound false)

/-- The first write event makes the socket invalid. -/
theorem not_unharmed_ready : Transition.Allowed step Accepting new [shortRound true] ∧
    ∃ s, Transition.run step new [shortRound true] = some s ∧ ¬s.Unharmed := by
  refine ⟨accepting_shortRound true, _, rfl, fun h => ?_⟩
  exact h .error (List.mem_append_right _ (List.mem_singleton_self _))

end SendState

end UhpSql
