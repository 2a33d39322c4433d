import UhpSql.CircularBuffer
import UhpSql.Client
import UhpSql.Session

/-!
# Independence from TCP segmentation

A connection receives chunks of bytes into a circular buffer of 64 KB and parses the buffer
after each (`run`). `run_eq_serve` : the buffer adds nothing, a chunk is handled as it comes in
and as a whole (`Conn.handle`).

`PacketWise ps chunks` is what the claim of a stream of packets `ps` is : at any moment the
packets that have come in completely have been handled, one at a time, and the bytes of the
next one wait in the buffer. `packetWise_iff` : this holds exactly for the one way of cutting
the stream into its packets.
-/

namespace UhpSql

/-! ## Sessions -/

/-- What a connection has done so far. -/
structure Conn where
  server : Server
  texts : List (List UInt8) := []
  sendBuf : List (List UInt8) := []
  handled : ℕ := 0

/-- A connection that has done nothing. -/
def Conn.new (s : Server) : Conn where
  server := s

section
variable (parse : List UInt8 → Except Str (List SQLStatement)) (env : Env) (u : ℕ → ℕ → Uninit)

/-- One call of `_HandlePacket`, and the fault it ends in, if it does. -/
def Conn.handle (c : Conn) (pack : List UInt8) : Conn × Option Fault :=
  let r := handlePacket parse env (u c.handled) c.server pack
  let texts := c.texts ++ r.text.toList
  let sendBuf := c.sendBuf ++ r.replies
  match r.result with
  | .ok s => (⟨s, texts, sendBuf, c.handled + 1⟩, none)
  | .error e => (⟨c.server, texts, sendBuf, c.handled + 1⟩, some e)

/-- Packets handled one at a time, up to the first fault. -/
def Conn.serve (c : Conn) : List (List UInt8) → Conn × Option Fault
  | [] => (c, none)
  | pack :: packs =>
    match c.handle parse env u pack with
    | (c', none) => c'.serve packs
    | (c', some e) => (c', some e)

/-! ## Sockets -/

/-- `StreamSocket`, with the session it serves. -/
structure StreamSocket where
  recvBuf : CircularBuffer UInt8
  conn : Conn

/-- The loop of `DoMsgParse`. `_HandlePacket` returns the number of bytes it was given. Every turn
takes at least a byte, so there are no more turns than bytes. -/
def StreamSocket.parseLoop : ℕ → StreamSocket → StreamSocket × Option Fault
  | 0, sock => (sock, none)
  | n + 1, sock =>
    if sock.recvBuf.isEmpty then (sock, none)
    else
      let pack := sock.recvBuf.attached (sock.recvBuf.getDatum sock.recvBuf.readableSize 0)
      match sock.conn.handle parse env u pack with
      | (c, some e) => (⟨sock.recvBuf, c⟩, some e)
      | (c, none) =>
        if 0 < pack.length then
          StreamSocket.parseLoop n ⟨sock.recvBuf.adjustReadPtr pack.length, c⟩
        else (⟨sock.recvBuf, c⟩, none)

/-- `DoMsgParse`. -/
def StreamSocket.doMsgParse (sock : StreamSocket) : StreamSocket × Option Fault :=
  sock.parseLoop parse env u sock.recvBuf.readableSize

/-- Chunks that come in one by one, each parsed before the next. -/
def StreamSocket.run (sock : StreamSocket) : List (List UInt8) → StreamSocket × Option Fault
  | [] => (sock, none)
  | chunk :: chunks =>
    match StreamSocket.doMsgParse parse env u ⟨(sock.recvBuf.recv chunk).1, sock.conn⟩ with
    | (sock', none) => sock'.run chunks
    | (sock', some e) => (sock', some e)

end

/-- A new socket, with the buffer of 64 KB that the first `Recv` makes. -/
def StreamSocket.new (s : Server) : StreamSocket where
  recvBuf := CircularBuffer.initCapacity 16 (by decide) 0
  conn := Conn.new s

/-! ## The buffer adds nothing -/

section
variable (parse : List UInt8 → Except Str (List SQLStatement)) (env : Env) (u : ℕ → ℕ → Uninit)

theorem StreamSocket.parseLoop_of_isEmpty {sock : StreamSocket} (h : sock.recvBuf.isEmpty) :
    ∀ n, sock.parseLoop parse env u n = (sock, none)
  | 0 => rfl
  | n + 1 => by rw [parseLoop, if_pos h]

/-- The first turn takes everything that is in the buffer, and there is no second one. -/
theorem StreamSocket.parseLoop_succ {sock : StreamSocket} (h : sock.recvBuf.contents ≠ []) (n : ℕ) :
    sock.parseLoop parse env u (n + 1) =
      match sock.conn.handle parse env u sock.recvBuf.contents with
      | (c, none) => (⟨sock.recvBuf.adjustReadPtr sock.recvBuf.readableSize, c⟩, none)
      | (c, some e) => (⟨sock.recvBuf, c⟩, some e) := by
  have hne : ¬sock.recvBuf.isEmpty := mt sock.recvBuf.isEmpty_iff_contents.1 h
  have hpos : 0 < sock.recvBuf.contents.length := List.length_pos_iff.2 h
  have hempty : ∀ c, parseLoop parse env u n ⟨sock.recvBuf.adjustReadPtr
      sock.recvBuf.contents.length, c⟩ = (⟨sock.recvBuf.adjustReadPtr
        sock.recvBuf.contents.length, c⟩, none) := fun c => by
    refine parseLoop_of_isEmpty parse env u ?_ n
    rw [CircularBuffer.length_contents]
    exact sock.recvBuf.isEmpty_adjustReadPtr
  rw [parseLoop, if_neg hne, CircularBuffer.attached_getDatum]
  dsimp only
  rcases sock.conn.handle parse env u sock.recvBuf.contents with ⟨c, _ | e⟩
  · dsimp only
    rw [if_pos hpos, hempty, CircularBuffer.length_contents]
  · rfl

/-- Everything that is in the buffer is handled at once. -/
theorem StreamSocket.doMsgParse_eq {sock : StreamSocket} (h : sock.recvBuf.contents ≠ []) :
    sock.doMsgParse parse env u =
      match sock.conn.handle parse env u sock.recvBuf.contents with
      | (c, none) => (⟨sock.recvBuf.adjustReadPtr sock.recvBuf.readableSize, c⟩, none)
      | (c, some e) => (⟨sock.recvBuf, c⟩, some e) := by
  have hpos : 0 < sock.recvBuf.readableSize := by
    rw [← CircularBuffer.length_contents]
    exact List.length_pos_iff.2 h
  obtain ⟨n, hn⟩ := Nat.exists_eq_add_one.2 hpos
  rw [← parseLoop_succ parse env u h n, ← hn, doMsgParse]

/-- The chunks in which a stream of bytes may come in. None is larger than the buffer. -/
structure Cut (bs : List UInt8) (chunks : List (List UInt8)) : Prop where
  flatten : chunks.flatten = bs
  ne_nil : ∀ chunk ∈ chunks, chunk ≠ []
  length_lt : ∀ chunk ∈ chunks, chunk.length < 2 ^ 16

/-- A socket that has handled all it received. -/
structure StreamSocket.Idle (sock : StreamSocket) : Prop where
  bits : sock.recvBuf.bits = 16
  isEmpty : sock.recvBuf.isEmpty

theorem StreamSocket.idle_new (s : Server) : (StreamSocket.new s).Idle :=
  ⟨rfl, CircularBuffer.isEmpty_initCapacity 16 (by decide) 0⟩

/-- A chunk is handled as it comes in, and leaves the socket idle. -/
theorem StreamSocket.Idle.doMsgParse_recv {sock : StreamSocket} (h : sock.Idle)
    {chunk : List UInt8} (hne : chunk ≠ []) (hlen : chunk.length < 2 ^ 16) :
    ∃ recvBuf, StreamSocket.doMsgParse parse env u ⟨(sock.recvBuf.recv chunk).1, sock.conn⟩ =
        (⟨recvBuf, (sock.conn.handle parse env u chunk).1⟩,
          (sock.conn.handle parse env u chunk).2) ∧
      ((sock.conn.handle parse env u chunk).2 = none →
        ∀ c, StreamSocket.Idle ⟨recvBuf, c⟩) := by
  have hmax : sock.recvBuf.maxSize = 2 ^ 16 := by rw [CircularBuffer.maxSize, h.bits]
  have hspace := sock.recvBuf.space_of_isEmpty h.isEmpty (by omega)
  have hfits : chunk.length ≤ CircularBuffer.space (sock.recvBuf.getSpace 0) := by omega
  have hrecv := (sock.recvBuf.contents_recv hfits).1
  rw [sock.recvBuf.isEmpty_iff_contents.1 h.isEmpty, List.nil_append] at hrecv
  have hbits : (sock.recvBuf.recv chunk).1.bits = 16 := h.bits
  have hempty := (sock.recvBuf.recv chunk).1.isEmpty_adjustReadPtr
  have hne' : (sock.recvBuf.recv chunk).1.contents ≠ [] := by rwa [hrecv]
  rw [StreamSocket.doMsgParse_eq parse env u hne']
  simp only [hrecv]
  rcases sock.conn.handle parse env u chunk with ⟨c, _ | e⟩
  · exact ⟨_, rfl, fun _ _ => ⟨hbits, hempty⟩⟩
  · exact ⟨_, rfl, nofun⟩

/-- A socket serves its chunks as if they were packets. -/
theorem StreamSocket.Idle.run_eq_serve : ∀ {chunks : List (List UInt8)} {sock : StreamSocket},
    sock.Idle → (∀ chunk ∈ chunks, chunk ≠ []) → (∀ chunk ∈ chunks, chunk.length < 2 ^ 16) →
      ∃ recvBuf, sock.run parse env u chunks =
          (⟨recvBuf, (sock.conn.serve parse env u chunks).1⟩,
            (sock.conn.serve parse env u chunks).2) ∧
        ((sock.conn.serve parse env u chunks).2 = none → recvBuf.contents = [])
  | [], sock, h, _, _ =>
    ⟨sock.recvBuf, rfl, fun _ => sock.recvBuf.isEmpty_iff_contents.1 h.isEmpty⟩
  | chunk :: chunks, sock, h, hne, hlen => by
    obtain ⟨recvBuf, hparse, hidle⟩ := h.doMsgParse_recv parse env u
      (hne _ List.mem_cons_self) (hlen _ List.mem_cons_self)
    rw [run, hparse, Conn.serve]
    rcases hhandle : sock.conn.handle parse env u chunk with ⟨c, _ | e⟩
    · rw [hhandle] at hidle
      exact (hidle rfl c).run_eq_serve (fun x hx => hne x (List.mem_cons_of_mem _ hx))
        fun x hx => hlen x (List.mem_cons_of_mem _ hx)
    · exact ⟨recvBuf, rfl, nofun⟩

end

/-! ## One packet of a session -/

section
variable {parse : List UInt8 → Except Str (List SQLStatement)} {env : Env} {u : ℕ → ℕ → Uninit}

/-- What a packet that is handled without a fault adds. -/
theorem Conn.handle_eq_none {c c' : Conn} {pack : List UInt8}
    (h : c.handle parse env u pack = (c', none)) :
    let r := handlePacket parse env (u c.handled) c.server pack
    c'.texts = c.texts ++ r.text.toList ∧ c'.sendBuf = c.sendBuf ++ r.replies ∧
      r.result = .ok c'.server := by
  rw [handle] at h
  rcases hr : (handlePacket parse env (u c.handled) c.server pack).result with e | s
  · rw [hr] at h
    cases h
  · rw [hr] at h
    obtain rfl := (Prod.mk.inj h).1
    exact ⟨rfl, rfl, hr⟩

theorem Conn.serve_cons_eq_none {c : Conn} {pack : List UInt8} {packs : List (List UInt8)}
    (h : (c.serve parse env u (pack :: packs)).2 = none) :
    ∃ c', c.handle parse env u pack = (c', none) ∧
      c.serve parse env u (pack :: packs) = c'.serve parse env u packs := by
  rw [serve] at h
  rcases hhandle : c.handle parse env u pack with ⟨c', _ | e⟩
  · exact ⟨c', rfl, by rw [serve, hhandle]⟩
  · rw [hhandle] at h
    cases h

theorem Conn.serve_append {c : Conn} : ∀ {packs : List (List UInt8)} (packs' : List (List UInt8)),
    (c.serve parse env u packs).2 = none →
      c.serve parse env u (packs ++ packs') =
        (c.serve parse env u packs).1.serve parse env u packs'
  | [], _, _ => rfl
  | _ :: _, packs', h => by
    obtain ⟨c', hhandle, hserve⟩ := serve_cons_eq_none h
    rw [hserve] at h ⊢
    rw [List.cons_append, serve, hhandle, ← serve_append packs' h]

theorem Conn.serve_left_eq_none : ∀ {packs packs' : List (List UInt8)} {c : Conn},
    (c.serve parse env u (packs ++ packs')).2 = none → (c.serve parse env u packs).2 = none
  | [], _, _, _ => rfl
  | _ :: _, _, _, h => by
    rw [List.cons_append] at h
    obtain ⟨c', hhandle, hserve⟩ := serve_cons_eq_none h
    rw [hserve] at h
    rw [serve, hhandle]
    exact serve_left_eq_none h

/-- Sessions only grow. -/
theorem Conn.prefix_serve : ∀ {packs : List (List UInt8)} {c : Conn},
    (c.serve parse env u packs).2 = none →
      c.texts <+: (c.serve parse env u packs).1.texts ∧
        c.sendBuf <+: (c.serve parse env u packs).1.sendBuf
  | [], _, _ => ⟨List.prefix_refl _, List.prefix_refl _⟩
  | _ :: _, c, h => by
    obtain ⟨c', hhandle, hserve⟩ := serve_cons_eq_none h
    obtain ⟨htexts, hsend, -⟩ := handle_eq_none hhandle
    rw [hserve] at h ⊢
    obtain ⟨ht, hs⟩ := prefix_serve h
    exact ⟨(htexts ▸ List.prefix_append ..).trans ht, (hsend ▸ List.prefix_append ..).trans hs⟩

/-- What is handled begins with a packet that has a command byte. The sequence number alone says
what happens : one reply and no text, or the text of everything that follows the command. -/
theorem Conn.handle_packet {c c' : Conn} {q : Wire.Packet} {command : UInt8}
    {queryStr more : List UInt8} (hq : q.payload = command :: queryStr)
    (h : c.handle parse env u (q.bytes ++ more) = (c', none)) :
    (q.seq = initPacketCnt ∧ c'.texts = c.texts ∧
        c'.sendBuf = c.sendBuf ++ [fixedOkPacket (q.seq + 1)]) ∨
      (q.seq ≠ initPacketCnt ∧ c'.texts = c.texts ++ [queryStr ++ more]) := by
  obtain ⟨htexts, hsend, hresult⟩ := handle_eq_none h
  obtain ⟨a, b, d, hbytes⟩ : ∃ a b d, q.bytes = a :: b :: d :: q.seq :: command :: queryStr :=
    ⟨_, _, _, by rw [Wire.Packet.bytes, hq]; rfl⟩
  rw [hbytes] at htexts hsend hresult
  by_cases hseq : q.seq = initPacketCnt
  · refine Or.inl ⟨hseq, ?_⟩
    simp only [List.cons_append, handlePacket, if_pos hseq] at htexts hsend hresult
    rcases hunpack : AuthPacket.unPack (command :: (queryStr ++ more)) with e | ap
    · simp only [hunpack] at hresult
      cases hresult
    · simp only [hunpack, Option.toList_none, List.append_nil] at htexts hsend
      exact ⟨htexts, hsend⟩
  · refine Or.inr ⟨hseq, ?_⟩
    rw [htexts]
    simp only [List.cons_append, handlePacket, if_neg hseq]
    split_ifs
    · rcases parse (queryStr ++ more) with e | stmts <;> rfl
    · rfl

/-- A packet that is handled on its own has a command byte. -/
theorem Conn.exists_command {c c' : Conn} {q : Wire.Packet}
    (h : c.handle parse env u q.bytes = (c', none)) :
    ∃ command queryStr, q.payload = command :: queryStr := by
  obtain ⟨-, -, hresult⟩ := handle_eq_none h
  rcases hq : q.payload with _ | ⟨command, queryStr⟩
  · rw [Wire.Packet.bytes, hq] at hresult
    cases hresult
  · exact ⟨command, queryStr, rfl⟩

/-- Several packets in one chunk are not handled as several. -/
theorem Conn.eq_nil_of_serve_eq {c : Conn} {q : Wire.Packet} {qs : List Wire.Packet}
    (hone : (c.serve parse env u [q.bytes ++ qs.flatMap Wire.Packet.bytes]).2 = none)
    (hall : (c.serve parse env u ((q :: qs).map Wire.Packet.bytes)).2 = none)
    (htexts : (c.serve parse env u [q.bytes ++ qs.flatMap Wire.Packet.bytes]).1.texts =
      (c.serve parse env u ((q :: qs).map Wire.Packet.bytes)).1.texts)
    (hsend : (c.serve parse env u [q.bytes ++ qs.flatMap Wire.Packet.bytes]).1.sendBuf =
      (c.serve parse env u ((q :: qs).map Wire.Packet.bytes)).1.sendBuf) : qs = [] := by
  rcases qs with _ | ⟨q', qs⟩
  · rfl
  rw [List.map_cons] at hall htexts hsend
  obtain ⟨c1, hhandle, hserve⟩ := serve_cons_eq_none hone
  obtain ⟨c2, hhandle', hserve'⟩ := serve_cons_eq_none hall
  obtain ⟨command, queryStr, hq⟩ := exists_command hhandle'
  rw [hserve, hserve'] at htexts hsend
  rw [hserve'] at hall
  simp only [serve] at htexts hsend
  have hhandle'' : c.handle parse env u (q.bytes ++ []) = (c2, none) := by
    rw [List.append_nil, hhandle']
  rw [List.map_cons] at hall htexts hsend
  obtain ⟨c3, hnext, hserve''⟩ := serve_cons_eq_none hall
  obtain ⟨command', queryStr', hq'⟩ := exists_command hnext
  rw [hserve''] at hall htexts hsend
  obtain ⟨hpt, hps⟩ := prefix_serve hall
  rw [← htexts] at hpt
  rw [← hsend] at hps
  have hnext' : c2.handle parse env u (q'.bytes ++ []) = (c3, none) := by
    rw [List.append_nil, hnext]
  have hlt := hpt.length_le
  have hls := hps.length_le
  rcases handle_packet hq hhandle with ⟨hseq, ht1, hs1⟩ | ⟨hseq, ht1⟩
  · -- a handshake packet: one reply, where the next packet adds a reply or a text
    rcases handle_packet hq hhandle'' with ⟨-, ht2, hs2⟩ | ⟨hne, -⟩
    · rcases handle_packet hq' hnext' with ⟨-, -, hs3⟩ | ⟨-, ht3⟩
      · rw [hs1, hs3, hs2] at hls
        simp only [List.length_append, List.length_cons, List.length_nil] at hls
        omega
      · rw [ht1, ht3, ht2] at hlt
        simp only [List.length_append, List.length_cons, List.length_nil] at hlt
        omega
    · exact absurd hseq hne
  · -- a query: its text goes on with the bytes of the next packet
    rcases handle_packet hq hhandle'' with ⟨heq, -⟩ | ⟨-, ht2⟩
    · exact absurd heq hseq
    · have hprefix : c.texts ++ [queryStr] <+: c.texts ++
          [queryStr ++ (q' :: qs).flatMap Wire.Packet.bytes] := by
        rw [List.append_nil] at ht2
        rw [← ht1, ← ht2]
        refine List.IsPrefix.trans ?_ hpt
        rcases handle_packet hq' hnext' with ⟨-, ht3, -⟩ | ⟨-, ht3⟩
        · rw [ht3]
        · rw [ht3]
          exact List.prefix_append ..
      have heq := hprefix.eq_of_length (by simp only [List.length_append, List.length_cons])
      have hlen := congrArg (List.map List.length) (List.append_cancel_left heq)
      simp only [List.map_cons, List.length_append, List.flatMap_cons, Wire.Packet.length_bytes]
        at hlen
      have := (List.cons.inj hlen).1
      omega

end

/-! ## Packet by packet -/

/-- The packets that have come in completely with the bytes `bs` of a stream, and the bytes that
are left over, fewer than the next packet has. -/
structure Received (ps : List Wire.Packet) (bs : List UInt8) (done : List Wire.Packet)
    (rest : List UInt8) : Prop where
  done_prefix : done <+: ps
  eq_append : bs = done.flatMap Wire.Packet.bytes ++ rest
  rest_lt : ∀ next, done ++ [next] <+: ps → rest.length < next.bytes.length

/-- After every chunk, the packets that have come in completely were handled one at a time and
without a fault, and the bytes left over wait in the buffer. -/
def PacketWise (parse : List UInt8 → Except Str (List SQLStatement)) (env : Env)
    (u : ℕ → ℕ → Uninit) (s : Server) (ps : List Wire.Packet) (chunks : List (List UInt8)) :
    Prop :=
  ∀ pre, pre <+: chunks → ∃ done rest, Received ps pre.flatten done rest ∧
    ∃ sock c, (StreamSocket.new s).run parse env u pre = (sock, none) ∧
      (Conn.new s).serve parse env u (done.map Wire.Packet.bytes) = (c, none) ∧
      sock.conn.texts = c.texts ∧ sock.conn.sendBuf = c.sendBuf ∧ sock.recvBuf.contents = rest

section
variable (parse : List UInt8 → Except Str (List SQLStatement)) (env : Env) (u : ℕ → ℕ → Uninit)
  (s : Server)

/-- The chunks of a cut are served. -/
theorem Cut.run_eq_serve {bs : List UInt8} {chunks pre : List (List UInt8)} (h : Cut bs chunks)
    (hpre : pre <+: chunks) :
    ∃ recvBuf, (StreamSocket.new s).run parse env u pre =
        (⟨recvBuf, ((Conn.new s).serve parse env u pre).1⟩,
          ((Conn.new s).serve parse env u pre).2) ∧
      (((Conn.new s).serve parse env u pre).2 = none → recvBuf.contents = []) :=
  (StreamSocket.idle_new s).run_eq_serve parse env u (fun x hx => h.ne_nil x (hpre.subset hx))
    fun x hx => h.length_lt x (hpre.subset hx)

/-- A stream cut into its packets is handled packet by packet. -/
theorem Cut.packetWise {ps : List Wire.Packet}
    (h : Cut (ps.flatMap Wire.Packet.bytes) (ps.map Wire.Packet.bytes))
    (hserve : ((Conn.new s).serve parse env u (ps.map Wire.Packet.bytes)).2 = none) :
    PacketWise parse env u s ps (ps.map Wire.Packet.bytes) := by
  intro pre hpre
  obtain ⟨recvBuf, hrun, hempty⟩ := h.run_eq_serve parse env u s hpre
  obtain ⟨post, hpost⟩ := hpre
  obtain ⟨done, more, rfl, rfl, -⟩ := List.map_eq_append_iff.1 hpost.symm
  rw [List.map_append] at hserve
  have hnone := Conn.serve_left_eq_none hserve
  rw [hnone] at hrun
  refine ⟨done, [], ⟨List.prefix_append .., ?_, fun next _ => ?_⟩, _, _, hrun,
    Prod.ext rfl hnone, rfl, rfl, hempty hnone⟩
  · rw [List.append_nil, List.flatMap_def]
  · exact List.length_pos_iff.2 next.bytes_ne_nil

/-- A stream may come in byte by byte. -/
theorem Cut.of_bytes (bs : List UInt8) : Cut bs (bs.map fun b => [b]) where
  flatten := by rw [← List.flatMap_def, List.flatMap_singleton']
  ne_nil chunk h := by
    obtain ⟨b, -, rfl⟩ := List.mem_map.1 h
    exact List.cons_ne_nil _ _
  length_lt chunk h := by
    obtain ⟨b, -, rfl⟩ := List.mem_map.1 h
    exact Nat.one_lt_two_pow (by omega)

end

section
variable {parse : List UInt8 → Except Str (List SQLStatement)} {env : Env} {u : ℕ → ℕ → Uninit}
  {s : Server} {ps : List Wire.Packet} {bs : List UInt8} {chunks : List (List UInt8)}

/-- After chunks that are handled one at a time, complete packets have come in and nothing else, and
the session is where it would be after these packets one by one. -/
theorem PacketWise.exists_done (h : PacketWise parse env u s ps chunks) (hcut : Cut bs chunks)
    {pre : List (List UInt8)} (hpre : pre <+: chunks) : ∃ done, done <+: ps ∧
      pre.flatten = done.flatMap Wire.Packet.bytes ∧
      ((Conn.new s).serve parse env u pre).2 = none ∧
      ((Conn.new s).serve parse env u (done.map Wire.Packet.bytes)).2 = none ∧
      ((Conn.new s).serve parse env u pre).1.texts =
        ((Conn.new s).serve parse env u (done.map Wire.Packet.bytes)).1.texts ∧
      ((Conn.new s).serve parse env u pre).1.sendBuf =
        ((Conn.new s).serve parse env u (done.map Wire.Packet.bytes)).1.sendBuf := by
  obtain ⟨done, rest, hrec, sock, c, hrun, hdone, htexts, hsend, hrest⟩ := h pre hpre
  obtain ⟨recvBuf, hrun', hempty⟩ := hcut.run_eq_serve parse env u s hpre
  rw [hrun] at hrun'
  obtain ⟨rfl, hnone⟩ := Prod.mk.inj hrun'
  rw [hempty hnone.symm] at hrest
  have heq := hrec.eq_append
  rw [← hrest, List.append_nil] at heq
  refine ⟨done, hrec.done_prefix, heq, hnone.symm, ?_⟩
  rw [hdone]
  exact ⟨rfl, htexts, hsend⟩

/-- Where packets are handled one at a time, a chunk ends where a packet does, and is one. -/
theorem PacketWise.exists_map (h : PacketWise parse env u s ps chunks) (hcut : Cut bs chunks) :
    ∀ pre, pre <+: chunks → ((Conn.new s).serve parse env u pre).2 = none ∧
      ∃ done, done <+: ps ∧ pre = done.map Wire.Packet.bytes := by
  intro pre
  induction pre using List.reverseRecOn with
  | nil => exact fun _ => ⟨rfl, [], List.nil_prefix, rfl⟩
  | append_singleton pre chunk ih =>
    intro hpre
    obtain ⟨hpre_none, done, hdone, rfl⟩ := ih ((List.prefix_append _ _).trans hpre)
    obtain ⟨done', hdone', hflat, hnone, hnone', htexts, hsend⟩ := h.exists_done hcut hpre
    refine ⟨hnone, done', hdone', ?_⟩
    have hchunk : chunk ≠ [] := hcut.ne_nil _ (hpre.subset (by simp))
    rw [List.flatten_append, List.flatten_singleton, ← List.flatMap_def] at hflat
    -- the packets that are complete now are those before and some more
    have hle : done.length ≤ done'.length := by
      by_contra hlt
      obtain ⟨more, rfl⟩ := List.prefix_of_prefix_length_le hdone' hdone (by omega)
      have hlen := congrArg List.length hflat
      simp only [List.flatMap_append, List.length_append] at hlen
      have := List.length_pos_iff.2 hchunk
      omega
    obtain ⟨more, rfl⟩ := List.prefix_of_prefix_length_le hdone hdone' hle
    rw [List.flatMap_append] at hflat
    obtain rfl := List.append_cancel_left hflat
    rw [List.map_append] at hnone' htexts hsend ⊢
    rw [Conn.serve_append _ hpre_none] at hnone hnone' htexts hsend
    rw [Conn.serve_append _ hpre_none] at htexts hsend
    rcases more with _ | ⟨q, qs⟩
    · exact absurd rfl hchunk
    · obtain rfl := Conn.eq_nil_of_serve_eq hnone hnone' htexts hsend
      simp

theorem PacketWise.eq_map (h : PacketWise parse env u s ps chunks)
    (hcut : Cut (ps.flatMap Wire.Packet.bytes) chunks) :
    chunks = ps.map Wire.Packet.bytes ∧
      ((Conn.new s).serve parse env u (ps.map Wire.Packet.bytes)).2 = none := by
  obtain ⟨hnone, done, -, rfl⟩ := h.exists_map hcut chunks (List.prefix_refl _)
  have hflat := hcut.flatten
  rw [← List.flatMap_def] at hflat
  obtain rfl := Wire.Packet.flatMap_bytes_injective hflat
  exact ⟨rfl, hnone⟩

end

/-- The stream of a sequence of packets is handled packet by packet exactly if every chunk is a
packet and none of them is at fault by itself. Unless the sequence is empty, there is another
way to cut it. -/
theorem packetWise_iff (parse : List UInt8 → Except Str (List SQLStatement)) (env : Env)
    (u : ℕ → ℕ → Uninit) (s : Server) (ps : List Wire.Packet) :
    (∀ chunks, Cut (ps.flatMap Wire.Packet.bytes) chunks →
      (PacketWise parse env u s ps chunks ↔ chunks = ps.map Wire.Packet.bytes ∧
        ((Conn.new s).serve parse env u (ps.map Wire.Packet.bytes)).2 = none)) ∧
    (ps ≠ [] → ∃ chunks, Cut (ps.flatMap Wire.Packet.bytes) chunks ∧
      ¬PacketWise parse env u s ps chunks) := by
  refine ⟨fun chunks hcut => ⟨fun h => h.eq_map hcut, ?_⟩, fun hne => ?_⟩
  · rintro ⟨rfl, hserve⟩
    exact hcut.packetWise parse env u s hserve
  · refine ⟨_, Cut.of_bytes _, fun h => ?_⟩
    obtain ⟨q, qs, rfl⟩ := List.exists_cons_of_ne_nil hne
    have hlen := congrArg (List.map List.length) (h.eq_map (Cut.of_bytes _)).1
    obtain ⟨b, bs, hbytes⟩ := List.exists_cons_of_ne_nil q.bytes_ne_nil
    have hq := q.length_bytes
    simp only [List.flatMap_cons, hbytes, List.cons_append, List.map_cons, List.length_cons,
      List.length_nil, List.cons.injEq] at hlen hq
    omega

/-- A parser of one text. -/
def parseShowTables (text : List UInt8) : Except Str (List SQLStatement) :=
  if text = (str "show tables").bytes then .ok [.other] else .error (str "syntax error")

/-- The packet of a query. -/
def showTablesPacket : Wire.Packet :=
  ⟨0, 3 :: (str "show tables").bytes, by decide⟩

/-- Two queries, each in its own chunk. -/
theorem packetWise_showTables :
    PacketWise parseShowTables Env.whole (fun _ _ => .zero) (Server.fresh [])
      [showTablesPacket, showTablesPacket] [showTablesPacket.bytes, showTablesPacket.bytes] :=
  ((packetWise_iff ..).1 _ ⟨rfl, by decide, by decide⟩).2 ⟨rfl, rfl⟩

/-- Two queries in one chunk. -/
theorem not_packetWise_showTables :
    Cut ([showTablesPacket, showTablesPacket].flatMap Wire.Packet.bytes)
        [showTablesPacket.bytes ++ showTablesPacket.bytes] ∧
      ¬PacketWise parseShowTables Env.whole (fun _ _ => .zero) (Server.fresh [])
        [showTablesPacket, showTablesPacket]
        [showTablesPacket.bytes ++ showTablesPacket.bytes] := by
  have hcut : Cut ([showTablesPacket, showTablesPacket].flatMap Wire.Packet.bytes)
      [showTablesPacket.bytes ++ showTablesPacket.bytes] := ⟨rfl, by decide, by decide⟩
  refine ⟨hcut, fun h => ?_⟩
  have hlen := congrArg List.length (h.eq_map hcut).1
  exact absurd hlen (by decide)

end UhpSql
