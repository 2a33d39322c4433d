import UhpSql.Session

/-!
# Framing of replies

`Framed seq chunks` : each chunk that `Exec` queues is a packet, and they are numbered from
`seq` on. The send functions write one byte of the length, a result set is numbered from 1 on
and any other reply from the number after that of the query, whatever came before.
`InStep` follows a query statement by statement with the number that is due, and
`framed_exec_iff` says that replies are framed exactly for queries that are in step.
-/

namespace UhpSql

/-! ## Framed chunks -/

/-- The chunks are packets numbered from `seq` on. -/
def Framed (seq : UInt8) : List (List UInt8) → Prop
  | [] => True
  | chunk :: chunks => (∃ p : Wire.Packet, p.seq = seq ∧ chunk = p.bytes) ∧ Framed (seq + 1) chunks

/-- The bytes are those of packets numbered from `seq` on. -/
def FramedBytes (seq : UInt8) (bs : List UInt8) : Prop :=
  ∃ ps : List Wire.Packet, bs = ps.flatMap Wire.Packet.bytes ∧
    ∀ i (h : i < ps.length), (ps.get ⟨i, h⟩).seq = seq + UInt8.ofNat i

theorem Framed.framedBytes : ∀ {chunks : List (List UInt8)} {seq : UInt8}, Framed seq chunks →
    FramedBytes seq chunks.flatten
  | [], _, _ => ⟨[], rfl, nofun⟩
  | chunk :: chunks, seq, ⟨⟨p, hp, hchunk⟩, h⟩ => by
    obtain ⟨ps, hps, hseq⟩ := h.framedBytes
    refine ⟨p :: ps, by rw [List.flatten_cons, List.flatMap_cons, hchunk, hps], fun i hi => ?_⟩
    cases i with
    | zero => simpa using hp
    | succ i =>
      have hi' := hseq i (by simpa using hi)
      rw [List.get_cons_succ, hi', UInt8.ofNat_add, UInt8.add_assoc, UInt8.add_comm 1]
      rfl

theorem framed_append {ys : List (List UInt8)} : ∀ {xs : List (List UInt8)} {seq : UInt8},
    Framed seq (xs ++ ys) ↔ Framed seq xs ∧ Framed (seq + UInt8.ofNat xs.length) ys
  | [], seq => by simp [Framed]
  | x :: xs, seq => by
    rw [List.cons_append, Framed, Framed, framed_append, and_assoc, List.length_cons,
      UInt8.ofNat_add, UInt8.add_assoc seq, UInt8.add_comm 1]
    rfl

/-- A packet of the send functions is one exactly when the length of its payload is one byte. -/
theorem packet_eq_bytes_iff {seq seq' : UInt8} {payload : List UInt8} :
    (∃ p : Wire.Packet, p.seq = seq ∧ packet seq' payload = p.bytes) ↔
      seq' = seq ∧ payload.length < 256 := by
  refine ⟨fun ⟨p, hp, heq⟩ => ?_, fun ⟨hseq, hlen⟩ => ?_⟩
  · have hlt := p.length_lt
    simp only [packet, Wire.Packet.bytes, Wire.leBytes, List.cons_append, List.nil_append,
      List.cons.injEq, ← UInt8.toNat_inj, UInt8.toNat_ofNat'] at heq
    obtain ⟨-, h1, h2, hseq, rfl⟩ := heq
    refine ⟨by rw [← hp, UInt8.toNat_inj.1 hseq], ?_⟩
    simp only [UInt8.toNat_zero] at h1 h2
    omega
  · refine ⟨⟨seq, payload, by omega⟩, rfl, ?_⟩
    have h1 : payload.length / 256 = 0 := by omega
    simp [packet, Wire.Packet.bytes, Wire.leBytes, h1, hseq]

theorem framed_packets_iff : ∀ {payloads : List (List UInt8)} {seq seq' : UInt8},
    payloads ≠ [] → (Framed seq (packets seq' payloads) ↔
      seq' = seq ∧ ∀ payload ∈ payloads, payload.length < 256)
  | [payload], seq, seq', _ => by
    rw [packets, packets, Framed, Framed, packet_eq_bytes_iff, and_true]
    simp
  | payload :: payload' :: payloads, seq, seq', _ => by
    rw [packets, Framed, packet_eq_bytes_iff, framed_packets_iff (by simp), UInt8.add_left_inj]
    rw [List.forall_mem_cons (a := payload)]
    tauto

/-! ## The reply to one statement -/

/-- A result set that SELECT is answered with. -/
structure ResultSet where
  queryTab : Str
  table : DataTable
  rows : List (List TableColumn)

/-- The result set a statement is answered with, if it is a SELECT that is carried out. Any
other statement is answered with one packet. -/
def resultSet (env : Env) (u : Uninit) (s : Server) : SQLStatement → Option ResultSet
  | .select stmt =>
    match selectRows env u s stmt with
    | .ok (some (rows, queryTab)) =>
      (s.dbms.getCurDB.getTable queryTab).map fun table => ⟨queryTab, table, rows⟩
    | _ => none
  | _ => none

theorem length_encode_le (n : ℕ) : (Wire.encode n).length ≤ 9 := by
  unfold Wire.encode
  split_ifs <;> simp

theorem length_okPack_lt (affectedRows lastInsertID : UInt64) (statusFlags warnings : UInt16) :
    (Protocol.okPack affectedRows lastInsertID statusFlags warnings).length < 256 := by
  have h := length_encode_le affectedRows.toNat
  have h' := length_encode_le lastInsertID.toNat
  simp only [Protocol.okPack, Protocol.writeLenEncode_eq, Protocol.writeU16, List.length_append,
    List.length_cons, List.length_nil]
  omega

section
variable {env : Env} {u : Uninit} {s s' : Server} {seq : UInt8} {reply : List (List UInt8)}

/-- Statements that change rows are answered with one packet. -/
theorem replyAffected_reply {what : String} {w : UInt16} (hwhat : what.toList.length < 200)
    {x : Except Fault (Option (Server × UInt64))}
    (h : (x >>= fun r => .ok (replyAffected seq what w s r)) = .ok (s', reply)) :
    ∃ payload : List UInt8, payload.length < 256 ∧ reply = packets seq [payload] := by
  obtain ⟨r, -, h⟩ := bind_eq_ok.1 h
  rcases r with _ | ⟨s₁, n⟩
  · obtain ⟨-, rfl⟩ := Prod.mk.inj (Except.ok.inj h)
    refine ⟨_, ?_, rfl⟩
    simp [Protocol.errPack, Protocol.writeU16, str]
    omega
  · obtain ⟨-, rfl⟩ := Prod.mk.inj (Except.ok.inj h)
    exact ⟨_, length_okPack_lt .., rfl⟩

/-- A statement is answered with one packet, or with a result set. -/
theorem execStatement_reply {stmt : SQLStatement}
    (h : execStatement env u seq s stmt = .ok (s', reply)) :
    (resultSet env u s stmt = none ∧
      ∃ payload : List UInt8, payload.length < 256 ∧ reply = packets seq [payload]) ∨
    ∃ r, resultSet env u s stmt = some r ∧
      reply = packets 1 (resultSetPayloads s.dbms.getCurDB r.table r.queryTab r.rows) := by
  cases stmt with
  | create stmt => exact Or.inl ⟨rfl, replyAffected_reply (by decide) h⟩
  | insert stmt => exact Or.inl ⟨rfl, replyAffected_reply (by decide) h⟩
  | delete stmt => exact Or.inl ⟨rfl, replyAffected_reply (by decide) h⟩
  | update stmt => exact Or.inl ⟨rfl, replyAffected_reply (by decide) h⟩
  | other =>
    obtain ⟨-, rfl⟩ := Prod.mk.inj (Except.ok.inj h)
    exact Or.inl ⟨rfl, _, length_okPack_lt .., rfl⟩
  | select stmt =>
    obtain ⟨r, hr, h⟩ := bind_eq_ok.1 h
    rcases r with _ | ⟨rows, queryTab⟩
    · obtain ⟨-, rfl⟩ := Prod.mk.inj (Except.ok.inj h)
      exact Or.inl ⟨by rw [resultSet, hr], _, by decide, rfl⟩
    · obtain ⟨reply', hreply, h⟩ := bind_eq_ok.1 h
      obtain ⟨-, rfl⟩ := Prod.mk.inj (Except.ok.inj h)
      obtain ⟨table, htable, hreply⟩ := bind_eq_ok.1 hreply
      rw [deref_eq_ok] at htable
      refine Or.inr ⟨⟨queryTab, table, rows⟩, ?_, (Except.ok.inj hreply).symm⟩
      rw [resultSet, hr]
      simp only [htable, Option.map_some]

end

/-! ## Payloads of one length byte -/

/-- The length of a length-encoded string of fewer than `2 ^ 16` bytes. -/
def encodedLength (n : ℕ) : ℕ :=
  if n < 251 then n + 1 else n + 3

/-- The length of the row packet of short values. -/
def rowLength (row : List Str) : ℕ :=
  (row.map fun v => encodedLength v.length).sum

theorem length_writeLenEncodeString {v : Str} (h : v.length < 2 ^ 16) :
    (Protocol.writeLenEncodeString v.bytes).length = encodedLength v.length := by
  rw [Protocol.writeLenEncodeString_eq (by rw [Str.length_bytes]; omega), Wire.encodeString,
    List.length_append, Str.length_bytes, encodedLength, Wire.encode]
  split_ifs <;> simp <;> omega

theorem length_lt_length_writeLenEncodeString (v : Str) :
    v.length < (Protocol.writeLenEncodeString v.bytes).length := by
  rw [Protocol.writeLenEncodeString, Protocol.writeLenEncode_eq, List.length_append,
    Str.length_bytes, Wire.encode]
  split_ifs <;> simp

theorem length_lt_encodedLength (n : ℕ) : n < encodedLength n := by
  unfold encodedLength
  split_ifs <;> omega

/-- In a packet of one length byte every value is short. -/
theorem length_rowPack_eq : ∀ {row : List Str},
    (Protocol.rowPack row).length < 256 ∨ rowLength row < 256 →
      (Protocol.rowPack row).length = rowLength row
  | [], _ => rfl
  | v :: row, h => by
    have hpack : (Protocol.rowPack (v :: row)).length =
        (Protocol.writeLenEncodeString v.bytes).length + (Protocol.rowPack row).length := by
      rw [Protocol.rowPack, List.flatMap_cons, List.length_append]
      rfl
    have hlen : rowLength (v :: row) = encodedLength v.length + rowLength row := by
      rw [rowLength, List.map_cons, List.sum_cons]
      rfl
    rw [hpack, hlen] at h ⊢
    have hv := length_lt_length_writeLenEncodeString v
    have hv' := length_lt_encodedLength v.length
    rw [length_writeLenEncodeString (v := v) (by omega),
      @length_rowPack_eq row (by omega)]

theorem length_rowPack_lt_iff {row : List Str} :
    (Protocol.rowPack row).length < 256 ↔ rowLength row < 256 :=
  ⟨fun h => length_rowPack_eq (Or.inl h) ▸ h, fun h => (length_rowPack_eq (Or.inr h)).symm ▸ h⟩

/-- A field packet holds the database, and the table and the column twice. -/
theorem length_pack_lt_iff (db : DataBase) (table : DataTable) (queryTab : Str) (i : ℕ) :
    (fieldPacket db table queryTab i).pack.length < 256 ↔
      db.dbName.length + 2 * queryTab.length + 2 * (table.indexCol i).length < 234 := by
  have hpack : (fieldPacket db table queryTab i).pack.length =
      (Protocol.rowPack [str "def", db.dbName, queryTab, queryTab, table.indexCol i,
        table.indexCol i]).length + 13 := by
    simp [Protocol.FieldPacket.pack, Protocol.rowPack, fieldPacket, Protocol.writeU16,
      Protocol.writeU32, Protocol.writeLenEncode]
    omega
  have hrow : rowLength [str "def", db.dbName, queryTab, queryTab, table.indexCol i,
      table.indexCol i] = 4 + encodedLength db.dbName.length + 2 * encodedLength queryTab.length +
        2 * encodedLength (table.indexCol i).length := by
    simp [rowLength, show encodedLength (str "def").length = 4 from rfl]
    omega
  rw [hpack]
  refine ⟨fun h => ?_, fun h => ?_⟩
  · rw [length_rowPack_eq (Or.inl (by omega)), hrow] at h
    have h1 := length_lt_encodedLength db.dbName.length
    have h2 := length_lt_encodedLength queryTab.length
    have h3 := length_lt_encodedLength (table.indexCol i).length
    omega
  · have hlt : rowLength [str "def", db.dbName, queryTab, queryTab, table.indexCol i,
        table.indexCol i] + 13 < 256 := by
      rw [hrow]
      unfold encodedLength
      split_ifs <;> omega
    rwa [length_rowPack_eq (Or.inr (by omega))]

/-- The names and the rows of a result set take one length byte each. -/
structure ResultSet.Fits (db : DataBase) (r : ResultSet) : Prop where
  fields : ∀ i < r.table.getColCount.toNat,
    db.dbName.length + 2 * r.queryTab.length + 2 * (r.table.indexCol i).length < 234
  rows : ∀ row ∈ r.rows, rowLength (row.map TableColumn.val) < 256

theorem resultSetPayloads_lt_iff (db : DataBase) (r : ResultSet) :
    (∀ payload ∈ resultSetPayloads db r.table r.queryTab r.rows, payload.length < 256) ↔
      r.Fits db := by
  have heof : (Protocol.eofPack 0 2).length < 256 := by decide
  simp only [resultSetPayloads, List.cons_append, List.forall_mem_cons, List.forall_mem_append,
    List.forall_mem_map, List.mem_range, heof, List.length_singleton, length_pack_lt_iff,
    length_rowPack_lt_iff]
  exact ⟨fun h => ⟨h.2.1.1, h.2.1.2.2⟩, fun h => ⟨by decide, ⟨h.fields, trivial, h.rows⟩, by simp⟩⟩

/-! ## Replies to queries -/

/-- How many packets a statement is answered with. -/
def packetCount : Option ResultSet → ℕ
  | none => 1
  | some r => r.table.getColCount.toNat + r.rows.length + 3

/-- The number that is due is the one the send functions begin with, and a result set fits. -/
def ReplyFits (db : DataBase) (seq due : UInt8) : Option ResultSet → Prop
  | none => due = seq + 1
  | some r => due = 1 ∧ r.Fits db

/-- Statement by statement the number that is due is the one the reply begins with. What a
fault cuts off is not sent. -/
def InStep (env : Env) (seq : UInt8) :
    (ℕ → Uninit) → UInt8 → Server → List SQLStatement → Prop
  | _, _, _, [] => True
  | u, due, s, stmt :: stmts =>
    match execStatement env (u 0) (seq + 1) s stmt with
    | .error _ => True
    | .ok (s', _) =>
      let r := resultSet env (u 0) s stmt
      ReplyFits s.dbms.getCurDB seq due r ∧
        InStep env seq (fun i => u (i + 1)) (due + UInt8.ofNat (packetCount r)) s' stmts

@[simp] theorem length_packets (payloads : List (List UInt8)) :
    ∀ seq, (packets seq payloads).length = payloads.length := by
  induction payloads with
  | nil => exact fun _ => rfl
  | cons payload payloads ih => exact fun seq => congrArg (· + 1) (ih (seq + 1))

/-- One statement. -/
theorem framed_reply_iff {env : Env} {u : Uninit} {s s' : Server} {seq : UInt8}
    {reply : List (List UInt8)} {stmt : SQLStatement} (due : UInt8)
    (h : execStatement env u (seq + 1) s stmt = .ok (s', reply)) :
    (Framed due reply ↔ ReplyFits s.dbms.getCurDB seq due (resultSet env u s stmt)) ∧
      reply.length = packetCount (resultSet env u s stmt) := by
  rcases execStatement_reply h with ⟨hr, payload, hlen, rfl⟩ | ⟨r, hr, rfl⟩
  · rw [hr, framed_packets_iff (by simp)]
    refine ⟨⟨fun h => h.1.symm, fun h => ⟨Eq.symm h, ?_⟩⟩, rfl⟩
    rwa [List.forall_mem_singleton]
  · have hne : resultSetPayloads s.dbms.getCurDB r.table r.queryTab r.rows ≠ [] := by
      simp [resultSetPayloads]
    rw [hr, framed_packets_iff hne, resultSetPayloads_lt_iff, ReplyFits, eq_comm]
    refine ⟨Iff.rfl, ?_⟩
    simp [resultSetPayloads, packetCount]
    omega

/-- A run of statements, from any number that is due. -/
theorem framed_run_iff (env : Env) (seq : UInt8) : ∀ (stmts : List SQLStatement) (u : ℕ → Uninit)
    (due : UInt8) (s : Server),
      Framed due (exec env u seq s stmts).1 ↔ InStep env seq u due s stmts
  | [], _, _, _ => Iff.rfl
  | stmt :: stmts, u, due, s => by
    rw [exec, InStep]
    cases h : execStatement env (u 0) (seq + 1) s stmt with
    | error e => exact Iff.rfl
    | ok r =>
      obtain ⟨s', reply⟩ := r
      obtain ⟨hfits, hcount⟩ := framed_reply_iff due h
      simp only
      rw [framed_append, hfits, hcount, framed_run_iff env seq stmts]

/-- The chunks queued for a query are packets numbered on from the query exactly when the
query is in step, and then so are the bytes. -/
theorem framed_exec_iff (env : Env) (u : ℕ → Uninit) (seq : UInt8) (s : Server)
    (stmts : List SQLStatement) :
    (Framed (seq + 1) (exec env u seq s stmts).1 ↔ InStep env seq u (seq + 1) s stmts) ∧
      (InStep env seq u (seq + 1) s stmts →
        FramedBytes (seq + 1) (exec env u seq s stmts).1.flatten) :=
  ⟨framed_run_iff env seq stmts u _ s,
    fun h => ((framed_run_iff env seq stmts u _ s).2 h).framedBytes⟩

/-- The second of two statements is answered with the number of the first. -/
theorem not_framedBytes_twoStatements : ¬FramedBytes 1
    (exec Env.whole (fun _ => .zero) 0 (Server.fresh []) [.other, .other]).1.flatten := by
  rintro ⟨ps, hps, hseq⟩
  let p : Wire.Packet := ⟨1, Protocol.okPack 0 0 2 1, by decide⟩
  have hbytes : (exec Env.whole (fun _ => .zero) 0 (Server.fresh []) [.other, .other]).1.flatten =
      [p, p].flatMap Wire.Packet.bytes := by decide
  obtain rfl : ps = [p, p] := Wire.Packet.flatMap_bytes_injective (hps.symm.trans hbytes)
  exact absurd (hseq 1 (by decide)) (by decide)

end UhpSql
