import UhpSql.Executor

/-!
# Clients (`network/client.cc`, `network/auth.cc`)

`handlePacket` is what a client does with the bytes it is given : packet number 1 is taken for
the answer to the greeting, and of any other packet the bytes from the sixth on are an SQL
text. The length in the first three bytes is not read.

The parser is a parameter, the statements of a text or the message of its error.
-/

namespace UhpSql

/-! ## The answer to the greeting -/

/-- `AuthPacket`. -/
structure AuthPacket where
  clientFlags : UInt32
  maxPacketSize : UInt32
  charset : UInt8
  user : List UInt8
  authResponse : List UInt8
  database : List UInt8
  pluginName : List UInt8

namespace AuthPacket

/-- Read through an iterator. -/
def readAt (packet : List UInt8) (seek : ℕ) : Except Fault UInt8 :=
  match packet[seek]? with
  | some b => .ok b
  | none => .error .outOfBounds

/-- Four bytes, the least first. -/
def readU32 (packet : List UInt8) (seek : ℕ) : Except Fault UInt32 := do
  let b0 ← readAt packet seek
  let b1 ← readAt packet (seek + 1)
  let b2 ← readAt packet (seek + 2)
  let b3 ← readAt packet (seek + 3)
  return b0.toUInt32 ||| b1.toUInt32 <<< 8 ||| b2.toUInt32 <<< 16 ||| b3.toUInt32 <<< 24

/-- `std::find(seek, packet.end(), 0x00)`. A search from past the end never meets the end. -/
def findZero (packet : List UInt8) (seek : ℕ) : Except Fault ℕ :=
  if packet.length < seek then .error .outOfBounds
  else .ok (seek + (packet.drop seek).findIdx (· = 0))

/-- The bytes between two iterators. -/
def slice (packet : List UInt8) (seek stop : ℕ) : Except Fault (List UInt8) :=
  if packet.length < stop then .error .outOfBounds
  else .ok ((packet.drop seek).take (stop - seek))

def clientConnectWithDB : UInt32 :=
  8

def clientProtocol41 : UInt32 :=
  512

def clientSecureConnection : UInt32 :=
  32768

def clientPluginAuth : UInt32 :=
  524288

def defaultAuthPluginName : Str :=
  str "mysql_native_password"

/-- The response, and the position after it. A response with a length is passed over twice. -/
def readAuthResponse (packet : List UInt8) (clientFlags : UInt32) (seek : ℕ) :
    Except Fault (List UInt8 × ℕ) :=
  if clientFlags &&& clientSecureConnection > 0 then do
    let authResponseLen := (← readAt packet seek).toNat
    let authResponse ← slice packet (seek + 1) (seek + 1 + authResponseLen)
    return (authResponse, seek + 1 + authResponseLen + authResponseLen)
  else do
    return (← slice packet seek (seek + 20), seek + 20 + 1)

/-- A zero-terminated name if the flag is set, and the position after it ; `none` where the
zero is missing. -/
def readName (packet : List UInt8) (isSet : Bool) (seek : ℕ) :
    Except Fault (Option (List UInt8 × ℕ)) :=
  if isSet then do
    let nameEnd ← findZero packet seek
    if nameEnd = packet.length then
      return none
    return some (← slice packet seek nameEnd, nameEnd + 1)
  else .ok (some ([], seek))

/-- `UnPack`, with its verdict. The last `if` is not followed by a `return` : what is
returned there is left open, and nobody reads it. -/
def unPack (packet : List UInt8) : Except Fault (Option AuthPacket) := do
  let clientFlags ← readU32 packet 0
  if clientFlags &&& clientProtocol41 = 0 then
    return none
  let maxPacketSize ← readU32 packet 4
  let charset ← readAt packet 8
  match ← readName packet true 32 with
  | none => return none
  | some (user, seek) =>
    let (authResponse, seek) ← readAuthResponse packet clientFlags seek
    match ← readName packet (clientFlags &&& clientConnectWithDB > 0) seek with
    | none => return none
    | some (database, seek) =>
      match ← readName packet (clientFlags &&& clientPluginAuth > 0) seek with
      | none => return none
      | some (pluginName, _) =>
        if pluginName ≠ defaultAuthPluginName.bytes then
          return none
        return some
          ⟨clientFlags, maxPacketSize, charset, user, authResponse, database, pluginName⟩

end AuthPacket

/-! ## One packet -/

/-- What handling a packet does : the SQL text it takes, if any, the statements it hands to `Exec`,
if it does, the packets it queues, and the state it leaves or the fault that ends the server. -/
structure Handled where
  text : Option (List UInt8)
  executed : Option (List SQLStatement)
  replies : List (List UInt8)
  result : Except Fault Server

/-- The OK packet that is written out in `_HandlePacket`. -/
def fixedOkPacket (seq : UInt8) : List UInt8 :=
  [7, 0, 0, seq, 0, 0, 0, 2, 0, 0, 0]

/-- `INIT_PACKET_CNT`. -/
def initPacketCnt : UInt8 :=
  1

/-- The query that is answered without the parser. -/
def versionQuery : List UInt8 :=
  (str "select @@version_comment limit 1").bytes

/-- `_HandlePacket`. Fewer than five bytes make `std::string(start + 5, end)` throw. -/
def handlePacket (parse : List UInt8 → Except Str (List SQLStatement)) (env : Env)
    (u : ℕ → Uninit) (s : Server) (pack : List UInt8) : Handled :=
  match pack with
  | _ :: _ :: _ :: seq :: command :: queryStr =>
    if seq = initPacketCnt then
      match AuthPacket.unPack (command :: queryStr) with
      | .error e => ⟨none, none, [], .error e⟩
      | .ok _ => ⟨none, none, [fixedOkPacket (seq + 1)], .ok s⟩
    else if queryStr ≠ versionQuery then
      match parse queryStr with
      | .ok stmts =>
        let r := exec env u seq s stmts
        ⟨some queryStr, some stmts, r.1, r.2⟩
      | .error errorMsg =>
        ⟨some queryStr, none, sendErrorMessageToClient (seq + 1) 50 (str "ABCDE") errorMsg, .ok s⟩
    else ⟨some queryStr, none, [fixedOkPacket (seq + 1)], .ok s⟩
  | _ => ⟨none, none, [], .error .lengthError⟩

end UhpSql
