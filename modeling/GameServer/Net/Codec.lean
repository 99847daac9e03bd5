import GameServer.Net.Packet

/-!
# Codec

`src/net/codec.cpp` and the read side of `src/net/tcp_connection.cpp`.

`Codec::Decode` works in place: it erases what it has consumed from the buffer even when it
throws later on, and the packets collected until then are lost with the exception.
Hence `decode` returns the buffer beside the result.
-/

namespace Game

namespace Codec

/--
The loop of `Codec::Decode`: `packets` collected so far, `buffer` not yet consumed.

`buffer.size() < length + sizeof(uint32_t)` is computed in `size_t`, so it cannot wrap.
-/
def decodeLoop (packets : List Packet) (buffer : Buffer) : Except String (List Packet) × Buffer :=
  if kPacketHeaderSize.toNat ≤ buffer.length then
    let length := readUint32BE buffer
    if length < kPacketMetaSize ∨ kMaxPacketLength < length then
      (.error "invalid packet length", buffer)
    else if buffer.length < length.toNat + 4 then
      (.ok packets, buffer)
    else
      let msgId := readUint32BE (buffer.drop 4)
      let seq := readUint32BE (buffer.drop 8)
      let body := (buffer.drop 12).take (length - 8).toNat
      decodeLoop (packets ++ [{ length := length, msgId := msgId, seq := seq, body := body }])
        (buffer.drop (4 + length.toNat))
  else
    (.ok packets, buffer)
termination_by buffer.length
decreasing_by
  have : kPacketHeaderSize.toNat = 12 := rfl
  rw [List.length_drop]
  omega

/-- `Codec::Decode`. -/
def decode (buffer : Buffer) : Except String (List Packet) × Buffer :=
  decodeLoop [] buffer

/-- `Codec::Encode`. The `length` of the packet is not used; it is computed from the body. -/
def encode (packet : Packet) : Except String Buffer :=
  if (kMaxPacketLength - kPacketMetaSize).toNat < packet.body.length then
    .error "packet body too large"
  else
    let length := UInt32.ofNat (kPacketMetaSize.toNat + packet.body.length)
    .ok (appendUint32BE (appendUint32BE (appendUint32BE [] length) packet.msgId) packet.seq
      ++ packet.body)

/-- What a sender of several packets puts on the stream: the outputs of `Encode`, in order. -/
def encodeAll : List Packet → Except String Buffer
  | [] => .ok []
  | p :: ps => do
    let out ← encode p
    let rest ← encodeAll ps
    return out ++ rest

end Codec

/-- The read side of a `TcpConnection`. -/
structure ReadSide where
  /-- `read_buffer_` -/
  readBuffer : Buffer := []
  /-- Packets handed to `message_callback_` so far. -/
  delivered : List Packet := []
  /-- Whether decoding has thrown, upon which the connection is closed. -/
  closed : Bool := false
deriving DecidableEq, Repr

/-- The completion handler of `TcpConnection::DoRead` for one read without a socket error.
After `Close` no further read is posted. -/
def ReadSide.onRead (c : ReadSide) (bytes : Buffer) : ReadSide :=
  if c.closed then c
  else
    match Codec.decode (c.readBuffer ++ bytes) with
    | (.ok packets, buffer) => { c with readBuffer := buffer, delivered := c.delivered ++ packets }
    | (.error _, buffer) => { c with readBuffer := buffer, closed := true }

/-- All reads of a connection, one chunk of the stream after the other. -/
def ReadSide.readChunks (c : ReadSide) (chunks : List Buffer) : ReadSide :=
  chunks.foldl ReadSide.onRead c

end Game
