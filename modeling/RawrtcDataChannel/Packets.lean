import RawrtcDataChannel.Checksum.Sse42
import RawrtcDataChannel.Types

/-!
# Packets

SCTP packets between usrsctp and the DTLS transport: `rawrtc_sctp_transport_feed_inbound` verifies
the checksum of a packet before usrsctp gets to see it, and `sctp_packet_handler` fills in the
checksum of a packet usrsctp wants to be sent. Both are given here for any function in the place of
the CRC.
-/

namespace RawrtcDataChannel

/-! ## Section 1: The header -/

/-- The four bytes of a checksum as `mbuf_write_u32` stores them, least significant first. -/
def le32 (checksum : BitVec 32) : Bytes :=
  [⟨checksum.setWidth 8⟩, ⟨(checksum >>> 8).setWidth 8⟩, ⟨(checksum >>> 16).setWidth 8⟩,
    ⟨(checksum >>> 24).setWidth 8⟩]

/-- `sizeof(struct sctp_common_header)`. -/
def sctpCommonHeaderSize : Nat := 12

/-- The bytes of `header->crc32c`. -/
def checksumField (sctp : Bytes) : Bytes :=
  (sctp.drop 8).take 4

/-- An SCTP packet with another checksum field. -/
def withChecksum (checksum : Bytes) (sctp : Bytes) : Bytes :=
  sctp.take 8 ++ checksum ++ sctp.drop 12

/-! ## Section 2: Both directions -/

/-- `enum rawrtc_sctp_transport_checksum_flags`. -/
structure ChecksumFlags where
  disableInbound : Bool := false
  disableOutbound : Bool := false
deriving DecidableEq, Repr

/-- `checksum_flags`. -/
def checksumFlags : ChecksumFlags := {}

/-- Four bytes as a number, in the order in which `le32` stores them. -/
def wordLe32 : Bytes → BitVec 32
  | [b₀, b₁, b₂, b₃] => b₃.toBitVec ++ b₂.toBitVec ++ b₁.toBitVec ++ b₀.toBitVec
  | _ => 0

/-- Replace what is left in a buffer. -/
def Mbuf.setRest (mb : Mbuf) (bytes : Bytes) : Mbuf :=
  { mb with data := mb.data.take mb.pos ++ bytes }

/-- What feeding a packet comes to. -/
structure FedInbound where
  code : Code
  buffer : Mbuf
  /-- What is passed to `usrsctp_conninput`. -/
  conninput : Option Bytes := none
deriving DecidableEq, Repr

/-- `rawrtc_sctp_transport_feed_inbound`. -/
def sctpTransportFeedInbound (crc : Bytes → BitVec 32) (t : Transport) (buffer : Mbuf) :
    FedInbound :=
  if t.flags.detached then
    { code := .invalidState, buffer := buffer }
  else
    let rawBuffer := buffer.rest
    if checksumFlags.disableInbound = false then
      if sctpCommonHeaderSize ≤ rawBuffer.length then
        let actualChecksum := wordLe32 (checksumField rawBuffer)
        -- calculate the checksum with zeros in its place, then put back the one received
        let rawBuffer := withChecksum (le32 0) rawBuffer
        let expectedChecksum := crc rawBuffer
        let rawBuffer := withChecksum (le32 actualChecksum) rawBuffer
        if actualChecksum ≠ expectedChecksum then
          { code := .invalidMessage, buffer := buffer.setRest rawBuffer }
        else
          { code := .success, buffer := buffer.setRest rawBuffer, conninput := some rawBuffer }
      else
        { code := .invalidMessage, buffer := buffer }
    else
      { code := .success, buffer := buffer, conninput := some rawBuffer }

/-- `sctp_packet_handler`, given a packet of usrsctp. The result is what the outbound handler is
    called with. -/
def sctpPacketHandler (crc : Bytes → BitVec 32) (t : Transport) (buffer : Bytes) : Option Mbuf :=
  if t.flags.detached then
    none
  else if checksumFlags.disableOutbound = false then
    if sctpCommonHeaderSize ≤ buffer.length then
      -- usrsctp leaves the checksum to us
      some ⟨withChecksum (le32 (crc buffer)) buffer, 0⟩
    else
      none
  else
    some ⟨buffer, 0⟩

end RawrtcDataChannel
