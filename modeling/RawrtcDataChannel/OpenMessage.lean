import RawrtcDataChannel.Types

/-!
# DCEP messages

The two messages of the data channel establishment protocol: OPEN, which carries the parameters
of a new channel, and ACK. This module holds the routines that build and parse them and the
routine that builds parameter objects.

An OPEN message is the message type `0x03`, the channel type, a 16-bit priority, a 32-bit
reliability parameter, the 16-bit lengths of label and protocol, and the two strings. All
numbers are sent most significant byte first.
-/

namespace RawrtcDataChannel

/-! ## Section 1: Data channel parameters -/

/-- The object `data_parameters_create` fills in: the reliability parameter of a reliable type
    is zero, and so is the id of a channel that is not negotiated. -/
def DataChannelParameters.ofFields (label : Option Bytes) (channelType : DataChannelType)
    (reliabilityParameter : UInt32) (protocol : Option Bytes) (negotiated : Bool) (id : Nat) :
    DataChannelParameters where
  label := label
  channelType := channelType
  reliabilityParameter := if channelType.isReliable then 0 else reliabilityParameter
  protocol := protocol
  negotiated := negotiated
  id := if negotiated then id else 0
  reliability_eq_zero := by intro h; rw [if_pos h]
  id_eq_zero := by intro h; rw [h]; rfl

/-- The parameters of a channel without a label. -/
def DataChannelParameters.plain : DataChannelParameters :=
  .ofFields none .reliableOrdered 0 none false 0

/-- `data_parameters_create`. -/
def dataParametersCreate (label : Option Bytes) (channelType : DataChannelType)
    (reliabilityParameter : UInt32) (protocol : Option Bytes) (negotiated : Bool) (id : Nat) :
    M (Except Code DataChannelParameters) := do
  if ← alloc then
    return .ok (.ofFields label channelType reliabilityParameter protocol negotiated id)
  else
    return .error .noMemory

/-- The bytes of a C string up to its terminator; `strlen` is their number. -/
def cString (s : Bytes) : Bytes :=
  s.takeWhile (· ≠ 0)

/-- `rawrtc_strdup` of a string that may be absent. Its result is not checked where it is used. -/
def rawrtcStrdup : Option Bytes → M (Option Bytes)
  | none => return none
  | some s => do
    if ← alloc then return some (cString s) else return none

/-- `rawrtc_data_channel_parameters_create`. -/
def dataChannelParametersCreate (label : Option Bytes) (channelType : DataChannelType)
    (reliabilityParameter : UInt32) (protocol : Option Bytes) (negotiated : Bool) (id : Nat) :
    M (Except Code DataChannelParameters) := do
  let copiedLabel ← rawrtcStrdup label
  let copiedProtocol ← rawrtcStrdup protocol
  dataParametersCreate copiedLabel channelType reliabilityParameter copiedProtocol negotiated id

/-! ## Section 2: Building messages -/

/-- `RAWRTC_DCEP_MESSAGE_TYPE_ACK`. -/
def dcepMessageTypeAck : UInt8 := 0x02

/-- `RAWRTC_DCEP_MESSAGE_TYPE_OPEN`. -/
def dcepMessageTypeOpen : UInt8 := 0x03

/-- `RAWRTC_DCEP_MESSAGE_OPEN_BASE_SIZE`. -/
def dcepMessageOpenBaseSize : Nat := 12

/-- `RAWRTC_DCEP_CHANNEL_PRIORITY_NORMAL`. -/
def dcepChannelPriorityNormal : Nat := 256

/-- The bytes of a string that may be absent. -/
def stringBytes (s : Option Bytes) : Bytes :=
  cString (s.getD [])

/-- Two bytes, most significant first. -/
def be16 (n : Nat) : Bytes :=
  [UInt8.ofNat (n / 2 ^ 8), UInt8.ofNat n]

/-- Four bytes, most significant first. -/
def be32 (n : Nat) : Bytes :=
  [UInt8.ofNat (n / 2 ^ 24), UInt8.ofNat (n / 2 ^ 16), UInt8.ofNat (n / 2 ^ 8), UInt8.ofNat n]

/-- The fields `data_channel_open_message_create` writes, in order. -/
def openMessageBytes (parameters : DataChannelParameters) : Bytes :=
  [dcepMessageTypeOpen, parameters.channelType.toByte] ++
  be16 dcepChannelPriorityNormal ++
  be32 parameters.reliabilityParameter.toNat ++
  be16 (stringBytes parameters.label).length ++
  be16 (stringBytes parameters.protocol).length ++
  stringBytes parameters.label ++
  stringBytes parameters.protocol

/-- `data_channel_open_message_create`. The buffer is allocated in its final size, so the writes
    that follow do not fail. -/
def dataChannelOpenMessageCreate (parameters : DataChannelParameters) :
    M (Except Code Mbuf) := do
  if 2 ^ 16 - 1 < (stringBytes parameters.label).length ∨
      2 ^ 16 - 1 < (stringBytes parameters.protocol).length then
    return .error .invalidArgument
  else if ← alloc then
    return .ok { data := openMessageBytes parameters }
  else
    return .error .noMemory

/-- `data_channel_ack_message_create`. -/
def dataChannelAckMessageCreate : M (Except Code Mbuf) := do
  if ← alloc then
    return .ok { data := [dcepMessageTypeAck] }
  else
    return .error .noMemory

/-! ## Section 3: Parsing the OPEN message -/

/-- `mbuf_strdup` of a string whose length is known to be available; an empty string is not
    copied but left absent. -/
def mbufStrdup (buffer : Mbuf) (length : Nat) : M (Except Code (Option Bytes × Mbuf)) := do
  if 0 < length then
    if ← alloc then
      return .ok (some (buffer.rest.take length), buffer.advance length)
    else
      return .error .noMemory
  else
    return .ok (none, buffer)

/-- `data_channel_open_message_parse`, on a buffer behind the message type. Returns the
    parameters and the priority. -/
def dataChannelOpenMessageParse (id : Nat) (buffer : Mbuf) :
    M (Except Code (DataChannelParameters × Nat)) := do
  -- -1 because the message type has been removed already
  if buffer.getLeft < dcepMessageOpenBaseSize - 1 then
    return .error .invalidMessage
  else
    let (channelType, buffer) := buffer.readU8
    let (priority, buffer) := buffer.readU16
    let (reliabilityParameter, buffer) := buffer.readU32
    let (labelLength, buffer) := buffer.readU16
    let (protocolLength, buffer) := buffer.readU16
    match DataChannelType.ofByte? channelType with
    | none => return .error .invalidMessage
    | some channelType =>
      if buffer.getLeft < labelLength then
        return .error .invalidMessage
      else
        match ← mbufStrdup buffer labelLength with
        | .error error => return .error error
        | .ok (label, buffer) =>
          if buffer.getLeft < protocolLength then
            return .error .invalidMessage
          else
            match ← mbufStrdup buffer protocolLength with
            | .error error => return .error error
            | .ok (protocol, _) =>
              match ← dataParametersCreate label channelType (UInt32.ofNat reliabilityParameter)
                  protocol false id with
              | .error error => return .error error
              | .ok parameters => return .ok (parameters, priority)

end RawrtcDataChannel
