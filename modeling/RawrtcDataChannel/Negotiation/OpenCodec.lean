import Mathlib.Data.List.TakeWhile
import RawrtcDataChannel.Transfer.Outgoing

/-!
# The format of OPEN messages

What the bytes of an OPEN message stand for, as a partial function from byte strings to
parameters. The parser computes this function, and the encoder computes its inverse on the
messages that this library sends.
-/

namespace RawrtcDataChannel

open Reentrant

/-! ## Section 1: Numbers and strings on the wire -/

/-- The number that two bytes stand for, most significant first. -/
def fromBe16 (b₁ b₀ : UInt8) : Nat :=
  b₁.toNat * 2 ^ 8 + b₀.toNat

/-- The number that four bytes stand for, most significant first. -/
def fromBe32 (b₃ b₂ b₁ b₀ : UInt8) : Nat :=
  b₃.toNat * 2 ^ 24 + b₂.toNat * 2 ^ 16 + b₁.toNat * 2 ^ 8 + b₀.toNat

theorem be16_fromBe16 (b₁ b₀ : UInt8) : be16 (fromBe16 b₁ b₀) = [b₁, b₀] := by
  have h₁ := b₁.toNat_lt
  have h₀ := b₀.toNat_lt
  have hhigh : (b₁.toNat * 2 ^ 8 + b₀.toNat) / 2 ^ 8 = b₁.toNat := by omega
  have hlow : (b₁.toNat * 2 ^ 8 + b₀.toNat) % 2 ^ 8 = b₀.toNat := by omega
  simp only [be16, fromBe16, hhigh, UInt8.ofNat_toNat]
  congr 2
  apply UInt8.toNat_inj.mp
  rw [UInt8.toNat_ofNat', hlow]

theorem be32_fromBe32 (b₃ b₂ b₁ b₀ : UInt8) : be32 (fromBe32 b₃ b₂ b₁ b₀) = [b₃, b₂, b₁, b₀] := by
  have h₃ := b₃.toNat_lt
  have h₂ := b₂.toNat_lt
  have h₁ := b₁.toNat_lt
  have h₀ := b₀.toNat_lt
  have hbyte : ∀ (n : Nat) (b : UInt8), n % 2 ^ 8 = b.toNat → UInt8.ofNat n = b := by
    intro n b hn
    apply UInt8.toNat_inj.mp
    rw [UInt8.toNat_ofNat', hn]
  unfold be32 fromBe32
  rw [hbyte _ b₃ (by omega), hbyte _ b₂ (by omega), hbyte _ b₁ (by omega), hbyte _ b₀ (by omega)]

theorem fromBe32_lt (b₃ b₂ b₁ b₀ : UInt8) : fromBe32 b₃ b₂ b₁ b₀ < 2 ^ 32 := by
  have h₃ := b₃.toNat_lt
  have h₂ := b₂.toNat_lt
  have h₁ := b₁.toNat_lt
  have h₀ := b₀.toNat_lt
  unfold fromBe32
  omega

theorem fromBe16_be16 {n : Nat} (hn : n < 2 ^ 16) :
    fromBe16 (UInt8.ofNat (n / 2 ^ 8)) (UInt8.ofNat n) = n := by
  simp only [fromBe16, UInt8.toNat_ofNat']
  omega

theorem fromBe32_be32 {n : Nat} (hn : n < 2 ^ 32) :
    fromBe32 (UInt8.ofNat (n / 2 ^ 24)) (UInt8.ofNat (n / 2 ^ 16)) (UInt8.ofNat (n / 2 ^ 8))
      (UInt8.ofNat n) = n := by
  simp only [fromBe32, UInt8.toNat_ofNat']
  omega

/-- The string is one that C can store: it has no terminator in it. -/
def NulFree (s : Bytes) : Prop :=
  0 ∉ s

instance (s : Bytes) : Decidable (NulFree s) :=
  inferInstanceAs (Decidable (0 ∉ s))

theorem cString_of_nulFree {s : Bytes} (h : NulFree s) : cString s = s := by
  apply List.takeWhile_eq_self_iff.mpr
  intro b hb
  have hne : b ≠ 0 := fun heq => h (heq ▸ hb)
  simpa using hne

/-- A string from the wire. An empty one is absent. -/
def presentString (s : Bytes) : Option Bytes :=
  if s = [] then none else some s

theorem getD_presentString (s : Bytes) : (presentString s).getD [] = s := by
  unfold presentString
  split
  · next h => exact h.symm
  · rfl

theorem stringBytes_presentString {s : Bytes} (h : NulFree s) :
    stringBytes (presentString s) = s := by
  rw [stringBytes, getD_presentString, cString_of_nulFree h]

/-! ## Section 2: What an OPEN message stands for -/

/-- The fields in front of the strings. -/
structure OpenHeader where
  channelType : UInt8
  priority : Nat
  reliabilityParameter : Nat
  labelLength : Nat
  protocolLength : Nat
deriving DecidableEq, Repr

/-- The fields of a message without its first byte, and what follows them. -/
def openHeader? : Bytes → Option (OpenHeader × Bytes)
  | t :: p₁ :: p₀ :: r₃ :: r₂ :: r₁ :: r₀ :: l₁ :: l₀ :: q₁ :: q₀ :: strings =>
    some (⟨t, fromBe16 p₁ p₀, fromBe32 r₃ r₂ r₁ r₀, fromBe16 l₁ l₀, fromBe16 q₁ q₀⟩, strings)
  | _ => none

/-- The parameters and the priority that a message without its first byte stands for. -/
def decodeOpen (b : Bytes) : Option (DataChannelParameters × Nat) :=
  match openHeader? b with
  | none => none
  | some (header, strings) =>
    match DataChannelType.ofByte? header.channelType with
    | none => none
    | some channelType =>
      if header.labelLength + header.protocolLength ≤ strings.length then
        some (.ofFields (presentString (strings.take header.labelLength)) channelType
          (UInt32.ofNat header.reliabilityParameter)
          (presentString ((strings.drop header.labelLength).take header.protocolLength)) false 0,
          header.priority)
      else none

/-- A message that is long enough has a header. -/
theorem openHeader?_eq_none_iff (b : Bytes) : openHeader? b = none ↔ b.length < 11 := by
  constructor
  · intro h
    by_contra hlong
    rcases b with _ | ⟨b₀, _ | ⟨b₁, _ | ⟨b₂, _ | ⟨b₃, _ | ⟨b₄, _ | ⟨b₅, _ | ⟨b₆, _ | ⟨b₇, _ | ⟨b₈, _ |
      ⟨b₉, _ | ⟨b₁₀, strings⟩⟩⟩⟩⟩⟩⟩⟩⟩⟩⟩
    all_goals first | simp at hlong; done | cases h
  · intro h
    unfold openHeader?
    split
    · next heq => simp at h; omega
    · rfl

/-! ## Section 3: The parser -/

section Parser

variable {answers : (o : Op) → Transport → o.Reply → Prop}

theorem readU8_of_rest {mb : Mbuf} {b : UInt8} {bs : Bytes} (h : mb.rest = b :: bs) :
    mb.readU8 = (b, mb.advance 1) := by
  simp [Mbuf.readU8, h]

theorem readU16_of_rest {mb : Mbuf} {b₁ b₀ : UInt8} {bs : Bytes} (h : mb.rest = b₁ :: b₀ :: bs) :
    mb.readU16 = (fromBe16 b₁ b₀, mb.advance 2) := by
  simp [Mbuf.readU16, fromBe16, h]

theorem readU32_of_rest {mb : Mbuf} {b₃ b₂ b₁ b₀ : UInt8} {bs : Bytes}
    (h : mb.rest = b₃ :: b₂ :: b₁ :: b₀ :: bs) :
    mb.readU32 = (fromBe32 b₃ b₂ b₁ b₀, mb.advance 4) := by
  simp [Mbuf.readU32, fromBe32, h]

/-- The fields `data_channel_open_message_parse` reads at its beginning, one after the other. -/
def readFields (buffer : Mbuf) : OpenHeader × Mbuf :=
  let (channelType, buffer) := buffer.readU8
  let (priority, buffer) := buffer.readU16
  let (reliabilityParameter, buffer) := buffer.readU32
  let (labelLength, buffer) := buffer.readU16
  let (protocolLength, buffer) := buffer.readU16
  ({ channelType, priority, reliabilityParameter, labelLength, protocolLength }, buffer)

/-- The fields of a message that is long enough. -/
theorem readFields_eq {mb : Mbuf} {header : OpenHeader} {strings : Bytes}
    (hheader : openHeader? mb.rest = some (header, strings)) :
    readFields mb = (header, mb.advance 11) := by
  unfold openHeader? at hheader
  split at hheader
  · next t p₁ p₀ r₃ r₂ r₁ r₀ l₁ l₀ q₁ q₀ tail hrest =>
    have h₁ : (mb.advance 1).rest = p₁ :: p₀ :: r₃ :: r₂ :: r₁ :: r₀ :: l₁ :: l₀ :: q₁ :: q₀ ::
        tail := by rw [Mbuf.rest_advance, hrest]; rfl
    have h₃ : ((mb.advance 1).advance 2).rest = r₃ :: r₂ :: r₁ :: r₀ :: l₁ :: l₀ :: q₁ :: q₀ ::
        tail := by rw [Mbuf.rest_advance, h₁]; rfl
    have h₇ : (((mb.advance 1).advance 2).advance 4).rest = l₁ :: l₀ :: q₁ :: q₀ :: tail := by
      rw [Mbuf.rest_advance, h₃]; rfl
    have h₉ : ((((mb.advance 1).advance 2).advance 4).advance 2).rest = q₁ :: q₀ :: tail := by
      rw [Mbuf.rest_advance, h₇]; rfl
    obtain ⟨rfl, -⟩ := Prod.mk.inj (Option.some.inj hheader)
    simp only [readFields, readU8_of_rest hrest, readU16_of_rest h₁, readU32_of_rest h₃,
      readU16_of_rest h₇, readU16_of_rest h₉]
    rfl
  · cases hheader

/-- The end of the parser, on a buffer behind the fields. -/
def parseStrings (left : Mbuf → Nat) (id : Nat) (header : OpenHeader) (buffer : Mbuf) :
    M (Except Code (DataChannelParameters × Nat)) :=
  match DataChannelType.ofByte? header.channelType with
  | none => return .error .invalidMessage
  | some channelType => do
    if left buffer < header.labelLength then
      return .error .invalidMessage
    else
      match ← mbufStrdup buffer header.labelLength with
      | .error error => return .error error
      | .ok (label, buffer) =>
        if left buffer < header.protocolLength then
          return .error .invalidMessage
        else
          match ← mbufStrdup buffer header.protocolLength with
          | .error error => return .error error
          | .ok (protocol, _) =>
            match ← dataParametersCreate label channelType
                (UInt32.ofNat header.reliabilityParameter) protocol false id with
            | .error error => return .error error
            | .ok parameters => return .ok (parameters, header.priority)

/-- The parser, with another way to find out how many bytes of the message are left. -/
def parseWith (left : Mbuf → Nat) (id : Nat) (buffer : Mbuf) :
    M (Except Code (DataChannelParameters × Nat)) := do
  if left buffer < dcepMessageOpenBaseSize - 1 then
    return .error .invalidMessage
  else
    let (channelType, buffer) := buffer.readU8
    let (priority, buffer) := buffer.readU16
    let (reliabilityParameter, buffer) := buffer.readU32
    let (labelLength, buffer) := buffer.readU16
    let (protocolLength, buffer) := buffer.readU16
    parseStrings left id
      { channelType, priority, reliabilityParameter, labelLength, protocolLength } buffer

theorem dataChannelOpenMessageParse_eq_parseWith :
    dataChannelOpenMessageParse = parseWith Mbuf.getLeft := rfl

/-- The parser reads the fields one after the other. -/
theorem parseWith_eq (left : Mbuf → Nat) (id : Nat) {mb : Mbuf} {header : OpenHeader}
    {strings : Bytes} (hheader : openHeader? mb.rest = some (header, strings)) :
    parseWith left id mb =
      if left mb < 11 then pure (.error .invalidMessage)
      else parseStrings left id header (mb.advance 11) := by
  show (if left mb < 11 then pure (.error .invalidMessage)
    else parseStrings left id (readFields mb).1 (readFields mb).2) = _
  rw [readFields_eq hheader]

/-- What is behind the fields. -/
theorem drop_of_openHeader? {b : Bytes} {header : OpenHeader} {strings : Bytes}
    (hheader : openHeader? b = some (header, strings)) : b.drop 11 = strings := by
  unfold openHeader? at hheader
  split at hheader
  · obtain ⟨-, rfl⟩ := Prod.mk.inj (Option.some.inj hheader)
    rfl
  · cases hheader

theorem dataChannelOpenMessageParse_eq (id : Nat) (mb : Mbuf) :
    dataChannelOpenMessageParse id mb =
      match openHeader? mb.rest with
      | none => pure (.error .invalidMessage)
      | some (header, _) => parseStrings Mbuf.getLeft id header (mb.advance 11) := by
  rw [dataChannelOpenMessageParse_eq_parseWith]
  rcases hheader : openHeader? mb.rest with _ | ⟨header, strings⟩
  · have hshort : mb.getLeft < dcepMessageOpenBaseSize - 1 :=
      (openHeader?_eq_none_iff _).mp hheader
    rw [parseWith, if_pos hshort]
  · have hlong : ¬ mb.getLeft < 11 := by
      intro hshort
      rw [(openHeader?_eq_none_iff _).mpr hshort] at hheader
      cases hheader
    rw [parseWith_eq _ id hheader, if_neg hlong]

/-- An allocation that fails shows that memory is short. -/
theorem not_ampleMemory {s : Transport} (hok : answers .alloc s false) : ¬ AmpleMemory answers :=
  fun hample => absurd (hample s false hok) Bool.false_ne_true

/-- Copying a string that is available only fails for lack of memory. -/
theorem mbufStrdup_always (s : Transport) (mb : Mbuf) {n : Nat} (hn : n ≤ mb.getLeft) :
    ((mbufStrdup mb n).run s).Always answers fun r s' =>
      (r = .ok (presentString (mb.rest.take n), mb.advance n) ∨
        r = .error .noMemory ∧ ¬ AmpleMemory answers) ∧ s' = s := by
  unfold mbufStrdup
  by_cases hpos : 0 < n
  · have hne : mb.rest.take n ≠ [] := by
      have hlength : (mb.rest.take n).length = n := List.length_take_of_le hn
      intro hnil
      rw [hnil] at hlength
      exact absurd hlength (Nat.ne_of_lt hpos)
    rw [if_pos hpos]
    intro ok hok
    cases ok with
    | false => exact ⟨.inr ⟨rfl, not_ampleMemory hok⟩, rfl⟩
    | true => exact ⟨.inl (by rw [presentString, if_neg hne]), rfl⟩
  · obtain rfl : n = 0 := by omega
    rw [if_neg hpos]
    exact ⟨.inl (by simp [presentString, Mbuf.advance]), rfl⟩

theorem dataParametersCreate_always (hample : AmpleMemory answers) (s : Transport)
    (label : Option Bytes) (channelType : DataChannelType) (reliabilityParameter : UInt32)
    (protocol : Option Bytes) (negotiated : Bool) (id : Nat) :
    ((dataParametersCreate label channelType reliabilityParameter protocol negotiated id).run
      s).Always answers fun r s' =>
        r = .ok (.ofFields label channelType reliabilityParameter protocol negotiated id) ∧
          s' = s := by
  intro ok hok
  have htrue : ok = true := hample s ok hok
  subst htrue
  exact ⟨rfl, rfl⟩

/-- The parser computes what the message stands for, whatever bytes are behind the strings, or it
    fails for lack of memory. -/
theorem dataChannelOpenMessageParse_result (s : Transport) (id : Nat) (mb : Mbuf) :
    ((dataChannelOpenMessageParse id mb).run s).Always answers fun r s' =>
      (r = (decodeOpen mb.rest).elim (.error .invalidMessage) .ok ∨
        r = .error .noMemory ∧ ¬ AmpleMemory answers) ∧ s' = s := by
  rw [dataChannelOpenMessageParse_eq, decodeOpen]
  -- the header has to be there as a whole
  rcases hheader : openHeader? mb.rest with _ | ⟨header, strings⟩
  · exact ⟨.inl rfl, rfl⟩
  dsimp only
  have hrest : (mb.advance 11).rest = strings := by
    rw [Mbuf.rest_advance, drop_of_openHeader? hheader]
  rw [parseStrings]
  -- and the type has to be known
  rcases htype : DataChannelType.ofByte? header.channelType with _ | channelType
  · exact ⟨.inl rfl, rfl⟩
  dsimp only
  by_cases hlabel : (mb.advance 11).getLeft < header.labelLength
  · -- there is no room for the label
    have hfails : ¬ header.labelLength + header.protocolLength ≤ strings.length := by
      rw [Mbuf.getLeft, hrest] at hlabel
      omega
    rw [if_pos hlabel, if_neg hfails]
    exact ⟨.inl rfl, rfl⟩
  rw [if_neg hlabel, Routine.run_bind, Prog.always_bind]
  apply (mbufStrdup_always s (mb.advance 11) (Nat.le_of_not_lt hlabel)).mono
  rintro _ s ⟨rfl | ⟨rfl, hshort⟩, rfl⟩
  · dsimp only
    have hrest' : ((mb.advance 11).advance header.labelLength).rest =
        strings.drop header.labelLength := by rw [Mbuf.rest_advance, hrest]
    rw [Mbuf.getLeft, hrest] at hlabel
    by_cases hprotocol :
        ((mb.advance 11).advance header.labelLength).getLeft < header.protocolLength
    · -- there is no room for the protocol
      have hfails : ¬ header.labelLength + header.protocolLength ≤ strings.length := by
        rw [Mbuf.getLeft, hrest', List.length_drop] at hprotocol
        omega
      rw [if_pos hprotocol, if_neg hfails]
      exact ⟨.inl rfl, rfl⟩
    -- both strings are there, and only memory may be missing from here on
    have hfits : header.labelLength + header.protocolLength ≤ strings.length := by
      rw [Mbuf.getLeft, hrest', List.length_drop] at hprotocol
      omega
    rw [if_neg hprotocol, if_pos hfits, Routine.run_bind, Prog.always_bind]
    apply (mbufStrdup_always s _ (Nat.le_of_not_lt hprotocol)).mono
    rintro _ s ⟨rfl | ⟨rfl, hshort⟩, rfl⟩
    · rw [Routine.run_bind, Prog.always_bind, hrest, hrest']
      intro ok hok
      cases ok with
      | false => exact ⟨.inr ⟨rfl, not_ampleMemory hok⟩, rfl⟩
      | true => exact ⟨.inl rfl, rfl⟩
    · exact ⟨.inr ⟨rfl, hshort⟩, rfl⟩
  · exact ⟨.inr ⟨rfl, hshort⟩, rfl⟩

/-- **The parser computes what the message stands for**, with enough memory and whatever bytes are
    behind the strings. -/
theorem dataChannelOpenMessageParse_always (hample : AmpleMemory answers) (s : Transport) (id : Nat)
    (mb : Mbuf) : ((dataChannelOpenMessageParse id mb).run s).Always answers fun r s' =>
      r = (decodeOpen mb.rest).elim (.error .invalidMessage) .ok ∧ s' = s :=
  (dataChannelOpenMessageParse_result s id mb).mono fun _ _ h =>
    ⟨h.1.resolve_right fun hfails => hfails.2 hample, h.2⟩

end Parser

/-! ## Section 4: The encoder is its inverse -/

theorem ofByte?_toByte (type : DataChannelType) :
    DataChannelType.ofByte? type.toByte = some type := by
  cases type <;> rfl

theorem toByte_of_ofByte? {b : UInt8} {type : DataChannelType}
    (h : DataChannelType.ofByte? b = some type) : type.toByte = b := by
  unfold DataChannelType.ofByte? at h
  split at h <;> first | (obtain rfl := Option.some.inj h; rfl) | cases h

/-- The parameters the peer gets: the id is gone, and so is the difference between an empty string
    and none. -/
def DataChannelParameters.announced (parameters : DataChannelParameters) : DataChannelParameters :=
  .ofFields (presentString (parameters.label.getD [])) parameters.channelType
    parameters.reliabilityParameter (presentString (parameters.protocol.getD [])) false 0

/-- The strings of the parameters can be stored by C and fit into an OPEN message. -/
structure DataChannelParameters.Encodable (parameters : DataChannelParameters) : Prop where
  label_nulFree : NulFree (parameters.label.getD [])
  label_length : (parameters.label.getD []).length < 2 ^ 16
  protocol_nulFree : NulFree (parameters.protocol.getD [])
  protocol_length : (parameters.protocol.getD []).length < 2 ^ 16

/-- The encoder writes what the parser reads, whatever bytes follow. -/
theorem decodeOpen_openMessageBytes {parameters : DataChannelParameters}
    (h : parameters.Encodable) (trailing : Bytes) :
    decodeOpen ((openMessageBytes parameters).drop 1 ++ trailing) =
      some (parameters.announced, dcepChannelPriorityNormal) := by
  have hlabel : stringBytes parameters.label = parameters.label.getD [] :=
    cString_of_nulFree h.label_nulFree
  have hprotocol : stringBytes parameters.protocol = parameters.protocol.getD [] :=
    cString_of_nulFree h.protocol_nulFree
  have hpriority : fromBe16 (UInt8.ofNat (dcepChannelPriorityNormal / 2 ^ 8))
      (UInt8.ofNat dcepChannelPriorityNormal) = dcepChannelPriorityNormal :=
    fromBe16_be16 (by decide)
  have hreliability := fromBe32_be32 (n := parameters.reliabilityParameter.toNat)
    parameters.reliabilityParameter.toNat_lt
  have hl := fromBe16_be16 h.label_length
  have hq := fromBe16_be16 h.protocol_length
  -- the fields of the message, and the strings behind them
  have hheader : openHeader? ((openMessageBytes parameters).drop 1 ++ trailing) =
      some (⟨parameters.channelType.toByte, dcepChannelPriorityNormal,
        parameters.reliabilityParameter.toNat, (parameters.label.getD []).length,
        (parameters.protocol.getD []).length⟩,
        parameters.label.getD [] ++ (parameters.protocol.getD [] ++ trailing)) := by
    simp only [openMessageBytes, be16, be32, hlabel, hprotocol, List.cons_append, List.nil_append,
      List.drop_succ_cons, List.drop_zero, openHeader?, hpriority, hreliability, hl, hq,
      List.append_assoc]
  have hfits : (parameters.label.getD []).length + (parameters.protocol.getD []).length ≤
      (parameters.label.getD [] ++ (parameters.protocol.getD [] ++ trailing)).length := by
    simp only [List.length_append]
    omega
  unfold decodeOpen
  rw [hheader]
  dsimp only
  rw [ofByte?_toByte]
  dsimp only
  rw [if_pos hfits, List.take_left, List.drop_left, List.take_left, UInt32.ofNat_toNat]
  rfl

/-- Parameters that were read from a whole message are written as that message, if it is one that
    this library would send. -/
theorem openMessageBytes_of_decodeOpen {b : Bytes} {header : OpenHeader} {strings : Bytes}
    {parameters : DataChannelParameters} {priority : Nat}
    (hheader : openHeader? b = some (header, strings))
    (hdecode : decodeOpen b = some (parameters, priority))
    (hpriority : priority = dcepChannelPriorityNormal) (hnul : NulFree strings)
    (hend : strings.length = header.labelLength + header.protocolLength)
    (hreliable : parameters.channelType.isReliable = true → header.reliabilityParameter = 0) :
    openMessageBytes parameters = dcepMessageTypeOpen :: b := by
  unfold decodeOpen at hdecode
  rw [hheader] at hdecode
  dsimp only at hdecode
  rcases htype : DataChannelType.ofByte? header.channelType with _ | channelType
  · rw [htype] at hdecode
    cases hdecode
  rw [htype] at hdecode
  dsimp only at hdecode
  rw [if_pos (le_of_eq hend.symm)] at hdecode
  obtain ⟨rfl, hheaderPriority⟩ := Prod.mk.inj (Option.some.inj hdecode)
  unfold openHeader? at hheader
  split at hheader
  · next t p₁ p₀ r₃ r₂ r₁ r₀ l₁ l₀ q₁ q₀ tail =>
    obtain ⟨rfl, rfl⟩ := Prod.mk.inj (Option.some.inj hheader)
    dsimp only at hend htype hheaderPriority hreliable ⊢
    -- a string without zero bytes is written as it was read
    have hlabel : stringBytes (presentString (tail.take (fromBe16 l₁ l₀))) =
        tail.take (fromBe16 l₁ l₀) :=
      stringBytes_presentString fun hmem => hnul (List.mem_of_mem_take hmem)
    have hprotocol : stringBytes (presentString ((tail.drop (fromBe16 l₁ l₀)).take
        (fromBe16 q₁ q₀))) = tail.drop (fromBe16 l₁ l₀) := by
      have hall : (tail.drop (fromBe16 l₁ l₀)).take (fromBe16 q₁ q₀) =
          tail.drop (fromBe16 l₁ l₀) :=
        List.take_of_length_le (by rw [List.length_drop]; omega)
      rw [hall]
      exact stringBytes_presentString fun hmem => hnul (List.mem_of_mem_drop hmem)
    -- reliable types are written with 0, which is what was read
    have hr : (if channelType.isReliable then 0 else
        UInt32.ofNat (fromBe32 r₃ r₂ r₁ r₀)).toNat = fromBe32 r₃ r₂ r₁ r₀ := by
      split
      · next hrel => exact (hreliable hrel).symm
      · exact UInt32.toNat_ofNat_of_lt (fromBe32_lt r₃ r₂ r₁ r₀)
    -- the lengths in the header are those of the strings
    have hl : (tail.take (fromBe16 l₁ l₀)).length = fromBe16 l₁ l₀ :=
      List.length_take_of_le (by omega)
    have hq : (tail.drop (fromBe16 l₁ l₀)).length = fromBe16 q₁ q₀ := by
      rw [List.length_drop]
      omega
    have hp : dcepChannelPriorityNormal = fromBe16 p₁ p₀ := (hheaderPriority.trans hpriority).symm
    unfold openMessageBytes DataChannelParameters.ofFields
    simp only [hlabel, hprotocol, hl, hq, hr, hp, toByte_of_ofByte? htype, be16_fromBe16,
      be32_fromBe32, List.append_assoc, List.take_append_drop]
    rfl
  · cases hheader

end RawrtcDataChannel
