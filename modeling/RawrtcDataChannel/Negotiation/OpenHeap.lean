import RawrtcDataChannel.Negotiation.OpenFormat
import RawrtcDataChannel.Refcount
import RawrtcDataChannel.Reentrant.Interference

/-!
# What the parser of OPEN messages allocates

The parser copies label and protocol of the message into strings of their own and creates the
parameter object that refers to them. This module looks at the parser once more, now with the
strings and the parameter objects on a heap: what it allocates, what it releases at each of its
exits, and which of its outputs it has written by then.

A message is rejected at many places. Behind the label `out` of the source the strings are
released; an exit that returns directly does not get there.
-/

namespace RawrtcDataChannel

open Reentrant Refcount

namespace OnHeap

/-! ## Section 1: The heap -/

/-- A parameter object: it refers to its strings. -/
structure ParametersObject where
  label : Option Address
  channelType : DataChannelType
  reliabilityParameter : UInt32
  protocol : Option Address
  negotiated : Bool
  id : Nat

/-- The object `data_parameters_create` fills in. -/
def ParametersObject.ofFields (label : Option Address) (channelType : DataChannelType)
    (reliabilityParameter : UInt32) (protocol : Option Address) (negotiated : Bool) (id : Nat) :
    ParametersObject where
  label := label
  channelType := channelType
  reliabilityParameter := if channelType.isReliable then 0 else reliabilityParameter
  protocol := protocol
  negotiated := negotiated
  id := if negotiated then id else 0

/-- The strings and the parameter objects. -/
structure Memory where
  strings : Heap Bytes
  parameters : Heap ParametersObject

namespace Memory

/-- The strings and the parameter objects that are alive. -/
def live (memory : Memory) : Set (Address ⊕ Address) :=
  {x | Sum.elim (· ∈ memory.strings.live) (· ∈ memory.parameters.live) x}

/-- `mem_ref` of a string. -/
def memRef (memory : Memory) (string : Option Address) : Memory :=
  { memory with strings := memory.strings.ref string }

/-- `mem_deref` of a string; strings have no destructor. -/
def memDeref (memory : Memory) (string : Option Address) : Memory :=
  { memory with strings := memory.strings.release string }

/-- `rawrtc_data_channel_parameters_destroy`. -/
def dataChannelParametersDestroy (memory : Memory) (parameters : ParametersObject) : Memory :=
  (memory.memDeref parameters.label).memDeref parameters.protocol

/-- `mem_deref` of a parameter object: with the last reference its destructor runs. -/
def memDerefParameters (memory : Memory) (parameters : Address) : Memory :=
  let released := { memory with parameters := memory.parameters.release (some parameters) }
  match memory.parameters.lastReferenceTo (some parameters) with
  | none => released
  | some object => released.dataChannelParametersDestroy object

end Memory

/-! ## Section 2: The parser -/

/-- A call under way: the heap and what has been written through the two output pointers. -/
structure Call where
  memory : Memory
  parametersp : Option Address := none
  priorityp : Option Nat := none

/-- Which allocations of a call succeed. -/
structure Granted where
  label : Bool
  protocol : Bool
  parameters : Bool

/-- `mbuf_strdup` of a string whose length is known to be available; an empty string is not
    copied but left absent. -/
def mbufStrdup (granted : Bool) (buffer : Mbuf) (length : Nat) (call : Call) :
    Except Code (Option Address × Mbuf) × Call :=
  if 0 < length then
    if granted then
      let (string, strings) := call.memory.strings.alloc (buffer.rest.take length)
      (.ok (some string, buffer.advance length),
        { call with memory := { call.memory with strings } })
    else
      (.error .noMemory, call)
  else
    (.ok (none, buffer), call)

/-- `data_parameters_create`; the strings are not referenced here. -/
def dataParametersCreate (granted : Bool) (label : Option Address) (channelType : DataChannelType)
    (reliabilityParameter : UInt32) (protocol : Option Address) (negotiated : Bool) (id : Nat)
    (call : Call) : Option Code × Call :=
  if granted then
    let (object, parameters) := call.memory.parameters.alloc
      (.ofFields label channelType reliabilityParameter protocol negotiated id)
    (none, { call with memory := { call.memory with parameters }, parametersp := some object })
  else
    (some .noMemory, call)

/-- `rawrtc_data_channel_parameters_create_internal`. -/
def dataChannelParametersCreateInternal (granted : Bool) (label : Option Address)
    (channelType : DataChannelType) (reliabilityParameter : UInt32) (protocol : Option Address)
    (negotiated : Bool) (id : Nat) (call : Call) : Option Code × Call :=
  match dataParametersCreate granted label channelType reliabilityParameter protocol negotiated id
      call with
  | (some error, call) => (some error, call)
  | (none, call) => (none, { call with memory := (call.memory.memRef label).memRef protocol })

/-- What stands behind the label `out`. -/
def parseOut (error : Option Code) (label protocol : Option Address) (priority : Nat)
    (call : Call) : Option Code × Call :=
  let call := { call with memory := (call.memory.memDeref label).memDeref protocol }
  match error with
  | none => (none, { call with priorityp := some priority })
  | some error => (some error, call)

/-- The rest of `data_channel_open_message_parse`, on a buffer behind the fields. -/
def parseStrings (granted : Granted) (id : Nat) (header : OpenHeader) (buffer : Mbuf)
    (call : Call) : Option Code × Call :=
  match DataChannelType.ofByte? header.channelType with
  | none => (some .invalidMessage, call)
  | some channelType =>
    if buffer.getLeft < header.labelLength then
      (some .invalidMessage, call)
    else
      match mbufStrdup granted.label buffer header.labelLength call with
      | (.error error, call) => parseOut (some error) none none header.priority call
      | (.ok (label, buffer), call) =>
        if buffer.getLeft < header.protocolLength then
          -- a direct return, past the label `out`
          (some .invalidMessage, call)
        else
          match mbufStrdup granted.protocol buffer header.protocolLength call with
          | (.error error, call) => parseOut (some error) label none header.priority call
          | (.ok (protocol, _), call) =>
            match dataChannelParametersCreateInternal granted.parameters label channelType
                (UInt32.ofNat header.reliabilityParameter) protocol false id call with
            | (error, call) => parseOut error label protocol header.priority call

/-- `data_channel_open_message_parse`, on a buffer behind the message type. Returns the error,
    if there is one. -/
def dataChannelOpenMessageParse (granted : Granted) (id : Nat) (buffer : Mbuf) (call : Call) :
    Option Code × Call :=
  -- -1 because the message type has been removed already
  if buffer.getLeft < dcepMessageOpenBaseSize - 1 then
    (some .invalidMessage, call)
  else
    let (header, buffer) := readFields buffer
    parseStrings granted id header buffer call

/-! ## Section 3: Messages one after the other -/

/-- A message as the parser is given it, and which allocations succeed when it is parsed. -/
structure Message where
  id : Nat
  buffer : Mbuf
  granted : Granted

/-- The call of the parser for a message; nothing has been written to the outputs yet. -/
def Message.parse (message : Message) (memory : Memory) : Option Code × Call :=
  dataChannelOpenMessageParse message.granted message.id message.buffer { memory }

/-- The heap after the messages have been parsed one after the other. -/
def afterMessages (memory : Memory) (messages : List Message) : Memory :=
  messages.foldl (fun memory message => (message.parse memory).2.memory) memory

/-- `P` holds of the calls for the messages when they are parsed one after the other. -/
def EachCall (P : Memory → Option Code × Call → Prop) : Memory → List Message → Prop
  | _, [] => True
  | memory, message :: messages =>
    P memory (message.parse memory) ∧ EachCall P (message.parse memory).2.memory messages

/-- A call that is rejected changes nothing; of one that is not, nothing is left once the
    parameters are released. -/
structure LeavesNothing (memory : Memory) (result : Option Code × Call) : Prop where
  rejected : ∀ error, result.1 = some error → result.2.memory.live = memory.live ∧
    result.2.parametersp = none ∧ result.2.priorityp = none
  accepted : result.1 = none → ∃ parameters, result.2.parametersp = some parameters ∧
    (result.2.memory.memDerefParameters parameters).live = memory.live

/-- Whatever messages arrive, no call leaves anything behind, and no number of rejected messages
    changes what is alive. -/
structure NothingLeftBehind (memory : Memory) (messages : List Message) : Prop where
  each : EachCall LeavesNothing memory messages
  rejected : EachCall (fun _ result => result.1 ≠ none) memory messages →
    (afterMessages memory messages).live = memory.live

/-- A message with a label that is there and is copied, and with a protocol that is longer than
    what follows the label. -/
structure Message.Leaks (message : Message) : Prop where
  fields : 11 ≤ message.buffer.rest.length
  type : ∃ channelType : DataChannelType, message.buffer.rest.getD 0 0 = channelType.toByte
  label : 0 < declaredLabelLength message.buffer.rest
  labelThere : 11 + declaredLabelLength message.buffer.rest ≤ message.buffer.rest.length
  copied : message.granted.label = true
  protocolShort : message.buffer.rest.length <
    11 + declaredLabelLength message.buffer.rest + declaredProtocolLength message.buffer.rest

/-! ## Section 4: What a call holds -/

/-- Since `start` the call has taken the references `held` to strings and none to parameter
    objects, and it has not written its outputs. -/
structure Holding (start : Memory) (held : Address → Nat) (call : Call) : Prop where
  strings : ∀ b, call.memory.strings.references b = start.strings.references b + held b
  parameters : call.memory.parameters.references = start.parameters.references
  parametersp : call.parametersp = none
  priorityp : call.priorityp = none

theorem holding_start (memory : Memory) : Holding memory 0 { memory } where
  strings := fun _ => rfl
  parameters := rfl
  parametersp := rfl
  priorityp := rfl

/-- Who has the same references keeps the same objects alive. -/
theorem Memory.live_congr {memory memory' : Memory}
    (hstrings : ∀ b, memory.strings.references b = memory'.strings.references b)
    (hparameters : memory.parameters.references = memory'.parameters.references) :
    memory.live = memory'.live := by
  rw [live, live, Heap.live_congr (funext hstrings), Heap.live_congr hparameters]

variable {start : Memory} {held : Address → Nat} {call : Call}

/-- A copy is held from then on. -/
theorem Holding.copy (hholding : Holding start held call) {granted : Bool} {buffer buffer' : Mbuf}
    {length : Nat} {string : Option Address} {call' : Call}
    (hcopy : mbufStrdup granted buffer length call = (.ok (string, buffer'), call')) :
    Holding start (held + pointsTo string) call' ∧ buffer' = buffer.advance length := by
  unfold mbufStrdup at hcopy
  split at hcopy
  · -- a string that is not empty is allocated
    split at hcopy
    · obtain ⟨hok, rfl⟩ := Prod.mk.inj hcopy
      obtain ⟨rfl, rfl⟩ := Prod.mk.inj (Except.ok.inj hok)
      refine ⟨⟨?_, hholding.parameters, hholding.parametersp, hholding.priorityp⟩, rfl⟩
      intro b
      show (call.memory.strings.alloc _).2.references b = _
      rw [Heap.references_alloc, hholding.strings, Nat.add_assoc]
      rfl
    · cases (Prod.mk.inj hcopy).1
  · next hempty =>
    obtain ⟨hok, rfl⟩ := Prod.mk.inj hcopy
    obtain ⟨rfl, rfl⟩ := Prod.mk.inj (Except.ok.inj hok)
    have hlength : length = 0 := Nat.eq_zero_of_not_pos hempty
    refine ⟨?_, by rw [hlength]; rfl⟩
    rw [pointsTo_none, add_zero]
    exact hholding

/-- A copy that fails has not taken anything. -/
theorem mbufStrdup_error {granted : Bool} {buffer : Mbuf} {length : Nat} {error : Code}
    {call' : Call} (hcopy : mbufStrdup granted buffer length call = (.error error, call')) :
    call' = call := by
  unfold mbufStrdup at hcopy
  split at hcopy
  · split at hcopy
    · cases (Prod.mk.inj hcopy).1
    · exact (Prod.mk.inj hcopy).2.symm
  · cases (Prod.mk.inj hcopy).1

/-- Behind the label `out` the strings are given back. -/
theorem Holding.memDeref {label protocol : Option Address}
    (hholding : Holding start (held + (pointsTo label + pointsTo protocol)) call) :
    Holding start held
      { call with memory := (call.memory.memDeref label).memDeref protocol } where
  strings := by
    intro b
    have hb := hholding.strings b
    simp only [Pi.add_apply] at hb
    show ((call.memory.strings.release label).release protocol).references b = _
    rw [Heap.references_release, Heap.references_release]
    omega
  parameters := hholding.parameters
  parametersp := hholding.parametersp
  priorityp := hholding.priorityp

/-- A call that returns an error and holds nothing has left nothing behind. -/
theorem Holding.leavesNothing (hholding : Holding start 0 call) (error : Code) :
    LeavesNothing start (some error, call) where
  rejected := fun _ _ =>
    ⟨Memory.live_congr hholding.strings hholding.parameters, hholding.parametersp,
      hholding.priorityp⟩
  accepted := by
    intro hnone
    cases hnone

/-- The same for an error on the way to the label `out`. -/
theorem Holding.leavesNothing_parseOut {label protocol : Option Address}
    (hholding : Holding start (pointsTo label + pointsTo protocol) call) (error : Code)
    (priority : Nat) :
    LeavesNothing start (parseOut (some error) label protocol priority call) := by
  rw [← zero_add (_ + _)] at hholding
  exact hholding.memDeref.leavesNothing error

/-! ## Section 5: The parameter object -/

/-- References to strings that the call itself refers to. -/
theorem Holding.memRef {label protocol : Option Address}
    (hholding : Holding start (pointsTo label + pointsTo protocol) call) (b : Address) :
    ((call.memory.memRef label).memRef protocol).strings.references b =
      start.strings.references b + (pointsTo label b + pointsTo protocol b) +
        (pointsTo label b + pointsTo protocol b) := by
  have hcounts := hholding.strings
  simp only [Pi.add_apply] at hcounts
  have hlabel : ∀ a ∈ label, call.memory.strings.references a ≠ 0 := by
    rintro a ha
    have ha' := hcounts a
    rw [Option.mem_def.mp ha, pointsTo_self] at ha'
    omega
  have hprotocol : ∀ a ∈ protocol, (call.memory.strings.ref label).references a ≠ 0 := by
    rintro a ha
    have ha' := hcounts a
    rw [Option.mem_def.mp ha, pointsTo_self] at ha'
    rw [Heap.references_ref _ hlabel]
    omega
  show ((call.memory.strings.ref label).ref protocol).references b = _
  rw [Heap.references_ref _ hprotocol, Heap.references_ref _ hlabel, hcounts]
  omega

/-- With the last reference to the parameters those to its strings are dropped. -/
theorem Memory.memDerefParameters_of_last {memory : Memory} {a : Address}
    {object : ParametersObject} (hlast : memory.parameters.references a = 1)
    (hobject : memory.parameters.content a = some object) :
    memory.memDerefParameters a =
      { strings := (memory.strings.release object.label).release object.protocol
        parameters := memory.parameters.release (some a) } := by
  rw [memDerefParameters, Heap.lastReferenceTo_of_references _ hlast, hobject]
  rfl

/-- What a call returns that has created its parameters. -/
def created (label protocol : Option Address) (object : ParametersObject) (priority : Nat)
    (call : Call) : Option Code × Call :=
  let (parameters, heap) := call.memory.parameters.alloc object
  (none,
    { memory :=
        { strings := (((call.memory.strings.ref label).ref protocol).release label).release protocol
          parameters := heap }
      parametersp := some parameters
      priorityp := some priority })

/-- The end of the parser if the parameter object can be allocated. -/
theorem parseOut_create (label protocol : Option Address) (channelType : DataChannelType)
    (reliabilityParameter : UInt32) (id priority : Nat) (call : Call) :
    (match dataChannelParametersCreateInternal true label channelType reliabilityParameter protocol
        false id call with
      | (error, call) => parseOut error label protocol priority call) =
      created label protocol (.ofFields label channelType reliabilityParameter protocol false id)
        priority call := rfl

/-- The parameter object takes over the strings, and releasing it releases them. -/
theorem Holding.leavesNothing_created {label protocol : Option Address}
    (hholding : Holding start (pointsTo label + pointsTo protocol) call)
    {object : ParametersObject} (hlabel : object.label = label)
    (hprotocol : object.protocol = protocol) (priority : Nat) :
    LeavesNothing start (created label protocol object priority call) where
  rejected := by
    intro error herror
    cases herror
  accepted := by
    intro _
    refine ⟨call.memory.parameters.next, rfl, ?_⟩
    have hcount := call.memory.parameters.references_alloc object
    have hlast : (call.memory.parameters.alloc object).2.references
        call.memory.parameters.next = 1 := by
      rw [hcount, Heap.references_next, Nat.zero_add]
      exact pointsTo_self _
    have hcontent := call.memory.parameters.content_alloc_self object
    rw [Memory.memDerefParameters_of_last hlast hcontent, hlabel, hprotocol]
    apply Memory.live_congr
    · intro b
      have href := hholding.memRef b
      show ((((((call.memory.strings.ref label).ref protocol).release label).release
        protocol).release label).release protocol).references b = _
      have href' : ((call.memory.strings.ref label).ref protocol).references b = _ := href
      simp only [Heap.references_release, href']
      omega
    · funext b
      show ((call.memory.parameters.alloc object).2.release
        (some call.memory.parameters.next)).references b = _
      rw [Heap.references_release, hcount, ← hholding.parameters]
      show _ + pointsTo (some call.memory.parameters.next) b -
        pointsTo (some call.memory.parameters.next) b = _
      exact Nat.add_sub_cancel _ _

/-- The end of the parser: the parameter object takes over the strings, or they are given back. -/
theorem Holding.leavesNothing_create {label protocol : Option Address}
    (hholding : Holding start (pointsTo label + pointsTo protocol) call) (granted : Bool)
    (channelType : DataChannelType) (reliabilityParameter : UInt32) (id priority : Nat) :
    LeavesNothing start
      (match dataChannelParametersCreateInternal granted label channelType reliabilityParameter
          protocol false id call with
        | (error, call) => parseOut error label protocol priority call) := by
  cases granted with
  | false => exact hholding.leavesNothing_parseOut .noMemory priority
  | true =>
    rw [parseOut_create]
    exact hholding.leavesNothing_created rfl rfl priority

/-! ## Section 6: One message -/

/-- The parser, by what is in front of it. -/
theorem dataChannelOpenMessageParse_eq (granted : Granted) (id : Nat) (mb : Mbuf) (call : Call) :
    dataChannelOpenMessageParse granted id mb call =
      match openHeader? mb.rest with
      | none => (some .invalidMessage, call)
      | some (header, _) => parseStrings granted id header (mb.advance 11) call := by
  rcases hheader : openHeader? mb.rest with _ | ⟨header, strings⟩
  · have hshort : mb.getLeft < dcepMessageOpenBaseSize - 1 :=
      (openHeader?_eq_none_iff _).mp hheader
    rw [dataChannelOpenMessageParse, if_pos hshort]
  · have hlong : ¬ mb.getLeft < dcepMessageOpenBaseSize - 1 := by
      intro hshort
      rw [(openHeader?_eq_none_iff _).mpr hshort] at hheader
      cases hheader
    rw [dataChannelOpenMessageParse, if_neg hlong, readFields_eq hheader]

/-- `Leaks`, by the fields of the message. -/
structure LosesLabel (granted : Granted) (header : OpenHeader) (buffer : Mbuf) : Prop where
  type : ∃ channelType, DataChannelType.ofByte? header.channelType = some channelType
  label : 0 < header.labelLength
  labelThere : header.labelLength ≤ buffer.getLeft
  copied : granted.label = true
  protocolShort : buffer.getLeft - header.labelLength < header.protocolLength

theorem Message.leaks_iff {message : Message} {header : OpenHeader} {strings : Bytes}
    (hheader : openHeader? message.buffer.rest = some (header, strings)) :
    message.Leaks ↔ LosesLabel message.granted header (message.buffer.advance 11) := by
  obtain ⟨htype, -, hlabel, hprotocol, hlength⟩ := fields_of_openHeader? hheader
  have hleft : (message.buffer.advance 11).getLeft = message.buffer.rest.length - 11 :=
    Mbuf.getLeft_advance _ _
  constructor
  · intro hleaks
    obtain ⟨channelType, hchannelType⟩ := hleaks.type
    have hthere := hleaks.labelThere
    have hshort := hleaks.protocolShort
    refine ⟨⟨channelType, ?_⟩, ?_, ?_, hleaks.copied, ?_⟩
    · rw [htype, hchannelType, ofByte?_toByte]
    · rw [hlabel]
      exact hleaks.label
    · rw [hlabel, hleft]
      omega
    · rw [hlabel, hprotocol, hleft]
      omega
  · intro hloses
    obtain ⟨channelType, hchannelType⟩ := hloses.type
    have hthere := hloses.labelThere
    have hshort := hloses.protocolShort
    rw [hlabel, hleft] at hthere
    rw [hlabel, hprotocol, hleft] at hshort
    refine ⟨by omega, ⟨channelType, ?_⟩, ?_, by omega, hloses.copied, by omega⟩
    · rw [← htype, toByte_of_ofByte? hchannelType]
    · rw [← hlabel]
      exact hloses.label

/-- What is not copied is not there. -/
theorem eq_none_of_mbufStrdup {granted : Bool} {buffer buffer' : Mbuf} {length : Nat}
    {string : Option Address} {call call' : Call}
    (hcopy : mbufStrdup granted buffer length call = (.ok (string, buffer'), call'))
    (hnone : ¬ (0 < length ∧ granted = true)) : string = none := by
  unfold mbufStrdup at hcopy
  split at hcopy
  · next hlength =>
    rw [if_neg fun hgranted => hnone ⟨hlength, hgranted⟩] at hcopy
    cases (Prod.mk.inj hcopy).1
  · exact (Prod.mk.inj (Except.ok.inj (Prod.mk.inj hcopy).1)).1.symm

/-- Every other exit of the parser leaves nothing behind. -/
theorem leavesNothing_parseStrings {granted : Granted} {header : OpenHeader} {buffer : Mbuf}
    (hkeeps : ¬ LosesLabel granted header buffer) (id : Nat) (memory : Memory) :
    LeavesNothing memory (parseStrings granted id header buffer { memory }) := by
  have hstart := holding_start memory
  unfold parseStrings
  split
  · exact hstart.leavesNothing .invalidMessage
  next channelType htype =>
  split
  · exact hstart.leavesNothing .invalidMessage
  next hlabelThere =>
  rcases hcopy : mbufStrdup granted.label buffer header.labelLength { memory } with
    ⟨error | ⟨label, buffer'⟩, call⟩
  · -- the label cannot be allocated
    obtain rfl := mbufStrdup_error hcopy
    exact hstart.leavesNothing_parseOut error header.priority
  obtain ⟨hlabel, rfl⟩ := hstart.copy hcopy
  rw [zero_add] at hlabel
  show LeavesNothing memory (if _ then _ else _)
  split
  · next hshort =>
    -- the direct return: nothing is lost if there is no label
    rw [Mbuf.getLeft_advance] at hshort
    obtain rfl : label = none := by
      apply eq_none_of_mbufStrdup hcopy
      rintro ⟨hlength, hgranted⟩
      exact hkeeps ⟨⟨channelType, htype⟩, hlength, Nat.not_lt.mp hlabelThere, hgranted, hshort⟩
    exact hlabel.leavesNothing .invalidMessage
  rcases hcopy' : mbufStrdup granted.protocol (buffer.advance header.labelLength)
    header.protocolLength call with ⟨error | ⟨protocol, buffer''⟩, call'⟩
  · -- the protocol cannot be allocated
    obtain rfl := mbufStrdup_error hcopy'
    apply Holding.leavesNothing_parseOut
    rw [pointsTo_none, add_zero]
    exact hlabel
  · exact (hlabel.copy hcopy').1.leavesNothing_create _ _ _ _ _

/-- The exit that loses the label: one more string is alive. -/
theorem parseStrings_of_losesLabel {granted : Granted} {header : OpenHeader} {buffer : Mbuf}
    (hloses : LosesLabel granted header buffer) (id : Nat) (memory : Memory) :
    ∃ string, parseStrings granted id header buffer { memory } =
      (some .invalidMessage,
        { memory := { memory with strings := (memory.strings.alloc string).2 } }) := by
  obtain ⟨channelType, htype⟩ := hloses.type
  refine ⟨buffer.rest.take header.labelLength, ?_⟩
  have hshort := hloses.protocolShort
  rw [← Mbuf.getLeft_advance] at hshort
  simp only [parseStrings, htype, if_neg (Nat.not_lt.mpr hloses.labelThere), mbufStrdup,
    if_pos hloses.label, hloses.copied, if_true, if_pos hshort]

/-- What becomes of a message: either nothing is left behind, or its label is. -/
theorem Message.parse_cases (message : Message) (memory : Memory) :
    (¬ message.Leaks ∧ LeavesNothing memory (message.parse memory)) ∨
    (message.Leaks ∧ ∃ string, message.parse memory = (some .invalidMessage,
      { memory := { memory with strings := (memory.strings.alloc string).2 } })) := by
  rw [parse, dataChannelOpenMessageParse_eq]
  rcases hheader : openHeader? message.buffer.rest with _ | ⟨header, strings⟩
  · left
    refine ⟨?_, (holding_start memory).leavesNothing .invalidMessage⟩
    intro hleaks
    exact Nat.not_le.mpr ((openHeader?_eq_none_iff _).mp hheader) hleaks.fields
  · rw [message.leaks_iff hheader]
    by_cases hloses : LosesLabel message.granted header (message.buffer.advance 11)
    · exact .inr ⟨hloses, parseStrings_of_losesLabel hloses message.id memory⟩
    · exact .inl ⟨hloses, leavesNothing_parseStrings hloses message.id memory⟩

/-- A label that is lost is something left behind. -/
theorem Message.leavesNothing_iff (message : Message) (memory : Memory) :
    LeavesNothing memory (message.parse memory) ↔ ¬ message.Leaks := by
  rcases message.parse_cases memory with ⟨hkeeps, hnothing⟩ | ⟨hleaks, string, hparse⟩
  · exact ⟨fun _ => hkeeps, fun _ => hnothing⟩
  · refine ⟨?_, fun hkeeps => absurd hleaks hkeeps⟩
    intro hnothing
    have hlive := (hnothing.rejected .invalidMessage (congrArg Prod.fst hparse)).1
    rw [hparse] at hlive
    have hstrings : (memory.strings.alloc string).2.live = memory.strings.live :=
      congrArg (Set.preimage Sum.inl) hlive
    exact absurd hstrings (memory.strings.live_alloc_ne string)

/-! ## Section 7: Any number of messages -/

theorem eachCall_leavesNothing_iff (memory : Memory) (messages : List Message) :
    EachCall LeavesNothing memory messages ↔ ∀ message ∈ messages, ¬ message.Leaks := by
  induction messages generalizing memory with
  | nil => simp [EachCall]
  | cons message messages ih =>
    rw [EachCall, message.leavesNothing_iff, ih, List.forall_mem_cons]

/-- As long as every rejected message leaves nothing behind, rejected messages change nothing. -/
theorem live_afterMessages {memory : Memory} {messages : List Message}
    (hnothing : EachCall LeavesNothing memory messages)
    (hrejected : EachCall (fun _ result => result.1 ≠ none) memory messages) :
    (afterMessages memory messages).live = memory.live := by
  induction messages generalizing memory with
  | nil => rfl
  | cons message messages ih =>
    obtain ⟨error, herror⟩ := Option.ne_none_iff_exists'.mp hrejected.1
    calc (afterMessages memory (message :: messages)).live
        = (afterMessages (message.parse memory).2.memory messages).live := rfl
      _ = (message.parse memory).2.memory.live := ih hnothing.2 hrejected.2
      _ = memory.live := (hnothing.1.rejected error herror).1

/-- Nothing is left behind if and only if no message makes the parser return between copying the
    label and checking the length of the protocol. -/
theorem nothingLeftBehind_iff (memory : Memory) (messages : List Message) :
    NothingLeftBehind memory messages ↔ ∀ message ∈ messages, ¬ message.Leaks := by
  rw [← eachCall_leavesNothing_iff memory]
  exact ⟨fun hnothing => hnothing.each,
    fun heach => ⟨heach, fun hrejected => live_afterMessages heach hrejected⟩⟩

open scoped Classical in
/-- A peer that only sends messages that are rejected makes one string more stay alive with every
    message that leaks. -/
theorem ncard_live_afterMessages {memory : Memory} {messages : List Message}
    (hrejected : EachCall (fun _ result => result.1 ≠ none) memory messages) :
    (afterMessages memory messages).strings.live.ncard =
      memory.strings.live.ncard + messages.countP (·.Leaks) := by
  induction messages generalizing memory with
  | nil => rfl
  | cons message messages ih =>
    have hrest := ih hrejected.2
    rcases message.parse_cases memory with ⟨hkeeps, hnothing⟩ | ⟨hleaks, string, hparse⟩
    · obtain ⟨error, herror⟩ := Option.ne_none_iff_exists'.mp hrejected.1
      have hlive : (message.parse memory).2.memory.strings.live = memory.strings.live :=
        congrArg (Set.preimage Sum.inl) (hnothing.rejected error herror).1
      rw [List.countP_cons_of_neg (by simpa using hkeeps), ← hlive]
      exact hrest
    · have hcard := memory.strings.ncard_live_alloc string
      rw [hparse] at hrest
      rw [List.countP_cons_of_pos (by simpa using hleaks), Nat.add_comm (messages.countP _),
        ← Nat.add_assoc, ← hcard, ← hrest]
      show (afterMessages (message.parse memory).2.memory messages).strings.live.ncard = _
      rw [hparse]

/-- A message with a label and a protocol of one byte each. -/
def wholeMessage : Message where
  id := 1
  buffer := { data := [0, 0, 0, 0, 0, 0, 0, 0, 1, 0, 1, 97, 98] }
  granted := { label := true, protocol := true, parameters := true }

/-- Nothing is left behind by a message that is accepted. -/
theorem nothingLeftBehind_iff_wholeMessage :
    NothingLeftBehind { strings := .empty, parameters := .empty } [wholeMessage] := by
  refine (nothingLeftBehind_iff _ _).mpr fun message hmessage hleaks => ?_
  obtain rfl := List.mem_singleton.mp hmessage
  exact absurd hleaks.protocolShort (by decide)

/-- A message that announces a label and a protocol of one byte each and ends behind the label. -/
def truncatedMessage : Message where
  id := 1
  buffer := { data := [0, 0, 0, 0, 0, 0, 0, 0, 1, 0, 1, 97] }
  granted := { label := true, protocol := true, parameters := true }

theorem truncatedMessage_leaks : truncatedMessage.Leaks where
  fields := by decide
  type := ⟨.reliableOrdered, rfl⟩
  label := by decide
  labelThere := by decide
  copied := rfl
  protocolShort := by decide

/-- The label of a truncated message stays alive, starting from an empty heap. -/
theorem not_nothingLeftBehind :
    ¬ NothingLeftBehind { strings := .empty, parameters := .empty } [truncatedMessage] := by
  intro hnothing
  exact (truncatedMessage.leavesNothing_iff _).mp hnothing.each.1 truncatedMessage_leaks

/-! ## Section 8: The same parser -/

/-- What a call has returned, its strings read from the heap. -/
def returned : Option Code × Call → Option (Except Code (DataChannelParameters × Nat))
  | (some error, _) => some (.error error)
  | (none, call) => do
    let parameters ← call.parametersp
    let object ← call.memory.parameters.content parameters
    let priority ← call.priorityp
    return .ok
      (.ofFields (object.label.bind call.memory.strings.content) object.channelType
        object.reliabilityParameter (object.protocol.bind call.memory.strings.content)
        object.negotiated object.id, priority)

/-- Operations that are answered somehow and change nothing. -/
def unchanged (o : Op) (s : Transport) (_ : o.Reply) (s' : Transport) : Prop :=
  s' = s

section Refinement

variable {granted : Bool} {buffer : Mbuf} {length : Nat} {call' : Call}

theorem mbufStrdup_outcome_error {error : Code}
    (hcopy : mbufStrdup granted buffer length call = (.error error, call')) (t : Transport) :
    ((RawrtcDataChannel.mbufStrdup buffer length).run t).OutcomeIn unchanged (.error error) t := by
  unfold mbufStrdup at hcopy
  unfold RawrtcDataChannel.mbufStrdup
  split at hcopy
  · next hlength =>
    rw [if_pos hlength]
    split at hcopy
    · cases (Prod.mk.inj hcopy).1
    · obtain rfl := Except.error.inj (Prod.mk.inj hcopy).1
      exact .out _ _ t _ false _ _ rfl (.ret _ _)
  · cases (Prod.mk.inj hcopy).1

theorem mbufStrdup_outcome_ok {string : Option Address} {buffer' : Mbuf}
    (hcopy : mbufStrdup granted buffer length call = (.ok (string, buffer'), call'))
    (t : Transport) :
    ((RawrtcDataChannel.mbufStrdup buffer length).run t).OutcomeIn unchanged
      (.ok (string.bind call'.memory.strings.content, buffer')) t := by
  unfold mbufStrdup at hcopy
  unfold RawrtcDataChannel.mbufStrdup
  split at hcopy
  · next hlength =>
    rw [if_pos hlength]
    split at hcopy
    · obtain ⟨hok, rfl⟩ := Prod.mk.inj hcopy
      obtain ⟨rfl, rfl⟩ := Prod.mk.inj (Except.ok.inj hok)
      have hcontent := call.memory.strings.content_alloc_self (buffer.rest.take length)
      show Prog.OutcomeIn unchanged _ (Except.ok
        ((call.memory.strings.alloc (buffer.rest.take length)).2.content
          (call.memory.strings.alloc (buffer.rest.take length)).1, _)) t
      rw [hcontent]
      exact .out _ _ t _ true _ _ rfl (.ret _ _)
    · cases (Prod.mk.inj hcopy).1
  · next hlength =>
    rw [if_neg hlength]
    obtain ⟨hok, rfl⟩ := Prod.mk.inj hcopy
    obtain ⟨rfl, rfl⟩ := Prod.mk.inj (Except.ok.inj hok)
    exact .ret _ _

/-- A second copy does not touch the first one. -/
theorem content_mbufStrdup {result : Except Code (Option Address × Mbuf)}
    (hcopy : mbufStrdup granted buffer length call = (result, call')) {string : Option Address}
    (hstring : ∀ a ∈ string, call.memory.strings.references a ≠ 0) :
    string.bind call'.memory.strings.content = string.bind call.memory.strings.content := by
  cases string with
  | none => rfl
  | some a =>
    unfold mbufStrdup at hcopy
    split at hcopy
    · split at hcopy
      · obtain ⟨-, rfl⟩ := Prod.mk.inj hcopy
        exact call.memory.strings.content_alloc_of_live _ (hstring a rfl)
      · obtain ⟨-, rfl⟩ := Prod.mk.inj hcopy
        rfl
    · obtain ⟨-, rfl⟩ := Prod.mk.inj hcopy
      rfl

/-- The object has been filled in with what the parameters it stands for have. -/
theorem ofFields_ofFields (label protocol : Option Bytes) (channelType : DataChannelType)
    (reliabilityParameter : UInt32) (id : Nat) :
    DataChannelParameters.ofFields label channelType
        (if channelType.isReliable then 0 else reliabilityParameter) protocol false 0 =
      .ofFields label channelType reliabilityParameter protocol false id := by
  cases channelType <;> rfl

/-- The parameters a created object stands for. -/
theorem returned_created (label protocol : Option Address) (channelType : DataChannelType)
    (reliabilityParameter : UInt32) (id priority : Nat) (call : Call) :
    returned (created label protocol
        (.ofFields label channelType reliabilityParameter protocol false id) priority call) =
      some (.ok (.ofFields (label.bind call.memory.strings.content) channelType
        reliabilityParameter (protocol.bind call.memory.strings.content) false id, priority)) := by
  have hobject := call.memory.parameters.content_alloc_self
    (.ofFields label channelType reliabilityParameter protocol false id)
  simp only [returned, created, Option.bind_eq_bind, Option.bind_some, hobject,
    Heap.content_release, Heap.content_ref]
  exact congrArg (fun parameters => some (Except.ok (parameters, priority)))
    (ofFields_ofFields _ _ channelType reliabilityParameter id)

/-- What the end of the parser returns on the heap it may return without one. -/
theorem parseStrings_outcome (granted : Granted) (id : Nat) (header : OpenHeader) (buffer : Mbuf)
    (memory : Memory) (t : Transport) :
    ∃ result, returned (parseStrings granted id header buffer { memory }) = some result ∧
      ((RawrtcDataChannel.parseStrings Mbuf.getLeft id header buffer).run t).OutcomeIn unchanged
        result t := by
  have hstart := holding_start memory
  unfold parseStrings RawrtcDataChannel.parseStrings
  rcases htype : DataChannelType.ofByte? header.channelType with _ | channelType
  · exact ⟨.error .invalidMessage, rfl, .ret _ _⟩
  dsimp only
  by_cases hlabelThere : buffer.getLeft < header.labelLength
  · rw [if_pos hlabelThere, if_pos hlabelThere]
    exact ⟨.error .invalidMessage, rfl, .ret _ _⟩
  rw [if_neg hlabelThere, if_neg hlabelThere]
  rcases hcopy : mbufStrdup granted.label buffer header.labelLength { memory } with
    ⟨error | ⟨label, buffer'⟩, call⟩
  · exact ⟨.error error, rfl, (mbufStrdup_outcome_error hcopy t).bind (.ret _ _)⟩
  obtain ⟨hlabel, -⟩ := hstart.copy hcopy
  dsimp only
  by_cases hshort : buffer'.getLeft < header.protocolLength
  · rw [if_pos hshort]
    refine ⟨.error .invalidMessage, rfl, (mbufStrdup_outcome_ok hcopy t).bind ?_⟩
    dsimp only
    rw [if_pos hshort]
    exact .ret _ _
  rw [if_neg hshort]
  rcases hcopy' : mbufStrdup granted.protocol buffer' header.protocolLength call with
    ⟨error | ⟨protocol, buffer''⟩, call'⟩
  · refine ⟨.error error, rfl, (mbufStrdup_outcome_ok hcopy t).bind ?_⟩
    dsimp only
    rw [if_neg hshort]
    exact (mbufStrdup_outcome_error hcopy' t).bind (.ret _ _)
  -- the label is still what it was when the protocol has been copied
  have hlive : ∀ a ∈ label, call.memory.strings.references a ≠ 0 := by
    intro a ha
    have hcount := hlabel.strings a
    rw [zero_add, Option.mem_def.mp ha, pointsTo_self] at hcount
    omega
  have hkept := content_mbufStrdup hcopy' hlive
  dsimp only
  cases hgranted : granted.parameters with
  | false =>
    refine ⟨.error .noMemory, rfl, (mbufStrdup_outcome_ok hcopy t).bind ?_⟩
    dsimp only
    rw [if_neg hshort]
    exact (mbufStrdup_outcome_ok hcopy' t).bind (.out _ _ t _ false _ _ rfl (.ret _ _))
  | true =>
    refine ⟨_, returned_created label protocol channelType _ id header.priority call',
      (mbufStrdup_outcome_ok hcopy t).bind ?_⟩
    dsimp only
    rw [if_neg hshort, hkept]
    exact (mbufStrdup_outcome_ok hcopy' t).bind (.out _ _ t _ true _ _ rfl (.ret _ _))

/-- **What the parser returns on the heap it may return without one.** -/
theorem Message.parse_outcome (message : Message) (memory : Memory) (t : Transport) :
    ∃ result, returned (message.parse memory) = some result ∧
      ((RawrtcDataChannel.dataChannelOpenMessageParse message.id message.buffer).run t).OutcomeIn
        unchanged result t := by
  rw [parse, dataChannelOpenMessageParse_eq, RawrtcDataChannel.dataChannelOpenMessageParse_eq]
  cases openHeader? message.buffer.rest with
  | none => exact ⟨.error .invalidMessage, rfl, .ret _ _⟩
  | some fields => exact parseStrings_outcome _ _ _ _ memory t

end Refinement

end OnHeap

end RawrtcDataChannel
