import RawrtcDataChannel.Api
import RawrtcDataChannel.Negotiation.OpenCodec

/-!
# Encoder and parser of OPEN messages are inverse

The parser accepts exactly the well-formed messages, looks at nothing behind the message it is
given, and gets back what the encoder has written. What it accepts is what the encoder writes for
the result, as far as this library sends such messages.
-/

namespace RawrtcDataChannel

open Reentrant

/-! ## Section 1: Acceptance -/

/-- The length of the label that a message without its first byte declares. -/
def declaredLabelLength (b : Bytes) : Nat :=
  fromBe16 (b.getD 7 0) (b.getD 8 0)

/-- The length of the protocol that a message without its first byte declares. -/
def declaredProtocolLength (b : Bytes) : Nat :=
  fromBe16 (b.getD 9 0) (b.getD 10 0)

/-- The number in the reliability field of a message without its first byte. -/
def reliabilityField (b : Bytes) : Nat :=
  fromBe32 (b.getD 3 0) (b.getD 4 0) (b.getD 5 0) (b.getD 6 0)

/-- At least eleven bytes, a valid type, and room for both strings. -/
structure WellFormedOpen (b : Bytes) : Prop where
  length : 11 ≤ b.length
  type : ∃ channelType : DataChannelType, b.getD 0 0 = channelType.toByte
  room : 11 + declaredLabelLength b + declaredProtocolLength b ≤ b.length

/-- The fields of a message at their places. -/
theorem fields_of_openHeader? {b : Bytes} {header : OpenHeader} {strings : Bytes}
    (h : openHeader? b = some (header, strings)) :
    header.channelType = b.getD 0 0 ∧ header.reliabilityParameter = reliabilityField b ∧
      header.labelLength = declaredLabelLength b ∧
      header.protocolLength = declaredProtocolLength b ∧ b.length = 11 + strings.length := by
  unfold openHeader? at h
  split at h
  · obtain ⟨rfl, rfl⟩ := Prod.mk.inj (Option.some.inj h)
    refine ⟨rfl, rfl, rfl, rfl, ?_⟩
    simp only [List.length_cons]
    omega
  · cases h

/-- Exactly the well-formed messages stand for something. -/
theorem decodeOpen_isSome_iff (b : Bytes) : (∃ result, decodeOpen b = some result) ↔
    WellFormedOpen b := by
  unfold decodeOpen
  rcases hheader : openHeader? b with _ | ⟨header, strings⟩
  · have hshort := (openHeader?_eq_none_iff b).mp hheader
    constructor
    · rintro ⟨result, hresult⟩
      cases hresult
    · intro hwell
      exact absurd hwell.length (Nat.not_le.mpr hshort)
  · obtain ⟨htype, -, hl, hq, hlength⟩ := fields_of_openHeader? hheader
    dsimp only
    rw [htype, hl, hq]
    constructor
    · rintro ⟨result, hresult⟩
      rcases hbyte : DataChannelType.ofByte? (b.getD 0 0) with _ | channelType
      · rw [hbyte] at hresult
        cases hresult
      · rw [hbyte] at hresult
        dsimp only at hresult
        split at hresult
        · next hroom => exact ⟨by omega, ⟨channelType, (toByte_of_ofByte? hbyte).symm⟩, by omega⟩
        · cases hresult
    · rintro ⟨-, ⟨channelType, hbyte⟩, hroom⟩
      rw [hbyte, ofByte?_toByte]
      dsimp only
      rw [if_pos (by omega)]
      exact ⟨_, rfl⟩

theorem fromBe16_lt (b₁ b₀ : UInt8) : fromBe16 b₁ b₀ < 2 ^ 16 := by
  have h₁ := b₁.toNat_lt
  have h₀ := b₀.toNat_lt
  unfold fromBe16
  omega

theorem length_stringBytes_presentString_le (string : Bytes) :
    (stringBytes (presentString string)).length ≤ string.length := by
  rw [stringBytes, getD_presentString]
  exact (List.takeWhile_sublist _).length_le

/-- The strings of an accepted message are short enough to be sent again. -/
theorem length_lt_of_decodeOpen {b : Bytes} {parameters : DataChannelParameters} {priority : Nat}
    (h : decodeOpen b = some (parameters, priority)) :
    (stringBytes parameters.label).length < 2 ^ 16 ∧
      (stringBytes parameters.protocol).length < 2 ^ 16 := by
  unfold decodeOpen at h
  rcases hheader : openHeader? b with _ | ⟨header, strings⟩
  · rw [hheader] at h
    cases h
  obtain ⟨-, -, hl, hq, -⟩ := fields_of_openHeader? hheader
  rw [hheader] at h
  dsimp only at h
  split at h
  · cases h
  split at h
  · obtain ⟨rfl, -⟩ := Prod.mk.inj (Option.some.inj h)
    constructor
    · apply (length_stringBytes_presentString_le _).trans_lt
      apply (List.length_take_le _ _).trans_lt
      rw [hl]
      exact fromBe16_lt _ _
    · apply (length_stringBytes_presentString_le _).trans_lt
      apply (List.length_take_le _ _).trans_lt
      rw [hq]
      exact fromBe16_lt _ _
  · cases h

/-! ## Section 2: Nothing behind the message is read -/

/-- Copying the same string from two buffers, and going on in the same way. -/
theorem mbufStrdup_bind_congr {α : Type} {f f' : Except Code (Option Bytes × Mbuf) → M α}
    {mb mb' : Mbuf} {n : Nat} (hcopy : mb.rest.take n = mb'.rest.take n)
    (hok : ∀ s, f (.ok (s, mb.advance n)) = f' (.ok (s, mb'.advance n)))
    (herror : ∀ error, f (.error error) = f' (.error error)) :
    (mbufStrdup mb n >>= f) = mbufStrdup mb' n >>= f' := by
  unfold mbufStrdup
  by_cases hpos : 0 < n
  · rw [if_pos hpos, if_pos hpos]
    show Routine.mk _ = Routine.mk _
    congr 1
    funext s
    show Prog.out Op.alloc s _ = Prog.out Op.alloc s _
    congr 1
    funext ok s'
    cases (ok : Bool) with
    | true =>
      show (f (.ok (some (mb.rest.take n), mb.advance n))).run s' = _
      rw [hcopy, hok]
      rfl
    | false =>
      show (f (.error .noMemory)).run s' = _
      rw [herror]
      rfl
  · obtain rfl : n = 0 := by omega
    rw [if_neg hpos, if_neg hpos]
    exact hok none

/-- How many bytes of a message of `length` bytes are left, by the position alone. -/
def leftOf (length : Nat) (mb : Mbuf) : Nat :=
  length - mb.pos

/-- The strings are read from the message, not from what is behind it. -/
theorem parseStrings_leftOf (id : Nat) (header : OpenHeader) (b behind : Bytes) :
    parseStrings (leftOf b.length) id header ⟨b ++ behind, 11⟩ =
      parseStrings Mbuf.getLeft id header ⟨b, 11⟩ := by
  -- the part of the memory that is copied is the same
  have hcopy : ∀ pos n, n ≤ b.length - pos →
      (Mbuf.mk (b ++ behind) pos).rest.take n = (Mbuf.mk b pos).rest.take n := by
    intro pos n hn
    by_cases hpos : pos ≤ b.length
    · simp only [Mbuf.rest]
      rw [List.drop_append_of_le_length hpos, List.take_append_of_le_length]
      rw [List.length_drop]
      exact hn
    · obtain rfl : n = 0 := by omega
      rfl
  have hleft : ∀ pos, (Mbuf.mk b pos).getLeft = b.length - pos := by
    intro pos
    simp [Mbuf.getLeft, Mbuf.rest]
  unfold parseStrings leftOf
  rcases DataChannelType.ofByte? header.channelType with _ | channelType
  · rfl
  dsimp only [Mbuf.advance]
  rw [hleft]
  split
  · rfl
  next hlabel =>
  apply mbufStrdup_bind_congr (hcopy 11 _ (Nat.le_of_not_lt hlabel))
  · intro label
    dsimp only [Mbuf.advance]
    rw [hleft]
    split
    · rfl
    next hprotocol =>
    apply mbufStrdup_bind_congr (hcopy _ _ (Nat.le_of_not_lt hprotocol))
    · intro protocol
      rfl
    · intro error
      rfl
  · intro error
    rfl

/-- **The parser never reads past the message.** With readers that do not know where the message
    ends, its own checks keep it from looking at the bytes behind. -/
theorem parseWith_leftOf (id : Nat) (b behind : Bytes) :
    parseWith (leftOf b.length) id ⟨b ++ behind, 0⟩ = dataChannelOpenMessageParse id ⟨b, 0⟩ := by
  have hrest : (⟨b, 0⟩ : Mbuf).rest = b := List.drop_zero
  rw [dataChannelOpenMessageParse_eq, hrest]
  rcases hheader : openHeader? b with _ | ⟨header, strings⟩
  · have hshort := (openHeader?_eq_none_iff b).mp hheader
    have hleft : leftOf b.length ⟨b ++ behind, 0⟩ < dcepMessageOpenBaseSize - 1 := hshort
    rw [parseWith, if_pos hleft]
  · have hlength := (fields_of_openHeader? hheader).2.2.2.2
    have hheader' : openHeader? (Mbuf.mk (b ++ behind) 0).rest = some (header, strings ++ behind) := by
      unfold openHeader? at hheader
      split at hheader
      · obtain ⟨rfl, rfl⟩ := Prod.mk.inj (Option.some.inj hheader)
        rfl
      · cases hheader
    have hleft : ¬ leftOf b.length ⟨b ++ behind, 0⟩ < 11 := by
      show ¬ b.length - 0 < 11
      omega
    rw [parseWith_eq _ id hheader', if_neg hleft]
    exact parseStrings_leftOf id header b behind

/-! ## Section 3: Encoding and parsing -/

section Outcomes

variable {answers : (o : Op) → Transport → o.Reply → Prop}

theorem rawrtcStrdup_always (hample : AmpleMemory answers) (s : Transport) (string : Option Bytes) :
    ((rawrtcStrdup string).run s).Always answers fun r s' => r = string.map cString ∧ s' = s := by
  cases string with
  | none => exact ⟨rfl, rfl⟩
  | some string =>
    intro ok hok
    have htrue : ok = true := hample s ok hok
    subst htrue
    exact ⟨rfl, rfl⟩

theorem dataChannelParametersCreate_always (hample : AmpleMemory answers) (s : Transport)
    (label : Option Bytes) (channelType : DataChannelType) (reliabilityParameter : UInt32)
    (protocol : Option Bytes) (negotiated : Bool) (id : Nat) :
    ((dataChannelParametersCreate label channelType reliabilityParameter protocol negotiated
      id).run s).Always answers fun r s' =>
        r = .ok (.ofFields (label.map cString) channelType reliabilityParameter
          (protocol.map cString) negotiated id) ∧ s' = s := by
  unfold dataChannelParametersCreate
  rw [Routine.run_bind, Prog.always_bind]
  apply (rawrtcStrdup_always hample s label).mono
  rintro _ s ⟨rfl, rfl⟩
  rw [Routine.run_bind, Prog.always_bind]
  apply (rawrtcStrdup_always hample s protocol).mono
  rintro _ s ⟨rfl, rfl⟩
  exact dataParametersCreate_always hample s _ channelType _ _ negotiated id

theorem dataChannelOpenMessageCreate_always (hample : AmpleMemory answers) (s : Transport)
    {parameters : DataChannelParameters} (hlabel : (stringBytes parameters.label).length < 2 ^ 16)
    (hprotocol : (stringBytes parameters.protocol).length < 2 ^ 16) :
    ((dataChannelOpenMessageCreate parameters).run s).Always answers fun r s' =>
      r = .ok { data := openMessageBytes parameters } ∧ s' = s := by
  unfold dataChannelOpenMessageCreate
  rw [if_neg (by omega)]
  intro ok hok
  have htrue : ok = true := hample s ok hok
  subst htrue
  exact ⟨rfl, rfl⟩

/-- A routine against an oracle ends in what always holds. -/
theorem exec_eq_of_always {α : Type} {oracle : (o : Op) → Transport → o.Reply}
    {p : Prog Op Op.Reply Transport α} {r : α} {s : Transport}
    (h : p.Always (fun o s r => oracle o s = r) fun r' s' => r' = r ∧ s' = s) :
    p.exec oracle = (r, s) := by
  obtain ⟨h₁, h₂⟩ := Prog.always_iff.mp h _ _ (Prog.outcome_exec oracle (fun _ _ => rfl) p)
  exact Prod.ext h₁ h₂

end Outcomes

/-! ## Section 4: The format -/

/-- What a routine returns, and the state it leaves behind, when its calls are answered by an
    oracle. -/
def M.outcome {α : Type} (m : M α) (oracle : (o : Op) → Transport → o.Reply) (s : Transport) :
    α × Transport :=
  (m.run s).exec oracle

/-- **Encoder and parser are inverse, and the parser accepts exactly the format.** -/
structure OpenFormat (oracle : (o : Op) → Transport → o.Reply) (s : Transport) : Prop where
  /-- What is encoded is parsed, whatever bytes follow. -/
  parse_create : ∀ (label protocol : Option Bytes) (channelType : DataChannelType)
    (reliabilityParameter : UInt32) (negotiated : Bool) (id : Nat),
    NulFree (label.getD []) → (label.getD []).length ≤ 65535 →
    NulFree (protocol.getD []) → (protocol.getD []).length ≤ 65535 →
    ∃ parameters message,
      (dataChannelParametersCreate label channelType reliabilityParameter protocol negotiated
        id).outcome oracle s = (.ok parameters, s) ∧
      (dataChannelOpenMessageCreate parameters).outcome oracle s = (.ok message, s) ∧
      ∀ trailing id',
        (dataChannelOpenMessageParse id' ⟨message.data.drop 1 ++ trailing, 0⟩).outcome oracle s =
          (.ok (.ofFields (presentString (label.getD [])) channelType reliabilityParameter
            (presentString (protocol.getD [])) false 0, dcepChannelPriorityNormal), s)
  /-- Strings that are too long are refused. -/
  create_refuses : ∀ (label protocol : Option Bytes) (channelType : DataChannelType)
    (reliabilityParameter : UInt32) (negotiated : Bool) (id : Nat),
    NulFree (label.getD []) → NulFree (protocol.getD []) →
    65535 < (label.getD []).length ∨ 65535 < (protocol.getD []).length →
    ∃ parameters,
      (dataChannelParametersCreate label channelType reliabilityParameter protocol negotiated
        id).outcome oracle s = (.ok parameters, s) ∧
      (dataChannelOpenMessageCreate parameters).outcome oracle s = (.error .invalidArgument, s)
  /-- The parser accepts exactly the well-formed messages. -/
  parse_iff : ∀ b id, (∃ result, (dataChannelOpenMessageParse id ⟨b, 0⟩).outcome oracle s =
    (.ok result, s)) ↔ WellFormedOpen b
  /-- The parser looks at nothing behind the message. -/
  parse_within : ∀ b behind id,
    parseWith (leftOf b.length) id ⟨b ++ behind, 0⟩ = dataChannelOpenMessageParse id ⟨b, 0⟩
  /-- What this library could have sent is encoded again as it was. -/
  create_parse : ∀ b id parameters,
    (dataChannelOpenMessageParse id ⟨b, 0⟩).outcome oracle s = (.ok (parameters, 256), s) →
    NulFree (b.drop 11) → b.length = 11 + declaredLabelLength b + declaredProtocolLength b →
    (parameters.channelType.isReliable = true → reliabilityField b = 0) →
    (dataChannelOpenMessageCreate parameters).outcome oracle s = (.ok { data := 0x03 :: b }, s)

section Format

variable {oracle : (o : Op) → Transport → o.Reply} {s : Transport}

theorem ampleMemory_of_oracle (halloc : ∀ s, oracle .alloc s = true) :
    AmpleMemory fun o s r => oracle o s = r := by
  intro s ok hok
  exact hok.symm.trans (halloc s)

theorem parse_outcome (halloc : ∀ s, oracle .alloc s = true) (id : Nat) (b : Bytes) :
    (dataChannelOpenMessageParse id ⟨b, 0⟩).outcome oracle s =
      ((decodeOpen b).elim (.error .invalidMessage) .ok, s) :=
  exec_eq_of_always (dataChannelOpenMessageParse_always (ampleMemory_of_oracle halloc) s id ⟨b, 0⟩)

theorem parametersCreate_outcome (halloc : ∀ s, oracle .alloc s = true)
    {label protocol : Option Bytes} (hlabel : NulFree (label.getD []))
    (hprotocol : NulFree (protocol.getD [])) (channelType : DataChannelType)
    (reliabilityParameter : UInt32) (negotiated : Bool) (id : Nat) :
    (dataChannelParametersCreate label channelType reliabilityParameter protocol negotiated
      id).outcome oracle s =
      (.ok (.ofFields label channelType reliabilityParameter protocol negotiated id), s) := by
  have hcopy : ∀ string : Option Bytes, NulFree (string.getD []) →
      string.map cString = string := by
    intro string hstring
    cases string with
    | none => rfl
    | some string => exact congrArg some (cString_of_nulFree hstring)
  have h := exec_eq_of_always (dataChannelParametersCreate_always (ampleMemory_of_oracle halloc) s
    label channelType reliabilityParameter protocol negotiated id)
  rw [hcopy label hlabel, hcopy protocol hprotocol] at h
  exact h

/-- **The format of OPEN messages**, for every state and all parameters, if memory suffices. -/
theorem openFormat (halloc : ∀ s, oracle .alloc s = true) (s : Transport) : OpenFormat oracle s where
  parse_create := by
    intro label protocol channelType reliabilityParameter negotiated id hl hl' hp hp'
    let parameters : DataChannelParameters :=
      .ofFields label channelType reliabilityParameter protocol negotiated id
    have hencodable : parameters.Encodable :=
      ⟨hl, Nat.lt_succ_of_le hl', hp, Nat.lt_succ_of_le hp'⟩
    have hlabel : stringBytes parameters.label = label.getD [] := cString_of_nulFree hl
    have hprotocol : stringBytes parameters.protocol = protocol.getD [] := cString_of_nulFree hp
    have hcreate := dataChannelOpenMessageCreate_always (ampleMemory_of_oracle halloc) s
      (hlabel.symm ▸ Nat.lt_succ_of_le hl') (hprotocol.symm ▸ Nat.lt_succ_of_le hp')
    refine ⟨parameters, _, parametersCreate_outcome halloc hl hp _ _ _ _,
      exec_eq_of_always hcreate, ?_⟩
    intro trailing id'
    rw [parse_outcome halloc, decodeOpen_openMessageBytes hencodable]
    -- the reliability parameter of a reliable type is zero already
    have hsame : parameters.announced = .ofFields (presentString (label.getD [])) channelType
        reliabilityParameter (presentString (protocol.getD [])) false 0 := by
      simp only [DataChannelParameters.announced, DataChannelParameters.ofFields, parameters]
      split <;> rfl
    rw [hsame]
    rfl
  create_refuses := by
    intro label protocol channelType reliabilityParameter negotiated id hl hp hlong
    have hlabel : stringBytes label = label.getD [] := cString_of_nulFree hl
    have hprotocol : stringBytes protocol = protocol.getD [] := cString_of_nulFree hp
    refine ⟨_, parametersCreate_outcome halloc hl hp _ _ _ _, ?_⟩
    rw [dataChannelOpenMessageCreate, if_pos]
    · rfl
    · show 2 ^ 16 - 1 < (stringBytes label).length ∨ 2 ^ 16 - 1 < (stringBytes protocol).length
      rw [hlabel, hprotocol]
      exact hlong
  parse_iff := by
    intro b id
    rw [← decodeOpen_isSome_iff, parse_outcome halloc]
    cases decodeOpen b with
    | none => simp
    | some result => simp
  parse_within b behind id := parseWith_leftOf id b behind
  create_parse := by
    intro b id parameters hparse hnul hend hreliable
    rw [parse_outcome halloc] at hparse
    rcases hdecode : decodeOpen b with _ | ⟨parameters', priority⟩
    · rw [hdecode] at hparse
      cases (Prod.mk.inj hparse).1
    rw [hdecode] at hparse
    obtain ⟨rfl, rfl⟩ := Prod.mk.inj (Except.ok.inj (Prod.mk.inj hparse).1)
    rcases hheader : openHeader? b with _ | ⟨header, strings⟩
    · rw [decodeOpen, hheader] at hdecode
      cases hdecode
    obtain ⟨-, hr, hl, hq, hlength⟩ := fields_of_openHeader? hheader
    rw [drop_of_openHeader? hheader] at hnul
    have hbytes := openMessageBytes_of_decodeOpen hheader hdecode rfl hnul (by omega)
      fun hrel => hr.trans (hreliable hrel)
    obtain ⟨hlabel, hprotocol⟩ := length_lt_of_decodeOpen hdecode
    have hcreate := exec_eq_of_always (dataChannelOpenMessageCreate_always
      (ampleMemory_of_oracle halloc) s hlabel hprotocol)
    rw [hbytes] at hcreate
    exact hcreate

/-- The format, where everything succeeds. -/
theorem openFormat_obliging : OpenFormat obligingOracle (.create false false false false 1200) :=
  openFormat (fun _ => rfl) _

end Format

end RawrtcDataChannel
