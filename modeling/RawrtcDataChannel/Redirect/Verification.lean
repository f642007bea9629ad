import RawrtcDataChannel.Redirect.Header

/-!
# Checksums that are written and checksums that are verified

Two routines put a checksum into the header of a packet, `patch_sctp_header` and
`sctp_packet_handler`, and `rawrtc_sctp_transport_feed_inbound` verifies it. They agree for any
function in the place of the CRC: whatever the first two write the third one accepts.
-/

namespace RawrtcDataChannel

/-! ## Section 1: Reading back a checksum -/

theorem wordLe32_le32 (v : BitVec 32) : wordLe32 (le32 v) = v := by
  simp only [wordLe32, le32]
  ext i hi
  simp only [BitVec.getElem_append, BitVec.getElem_setWidth, BitVec.getLsbD_ushiftRight]
  grind

theorem le32_wordLe32 {bytes : Bytes} (h : bytes.length = 4) :
    le32 (wordLe32 bytes) = bytes := by
  obtain ⟨b₀, b₁, b₂, b₃, rfl⟩ := List.length_eq_four.mp h
  set v := wordLe32 [b₀, b₁, b₂, b₃] with hv
  simp only [wordLe32] at hv
  have hbyte : ∀ k (b : UInt8), (∀ i (_ : i < 8), v.getLsbD (k + i) = b.toBitVec.getLsbD i) →
      (⟨(v >>> k).setWidth 8⟩ : UInt8) = b := by
    intro k b hbits
    apply UInt8.eq_of_toBitVec_eq
    apply BitVec.eq_of_getLsbD_eq
    intro i hi
    simp [hi, hbits i hi]
  have h₀ := hbyte 0 b₀ (by intro i hi; simp only [hv, BitVec.getLsbD_append]; grind)
  have h₁ := hbyte 8 b₁ (by intro i hi; simp only [hv, BitVec.getLsbD_append]; grind)
  have h₂ := hbyte 16 b₂ (by intro i hi; simp only [hv, BitVec.getLsbD_append]; grind)
  have h₃ := hbyte 24 b₃ (by intro i hi; simp only [hv, BitVec.getLsbD_append]; grind)
  rw [BitVec.ushiftRight_zero] at h₀
  rw [le32, h₀, h₁, h₂, h₃]

/-! ## Section 2: What is accepted -/

section Feed

variable {crc : Bytes → BitVec 32} {t : Transport} {buffer : Mbuf}

theorem setRest_rest (buffer : Mbuf) : buffer.setRest buffer.rest = buffer := by
  simp [Mbuf.setRest, Mbuf.rest]

/-- A packet with a full header. The checksum is put back before anything is decided. -/
theorem sctpTransportFeedInbound_of_header (hattached : t.flags.detached = false)
    (hlength : 12 ≤ buffer.getLeft) : sctpTransportFeedInbound crc t buffer =
      if wordLe32 (checksumField buffer.rest) = crc (withChecksum (le32 0) buffer.rest) then
        { code := .success, buffer := buffer, conninput := some buffer.rest }
      else
        { code := .invalidMessage, buffer := buffer } := by
  have hrest : 12 ≤ buffer.rest.length := hlength
  have hback : withChecksum (le32 (wordLe32 (checksumField buffer.rest)))
      (withChecksum (le32 0) buffer.rest) = buffer.rest := by
    rw [withChecksum_withChecksum hrest (length_le32 0),
      le32_wordLe32 (length_checksumField hrest), withChecksum_checksumField]
  have henabled : checksumFlags.disableInbound = false := rfl
  unfold sctpTransportFeedInbound
  rw [if_neg (by simp [hattached]), if_pos henabled]
  simp only [sctpCommonHeaderSize, if_pos hrest, hback, setRest_rest, ne_eq, ite_not]

/-- Nothing is written into the buffer, whether the packet is accepted or not. -/
theorem buffer_sctpTransportFeedInbound (crc : Bytes → BitVec 32) (t : Transport) (buffer : Mbuf) :
    (sctpTransportFeedInbound crc t buffer).buffer = buffer := by
  by_cases hattached : t.flags.detached = false
  · by_cases hlength : 12 ≤ buffer.getLeft
    · rw [sctpTransportFeedInbound_of_header hattached hlength]
      split <;> rfl
    · have henabled : checksumFlags.disableInbound = false := rfl
      unfold sctpTransportFeedInbound
      have hshort : ¬ sctpCommonHeaderSize ≤ buffer.rest.length := hlength
      rw [if_neg (by simp [hattached]), if_pos henabled, if_neg hshort]
  · unfold sctpTransportFeedInbound
    rw [if_pos (by simpa using hattached)]

/-- A packet is accepted if its checksum is the CRC of the packet with zeros in its place. -/
theorem sctpTransportFeedInbound_success_iff (hattached : t.flags.detached = false)
    (hlength : 12 ≤ buffer.getLeft) : (sctpTransportFeedInbound crc t buffer).code = .success ↔
      checksumField buffer.rest = le32 (crc (withChecksum (le32 0) buffer.rest)) := by
  have hword : wordLe32 (checksumField buffer.rest) = crc (withChecksum (le32 0) buffer.rest) ↔
      checksumField buffer.rest = le32 (crc (withChecksum (le32 0) buffer.rest)) := by
    constructor
    · intro h
      rw [← h, le32_wordLe32 (length_checksumField hlength)]
    · intro h
      rw [h, wordLe32_le32]
  rw [sctpTransportFeedInbound_of_header hattached hlength, ← hword]
  split
  · next h => exact iff_of_true rfl h
  · next h => exact iff_of_false nofun h

/-- The packet passes the verification of every transport that is not detached. -/
def Verifies (crc : Bytes → BitVec 32) (buffer : Mbuf) : Prop :=
  ∀ t : Transport, t.flags.detached = false →
    (sctpTransportFeedInbound crc t buffer).code = .success

/-- A packet whose checksum has been computed with zeros in its place. -/
theorem verifies_split {before sctp : Bytes} (hlength : 12 ≤ sctp.length)
    (hchecksum : checksumField sctp = le32 (crc (withChecksum (le32 0) sctp))) :
    Verifies crc (.split before sctp) := by
  intro t hattached
  have hleft : 12 ≤ (Mbuf.split before sctp).getLeft := by
    rw [Mbuf.getLeft, Mbuf.rest_split]
    exact hlength
  rw [sctpTransportFeedInbound_success_iff hattached hleft, Mbuf.rest_split]
  exact hchecksum

end Feed

/-! ## Section 3: What is written -/

section Write

variable {crc : Bytes → BitVec 32} {t : Transport}

/-- The checksum of a patched header. -/
theorem checksumField_redirectedWith {sctp : Bytes} (hlength : 12 ≤ sctp.length)
    (source destination : Nat) :
    checksumField (redirectedWith crc source destination sctp) =
      le32 (crc (withChecksum (le32 0) (redirectedWith crc source destination sctp))) := by
  have hzero : le32 0 = [0, 0, 0, 0] := rfl
  have hblank : withChecksum (le32 0) (redirectedWith crc source destination sctp) =
      withPorts source destination [0, 0, 0, 0] sctp := by
    rw [redirectedWith, withChecksum_withPorts hlength (length_le32 _), hzero]
  have hsum : redirectedWith crc source destination sctp =
      withChecksum (le32 (crc (withPorts source destination [0, 0, 0, 0] sctp)))
        (withPorts source destination [0, 0, 0, 0] sctp) :=
    (withChecksum_withPorts hlength rfl).symm
  rw [hblank, hsum]
  apply checksumField_withChecksum _ (length_le32 _)
  rwa [length_withPorts hlength rfl]

/-- What `patch_sctp_header` does to a buffer. -/
structure Patched (crc : Bytes → BitVec 32) (source destination : Nat) (buffer patched : Mbuf) :
    Prop where
  pos : patched.pos = buffer.pos
  end_ : patched.data.length = buffer.data.length
  before : patched.data.take patched.pos = buffer.data.take buffer.pos
  ports : patched.rest.take 4 = be16 source ++ be16 destination
  verificationTag : (patched.rest.drop 4).take 4 = (buffer.rest.drop 4).take 4
  chunks : patched.rest.drop 12 = buffer.rest.drop 12
  verifies : Verifies crc patched

theorem patched_patchSctpHeaderWith (crc : Bytes → BitVec 32) {buffer : Mbuf}
    (hlength : 12 ≤ buffer.getLeft) (source destination : Nat) : Patched crc source destination buffer
      (patchSctpHeaderWith crc buffer source destination) := by
  have hpos : buffer.pos ≤ buffer.data.length := Mbuf.pos_le_of_getLeft (by omega)
  obtain ⟨before, sctp, rfl⟩ : ∃ before sctp, buffer = .split before sctp :=
    ⟨_, _, Mbuf.eq_split hpos⟩
  have hsctp : 12 ≤ sctp.length := by rwa [Mbuf.getLeft, Mbuf.rest_split] at hlength
  have hpatched : (redirectedWith crc source destination sctp).length = sctp.length :=
    length_withPorts hsctp (length_le32 _)
  rw [patchSctpHeaderWith_split crc before sctp source destination hsctp]
  refine ⟨rfl, ?_, ?_, ?_, ?_, ?_, ?_⟩
  · simp [Mbuf.split, hpatched]
  · simp [Mbuf.split]
  · rw [Mbuf.rest_split, redirectedWith, withPorts, List.append_assoc, List.append_assoc]
    show List.take (be16 source ++ be16 destination).length _ = _
    exact List.take_left
  · rw [Mbuf.rest_split, Mbuf.rest_split]
    exact verificationTag_withPorts hsctp
  · rw [Mbuf.rest_split, Mbuf.rest_split]
    exact drop_withPorts hsctp (length_le32 _)
  · apply verifies_split (hpatched ▸ hsctp)
    exact checksumField_redirectedWith hsctp source destination

/-- Patching twice. -/
theorem patchSctpHeaderWith_twice {buffer : Mbuf} (hlength : 12 ≤ buffer.getLeft)
    (source destination source' destination' : Nat) :
    patchSctpHeaderWith crc (patchSctpHeaderWith crc buffer source destination) source'
      destination' = patchSctpHeaderWith crc buffer source' destination' := by
  have hpos : buffer.pos ≤ buffer.data.length := Mbuf.pos_le_of_getLeft (by omega)
  obtain ⟨before, sctp, rfl⟩ : ∃ before sctp, buffer = .split before sctp :=
    ⟨_, _, Mbuf.eq_split hpos⟩
  have hsctp : 12 ≤ sctp.length := by rwa [Mbuf.getLeft, Mbuf.rest_split] at hlength
  have hpatched : (redirectedWith crc source destination sctp).length = sctp.length :=
    length_withPorts hsctp (length_le32 _)
  rw [patchSctpHeaderWith_split crc before sctp source destination hsctp,
    patchSctpHeaderWith_split crc before _ source' destination' (hpatched ▸ hsctp),
    patchSctpHeaderWith_split crc before sctp source' destination' hsctp]
  simp only [redirectedWith, withPorts_withPorts hsctp (length_le32 _)]

/-- Patch with one pair of ports after the other. -/
def patchSctpHeaders (crc : Bytes → BitVec 32) (buffer : Mbuf) : List (Nat × Nat) → Mbuf
  | [] => buffer
  | (source, destination) :: ports =>
    patchSctpHeaders crc (patchSctpHeaderWith crc buffer source destination) ports

/-- Only the last ports matter. -/
theorem patchSctpHeaders_append {buffer : Mbuf} (hlength : 12 ≤ buffer.getLeft)
    (ports : List (Nat × Nat)) (source destination : Nat) :
    patchSctpHeaders crc buffer (ports ++ [(source, destination)]) =
      patchSctpHeaderWith crc buffer source destination := by
  induction ports generalizing buffer with
  | nil => rfl
  | cons port ports ih =>
    -- a patched packet is as long as before
    have hpatched := patched_patchSctpHeaderWith crc hlength port.1 port.2
    have hlength' : 12 ≤ (patchSctpHeaderWith crc buffer port.1 port.2).getLeft := by
      simp only [Mbuf.getLeft, Mbuf.rest, List.length_drop, hpatched.end_, hpatched.pos]
      simpa [Mbuf.getLeft, Mbuf.rest] using hlength
    rw [List.cons_append, patchSctpHeaders]
    rw [ih hlength', patchSctpHeaderWith_twice hlength]

/-- What `sctp_packet_handler` passes out has a valid checksum if usrsctp left zeros for it. -/
theorem verifies_sctpPacketHandler {packet : Bytes} {buffer : Mbuf}
    (hzero : checksumField packet = le32 0) (h : sctpPacketHandler crc t packet = some buffer) :
    Verifies crc buffer := by
  have henabled : checksumFlags.disableOutbound = false := rfl
  unfold sctpPacketHandler at h
  rw [if_pos henabled] at h
  split at h
  · cases h
  · split at h
    · next hlength =>
      obtain rfl := Option.some.inj h
      have hblank : withChecksum (le32 0) packet = packet := by
        rw [← hzero, withChecksum_checksumField]
      show Verifies crc (.split [] (withChecksum (le32 (crc packet)) packet))
      apply verifies_split
      · rwa [length_withChecksum hlength (length_le32 _)]
      · rw [checksumField_withChecksum hlength (length_le32 _),
          withChecksum_withChecksum hlength (length_le32 _), hblank]
    · cases h

end Write

/-! ## Section 4: Agreement -/

/-- The routines that write checksums and the one that verifies them agree. -/
structure ChecksumsAgree (crc : Bytes → BitVec 32) : Prop where
  patched : ∀ buffer source destination, 12 ≤ buffer.getLeft →
    Patched crc source destination buffer (patchSctpHeaderWith crc buffer source destination)
  lastPorts : ∀ buffer ports source destination, 12 ≤ buffer.getLeft →
    patchSctpHeaders crc buffer (ports ++ [(source, destination)]) =
      patchSctpHeaderWith crc buffer source destination
  handler : ∀ t packet buffer, checksumField packet = le32 0 →
    sctpPacketHandler crc t packet = some buffer → Verifies crc buffer
  accepted_iff : ∀ t buffer, t.flags.detached = false → 12 ≤ buffer.getLeft →
    ((sctpTransportFeedInbound crc t buffer).code = .success ↔
      checksumField buffer.rest = le32 (crc (withChecksum (le32 0) buffer.rest)))
  unchanged : ∀ t buffer, (sctpTransportFeedInbound crc t buffer).buffer = buffer

/-- **Checksum writers and the checksum verifier agree**, whatever function the CRC is. -/
theorem checksumsAgree (crc : Bytes → BitVec 32) : ChecksumsAgree crc where
  patched _ source destination hlength := patched_patchSctpHeaderWith crc hlength source destination
  lastPorts _ ports source destination hlength :=
    patchSctpHeaders_append hlength ports source destination
  handler _ _ _ hzero h := verifies_sctpPacketHandler hzero h
  accepted_iff _ _ hattached hlength := sctpTransportFeedInbound_success_iff hattached hlength
  unchanged := buffer_sctpTransportFeedInbound crc

/-- What the redirect transport patches is accepted by an SCTP transport. -/
theorem verifies_patchSctpHeader [SoftwareCrc32c] (t : RedirectTransport) {buffer : Mbuf}
    (hlength : 12 ≤ buffer.getLeft) (source destination : Nat) :
    Verifies t.crc32c (patchSctpHeader t buffer source destination) :=
  (patched_patchSctpHeaderWith t.crc32c hlength source destination).verifies

end RawrtcDataChannel
