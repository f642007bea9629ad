import RawrtcDataChannel.Redirect.Header

/-!
# What the redirect transport forwards

A packet from the raw socket is passed on with its ports replaced and its checksum recomputed.
The test of the sender's address joins its two halves in the wrong way, so every sender whose
address is set passes it. Packets are forwarded exactly for the configured peer unless a packet of
somebody else carries the source port of the peer.
-/

namespace RawrtcDataChannel

open Reentrant

/-! ## Section 1: The packets -/

/-- The length an IPv4 header declares, in bytes. -/
def ipv4HeaderLength (packet : Bytes) : Nat :=
  ((packet.headD 0 &&& 0xf).toNat) * 4

/-- The bytes after the IPv4 header. -/
def sctpPacket (packet : Bytes) : Bytes :=
  packet.drop (ipv4HeaderLength packet)

/-- A full SCTP header follows the IPv4 header. -/
def HasSctpHeader (packet : Bytes) : Prop :=
  ipv4HeaderLength packet + 12 ≤ packet.length

instance (packet : Bytes) : Decidable (HasSctpHeader packet) :=
  inferInstanceAs (Decidable (_ ≤ _))

/-- The source port of an SCTP packet. -/
def sctpSourcePort (sctp : Bytes) : Nat :=
  (sctp.getD 0 0).toNat * 2 ^ 8 + (sctp.getD 1 0).toNat

/-- An SCTP packet with other ports. The checksum is computed with zeros in its place. -/
def redirected (source destination : Nat) (sctp : Bytes) : Bytes :=
  withPorts source destination
    (le32 (crc32c (withPorts source destination [0, 0, 0, 0] sctp))) sctp

/-! ## Section 2: Patching headers -/

section Patch

variable [SoftwareCrc32c] (t : RedirectTransport)

/-- Whichever implementation is installed, the checksum of a buffer is its CRC-32C. -/
theorem RedirectTransport.crc32c_eq (bytes : Bytes) :
    t.crc32c bytes = RawrtcDataChannel.crc32c bytes := by
  unfold RedirectTransport.crc32c
  rw [rawrtcCrc32c_eq, Memory.bytes_holding]

/-- The ports and the checksum are written in place, everything else is kept. -/
theorem patchSctpHeader_split (before sctp : Bytes) (source destination : Nat)
    (hlength : 12 ≤ sctp.length) :
    patchSctpHeader t (.split before sctp) source destination =
      .split before (redirected source destination sctp) := by
  have hcrc : t.crc32c = crc32c := funext t.crc32c_eq
  rw [patchSctpHeader_eq, hcrc]
  exact patchSctpHeaderWith_split crc32c before sctp source destination hlength

end Patch

/-! ## Section 3: Reading packets -/

section Read

variable {packet : Bytes}

/-- Skipping the IPv4 header as the code does, from behind its first byte. -/
theorem skip_ipv4Header (h : HasSctpHeader packet) :
    (((Mbuf.mk packet 0).readU8.2.retreat 1).advance
        (((Mbuf.mk packet 0).readU8.1 &&& 0xf).toNat * 4)) =
      .split (packet.take (ipv4HeaderLength packet)) (sctpPacket packet) := by
  unfold HasSctpHeader at h
  cases packet with
  | nil => simp [ipv4HeaderLength] at h
  | cons b packet =>
    have hle : ipv4HeaderLength (b :: packet) ≤ (b :: packet).length := by omega
    simp only [sctpPacket, Mbuf.split, List.take_append_drop, List.length_take,
      Nat.min_eq_left hle]
    simp [Mbuf.readU8, Mbuf.retreat, Mbuf.advance, ipv4HeaderLength]

/-- Reading both ports and going back to them. -/
theorem readU16_split (before : Bytes) {sctp : Bytes} (h : 4 ≤ sctp.length) :
    (Mbuf.split before sctp).readU16.1 = sctpSourcePort sctp ∧
      ((Mbuf.split before sctp).readU16.2.readU16.2).retreat 4 = .split before sctp := by
  rcases sctp with _ | ⟨b₀, _ | ⟨b₁, _ | ⟨b₂, _ | ⟨b₃, sctp⟩⟩⟩⟩
  · simp at h
  · simp at h
  · simp at h
  · simp at h
  · constructor
    · simp [Mbuf.readU16, sctpSourcePort]
    · simp [Mbuf.readU16, Mbuf.split, Mbuf.rest, Mbuf.advance, Mbuf.retreat]

end Read

section Forwarding

variable [SoftwareCrc32c] [SocketAddress] {t : RedirectTransport} {fromAddress : Sa}
  {packet : Bytes}

/-- The packet passes the tests of the code. -/
def PassesTests (t : RedirectTransport) (fromAddress : Sa) (packet : Bytes) : Prop :=
  t.flags.detached = false ∧
    (fromAddress.addr ≠ inaddrAny ∨ t.redirectAddress.addr = fromAddress.addr) ∧
    sctpSourcePort (sctpPacket packet) = t.redirectAddress.port

instance (t : RedirectTransport) (fromAddress : Sa) (packet : Bytes) :
    Decidable (PassesTests t fromAddress packet) :=
  inferInstanceAs (Decidable (_ ∧ _ ∧ _))

omit [SoftwareCrc32c] in
/-- The address test of the code. -/
theorem address_ignored_iff : (SocketAddress.saIsset fromAddress = false ∧
    SocketAddress.saCmp t.redirectAddress fromAddress = false) ↔
      ¬ (fromAddress.addr ≠ inaddrAny ∨ t.redirectAddress.addr = fromAddress.addr) := by
  have hisset := SocketAddress.saIsset_iff fromAddress
  have hcmp := SocketAddress.saCmp_iff t.redirectAddress fromAddress
  rw [← hisset, ← hcmp, not_or, Bool.not_eq_true, Bool.not_eq_true]

/-- The part of the code behind receiving a packet. -/
theorem redirectPacket_run (hbuffer : t.buffer = ⟨[], 0⟩) (hpacket : HasSctpHeader packet) :
    (redirectPacket fromAddress packet).run t =
      if fromAddress.addr ≠ inaddrAny ∨ t.redirectAddress.addr = fromAddress.addr then
        if sctpSourcePort (sctpPacket packet) = t.redirectAddress.port then
          .out (.outboundHandler (redirected t.localPort t.remotePort (sctpPacket packet)))
            (t.setBuffer (.split (packet.take (ipv4HeaderLength packet))
              (redirected t.localPort t.remotePort (sctpPacket packet))))
            fun _ s => .ret () s
        else
          .ret () (t.setBuffer
            (.split (packet.take (ipv4HeaderLength packet)) (sctpPacket packet)))
      else .ret () (t.setBuffer ⟨packet, 0⟩) := by
  have hlength : 12 ≤ (sctpPacket packet).length := by
    unfold HasSctpHeader at hpacket
    simp only [sctpPacket, List.length_drop]
    omega
  have hreceive : t.buffer.receive packet = ⟨packet, 0⟩ := by
    simp [hbuffer, Mbuf.receive]
  have hport : 4 ≤ (sctpPacket packet).length := by omega
  obtain ⟨hsource, hback⟩ := readU16_split (packet.take (ipv4HeaderLength packet)) hport
  simp only [redirectPacket, Routine.run_bind, Routine.run_get, Prog.bind, Routine.run_ite,
    Routine.run_modify, hreceive, RedirectTransport.setBuffer, address_ignored_iff, ite_not,
    Routine.run_pure, ne_eq]
  rw [skip_ipv4Header hpacket, hback, hsource, patchSctpHeader_split _ _ _ _ _ hlength,
    Mbuf.rest_split]
  rfl

/-- **What happens to a packet from the raw socket.** If it passes the tests it is handed out with
    its ports replaced, and whatever happens meanwhile, the buffer is rewound in the end. -/
theorem redirectFromRaw_run (hbuffer : t.buffer = ⟨[], 0⟩) (hpacket : HasSctpHeader packet) :
    (redirectFromRaw true (.packet fromAddress packet)).run t =
      if PassesTests t fromAddress packet then
        .out (.outboundHandler (redirected t.localPort t.remotePort (sctpPacket packet)))
          (t.setBuffer (.split (packet.take (ipv4HeaderLength packet))
            (redirected t.localPort t.remotePort (sctpPacket packet))))
          fun _ s => .ret () s.rewind
      else .ret () t.rewind := by
  have hrewound : t.rewind = t := by
    simp only [RedirectTransport.rewind, RedirectTransport.setBuffer, ← hbuffer]
  by_cases hdetached : t.flags.detached = true
  · -- a detached transport reads nothing
    have hfails : ¬ PassesTests t fromAddress packet := by simp [PassesTests, hdetached]
    rw [if_neg hfails, hrewound]
    simp only [redirectFromRaw, Routine.run_bind, Routine.run_get, Prog.bind, hdetached,
      Routine.run_ite, if_true, Routine.run_pure]
  · simp only [redirectFromRaw, Routine.run_bind, Routine.run_get, Prog.bind, Routine.run_ite,
      if_neg hdetached, if_true, Routine.run_modify, redirectPacket_run hbuffer hpacket]
    have hattached : t.flags.detached = false := by simpa using hdetached
    by_cases haddress : fromAddress.addr ≠ inaddrAny ∨ t.redirectAddress.addr = fromAddress.addr
    · by_cases hport : sctpSourcePort (sctpPacket packet) = t.redirectAddress.port
      · rw [if_pos haddress, if_pos hport, if_pos ⟨hattached, haddress, hport⟩]
        rfl
      · rw [if_pos haddress, if_neg hport, if_neg fun h => hport h.2.2]
        rfl
    · rw [if_neg haddress, if_neg fun h => haddress h.2.1]
      rfl

end Forwarding

/-! ## Section 4: Every run -/

section Runs

variable [SoftwareCrc32c] [SocketAddress]

/-- The call reads from the raw socket. -/
def RedirectCall.ReadsRaw (a : RedirectCall) : Prop :=
  ∃ fdRead received, a = .fromRaw fdRead received

/-- The receive buffer is rewound, unless a packet from the raw socket is just being handled. -/
def BufferRewound (fs : List (RedirectCall × RedirectOp)) (t : RedirectTransport) : Prop :=
  (∀ f ∈ fs, ¬ f.1.ReadsRaw) → t.buffer = ⟨[], 0⟩

/-- The contract that keeps the receive buffer rewound. -/
def rewindContract : Contract RedirectCall RedirectOp RedirectOp.Reply RedirectTransport where
  inv := BufferRewound
  since _ _ _ := True
  rely _ _ _ := True
  answers _ _ _ := True

omit [SoftwareCrc32c] [SocketAddress] in
/-- A call that does not read from the raw socket leaves the buffer to those below it. -/
theorem bufferRewound_cons {a : RedirectCall} {o : RedirectOp}
    {fs : List (RedirectCall × RedirectOp)} {t : RedirectTransport} (ha : ¬ a.ReadsRaw) :
    BufferRewound ((a, o) :: fs) t ↔ BufferRewound fs t := by
  constructor
  · intro h hfs
    apply h
    intro f hf
    rcases List.mem_cons.mp hf with rfl | hf
    · exact ha
    · exact hfs f hf
  · intro h hfs
    exact h fun f hf => hfs f (List.mem_cons_of_mem _ hf)

omit [SoftwareCrc32c] [SocketAddress] in
/-- Calling out in a call that does not read from the raw socket. -/
theorem rewind_safe_out {α : Type} {a : RedirectCall} {o : RedirectOp}
    {fs : List (RedirectCall × RedirectOp)} {s₀ s : RedirectTransport}
    {k : o.Reply → RedirectTransport → Prog RedirectOp RedirectOp.Reply RedirectTransport α}
    {Q : α → RedirectTransport → Prop} (ha : ¬ a.ReadsRaw) (h : BufferRewound fs s)
    (hk : ∀ r s', BufferRewound fs s' → (k r s').Safe rewindContract a fs s₀ Q) :
    (Prog.out o s k).Safe rewindContract a fs s₀ Q := by
  refine ⟨⟨(bufferRewound_cons ha).mpr h, trivial⟩, ?_⟩
  intro r s' h' _ _
  exact hk r s' ((bufferRewound_cons ha).mp h')

omit [SoftwareCrc32c] [SocketAddress] in
/-- A call that reads from the raw socket may do anything before it rewinds the buffer. -/
theorem rewind_safe_readsRaw {α : Type} {a : RedirectCall}
    {fs : List (RedirectCall × RedirectOp)} {s₀ : RedirectTransport}
    {Q : α → RedirectTransport → Prop} (ha : a.ReadsRaw)
    (p : Prog RedirectOp RedirectOp.Reply RedirectTransport α) (hQ : ∀ r s, Q r s) :
    p.Safe rewindContract a fs s₀ Q := by
  induction p with
  | ret r s => exact hQ r s
  | out o s k ih =>
    have hvacuous : ∀ s', BufferRewound ((a, o) :: fs) s' :=
      fun s' h => absurd ha (h _ List.mem_cons_self)
    exact ⟨⟨hvacuous s, trivial⟩, fun r s' _ _ _ => ih r s'⟩

omit [SoftwareCrc32c] [SocketAddress] in
theorem redirectSetState_safe {a : RedirectCall} {fs : List (RedirectCall × RedirectOp)}
    {s₀ s : RedirectTransport} (ha : ¬ a.ReadsRaw) (state : RedirectTransportState)
    (h : BufferRewound fs s) : ((redirectSetState state).run s).Safe rewindContract a fs s₀
      fun _ s' => BufferRewound fs s' := by
  -- the end of the routine, from the state it is in behind the detach handler
  have hend : ∀ s', BufferRewound fs s' →
      ((do modify (·.setState state); let t ← get
           if t.stateChangeHandler then
             redirectStateChangeHandler state : RedirectM Unit).run s').Safe
        rewindContract a fs s₀ fun _ s'' => BufferRewound fs s'' := by
    intro s' h'
    simp only [Routine.run_bind, Routine.run_modify, Prog.bind, Routine.run_get, Routine.run_ite,
      run_redirectStateChangeHandler]
    split
    · exact rewind_safe_out ha h' fun _ s'' h'' => h''
    · exact h'
  unfold redirectSetState
  by_cases hclosed : state = .closed
  · simp only [if_pos hclosed, Routine.run_bind, Routine.run_modify, Prog.bind,
      run_redirectDetachHandler]
    exact rewind_safe_out ha h fun _ s' h' => hend s' h'
  · rw [if_neg hclosed]
    exact hend s h

/-- Every entry point leaves the receive buffer rewound. -/
theorem redirectCall_safe (a : RedirectCall) {fs : List (RedirectCall × RedirectOp)}
    {s : RedirectTransport} (h : BufferRewound fs s) (hpermitted : a.Permitted fs) :
    (a.run.run s).Safe rewindContract a fs s fun _ s' => BufferRewound fs s' := by
  cases a with
  | start remotePort =>
    have ha : ¬ (RedirectCall.start remotePort).ReadsRaw := by simp [RedirectCall.ReadsRaw]
    simp only [RedirectCall.run, redirectTransportStart, Routine.run_map, Routine.run_bind,
      Routine.run_get, Prog.bind, Routine.run_ite]
    split
    · exact h
    · simp only [Routine.run_modify, Prog.bind, run_fdListen]
      refine rewind_safe_out ha h fun error s' h' => ?_
      cases error with
      | some error => exact h'
      | none =>
        simp only [Routine.run_bind, Prog.safe_bind]
        exact (redirectSetState_safe ha _ h').mono fun _ _ h'' => h''
  | stop =>
    have ha : ¬ RedirectCall.stop.ReadsRaw := by simp [RedirectCall.ReadsRaw]
    simp only [RedirectCall.run, redirectTransportStop, Routine.run_map, Routine.run_bind,
      Routine.run_get, Prog.bind, Routine.run_ite]
    split
    · exact h
    · simp only [Prog.safe_bind]
      exact (redirectSetState_safe ha _ h).mono fun _ _ h' => h'
  | feedInbound buffer =>
    have ha : ¬ (RedirectCall.feedInbound buffer).ReadsRaw := by simp [RedirectCall.ReadsRaw]
    simp only [RedirectCall.run, redirectTransportFeedInbound, Routine.run_map, Routine.run_bind,
      Routine.run_get, Prog.bind, Routine.run_ite]
    split
    · exact h
    split
    · exact h
    · simp only [Prog.bind, run_sendto]
      refine rewind_safe_out ha h fun error s' h' => ?_
      cases error <;> exact h'
  | fromRaw fdRead received =>
    -- packets are only read when nothing is suspended
    have hfs : fs = [] := by
      cases fs with
      | nil => rfl
      | cons f fs => exact absurd rfl ((hpermitted f List.mem_cons_self).1 fdRead received)
    subst hfs
    simp only [RedirectCall.run, redirectFromRaw, Routine.run_bind, Routine.run_get, Prog.bind,
      Routine.run_ite]
    split
    · exact h
    · cases fdRead with
      | false => exact fun _ => rfl
      | true =>
        cases received with
        | error => exact fun _ => rfl
        | packet fromAddress bytes =>
          simp only [if_true, Routine.run_bind, Prog.safe_bind, Routine.run_modify, Prog.safe_ret]
          -- the buffer is rewound whatever happened before
          exact rewind_safe_readsRaw ⟨true, _, rfl⟩ _ fun _ _ _ => rfl

/-- Whenever no call is in progress the receive buffer is rewound. -/
theorem reachable_bufferRewound {t₀ t : RedirectTransport} (hstart : t₀.buffer = ⟨[], 0⟩)
    (h : Reachable redirectHost t₀ ⟨t, []⟩) : t.buffer = ⟨[], 0⟩ := by
  have hinv : BufferRewound (pending []) t :=
    reachable_invariant (C := rewindContract) (fun _ _ => trivial) (fun _ _ _ _ _ _ => trivial)
      (fun _ _ _ _ => trivial)
      (fun a _ _ hinv hp => (redirectCall_safe a hinv hp).mono fun _ _ h' => ⟨h', trivial⟩)
      (fun _ => hstart) h
  exact hinv fun f hf => absurd hf List.not_mem_nil

/-! ## Section 5: Only packets of the configured peer -/

/-- The packet comes from the configured peer of a transport that is not detached. -/
def FromPeer (t : RedirectTransport) (fromAddress : Sa) (packet : Bytes) : Prop :=
  t.flags.detached = false ∧ fromAddress.addr = t.redirectAddress.addr ∧
    sctpSourcePort (sctpPacket packet) = t.redirectAddress.port

/-- A packet is handed out if and only if it comes from the configured peer, and then once, with
    nothing but its ports and its checksum replaced. In all cases, and whatever the handler does,
    the receive buffer is rewound in the end. -/
structure ForwardsForPeer (t : RedirectTransport) (fromAddress : Sa) (packet : Bytes) : Prop where
  forwarded : FromPeer t fromAddress packet → ∃ s,
    (redirectFromRaw true (.packet fromAddress packet)).run t =
      .out (.outboundHandler (redirected t.localPort t.remotePort (sctpPacket packet))) s
        fun _ s' => .ret () s'.rewind
  ignored : ¬ FromPeer t fromAddress packet →
    (redirectFromRaw true (.packet fromAddress packet)).run t = .ret () t.rewind

/-- The packet comes from another host than the configured peer, and has its source port. -/
def InjectedPacket (t : RedirectTransport) (fromAddress : Sa) (packet : Bytes) : Prop :=
  t.flags.detached = false ∧ fromAddress.addr ≠ inaddrAny ∧
    fromAddress.addr ≠ t.redirectAddress.addr ∧
    sctpSourcePort (sctpPacket packet) = t.redirectAddress.port

/-- **When only packets of the configured peer are forwarded**: in every state between two calls,
    exactly when the packet is not one that another host sends with the source port of the peer. -/
theorem forwardsForPeer_iff {port : Nat} {redirectAddress : Sa} {stateChangeHandler : Bool}
    {bufferAddress : Nat} {enableSse42 sse42Supported : Bool} {t : RedirectTransport}
    (h : Reachable redirectHost (.create port redirectAddress stateChangeHandler bufferAddress
      enableSse42 sse42Supported) ⟨t, []⟩)
    {fromAddress : Sa} {packet : Bytes} (hpacket : HasSctpHeader packet) :
    ForwardsForPeer t fromAddress packet ↔ ¬ InjectedPacket t fromAddress packet := by
  have hbuffer : t.buffer = ⟨[], 0⟩ := reachable_bufferRewound rfl h
  have hrun : (redirectFromRaw true (.packet fromAddress packet)).run t = _ :=
    redirectFromRaw_run hbuffer hpacket
  constructor
  · -- a packet of another host passes the tests
    rintro hforwards ⟨hattached, hset, hother, hport⟩
    have hpasses : PassesTests t fromAddress packet := ⟨hattached, .inl hset, hport⟩
    have hignored := hforwards.ignored fun hpeer => hother hpeer.2.1
    rw [hrun, if_pos hpasses] at hignored
    cases hignored
  · intro hclean
    constructor
    · rintro ⟨hattached, haddress, hport⟩
      have hpasses : PassesTests t fromAddress packet := ⟨hattached, .inr haddress.symm, hport⟩
      exact ⟨_, by rw [hrun, if_pos hpasses]⟩
    · intro hother
      have hfails : ¬ PassesTests t fromAddress packet := by
        rintro ⟨hattached, haddress, hport⟩
        have hne : t.redirectAddress.addr ≠ fromAddress.addr :=
          fun heq => hother ⟨hattached, heq.symm, hport⟩
        exact hclean ⟨hattached, haddress.resolve_right hne, hne.symm, hport⟩
      rw [hrun, if_neg hfails]

end Runs

/-- A transport for the peer 10.0.0.2 with port 5000. -/
def sampleRedirect : RedirectTransport :=
  .create 0 ⟨0x0a000002, 5000⟩ false 0 false false

/-- The same transport after it has been started. -/
def openedRedirect : RedirectTransport :=
  (sampleRedirect.setRemotePort 5000).setState .opened

theorem reachable_openedRedirect :
    Reachable (@redirectHost bitwiseCrc32c plainSocketAddress) sampleRedirect
      ⟨openedRedirect, []⟩ := by
  refine Reachable.start.enter_outcome (a := .start 0) (r := ()) ?_ ?_
  · exact fun f hf => absurd hf List.not_mem_nil
  · exact .out _ _ _ (none : Option Failure) _ _ trivial (.ret _ _)

/-- A packet with an IPv4 header of 20 bytes and the source port 5000. -/
def samplePacket : Bytes :=
  0x45 :: List.replicate 19 0 ++ be16 5000 ++ List.replicate 10 0

/-- A packet of the configured peer is forwarded. -/
theorem forwardsForPeer_iff_sample :
    @ForwardsForPeer bitwiseCrc32c plainSocketAddress openedRedirect ⟨0x0a000002, 0⟩ samplePacket ↔
      ¬ InjectedPacket openedRedirect ⟨0x0a000002, 0⟩ samplePacket :=
  @forwardsForPeer_iff bitwiseCrc32c plainSocketAddress 0 ⟨0x0a000002, 5000⟩ false 0 false false
    openedRedirect reachable_openedRedirect ⟨0x0a000002, 0⟩ samplePacket (by decide)

/-- Another host sends a packet with the source port of the peer, and it is forwarded. -/
theorem not_forwardsForPeer : ∃ t,
    Reachable (@redirectHost bitwiseCrc32c plainSocketAddress) sampleRedirect ⟨t, []⟩ ∧
      ¬ @ForwardsForPeer bitwiseCrc32c plainSocketAddress t ⟨0x0a000003, 0⟩ samplePacket := by
  refine ⟨openedRedirect, reachable_openedRedirect, fun hforwards => ?_⟩
  have hother : ¬ FromPeer openedRedirect ⟨0x0a000003, 0⟩ samplePacket := by
    rintro ⟨-, haddress, -⟩
    exact absurd haddress (by decide)
  have hignored := @ForwardsForPeer.ignored bitwiseCrc32c plainSocketAddress _ _ _ hforwards hother
  rw [@redirectFromRaw_run bitwiseCrc32c plainSocketAddress _ _ _ rfl (by decide),
    if_pos ⟨rfl, .inl (by decide), by decide⟩] at hignored
  cases hignored

end RawrtcDataChannel
