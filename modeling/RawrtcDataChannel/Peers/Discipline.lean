import RawrtcDataChannel.Peers.Bookkeeping
import RawrtcDataChannel.Reentrant.Tracking

/-!
# What an endpoint promises

An endpoint is a connected transport with its application and its event loop. Handlers may use the
library in any way that does not end the connection. There is one restriction more: a channel is not
closed while it is being announced to the application, because its registration would go on after
that and open it again.

What an endpoint does from one pause to the next looks to its peer like moves of a party, and what
is done while a handler runs like acts. Messages are handed over only when something is delivered.
-/

namespace RawrtcDataChannel

open Reentrant Streams

/-! ## Section 1: Roles -/

/-- The DTLS role of a party. -/
def roleOf : Side → DtlsRole
  | .client => .client
  | .server => .server

/-- The party that opens channels on a stream. -/
def openerOf (sid : Nat) : Side :=
  if sid % 2 = 0 then .client else .server

theorem firstSid_roleOf (e : Side) : ∃ i, firstSid (roleOf e) = some i ∧ openerOf i = e := by
  cases e with
  | client => exact ⟨0, rfl, rfl⟩
  | server => exact ⟨1, rfl, rfl⟩

/-- The search for a free slot looks at the streams of one party only. -/
theorem openerOf_findFreeSid {t : Transport} {fuel i j : Nat}
    (h : findFreeSid t fuel i = some j) : openerOf j = openerOf i := by
  induction fuel generalizing i with
  | zero => cases h
  | succ fuel ih =>
    simp only [findFreeSid] at h
    by_cases hi : i < t.nChannels
    · rw [if_pos hi] at h
      by_cases hfree : t.channels i = none
      · rw [if_pos hfree] at h
        rw [Option.some.inj h]
      · rw [if_neg hfree] at h
        rw [ih h]
        simp [openerOf]
    · rw [if_neg hi] at h
      cases h

theorem peerParity_roleOf {e : Side} {sid : Nat} (h : openerOf sid = e.other) :
    peerParity (roleOf e) sid = true := by
  cases e with
  | client =>
    have hodd : sid % 2 ≠ 0 := by
      intro heven
      simp [openerOf, heven, Side.other] at h
    simp only [peerParity, roleOf, decide_eq_true_eq]
    omega
  | server =>
    by_contra hodd
    simp only [peerParity, roleOf, decide_eq_true_eq] at hodd
    simp [openerOf, hodd, Side.other] at h

/-! ## Section 2: Surroundings -/

/-- There is memory, what is sent is accepted or deferred, requests for resets are accepted, and the
    DTLS transport knows its role. -/
def obliging (role : DtlsRole) : (o : Op) → Transport → o.Reply → Prop
  | .alloc, _, ok => (ok : Bool) = true
  | .allocSendContext, _, ok => (ok : Bool) = true
  | .sendv buffer _ _, _, written => Accepts buffer written
  | .resetStreams _, _, error => error = none
  | .roleGetter, _, r => r = .ok role
  | _, _, _ => True

theorem ampleMemory_obliging (role : DtlsRole) : AmpleMemory (obliging role) :=
  fun _ _ h => h

theorem ampleContexts_obliging (role : DtlsRole) : AmpleContexts (obliging role) :=
  fun _ _ h => h

theorem acceptsAll_obliging (role : DtlsRole) : AcceptsAll (obliging role) :=
  fun _ _ _ _ _ h => h

/-- Nothing of what the event loop reports is about the end of the connection, and no message or
    reset of a stream is delivered. -/
def Received.IsLocal : Received → Prop
  | .error _ => True
  | .notification _ _ (.assocChange _) => False
  | .notification _ _ (.streamReset event) => event.denied = true ∨ event.failed = true
  | .notification _ _ _ => True
  | .data _ _ _ => False

/-- What the application and the event loop may do. -/
def Permitted (fs : List (Call × Op)) (_ : Transport) : Call → Prop
  | .stop | .destroy => False
  | .create parameters _ => ApplicationsTurn fs ∧ parameters.negotiated = false
  | .close c => ApplicationsTurn fs ∧ ∀ b, (b, .handler (.dataChannelHandler c)) ∉ fs
  | .feedInbound _ | .errorEvent | .writeEvent => fs = []
  | .readEvent received => fs = [] ∧ received.IsLocal
  | _ => ApplicationsTurn fs

/-- Channels are created and closed, and messages are sent, only where this is free. -/
def Call.Free (e : Side) (may : Freedom) : Call → Prop
  | .create _ _ => ∀ sid, openerOf sid = e → may.opens sid
  | .send _ _ _ => may.speaks
  | .close _ => may.leaves
  | _ => True

theorem Call.free_full (e : Side) (a : Call) : a.Free e (.full openerOf e) := by
  cases a with
  | create => exact fun _ => id
  | _ => trivial

/-! ## Section 3: The discipline -/

/-- A channel that is in a slot but not yet open is being announced to the application. -/
def Announced (fs : List (Call × Op)) (s : Transport) : Prop :=
  ∀ ⦃i c⦄, s.channels i = some c → (s.dataChannels c).state = .connecting →
    ∃ b, (b, .handler (.dataChannelHandler c)) ∈ fs

/-- What an endpoint may rely on. -/
structure Setting where
  nStreams : Nat
  /-- Messages are received as a whole. -/
  whole : Prop

namespace Setting

/-- Messages are received as a whole. -/
def wholly : Setting :=
  ⟨defaultNumberOfStreams, True⟩

/-- Messages of the application may be received in pieces. -/
def piecewise : Setting :=
  ⟨defaultNumberOfStreams, False⟩

end Setting

/-- Handlers see sound transports. With no handler running, nothing is left to be done. -/
structure Endpoint (S : Setting) (fs : List (Call × Op)) (s : Transport) : Prop where
  sound : Sound S.nStreams s
  announced : Announced fs s
  settled : fs = [] → s.party.SettledAt fun _ => True
  dcep : fs = [] → s.bufferDcepInbound = none
  buffers : S.whole → fs = [] → ∀ c, (s.context c).bufferInbound = none

/-- Calls within handlers act, and calls by nobody make moves. -/
def endpoint (S : Setting) (e : Side) (may : Freedom) : Discipline Call Op Op.Reply Transport where
  pauses o := o.isHandler = true
  inv := Endpoint S
  rely s s' := Party.Acts may s.party s'.party ∧ Untouched s s'
  promise s s' := Party.Moves may s.party s'.party ∧ s'.handed = s.handed
  answers := obliging (roleOf e)

section Promises

variable {S : Setting} {e : Side} {may : Freedom} {fs : List (Call × Op)} {s s' s'' : Transport}

theorem rely_refl : (endpoint S e may).rely s s :=
  ⟨.refl, .refl s⟩

theorem rely_trans (h : (endpoint S e may).rely s s') (h' : (endpoint S e may).rely s' s'') :
    (endpoint S e may).rely s s'' :=
  ⟨h.1.trans h'.1, h.2.trans h'.2⟩

theorem promise_of_rely (h : (endpoint S e may).rely s s') : (endpoint S e may).promise s s' :=
  ⟨h.1.moves, h.2.handed⟩

theorem owes_refl : (endpoint S e may).owes fs s s := by
  cases fs with
  | nil => exact promise_of_rely rely_refl
  | cons => exact rely_refl

theorem owes_trans (h : (endpoint S e may).owes fs s s') (h' : (endpoint S e may).owes fs s' s'') :
    (endpoint S e may).owes fs s s'' := by
  cases fs with
  | nil => exact ⟨Relation.ReflTransGen.trans h.1 h'.1, h'.2.trans h.2⟩
  | cons => exact rely_trans h h'

/-- Acts are allowed at any time. -/
theorem owes_of_acts (h : Party.Acts may s.party s'.party)
    (huntouched : Untouched s s') : (endpoint S e may).owes fs s s' := by
  cases fs with
  | nil => exact promise_of_rely ⟨h, huntouched⟩
  | cons => exact ⟨h, huntouched⟩

theorem Announced.alike (h : Announced fs s) (hstep : Alike s s') : Announced fs s' := by
  intro i c hslot hstate
  rw [hstep.channels] at hslot
  have hsame := congrArg Standing.state (hstep.standing c)
  exact h hslot (hsame.symm.trans hstate)

theorem Announced.unseen (h : Announced fs s) (hstep : Unseen s s') : Announced fs s' :=
  h.alike hstep.alike

/-- A channel changes, but not to its first state. -/
theorem Announced.becomes {c : ChannelId} {p : Standing}
    {items : List (Nat × Item ChannelId Message)} (h : Announced fs s)
    (hstep : Becomes c p items s s')
    (hp : p.state = .connecting → (s.standing c).state = .connecting) : Announced fs s' := by
  intro i c' hslot hstate
  rw [hstep.channels] at hslot
  apply h hslot
  by_cases hc : c' = c
  · subst hc
    apply hp
    rw [← hstep.self]
    exact hstate
  · have hsame := congrArg Standing.state (hstep.others c' hc)
    exact hsame.symm.trans hstate

/-- A channel takes a slot, and it is being announced if it is not open yet. -/
theorem Announced.takesSlot {c : ChannelId} {i : Nat} {p : Standing}
    {items : List (Nat × Item ChannelId Message)} (h : Announced fs s)
    (hstep : TakesSlot c i p items s s')
    (hp : p.state = .connecting → ∃ b, (b, .handler (.dataChannelHandler c)) ∈ fs) :
    Announced fs s' := by
  intro j c' hslot hstate
  rw [hstep.channels] at hslot
  by_cases hc : c' = c
  · subst hc
    apply hp
    rw [← hstep.self]
    exact hstate
  · -- it is in a slot that has not changed
    have hj : j ≠ i := by
      rintro rfl
      rw [Function.update_self] at hslot
      exact hc (Option.some.inj hslot).symm
    rw [Function.update_of_ne hj] at hslot
    have hsame := congrArg Standing.state (hstep.others c' hc)
    exact h hslot (hsame.symm.trans hstate)

/-- More is suspended. -/
theorem Announced.cons (h : Announced fs s) (f : Call × Op) : Announced (f :: fs) s := by
  intro i c hslot hstate
  obtain ⟨b, hb⟩ := h hslot hstate
  exact ⟨b, List.mem_cons_of_mem _ hb⟩

/-- A handler that announces nothing returns. -/
theorem Announced.of_cons {f : Call × Op} (h : Announced (f :: fs) s)
    (hf : ∀ c, f.2 ≠ .handler (.dataChannelHandler c)) : Announced fs s := by
  intro i c hslot hstate
  obtain ⟨b, hb⟩ := h hslot hstate
  rcases List.mem_cons.mp hb with rfl | hb
  · exact absurd rfl (hf c)
  · exact ⟨b, hb⟩

end Promises

/-! ## Section 4: In the middle of a call -/

/-- What is being received: a DCEP message, or a message of the application to this channel. -/
structure Reception where
  dcep : Option Mbuf := none
  busy : Option ChannelId := none

/-- Amid this point of a call its promise `K` can still be kept. The ends in `ends` are settled, and
    nothing else than `reception` is being received, if this has to be so at the end of the call. -/
structure Amid (S : Setting) (e : Side) (may : Freedom) (fs : List (Call × Op)) (ends : Nat → Prop)
    (reception : Reception) (K : Transport → Prop) (s : Transport) : Prop where
  sound : Sound S.nStreams s
  announced : Announced fs s
  settled : fs = [] → s.party.SettledAt ends
  dcep : s.bufferDcepInbound = reception.dcep
  buffers : S.whole → fs = [] → ∀ c, reception.busy ≠ some c → (s.context c).bufferInbound = none
  kept : ∀ s', (endpoint S e may).owes fs s s' → K s'

/-- The routine does nothing that could not be promised. -/
def Conforms {α : Type} (S : Setting) (e : Side) (may : Freedom) (a : Call) (fs : List (Call × Op))
    (ends : Nat → Prop) (reception : Reception) (m : M α) : Prop :=
  ∀ K s, Amid S e may fs ends reception K s → (m.run s).Tracks (endpoint S e may) a fs
    (fun K' _ s' => Amid S e may fs ends reception K' s') K

section Rules

variable {S : Setting} {e : Side} {may : Freedom} {a : Call} {fs : List (Call × Op)}
  {ends : Nat → Prop} {reception : Reception} {K : Transport → Prop} {s s' : Transport} {α β : Type}

theorem Amid.now (h : Amid S e may fs ends reception K s) : K s :=
  h.kept s owes_refl

/-- What has been promised at the beginning of a call. -/
theorem Amid.start (h : Endpoint S fs s) :
    Amid S e may fs (fun _ => True) { dcep := s.bufferDcepInbound }
      ((endpoint S e may).owes fs s) s :=
  ⟨h.sound, h.announced, h.settled, rfl, fun hwhole hfs c _ => h.buffers hwhole hfs c, fun _ => id⟩

/-- A call may end if all ends are settled and nothing is being received. -/
theorem Amid.finish (h : Amid S e may fs (fun _ => True) reception K s)
    (hreception : fs = [] → reception = {}) : (endpoint S e may).ends fs K s := by
  refine ⟨h.now, h.sound, h.announced, h.settled, ?_, ?_⟩
  · intro hfs
    rw [h.dcep, hreception hfs]
  · intro hwhole hfs c
    apply h.buffers hwhole hfs
    rw [hreception hfs]
    simp

theorem Amid.unseen (h : Amid S e may fs ends reception K s) (hstep : Unseen s s') :
    Amid S e may fs ends reception K s' where
  sound := h.sound.unseen hstep
  announced := h.announced.unseen hstep
  settled hfs := by
    rw [hstep.party]
    exact h.settled hfs
  dcep := hstep.dcep.trans h.dcep
  buffers hwhole hfs c hc := hstep.buffers c (h.buffers hwhole hfs c hc)
  kept s'' hs'' := by
    refine h.kept s'' (owes_trans (owes_of_acts ?_ hstep.toUntouched) hs'')
    rw [hstep.party]

/-- The party acts. -/
theorem Amid.acts (h : Amid S e may fs ends reception K s) (hsound : Sound S.nStreams s')
    (hannounced : Announced fs s') (huntouched : Untouched s s')
    (hacts : Party.Acts may s.party s'.party) : Amid S e may fs ends reception K s' where
  sound := hsound
  announced := hannounced
  settled hfs := hacts.settledAt (h.settled hfs)
  dcep := huntouched.dcep.trans h.dcep
  buffers hwhole hfs c hc := huntouched.buffers c (h.buffers hwhole hfs c hc)
  kept s'' hs'' := h.kept s'' (owes_trans (owes_of_acts hacts huntouched) hs'')

theorem conforms_pure (r : α) : Conforms S e may a fs ends reception (pure r : M α) :=
  fun _ _ h => h

theorem conforms_get_bind {f : Transport → M β}
    (hf : ∀ t, Conforms S e may a fs ends reception (f t)) :
    Conforms S e may a fs ends reception (get >>= f) :=
  fun K s h => hf s K s h

theorem Conforms.bind {m : M α} {f : α → M β} (hm : Conforms S e may a fs ends reception m)
    (hf : ∀ r, Conforms S e may a fs ends reception (f r)) :
    Conforms S e may a fs ends reception (m >>= f) := by
  intro K s h
  rw [Routine.run_bind, Prog.tracks_bind]
  apply (hm K s h).mono
  intro K' r s' h'
  exact hf r K' s' h'

theorem Conforms.ite {c : Prop} [Decidable c] {m m' : M α}
    (hm : Conforms S e may a fs ends reception m) (hm' : Conforms S e may a fs ends reception m') :
    Conforms S e may a fs ends reception (if c then m else m') := by
  split
  · exact hm
  · exact hm'

/-- System functions are no pauses. -/
theorem not_pauses_of_isSystem {o : Op} (ho : o.IsSystem) : ¬ (endpoint S e may).pauses o := by
  have hsystem : o.isHandler = false := ho
  simp [endpoint, hsystem]

/-- Routines whose effects cannot be seen. -/
theorem conforms_of_within {m : M α} (h : m.Within Op.IsSystem Unseen) :
    Conforms S e may a fs ends reception m := by
  intro K s hat
  apply Prog.Within.tracks (fun _ => not_pauses_of_isSystem) (h s)
  apply Prog.Within.always
  apply (h s).mono
  intro r s' hstep _
  exact hat.unseen hstep

theorem conforms_modify {f : Transport → Transport} (hf : ∀ s, Unseen s (f s)) :
    Conforms S e may a fs ends reception (modify f : M Unit) :=
  conforms_of_within (Routine.within_modify hf)

/-- What a routine may rely on when a handler returns that announces nothing. -/
theorem Amid.resume {o : Op} (h : Amid S e may fs ends reception K s)
    (ho : ∀ c, o ≠ .handler (.dataChannelHandler c)) (hinv : Endpoint S ((a, o) :: fs) s')
    (hrely : (endpoint S e may).rely s s') :
    Amid S e may fs ends reception ((endpoint S e may).owes fs s') s' :=
  ⟨hinv.sound, hinv.announced.of_cons ho, fun hfs => hrely.1.settledAt (h.settled hfs),
    hrely.2.dcep.trans h.dcep,
    fun hwhole hfs c hc => hrely.2.buffers c (h.buffers hwhole hfs c hc), fun _ => id⟩

/-- Calling a handler that announces nothing. -/
theorem tracks_handler {Q : (Transport → Prop) → α → Transport → Prop} {hd : Handler}
    {k : Unit → Transport → Prog Op Op.Reply Transport α} (h : Amid S e may fs ends reception K s)
    (hhd : ∀ c, hd ≠ .dataChannelHandler c)
    (hk : ∀ s', Amid S e may fs ends reception ((endpoint S e may).owes fs s') s' →
      Party.Acts may s.party s'.party →
      (k () s').Tracks (endpoint S e may) a fs Q ((endpoint S e may).owes fs s')) :
    (Prog.out (.handler hd) s k : Prog Op Op.Reply Transport α).Tracks (endpoint S e may) a fs
      Q K := by
  refine ⟨fun _ => ⟨⟨h.now, h.sound, h.announced.cons _, by simp, by simp, by simp⟩, ?_⟩, ?_⟩
  · intro r s' hinv hrely _
    exact hk s' (h.resume (fun c heq => hhd c (by cases heq; rfl)) hinv hrely) hrely.1
  · intro hpause
    exact absurd rfl hpause

/-- Calling a handler that neither announces a channel nor is handed a message. -/
theorem callHandler_conforms {hd : Handler} (hhd : ∀ c, hd ≠ .dataChannelHandler c)
    (hnone : (Event.handler hd).handed = none) :
    Conforms S e may a fs ends reception (callHandler hd) := by
  intro K s h
  rw [run_callHandler]
  apply tracks_handler (h.unseen (Unseen.log s rfl hnone)) hhd
  intro s' h' _
  exact h'

end Rules

end RawrtcDataChannel
