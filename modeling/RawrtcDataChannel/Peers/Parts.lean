import RawrtcDataChannel.Peers.Deliveries
import RawrtcDataChannel.Streams.Staying

/-!
# Messages that are received in parts

usrsctp may deliver a message of an application in parts, before all of it has arrived. Whatever is
read of it is kept, handed over or dropped. The peer cannot see any of this, except that from then
on the channel may send unordered messages.
-/

namespace RawrtcDataChannel

open Reentrant Streams Transport

/-! ## Section 1: Promises -/

/-- What the event loop reads of a message: some bytes, and whether the message ends with them. -/
def readsPart (sid : Nat) (m : Message) (bytes : Bytes) (eor : Bool) : Call :=
  .readEvent (.data bytes (some ⟨sid, m.info.sendvSndinfo.sndPpid⟩) eor)

/-- The promise for the first stretch: the party hears something and moves. -/
def Heard (may : Freedom) (sid : Nat) (s s' : Transport) : Prop :=
  Party.Moves may (s.party.hear sid) s'.party

section Parts

variable {S : Setting} {e : Side} {may : Freedom} {a : Call} {dcep : Option Mbuf}
  {K : Transport → Prop} {s s' s₀ : Transport} {c : ChannelId} {sid : Nat} {α : Type}

/-- A promise that includes the one that is kept. -/
theorem Amid.weaken {fs : List (Call × Op)} {ends : Nat → Prop} {reception : Reception}
    {K' : Transport → Prop} (h : Amid S e may fs ends reception K s) (hK : ∀ s', K s' → K' s') :
    Amid S e may fs ends reception K' s :=
  ⟨h.sound, h.announced, h.settled, h.dcep, h.buffers, fun s' hs' => hK s' (h.kept s' hs')⟩

/-- A message that is delivered to a channel is heard. -/
theorem heard_of_delivered {c' : ChannelId} {m : Message} (hslot : s.channels sid = some c)
    (h : Delivered may sid (.message c' m) [] s s') : Heard may sid s s' := by
  obtain ⟨⟨p, hreacts, hmoves⟩, -⟩ := h
  have hr := streams_standing hslot
  cases hreacts with
  | accept _ _ _ _ _ _ _ hfree =>
    rw [hr] at hfree
    cases hfree
  | hear _ r _ _ hr' _ =>
    rw [Heard, Party.hear_of_some hr']
    exact hmoves

/-- A change that concerns nothing but what is kept of the messages to a channel. -/
def OnlyInbound (f : Context → Context) : Prop :=
  ∀ x, (f x).sid = x.sid ∧ (f x).flags.canSendUnordered = x.flags.canSendUnordered ∧
    (f x).flags.pendingStreamReset = x.flags.pendingStreamReset

theorem onlyInbound_storeInbound (buffer : Option Mbuf) (pending : Bool) :
    OnlyInbound (Context.storeInbound buffer pending) :=
  fun _ => ⟨rfl, rfl, rfl⟩

theorem onlyInbound_keepInbound (buffer : Option Mbuf) (info : RcvInfo) :
    OnlyInbound (Context.keepInbound buffer info) :=
  fun _ => ⟨rfl, rfl, rfl⟩

theorem onlyInbound_releaseInbound : OnlyInbound Context.releaseInbound :=
  fun _ => ⟨rfl, rfl, rfl⟩

/-- Nothing has to be said about what is kept of messages that are received in parts. -/
theorem Amid.keep (hparts : ¬ S.whole) (h : Amid S e may [] (fun _ => True) ⟨dcep, none⟩ K s)
    {f : Context → Context} (hf : OnlyInbound f) (c : ChannelId) :
    Amid S e may [] (fun _ => True) ⟨dcep, none⟩ K (s.modifyContext c f) :=
  h.modifyInbound (fun x => (hf x).1) (fun x => (hf x).2.1) (fun x => (hf x).2.2)
    fun hwhole => absurd hwhole hparts

/-- Something is handed over. -/
theorem Amid.handPart (h : Amid S e may [] (fun _ => True) ⟨dcep, none⟩ (Heard may sid s₀) s)
    (hd : Handler) :
    Amid S e may [] (fun _ => True) ⟨dcep, none⟩ (Heard may sid s₀) (s.log (.handler hd)) := by
  have halike : Alike s (s.log (.handler hd)) := Alike.log s rfl
  refine ⟨h.sound.alike halike, h.announced.alike halike, ?_, h.dcep, h.buffers, ?_⟩
  · intro hfs
    rw [halike.party]
    exact h.settled hfs
  · intro s' hs'
    obtain ⟨hmoves, -⟩ := hs'
    rw [halike.party] at hmoves
    exact Relation.ReflTransGen.trans h.now hmoves

/-- The end of `handle_application_message` for a part of a message. -/
theorem passPart_tracks (hparts : ¬ S.whole)
    (h : Amid S e may [] (fun _ => True) ⟨dcep, none⟩ (Heard may sid s₀) s) (c : ChannelId)
    (buffer : Mbuf) (ppid : Nat) (isComplete : Bool) :
    ((passMessageToHandler c buffer ppid isComplete).run s).Tracks (endpoint S e may) a []
      (fun K' _ s' => Amid S e may [] (fun _ => True) ⟨dcep, none⟩ K' s')
      (Heard may sid s₀) := by
  have hrelease : ∀ {K' : Transport → Prop} {s' : Transport},
      Amid S e may [] (fun _ => True) ⟨dcep, none⟩ K' s' →
      Amid S e may [] (fun _ => True) ⟨dcep, none⟩ K' (s'.modifyContext c Context.releaseInbound) :=
    fun h' => h'.keep hparts onlyInbound_releaseInbound c
  simp only [passMessageToHandler, Routine.run_bind, Routine.run_get, Prog.bind]
  cases messageFlagsOfPpid ppid isComplete with
  | none => exact hrelease h
  | some messageFlags =>
    dsimp only
    rw [Routine.run_ite]
    split
    · rw [Routine.run_bind, run_callHandler]
      apply tracks_handler (h.handPart _) (by simp)
      intro s' h' _
      exact hrelease h'
    · exact hrelease h

/-- `handle_application_message` for a part of a message to a channel in a slot. -/
theorem handleApplicationMessage_hears (hparts : ¬ S.whole) (h : AtRest S dcep s)
    (hslot : s.channels sid = some c) (c' : ChannelId) {m : Message}
    (hm : Vocabulary.proposal m = none) (bytes : Bytes) (ppid : Nat) (eor : Bool) :
    ((handleApplicationMessage { data := bytes } ⟨sid, ppid⟩ eor).run s).Tracks (endpoint S e may) a
      [] (fun K' _ s' => Amid S e may [] (fun _ => True) ⟨dcep, none⟩ K' s') (Heard may sid s) := by
  have hdelivered : Amid S e may [] (fun _ => True) ⟨dcep, none⟩
      (Delivered may sid (.message c' m) [] s) _ :=
    .heard h hslot hm
  have hheard := hdelivered.weaken fun s' => heard_of_delivered (s := s) hslot
  simp only [handleApplicationMessage, Routine.run_bind, Routine.run_get, Prog.bind, hslot,
    Routine.run_modify, Routine.run_ite]
  split
  · split
    · exact hheard.keep hparts onlyInbound_releaseInbound c
    · exact passPart_tracks hparts (hheard.keep hparts (onlyInbound_storeInbound _ _) c) _ _ _ _
  split
  · -- what is kept of the message may be anything
    rw [Prog.tracks_bind]
    apply Prog.Within.tracks (fun _ => not_pauses_of_isSystem)
      (bufferMessageReceivedRaiseComplete_within (R := (· = ·)) _ _ _ _ _ _)
    apply Prog.Within.always
    apply (bufferMessageReceivedRaiseComplete_within (R := (· = ·)) _ _ _ _ _ _).mono
    rintro ⟨error, bufferInbound, infoInbound⟩ s' rfl _
    have hkept := hheard.keep hparts (onlyInbound_keepInbound bufferInbound infoInbound) c
    split
    · exact passPart_tracks hparts (hkept.keep hparts (onlyInbound_storeInbound _ _) c) _ _ _ _
    · exact hkept.keep hparts (onlyInbound_storeInbound _ _) c
    · exact hkept.keep hparts onlyInbound_releaseInbound c
  · exact passPart_tracks hparts (hheard.keep hparts (onlyInbound_storeInbound _ _) c) _ _ _ _

/-! ## Section 2: Handlers that are called -/

/-- The only handler that is called is the message handler of this channel. -/
def HandsTo (c : ChannelId) (o : Op) : Prop :=
  o.IsSystem ∨ ∃ bytes messageFlags, o = .handler (.messageHandler c bytes messageFlags)

/-- The end of `handle_application_message` calls no other handler. -/
theorem passMessageToHandler_handsTo (c : ChannelId) (buffer : Mbuf) (ppid : Nat)
    (isComplete : Bool) :
    (passMessageToHandler c buffer ppid isComplete).Within (HandsTo c) fun _ _ => True := by
  have hrelease : (modify (·.modifyContext c Context.releaseInbound) : M Unit).Within (HandsTo c)
      fun _ _ => True := Routine.within_modify fun _ => trivial
  apply Routine.within_get.bind
  intro t
  cases messageFlagsOfPpid ppid isComplete with
  | none => exact hrelease
  | some messageFlags =>
    dsimp only
    split
    · intro s
      exact ⟨.inr ⟨_, _, rfl⟩, fun _ => trivial⟩
    · exact hrelease

/-- `handle_application_message` takes the handler from the channel in the slot. -/
theorem handleApplicationMessage_handsTo (hslot : s.channels sid = some c) (buffer : Mbuf)
    (ppid : Nat) (eor : Bool) :
    ((handleApplicationMessage buffer ⟨sid, ppid⟩ eor).run s).Within (HandsTo c)
      fun _ _ => True := by
  have hmodify : ∀ f : Context → Context, (modify (·.modifyContext c f) : M Unit).Within (HandsTo c)
      fun _ _ => True := fun _ => Routine.within_modify fun _ => trivial
  simp only [handleApplicationMessage, Routine.run_bind, Routine.run_get, Prog.bind, hslot,
    Routine.run_modify]
  split
  · split
    · exact hmodify _ _
    · exact passMessageToHandler_handsTo _ _ _ _ _
  split
  · -- whatever becomes of what has been kept
    refine Routine.Within.bind (R := fun _ _ => True) ?_ ?_ _
    · intro s'
      exact (bufferMessageReceivedRaiseComplete_within (R := fun _ _ => True) _ _ _ _ _ s').of_calls
        fun _ => .inl
    · rintro ⟨error, bufferInbound, infoInbound⟩
      refine (hmodify _).bind fun _ => ?_
      dsimp only
      split
      · exact (hmodify _).bind fun _ => passMessageToHandler_handsTo _ _ _ _
      · exact hmodify _
      · exact hmodify _
  · exact passMessageToHandler_handsTo _ _ _ _ _

section Open

variable [MessageBuffer]

/-- A part of a message of the application reaches an idle endpoint. -/
theorem part_tracks (hparts : ¬ S.whole) (h : Endpoint S [] s) {m : Message}
    (huser : m.isDcep = false) (hslot : s.channels sid = some c) (bytes : Bytes) (eor : Bool) :
    ((Call.run (readsPart sid m bytes eor)).run s).Tracks (endpoint S e may) a []
      (fun K _ => (endpoint S e may).ends [] K) (Heard may sid s) := by
  have hppid : m.info.sendvSndinfo.sndPpid ≠ ppidDcep := by simpa [Message.isDcep] using huser
  have hm : Vocabulary.proposal m = none := if_neg (by simp [huser])
  apply readMessage_tracks h.idle
  rw [dataReceiveHandler, if_neg hppid]
  exact handleApplicationMessage_hears hparts h.idle hslot c hm _ _ _

/-- So does the event loop for a part of a message. -/
theorem readsPart_handsTo (hslot : s.channels sid = some c) {m : Message}
    (huser : m.isDcep = false) (bytes : Bytes) (eor : Bool) :
    ((Call.run (readsPart sid m bytes eor)).run s).Within (HandsTo c) fun _ _ => True := by
  have hppid : m.info.sendvSndinfo.sndPpid ≠ ppidDcep := by simpa [Message.isDcep] using huser
  simp only [readsPart, Call.run, readEventHandler, dataReceiveHandler, if_neg hppid,
    Routine.run_map, Routine.run_bind, Routine.run_get, Routine.run_ite, Prog.bind, run_alloc,
    Prog.within_bind]
  split
  · trivial
  refine ⟨.inl rfl, fun ok => ?_⟩
  dsimp only
  split
  · split
    · trivial
    · rw [Prog.within_bind]
      exact (handleApplicationMessage_handsTo hslot _ _ _).mono fun _ _ _ => trivial
  · trivial

end Open

end Parts

end RawrtcDataChannel
