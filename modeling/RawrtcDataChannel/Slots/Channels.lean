import RawrtcDataChannel.Slots.Registered

/-!
# Opening and closing channels within the slots

The routines that use stream ids keep the slots in order whatever id they are given. Where an id
is known to belong to a slot they stay within the slots, and this is said along with it: `cond` is
what has to hold for that.
-/

namespace RawrtcDataChannel

open Reentrant

/-! ## Section 1: Rules -/

/-- What is claimed of a note, if `cond` holds. -/
def due (cond : Prop) (use : Use) (t : Transport) : Prop :=
  cond → use.InBounds t

/-- Started in `s`, the routine keeps the slots in order and ends in `Q`. If `cond` holds, its
    notes are in bounds. -/
def Runs {α : Type} (answers : Answers) (s₀ : Transport) (cond : Prop) (a : Call)
    (fs : List (Call × Op)) (s : Transport) (m : Noted α) (Q : α → Transport → Prop) : Prop :=
  ∀ s₁, (m.run s).SafeWith (keepingSids answers s₀) (due cond) a fs s₁ Q

/-- The slots are in order, and others may rely on what has happened since `s`. -/
def Goes {α : Type} (s₀ s : Transport) (_ : α) (s' : Transport) : Prop :=
  Tracked s₀ s' ∧ Follows s s'

section Rules

variable {answers : Answers} {s₀ s s' : Transport} {cond : Prop} {a : Call} {fs : List (Call × Op)}
  {c : ChannelId} {α β : Type} {m : Noted α} {f : α → Noted β} {Q : α → Transport → Prop}
  {Q' : β → Transport → Prop}

theorem Runs.mono {Q' : α → Transport → Prop} (h : Runs answers s₀ cond a fs s m Q)
    (hQ : ∀ r s', Q r s' → Q' r s') : Runs answers s₀ cond a fs s m Q' :=
  fun s₁ => (h s₁).mono hQ

theorem Runs.bind (hm : Runs answers s₀ cond a fs s m Q)
    (hf : ∀ r s', Q r s' → Runs answers s₀ cond a fs s' (f r) Q') :
    Runs answers s₀ cond a fs s (m >>= f) Q' := by
  intro s₁
  rw [Routine.run_bind, Prog.safeWith_bind]
  exact (hm s₁).mono fun r s' hr => hf r s' hr s₁

/-- The sequencing rule for what others may rely on. -/
theorem Runs.seq (hm : Runs answers s₀ cond a fs s m (Goes s₀ s))
    (hf : ∀ r s', Tracked s₀ s' → Follows s s' → Runs answers s₀ cond a fs s' (f r) (Goes s₀ s')) :
    Runs answers s₀ cond a fs s (m >>= f) (Goes s₀ s) := by
  apply hm.bind
  intro r s' h
  exact (hf r s' h.1 h.2).mono fun _ _ h' => ⟨h'.1, trans_of Follows h.2 h'.2⟩

theorem runs_pure {r : α} (hr : Q r s) : Runs answers s₀ cond a fs s (pure r) Q :=
  fun _ => hr

theorem runs_get_bind {f : Transport → Noted α} (hf : Runs answers s₀ cond a fs s (f s) Q) :
    Runs answers s₀ cond a fs s (get >>= f) Q :=
  hf

theorem runs_modify_bind {g : Transport → Transport} {f : Unit → Noted α}
    (hf : Runs answers s₀ cond a fs (g s) (f ()) Q) :
    Runs answers s₀ cond a fs s (modify g >>= f) Q :=
  hf

theorem runs_logEvent_bind {e : Event} {f : Unit → Noted α}
    (hf : Runs answers s₀ cond a fs (s.log e) (f ()) Q) :
    Runs answers s₀ cond a fs s (Routine.lift (logEvent e) >>= f) Q :=
  hf

theorem runs_note_bind (use : Use) {f : Unit → Noted α} (huse : cond → use.InBounds s)
    (hf : Runs answers s₀ cond a fs s (f ()) Q) : Runs answers s₀ cond a fs s (note use >>= f) Q :=
  fun s₁ => ⟨huse, hf s₁⟩

theorem Runs.ite {p : Prop} [Decidable p] {m n : Noted α} (hm : p → Runs answers s₀ cond a fs s m Q)
    (hn : ¬ p → Runs answers s₀ cond a fs s n Q) :
    Runs answers s₀ cond a fs s (if p then m else n) Q := by
  split
  · next hp => exact hm hp
  · next hp => exact hn hp

/-- A routine that makes no notes. -/
theorem Orderly.runs {m : M α} (h : Orderly answers s₀ a fs m) (hs : Tracked s₀ s) :
    Runs answers s₀ cond a fs s (Routine.lift m) (Goes s₀ s) :=
  fun s₁ => (h s₁ s hs).lift

/-- A routine that only calls system functions. -/
theorem safe_of_within {m : M α} (h : (m.run s).Within Op.IsSystem Q) (s₁ : Transport) :
    (m.run s).Safe (keepingSids answers s₀) a fs s₁ Q := by
  have htrue : (m.run s).Always (keepingSids answers s₀).answers fun _ _ => True :=
    h.always.mono fun _ _ _ => trivial
  exact (h.safe (keepingSids_trusts answers s₀) a fs s₁ htrue).mono fun _ _ h => h.1

theorem Within.runs {m : M α} (h : (m.run s).Within Op.IsSystem Q) :
    Runs answers s₀ cond a fs s (Routine.lift m) Q :=
  fun s₁ => (safe_of_within h s₁).lift

/-- Without its notes a routine keeps the slots in order all the same. -/
theorem Runs.unmarked (h : Runs answers s₀ False a fs s m Q) (s₁ : Transport) :
    (m.unmarked.run s).Safe (keepingSids answers s₀) a fs s₁ Q :=
  (h s₁).unmarked

theorem orderly_of_runs (h : ∀ s, Tracked s₀ s → Runs answers s₀ False a fs s m (Goes s₀ s)) :
    Orderly answers s₀ a fs m.unmarked :=
  fun s₁ s hs => (h s hs).unmarked s₁

/-- A change that is steady. -/
theorem runs_modify {f : Transport → Transport} (hs : Tracked s₀ s) (hf : Steady s (f s)) :
    Runs answers s₀ cond a fs s (modify f) (Goes s₀ s) :=
  fun _ => ⟨hs.steady hf, hf.follows⟩

theorem goes_refl (hs : Tracked s₀ s) {r : α} : Goes s₀ s r s :=
  ⟨hs, refl_of Follows s⟩

/-- What others may rely on has happened before, too. -/
theorem Runs.after (h : Runs answers s₀ cond a fs s' m (Goes s₀ s')) (hfollows : Follows s s') :
    Runs answers s₀ cond a fs s' m (Goes s₀ s) :=
  h.mono fun _ _ hgoes => ⟨hgoes.1, trans_of Follows hfollows hgoes.2⟩

theorem runs_roleGetter : Runs answers s₀ cond a fs s (Routine.lift roleGetter) fun role s' =>
    s = s' ∧ answers .roleGetter s role := by
  have hsystem : (roleGetter.run s).Within Op.IsSystem fun _ s' => s = s' := ⟨rfl, fun _ => rfl⟩
  have hanswer : (roleGetter.run s).Always answers fun role _ => answers .roleGetter s role :=
    fun _ hrole => hrole
  exact fun s₁ => (hsystem.safe (keepingSids_trusts answers s₀) a fs s₁ hanswer).lift

end Rules

/-! ## Section 2: Closing a channel -/

/-- The channel has a context, and its stream id is one of a slot. -/
def Held (c : ChannelId) (t : Transport) : Prop :=
  ∃ i, t.streamId c = some i ∧ i < t.nChannels

theorem Held.sid_lt {c : ChannelId} {t : Transport} (h : Held c t) :
    (t.context c).sid < t.nChannels := by
  obtain ⟨i, hsid, hlt⟩ := h
  rw [t.sid_of_streamId hsid]
  exact hlt

theorem Held.follows {c : ChannelId} {s s' : Transport} (h : Held c s) (hs : SidsKnown s)
    (hfollows : Follows s s') : Held c s' := by
  obtain ⟨i, hsid, hlt⟩ := h
  refine ⟨i, ?_, hfollows.nChannels ▸ hlt⟩
  rw [hfollows.streamId c (hs.exists_of_streamId hsid) id, hsid]

namespace Noting

section Closing

variable {answers : Answers} {s₀ s : Transport} {cond : Prop} {a : Call} {fs : List (Call × Op)}
  {c : ChannelId}

theorem channelRegistered_runs (hs : Tracked s₀ s) (hheld : cond → Held c s) :
    Runs answers s₀ cond a fs s (channelRegistered c) (Goes s₀ s) := by
  apply runs_get_bind
  apply runs_note_bind (.slot _) fun hcond => (hheld hcond).sid_lt
  apply Runs.ite
  · exact fun _ => runs_pure (goes_refl hs)
  · intro _
    apply ((logEvent_orderly _).runs hs).seq
    exact fun _ s' hs' _ => runs_pure (goes_refl hs')

theorem resetOutgoingStream_runs (hs : Tracked s₀ s) (hheld : cond → Held c s) :
    Runs answers s₀ cond a fs s (resetOutgoingStream c) (Goes s₀ s) := by
  have hrequest : (requestStreamReset c).Within Op.IsSystem Steady :=
    requestStreamReset_within (fun s _ _ => Steady.log s _) fun s => Steady.log s _
  apply runs_get_bind
  apply Runs.ite
  · intro _
    have hpending := Steady.modifyContext s c (Context.setPendingStreamReset true) fun _ => rfl
    apply (runs_modify hs hpending).seq
    exact fun _ s' hs' _ => runs_pure (goes_refl hs')
  · intro _
    apply ((orderly_of_within hrequest).runs hs).seq
    intro error s₁ hs₁ hf₁
    apply Runs.ite
    · exact fun _ => runs_pure (goes_refl hs₁)
    · -- the channel is closed improperly
      intro _
      apply ((dataChannelSetState_orderly c .closed).runs hs₁).seq
      intro _ s₂ hs₂ hf₂
      have hheld₂ : cond → Held c s₂ := fun hcond =>
        (hheld hcond).follows hs.known (trans_of Follows hf₁ hf₂)
      apply (channelRegistered_runs hs₂ hheld₂).seq
      intro registered s₃ hs₃ hf₃
      apply Runs.ite
      · intro _
        apply runs_get_bind
        apply runs_note_bind (.slot _) fun hcond =>
          ((hheld₂ hcond).follows hs₂.known hf₃).sid_lt
        apply ((clearSlot_orderly _ c).runs hs₃).seq
        exact fun _ s' hs' _ => runs_pure (goes_refl hs')
      · exact fun _ => runs_pure (goes_refl hs₃)

theorem channelCloseHandler_runs (hs : Tracked s₀ s)
    (hheld : cond → s.streamId c = none ∨ Held c s) :
    Runs answers s₀ cond a fs s (channelCloseHandler c) (Goes s₀ s) := by
  apply runs_get_bind
  cases hcontext : (s.dataChannels c).transportArg with
  | none => exact runs_pure (goes_refl hs)
  | some context =>
    -- it has a context, hence a slot
    have hheld' : cond → Held c s := by
      intro hcond
      apply (hheld hcond).resolve_left
      simp [Transport.streamId, hcontext]
    apply (channelRegistered_runs hs hheld').seq
    intro registered s₁ hs₁ hf₁
    have hheld₁ : cond → Held c s₁ := fun hcond => (hheld' hcond).follows hs.known hf₁
    apply Runs.ite
    · intro _
      apply (resetOutgoingStream_runs hs₁ hheld₁).seq
      intro error s₂ hs₂ _
      apply Runs.ite
      · intro _
        apply ((dataChannelSetState_orderly c .closing).runs hs₂).seq
        exact fun _ s' hs' _ => runs_pure (goes_refl hs')
      · exact fun _ => runs_pure (goes_refl hs₂)
    · exact fun _ => runs_pure (goes_refl hs₁)

theorem dataChannelClose_runs (hs : Tracked s₀ s)
    (hheld : cond → s.streamId c = none ∨ Held c s) :
    Runs answers s₀ cond a fs s (dataChannelClose c) (Goes s₀ s) := by
  apply runs_get_bind
  apply Runs.ite fun _ => runs_pure (goes_refl hs)
  intro _
  apply Runs.ite fun _ => runs_pure (goes_refl hs)
  exact fun _ => channelCloseHandler_runs hs hheld

/-- A channel that is destroyed before it has been registered. -/
theorem dataChannelDestroy_runs (hs : Tracked s₀ s) (hlt : c < s.nextChannel)
    (hnew : s.streamId c = none) :
    Runs answers s₀ cond a fs s (dataChannelDestroy c) (Goes s₀ s) := by
  apply ((dataChannelSetHandler_orderly c fun _ => {}).runs hs).seq
  intro _ s₁ hs₁ hf₁
  have hnew₁ : s₁.streamId c = none := (hf₁.streamId c hlt id).trans hnew
  apply (dataChannelClose_runs hs₁ fun _ => .inl hnew₁).seq
  exact fun _ s' hs' _ => runs_pure (goes_refl hs')

end Closing

end Noting

/-! ## Section 3: Registering a channel -/

/-- A channel object has been made, and nothing else. -/
structure Allocates (s s' : Transport) : Prop where
  nChannels : s'.nChannels = s.nChannels
  nextChannel : s'.nextChannel = s.nextChannel + 1
  new : s'.streamId s.nextChannel = none
  streamId : ∀ c, c ≠ s.nextChannel → s'.streamId c = s.streamId c
  channels : s'.channels = s.channels

theorem Allocates.tracked {s₀ s s' : Transport} (hs : Tracked s₀ s) (h : Allocates s s') :
    Tracked s₀ s' ∧ Follows s s' := by
  have hfollows : Follows s s' :=
    ⟨h.nChannels, by rw [h.nextChannel]; exact Nat.le_succ _,
      fun c hc _ => h.streamId c (Nat.ne_of_lt hc)⟩
  refine ⟨⟨⟨?_, ?_⟩, trans_of Follows hs.follows hfollows⟩, hfollows⟩
  · intro i c hslot
    rw [h.channels] at hslot
    have hsid := hs.known.slot hslot
    rw [h.streamId c (Nat.ne_of_lt (hs.known.exists_of_streamId hsid)), hsid]
  · intro c hc
    rw [h.nextChannel] at hc
    have hlt : s.nextChannel < c := hc
    rw [h.streamId c (Nat.ne_of_gt hlt)]
    exact hs.known.new hlt.le

/-- What exists after a steady change has been made before it. -/
theorem Allocates.steady {s s' s'' : Transport} (h : Allocates s s') (h' : Steady s' s'')
    (hslots : s''.channels = s'.channels) : Allocates s s'' where
  nChannels := h'.nChannels.trans h.nChannels
  nextChannel := h'.nextChannel.trans h.nextChannel
  new := by rw [h'.streamId, h.new]
  streamId c hc := by rw [h'.streamId, h.streamId c hc]
  channels := hslots.trans h.channels

theorem allocates_modify (s : Transport) (parameters : DataChannelParameters)
    (handlers : DataChannelHandlers) :
    Allocates s ({ s with nextChannel := s.nextChannel + 1 }.modifyChannel s.nextChannel
      fun _ => { parameters, handlers }) where
  nChannels := rfl
  nextChannel := rfl
  new := by simp [Transport.streamId, Transport.modifyChannel]
  streamId c hc := by simp [Transport.streamId, Transport.modifyChannel, hc]
  channels := rfl

/-- Whoever owns the channel has given it a stream id and put it into its slot. -/
theorem Tracked.register {s₀ s : Transport} {c : ChannelId} (hs : Tracked s₀ s)
    (hnew : s.streamId c = none) (hlt : c < s.nextChannel) (hown : s₀.nextChannel ≤ c)
    (context : Context) (e : Event) :
    Tracked s₀ (((s.modifyChannel c ({ · with transportArg := some context })).setSlot context.sid
        (some c)).log e) ∧
      FollowsBut (· = c) s (((s.modifyChannel c
        ({ · with transportArg := some context })).setSlot context.sid (some c)).log e) := by
  set s' := ((s.modifyChannel c ({ · with transportArg := some context })).setSlot context.sid
    (some c)).log e with hs'
  have hself : s'.streamId c = some context.sid := by
    simp [hs', Transport.streamId, Transport.log, Transport.setSlot, Transport.modifyChannel]
  have hother : ∀ c', c' ≠ c → s'.streamId c' = s.streamId c' := by
    intro c' hc'
    simp [hs', Transport.streamId, Transport.log, Transport.setSlot, Transport.modifyChannel, hc']
  have hfollows : FollowsBut (· = c) s s' :=
    ⟨rfl, le_refl _, fun c' _ hc' => hother c' hc'⟩
  refine ⟨⟨⟨?_, ?_⟩, ?_⟩, hfollows⟩
  · intro i c' hslot
    by_cases hi : i = context.sid
    · subst hi
      obtain rfl : c = c' := by
        simpa [hs', Transport.log, Transport.setSlot, Transport.modifyChannel] using hslot
      exact hself
    · have hslot' : s.channels i = some c' := by
        simpa [hs', Transport.log, Transport.setSlot, Transport.modifyChannel, hi] using hslot
      have hsid := hs.known.slot hslot'
      -- the channel has not been in a slot before
      have hne : c' ≠ c := by
        rintro rfl
        rw [hnew] at hsid
        cases hsid
      rw [hother c' hne, hsid]
  · intro c' hc'
    have hle : s.nextChannel ≤ c' := hc'
    rw [hother c' (Nat.ne_of_gt (hlt.trans_le hle))]
    exact hs.known.new hle
  · refine ⟨hs.follows.nChannels, hs.follows.nextChannel, ?_⟩
    intro c' hc' _
    rw [hother c' (Nat.ne_of_lt (hc'.trans_le hown))]
    exact hs.follows.streamId c' hc' id

namespace Noting

section Registering

variable {answers : Answers} {s₀ s : Transport} {cond : Prop} {a : Call} {fs : List (Call × Op)}
  {c : ChannelId}

theorem channelRegister_runs (hs : Tracked s₀ s) (hnew : s.streamId c = none)
    (hlt : c < s.nextChannel) (hown : s₀.nextChannel ≤ c) {context : Context}
    (hsid : cond → context.sid < s.nChannels) (raiseEvent : Bool) :
    Runs answers s₀ cond a fs s (channelRegister c context raiseEvent)
      fun _ s' => Tracked s₀ s' ∧ FollowsBut (· = c) s s' := by
  have hopen : ∀ s₁, Tracked s₀ s₁ → Runs answers s₀ cond a fs s₁ (do
      let t ← get
      if t.state = .connected then
        Routine.lift (dataChannelSetState c .opened) : Noted Unit) (Goes s₀ s₁) := by
    intro s₁ hs₁
    apply runs_get_bind
    apply Runs.ite
    · exact fun _ => (dataChannelSetState_orderly c .opened).runs hs₁
    · exact fun _ => runs_pure (goes_refl hs₁)
  have hrest : ∀ s₁, Tracked s₀ s₁ → Runs answers s₀ cond a fs s₁ (do
      let t ← get
      if raiseEvent ∧ t.dataChannelHandler then
        Routine.lift (callHandler (.dataChannelHandler c))
      let t ← get
      if t.state = .connected then
        Routine.lift (dataChannelSetState c .opened) : Noted Unit) (Goes s₀ s₁) := by
    intro s₁ hs₁
    apply runs_get_bind
    apply Runs.ite
    · intro _
      apply ((callHandler_orderly _).runs hs₁).seq
      exact fun _ s₂ hs₂ _ => hopen s₂ hs₂
    · exact fun _ => hopen s₁ hs₁
  intro s₁
  -- the channel gets its slot and its stream id at once
  obtain ⟨htracked, hbut⟩ := hs.register hnew hlt hown context
    (.slotRef c ((s.modifyChannel c ({ · with transportArg := some context })).channels context.sid))
  refine ⟨hsid, ?_⟩
  apply (hrest _ htracked s₁).mono
  intro _ s' h
  exact ⟨h.1, trans_of (FollowsBut (· = c)) hbut (Follows.but h.2)⟩

theorem channelContextCreate_runs (sid : Nat) (canSendUnordered : Bool) :
    Runs answers s₀ cond a fs s
      (Routine.lift (channelContextCreate sid canSendUnordered)) fun r s' =>
      s' = s ∧ ∀ context, r = .ok context → context.sid = sid := by
  apply Within.runs
  simp only [channelContextCreate, Routine.run_bind, run_alloc, Prog.bind]
  refine ⟨rfl, ?_⟩
  intro ok
  cases ok with
  | false => exact ⟨rfl, fun _ h => by cases h⟩
  | true =>
    refine ⟨rfl, ?_⟩
    rintro context ⟨⟩
    rfl

section Opening

variable [MessageBuffer]

/-- `rawrtc_data_channel_create_internal` without the handler of the transport. -/
theorem dataChannelCreateInternal_runs (parameters : DataChannelParameters) :
    Runs answers s₀ cond a fs s
      (Routine.lift (dataChannelCreateInternal parameters {} false)) fun r s' =>
      match r with
      | .error _ => s' = s
      | .ok c => c = s.nextChannel ∧ Allocates s s' := by
  apply Within.runs
  simp only [dataChannelCreateInternal, Routine.run_bind, run_alloc, Prog.bind]
  refine ⟨rfl, ?_⟩
  intro ok
  cases ok with
  | false => rfl
  | true =>
    refine ⟨rfl, ?_⟩
    have hinit := fun s' : Transport => Steady.modifyChannel s' s.nextChannel
      (fun ch => { ch with flags := { ch.flags with initialized := true } }) fun _ => rfl
    exact (allocates_modify s parameters {}).steady (hinit _) rfl

theorem acknowledgeAndRegister_runs (hs : Tracked s₀ s) (hnew : s.streamId c = none)
    (hlt : c < s.nextChannel) (hown : s₀.nextChannel ≤ c) {info : RcvInfo}
    (hsid : cond → info.rcvSid < s.nChannels) :
    Runs answers s₀ cond a fs s (acknowledgeAndRegister c info) fun registered s' =>
      Tracked s₀ s' ∧ FollowsBut (· = c) s s' ∧
        (registered = false → s'.streamId c = none ∧ c < s'.nextChannel) := by
  -- nothing is left behind when one of the first steps fails
  have hfailed : ∀ s', Steady s s' → Tracked s₀ s' ∧ FollowsBut (· = c) s s' ∧
      (false = false → s'.streamId c = none ∧ c < s'.nextChannel) := by
    intro s' h
    refine ⟨hs.steady h, h.follows.but, ?_⟩
    intro _
    rw [h.streamId, h.nextChannel]
    exact ⟨hnew, hlt⟩
  apply (channelContextCreate_runs info.rcvSid true).bind
  intro r s' hcontext
  obtain ⟨rfl, hr⟩ := hcontext
  cases r with
  | error error => exact runs_pure (hfailed _ (refl_of Steady _))
  | ok context =>
    apply (Within.runs (dataChannelAckMessageCreate_within (R := (· = ·)) s')).bind
    rintro buffer s₁ rfl
    cases buffer with
    | error error => exact runs_pure (hfailed _ (refl_of Steady _))
    | ok bufferOut =>
      apply (Within.runs (sendMessage_within (R := Steady) none context bufferOut ppidDcep s')).bind
      intro code s₁ hsent
      apply Runs.ite
      · intro _
        have hsid₁ : cond → context.sid < s₁.nChannels := by
          intro hcond
          rw [hr context rfl, hsent.nChannels]
          exact hsid hcond
        have hnew₁ : s₁.streamId c = none := by rw [hsent.streamId, hnew]
        have hlt₁ : c < s₁.nextChannel := by rw [hsent.nextChannel]; exact hlt
        apply (channelRegister_runs (hs.steady hsent) hnew₁ hlt₁ hown hsid₁ true).bind
        intro _ s₂ h₂
        apply runs_pure
        exact ⟨h₂.1, trans_of (FollowsBut (· = c)) hsent.follows.but h₂.2, fun h => by cases h⟩
      · exact fun _ => runs_pure (hfailed _ hsent)

theorem handleDataChannelOpenMessage_runs (hs : Tracked s₀ s) (bufferIn : Mbuf) {info : RcvInfo}
    (hsid : cond → s.PeersSid answers info.rcvSid → info.rcvSid < s.nChannels) :
    Runs answers s₀ cond a fs s (handleDataChannelOpenMessage bufferIn info) (Goes s₀ s) := by
  apply runs_roleGetter.bind
  rintro role s' ⟨rfl, hrole⟩
  cases role with
  | error error => exact runs_pure (goes_refl hs)
  | ok dtlsRole =>
    apply Runs.ite fun _ => runs_pure (goes_refl hs)
    intro hparity
    have hbelow : cond → info.rcvSid < s.nChannels := fun hcond =>
      hsid hcond ⟨dtlsRole, hrole, Bool.eq_true_of_not_eq_false hparity⟩
    apply runs_get_bind
    apply runs_note_bind (.slot info.rcvSid) hbelow
    apply Runs.ite fun _ => runs_pure (goes_refl hs)
    intro _
    apply (Within.runs (dataChannelOpenMessageParse_within (R := (· = ·)) _ bufferIn s)).bind
    rintro parsed s' rfl
    cases parsed with
    | error error => exact runs_pure (goes_refl hs)
    | ok parsed =>
      obtain ⟨parameters, priority⟩ := parsed
      apply (Within.runs (sctpTransportGetDataTransport_within (R := (· = ·)) s)).bind
      rintro error s' rfl
      apply Runs.ite fun _ => runs_pure (goes_refl hs)
      intro _
      apply (dataChannelCreateInternal_runs parameters).bind
      intro created s₁ hcreated
      cases created with
      | error error =>
        obtain rfl : s₁ = s := hcreated
        exact runs_pure (goes_refl hs)
      | ok c =>
        obtain ⟨rfl, halloc⟩ := hcreated
        obtain ⟨hs₁, hf₁⟩ := halloc.tracked hs
        have hlt : s.nextChannel < s₁.nextChannel := by
          rw [halloc.nextChannel]
          exact Nat.lt_succ_self _
        have hsid₁ : cond → info.rcvSid < s₁.nChannels := by
          rw [halloc.nChannels]
          exact hbelow
        apply (acknowledgeAndRegister_runs hs₁ halloc.new hlt hs.follows.nextChannel hsid₁).bind
        intro registered s₂ h₂
        obtain ⟨hs₂, hbut, hleft⟩ := h₂
        -- the channel has not existed before
        have hf₂ : Follows s s₂ := by
          refine ⟨hbut.nChannels.trans hf₁.nChannels, hf₁.nextChannel.trans hbut.nextChannel, ?_⟩
          intro c hc _
          rw [hbut.streamId c (hc.trans_le hf₁.nextChannel) (Nat.ne_of_lt hc)]
          exact hf₁.streamId c hc id
        apply Runs.ite
        · intro hregistered
          obtain ⟨hnew, hlt₂⟩ := hleft hregistered
          apply (dataChannelDestroy_runs hs₂ hlt₂ hnew).mono
          intro _ s₃ h₃
          exact ⟨h₃.1, trans_of Follows hf₂ h₃.2⟩
        · exact fun _ => runs_pure ⟨hs₂, hf₂⟩

end Opening

end Registering

end Noting

end RawrtcDataChannel
