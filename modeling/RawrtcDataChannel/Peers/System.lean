import RawrtcDataChannel.Lifecycle.GracefulClose
import RawrtcDataChannel.Peers.Deliveries
import RawrtcDataChannel.Streams.Balance

/-!
# Two connected transports

Two endpoints run the code, each with its application and its event loop, and what they send to each
other is under way until it is delivered. Stretches of the two are interleaved in any order, also
while handlers are running. Each of them is a step of the two parties and of the account of what
they hand over, so whatever is true of conversations is true of the transports.

The peer's SCTP stack answers requests for resets on its own. A message is delivered when no handler
is running. It is delivered as a whole, and it may be lost if it has been sent with limited
reliability.
-/

namespace RawrtcDataChannel

open Reentrant Streams

section System

variable [MessageBuffer]

/-! ## Section 1: Connections -/

/-- The library at one endpoint, between deliveries. -/
def endpointHost (e : Side) (may : Freedom) : Host Call Op Op.Reply Transport Result where
  code := Call.run
  permits fs s a := Permitted fs s a ∧ a.Free e may
  answers := obliging (roleOf e)

/-- The library at one endpoint, when an item reaches it. -/
def receivingHost (e : Side) (sid : Nat) (i : Item ChannelId Message) :
    Host Call Op Op.Reply Transport Result where
  code := Call.run
  permits fs _ a := fs = [] ∧ a = reads sid i
  answers := obliging (roleOf e)

/-- An endpoint goes on from one pause to the next. -/
abbrev Proceeds (e : Side) (c d : Config Call Op Op.Reply Transport Result) : Prop :=
  Stretch (endpointHost e (.full openerOf e)) (fun o => o.isHandler = true) c d

/-- An item reaches an endpoint, which goes on to its first pause. -/
abbrev Takes (e : Side) (sid : Nat) (i : Item ChannelId Message)
    (c d : Config Call Op Op.Reply Transport Result) : Prop :=
  Stretch (receivingHost e sid i) (fun o => o.isHandler = true) c d

/-- The two endpoints, and what each of them has sent on each stream that has not been received
    yet. -/
structure Connection where
  ends : Side → Config Call Op Op.Reply Transport Result
  flight : Side → Nat → List (Item ChannelId Message)

namespace Connection

variable (w : Connection) (e : Side)

/-- The two parties. -/
def net : Net ChannelId Terms Message where
  party e := (w.ends e).state.party
  flight := w.flight

/-- The two parties, and what has been handed over at either end. -/
def account : Account ChannelId Terms Message UserMessage where
  net := w.net
  handed e := (w.ends e).state.handed

/-- An endpoint goes on to `d`. What it has sent meanwhile is under way. -/
def proceed (d : Config Call Op Op.Reply Transport Result) : Connection where
  ends := Function.update w.ends e d
  flight := Function.update w.flight e fun sid =>
    w.flight e sid ++ Party.itemsOn sid
      (d.state.party.sent.drop (w.ends e).state.party.sent.length)

/-- An item reaches an endpoint, whose SCTP stack answers requests. What is still under way is
    `rest`. -/
def take (sid : Nat) (i : Item ChannelId Message) (rest : List (Item ChannelId Message)) :
    Connection where
  ends := w.ends
  flight := (w.net.take e sid i rest).flight

/-- An item to an endpoint gets lost. -/
def lose (sid : Nat) (rest : List (Item ChannelId Message)) : Connection where
  ends := w.ends
  flight := (w.net.lose e sid rest).flight

/-- What may happen at any time. -/
inductive Step : Connection → Connection → Prop where
  | runs (w : Connection) (e : Side) (d : Config Call Op Op.Reply Transport Result) :
      Proceeds e (w.ends e) d → Step w (w.proceed e d)
  | receives (w : Connection) (e : Side) (sid : Nat) (i : Item ChannelId Message)
      (pre post : List (Item ChannelId Message))
      (d : Config Call Op Op.Reply Transport Result) :
      (w.ends e).stack = [] → w.flight e.other sid = pre ++ i :: post →
      (∀ i' ∈ pre, i.Overtakes i') → Takes e sid i (w.ends e) d →
      Step w ((w.take e sid i (pre ++ post)).proceed e d)
  | loses (w : Connection) (e : Side) (sid : Nat) (c : ChannelId) (m : Message)
      (pre post : List (Item ChannelId Message)) :
      w.flight e.other sid = pre ++ .message c m :: post → m.info.prinfoValid = true →
      Step w (w.lose e sid (pre ++ post))

/-- Two transports that have just been connected. Each has been told the maximum size of messages
    when it was started. -/
def created (dataChannelHandler destroyedHandler traceHandle : Side → Bool)
    (usrsctpChunkSize maxMessageSize : Side → Nat) : Connection where
  ends e := ⟨(Transport.createConnected (dataChannelHandler e) (destroyedHandler e) (traceHandle e)
    (usrsctpChunkSize e)).setRemoteMaximumMessageSize (maxMessageSize e), []⟩
  flight _ _ := []

/-- The connections of all runs. -/
def Reached (w : Connection) : Prop :=
  ∃ dataChannelHandler destroyedHandler traceHandle usrsctpChunkSize maxMessageSize,
    Relation.ReflTransGen Step (created dataChannelHandler destroyedHandler traceHandle
      usrsctpChunkSize maxMessageSize) w

variable {w : Connection} {e : Side}

omit [MessageBuffer] in
@[simp] theorem net_proceed (d : Config Call Op Op.Reply Transport Result) :
    (w.proceed e d).net = w.net.follow e d.state.party := by
  unfold proceed net Net.follow
  congr 1
  funext e'
  by_cases he : e' = e
  · simp [he]
  · simp [he]

omit [MessageBuffer] in
@[simp] theorem net_take (sid : Nat) (i : Item ChannelId Message)
    (rest : List (Item ChannelId Message)) : (w.take e sid i rest).net = w.net.take e sid i rest :=
  rfl

omit [MessageBuffer] in
@[simp] theorem net_lose (sid : Nat) (rest : List (Item ChannelId Message)) :
    (w.lose e sid rest).net = w.net.lose e sid rest :=
  rfl

omit [MessageBuffer] in
theorem handed_proceed {d : Config Call Op Op.Reply Transport Result}
    {out : List (ChannelId × UserMessage)} (h : d.state.handed = (w.ends e).state.handed ++ out) :
    (w.proceed e d).account.handed =
      Function.update w.account.handed e (w.account.handed e ++ out) := by
  funext e'
  by_cases he : e' = e
  · subst he
    simpa [account, proceed] using h
  · simp [account, proceed, he]

omit [MessageBuffer] in
/-- Nothing is handed over meanwhile. -/
theorem account_proceed {d : Config Call Op Op.Reply Transport Result}
    (h : d.state.handed = (w.ends e).state.handed) :
    (w.proceed e d).account = w.account.follow e d.state.party := by
  have hhanded := handed_proceed (w := w) (h.trans (List.append_nil _).symm)
  rw [List.append_nil, Function.update_eq_self] at hhanded
  exact Account.ext (net_proceed d) hhanded

omit [MessageBuffer] in
/-- An item is received, and `out` is handed over. -/
theorem account_receive {d : Config Call Op Op.Reply Transport Result} {sid : Nat}
    {i : Item ChannelId Message} {rest : List (Item ChannelId Message)}
    {out : List (ChannelId × UserMessage)} (h : d.state.handed = (w.ends e).state.handed ++ out) :
    ((w.take e sid i rest).proceed e d).account =
      (w.account.take e sid i rest out).follow e d.state.party :=
  Account.ext (net_proceed d) (handed_proceed (w := w.take e sid i rest) h)

/-- Whenever something can be received by one of these channels, it has a message handler. -/
def Attended (attended : Side → ChannelId → Prop) (w : Connection) : Prop :=
  ∀ ⦃e sid c⦄, attended e c → (w.ends e).stack = [] → (w.ends e).state.channels sid = some c →
    w.flight e.other sid ≠ [] → ((w.ends e).state.dataChannels c).handlers.messageHandler = true

end Connection

/-! ## Section 2: What an endpoint does in a stretch -/

section Stretches

variable {S : Setting} {e : Side} {may : Freedom} {fs : List (Call × Op)} {a : Call} {sid : Nat}
  {i : Item ChannelId Message} {s s₀ : Transport} {c d : Config Call Op Op.Reply Transport Result}

/-- At a pause of an endpoint. -/
structure Paused (S : Setting) (e : Side) (may : Freedom)
    (c : Config Call Op Op.Reply Transport Result) : Prop where
  inv : Endpoint S (pending c.stack) c.state
  held : Reentrant.Held (endpoint S e may) c.state c.stack

omit [MessageBuffer] in
theorem Paused.idle (h : Paused S e may c) (hidle : c.stack = []) : Endpoint S [] c.state := by
  have hendpoint := h.inv
  rw [hidle] at hendpoint
  exact hendpoint

/-- Between deliveries an endpoint moves. -/
theorem Paused.runs (h : Paused S e may c)
    (hruns : Stretch (endpointHost e may) (fun o => o.isHandler = true) c d) :
    (endpoint S e may).promise c.state d.state ∧ Paused S e may d := by
  obtain ⟨hpromise, hendpoint, hheld⟩ := Stretch.held (D := endpoint S e may)
    (H := endpointHost e may) (fun _ => rely_refl) (fun _ _ _ => rely_trans)
    (fun _ _ => promise_of_rely) (fun _ _ _ => id)
    (fun _ _ _ hs hpermits => call_tracks hs hpermits.1 hpermits.2) h.inv h.held hruns
  exact ⟨hpromise, hendpoint, hheld⟩

/-- At a delivery it reacts, hands over the content, and moves. -/
theorem Paused.receives (h : Paused S e may c) (hidle : c.stack = []) (hwhole : ReadsWhole S i)
    (hexpected : Expected S e sid c.state i) (hreceives : Takes e sid i c d) :
    Delivered may sid i (c.state.offers sid i) c.state d.state ∧ Paused S e may d := by
  obtain ⟨s, stack⟩ := c
  obtain rfl : stack = [] := hidle
  cases hreceives with
  | enter a _ _ p hpermits hp hpaused =>
    obtain ⟨-, rfl⟩ := hpermits
    have htracks : ((Call.run (reads sid i)).run s).Tracks (endpoint S e may) (reads sid i) []
        (fun K _ => (endpoint S e may).ends [] K) (Delivered may sid i (s.offers sid i) s) :=
      delivery_tracks h.inv hwhole hexpected
    obtain ⟨hdelivered, hendpoint, hheld⟩ := Prog.Tracks.settle (D := endpoint S e may)
      (fun _ => rely_refl) (fun _ _ _ => rely_trans) (htracks.goesOn hp) hpaused h.held
      (fun hne => absurd rfl hne)
    exact ⟨hdelivered, hendpoint, hheld⟩

omit [MessageBuffer] in
/-- Whatever is permitted is allowed, except that a transport may not be started by a handler. -/
theorem allowed_of_permitted (h : Permitted fs s a) (hstart : ∀ size, a ≠ .start size) :
    Allowed {} fs s a where
  handler f fs' hfs := by
    subst hfs
    have happlication : ApplicationsTurn (f :: fs') → f.2.isHandler = true :=
      fun h => h f rfl
    cases a with
    | start size => exact absurd rfl (hstart size)
    | stop | destroy => exact h.elim
    | create | close => exact ⟨happlication h.1, trivial⟩
    | feedInbound | errorEvent | writeEvent => cases h
    | readEvent => cases h.1
    | _ => exact ⟨happlication h, trivial⟩
  close c ha := by
    subst ha
    rintro ⟨b, hb⟩
    exact h.2 b hb
  stop ha := by
    subst ha
    exact h.elim
  maxChannels _ := le_top
  sidsBelow h := h.elim

/-- Endpoints do what any transport may do. -/
theorem reachable_runs (hreach : Reachable (host (Allowed {})) s₀ c)
    (hconnected : c.state.state = .connected) (hruns : Proceeds e c d) :
    Reachable (host (Allowed {})) s₀ d := by
  cases hruns with
  | enter a s stack p hpermits hp hpaused =>
    by_cases hstart : ∃ size, a = .start size
    · -- the transport has been started before
      obtain ⟨size, rfl⟩ := hstart
      have hrun : (Call.run (.start size)).run s = .ret (.code .invalidState) s := by
        have hnew : s.state ≠ .new := by
          rw [hconnected]
          decide
        simp [Call.run, sctpTransportStart, Prog.bind, hnew]
      change ((Call.run (.start size)).run s).GoesOn _ _ p at hp
      rw [hrun] at hp
      cases hp
      exact hreach
    · have hallowed := allowed_of_permitted (s := s) hpermits.1 fun size ha => hstart ⟨size, ha⟩
      exact hreach.stretch (.enter a s stack p hallowed (hp.mono fun _ _ _ _ => trivial) hpaused)
  | answer f r s stack p hr hp hpaused =>
    exact hreach.stretch (.answer f r s stack p trivial (hp.mono fun _ _ _ _ => trivial) hpaused)

theorem reachable_receives (hreach : Reachable (host (Allowed {})) s₀ c) (hidle : c.stack = [])
    (hreceives : Takes e sid i c d) : Reachable (host (Allowed {})) s₀ d := by
  obtain ⟨s, stack⟩ := c
  obtain rfl : stack = [] := hidle
  cases hreceives with
  | enter a _ _ p hpermits hp hpaused =>
    obtain ⟨-, rfl⟩ := hpermits
    have hallowed : Allowed {} [] s (reads sid i) := allowed_of_handlersClose (.inl rfl)
    exact hreach.stretch (.enter _ s [] p hallowed (hp.mono fun _ _ _ _ => trivial) hpaused)

end Stretches

/-! ## Section 3: Every step of every run -/

section Runs

variable {w w' : Connection} {e : Side} {sid : Nat} {i : Item ChannelId Message}
  {pre post : List (Item ChannelId Message)}

namespace Connection

/-- There is a conversation on each stream, and both endpoints keep their promises. -/
structure Inv (w : Connection) : Prop where
  net : w.net.Inv openerOf
  paused : ∀ e, Paused .wholly e (.full openerOf e) (w.ends e)
  reachable : ∀ e, ∃ dataChannelHandler destroyedHandler traceHandle usrsctpChunkSize,
    Reachable (host (Allowed {})) (.create dataChannelHandler false destroyedHandler traceHandle
      usrsctpChunkSize) (w.ends e)

omit [MessageBuffer] in
/-- What may be received is expected. -/
theorem expected {S : Setting} {may : Side → Freedom} (hnet : w.net.Inv openerOf)
    (hpaused : ∀ e, Paused S e (may e) (w.ends e)) (hidle : (w.ends e).stack = [])
    (hflight : w.flight e.other sid = pre ++ i :: post) (hpre : ∀ i' ∈ pre, i.Overtakes i') :
    Expected S e sid (w.ends e).state i := by
  have hendpoint := (hpaused e).idle hidle
  -- where the party has a channel, the transport has one
  have hslot : ∀ {r}, (w.net.party e).streams sid = some r →
      ∃ c, (w.ends e).state.channels sid = some c := by
    intro r hr
    obtain ⟨c, hc, -⟩ := Option.map_eq_some_iff.mp hr
    exact ⟨c, hc⟩
  cases i with
  | message c m =>
    by_cases hm : Vocabulary.proposal m = none
    · obtain ⟨r, -, hr, -⟩ := hnet.hears hflight hpre hm
      simpa only [Expected, if_pos hm] using hslot hr
    · obtain ⟨hopener, hfree, r, hr, -⟩ := hnet.accepts hflight hpre hm
        fun j r _ hj => hendpoint.settled rfl trivial hj
      obtain ⟨c', hc', -⟩ := Option.map_eq_some_iff.mp hr
      have hbelow := (hpaused e.other).inv.sound.below hc'
      simpa only [Expected, if_neg hm] using ⟨hopener, hbelow, Option.map_eq_none_iff.mp hfree⟩
  | reset =>
    obtain ⟨r, hr, -⟩ := hnet.asks hflight hpre
    exact hslot hr
  | response =>
    obtain ⟨r, hr, -⟩ := hnet.answers hflight
    exact hslot hr

/-- One endpoint goes on to its next pause. -/
theorem Inv.follow (h : w.Inv) {d : Config Call Op Op.Reply Transport Result}
    (hends : w'.ends = Function.update w.ends e d) (hnet : w'.net.Inv openerOf)
    (hpaused : Paused .wholly e (.full openerOf e) d)
    (hreach : ∀ s₀, Reachable (host (Allowed {})) s₀ (w.ends e) →
      Reachable (host (Allowed {})) s₀ d) : w'.Inv where
  net := hnet
  paused e' := by
    rw [hends]
    by_cases he : e' = e
    · subst he
      rw [Function.update_self]
      exact hpaused
    · rw [Function.update_of_ne he]
      exact h.paused e'
  reachable e' := by
    rw [hends]
    by_cases he : e' = e
    · subst he
      rw [Function.update_self]
      obtain ⟨dataChannelHandler, destroyedHandler, traceHandle, usrsctpChunkSize, hr⟩ :=
        h.reachable e'
      exact ⟨dataChannelHandler, destroyedHandler, traceHandle, usrsctpChunkSize, hreach _ hr⟩
    · rw [Function.update_of_ne he]
      exact h.reachable e'

omit [MessageBuffer] in
/-- Nothing else is handed over than the content of a message to a channel. -/
theorem offers_eq (s : Transport) (sid : Nat) (i : Item ChannelId Message) :
    s.offers sid i = [] ∨ s.offers sid i =
      offered Message.content (s.party.streams sid) i := by
  cases i with
  | reset | response => exact .inl rfl
  | message c m =>
    cases hslot : s.channels sid with
    | none => exact .inl (by simp [Transport.offers, hslot])
    | some c' =>
      cases hm : m.content with
      | none => exact .inl (offers_of_content_none s sid c hm)
      | some u =>
        rw [Transport.streams_party hslot]
        simp only [Transport.offers, offered, hslot, hm, Transport.occupant]
        split
        · exact .inr rfl
        · exact .inl rfl

omit [MessageBuffer] in
/-- A channel with a message handler does not ignore anything. -/
theorem offers_of_handler {s : Transport} {c : ChannelId} (hslot : s.channels sid = some c)
    (hhandler : (s.dataChannels c).handlers.messageHandler = true) (i : Item ChannelId Message) :
    s.offers sid i = offered Message.content (some (s.occupant c)) i := by
  cases i with
  | reset | response => rfl
  | message c' m =>
    cases hm : m.content <;>
      simp [Transport.offers, offered, hslot, hhandler, hm, Transport.occupant]

/-- **Every step of a connection is a step of its account**, and so of the net. -/
theorem Inv.step {attended : Side → ChannelId → Prop} (h : w.Inv) (hattended : w.Attended attended)
    (hstep : Step w w') :
    Account.Step openerOf Message.content attended w.account w'.account ∧ w'.Inv := by
  have hnet : ∀ {w' : Connection},
      Account.Step openerOf Message.content attended w.account w'.account → w'.net.Inv openerOf :=
    fun hstep => h.net.step hstep.net
  cases hstep with
  -- the end goes on by itself: its party moves
  | runs e d hruns =>
    obtain ⟨⟨hmoves, hhanded⟩, hpaused⟩ := (h.paused e).runs hruns
    have hstep : Account.Step openerOf Message.content attended w.account
        (w.proceed e d).account := by
      rw [account_proceed hhanded]
      exact .moves _ _ _ hmoves
    refine ⟨hstep, h.follow rfl (hnet hstep) hpaused fun s₀ hreach => ?_⟩
    exact reachable_runs hreach (h.paused e).inv.sound.connected hruns
  -- an item is delivered: the party reacts, and then moves
  | receives e sid i pre post d hidle hflight hpre hreceives =>
    obtain ⟨⟨⟨p, hreacts, hmoves⟩, hhanded⟩, hpaused⟩ := (h.paused e).receives hidle
      (fun _ _ _ _ => trivial) (expected h.net h.paused hidle hflight hpre) hreceives
    have hstep : Account.Step openerOf Message.content attended w.account
        ((w.take e sid i (pre ++ post)).proceed e d).account := by
      rw [account_receive hhanded]
      refine .deliver _ _ _ _ _ _ _ _ _ hflight hpre hreacts hmoves (offers_eq _ _ _) ?_
      intro r hr hr'
      obtain ⟨c, hslot, rfl⟩ := Option.map_eq_some_iff.mp hr
      have hmore : w.flight e.other sid ≠ [] := by simp [hflight]
      exact offers_of_handler hslot (hattended hr' hidle hslot hmore) i
    refine ⟨hstep, h.follow rfl (hnet hstep) hpaused fun s₀ hreach => ?_⟩
    exact reachable_receives hreach hidle hreceives
  -- a lossy message disappears, and both ends stay as they are
  | loses e sid c m pre post hflight hm =>
    have hstep : Account.Step openerOf Message.content attended w.account
        (w.lose e sid (pre ++ post)).account := .lose _ _ _ _ _ _ _ hflight hm
    exact ⟨hstep, hnet hstep, h.paused, h.reachable⟩

omit [MessageBuffer] in
/-- It may be that no channel is attended. -/
theorem attended_none (w : Connection) : w.Attended fun _ _ => False :=
  fun _ _ _ hfalse => hfalse.elim

omit [MessageBuffer] in
/-- A transport without channels, which has not sent anything yet. -/
theorem endpoint_createConnected {S : Setting} (hstreams : S.nStreams = defaultNumberOfStreams)
    (dataChannelHandler destroyedHandler traceHandle : Bool)
    (usrsctpChunkSize maxMessageSize : Nat) :
    Endpoint S [] ((Transport.createConnected dataChannelHandler destroyedHandler traceHandle
        usrsctpChunkSize).setRemoteMaximumMessageSize maxMessageSize) := by
  refine ⟨⟨rfl, rfl, hstreams.symm, ⟨?_, fun _ _ => rfl⟩, ?_, ?_, ?_, ?_, InLine.nil_iff.mpr rfl⟩,
    ?_, fun _ => ?_, fun _ => rfl, fun _ _ _ => rfl⟩
  · intro j c hslot
    cases hslot
  · intro j c hslot
    cases hslot
  · intro c j hsid
    cases hsid
  · intro c
    refine ⟨fun _ => rfl, ?_, ?_⟩
    · intro hrequested
      cases hrequested
    · intro hpending
      cases hpending
  · intro j c m hm
    cases hm
  · intro j c hslot
    cases hslot
  · intro sid r _ hr
    cases hr

omit [MessageBuffer] in
theorem vacant_created (dataChannelHandler destroyedHandler traceHandle : Side → Bool)
    (usrsctpChunkSize maxMessageSize : Side → Nat) : (created dataChannelHandler destroyedHandler
      traceHandle usrsctpChunkSize maxMessageSize).net.Vacant :=
  ⟨fun _ _ => rfl, fun _ => rfl, fun _ _ => rfl⟩

theorem inv_created (dataChannelHandler destroyedHandler traceHandle : Side → Bool)
    (usrsctpChunkSize maxMessageSize : Side → Nat) : (created dataChannelHandler destroyedHandler
      traceHandle usrsctpChunkSize maxMessageSize).Inv where
  net := (vacant_created _ _ _ _ _).inv
  paused _ := ⟨endpoint_createConnected rfl _ _ _ _ _, trivial⟩
  reachable _ := ⟨_, _, _, _, reachable_connected
    (fun _ _ => allowed_of_handlersClose (.inl rfl)) _ _ _ _ _⟩

/-- **Every run of two connected transports is a run of the net**, and the invariant holds in all of
    its states. -/
theorem Reached.inv (h : w.Reached) : w.Inv := by
  obtain ⟨_, _, _, _, _, hsteps⟩ := h
  induction hsteps with
  | refl => exact inv_created _ _ _ _ _
  | tail _ hstep ih => exact (ih.step (attended_none _) hstep).2

end Connection

end Runs

/-! ## Section 4: Runs against oracles -/

omit [MessageBuffer] in
/-- Surroundings in which everything succeeds. -/
def obligingPeer (role : DtlsRole) : (o : Op) → Transport → o.Reply
  | .roleGetter, _ => .ok role
  | o, s => obligingOracle o s

omit [MessageBuffer] in
theorem obliging_obligingPeer (role : DtlsRole) (o : Op) (s : Transport) :
    obliging role o s (obligingPeer role o s) := by
  cases o with
  | alloc | allocSendContext => rfl
  | sendv buffer flags info => exact le_refl buffer.length
  | resetStreams sid => rfl
  | roleGetter => rfl
  | _ => trivial

namespace Connection

/-- An endpoint uses the library and goes on to its next pause. -/
def enter (w : Connection) (e : Side) (a : Call) : Connection :=
  w.proceed e (settle a (((Call.run a).run (w.ends e).state).goOn (·.isHandler = true)
    (obligingPeer (roleOf e))) (w.ends e).stack)

/-- The handler that an endpoint runs, if any, returns. -/
def resume (w : Connection) (e : Side) : Connection :=
  match (w.ends e).stack with
  | [] => w
  | f :: stack =>
    w.proceed e (settle f.call ((f.resume (obligingPeer (roleOf e) f.op (w.ends e).state)
      (w.ends e).state).goOn (·.isHandler = true) (obligingPeer (roleOf e))) stack)

/-- The first item that is under way on a stream, if any, reaches an endpoint. -/
def receive (w : Connection) (e : Side) (sid : Nat) : Connection :=
  match w.flight e.other sid with
  | [] => w
  | i :: post => (w.take e sid i post).enter e (reads sid i)

variable {w : Connection}

theorem Reached.step {w' : Connection} (h : w.Reached) (hstep : Step w w') : w'.Reached := by
  obtain ⟨_, _, _, _, _, hsteps⟩ := h
  exact ⟨_, _, _, _, _, hsteps.tail hstep⟩

theorem step_enter {e : Side} {a : Call}
    (ha : Permitted (pending (w.ends e).stack) (w.ends e).state a) : Step w (w.enter e a) :=
  .runs w e _ (.enter a _ _ _ ⟨ha, a.free_full e⟩ (Prog.goesOn_goOn (obliging_obligingPeer _) _)
    (Prog.paused_goOn _))

theorem Reached.enter (h : w.Reached) {e : Side} {a : Call}
    (ha : Permitted (pending (w.ends e).stack) (w.ends e).state a) : (w.enter e a).Reached :=
  h.step (step_enter ha)

theorem step_resume {e : Side} {f : Frame Call Op Op.Reply Transport Result}
    {stack : List (Frame Call Op Op.Reply Transport Result)}
    (hstack : (w.ends e).stack = f :: stack) : Step w (w.resume e) := by
  unfold Connection.resume
  rw [hstack]
  have hends : w.ends e = ⟨(w.ends e).state, f :: stack⟩ := by
    rw [← hstack]
  refine .runs w e _ ?_
  rw [hends]
  exact .answer f _ _ stack _ (obliging_obligingPeer _ _ _)
    (Prog.goesOn_goOn (obliging_obligingPeer _) _) (Prog.paused_goOn _)

theorem receives_enter {e : Side} {sid : Nat} {i : Item ChannelId Message}
    (hidle : (w.ends e).stack = []) : Takes e sid i (w.ends e)
      (settle (reads sid i) (((Call.run (reads sid i)).run (w.ends e).state).goOn
        (·.isHandler = true) (obligingPeer (roleOf e))) (w.ends e).stack) := by
  generalize w.ends e = c at hidle
  obtain ⟨s, stack⟩ := c
  obtain rfl : stack = [] := hidle
  exact .enter _ _ _ _ ⟨rfl, rfl⟩ (Prog.goesOn_goOn (obliging_obligingPeer _) _)
    (Prog.paused_goOn _)

theorem step_receive {e : Side} {sid : Nat} {i : Item ChannelId Message}
    {post : List (Item ChannelId Message)} (hidle : (w.ends e).stack = [])
    (hflight : w.flight e.other sid = i :: post) : Step w (w.receive e sid) := by
  unfold Connection.receive
  rw [hflight]
  exact .receives w e sid i [] post _ hidle hflight (by simp) (receives_enter hidle)

theorem Reached.receive (h : w.Reached) {e : Side} {sid : Nat} (hidle : (w.ends e).stack = []) :
    (w.receive e sid).Reached := by
  cases hflight : w.flight e.other sid with
  | nil =>
    rw [Connection.receive, hflight]
    exact h
  | cons i post => exact h.step (step_receive hidle hflight)

end Connection

end System

end RawrtcDataChannel
