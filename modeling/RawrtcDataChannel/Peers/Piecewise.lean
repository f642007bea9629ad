import RawrtcDataChannel.Peers.Agreement
import RawrtcDataChannel.Peers.Parts

/-!
# Connections on which messages come in parts

Messages of the applications may be received in parts, and DCEP messages are received as a whole.
What the endpoints are free to do, and what may be received while something that was sent before it
is under way, depends on the runs that are looked at. With the order that usrsctp keeps, every step
is one of the two parties.
-/

namespace RawrtcDataChannel

open Reentrant Streams

section Piecewise

variable [MessageBuffer] {w w' : Connection} {e : Side} {sid : Nat} {i : Item ChannelId Message}
  {c : ChannelId} {m : Message} {pre post : List (Item ChannelId Message)} {free : Side → Freedom}
  {o : Option (Side × Nat × Item ChannelId Message)} {s : Transport}
  {b d : Config Call Op Op.Reply Transport Result} {bytes : Bytes} {eor : Bool}

/-! ## Section 1: Parts -/

/-- The library at one endpoint, when a part of a message reaches it. -/
def partHost (e : Side) (sid : Nat) (m : Message) (bytes : Bytes) (eor : Bool) :
    Host Call Op Op.Reply Transport Result where
  code := Call.run
  permits fs _ a := fs = [] ∧ a = readsPart sid m bytes eor
  answers := obliging (roleOf e)

/-- A part of a message reaches an endpoint, which goes on to its first pause. -/
abbrev TakesPart (e : Side) (sid : Nat) (m : Message) (bytes : Bytes) (eor : Bool)
    (b d : Config Call Op Op.Reply Transport Result) : Prop :=
  Stretch (partHost e sid m bytes eor) (fun o => o.isHandler = true) b d

/-- A part of a message is heard. -/
theorem Paused.receivesPart {S : Setting} {may : Freedom} (hparts : ¬ S.whole)
    (h : Paused S e may b) (hidle : b.stack = []) (huser : m.isDcep = false)
    (hslot : b.state.channels sid = some c) (hreceives : TakesPart e sid m bytes eor b d) :
    Heard may sid b.state d.state ∧ Paused S e may d := by
  obtain ⟨s, stack⟩ := b
  obtain rfl : stack = [] := hidle
  cases hreceives with
  | enter a _ _ p hpermits hp hpaused =>
    obtain ⟨-, rfl⟩ := hpermits
    have htracks : ((Call.run (readsPart sid m bytes eor)).run s).Tracks (endpoint S e may)
        (readsPart sid m bytes eor) [] (fun K _ => (endpoint S e may).ends [] K)
        (Heard may sid s) :=
      part_tracks hparts h.inv huser hslot bytes eor
    obtain ⟨hheard, hendpoint, hheld⟩ := Prog.Tracks.settle (D := endpoint S e may)
      (fun _ => rely_refl) (fun _ _ _ => rely_trans) (htracks.goesOn hp) hpaused h.held
      (fun hne => absurd rfl hne)
    exact ⟨hheard, hendpoint, hheld⟩

/-- Where an endpoint pauses that receives a part of a message. -/
theorem TakesPart.handsTo (htakes : TakesPart e sid m bytes eor b d) (hidle : b.stack = [])
    (hslot : b.state.channels sid = some c) (huser : m.isDcep = false) :
    ∀ f ∈ d.stack, ∃ bytes messageFlags,
      f.op = .handler (.messageHandler c bytes messageFlags) := by
  obtain ⟨s, stack⟩ := b
  obtain rfl : stack = [] := hidle
  cases htakes with
  | enter a _ _ p hpermits hp hpaused =>
    obtain ⟨-, rfl⟩ := hpermits
    have hwithin := hp.within (readsPart_handsTo hslot huser bytes eor)
    intro f hf
    cases p with
    | ret r s' => cases hf
    | out o s' k =>
      obtain rfl := List.mem_singleton.mp hf
      rcases hwithin.1 with hsystem | hhandler
      · change o.isHandler = true at hpaused
        change o.isHandler = false at hsystem
        rw [hsystem] at hpaused
        cases hpaused
      · exact hhandler

/-! ## Section 2: Steps -/

namespace Connection

/-- What may happen, and the item of which something is received, if any, with its receiver and its
    stream. A message of an application is under way until the last part of it has been received. -/
inductive Goes (free : Side → Freedom)
    (passes : Item ChannelId Message → Item ChannelId Message → Prop) :
    Connection → Option (Side × Nat × Item ChannelId Message) → Connection → Prop where
  | runs (w : Connection) (e : Side) (d : Config Call Op Op.Reply Transport Result) :
      Stretch (endpointHost e (free e)) (fun o => o.isHandler = true) (w.ends e) d →
      Goes free passes w none (w.proceed e d)
  | receives (w : Connection) (e : Side) (sid : Nat) (i : Item ChannelId Message)
      (pre post : List (Item ChannelId Message))
      (d : Config Call Op Op.Reply Transport Result) :
      (w.ends e).stack = [] → w.flight e.other sid = pre ++ i :: post →
      (∀ i' ∈ pre, passes i i') → ReadsWhole .piecewise i → Takes e sid i (w.ends e) d →
      Goes free passes w (some (e, sid, i)) ((w.take e sid i (pre ++ post)).proceed e d)
  | receivesPart (w : Connection) (e : Side) (sid : Nat) (c : ChannelId) (m : Message)
      (pre post : List (Item ChannelId Message)) (bytes : Bytes)
      (d : Config Call Op Op.Reply Transport Result) :
      (w.ends e).stack = [] → w.flight e.other sid = pre ++ .message c m :: post →
      (∀ i' ∈ pre, passes (.message c m) i') → m.isDcep = false →
      TakesPart e sid m bytes false (w.ends e) d →
      Goes free passes w (some (e, sid, .message c m)) (w.proceed e d)
  | receivesEnd (w : Connection) (e : Side) (sid : Nat) (c : ChannelId) (m : Message)
      (pre post : List (Item ChannelId Message)) (bytes : Bytes)
      (d : Config Call Op Op.Reply Transport Result) :
      (w.ends e).stack = [] → w.flight e.other sid = pre ++ .message c m :: post →
      (∀ i' ∈ pre, passes (.message c m) i') → m.isDcep = false →
      TakesPart e sid m bytes true (w.ends e) d →
      Goes free passes w (some (e, sid, .message c m))
        ((w.take e sid (.message c m) (pre ++ post)).proceed e d)
  | loses (w : Connection) (e : Side) (sid : Nat) (c : ChannelId) (m : Message)
      (pre post : List (Item ChannelId Message)) :
      w.flight e.other sid = pre ++ .message c m :: post → m.info.prinfoValid = true →
      Goes free passes w none (w.lose e sid (pre ++ post))

/-- The conversations go on, and both endpoints keep their promises. -/
structure Carried (free : Side → Freedom) (w : Connection) : Prop where
  net : w.net.Inv openerOf
  paused : ∀ e, Paused .piecewise e (free e) (w.ends e)

omit [MessageBuffer] in
theorem carried_created (free : Side → Freedom)
    (dataChannelHandler destroyedHandler traceHandle : Side → Bool)
    (usrsctpChunkSize maxMessageSize : Side → Nat) : Carried free (created dataChannelHandler
      destroyedHandler traceHandle usrsctpChunkSize maxMessageSize) where
  net := (vacant_created _ _ _ _ _).inv
  paused _ := ⟨endpoint_createConnected rfl _ _ _ _ _, trivial⟩

omit [MessageBuffer] in
/-- One endpoint goes on to its next pause. -/
theorem Carried.paused_update (h : w.Carried free) (hends : w'.ends = Function.update w.ends e d)
    (hpaused : Paused .piecewise e (free e) d) (e' : Side) :
    Paused .piecewise e' (free e') (w'.ends e') := by
  rw [hends]
  by_cases he : e' = e
  · subst he
    rw [Function.update_self]
    exact hpaused
  · rw [Function.update_of_ne he]
    exact h.paused e'

omit [MessageBuffer] in
theorem Carried.forwards (h : w.Carried free) (e : Side) : (w.ends e).state.Forwards :=
  (h.paused e).inv.sound.forwards

omit [MessageBuffer] in
/-- A message of the application that may be received finds a channel. -/
theorem Carried.finds (h : w.Carried free)
    (hflight : w.flight e.other sid = pre ++ .message c m :: post)
    (hpre : ∀ i' ∈ pre, (Item.message c m).Overtakes i') (huser : m.isDcep = false) :
    Vocabulary.proposal m = none ∧ ∃ c', (w.ends e).state.channels sid = some c' := by
  have hm : Vocabulary.proposal m = none := if_neg (by simp [huser])
  obtain ⟨r, -, hr, -⟩ := h.net.hears hflight hpre hm
  exact ⟨hm, r.channel, (slot_of_streams hr).1⟩

/-- **Every step is one of the two parties.** -/
theorem Carried.step
    (hfree : ∀ e p p', Party.Moves (free e) p p' →
      Party.Moves (κ := ChannelId) (χ := Terms) (μ := Message) (.full openerOf e) p p')
    (h : w.Carried free) (hstep : Goes free Item.Overtakes w o w') :
    Net.Advances free w.net o w'.net ∧ w'.Carried free := by
  have hcarried : ∀ {w' : Connection}, Net.Advances free w.net o w'.net →
      (∀ e, Paused .piecewise e (free e) (w'.ends e)) →
      Net.Advances free w.net o w'.net ∧ w'.Carried free :=
    fun hadvances hpaused => ⟨hadvances, h.net.advances hfree hadvances, hpaused⟩
  cases hstep with
  -- the end goes on by itself
  | runs e d hruns =>
    obtain ⟨⟨hmoves, -⟩, hpaused⟩ := (h.paused e).runs hruns
    refine hcarried ?_ (h.paused_update rfl hpaused)
    rw [net_proceed]
    exact .moves _ _ _ hmoves
  -- an item is delivered as a whole: the party reacts, and then moves
  | receives e sid i pre post d hidle hflight hpre hwhole hreceives =>
    obtain ⟨⟨⟨p, hreacts, hmoves⟩, -⟩, hpaused⟩ := (h.paused e).receives hidle hwhole
      (expected h.net h.paused hidle hflight hpre) hreceives
    refine hcarried ?_ (h.paused_update rfl hpaused)
    rw [net_proceed]
    exact .deliver _ _ _ _ _ _ _ _ hflight hpre hreacts hmoves
  -- a part of a message is delivered: the party hears it, and then moves
  | receivesPart e sid c m pre post bytes d hidle hflight hpre huser hreceives =>
    obtain ⟨hm, c', hslot⟩ := h.finds hflight hpre huser
    obtain ⟨hheard, hpaused⟩ := (h.paused e).receivesPart id hidle huser hslot hreceives
    have hmem : .message c m ∈ w.flight e.other sid := by simp [hflight]
    refine hcarried ?_ (h.paused_update rfl hpaused)
    rw [net_proceed]
    exact .hear _ _ _ _ _ _ _ hmem hm (Transport.streams_party hslot) hheard
  -- with the last part the message has been received
  | receivesEnd e sid c m pre post bytes d hidle hflight hpre huser hreceives =>
    obtain ⟨hm, c', hslot⟩ := h.finds hflight hpre huser
    obtain ⟨hheard, hpaused⟩ := (h.paused e).receivesPart id hidle huser hslot hreceives
    have hr := Transport.streams_party hslot
    have hreacts : Party.Reacts sid (.message c m) (w.ends e).state.party
        ((w.ends e).state.party.hear sid) := by
      rw [Party.hear_of_some hr]
      exact .hear _ _ _ _ hr hm
    refine hcarried ?_ (h.paused_update rfl hpaused)
    rw [net_proceed]
    exact .deliver _ _ _ _ _ _ _ _ hflight hpre hreacts hheard
  -- a lossy message disappears, and both ends stay as they are
  | loses e sid c m pre post hflight hm =>
    exact hcarried (.lose _ _ _ _ _ _ _ hflight hm) h.paused

/-! ## Section 3: Runs against oracles -/

variable {passes : Item ChannelId Message → Item ChannelId Message → Prop}

theorem goes_enter {a : Call} (ha : Permitted (pending (w.ends e).stack) (w.ends e).state a)
    (hfree : a.Free e (free e)) : Goes free passes w none (w.enter e a) :=
  .runs w e _ (.enter a _ _ _ ⟨ha, hfree⟩ (Prog.goesOn_goOn (obliging_obligingPeer _) _)
    (Prog.paused_goOn _))

theorem goes_receive (hidle : (w.ends e).stack = []) (hflight : w.flight e.other sid = i :: post)
    (hwhole : ReadsWhole .piecewise i) :
    Goes free passes w (some (e, sid, i)) (w.receive e sid) := by
  unfold Connection.receive
  rw [hflight]
  exact .receives w e sid _ [] post _ hidle hflight (by simp) hwhole (receives_enter hidle)

/-- The last part of a message reaches an endpoint. -/
def receiveEnd (w : Connection) (e : Side) (sid : Nat) (c : ChannelId) (m : Message)
    (rest : List (Item ChannelId Message)) (bytes : Bytes) : Connection :=
  (w.take e sid (.message c m) rest).enter e (readsPart sid m bytes true)

theorem goes_receiveEnd (hidle : (w.ends e).stack = [])
    (hflight : w.flight e.other sid = pre ++ .message c m :: post)
    (hpre : ∀ i' ∈ pre, passes (.message c m) i') (huser : m.isDcep = false) :
    Goes free passes w (some (e, sid, .message c m))
      (w.receiveEnd e sid c m (pre ++ post) bytes) := by
  have htakes : TakesPart e sid m bytes true (w.ends e) (settle (readsPart sid m bytes true)
      (((Call.run (readsPart sid m bytes true)).run (w.ends e).state).goOn (·.isHandler = true)
        (obligingPeer (roleOf e))) (w.ends e).stack) := by
    generalize w.ends e = b at hidle
    obtain ⟨s, stack⟩ := b
    obtain rfl : stack = [] := hidle
    exact .enter _ _ _ _ ⟨rfl, rfl⟩ (Prog.goesOn_goOn (obliging_obligingPeer _) _)
      (Prog.paused_goOn _)
  exact .receivesEnd w e sid c m pre post bytes _ hidle hflight hpre huser htakes

end Connection

end Piecewise

end RawrtcDataChannel
