import RawrtcDataChannel.Peers.Agreement
import RawrtcDataChannel.Streams.Effort

/-!
# Connections come to rest

From some time on nobody creates channels or sends messages any more. The applications may still
close channels and set handlers, and closing procedures go on at both ends. Then only so many items
are received on each stream, in whatever order things happen. So streams do not stay busy with
resets and answers for ever.
-/

namespace RawrtcDataChannel

open Reentrant Streams

section Rest

variable [MessageBuffer] {w w' w'' : Connection} {e : Side} {sid k : Nat} {o : Option Nat}

namespace Connection

/-! ## Section 1: Quiet runs -/

/-- What may happen while nobody creates channels or sends messages, and the stream on which an item
    is received, if any. -/
inductive Quietly : Connection → Option Nat → Connection → Prop where
  | runs (w : Connection) (e : Side) (d : Config Call Op Op.Reply Transport Result) :
      Stretch (endpointHost e .quiet) (fun o => o.isHandler = true) (w.ends e) d →
      Quietly w none (w.proceed e d)
  | receives (w : Connection) (e : Side) (sid : Nat) (i : Item ChannelId Message)
      (pre post : List (Item ChannelId Message))
      (d : Config Call Op Op.Reply Transport Result) :
      (w.ends e).stack = [] → w.flight e.other sid = pre ++ i :: post →
      (∀ i' ∈ pre, i.Overtakes i') → Takes e sid i (w.ends e) d →
      Quietly w (some sid) ((w.take e sid i (pre ++ post)).proceed e d)
  | loses (w : Connection) (e : Side) (sid : Nat) (c : ChannelId) (m : Message)
      (pre post : List (Item ChannelId Message)) :
      w.flight e.other sid = pre ++ .message c m :: post → m.info.prinfoValid = true →
      Quietly w none (w.lose e sid (pre ++ post))

/-- Runs in which nobody creates channels or sends messages, and the number of items that are
    received on the stream `sid` meanwhile. -/
inductive QuietRun (sid : Nat) : Nat → Connection → Connection → Prop where
  | refl (w : Connection) : QuietRun sid 0 w w
  | tail {w w' w'' : Connection} {k : Nat} {o : Option Nat} :
      QuietRun sid k w w' → Quietly w' o w'' →
      QuietRun sid (k + if o = some sid then 1 else 0) w w''

/-- Quiet runs are runs. -/
theorem Quietly.step (h : Quietly w o w') : Step w w' := by
  cases h with
  | runs e d hruns =>
    have hproceeds : Proceeds e (w.ends e) d := by
      refine Stretch.mono ?_ ?_ ?_ hruns
      · rfl
      · exact fun _ _ a hpermits => ⟨hpermits.1, a.free_full e⟩
      · exact fun _ _ _ => id
    exact .runs _ _ _ hproceeds
  | receives e sid i pre post d hidle hflight hpre hreceives =>
    exact .receives _ _ _ _ _ _ _ hidle hflight hpre hreceives
  | loses e sid c m pre post hflight hm => exact .loses _ _ _ _ _ _ _ hflight hm

/-- One more item is received. -/
theorem QuietRun.receive (hrun : QuietRun sid k w w') {i : Item ChannelId Message}
    {post : List (Item ChannelId Message)} (hidle : (w'.ends e).stack = [])
    (hflight : w'.flight e.other sid = i :: post) :
    QuietRun sid (k + 1) w (w'.receive e sid) := by
  have hquietly : Quietly w' (some sid) (w'.receive e sid) := by
    unfold Connection.receive
    rw [hflight]
    exact .receives w' e sid i [] post _ hidle hflight (by simp) (receives_enter hidle)
  simpa using hrun.tail hquietly

/-! ## Section 2: Every step of a quiet run -/

/-- All that is suspended is quiet. -/
def Calm (w : Connection) : Prop :=
  ∀ e, Paused .wholly e .quiet (w.ends e)

/-- With no handler running, nothing is suspended. -/
theorem Inv.calm (h : w.Inv) (hidle : ∀ e, (w.ends e).stack = []) : w.Calm := by
  intro e
  refine ⟨(h.paused e).inv, ?_⟩
  rw [hidle e]
  trivial

omit [MessageBuffer] in
/-- One endpoint goes on. -/
theorem Calm.follow (h : w.Calm) {d : Config Call Op Op.Reply Transport Result}
    (hends : w'.ends = Function.update w.ends e d)
    (hpaused : Paused .wholly e .quiet d) : w'.Calm := by
  intro e'
  rw [hends]
  by_cases he : e' = e
  · subst he
    rw [Function.update_self]
    exact hpaused
  · rw [Function.update_of_ne he]
    exact h e'

/-- Every step of a quiet run is one of quiet parties: it does not make the effort larger, and
    smaller if an item is received. -/
theorem Calm.quietly (h : w.Calm) (hinv : w.Inv) (hstep : Quietly w o w') :
    w'.Calm ∧ ∀ sid, w'.net.effort sid + (if o = some sid then 1 else 0) ≤ w.net.effort sid := by
  cases hstep with
  | runs e d hruns =>
    obtain ⟨⟨hmoves, -⟩, hpaused⟩ := (h e).runs hruns
    refine ⟨h.follow rfl hpaused, fun sid => ?_⟩
    rw [net_proceed]
    exact Net.effort_moves hmoves sid
  | receives e sid i pre post d hidle hflight hpre hreceives =>
    obtain ⟨⟨⟨p, hreacts, hmoves⟩, -⟩, hpaused⟩ := (h e).receives hidle
      (fun _ _ _ _ => trivial) (expected hinv.net hinv.paused hidle hflight hpre) hreceives
    refine ⟨h.follow rfl hpaused, fun j => ?_⟩
    -- first the reaction, and then the moves
    obtain ⟨_, _, hp⟩ := hreacts.eq_put
    have hreacted := Net.effort_reacts (N := w.net) hflight hreacts j
    have hmoved := Net.effort_moves (N := (w.net.take e sid i (pre ++ post)).follow e p) (e := e)
      (p := d.state.party) (by rwa [Net.party_follow]) j
    have hsent : ∃ out, p.sent = ((w.net.take e sid i (pre ++ post)).party e).sent ++ out :=
      ⟨_, congrArg Party.sent hp⟩
    rw [Net.follow_follow _ e hsent hmoves.sent] at hmoved
    rw [net_proceed, net_take]
    by_cases hj : j = sid
    · rw [if_pos hj] at hreacted
      rw [if_pos (by rw [hj])]
      omega
    · rw [if_neg hj] at hreacted
      rw [if_neg (by simpa using Ne.symm hj)]
      omega
  | loses e sid c m pre post hflight hm =>
    exact ⟨h, fun j => Net.effort_lose (N := w.net) hflight j⟩

/-- The effort pays for every item that is received. -/
theorem QuietRun.effort (hrun : QuietRun sid k w w') (hinv : w.Inv) (hcalm : w.Calm) :
    (w'.Inv ∧ w'.Calm) ∧ k + w'.net.effort sid ≤ w.net.effort sid := by
  -- each step needs what holds in every state of the run, so this is carried along
  induction hrun with
  | refl w => exact ⟨⟨hinv, hcalm⟩, by omega⟩
  | tail _ hstep ih =>
    obtain ⟨⟨hinv', hcalm'⟩, hle⟩ := ih hinv hcalm
    obtain ⟨hcalm'', heffort⟩ := hcalm'.quietly hinv' hstep
    refine ⟨⟨(hinv'.step (attended_none _) hstep.step).2, hcalm''⟩, ?_⟩
    have hsid := heffort sid
    omega

/-! ## Section 3: Results -/

/-- **Streams come to rest.** Once nobody creates channels or sends messages, the number of items
    that are received on a stream is bounded by what is under way on it. -/
theorem Reached.comes_to_rest (h : w.Reached) (hidle : ∀ e, (w.ends e).stack = [])
    (hrun : QuietRun sid k w w') :
    k ≤ 5 * (w.flight .client sid).length + 5 * (w.flight .server sid).length + 6 := by
  have hpaid := (hrun.effort h.inv (h.inv.calm hidle)).2
  exact (Nat.le_add_right _ _).trans (hpaid.trans (w.net.effort_le sid))

/-- The server has been asked to close the channel, too, and has asked the client. -/
def bothClosing : Connection :=
  @receive listMessageBuffer closing .server 0

/-- The client has been answered and has given up the channel. -/
def clientClosed : Connection :=
  @receive listMessageBuffer (@receive listMessageBuffer
    (@receive listMessageBuffer bothClosing .client 0) .client 0) .client 0

/-- So has the server. -/
def bothClosed : Connection :=
  @receive listMessageBuffer clientClosed .server 0

omit [MessageBuffer] in
theorem quietRun_closing : @QuietRun listMessageBuffer 0 5 closing bothClosed := by
  have hserver : @QuietRun listMessageBuffer 0 1 closing bothClosing :=
    @QuietRun.receive listMessageBuffer _ _ .server 0 0 (@QuietRun.refl listMessageBuffer 0 _)
      _ _ rfl rfl
  have hack := @QuietRun.receive listMessageBuffer _ _ .client 0 1 hserver _ _ rfl rfl
  have hanswered := @QuietRun.receive listMessageBuffer _ _ .client 0 2 hack _ _ rfl rfl
  have hasked : @QuietRun listMessageBuffer 0 4 closing clientClosed :=
    @QuietRun.receive listMessageBuffer _ _ .client 0 3 hanswered _ _ rfl rfl
  exact @QuietRun.receive listMessageBuffer _ _ .server 0 4 hasked _ _ rfl rfl

omit [MessageBuffer] in
/-- Two items are under way when the client closes the channel. -/
theorem comes_to_rest_closing :
    5 ≤ 5 * (closing.flight .client 0).length + 5 * (closing.flight .server 0).length + 6 :=
  @Reached.comes_to_rest listMessageBuffer closing bothClosed 0 5 reached_closing
    (fun e => (by cases e <;> rfl)) quietRun_closing

end Connection

end Rest

end RawrtcDataChannel
