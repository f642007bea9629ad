import Mathlib.Data.Finset.Card
import Mathlib.Order.Interval.Finset.Nat
import RawrtcDataChannel.Lifecycle.ChannelLife

/-!
# Closing is reported and accounted for once

Stopping the transport, losing the association and resetting streams close channels, and each
channel that is closed may call back into the library. Close handlers may close other channels
and stop the transport, as long as it has been stopped before. Then every call comes to an end,
every close handler is called at most once, and every slot gives its reference back exactly once.

A close handler that stops a transport that is still running is called again, because its channel
is still in the slot.
-/

namespace RawrtcDataChannel

open Reentrant

/-! ## Section 1: What close handlers do -/

/-- The operation calls a close handler. -/
def Op.isCloseHandler : Op → Bool
  | .handler (.closeHandler _) => true
  | _ => false

/-- The application and the event loop do as they like, and close handlers stop the transport and
    close channels. -/
def CloseHandlersAct (fs : List (Call × Op)) (a : Call) : Prop :=
  fs = [] ∨ (∀ f ∈ fs, f.2.isCloseHandler = true) ∧ (a = .stop ∨ a.closes?.isSome = true)

instance (fs : List (Call × Op)) (a : Call) : Decidable (CloseHandlersAct fs a) :=
  inferInstanceAs (Decidable (_ ∨ _))

/-- A handler only stops a transport that has been stopped before. -/
def SparesRunning (fs : List (Call × Op)) (s : Transport) (a : Call) : Prop :=
  a = .stop → fs = [] ∨ s.stopped

instance (fs : List (Call × Op)) (s : Transport) (a : Call) : Decidable (SparesRunning fs s a) :=
  inferInstanceAs (Decidable (a = .stop → _))

theorem Call.closes?_isSome {a : Call} (h : a.closes?.isSome = true) : ∃ c, a = .close c := by
  cases a <;> simp_all [Call.closes?]

/-- The operation of a suspended routine, if it is a close handler. -/
theorem Op.isCloseHandler_eq_true {o : Op} (h : o.isCloseHandler = true) :
    ∃ c, o = .handler (.closeHandler c) := by
  cases o with
  | handler hd => cases hd <;> simp_all [Op.isCloseHandler]
  | _ => simp_all [Op.isCloseHandler]

theorem allowed_of_closeHandlersAct {L : Limits} {fs : List (Call × Op)} {s : Transport} {a : Call}
    (hL : ¬ L.sidsBelow) (h : CloseHandlersAct fs a) (hspares : SparesRunning fs s a)
    (hmax : a.MayCreate → (s.nextChannel + 1 : ℕ) ≤ L.maxChannels) : Allowed L fs s a where
  handler f fs' hfs := by
    subst hfs
    rcases h with h | ⟨hall, ha⟩
    · cases h
    obtain ⟨c, hc⟩ := Op.isCloseHandler_eq_true (hall f List.mem_cons_self)
    refine ⟨by rw [hc]; rfl, ?_⟩
    rcases ha with rfl | ha
    · trivial
    · obtain ⟨c', rfl⟩ := Call.closes?_isSome ha
      trivial
  close c _ := by
    rintro ⟨b, hb⟩
    rcases h with rfl | ⟨hall, -⟩
    · cases hb
    · cases hall _ hb
  stop ha hfrozen := by
    refine (hspares ha).resolve_left ?_
    rintro rfl
    obtain ⟨f, hf, -⟩ := hfrozen
    cases hf
  maxChannels := hmax
  sidsBelow hs := absurd hs hL

/-! ## Section 2: What has been reported and released -/

/-- Close handlers are called at most once, and references are taken and released at most once. -/
structure ClosedOnce (t : Transport) : Prop where
  closeHandler : ∀ c, t.history.count (.handler (.closeHandler c)) ≤ 1
  slotRef : ∀ c, t.history.count (.slotRef c none) ≤ 1
  slotDeref : ∀ c, t.history.count (.slotDeref c) ≤ 1
  /-- A channel is registered as long as the transport holds a reference on it. -/
  registered : ∀ c, (∃ i, t.channels i = some c) ↔
    .slotRef c none ∈ t.history ∧ .slotDeref c ∉ t.history

theorem Inv.closedOnce {L : Limits} {g : Ongoing} {t : Transport} (h : Inv L g t.view) :
    ClosedOnce t where
  closeHandler c := count_le_one h.history.ordered trivial
  slotRef c := count_le_one h.history.ordered trivial
  slotDeref c := count_le_one h.history.ordered trivial
  registered c := by
    constructor
    · rintro ⟨i, hi⟩
      have hsid := h.slots.sid_of_slot hi
      exact ⟨(h.history.held hsid).1, fun hderef => (h.history.fits _ hderef).2.2 i hi⟩
    · rintro ⟨href, hderef⟩
      obtain ⟨i, hi⟩ := Option.ne_none_iff_exists'.mp (h.history.fits _ href).2.1
      exact ⟨i, (h.history.held hi).2.resolve_right hderef⟩

/-- With nothing in progress, every closed channel has been released. -/
theorem Inv.released {L : Limits} {t : Transport} (h : Inv L (ongoing []) t.view) {c : ChannelId}
    (hc : (t.dataChannels c).state = .closed) :
    t.history.count (.slotDeref c) = 1 ∧ ∀ i, t.channels i ≠ some c := by
  have hsid : (t.view.channels c).sid ≠ none := fun hnone => by
    have hconn := h.slots.connecting_of_unregistered hnone
    rw [show (t.view.channels c).state = .closed from hc] at hconn
    cases hconn
  obtain ⟨i, hi⟩ := Option.ne_none_iff_exists'.mp hsid
  have hderef : .slotDeref c ∈ t.history := by
    refine (h.history.held hi).2.resolve_left fun hslot => ?_
    have hclosing := h.slots.closed hslot hc
    simp [ongoing] at hclosing
  refine ⟨le_antisymm (h.closedOnce.slotDeref c) (List.count_pos_iff.mpr hderef), ?_⟩
  exact fun i => (h.history.fits _ hderef).2.2 i

/-! ## Section 3: Every call ends -/

/-- The channels among the first `n` that are not closed. -/
def unclosed (n : Nat) (s : Transport) : Finset ChannelId :=
  (Finset.range n).filter fun c => (s.dataChannels c).state ≠ .closed

theorem unclosed_subset {n : Nat} {s s' : Transport}
    (h : ∀ c, (s.dataChannels c).state ≤ (s'.dataChannels c).state) :
    unclosed n s' ⊆ unclosed n s := by
  refine Finset.monotone_filter_right _ fun c _ hc hclosed => hc ?_
  exact le_antisymm (DataChannelState.le_closed _) (hclosed ▸ h c)

theorem unclosed_ssubset {n : Nat} {s s' : Transport} {c : ChannelId} (hc : c < n)
    (h : ∀ c, (s.dataChannels c).state ≤ (s'.dataChannels c).state)
    (hold : (s.dataChannels c).state ≠ .closed) (hnew : (s'.dataChannels c).state = .closed) :
    unclosed n s' ⊂ unclosed n s := by
  refine Finset.ssubset_iff_subset_ne.mpr ⟨unclosed_subset h, fun heq => ?_⟩
  have hmem : c ∈ unclosed n s := Finset.mem_filter.mpr ⟨Finset.mem_range.mpr hc, hold⟩
  rw [← heq] at hmem
  exact (Finset.mem_filter.mp hmem).2 hnew

/-- A closed channel exists. -/
theorem Inv.lt_next_of_closed {L : Limits} {g : Ongoing} {t : Transport} (h : Inv L g t.view)
    {c : ChannelId} (hc : (t.dataChannels c).state = .closed) : c < t.nextChannel := by
  by_contra hn
  have hnone := h.slots.unregistered_of_next_le (not_lt.mp hn)
  have hconn := h.slots.connecting_of_unregistered hnone
  rw [show (t.view.channels c).state = .closed from hc] at hconn
  cases hconn

theorem relies_states {fs : List (Call × Op)} {s s' : Transport} (h : relies fs s s')
    (c : ChannelId) : (s.dataChannels c).state ≤ (s'.dataChannels c).state := by
  cases fs with
  | nil => exact Forward.states (Rely.toForward h) c
  | cons f fs =>
    simp only [relies] at h
    split at h
    · exact h.states c
    · rw [h]

/-- The lifecycle invariant bounds the number of channels by any number they do not exceed. -/
theorem Inv.limit {g : Ongoing} {t : Transport} (h : Inv {} g t.view) {n : Nat}
    (hn : t.nextChannel ≤ n) : Inv { maxChannels := n } g t.view where
  slots := { h.slots with }
  history := { h.history with }
  flags := { h.flags with next_le := Nat.cast_le.mpr hn }

/-- **Every call terminates** if close handlers only stop transports that have been stopped before:
    each of them is called for a channel that was not closed when the call was entered. -/
theorem call_terminates_of_closeHandlersAct [MessageBuffer] {s : Transport}
    (hinv : Inv {} (ongoing []) s.view) (a : Call) (n : Nat) :
    Terminates (host fun fs s a => CloseHandlersAct fs a ∧ SparesRunning fs s a)
      (settle a (a.run.run s) [], settleBudgets n (a.run.run s) []) := by
  let K := s.nextChannel + 1
  let permits (fs : List (Call × Op)) (s : Transport) (a : Call) : Prop :=
    (CloseHandlersAct fs a ∧ SparesRunning fs s a) ∧ (a.MayCreate → s.nextChannel + 1 ≤ K)
  have hallowed : ∀ fs s a, permits fs s a → Allowed { maxChannels := K } fs s a :=
    fun fs s a hp => allowed_of_closeHandlersAct id hp.1.1 hp.1.2
      fun ha => Nat.cast_le.mpr (hp.2 ha)
  suffices hlimited : Terminates (host permits)
      (settle a (a.run.run s) [], settleBudgets n (a.run.run s) []) by
    refine hlimited.mono ?_ ?_ ?_
    · rfl
    · -- close handlers create no channels
      rintro f fs s' b ⟨hact, hspares⟩
      refine ⟨⟨hact, hspares⟩, fun hmay => ?_⟩
      rcases hact with hnil | ⟨-, rfl | hclose⟩
      · cases hnil
      · exact hmay.elim
      · obtain ⟨c, rfl⟩ := Call.closes?_isSome hclose
        exact hmay.elim
    · exact fun _ _ _ h => h
  refine call_terminates (C := contract { maxChannels := K }) (μ := fun s => (unclosed K s).card)
    relies_refl relies_trans (fun _ _ _ _ => trivial) ?_ ?_ ?_ a [] [] s n
    ⟨hinv.limit (Nat.le_succ _), trivial⟩ ⟨⟨.inl rfl, fun _ => .inl rfl⟩, fun _ => le_refl _⟩
    fun s' _ _ => terminates_idle _ s' []
  · exact fun fs s s' h => Finset.card_le_card (unclosed_subset (relies_states h))
  · rintro s₀ b o fs s' b' hinv' hsince ⟨s'', -, hp⟩
    rcases hp.1.1 with hnil | ⟨hall, -⟩
    · cases hnil
    obtain ⟨c, rfl⟩ := Op.isCloseHandler_eq_true (hall _ List.mem_cons_self)
    obtain ⟨hold, hnew⟩ := hsince.2 c rfl
    refine Finset.card_lt_card (unclosed_ssubset ?_ hsince.1 hold hnew)
    have hnext : s'.nextChannel ≤ K := Nat.cast_le.mp hinv'.1.flags.next_le
    exact (hinv'.1.lt_next_of_closed hnew).trans_le hnext
  · exact fun a fs s hinv hp => call_safe a hinv (hallowed fs s a hp)

/-! ## Section 4: Every run -/

/-- Close handlers stop and close, and all handlers of channels may send, close and create. The
    transport is not let go of while it has channels. -/
def HandlersMayClose (fs : List (Call × Op)) (s : Transport) (a : Call) : Prop :=
  (CloseHandlersAct fs a ∧ SparesRunning fs s a ∨ HandlersUse fs a ∧ SparesAnnounced fs a) ∧
    KeepsHandle s a

instance (fs : List (Call × Op)) (s : Transport) (a : Call) : Decidable (HandlersMayClose fs s a) :=
  inferInstanceAs (Decidable (_ ∧ _))

end RawrtcDataChannel
