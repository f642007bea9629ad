import Mathlib.Data.List.Nodup
import RawrtcDataChannel.Streams.Safety

/-!
# Messages that are heard before they arrive

A message may be heard before it has arrived as a whole. This keeps the conversation going, too.
`Net.Advances` is a step of two parties that may hear things early. Whatever happens, no channel
comes to an end a second time.
-/

namespace Streams

variable {κ χ μ : Type} [Vocabulary μ χ]

/-! ## Section 1: Hearing -/

namespace Conversation

variable {o p : Option (Occupant κ χ)} {r y : Occupant κ χ} {qo qp : List (Item κ μ)}
  {uo up : List κ}

/-- The opener hears something before it has arrived. The other party has said it, so both are in
    the same round. -/
theorem hear {c : κ} {m : μ} (h : Conversation (some r) p qo qp uo up)
    (hmem : .message c m ∈ qp) :
    Conversation (some { r with unordered := true }) p qo qp uo up := by
  cases h with
  | opening => cases hmem
  | ending _ _ _ _ hleaving _ => cases hleaving.responses _ hmem
  | both _ y _ _ uo up hqo hqp hterms hlength =>
    exact both { r with unordered := true } y qo qp uo up ⟨hqo.sender, hqo.last, hqo.single,
      hqo.reset, hqo.response, hqo.ended, hqo.answered⟩ ⟨hqp.sender, hqp.last, hqp.single,
      hqp.reset, hqp.response, hqp.ended, hqp.answered⟩ hterms hlength

theorem hear_other (h : Conversation o (some y) qo qp uo up) :
    Conversation o (some { y with unordered := true }) qo qp uo up := by
  cases h with
  | vacant _ _ _ _ hleaving hlength =>
    exact vacant (some { y with unordered := true }) qo uo up hleaving hlength
  | opening r _ ahead m tail uo _ hleaving htail hm hlength =>
    exact opening r (some { y with unordered := true }) ahead m tail uo up hleaving htail hm hlength
  | both r _ _ _ uo up hqo hqp hterms hlength =>
    exact both r { y with unordered := true } qo qp uo up ⟨hqo.sender, hqo.last, hqo.single,
      hqo.reset, hqo.response, hqo.ended, hqo.answered⟩ ⟨hqp.sender, hqp.last, hqp.single,
      hqp.reset, hqp.response, hqp.ended, hqp.answered⟩ hterms hlength

end Conversation

omit [Vocabulary μ χ] in
/-- The party hears something on a stream. -/
def Party.hear (p : Party κ χ μ) (sid : Nat) : Party κ χ μ :=
  p.put sid ((p.streams sid).map ({ · with unordered := true })) []

variable {opener : Nat → Side} {N N' : Net κ χ μ} {e : Side} {sid : Nat} {p p' : Party κ χ μ}
  {may : Freedom} {i : Item κ μ} {pre post : List (Item κ μ)} {r : Occupant κ χ}

omit [Vocabulary μ χ] in
theorem Party.hear_of_some (hr : p.streams sid = some r) :
    p.hear sid = p.put sid (some { r with unordered := true }) [] := by
  simp [hear, hr]

/-- A message that is under way may be heard at any time. -/
theorem Net.Inv.hear (h : N.Inv opener) {c : κ} {m : μ} (hmem : .message c m ∈ N.flight e.other sid)
    (hr : (N.party e).streams sid = some r) :
    (N.follow e ((N.party e).hear sid)).Inv opener := by
  rw [Party.hear_of_some hr]
  apply h.put
  · intro _ hconv
    rw [hr] at hconv
    simpa using hconv.hear hmem
  · intro _ hconv
    rw [hr] at hconv
    simpa using hconv.hear_other

/-! ## Section 2: Steps -/

/-- What may happen between parties of these freedoms, and the item of which something is received,
    if any, with its receiver and its stream. A message may be heard before it has arrived. -/
inductive Net.Advances (may : Side → Freedom) :
    Net κ χ μ → Option (Side × Nat × Item κ μ) → Net κ χ μ → Prop where
  | moves (N : Net κ χ μ) (e : Side) (p : Party κ χ μ) :
      Party.Moves (may e) (N.party e) p → Advances may N none (N.follow e p)
  | deliver (N : Net κ χ μ) (e : Side) (sid : Nat) (i : Item κ μ) (pre post : List (Item κ μ))
      (p p' : Party κ χ μ) :
      N.flight e.other sid = pre ++ i :: post → (∀ i' ∈ pre, i.Overtakes i') →
      Party.Reacts sid i (N.party e) p → Party.Moves (may e) p p' →
      Advances may N (some (e, sid, i)) ((N.take e sid i (pre ++ post)).follow e p')
  | hear (N : Net κ χ μ) (e : Side) (sid : Nat) (c : κ) (m : μ) (r : Occupant κ χ)
      (p : Party κ χ μ) :
      .message c m ∈ N.flight e.other sid → Vocabulary.proposal m = none →
      (N.party e).streams sid = some r → Party.Moves (may e) ((N.party e).hear sid) p →
      Advances may N (some (e, sid, .message c m)) (N.follow e p)
  | lose (N : Net κ χ μ) (e : Side) (sid : Nat) (c : κ) (m : μ) (pre post : List (Item κ μ)) :
      N.flight e.other sid = pre ++ .message c m :: post → Vocabulary.lossy m = true →
      Advances may N none (N.lose e sid (pre ++ post))

/-- The first of two stretches of a party is a reaction. -/
theorem Net.follow_reacts {i : Item κ μ} (N : Net κ χ μ) (rest : List (Item κ μ))
    (hreacts : Party.Reacts sid i (N.party e) p) (hmoves : Party.Moves may p p') :
    (N.take e sid i rest).follow e p' = ((N.take e sid i rest).follow e p).follow e p' := by
  obtain ⟨o, items, hp⟩ := hreacts.eq_put
  have hsent : ∃ out, p.sent = ((N.take e sid i rest).party e).sent ++ out :=
    ⟨items.map (sid, ·), by rw [hp]; rfl⟩
  exact (follow_follow _ e hsent hmoves.sent).symm

theorem Net.follow_hear (N : Net κ χ μ) (hmoves : Party.Moves may ((N.party e).hear sid) p) :
    N.follow e p = (N.follow e ((N.party e).hear sid)).follow e p :=
  (follow_follow N e ⟨[], rfl⟩ hmoves.sent).symm

/-- Whatever happens, there is a conversation on each stream. -/
theorem Net.Inv.advances {free : Side → Freedom} {o : Option (Side × Nat × Item κ μ)}
    (hfree : ∀ e p p', Party.Moves (free e) p p' →
      Party.Moves (κ := κ) (χ := χ) (μ := μ) (.full opener e) p p')
    (h : N.Inv opener) (hstep : Advances free N o N') : N'.Inv opener := by
  cases hstep with
  | moves e p hmoves => exact h.moves (hfree _ _ _ hmoves)
  | deliver e sid i pre post p p' hflight hpre hreacts hmoves =>
    rw [follow_reacts N _ hreacts hmoves]
    apply (h.reacts hflight hpre hreacts).moves
    rw [party_follow]
    exact hfree _ _ _ hmoves
  | hear e sid c m r p hmem _ hr hmoves =>
    rw [follow_hear N hmoves]
    apply (h.hear hmem hr).moves
    rw [party_follow]
    exact hfree _ _ _ hmoves
  | lose e sid c m pre post hflight hm => exact h.lose hflight hm

/-! ## Section 3: Channels that come and go -/

namespace Party

/-- No channel has occupied an end twice. -/
def Fresh (p : Party κ χ μ) : Prop :=
  ∀ sid, (p.users sid).Nodup

/-- One end changes, and a new channel introduces itself or none does. -/
theorem Fresh.put (h : p.Fresh) {o : Option (Occupant κ χ)} {items : List (Item κ μ)}
    (hitems : ∀ c ∈ items.filterMap Item.greeter, ∀ j, c ∉ p.users j)
    (hsingle : (items.filterMap Item.greeter).Nodup) : (p.put sid o items).Fresh := by
  intro j
  rw [users_put]
  refine (h j).append ?_ ?_
  · split
    · exact hsingle
    · exact List.nodup_nil
  · intro c hc hc'
    split at hc'
    · exact hitems c hc' j hc
    · cases hc'

theorem Fresh.move (h : p.Fresh) (hmove : Move may p p') : p'.Fresh := by
  cases hmove with
  | act hact =>
    cases hact with
    | propose sid c terms m _ _ hnew hm =>
      have hgreets := Vocabulary.greets_of_proposal m (by simp [hm])
      apply h.put
      · intro c' hc' j
        obtain rfl : c' = c := by simpa [Item.greeter, hgreets] using hc'
        exact hnew j
      · simp [Item.greeter, hgreets]
    | send sid r m _ _ _ hgreets _ =>
      exact h.put (by simp [Item.greeter, hgreets]) (by simp [Item.greeter, hgreets])
    | leave => exact h.put (by simp) (by simp)
    | request => exact h.put (by simp [List.filterMap, Item.greeter]) List.nodup_nil
  | «open» => exact h.put (by simp) (by simp)
  | vacate => exact h.put (by simp) (by simp)

theorem Fresh.moves (h : p.Fresh) (hmoves : Moves may p p') : p'.Fresh := by
  induction hmoves with
  | refl => exact h
  | tail _ hmove ih => exact ih.move hmove

theorem Fresh.reacts (h : p.Fresh) (hreacts : Reacts sid i p p') : p'.Fresh := by
  cases hreacts with
  | accept _ c _ _ m' _ _ _ hnew _ _ hgreets =>
    apply h.put
    · intro c' hc' j
      obtain rfl : c' = c := by simpa [Item.greeter, hgreets] using hc'
      exact hnew j
    · simp [Item.greeter, hgreets]
  | hear | asked | answered => exact h.put (by simp) (by simp)

end Party

namespace Net

theorem Vacant.fresh (h : N.Vacant) (e : Side) : (N.party e).Fresh := by
  intro sid
  rw [Party.users, h.sent]
  exact List.nodup_nil

/-- Whatever happens, no channel occupies an end twice. -/
theorem fresh_advances {free : Side → Freedom} {o : Option (Side × Nat × Item κ μ)}
    (h : ∀ e, (N.party e).Fresh) (hstep : Advances free N o N') (e' : Side) :
    (N'.party e').Fresh := by
  have hfollow : ∀ {N' : Net κ χ μ} {e : Side} {p : Party κ χ μ}, p.Fresh →
      N'.party = N.party → ((N'.follow e p).party e').Fresh := by
    intro N' e p hp hparty
    rcases e.eq_or_eq_other e' with rfl | rfl
    · rw [party_follow]
      exact hp
    · rw [party_follow_other, hparty]
      exact h _
  cases hstep with
  | moves e p hmoves => exact hfollow ((h e).moves hmoves) rfl
  | deliver e sid i pre post p p' _ _ hreacts hmoves =>
    exact hfollow (((h e).reacts hreacts).moves hmoves) rfl
  | hear e sid c m r p _ _ _ hmoves =>
    exact hfollow (Party.Fresh.moves ((h e).put (by simp) (by simp)) hmoves) rfl
  | lose => exact h e'

end Net

end Streams
