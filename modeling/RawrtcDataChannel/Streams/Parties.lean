import Mathlib.Logic.Function.Basic
import Mathlib.Logic.Relation
import RawrtcDataChannel.Streams.Conversation

/-!
# Parties with many streams

A party has an end of each stream. It acts on its own account: it proposes terms on a free stream of
its own, sends, leaves, and asks for resets. What reaches it from the other party it reacts to. The
two are kept apart, because a party may act at any time, also while it has not yet finished with a
reaction: `Acts` is what the rest of a reaction has to reckon with.
-/

namespace Streams

variable {κ χ μ : Type}

/-! ## Section 1: Parties -/

/-- What a party has at its ends of the streams, and all that it has sent so far. -/
structure Party (κ χ μ : Type) where
  streams : Nat → Option (Occupant κ χ)
  sent : List (Nat × Item κ μ)

namespace Party

/-- Change one end and send some items on the stream. -/
def put (p : Party κ χ μ) (sid : Nat) (o : Option (Occupant κ χ)) (items : List (Item κ μ)) :
    Party κ χ μ where
  streams := Function.update p.streams sid o
  sent := p.sent ++ items.map (sid, ·)

/-- What is sent on a stream. -/
def itemsOn (sid : Nat) (sent : List (Nat × Item κ μ)) : List (Item κ μ) :=
  sent.filterMap fun i => if i.1 = sid then some i.2 else none

@[simp] theorem streams_put_self (p : Party κ χ μ) (sid : Nat) (o : Option (Occupant κ χ))
    (items : List (Item κ μ)) : (p.put sid o items).streams sid = o :=
  Function.update_self _ _ _

theorem streams_put_of_ne (p : Party κ χ μ) {sid j : Nat} (h : j ≠ sid)
    (o : Option (Occupant κ χ)) (items : List (Item κ μ)) :
    (p.put sid o items).streams j = p.streams j :=
  Function.update_of_ne h _ _

theorem put_put (p : Party κ χ μ) (sid : Nat) (o o' : Option (Occupant κ χ))
    (items items' : List (Item κ μ)) :
    (p.put sid o items).put sid o' items' = p.put sid o' (items ++ items') := by
  simp [put]

theorem itemsOn_append (sid : Nat) (sent sent' : List (Nat × Item κ μ)) :
    itemsOn sid (sent ++ sent') = itemsOn sid sent ++ itemsOn sid sent' :=
  List.filterMap_append

theorem itemsOn_map (sid j : Nat) (items : List (Item κ μ)) :
    itemsOn j (items.map (sid, ·)) = if j = sid then items else [] := by
  unfold itemsOn
  split
  · next h => simp [List.filterMap_map, h]
  · next h =>
    have h' : ¬ sid = j := fun heq => h heq.symm
    simp [List.filterMap_map, h']

end Party

/-! ## Section 2: What a party does -/

section Moves

variable [Vocabulary μ χ]

/-- What a party is free to do: open streams, send messages, and leave. -/
structure Freedom where
  opens : Nat → Prop
  speaks : Prop
  leaves : Prop

namespace Freedom

/-- The party opens no streams and sends no messages. -/
def quiet : Freedom :=
  ⟨fun _ => False, False, True⟩

end Freedom

/-- The channel a message is the first one of. -/
def Item.greeter : Item κ μ → Option κ
  | .message c m => if Vocabulary.greets m then some c else none
  | .reset | .response => none

namespace Party

/-- The channels that have occupied an end so far, in order. -/
def users (p : Party κ χ μ) (sid : Nat) : List κ :=
  (itemsOn sid p.sent).filterMap Item.greeter

theorem users_put (p : Party κ χ μ) (sid : Nat) (o : Option (Occupant κ χ))
    (items : List (Item κ μ)) (j : Nat) :
    (p.put sid o items).users j =
      p.users j ++ if j = sid then items.filterMap Item.greeter else [] := by
  rw [users, put, itemsOn_append, itemsOn_map, List.filterMap_append, users]
  split <;> rfl

theorem exists_sent_of_mem_users {p : Party κ χ μ} {sid : Nat} {c : κ} (h : c ∈ p.users sid) :
    ∃ m, (sid, .message c m) ∈ p.sent := by
  obtain ⟨i, hi, hgreeter⟩ := List.mem_filterMap.mp h
  obtain ⟨⟨j, i'⟩, hmem, heq⟩ := List.mem_filterMap.mp hi
  have hon : j = sid ∧ i' = i := by simpa using heq
  obtain ⟨rfl, rfl⟩ := hon
  cases i' with
  | message c' m =>
    have hc : Vocabulary.greets m = true ∧ c' = c := by simpa [Item.greeter] using hgreeter
    obtain ⟨-, rfl⟩ := hc
    exact ⟨m, hmem⟩
  | reset | response => cases hgreeter

/-- What a party does on its own account, as far as it is free to. A stream is opened with a channel
    that has not been at any end yet. Who has been asked to leave may do so at any rate. -/
inductive Act (may : Freedom) : Party κ χ μ → Party κ χ μ → Prop where
  | propose (p : Party κ χ μ) (sid : Nat) (c : κ) (terms : χ) (m : μ) :
      may.opens sid → p.streams sid = none → (∀ j, c ∉ p.users j) →
      Vocabulary.proposal m = some terms →
      Act may p (p.put sid (some ⟨c, terms, .opened, false, false, false, false⟩) [.message c m])
  | send (p : Party κ χ μ) (sid : Nat) (r : Occupant κ χ) (m : μ) :
      may.speaks → p.streams sid = some r → r.requested = false → Vocabulary.greets m = false →
      (Vocabulary.unordered m = true → r.unordered = true ∧ Vocabulary.relaxed μ r.terms = true) →
      Act may p (p.put sid (some r) [.message r.channel m])
  | leave (p : Party κ χ μ) (sid : Nat) (r : Occupant κ χ) :
      may.leaves ∨ r.incoming = true → p.streams sid = some r → r.stage = .opened →
      Act may p (p.put sid (some { r with stage := .leaving }) [])
  | request (p : Party κ χ μ) (sid : Nat) (r : Occupant κ χ) :
      p.streams sid = some r → r.stage = .leaving → r.requested = false →
      Act may p (p.put sid (some { r with requested := true }) [.reset])

/-- Any number of acts. -/
abbrev Acts (may : Freedom) : Party κ χ μ → Party κ χ μ → Prop :=
  Relation.ReflTransGen (Act may)

/-- What a party does at a time when nothing reaches it: it acts, opens a channel that has been
    announced, or gives up an end once it is free to leave. -/
inductive Move (may : Freedom) : Party κ χ μ → Party κ χ μ → Prop where
  | act {p p' : Party κ χ μ} : Act may p p' → Move may p p'
  | open (p : Party κ χ μ) (sid : Nat) (r : Occupant κ χ) :
      p.streams sid = some r → r.stage = .announced →
      Move may p (p.put sid (some { r with stage := .opened }) [])
  | vacate (p : Party κ χ μ) (sid : Nat) (r : Occupant κ χ) :
      p.streams sid = some r → r.incoming = true → r.outgoing = true →
      Move may p (p.put sid none [])

/-- Any number of moves. -/
abbrev Moves (may : Freedom) : Party κ χ μ → Party κ χ μ → Prop :=
  Relation.ReflTransGen (Move may)

/-- How a party takes what reaches it. A proposal is accepted by a new channel that greets the other
    party, if the end is free. -/
inductive Reacts (sid : Nat) : Item κ μ → Party κ χ μ → Party κ χ μ → Prop where
  | accept (p : Party κ χ μ) (c c' : κ) (m m' : μ) (terms : χ) (unordered : Bool) :
      p.streams sid = none → (∀ j, c ∉ p.users j) → Vocabulary.proposal m = some terms →
      Vocabulary.proposal m' = none → Vocabulary.greets m' = true →
      Reacts sid (.message c' m) p
        (p.put sid (some ⟨c, terms, .announced, unordered, false, false, false⟩) [.message c m'])
  | hear (p : Party κ χ μ) (r : Occupant κ χ) (c' : κ) (m : μ) :
      p.streams sid = some r → Vocabulary.proposal m = none →
      Reacts sid (.message c' m) p (p.put sid (some { r with unordered := true }) [])
  | asked (p : Party κ χ μ) (r : Occupant κ χ) : p.streams sid = some r →
      Reacts sid .reset p (p.put sid (some { r with incoming := true }) [])
  | answered (p : Party κ χ μ) (r : Occupant κ χ) : p.streams sid = some r →
      Reacts sid .response p (p.put sid (some { r with outgoing := true }) [])

variable {may : Freedom} {p p' p'' : Party κ χ μ} {sid : Nat} {r : Occupant κ χ}

/-- A move changes one end. -/
theorem Move.eq_put (h : Move may p p') : ∃ sid o items, p' = p.put sid o items := by
  cases h with
  | act hact => cases hact <;> exact ⟨_, _, _, rfl⟩
  | «open» => exact ⟨_, _, _, rfl⟩
  | vacate => exact ⟨_, _, _, rfl⟩

/-- So does a reaction. -/
theorem Reacts.eq_put {i : Item κ μ} (h : Reacts sid i p p') :
    ∃ o items, p' = p.put sid o items := by
  cases h <;> exact ⟨_, _, rfl⟩

theorem Acts.moves (h : Acts may p p') : Moves may p p' :=
  Relation.ReflTransGen.mono (fun _ _ hact => Move.act hact) _ _ h

/-- What has been sent stays sent. -/
theorem Moves.sent (h : Moves may p p') : ∃ out, p'.sent = p.sent ++ out := by
  induction h with
  | refl => exact ⟨[], by simp⟩
  | tail _ hmove ih =>
    obtain ⟨out, hout⟩ := ih
    obtain ⟨sid, o, items, rfl⟩ := hmove.eq_put
    exact ⟨out ++ items.map (sid, ·), by simp [put, hout]⟩

end Party

/-! ## Section 3: What acts do to an end -/

omit [Vocabulary μ χ] in
/-- What acts do to an occupant. -/
structure Occupant.Evolves (r r' : Occupant κ χ) : Prop where
  channel : r'.channel = r.channel
  terms : r'.terms = r.terms
  unordered : r'.unordered = r.unordered
  incoming : r'.incoming = r.incoming
  outgoing : r'.outgoing = r.outgoing
  announced : r.stage = .announced → r' = r
  leaving : r.stage = .leaving → r'.stage = .leaving
  opened : r.stage = .opened → r'.stage ≠ .announced

omit [Vocabulary μ χ] in
theorem Occupant.Evolves.refl (r : Occupant κ χ) : r.Evolves r :=
  ⟨rfl, rfl, rfl, rfl, rfl, fun _ => rfl, id, fun h => by simp [h]⟩

omit [Vocabulary μ χ] in
theorem Occupant.Evolves.trans {r r' r'' : Occupant κ χ} (h : r.Evolves r') (h' : r'.Evolves r'') :
    r.Evolves r'' where
  channel := h'.channel.trans h.channel
  terms := h'.terms.trans h.terms
  unordered := h'.unordered.trans h.unordered
  incoming := h'.incoming.trans h.incoming
  outgoing := h'.outgoing.trans h.outgoing
  announced hr := by
    obtain rfl := h.announced hr
    exact h'.announced hr
  leaving hr := h'.leaving (h.leaving hr)
  opened hr := by
    have hr' := h.opened hr
    cases hstage : r'.stage with
    | announced => exact absurd hstage hr'
    | opened => exact h'.opened hstage
    | leaving =>
      rw [h'.leaving hstage]
      simp

namespace Party

variable {may : Freedom} {p p' : Party κ χ μ} {sid : Nat} {r : Occupant κ χ}

/-- No act gives up an end. -/
theorem Act.evolves (h : Act may p p') (hr : p.streams sid = some r) :
    ∃ r', p'.streams sid = some r' ∧ r.Evolves r' := by
  -- only the end at which something happens has to be looked at
  have hput : ∀ j o (items : List (Item κ μ)), (∀ r, p.streams j = some r →
      ∃ r', o = some r' ∧ r.Evolves r') →
      ∃ r', (p.put j o items).streams sid = some r' ∧ r.Evolves r' := by
    intro j o items hj
    by_cases hsid : sid = j
    · subst hsid
      obtain ⟨r', rfl, hr'⟩ := hj r hr
      exact ⟨r', p.streams_put_self _ _ _, hr'⟩
    · exact ⟨r, (p.streams_put_of_ne hsid _ _).trans hr, .refl r⟩
  cases h with
  | propose j c terms m _ hfree _ _ =>
    apply hput
    intro r' hr'
    rw [hfree] at hr'
    cases hr'
  | send j o m _ ho _ _ _ =>
    apply hput
    intro r' hr'
    rw [ho] at hr'
    cases hr'
    exact ⟨o, rfl, .refl o⟩
  | leave j o _ ho hstage =>
    apply hput
    intro r' hr'
    rw [ho] at hr'
    cases hr'
    refine ⟨_, rfl, rfl, rfl, rfl, rfl, rfl, ?_, fun _ => rfl, fun _ => by simp⟩
    intro hannounced
    rw [hannounced] at hstage
    cases hstage
  | request j o ho hstage _ =>
    apply hput
    intro r' hr'
    rw [ho] at hr'
    cases hr'
    refine ⟨_, rfl, rfl, rfl, rfl, rfl, rfl, ?_, id, ?_⟩
    · intro hannounced
      rw [hannounced] at hstage
      cases hstage
    · intro hopened
      rw [hopened] at hstage
      cases hstage

theorem Acts.evolves (h : Acts may p p') (hr : p.streams sid = some r) :
    ∃ r', p'.streams sid = some r' ∧ r.Evolves r' := by
  induction h with
  | refl => exact ⟨r, hr, .refl r⟩
  | tail _ hact ih =>
    obtain ⟨r', hr', hevolves⟩ := ih
    obtain ⟨r'', hr'', hevolves'⟩ := hact.evolves hr'
    exact ⟨r'', hr'', hevolves.trans hevolves'⟩

/-- Who has not been asked to leave may not give up the end. -/
theorem Move.keeps (h : Move may p p') (hr : p.streams sid = some r) (hin : r.incoming = false) :
    ∃ r', p'.streams sid = some r' ∧ r'.channel = r.channel ∧ r'.terms = r.terms ∧
      r'.incoming = false := by
  cases h with
  | act hact =>
    obtain ⟨r', hr', hevolves⟩ := hact.evolves hr
    exact ⟨r', hr', hevolves.channel, hevolves.terms, hevolves.incoming.trans hin⟩
  | «open» j o ho _ =>
    by_cases hj : sid = j
    · subst hj
      rw [hr] at ho
      cases ho
      exact ⟨_, p.streams_put_self _ _ _, rfl, rfl, hin⟩
    · exact ⟨r, (p.streams_put_of_ne hj _ _).trans hr, rfl, rfl, hin⟩
  | vacate j o ho hoin _ =>
    by_cases hj : sid = j
    · subst hj
      rw [hr] at ho
      cases ho
      rw [hin] at hoin
      cases hoin
    · exact ⟨r, (p.streams_put_of_ne hj _ _).trans hr, rfl, rfl, hin⟩

theorem Moves.keeps (h : Moves may p p') (hr : p.streams sid = some r) (hin : r.incoming = false) :
    ∃ r', p'.streams sid = some r' ∧ r'.channel = r.channel ∧ r'.terms = r.terms ∧
      r'.incoming = false := by
  induction h with
  | refl => exact ⟨r, hr, rfl, rfl, hin⟩
  | tail _ hmove ih =>
    obtain ⟨r', hr', hchannel, hterms, hin'⟩ := ih
    obtain ⟨r'', hr'', hchannel', hterms', hin''⟩ := hmove.keeps hr' hin'
    exact ⟨r'', hr'', hchannel'.trans hchannel, hterms'.trans hterms, hin''⟩

end Party

/-! ## Section 4: Channels that are over -/

namespace Party

omit [Vocabulary μ χ] in
/-- Nothing comes for the channel any more: it has left the end, or it has been asked to leave. -/
def Asked (p : Party κ χ μ) (sid : Nat) (c : κ) : Prop :=
  ∀ ⦃r⦄, p.streams sid = some r → r.channel = c → r.incoming = true

omit [Vocabulary μ χ] in
/-- All that the channel has sent has come: it has left the end, or it has been answered. -/
def Answered (p : Party κ χ μ) (sid : Nat) (c : κ) : Prop :=
  ∀ ⦃r⦄, p.streams sid = some r → r.channel = c → r.outgoing = true

end Party

/-! ## Section 5: Ends with nothing left to be done -/

omit [Vocabulary μ χ] in
theorem Occupant.Settled.evolves {r r' : Occupant κ χ} (h : r.Settled) (h' : r.Evolves r') :
    r'.Settled where
  opened := by
    cases hstage : r.stage with
    | announced => exact absurd hstage h.opened
    | opened => exact h'.opened hstage
    | leaving =>
      rw [h'.leaving hstage]
      simp
  leaving hin := by
    rw [h'.incoming] at hin
    exact h'.leaving (h.leaving hin)
  staying := by
    rw [h'.incoming, h'.outgoing]
    exact h.staying

namespace Party

/-- Every end in `ends` is settled. -/
def SettledAt (p : Party κ χ μ) (ends : Nat → Prop) : Prop :=
  ∀ ⦃sid r⦄, ends sid → p.streams sid = some r → r.Settled

variable {may : Freedom} {ends : Nat → Prop} {p p' : Party κ χ μ}

omit [Vocabulary μ χ] in
/-- One end changes. -/
theorem SettledAt.put (h : p.SettledAt ends) {sid : Nat} {o : Option (Occupant κ χ)}
    (ho : ∀ r, ends sid → o = some r → r.Settled) (items : List (Item κ μ)) :
    (p.put sid o items).SettledAt ends := by
  intro j r hj hr
  by_cases hsid : j = sid
  · subst hsid
    rw [streams_put_self] at hr
    exact ho r hj hr
  · rw [streams_put_of_ne p hsid] at hr
    exact h hj hr

theorem Act.settledAt (h : Act may p p') (hp : p.SettledAt ends) : p'.SettledAt ends := by
  cases h with
  | propose sid c terms m _ _ _ _ =>
    -- a new round has begun
    apply hp.put
    intro r _ heq
    cases heq
    exact ⟨by simp, by simp, by simp⟩
  | send sid r m _ hr _ _ _ =>
    apply hp.put
    intro r' hsid heq
    cases heq
    exact hp hsid hr
  | leave sid r _ hr _ =>
    apply hp.put
    intro r' hsid heq
    cases heq
    exact ⟨by simp, fun _ => rfl, (hp hsid hr).staying⟩
  | request sid r hr _ _ =>
    apply hp.put
    intro r' hsid heq
    cases heq
    have hsettled := hp hsid hr
    exact ⟨hsettled.opened, hsettled.leaving, hsettled.staying⟩

theorem Acts.settledAt (h : Acts may p p') (hp : p.SettledAt ends) : p'.SettledAt ends := by
  induction h with
  | refl => exact hp
  | tail _ hact ih => exact hact.settledAt ih

end Party

end Moves

end Streams
