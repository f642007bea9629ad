import RawrtcDataChannel.Streams.Parties

/-!
# Two parties and what is under way between them

Each stream has an opener, which is one of the two parties. What a party sends is under way until
the other one receives it or it gets lost. `Net.Inv` says that there is a conversation on each
stream. It is kept by whatever the parties do and whatever reaches them, and all results about two
parties come from it.
-/

namespace Streams

variable {κ χ μ : Type}

/-! ## Section 1: Nets -/

/-- The two parties. -/
inductive Side
  | client
  | server
deriving DecidableEq

/-- The other party. -/
def Side.other : Side → Side
  | .client => .server
  | .server => .client

@[simp] theorem Side.other_other (e : Side) : e.other.other = e := by
  cases e <;> rfl

@[simp] theorem Side.other_ne (e : Side) : e.other ≠ e := by
  cases e <;> simp [other]

@[simp] theorem Side.ne_other (e : Side) : e ≠ e.other :=
  e.other_ne.symm

theorem Side.eq_or_eq_other (e e' : Side) : e' = e ∨ e' = e.other := by
  cases e <;> cases e' <;> simp [other]

/-- A party is free to open its own streams, to send, and to leave. -/
def Freedom.full (opener : Nat → Side) (e : Side) : Freedom :=
  ⟨(opener · = e), True, True⟩

/-- What the receiving end sends back on its own. -/
def Item.answer : Item κ μ → List (Item κ μ)
  | .reset => [.response]
  | .message _ _ | .response => []

/-- The parties, and what each of them has sent on each stream that has not been received yet. -/
structure Net (κ χ μ : Type) where
  party : Side → Party κ χ μ
  flight : Side → Nat → List (Item κ μ)

namespace Net

/-- An item reaches a party. What is still under way is `rest`. -/
def take (N : Net κ χ μ) (e : Side) (sid : Nat) (i : Item κ μ) (rest : List (Item κ μ)) :
    Net κ χ μ where
  party := N.party
  flight := Function.update
    (Function.update N.flight e.other (Function.update (N.flight e.other) sid rest)) e
    (Function.update (N.flight e) sid (N.flight e sid ++ i.answer))

/-- A party goes on to `p`, which has sent more. -/
def follow (N : Net κ χ μ) (e : Side) (p : Party κ χ μ) : Net κ χ μ where
  party := Function.update N.party e p
  flight := Function.update N.flight e fun sid =>
    N.flight e sid ++ Party.itemsOn sid (p.sent.drop (N.party e).sent.length)

/-- An item to a party gets lost. What is still under way is `rest`. -/
def lose (N : Net κ χ μ) (e : Side) (sid : Nat) (rest : List (Item κ μ)) : Net κ χ μ where
  party := N.party
  flight := Function.update N.flight e.other (Function.update (N.flight e.other) sid rest)

section Projections

variable (N : Net κ χ μ) (e : Side) (sid j : Nat) (p : Party κ χ μ) (o : Option (Occupant κ χ))
  (i : Item κ μ) (items rest : List (Item κ μ))

@[simp] theorem party_follow : (N.follow e p).party e = p :=
  Function.update_self _ _ _

@[simp] theorem party_follow_other : (N.follow e p).party e.other = N.party e.other :=
  Function.update_of_ne e.other_ne _ _

theorem flight_follow_put : (N.follow e ((N.party e).put sid o items)).flight e j =
    N.flight e j ++ if j = sid then items else [] := by
  simp [follow, Party.put, Party.itemsOn_map]

@[simp] theorem flight_follow_other : (N.follow e p).flight e.other = N.flight e.other :=
  Function.update_of_ne e.other_ne _ _

@[simp] theorem party_take : (N.take e sid i rest).party = N.party := rfl

theorem flight_take : (N.take e sid i rest).flight e j =
    N.flight e j ++ if j = sid then i.answer else [] := by
  by_cases hj : j = sid
  · subst hj
    simp [take]
  · simp [take, hj]

theorem flight_take_other : (N.take e sid i rest).flight e.other j =
    if j = sid then rest else N.flight e.other j := by
  by_cases hj : j = sid
  · subst hj
    simp [take]
  · simp [take, hj]

@[simp] theorem party_lose : (N.lose e sid rest).party = N.party := rfl

@[simp] theorem flight_lose : (N.lose e sid rest).flight e = N.flight e :=
  Function.update_of_ne e.ne_other _ _

theorem flight_lose_other : (N.lose e sid rest).flight e.other j =
    if j = sid then rest else N.flight e.other j := by
  by_cases hj : j = sid
  · subst hj
    simp [lose]
  · simp [lose, hj]

end Projections

/-- Going on twice. -/
theorem follow_follow (N : Net κ χ μ) (e : Side) {p p' : Party κ χ μ}
    (h : ∃ out, p.sent = (N.party e).sent ++ out) (h' : ∃ out, p'.sent = p.sent ++ out) :
    (N.follow e p).follow e p' = N.follow e p' := by
  obtain ⟨out, hout⟩ := h
  obtain ⟨out', hout'⟩ := h'
  have hfirst : p.sent.drop (N.party e).sent.length = out := by
    simp [hout]
  have hsecond : p'.sent.drop p.sent.length = out' := by
    simp [hout']
  have hboth : p'.sent.drop (N.party e).sent.length = out ++ out' := by
    simp [hout', hout]
  simp only [follow, Function.update_self, Function.update_idem, hfirst, hsecond, hboth,
    Party.itemsOn_append, List.append_assoc]

/-- Going on to where the party is. -/
theorem follow_self (N : Net κ χ μ) (e : Side) : N.follow e (N.party e) = N := by
  obtain ⟨party, flight⟩ := N
  simp [follow, Party.itemsOn]

end Net

/-! ## Section 2: The invariant -/

variable [Vocabulary μ χ] {opener : Nat → Side} {N N' : Net κ χ μ} {e : Side} {sid j : Nat}
  {p p' : Party κ χ μ}

namespace Net

/-- The two ends of a stream, and what is under way on it, fit together. -/
def Converses (opener : Nat → Side) (N : Net κ χ μ) (sid : Nat) : Prop :=
  Conversation ((N.party (opener sid)).streams sid) ((N.party (opener sid).other).streams sid)
    (N.flight (opener sid) sid) (N.flight (opener sid).other sid)
    ((N.party (opener sid)).users sid) ((N.party (opener sid).other).users sid)

/-- There is a conversation on each stream. -/
def Inv (opener : Nat → Side) (N : Net κ χ μ) : Prop :=
  ∀ sid, N.Converses opener sid

/-- From the point of view of the opener. -/
theorem converses_iff (h : opener sid = e) : N.Converses opener sid ↔
    Conversation ((N.party e).streams sid) ((N.party e.other).streams sid) (N.flight e sid)
      (N.flight e.other sid) ((N.party e).users sid) ((N.party e.other).users sid) := by
  subst h
  rfl

/-- From the point of view of the other party. -/
theorem converses_iff_other (h : opener sid = e.other) : N.Converses opener sid ↔
    Conversation ((N.party e.other).streams sid) ((N.party e).streams sid) (N.flight e.other sid)
      (N.flight e sid) ((N.party e.other).users sid) ((N.party e).users sid) := by
  rw [Converses, h, Side.other_other]

/-- Streams on which nothing happens. -/
theorem Converses.congr (h : N.Converses opener sid) (e : Side)
    (hstreams : (N'.party e).streams sid = (N.party e).streams sid)
    (hother : (N'.party e.other).streams sid = (N.party e.other).streams sid)
    (hflight : N'.flight e sid = N.flight e sid)
    (hflight' : N'.flight e.other sid = N.flight e.other sid)
    (husers : (N'.party e).users sid = (N.party e).users sid)
    (husers' : (N'.party e.other).users sid = (N.party e.other).users sid) :
    N'.Converses opener sid := by
  rcases e.eq_or_eq_other (opener sid) with he | he
  · rw [converses_iff he] at h ⊢
    rw [hstreams, hother, hflight, hflight', husers, husers']
    exact h
  · rw [converses_iff_other he] at h ⊢
    rw [hstreams, hother, hflight, hflight', husers, husers']
    exact h

/-- An item reaches a party, which changes the end. Only the conversation on this stream has to be
    looked at. -/
theorem Inv.take_put (h : N.Inv opener) {i : Item κ μ} {o : Option (Occupant κ χ)}
    {items rest : List (Item κ μ)}
    (hopener : opener sid = e →
      Conversation ((N.party e).streams sid) ((N.party e.other).streams sid) (N.flight e sid)
        (N.flight e.other sid) ((N.party e).users sid) ((N.party e.other).users sid) →
      Conversation o ((N.party e.other).streams sid) (N.flight e sid ++ i.answer ++ items) rest
        ((N.party e).users sid ++ items.filterMap Item.greeter) ((N.party e.other).users sid))
    (hother : opener sid = e.other →
      Conversation ((N.party e.other).streams sid) ((N.party e).streams sid)
        (N.flight e.other sid) (N.flight e sid) ((N.party e.other).users sid)
        ((N.party e).users sid) →
      Conversation ((N.party e.other).streams sid) o rest (N.flight e sid ++ i.answer ++ items)
        ((N.party e.other).users sid) ((N.party e).users sid ++ items.filterMap Item.greeter)) :
    ((N.take e sid i rest).follow e ((N.party e).put sid o items)).Inv opener := by
  intro j
  have hflight := flight_follow_put (N.take e sid i rest) e sid j o items
  rw [party_take] at hflight
  by_cases hj : j = sid
  · subst hj
    rcases e.eq_or_eq_other (opener j) with he | he
    · have h' := hopener he ((converses_iff he).mp (h j))
      rw [converses_iff he, hflight]
      simpa [flight_take, flight_take_other, Party.users_put] using h'
    · have h' := hother he ((converses_iff_other he).mp (h j))
      rw [converses_iff_other he, hflight]
      simpa [flight_take, flight_take_other, Party.users_put] using h'
  · apply (h j).congr e
    · rw [party_follow, Party.streams_put_of_ne _ hj]
    · rw [party_follow_other, party_take]
    · rw [hflight, flight_take, if_neg hj, if_neg hj, List.append_nil, List.append_nil]
    · rw [flight_follow_other, flight_take_other, if_neg hj]
    · rw [party_follow, Party.users_put, if_neg hj, List.append_nil]
    · rw [party_follow_other, party_take]

omit [Vocabulary μ χ] in
/-- Nothing reaches the party. -/
theorem take_nothing (N : Net κ χ μ) (e : Side) (sid : Nat) :
    N.take e sid .response (N.flight e.other sid) = N := by
  obtain ⟨party, flight⟩ := N
  simp [take, Item.answer]

/-- A party changes one end on its own account. -/
theorem Inv.put (h : N.Inv opener) {o : Option (Occupant κ χ)} {items : List (Item κ μ)}
    (hopener : opener sid = e →
      Conversation ((N.party e).streams sid) ((N.party e.other).streams sid) (N.flight e sid)
        (N.flight e.other sid) ((N.party e).users sid) ((N.party e.other).users sid) →
      Conversation o ((N.party e.other).streams sid) (N.flight e sid ++ items)
        (N.flight e.other sid) ((N.party e).users sid ++ items.filterMap Item.greeter)
        ((N.party e.other).users sid))
    (hother : opener sid = e.other →
      Conversation ((N.party e.other).streams sid) ((N.party e).streams sid)
        (N.flight e.other sid) (N.flight e sid) ((N.party e.other).users sid)
        ((N.party e).users sid) →
      Conversation ((N.party e.other).streams sid) o (N.flight e.other sid)
        (N.flight e sid ++ items) ((N.party e.other).users sid)
        ((N.party e).users sid ++ items.filterMap Item.greeter)) :
    (N.follow e ((N.party e).put sid o items)).Inv opener := by
  have htake := @Inv.take_put κ χ μ _ opener N e sid h .response o items (N.flight e.other sid)
  rw [take_nothing] at htake
  apply htake
  · intro he hconv
    simpa [Item.answer] using hopener he hconv
  · intro he hconv
    simpa [Item.answer] using hother he hconv

end Net

/-! ## Section 3: What keeps the invariant -/

namespace Net

theorem proposal_of_not_greets {m : μ} (h : Vocabulary.greets m = false) :
    Vocabulary.proposal m = none := by
  by_contra hm
  rw [Vocabulary.greets_of_proposal m hm] at h
  cases h

/-- What a party does on its own account. -/
theorem Inv.move (h : N.Inv opener) (hmove : Party.Move (.full opener e) (N.party e) p) :
    (N.follow e p).Inv opener := by
  cases hmove with
  | act hact =>
    cases hact with
    | propose sid c terms m hown hfree _ hm =>
      apply h.put
      · -- at the opener's end a proposal begins a new conversation
        intro _ hconv
        rw [hfree] at hconv
        have hgreets := Vocabulary.greets_of_proposal m (by simp [hm])
        simpa [Item.greeter, hgreets] using
          hconv.propose (r := ⟨c, terms, .opened, false, false, false, false⟩) rfl rfl rfl rfl hm
      · -- nobody proposes on a stream of the other party
        intro he
        rw [hown] at he
        exact absurd he e.ne_other
    -- both ends may send, and what is sent joins the conversation at its end
    | send sid r m _ hr hrequested hgreets hordered =>
      have hm := proposal_of_not_greets hgreets
      apply h.put
      · intro _ hconv
        rw [hr] at hconv
        simpa [Item.greeter, hgreets] using hconv.send hm hrequested hordered
      · intro _ hconv
        rw [hr] at hconv
        simpa [Item.greeter, hgreets] using
          hconv.send_other hm (fun hunordered => (hordered hunordered).2) hrequested
    -- leaving is not noticed by the other party until it is told so
    | leave sid r _ hr _ =>
      apply h.put
      · intro _ hconv
        rw [hr] at hconv
        simpa using hconv.restage .leaving
      · intro _ hconv
        rw [hr] at hconv
        simpa using hconv.restage_other .leaving
    | request sid r hr _ hrequested =>
      apply h.put
      · intro _ hconv
        rw [hr] at hconv
        simpa [List.filterMap, Item.greeter] using hconv.request hrequested
      · intro _ hconv
        rw [hr] at hconv
        simpa [List.filterMap, Item.greeter] using hconv.request_other hrequested
  | «open» sid r hr _ =>
    apply h.put
    · intro _ hconv
      rw [hr] at hconv
      simpa using hconv.restage .opened
    · intro _ hconv
      rw [hr] at hconv
      simpa using hconv.restage_other .opened
  -- an end that is given up has been reset in both directions
  | vacate sid r hr hin hout =>
    apply h.put
    · intro _ hconv
      rw [hr] at hconv
      simpa using hconv.leave hin hout
    · intro _ hconv
      rw [hr] at hconv
      simpa using hconv.leave_other hin hout

theorem Inv.moves (h : N.Inv opener) (hmoves : Party.Moves (.full opener e) (N.party e) p) :
    (N.follow e p).Inv opener := by
  induction hmoves with
  | refl =>
    rw [follow_self]
    exact h
  | tail hmoves hmove ih =>
    rw [← follow_follow N e (Party.Moves.sent hmoves)
      (Party.Moves.sent (Relation.ReflTransGen.single hmove))]
    apply ih.move
    rw [party_follow]
    exact hmove

/-- What reaches a party. -/
theorem Inv.reacts (h : N.Inv opener) {i : Item κ μ} {pre post : List (Item κ μ)}
    (hflight : N.flight e.other sid = pre ++ i :: post) (hpre : ∀ i' ∈ pre, i.Overtakes i')
    (hreacts : Party.Reacts sid i (N.party e) p) :
    ((N.take e sid i (pre ++ post)).follow e p).Inv opener := by
  generalize hparty : N.party e = p₀ at hreacts
  cases hreacts with
  | accept _ c c' m m' terms unordered hfree _ hm hm' hgreets =>
    have hproposal : Vocabulary.proposal m ≠ none := by simp [hm]
    rw [← hparty]
    apply h.take_put
    · -- no proposal reaches the opener
      intro _ hconv
      rw [hflight] at hconv
      exact absurd hconv.receive.1 hproposal
    · intro _ hconv
      rw [hflight, hparty, hfree] at hconv
      obtain ⟨-, r, hr, -, hterms, haccept⟩ := hconv.accept hproposal hpre (by simp)
      rw [hm] at hterms
      have hconv' := haccept ⟨c, terms, .announced, unordered, false, false, false⟩ m'
        (Option.some.inj hterms) rfl rfl rfl hm' (Vocabulary.ordered_of_greets m' hgreets)
      simpa [hparty, Item.answer, Item.greeter, hgreets] using hconv'
  -- a message that is no proposal finds somebody at either end
  | hear _ r c' m hr hm =>
    rw [← hparty] at hr ⊢
    apply h.take_put
    · intro _ hconv
      rw [hflight] at hconv
      obtain ⟨-, r', y, uo, up, hr', -, -, -, -, -, hconv'⟩ := hconv.receive
      rw [hr] at hr'
      cases hr'
      simpa [Item.answer] using hconv'
    · intro _ hconv
      rw [hflight] at hconv
      obtain ⟨y, r', uo, up, -, hr', -, -, -, -, hconv'⟩ := hconv.receive_other hm hpre
      rw [hr] at hr'
      cases hr'
      simpa [Item.answer] using hconv'
  -- a request is answered at once, which is what asks for the response
  | asked _ r hr =>
    rw [← hparty] at hr ⊢
    apply h.take_put
    · intro _ hconv
      rw [hflight] at hconv
      obtain ⟨r', hr', -, hconv'⟩ := hconv.receive_reset hpre
      rw [hr] at hr'
      cases hr'
      simpa [Item.answer] using hconv'
    · intro _ hconv
      rw [hflight] at hconv
      obtain ⟨r', hr', -, hconv'⟩ := hconv.receive_reset_other hpre
      rw [hr] at hr'
      cases hr'
      simpa [Item.answer] using hconv'
  -- a response finds whoever has requested it
  | answered _ r hr =>
    rw [← hparty] at hr ⊢
    apply h.take_put
    · intro _ hconv
      rw [hflight] at hconv
      obtain ⟨r', hr', -, hconv'⟩ := hconv.receive_response
      rw [hr] at hr'
      cases hr'
      simpa [Item.answer] using hconv'
    · intro _ hconv
      rw [hflight] at hconv
      obtain ⟨r', hr', -, hconv'⟩ := hconv.receive_response_other
      rw [hr] at hr'
      cases hr'
      simpa [Item.answer] using hconv'

/-- A message that may get lost does. -/
theorem Inv.lose (h : N.Inv opener) {c : κ} {m : μ} {pre post : List (Item κ μ)}
    (hflight : N.flight e.other sid = pre ++ .message c m :: post)
    (hm : Vocabulary.lossy m = true) : (N.lose e sid (pre ++ post)).Inv opener := by
  have hproposal : Vocabulary.proposal m = none := by
    by_contra hproposal
    rw [Vocabulary.lossless_of_greets m (Vocabulary.greets_of_proposal m hproposal)] at hm
    cases hm
  intro j
  by_cases hj : j = sid
  · subst hj
    rcases e.eq_or_eq_other (opener j) with he | he
    · have hconv := (converses_iff he).mp (h j)
      rw [hflight] at hconv
      rw [converses_iff he, flight_lose_other, if_pos rfl]
      simpa using hconv.lose
    · have hconv := (converses_iff_other he).mp (h j)
      rw [hflight] at hconv
      rw [converses_iff_other he, flight_lose_other, if_pos rfl]
      simpa using hconv.lose_other hproposal
  · exact (h j).congr e rfl rfl (by rw [flight_lose]) (by rw [flight_lose_other, if_neg hj]) rfl rfl

/-- What may happen between the parties: one of them moves, an item reaches it, or an item that may
    get lost does. -/
inductive Step (opener : Nat → Side) : Net κ χ μ → Net κ χ μ → Prop where
  | moves (N : Net κ χ μ) (e : Side) (p : Party κ χ μ) :
      Party.Moves (.full opener e) (N.party e) p → Step opener N (N.follow e p)
  | deliver (N : Net κ χ μ) (e : Side) (sid : Nat) (i : Item κ μ) (pre post : List (Item κ μ))
      (p p' : Party κ χ μ) :
      N.flight e.other sid = pre ++ i :: post → (∀ i' ∈ pre, i.Overtakes i') →
      Party.Reacts sid i (N.party e) p → Party.Moves (.full opener e) p p' →
      Step opener N ((N.take e sid i (pre ++ post)).follow e p')
  | lose (N : Net κ χ μ) (e : Side) (sid : Nat) (c : κ) (m : μ) (pre post : List (Item κ μ)) :
      N.flight e.other sid = pre ++ .message c m :: post → Vocabulary.lossy m = true →
      Step opener N (N.lose e sid (pre ++ post))

theorem Inv.step (h : N.Inv opener) (hstep : Step opener N N') : N'.Inv opener := by
  cases hstep with
  | moves e p hmoves => exact h.moves hmoves
  | deliver e sid i pre post p p' hflight hpre hreacts hmoves =>
    obtain ⟨o, items, hp⟩ := hreacts.eq_put
    have hsent : ∃ out, p.sent = ((N.take e sid i (pre ++ post)).party e).sent ++ out :=
      ⟨items.map (sid, ·), by rw [hp]; rfl⟩
    rw [← follow_follow _ e hsent hmoves.sent]
    apply (h.reacts hflight hpre hreacts).moves
    rw [party_follow]
    exact hmoves
  | lose e sid c m pre post hflight hm => exact h.lose hflight hm

/-- Nobody has anything at any end, and nothing is under way. -/
structure Vacant (N : Net κ χ μ) : Prop where
  streams : ∀ e sid, (N.party e).streams sid = none
  sent : ∀ e, (N.party e).sent = []
  flight : ∀ e sid, N.flight e sid = []

theorem Vacant.inv (h : N.Vacant) : N.Inv opener := by
  intro sid
  have husers : ∀ e, (N.party e).users sid = [] := by
    intro e
    rw [Party.users, h.sent]
    rfl
  rw [Converses, h.streams, h.streams, h.flight, h.flight, husers, husers]
  exact .vacant none [] [] [] rfl rfl

end Net

/-! ## Section 4: What follows -/

namespace Net

variable {c : κ} {m : μ} {r y : Occupant κ χ} {pre post : List (Item κ μ)}

/-- No proposal finds an end that is not free, if its party does not stay where it is free to
    leave. Only openers propose. -/
theorem Inv.accepts (h : N.Inv opener)
    (hflight : N.flight e.other sid = pre ++ .message c m :: post)
    (hpre : ∀ i ∈ pre, (Item.message c m).Overtakes i) (hm : Vocabulary.proposal m ≠ none)
    (hsettled : (N.party e).SettledAt (· = sid)) :
    opener sid = e.other ∧ (N.party e).streams sid = none ∧
      ∃ r, (N.party e.other).streams sid = some r ∧ c = r.channel ∧
        Vocabulary.proposal m = some r.terms := by
  rcases e.eq_or_eq_other (opener sid) with he | he
  · have hconv := (converses_iff he).mp (h sid)
    rw [hflight] at hconv
    exact absurd hconv.receive.1 hm
  · have hconv := (converses_iff_other he).mp (h sid)
    rw [hflight] at hconv
    obtain ⟨hnone, r, hr, hc, hterms, -⟩ := hconv.accept hm hpre
      fun y hy => (hsettled rfl hy).staying
    exact ⟨he, hnone, r, hr, hc, hterms⟩

/-- Any other message finds its receiver in the round in which it was sent. -/
theorem Inv.hears (h : N.Inv opener) (hflight : N.flight e.other sid = pre ++ .message c m :: post)
    (hpre : ∀ i ∈ pre, (Item.message c m).Overtakes i) (hm : Vocabulary.proposal m = none) :
    ∃ r y, (N.party e).streams sid = some r ∧ (N.party e.other).streams sid = some y ∧
      Together c m r y ((N.party e).users sid) ((N.party e.other).users sid) := by
  have hmem : Item.message c m ∈ N.flight e.other sid := by simp [hflight]
  rcases e.eq_or_eq_other (opener sid) with he | he
  · exact ((converses_iff he).mp (h sid)).together hmem
  · have hconv := (converses_iff_other he).mp (h sid)
    rw [hflight] at hconv
    obtain ⟨y, r, hy, hr, htogether⟩ := hconv.together_other hm hpre
    exact ⟨r, y, hr, hy, htogether⟩

/-- An unordered message always has a receiver in the round in which it was sent. -/
theorem Inv.unordered (h : N.Inv opener) (hmem : .message c m ∈ N.flight e.other sid)
    (hm : Vocabulary.unordered m = true) :
    ∃ r y, (N.party e).streams sid = some r ∧ (N.party e.other).streams sid = some y ∧
      Together c m r y ((N.party e).users sid) ((N.party e.other).users sid) := by
  rcases e.eq_or_eq_other (opener sid) with he | he
  · exact ((converses_iff he).mp (h sid)).together hmem
  · obtain ⟨y, r, hy, hr, htogether⟩ :=
      ((converses_iff_other he).mp (h sid)).together_unordered hmem hm
    exact ⟨r, y, hr, hy, htogether⟩

/-- A request finds somebody who has not been asked yet. -/
theorem Inv.asks (h : N.Inv opener) (hflight : N.flight e.other sid = pre ++ .reset :: post)
    (hpre : ∀ i ∈ pre, Item.reset.Overtakes i) :
    ∃ r, (N.party e).streams sid = some r ∧ r.incoming = false := by
  rcases e.eq_or_eq_other (opener sid) with he | he
  · have hconv := (converses_iff he).mp (h sid)
    rw [hflight] at hconv
    obtain ⟨r, hr, hin, -⟩ := hconv.receive_reset hpre
    exact ⟨r, hr, hin⟩
  · have hconv := (converses_iff_other he).mp (h sid)
    rw [hflight] at hconv
    obtain ⟨r, hr, hin, -⟩ := hconv.receive_reset_other hpre
    exact ⟨r, hr, hin⟩

/-- An answer finds somebody who waits for it. -/
theorem Inv.answers (h : N.Inv opener) (hflight : N.flight e.other sid = pre ++ .response :: post) :
    ∃ r, (N.party e).streams sid = some r ∧ r.requested = true ∧ r.outgoing = false := by
  rcases e.eq_or_eq_other (opener sid) with he | he
  · have hconv := (converses_iff he).mp (h sid)
    rw [hflight] at hconv
    obtain ⟨r, hr, hawaits, -⟩ := hconv.receive_response
    exact ⟨r, hr, hawaits⟩
  · have hconv := (converses_iff_other he).mp (h sid)
    rw [hflight] at hconv
    obtain ⟨r, hr, hawaits, -⟩ := hconv.receive_response_other
    exact ⟨r, hr, hawaits⟩

/-- The terms are agreed upon, unless the other party is still leaving the round before. -/
theorem Inv.agree (h : N.Inv opener) (hopener : opener sid = e)
    (hr : (N.party e).streams sid = some r) (hy : (N.party e.other).streams sid = some y)
    (hin : y.incoming = false) : r.terms = y.terms := by
  have hconv := (converses_iff hopener).mp (h sid)
  rw [hr, hy] at hconv
  exact hconv.agree hin

/-- A message is only under way while neither its sender nor its receiver is done. -/
theorem Inv.unfinished (h : N.Inv opener) (hmem : .message c m ∈ N.flight e.other sid) :
    ∃ x, (N.party e.other).streams sid = some x ∧ Unfinished c x ((N.party e).streams sid)
      ((N.party e.other).users sid) ((N.party e).users sid) := by
  rcases e.eq_or_eq_other (opener sid) with he | he
  · exact ((converses_iff he).mp (h sid)).unfinished hmem
  · exact ((converses_iff_other he).mp (h sid)).unfinished_other hmem

/-- Whose counterpart is over has asked for a reset. -/
theorem Inv.requested (h : N.Inv opener) (hr : (N.party e.other).streams sid = some r)
    (hover : ∀ y before before', (N.party e).streams sid = some y →
      (N.party e).users sid = before ++ [y.channel] →
      (N.party e.other).users sid = before' ++ [r.channel] → before.length = before'.length →
      y.incoming = true)
    (hcounterpart : ∀ before, (N.party e.other).users sid = before ++ [r.channel] →
      ((N.party e).users sid).length ≠ before.length) : r.requested = true := by
  rcases e.eq_or_eq_other (opener sid) with he | he
  · have hconv := (converses_iff he).mp (h sid)
    rw [hr] at hconv
    exact hconv.requested hover
  · have hconv := (converses_iff_other he).mp (h sid)
    rw [hr] at hconv
    exact hconv.requested_other (fun y before before' hy hur hus hlength =>
      hover y before' before hy hus hur hlength.symm) hcounterpart

/-- Only a channel that has not been asked to leave may be without a counterpart. -/
theorem Inv.counterparts (h : N.Inv opener) (e : Side) (sid : Nat) :
    ((N.party e).users sid).length ≤ ((N.party e.other).users sid).length ∨
      ∃ r before, (N.party e).streams sid = some r ∧ r.incoming = false ∧
        (N.party e).users sid = before ++ [r.channel] ∧
        before.length = ((N.party e.other).users sid).length := by
  rcases e.eq_or_eq_other (opener sid) with he | he
  · exact ((converses_iff he).mp (h sid)).counterparts.imp_left Nat.le_of_eq
  · rcases ((converses_iff_other he).mp (h sid)).counterparts with
      hlength | ⟨r, before, -, -, husers, hlength⟩
    · exact .inl (Nat.le_of_eq hlength.symm)
    · left
      rw [husers, ← hlength]
      simp

/-- With nothing under way on a stream, and nobody about to ask for a reset or to leave, it is free
    at both ends or in use at both ends, on the same terms. -/
theorem Inv.quiet (h : N.Inv opener) (hflight : ∀ e, N.flight e sid = [])
    (hdone : ∀ e r, (N.party e).streams sid = some r →
      r.Settled ∧ (r.stage = .leaving → r.requested = true)) (e : Side) :
    (N.party e).streams sid = none ∧ (N.party e.other).streams sid = none ∨
      ∃ r y, (N.party e).streams sid = some r ∧ (N.party e.other).streams sid = some y ∧
        r.terms = y.terms ∧ r.stage = .opened ∧ y.stage = .opened := by
  rcases e.eq_or_eq_other (opener sid) with he | he
  · exact ((converses_iff he).mp (h sid)).quiet (hflight _) (hflight _) (hdone e) (hdone e.other)
  · rcases ((converses_iff_other he).mp (h sid)).quiet (hflight _) (hflight _) (hdone e.other)
      (hdone e) with ⟨hr, hy⟩ | ⟨r, y, hr, hy, hterms, hrstage, hystage⟩
    · exact .inl ⟨hy, hr⟩
    · exact .inr ⟨y, r, hy, hr, hterms.symm, hystage, hrstage⟩

end Net

end Streams
