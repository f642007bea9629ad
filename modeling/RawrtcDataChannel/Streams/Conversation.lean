import Mathlib.Data.List.Basic
import Mathlib.Tactic.TypeStar

/-!
# Two parties on a stream

Two parties share a stream that is used again and again. One of them, the opener, occupies its end
and proposes terms; the other one occupies its end when the proposal arrives. Both send messages.
Either asks for the stream to be reset once it has nothing more to say, and the request is answered.
A party leaves its end when it has been asked to and its own request has been answered, and the
opener may then occupy its end for a new round.

`Conversation` says how the two ends and what is under way between them fit together. What is under
way is a list in the order of sending. It need not be received in this order: answers may arrive at
any time, and messages may be unordered.

Nothing here depends on what a message is, or on what is known about it except whether it is a
proposal, whether it is ordered, and whether it is a party's first one in a round.
-/

namespace Streams

/-! ## Section 1: What is on a stream -/

/-- Messages that may propose terms `χ`. The first message of a party in a round greets the other
    one: it is ordered and does not get lost. Proposals are greetings. -/
class Vocabulary (μ : Type) (χ : outParam Type) where
  proposal : μ → Option χ
  greets : μ → Bool
  unordered : μ → Bool
  /-- The message may get lost. -/
  lossy : μ → Bool
  /-- Under these terms messages may be unordered. -/
  relaxed : χ → Bool
  greets_of_proposal : ∀ m, proposal m ≠ none → greets m = true
  ordered_of_greets : ∀ m, greets m = true → unordered m = false
  lossless_of_greets : ∀ m, greets m = true → lossy m = false

/-- What is sent on a stream. A message is sent on behalf of a channel. -/
inductive Item (κ μ : Type) where
  | message (channel : κ) (m : μ)
  | reset
  | response
deriving DecidableEq

/-- How far a party has come with a channel. -/
inductive Stage
  | announced
  | opened
  | leaving
deriving DecidableEq

/-- A channel at one end of a stream. -/
structure Occupant (κ χ : Type) where
  channel : κ
  terms : χ
  stage : Stage
  /-- The channel may send unordered messages. -/
  unordered : Bool
  /-- The peer's request for a reset has arrived. -/
  incoming : Bool
  /-- The own request for a reset has been answered. -/
  outgoing : Bool
  /-- The own request for a reset has been sent. -/
  requested : Bool

/-- The party is done with what has reached this end. -/
structure Occupant.Settled {κ χ : Type} (r : Occupant κ χ) : Prop where
  opened : r.stage ≠ .announced
  leaving : r.incoming = true → r.stage = .leaving
  staying : ¬ (r.incoming = true ∧ r.outgoing = true)

variable {κ χ μ : Type} [Vocabulary μ χ]

theorem Vocabulary.ordered_of_proposal {m : μ} (h : Vocabulary.proposal m ≠ none) :
    Vocabulary.unordered m = false :=
  Vocabulary.ordered_of_greets m (Vocabulary.greets_of_proposal m h)

/-- The item may be received while another one that was sent before it is still under way. Answers
    overtake everything, and everything but a proposal overtakes them. -/
def Item.Overtakes : Item κ μ → Item κ μ → Prop
  | .response, _ => True
  | .reset, i => i = .response
  | .message _ m, .response => Vocabulary.proposal m = none
  | .message _ m, .reset => Vocabulary.unordered m = true
  | .message _ m, .message _ m' =>
    Vocabulary.unordered m = true ∨ Vocabulary.unordered m' = true

/-! ## Section 2: The two ends -/

/-- What is under way from `x` to `y`, when both are in the same round. -/
structure Outbound (x y : Occupant κ χ) (q : List (Item κ μ)) : Prop where
  sender : ∀ c m, .message c m ∈ q → c = x.channel ∧ Vocabulary.proposal m = none ∧
    (Vocabulary.unordered m = true → Vocabulary.relaxed μ x.terms = true)
  /-- Behind a request there are only answers. -/
  last : q.Pairwise fun i j => i = .reset → j = .response
  single : q.Pairwise fun i j => i = .response → j ≠ .response
  reset : .reset ∈ q ↔ x.requested = true ∧ y.incoming = false
  response : .response ∈ q ↔ x.incoming = true ∧ y.outgoing = false
  ended : y.incoming = true → x.requested = true ∧ ∀ i ∈ q, i = .response
  answered : y.outgoing = true → x.incoming = true

/-- The peer has left the stream already: at most its last answer is under way. -/
def Leaving (o : Option (Occupant κ χ)) (q : List (Item κ μ)) : Prop :=
  match o with
  | none => q = []
  | some y => y.incoming = true ∧ y.requested = true ∧
      q = if y.outgoing then [] else [.response]

/-- What is under way behind the proposal of `r`. -/
structure Opening (r : Occupant κ χ) (q : List (Item κ μ)) : Prop where
  ordered : r.unordered = false
  incoming : r.incoming = false
  outgoing : r.outgoing = false
  sender : ∀ c m, .message c m ∈ q → c = r.channel ∧ Vocabulary.proposal m = none ∧
    Vocabulary.unordered m = false
  last : q.Pairwise fun i j => i = .reset → j = .response
  reset : .reset ∈ q ↔ r.requested = true
  response : .response ∉ q

/-- The opener's end, the other end, what is under way from each of them, and the channels that have
    been at each end so far. -/
inductive Conversation : Option (Occupant κ χ) → Option (Occupant κ χ) → List (Item κ μ) →
    List (Item κ μ) → List κ → List κ → Prop where
  /-- The opener's end is free. -/
  | vacant (p : Option (Occupant κ χ)) (qo : List (Item κ μ)) (uo up : List κ) :
      Leaving p qo → uo.length = up.length → Conversation none p qo [] uo up
  /-- The opener waits for the last answer of the other party. -/
  | ending (r : Occupant κ χ) (qp : List (Item κ μ)) (uo up : List κ) :
      Leaving (some r) qp → uo.length = up.length → Conversation (some r) none [] qp uo up
  /-- The opener has proposed terms. The other party may not have left yet. -/
  | opening (r : Occupant κ χ) (p : Option (Occupant κ χ)) (ahead : List (Item κ μ)) (m : μ)
      (tail : List (Item κ μ)) (uo up : List κ) :
      Leaving p ahead → Opening r tail → Vocabulary.proposal m = some r.terms →
      uo.length = up.length →
      Conversation (some r) p (ahead ++ .message r.channel m :: tail) [] (uo ++ [r.channel]) up
  /-- Both parties are in the same round. -/
  | both (r p : Occupant κ χ) (qo qp : List (Item κ μ)) (uo up : List κ) :
      Outbound r p qo → Outbound p r qp → r.terms = p.terms → uo.length = up.length →
      Conversation (some r) (some p) qo qp (uo ++ [r.channel]) (up ++ [p.channel])

/-! ## Section 3: Lists of items -/

section Lists

variable {α : Type} {l l' r r' : List α} {a b : α}

/-- Where two elements of a list stand. -/
theorem append_cons_cases (h : l ++ a :: r = l' ++ b :: r') :
    l = l' ∧ a = b ∧ r = r' ∨ (∃ k, l = l' ++ b :: k ∧ r' = k ++ a :: r) ∨
      ∃ k, l' = l ++ a :: k ∧ r = k ++ b :: r' := by
  rcases List.append_eq_append_iff.mp h with ⟨k, hk, hr⟩ | ⟨k, hk, hr⟩
  · cases k with
    | nil =>
      obtain ⟨rfl, rfl⟩ := List.cons.inj hr
      exact .inl ⟨by simpa using hk.symm, rfl, rfl⟩
    | cons x k =>
      obtain ⟨rfl, rfl⟩ := List.cons.inj hr
      exact .inr (.inr ⟨k, hk, rfl⟩)
  · cases k with
    | nil =>
      obtain ⟨rfl, rfl⟩ := List.cons.inj hr
      exact .inl ⟨by simpa using hk, rfl, rfl⟩
    | cons x k =>
      obtain ⟨rfl, rfl⟩ := List.cons.inj hr
      exact .inr (.inl ⟨k, hk, rfl⟩)

theorem sublist_of_removed : (l ++ r).Sublist (l ++ a :: r) :=
  (List.Sublist.refl l).append (List.sublist_cons_self a r)

theorem mem_of_removed (h : b ∈ l ++ r) : b ∈ l ++ a :: r :=
  sublist_of_removed.subset h

theorem mem_removed_iff (hne : b ≠ a) : b ∈ l ++ r ↔ b ∈ l ++ a :: r := by
  simp [hne]

/-- An element that occurs once is gone when it is removed. -/
theorem not_mem_removed (h : (l ++ a :: r).Pairwise fun i j => i = a → j ≠ a) : a ∉ l ++ r := by
  obtain ⟨-, hr, hl⟩ := List.pairwise_append.mp h
  intro ha
  rcases List.mem_append.mp ha with ha | ha
  · exact hl a ha a List.mem_cons_self rfl rfl
  · exact (List.pairwise_cons.mp hr).1 a ha rfl rfl

theorem pairwise_concat {R : α → α → Prop} (h : l.Pairwise R) (ha : ∀ i ∈ l, R i a) :
    (l ++ [a]).Pairwise R := by
  apply List.pairwise_append.mpr
  refine ⟨h, List.pairwise_singleton R a, ?_⟩
  intro i hi j hj
  obtain rfl := List.mem_singleton.mp hj
  exact ha i hi

end Lists

/-! ## Section 4: Parties in the same round -/

section Outbound

variable {x y : Occupant κ χ} {q pre post : List (Item κ μ)} {m : μ}

/-- A message is sent. -/
theorem Outbound.send (h : Outbound x y q) (hm : Vocabulary.proposal m = none)
    (hrelaxed : Vocabulary.unordered m = true → Vocabulary.relaxed μ x.terms = true)
    (hx : x.requested = false) : Outbound x y (q ++ [.message x.channel m]) where
  sender c m' hi := by
    rcases List.mem_append.mp hi with hi | hi
    · exact h.sender c m' hi
    · cases List.mem_singleton.mp hi
      exact ⟨rfl, hm, hrelaxed⟩
  last := by
    apply pairwise_concat h.last
    rintro i hi rfl
    rw [(h.reset.mp hi).1] at hx
    cases hx
  single := pairwise_concat h.single fun _ _ _ => by simp
  reset := by simpa using h.reset
  response := by simpa using h.response
  ended hy := by
    rw [(h.ended hy).1] at hx
    cases hx
  answered := h.answered

/-- A reset is requested. -/
theorem Outbound.request (h : Outbound x y q) (hx : x.requested = false) :
    Outbound { x with requested := true } y (q ++ [.reset]) where
  sender c m hi := by
    rcases List.mem_append.mp hi with hi | hi
    · exact h.sender c m hi
    · cases List.mem_singleton.mp hi
  last := by
    apply pairwise_concat h.last
    rintro i hi rfl
    rw [(h.reset.mp hi).1] at hx
    cases hx
  single := pairwise_concat h.single fun _ _ _ => by simp
  reset := by
    -- a request that has not been made cannot have arrived
    have hy : y.incoming = false := by
      by_contra hy
      rw [(h.ended (by simpa using hy)).1] at hx
      cases hx
    simp [hy]
  response := by simpa using h.response
  ended hy := by
    rw [(h.ended hy).1] at hx
    cases hx
  answered := h.answered

/-- A message arrives. -/
theorem Outbound.receive {c : κ} (h : Outbound x y (pre ++ .message c m :: post)) :
    Outbound x y (pre ++ post) where
  sender c' m' hi := h.sender c' m' (mem_of_removed hi)
  last := h.last.sublist sublist_of_removed
  single := h.single.sublist sublist_of_removed
  reset := (mem_removed_iff (by simp)).trans h.reset
  response := (mem_removed_iff (by simp)).trans h.response
  ended hy := ⟨(h.ended hy).1, fun i hi => (h.ended hy).2 i (mem_of_removed hi)⟩
  answered := h.answered

/-- A request arrives, and what was sent before it has arrived already. -/
theorem Outbound.receive_reset (h : Outbound x y (pre ++ .reset :: post))
    (hpre : ∀ i ∈ pre, i = .response) : Outbound x { y with incoming := true } (pre ++ post) where
  sender c m hi := h.sender c m (mem_of_removed hi)
  last := h.last.sublist sublist_of_removed
  single := h.single.sublist sublist_of_removed
  reset := by
    have hgone : .reset ∉ pre ++ post := not_mem_removed (h.last.imp fun hij hi => by
      rw [hij hi]
      simp)
    simpa using hgone
  response := (mem_removed_iff (by simp)).trans h.response
  ended _ := by
    refine ⟨(h.reset.mp (by simp)).1, ?_⟩
    intro i hi
    rcases List.mem_append.mp hi with hi | hi
    · exact hpre i hi
    · have hbehind := (List.pairwise_append.mp h.last).2.1
      exact (List.pairwise_cons.mp hbehind).1 i hi rfl
  answered := h.answered

/-- A request is answered when it arrives. -/
theorem Outbound.respond (h : Outbound x y q) (hx : x.incoming = false) :
    Outbound { x with incoming := true } y (q ++ [.response]) where
  sender c m hi := by
    rcases List.mem_append.mp hi with hi | hi
    · exact h.sender c m hi
    · cases List.mem_singleton.mp hi
  last := pairwise_concat h.last fun _ _ _ => rfl
  single := by
    apply pairwise_concat h.single
    rintro i hi rfl
    rw [(h.response.mp hi).1] at hx
    cases hx
  reset := by simpa using h.reset
  response := by
    have hy : y.outgoing = false := by
      by_contra hy
      rw [h.answered (by simpa using hy)] at hx
      cases hx
    simp [hy]
  ended hy := by
    refine ⟨(h.ended hy).1, ?_⟩
    intro i hi
    rcases List.mem_append.mp hi with hi | hi
    · exact (h.ended hy).2 i hi
    · exact List.mem_singleton.mp hi
  answered _ := rfl

/-- An answer arrives. -/
theorem Outbound.receive_response (h : Outbound x y (pre ++ .response :: post)) :
    Outbound x { y with outgoing := true } (pre ++ post) where
  sender c m hi := h.sender c m (mem_of_removed hi)
  last := h.last.sublist sublist_of_removed
  single := h.single.sublist sublist_of_removed
  reset := (mem_removed_iff (by simp)).trans h.reset
  response := by simpa using not_mem_removed h.single
  ended hy := ⟨(h.ended hy).1, fun i hi => (h.ended hy).2 i (mem_of_removed hi)⟩
  answered _ := (h.response.mp (by simp)).1

theorem Outbound.awaits {q' : List (Item κ μ)} (h : Outbound x y q) (h' : Outbound y x q')
    (hmem : .response ∈ q) : y.requested = true ∧ y.outgoing = false := by
  obtain ⟨hin, hout⟩ := h.response.mp hmem
  exact ⟨(h'.ended hin).1, hout⟩

/-- Where only one answer can be, there is one or nothing. -/
theorem eq_of_responses (hall : ∀ i ∈ q, i = .response)
    (hsingle : q.Pairwise fun i j => i = .response → j ≠ .response) (b : Bool)
    (hb : .response ∈ q ↔ b = false) : q = if b then [] else [.response] := by
  cases q with
  | nil =>
    cases b with
    | true => rfl
    | false => exact absurd (hb.mpr rfl) List.not_mem_nil
  | cons i q =>
    obtain rfl := hall i List.mem_cons_self
    obtain rfl : b = false := hb.mp List.mem_cons_self
    cases q with
    | nil => rfl
    | cons j q =>
      obtain rfl := hall j (by simp)
      exact absurd rfl ((List.pairwise_cons.mp hsingle).1 .response (by simp) rfl)

/-- When `x` has been asked to leave and its own request has been answered, nothing is under way to
    it, and to `y` at most the last answer. -/
theorem Outbound.leave {q' : List (Item κ μ)} (h : Outbound x y q) (h' : Outbound y x q')
    (hin : x.incoming = true) (hout : x.outgoing = true) : Leaving (some y) q ∧ q' = [] := by
  obtain ⟨hrequested, hall'⟩ := h'.ended hin
  have hincoming : y.incoming = true := h'.answered hout
  obtain ⟨-, hall⟩ := h.ended hincoming
  refine ⟨⟨hincoming, hrequested, ?_⟩, ?_⟩
  · apply eq_of_responses hall h.single
    simp [h.response, hin]
  · have hnone : .response ∉ q' := by
      simp [h'.response, hout]
    cases q' with
    | nil => rfl
    | cons i q' =>
      obtain rfl := hall' i List.mem_cons_self
      exact absurd List.mem_cons_self hnone

end Outbound

/-! ## Section 5: Beginning and end of a round -/

section Rounds

variable {r y : Occupant κ χ} {q pre post : List (Item κ μ)} {m : μ}

theorem Opening.send (h : Opening r q) (hm : Vocabulary.proposal m = none)
    (hr : r.requested = false) (hordered : Vocabulary.unordered m = true → r.unordered = true) :
    Opening r (q ++ [.message r.channel m]) where
  ordered := h.ordered
  incoming := h.incoming
  outgoing := h.outgoing
  sender c m' hi := by
    rcases List.mem_append.mp hi with hi | hi
    · exact h.sender c m' hi
    · cases List.mem_singleton.mp hi
      refine ⟨rfl, hm, ?_⟩
      by_contra hunordered
      have htrue := hordered (by simpa using hunordered)
      rw [h.ordered] at htrue
      cases htrue
  last := by
    apply pairwise_concat h.last
    rintro i hi rfl
    rw [h.reset.mp hi] at hr
    cases hr
  reset := by simpa using h.reset
  response := by simpa using h.response

theorem Opening.request (h : Opening r q) (hr : r.requested = false) :
    Opening { r with requested := true } (q ++ [.reset]) where
  ordered := h.ordered
  incoming := h.incoming
  outgoing := h.outgoing
  sender c m hi := by
    rcases List.mem_append.mp hi with hi | hi
    · exact h.sender c m hi
    · cases List.mem_singleton.mp hi
  last := by
    apply pairwise_concat h.last
    rintro i hi rfl
    rw [h.reset.mp hi] at hr
    cases hr
  reset := by simp
  response := by simpa using h.response

/-- A message gets lost. -/
theorem Opening.lose {c : κ} (h : Opening r (pre ++ .message c m :: post)) :
    Opening r (pre ++ post) where
  ordered := h.ordered
  incoming := h.incoming
  outgoing := h.outgoing
  sender c' m' hi := h.sender c' m' (mem_of_removed hi)
  last := h.last.sublist sublist_of_removed
  reset := (mem_removed_iff (by simp)).trans h.reset
  response hi := h.response (mem_of_removed hi)

/-- What is behind a proposal does not overtake it. -/
theorem Opening.not_overtakes (h : Opening r q) (hm : Vocabulary.proposal m ≠ none)
    {i : Item κ μ} (hi : i ∈ q) (c : κ) : ¬ i.Overtakes (.message c m) := by
  have hordered := Vocabulary.ordered_of_proposal hm
  intro hpass
  cases i with
  | message c' m' =>
    have hordered' := (h.sender c' m' hi).2.2
    rcases hpass with hpass | hpass
    · rw [hordered'] at hpass
      cases hpass
    · rw [hordered] at hpass
      cases hpass
  | reset => cases hpass
  | response => exact h.response hi

/-- The other party accepts the proposal and greets the opener. -/
theorem Opening.accept (h : Opening r q) {y : Occupant κ χ} (hin : y.incoming = false)
    (hout : y.outgoing = false) (hrequested : y.requested = false)
    (hm : Vocabulary.proposal m = none) (hordered : Vocabulary.unordered m = false) :
    Outbound r y q ∧ Outbound y r [.message y.channel m] := by
  constructor
  · -- what the opener has sent meanwhile stays under way
    refine ⟨fun c m hi => ?_, h.last, ?_, ?_, ?_, ?_, ?_⟩
    · obtain ⟨hc, hm, hordered'⟩ := h.sender c m hi
      exact ⟨hc, hm, by simp [hordered']⟩
    · apply h.last.imp_of_mem
      rintro i j hi - - rfl
      exact absurd hi h.response
    · simp [h.reset, hin]
    · simp [h.response, h.incoming]
    · simp [hin]
    · simp [hout]
  · -- in the other direction there is the answer only
    refine ⟨?_, List.pairwise_singleton _ _, List.pairwise_singleton _ _, ?_, ?_, ?_, ?_⟩
    · intro c m' hi
      cases List.mem_singleton.mp hi
      exact ⟨rfl, hm, by simp [hordered]⟩
    · simp [hrequested]
    · simp [hin]
    · simp [h.incoming]
    · simp [h.outgoing]

omit [Vocabulary μ χ] in
theorem Leaving.responses {o : Option (Occupant κ χ)} (h : Leaving o q) :
    ∀ i ∈ q, i = .response := by
  intro i hi
  cases o with
  | none =>
    obtain rfl : q = [] := h
    cases hi
  | some y =>
    obtain ⟨-, -, rfl⟩ := h
    split at hi
    · cases hi
    · exact List.mem_singleton.mp hi

omit [Vocabulary μ χ] in
/-- The last answer arrives. -/
theorem Leaving.receive (h : Leaving (some y) (pre ++ .response :: post)) :
    Leaving (some { y with outgoing := true }) (pre ++ post) := by
  obtain ⟨hin, hrequested, hq⟩ := h
  refine ⟨hin, hrequested, ?_⟩
  split at hq
  · simp at hq
  · obtain ⟨rfl, -, rfl⟩ : pre = [] ∧ (Item.response : Item κ μ) = .response ∧ post = [] := by
      cases pre with
      | nil => simpa using hq
      | cons i pre => simp at hq
    rfl

omit [Vocabulary μ χ] in
/-- An answer that is under way is awaited. -/
theorem Leaving.awaits (h : Leaving (some y) q) (hmem : .response ∈ q) :
    y.requested = true ∧ y.outgoing = false := by
  obtain ⟨-, hrequested, rfl⟩ := h
  cases hout : y.outgoing with
  | true => simp [hout] at hmem
  | false => exact ⟨hrequested, rfl⟩

omit [Vocabulary μ χ] in
/-- A party that has received its last answer is free to leave. -/
theorem Leaving.free (h : Leaving (some y) q) (hout : y.outgoing = true) : q = [] := by
  obtain ⟨-, -, hq⟩ := h
  rw [if_pos hout] at hq
  exact hq

end Rounds

/-! ## Section 6: What the opener does -/

namespace Conversation

variable {r y : Occupant κ χ} {o p : Option (Occupant κ χ)} {qo qp pre post : List (Item κ μ)}
  {uo up : List κ} {m : μ} {c : κ}

/-- A new round begins. -/
theorem propose (h : Conversation none p qo qp uo up) (hordered : r.unordered = false)
    (hin : r.incoming = false) (hout : r.outgoing = false) (hrequested : r.requested = false)
    (hm : Vocabulary.proposal m = some r.terms) :
    Conversation (some r) p (qo ++ [.message r.channel m]) qp (uo ++ [r.channel]) up := by
  cases h with
  | vacant _ _ _ _ hleaving hlength =>
    apply opening r p qo m [] uo up hleaving _ hm hlength
    refine ⟨hordered, hin, hout, ?_, List.Pairwise.nil, ?_, List.not_mem_nil⟩
    · simp
    · simp [hrequested]

theorem send (h : Conversation (some r) p qo qp uo up) (hm : Vocabulary.proposal m = none)
    (hr : r.requested = false) (hordered : Vocabulary.unordered m = true →
      r.unordered = true ∧ Vocabulary.relaxed μ r.terms = true) :
    Conversation (some r) p (qo ++ [.message r.channel m]) qp uo up := by
  cases h with
  | ending _ _ _ _ hleaving _ =>
    rw [hleaving.2.1] at hr
    cases hr
  | opening _ _ ahead m' tail uo _ hleaving htail hm' hlength =>
    have h' := opening r p ahead m' _ uo up hleaving (htail.send hm hr
      fun h => (hordered h).1) hm' hlength
    simpa using h'
  | both _ y _ _ uo up hqo hqp hterms hlength =>
    exact both r y _ qp uo up (hqo.send hm (fun h => (hordered h).2) hr) hqp hterms hlength

theorem request (h : Conversation (some r) p qo qp uo up) (hr : r.requested = false) :
    Conversation (some { r with requested := true }) p (qo ++ [.reset]) qp uo up := by
  cases h with
  | ending _ _ _ _ hleaving _ =>
    rw [hleaving.2.1] at hr
    cases hr
  | opening _ _ ahead m tail uo _ hleaving htail hm hlength =>
    have h' := opening { r with requested := true } p ahead m _ uo up hleaving (htail.request hr) hm
      hlength
    simpa using h'
  | both _ y _ _ uo up hqo hqp hterms hlength =>
    exact both { r with requested := true } y _ qp uo up (hqo.request hr) ⟨hqp.sender, hqp.last,
      hqp.single, hqp.reset, hqp.response, hqp.ended, hqp.answered⟩ hterms hlength

/-- How far a party has come does not matter. -/
theorem restage (h : Conversation (some r) p qo qp uo up) (stage : Stage) :
    Conversation (some { r with stage }) p qo qp uo up := by
  cases h with
  | ending _ _ _ _ hleaving hlength => exact ending { r with stage } qp uo up hleaving hlength
  | opening _ _ ahead m tail uo _ hleaving htail hm hlength =>
    exact opening { r with stage } p ahead m tail uo up hleaving ⟨htail.ordered, htail.incoming,
      htail.outgoing, htail.sender, htail.last, htail.reset, htail.response⟩ hm hlength
  | both _ y _ _ uo up hqo hqp hterms hlength =>
    exact both { r with stage } y qo qp uo up ⟨hqo.sender, hqo.last, hqo.single, hqo.reset,
      hqo.response, hqo.ended, hqo.answered⟩ ⟨hqp.sender, hqp.last, hqp.single, hqp.reset,
      hqp.response, hqp.ended, hqp.answered⟩ hterms hlength

/-- A message arrives at the opener's end. It was sent in the same round, so its sender is the
    latest channel at the other end. -/
theorem receive (h : Conversation o p qo (pre ++ .message c m :: post) uo up) :
    Vocabulary.proposal m = none ∧ ∃ r y uo' up', o = some r ∧ p = some y ∧ c = y.channel ∧
      uo = uo' ++ [r.channel] ∧ up = up' ++ [y.channel] ∧ uo'.length = up'.length ∧
      Conversation (some { r with unordered := true }) p qo (pre ++ post) uo up := by
  have hmem : Item.message c m ∈ pre ++ Item.message c m :: post := by simp
  generalize hq : pre ++ Item.message c m :: post = q at h hmem
  cases h with
  | vacant => cases hmem
  | opening => cases hmem
  | ending r _ _ _ hleaving _ => cases hleaving.responses _ hmem
  | both r y _ _ uo up hqo hqp hterms hlength =>
    subst hq
    obtain ⟨rfl, hm, -⟩ := hqp.sender c m hmem
    refine ⟨hm, r, y, uo, up, rfl, rfl, rfl, rfl, rfl, hlength, ?_⟩
    have hqp' := hqp.receive
    exact both { r with unordered := true } y qo _ uo up ⟨hqo.sender, hqo.last, hqo.single,
      hqo.reset, hqo.response, hqo.ended, hqo.answered⟩ ⟨hqp'.sender, hqp'.last, hqp'.single,
      hqp'.reset, hqp'.response, hqp'.ended, hqp'.answered⟩ hterms hlength

/-- A message to the opener gets lost. -/
theorem lose (h : Conversation o p qo (pre ++ .message c m :: post) uo up) :
    Conversation o p qo (pre ++ post) uo up := by
  have hmem : Item.message c m ∈ pre ++ Item.message c m :: post := by simp
  generalize hq : pre ++ Item.message c m :: post = q at h hmem
  cases h with
  | vacant => cases hmem
  | opening => cases hmem
  | ending r _ _ _ hleaving _ => cases hleaving.responses _ hmem
  | both r y _ _ uo up hqo hqp hterms hlength =>
    subst hq
    exact both r y qo _ uo up hqo hqp.receive hterms hlength

/-- A request arrives at the opener's end and is answered. -/
theorem receive_reset (h : Conversation o p qo (pre ++ .reset :: post) uo up)
    (hpre : ∀ i ∈ pre, i = .response) :
    ∃ r, o = some r ∧ r.incoming = false ∧
      Conversation (some { r with incoming := true }) p (qo ++ [.response]) (pre ++ post) uo
        up := by
  have hmem : Item.reset ∈ pre ++ (Item.reset :: post : List (Item κ μ)) := by simp
  generalize hq : pre ++ Item.reset :: post = q at h hmem
  cases h with
  | vacant => cases hmem
  | opening => cases hmem
  | ending r _ _ _ hleaving _ => cases hleaving.responses _ hmem
  | both r y _ _ uo up hqo hqp hterms hlength =>
    subst hq
    have hin : r.incoming = false := (hqp.reset.mp hmem).2
    exact ⟨r, rfl, hin, both { r with incoming := true } y _ _ uo up (hqo.respond hin)
      (hqp.receive_reset hpre) hterms hlength⟩

/-- An answer arrives at the opener's end. -/
theorem receive_response (h : Conversation o p qo (pre ++ .response :: post) uo up) :
    ∃ r, o = some r ∧ (r.requested = true ∧ r.outgoing = false) ∧
      Conversation (some { r with outgoing := true }) p qo (pre ++ post) uo up := by
  have hmem : Item.response ∈ pre ++ (Item.response :: post : List (Item κ μ)) := by simp
  generalize hq : pre ++ Item.response :: post = q at h hmem
  cases h with
  | vacant => cases hmem
  | opening => cases hmem
  | ending r _ _ _ hleaving hlength =>
    subst hq
    exact ⟨r, rfl, hleaving.awaits hmem, ending { r with outgoing := true } _ uo up hleaving.receive
      hlength⟩
  | both r y _ _ uo up hqo hqp hterms hlength =>
    subst hq
    refine ⟨r, rfl, hqp.awaits hqo hmem, ?_⟩
    exact both { r with outgoing := true } y qo _ uo up ⟨hqo.sender, hqo.last, hqo.single,
      hqo.reset, hqo.response, hqo.ended, hqo.answered⟩ hqp.receive_response hterms hlength

/-- The opener leaves its end. -/
theorem leave (h : Conversation (some r) p qo qp uo up) (hin : r.incoming = true)
    (hout : r.outgoing = true) : Conversation none p qo qp uo up := by
  cases h with
  -- whoever is left alone has got its response
  | ending _ _ _ _ hleaving hlength =>
    obtain rfl := hleaving.free hout
    exact vacant none [] uo up rfl hlength
  | opening _ _ _ _ _ _ _ _ htail _ _ =>
    rw [htail.incoming] at hin
    cases hin
  -- both directions are over, so the other end has nothing to wait for but the response
  | both _ y _ _ uo up hqo hqp hterms hlength =>
    obtain ⟨hleaving, rfl⟩ := hqo.leave hqp hin hout
    exact vacant (some y) qo _ _ hleaving (by simpa using hlength)

end Conversation

/-! ## Section 7: What the other party does -/

namespace Conversation

variable {r y : Occupant κ χ} {o p : Option (Occupant κ χ)} {qo qp pre post : List (Item κ μ)}
  {uo up : List κ} {m : μ} {c : κ}

/-- A proposal arrives, and the other party does not stay when it is free to leave. Then its end is
    free, and it can be occupied. -/
theorem accept (h : Conversation o p (pre ++ .message c m :: post) qp uo up)
    (hm : Vocabulary.proposal m ≠ none)
    (hpre : ∀ i ∈ pre, (Item.message c m).Overtakes i)
    (hp : ∀ y, p = some y → ¬ (y.incoming = true ∧ y.outgoing = true)) :
    p = none ∧ ∃ r, o = some r ∧ c = r.channel ∧ Vocabulary.proposal m = some r.terms ∧
      ∀ y m', y.terms = r.terms → y.incoming = false → y.outgoing = false →
        y.requested = false → Vocabulary.proposal m' = none → Vocabulary.unordered m' = false →
        Conversation o (some y) (pre ++ post) (qp ++ [.message y.channel m']) uo
          (up ++ [y.channel]) := by
  have hmem : Item.message c m ∈ pre ++ Item.message c m :: post := by simp
  generalize hq : pre ++ Item.message c m :: post = q at h hmem
  cases h with
  | vacant _ _ _ _ hleaving _ => cases hleaving.responses _ hmem
  | ending => cases hmem
  | both r y _ _ uo up hqo hqp hterms hlength => exact absurd (hqo.sender c m hmem).2.1 hm
  | opening r _ ahead m' tail uo _ hleaving htail hm' hlength =>
    rcases append_cons_cases hq with ⟨rfl, heq, rfl⟩ | ⟨k, rfl, htails⟩ | ⟨k, rfl, -⟩
    · cases heq
      -- no answer can be ahead, so the other party has been free to leave
      have hnil : pre = [] := by
        apply List.eq_nil_iff_forall_not_mem.mpr
        intro i hi
        obtain rfl := hleaving.responses i hi
        exact hm (hpre _ hi)
      obtain rfl := hnil
      have hnone : p = none := by
        cases p with
        | none => rfl
        | some y =>
          obtain ⟨hin, -, hq⟩ := hleaving
          have hout : y.outgoing = true := by
            by_contra hout
            simp [hout] at hq
          exact absurd ⟨hin, hout⟩ (hp y rfl)
      refine ⟨hnone, r, rfl, rfl, hm', ?_⟩
      intro y m' hterms hin hout hrequested hm'' hordered
      obtain ⟨hqo, hqp⟩ := htail.accept hin hout hrequested hm'' hordered
      exact both r y _ _ uo up hqo hqp hterms.symm hlength
    · have hin : Item.message c m ∈ tail := by
        rw [htails]
        simp
      exact absurd (htail.sender c m hin).2.1 hm
    · cases hleaving.responses (.message c m) (by simp)

/-- The other party only sends in a round that both are in. -/
theorem send_other (h : Conversation o (some y) qo qp uo up) (hm : Vocabulary.proposal m = none)
    (hrelaxed : Vocabulary.unordered m = true → Vocabulary.relaxed μ y.terms = true)
    (hy : y.requested = false) :
    Conversation o (some y) qo (qp ++ [.message y.channel m]) uo up := by
  cases h with
  | vacant _ _ _ _ hleaving _ =>
    rw [hleaving.2.1] at hy
    cases hy
  | opening _ _ _ _ _ _ _ hleaving _ _ _ =>
    rw [hleaving.2.1] at hy
    cases hy
  | both r _ _ _ uo up hqo hqp hterms hlength =>
    exact both r y qo _ uo up hqo (hqp.send hm hrelaxed hy) hterms hlength

theorem request_other (h : Conversation o (some y) qo qp uo up) (hy : y.requested = false) :
    Conversation o (some { y with requested := true }) qo (qp ++ [.reset]) uo up := by
  cases h with
  | vacant _ _ _ _ hleaving _ =>
    rw [hleaving.2.1] at hy
    cases hy
  | opening _ _ _ _ _ _ _ hleaving _ _ _ =>
    rw [hleaving.2.1] at hy
    cases hy
  | both r _ _ _ uo up hqo hqp hterms hlength =>
    exact both r { y with requested := true } qo _ uo up ⟨hqo.sender, hqo.last, hqo.single,
      hqo.reset, hqo.response, hqo.ended, hqo.answered⟩ (hqp.request hy) hterms hlength

theorem restage_other (h : Conversation o (some y) qo qp uo up) (stage : Stage) :
    Conversation o (some { y with stage }) qo qp uo up := by
  cases h with
  | vacant _ _ _ _ hleaving hlength =>
    exact vacant (some { y with stage }) qo uo up hleaving hlength
  | opening r _ ahead m tail uo _ hleaving htail hm hlength =>
    exact opening r (some { y with stage }) ahead m tail uo up hleaving htail hm hlength
  | both r _ _ _ uo up hqo hqp hterms hlength =>
    exact both r { y with stage } qo qp uo up ⟨hqo.sender, hqo.last, hqo.single, hqo.reset,
      hqo.response, hqo.ended, hqo.answered⟩ ⟨hqp.sender, hqp.last, hqp.single, hqp.reset,
      hqp.response, hqp.ended, hqp.answered⟩ hterms hlength

/-- A message arrives at the other end. It was sent in the same round, so its sender is the latest
    channel at the opener's end. -/
theorem receive_other (h : Conversation o p (pre ++ .message c m :: post) qp uo up)
    (hm : Vocabulary.proposal m = none) (hpre : ∀ i ∈ pre, (Item.message c m).Overtakes i) :
    ∃ r y uo' up', o = some r ∧ p = some y ∧ c = r.channel ∧
      uo = uo' ++ [r.channel] ∧ up = up' ++ [y.channel] ∧ uo'.length = up'.length ∧
      Conversation o (some { y with unordered := true }) (pre ++ post) qp uo up := by
  have hmem : Item.message c m ∈ pre ++ Item.message c m :: post := by simp
  generalize hq : pre ++ Item.message c m :: post = q at h hmem
  cases h with
  | vacant _ _ _ _ hleaving _ => cases hleaving.responses _ hmem
  | ending => cases hmem
  | opening r _ ahead m' tail uo _ hleaving htail hm' hlength =>
    have hproposal : Vocabulary.proposal m' ≠ none := by simp [hm']
    rcases append_cons_cases hq with ⟨-, heq, -⟩ | ⟨k, rfl, htails⟩ | ⟨k, rfl, -⟩
    · cases heq
      exact absurd hm hproposal
    · -- it is behind the proposal, and cannot have overtaken it
      have hin : Item.message c m ∈ tail := by
        rw [htails]
        simp
      exact absurd (hpre _ (by simp)) (htail.not_overtakes hproposal hin r.channel)
    · cases hleaving.responses (.message c m) (by simp)
  | both r y _ _ uo up hqo hqp hterms hlength =>
    subst hq
    -- both are there, and the message was sent by the one at the other end
    obtain ⟨rfl, -⟩ := hqo.sender c m hmem
    refine ⟨r, y, uo, up, rfl, rfl, rfl, rfl, rfl, hlength, ?_⟩
    have hqo' := hqo.receive
    exact both r { y with unordered := true } _ qp uo up ⟨hqo'.sender, hqo'.last, hqo'.single,
      hqo'.reset, hqo'.response, hqo'.ended, hqo'.answered⟩ ⟨hqp.sender, hqp.last, hqp.single,
      hqp.reset, hqp.response, hqp.ended, hqp.answered⟩ hterms hlength

/-- A message to the other party gets lost, but not a proposal. -/
theorem lose_other (h : Conversation o p (pre ++ .message c m :: post) qp uo up)
    (hm : Vocabulary.proposal m = none) : Conversation o p (pre ++ post) qp uo up := by
  have hmem : Item.message c m ∈ pre ++ Item.message c m :: post := by simp
  generalize hq : pre ++ Item.message c m :: post = q at h hmem
  cases h with
  | vacant _ _ _ _ hleaving _ => cases hleaving.responses _ hmem
  | ending => cases hmem
  | opening r _ ahead m' tail uo _ hleaving htail hm' hlength =>
    rcases append_cons_cases hq with ⟨-, heq, -⟩ | ⟨k, rfl, rfl⟩ | ⟨k, rfl, -⟩
    · cases heq
      rw [hm] at hm'
      cases hm'
    · -- it is behind the proposal
      have h' := opening r p ahead m' (k ++ post) uo up hleaving htail.lose hm' hlength
      simpa using h'
    · cases hleaving.responses (.message c m) (by simp)
  | both r y _ _ uo up hqo hqp hterms hlength =>
    subst hq
    exact both r y _ qp uo up hqo.receive hqp hterms hlength

/-- A request arrives at the other end and is answered. -/
theorem receive_reset_other (h : Conversation o p (pre ++ .reset :: post) qp uo up)
    (hpre : ∀ i ∈ pre, i = .response) : ∃ y, p = some y ∧ y.incoming = false ∧
      Conversation o (some { y with incoming := true }) (pre ++ post) (qp ++ [.response]) uo
        up := by
  have hmem : Item.reset ∈ pre ++ (Item.reset :: post : List (Item κ μ)) := by simp
  generalize hq : pre ++ Item.reset :: post = q at h hmem
  cases h with
  | vacant _ _ _ _ hleaving _ => cases hleaving.responses _ hmem
  | ending => cases hmem
  | opening r _ ahead m tail uo _ hleaving htail hm hlength =>
    rcases append_cons_cases hq with ⟨-, heq, -⟩ | ⟨k, rfl, -⟩ | ⟨k, rfl, -⟩
    · cases heq
    · cases hpre (.message r.channel m) (by simp)
    · cases hleaving.responses .reset (by simp)
  | both r y _ _ uo up hqo hqp hterms hlength =>
    subst hq
    have hin : y.incoming = false := (hqo.reset.mp hmem).2
    exact ⟨y, rfl, hin, both r { y with incoming := true } _ _ uo up (hqo.receive_reset hpre)
      (hqp.respond hin) hterms hlength⟩

/-- An answer arrives at the other end. -/
theorem receive_response_other (h : Conversation o p (pre ++ .response :: post) qp uo up) :
    ∃ y, p = some y ∧ (y.requested = true ∧ y.outgoing = false) ∧
      Conversation o (some { y with outgoing := true }) (pre ++ post) qp uo up := by
  have hmem : Item.response ∈ pre ++ (Item.response :: post : List (Item κ μ)) := by simp
  generalize hq : pre ++ Item.response :: post = q at h hmem
  cases h with
  -- the other end is over, and this one only waits for the response
  | vacant _ _ _ _ hleaving hlength =>
    subst hq
    cases p with
    | none => simp [Leaving] at hleaving
    | some y => exact ⟨y, rfl, hleaving.awaits hmem, vacant (some { y with outgoing := true }) _ uo
        up hleaving.receive hlength⟩
  | ending => cases hmem
  | opening r _ ahead m tail uo _ hleaving htail hm hlength =>
    rcases append_cons_cases hq with ⟨-, heq, -⟩ | ⟨k, -, htails⟩ | ⟨k, rfl, hposts⟩
    · cases heq
    · -- nobody responds before the conversation has begun
      refine absurd ?_ htail.response
      rw [htails]
      simp
    · -- the response belongs to the conversation before
      cases p with
      | none => simp [Leaving] at hleaving
      | some y =>
        refine ⟨y, rfl, hleaving.awaits (by simp), ?_⟩
        have h' := opening r (some { y with outgoing := true }) (pre ++ k) m tail uo up
          hleaving.receive htail hm hlength
        rw [hposts]
        simpa using h'
  | both r y _ _ uo up hqo hqp hterms hlength =>
    subst hq
    refine ⟨y, rfl, hqo.awaits hqp hmem, ?_⟩
    exact both r { y with outgoing := true } _ qp uo up hqo.receive_response ⟨hqp.sender, hqp.last,
      hqp.single, hqp.reset, hqp.response, hqp.ended, hqp.answered⟩ hterms hlength

/-- The other party leaves its end. -/
theorem leave_other (h : Conversation o (some y) qo qp uo up) (hin : y.incoming = true)
    (hout : y.outgoing = true) : Conversation o none qo qp uo up := by
  cases h with
  | vacant _ _ _ _ hleaving hlength =>
    obtain rfl := hleaving.free hout
    exact vacant none [] uo up rfl hlength
  | opening r _ ahead m tail uo _ hleaving htail hm hlength =>
    obtain rfl := hleaving.free hout
    exact opening r none [] m tail uo up rfl htail hm hlength
  | both r _ _ _ uo up hqo hqp hterms hlength =>
    obtain ⟨hleaving, rfl⟩ := hqp.leave hqo hin hout
    exact ending r qp _ _ hleaving (by simpa using hlength)

end Conversation

/-! ## Section 8: What both parties know -/

/-- The sender of a message and its receiver are in the same round: the message was sent by the
    channel at the sender's end, the two channels have the same terms, and as many channels have
    been at the one end as at the other. -/
structure Together (c : κ) (m : μ) (receiver sender : Occupant κ χ) (ur us : List κ) : Prop where
  sent : c = sender.channel
  terms : receiver.terms = sender.terms
  relaxed : Vocabulary.unordered m = true → Vocabulary.relaxed μ sender.terms = true
  rounds : ∃ before before', ur = before ++ [receiver.channel] ∧ us = before' ++ [sender.channel] ∧
    before.length = before'.length

omit [Vocabulary μ χ] in
/-- The sender `x` of a message is at its end and has not been answered yet. Its counterpart is not
    there yet, or it is at its end and has not been asked to leave. -/
structure Unfinished (c : κ) (x : Occupant κ χ) (o : Option (Occupant κ χ)) (us ur : List κ) :
    Prop where
  sent : c = x.channel
  outgoing : x.outgoing = false
  round : ∃ before, us = before ++ [c] ∧ (ur.length = before.length ∨
    ∃ y before', o = some y ∧ y.incoming = false ∧ ur = before' ++ [y.channel] ∧
      before'.length = before.length)

/-- With a message under way, neither is the receiver asked to leave nor the sender answered. -/
theorem Outbound.unfinished {x y : Occupant κ χ} {q q' : List (Item κ μ)} {c : κ} {m : μ}
    (h : Outbound x y q) (h' : Outbound y x q') (hmem : .message c m ∈ q) :
    c = x.channel ∧ x.outgoing = false ∧ y.incoming = false := by
  have hin : y.incoming = false := by
    by_contra hin
    cases (h.ended (by simpa using hin)).2 _ hmem
  refine ⟨(h.sender c m hmem).1, ?_, hin⟩
  by_contra hout
  rw [h'.answered (by simpa using hout)] at hin
  cases hin

namespace Conversation

variable {r y : Occupant κ χ} {o p : Option (Occupant κ χ)} {qo qp pre post : List (Item κ μ)}
  {uo up : List κ} {m : μ} {c : κ}

/-- A message to the opener is only under way when both are in the same round. -/
theorem together (h : Conversation o p qo qp uo up) (hmem : .message c m ∈ qp) :
    ∃ r y, o = some r ∧ p = some y ∧ Together c m r y uo up := by
  cases h with
  | vacant => cases hmem
  | opening => cases hmem
  | ending r _ _ _ hleaving _ => cases hleaving.responses _ hmem
  | both r y _ _ uo up hqo hqp hterms hlength =>
    obtain ⟨hc, -, hrelaxed⟩ := hqp.sender c m hmem
    exact ⟨r, y, rfl, rfl, hc, hterms, hrelaxed, uo, up, rfl, rfl, hlength⟩

/-- A message to the other party can only be received when both are in the same round. -/
theorem together_other (h : Conversation o p (pre ++ .message c m :: post) qp uo up)
    (hm : Vocabulary.proposal m = none) (hpre : ∀ i ∈ pre, (Item.message c m).Overtakes i) :
    ∃ r y, o = some r ∧ p = some y ∧ Together c m y r up uo := by
  have hmem : Item.message c m ∈ pre ++ Item.message c m :: post := by simp
  generalize hq : pre ++ Item.message c m :: post = q at h hmem
  cases h with
  | vacant _ _ _ _ hleaving _ => cases hleaving.responses _ hmem
  | ending => cases hmem
  | opening r _ ahead m' tail uo _ hleaving htail hm' hlength =>
    have hproposal : Vocabulary.proposal m' ≠ none := by simp [hm']
    rcases append_cons_cases hq with ⟨-, heq, -⟩ | ⟨k, rfl, htails⟩ | ⟨k, rfl, -⟩
    · cases heq
      exact absurd hm hproposal
    · -- it is behind the proposal, and cannot have overtaken it
      have hin : Item.message c m ∈ tail := by
        rw [htails]
        simp
      exact absurd (hpre _ (by simp)) (htail.not_overtakes hproposal hin r.channel)
    · cases hleaving.responses (.message c m) (by simp)
  | both r y _ _ uo up hqo hqp hterms hlength =>
    subst hq
    -- both are there, with the same terms
    obtain ⟨hc, -, hrelaxed⟩ := hqo.sender c m hmem
    exact ⟨r, y, rfl, rfl, hc, hterms.symm, hrelaxed, up, uo, rfl, rfl, hlength.symm⟩

/-- An unordered message to the other party is only under way when both are in the same round. -/
theorem together_unordered (h : Conversation o p qo qp uo up) (hmem : .message c m ∈ qo)
    (hm : Vocabulary.unordered m = true) :
    ∃ r y, o = some r ∧ p = some y ∧ Together c m y r up uo := by
  cases h with
  | vacant _ _ _ _ hleaving _ => cases hleaving.responses _ hmem
  | ending => cases hmem
  | opening r _ ahead m' tail uo _ hleaving htail hm' hlength =>
    rcases List.mem_append.mp hmem with hmem | hmem
    · cases hleaving.responses _ hmem
    · rcases List.mem_cons.mp hmem with heq | hmem
      · cases heq
        rw [Vocabulary.ordered_of_proposal (by simp [hm'])] at hm
        cases hm
      · rw [(htail.sender c m hmem).2.2] at hm
        cases hm
  | both r y _ _ uo up hqo hqp hterms hlength =>
    obtain ⟨hc, -, hrelaxed⟩ := hqo.sender c m hmem
    exact ⟨r, y, rfl, rfl, hc, hterms.symm, hrelaxed, up, uo, rfl, rfl, hlength.symm⟩

/-- Messages to the opener are only under way while its channel has not been asked to leave. -/
theorem unfinished (h : Conversation o p qo qp uo up) (hmem : .message c m ∈ qp) :
    ∃ y, p = some y ∧ Unfinished c y o up uo := by
  cases h with
  | vacant => cases hmem
  | opening => cases hmem
  | ending r _ _ _ hleaving _ => cases hleaving.responses _ hmem
  | both r y _ _ uo up hqo hqp _ hlength =>
    obtain ⟨hc, hout, hin⟩ := hqp.unfinished hqo hmem
    exact ⟨y, rfl, hc, hout, up, by rw [hc], .inr ⟨r, uo, rfl, hin, rfl, hlength⟩⟩

/-- Messages to the other party may be under way before it has occupied its end, too. -/
theorem unfinished_other (h : Conversation o p qo qp uo up) (hmem : .message c m ∈ qo) :
    ∃ r, o = some r ∧ Unfinished c r p uo up := by
  cases h with
  | vacant _ _ _ _ hleaving _ => cases hleaving.responses _ hmem
  | ending => cases hmem
  | opening r _ ahead m' tail uo _ hleaving htail _ hlength =>
    have hc : c = r.channel := by
      rcases List.mem_append.mp hmem with hmem | hmem
      · cases hleaving.responses _ hmem
      · rcases List.mem_cons.mp hmem with heq | hmem
        · cases heq
          rfl
        · exact (htail.sender c m hmem).1
    exact ⟨r, rfl, hc, htail.outgoing, uo, by rw [hc], .inl hlength.symm⟩
  | both r y _ _ uo up hqo hqp _ hlength =>
    obtain ⟨hc, hout, hin⟩ := hqo.unfinished hqp hmem
    exact ⟨r, rfl, hc, hout, uo, by rw [hc], .inr ⟨y, up, rfl, hin, rfl, hlength.symm⟩⟩

/-- When the channel of the opener is over, its counterpart has asked for a reset. -/
theorem requested (h : Conversation o (some y) qo qp uo up)
    (hover : ∀ r before before', o = some r → uo = before ++ [r.channel] →
      up = before' ++ [y.channel] → before.length = before'.length → r.incoming = true) :
    y.requested = true := by
  cases h with
  | vacant _ _ _ _ hleaving _ => exact hleaving.2.1
  | opening _ _ _ _ _ _ _ hleaving _ _ _ => exact hleaving.2.1
  | both r _ _ _ uo up _ hqp _ hlength =>
    exact (hqp.ended (hover r uo up rfl rfl rfl hlength)).1

/-- The same for a channel of the other party. A channel of the opener that has no counterpart yet
    is not over. -/
theorem requested_other (h : Conversation (some r) p qo qp uo up)
    (hover : ∀ y before before', p = some y → uo = before ++ [r.channel] →
      up = before' ++ [y.channel] → before.length = before'.length → y.incoming = true)
    (hcounterpart : ∀ before, uo = before ++ [r.channel] → up.length ≠ before.length) :
    r.requested = true := by
  cases h with
  | ending _ _ _ _ hleaving _ => exact hleaving.2.1
  | opening _ _ _ _ _ uo _ _ _ _ hlength =>
    exact absurd hlength.symm (hcounterpart uo rfl)
  | both _ y _ _ uo up hqo _ _ hlength =>
    exact (hqo.ended (hover y uo up rfl rfl rfl hlength)).1

/-- Only a channel of the opener can be without a counterpart, and then it is at its end and has not
    been asked to leave. -/
theorem counterparts (h : Conversation o p qo qp uo up) : uo.length = up.length ∨
    ∃ r before, o = some r ∧ r.incoming = false ∧ uo = before ++ [r.channel] ∧
      before.length = up.length := by
  cases h with
  | vacant _ _ _ _ _ hlength => exact .inl hlength
  | ending _ _ _ _ _ hlength => exact .inl hlength
  | opening r _ _ _ _ uo _ _ htail _ hlength =>
    exact .inr ⟨r, uo, rfl, htail.incoming, rfl, hlength⟩
  | both _ _ _ _ _ _ _ _ _ hlength => exact .inl (by simpa using hlength)

/-- The terms are agreed upon, unless the other party is still leaving the round before. -/
theorem agree (h : Conversation (some r) (some y) qo qp uo up) (hy : y.incoming = false) :
    r.terms = y.terms := by
  cases h with
  | opening _ _ _ _ _ _ _ hleaving _ _ _ =>
    rw [hleaving.1] at hy
    cases hy
  | both _ _ _ _ _ _ _ _ hterms _ => exact hterms

omit [Vocabulary μ χ] in
/-- An end that is free to leave once its last answer has arrived. -/
theorem not_leaving_of_settled {y : Occupant κ χ}
    (hleaving : Leaving (some y) ([] : List (Item κ μ))) (hy : y.Settled) : False := by
  obtain ⟨hin, -, hq⟩ := hleaving
  have hout : y.outgoing = true := by
    by_contra hout
    simp [hout] at hq
  exact hy.staying ⟨hin, hout⟩

/-- With nothing under way, a party that leaves would have made the other one leave and been
    answered by it. -/
theorem stays_of_quiet {x y : Occupant κ χ} (h : Outbound x y ([] : List (Item κ μ)))
    (h' : Outbound y x ([] : List (Item κ μ))) (hx : x.Settled)
    (hxrequested : x.stage = .leaving → x.requested = true) (hy : y.Settled)
    (hyrequested : y.stage = .leaving → y.requested = true) : x.stage = .opened := by
  cases hstage : x.stage with
  | announced => exact absurd hstage hx.opened
  | opened => rfl
  | leaving =>
    -- with nothing under way, each request has reached the other party
    have hyin : y.incoming = true := by
      by_contra hin
      have hreset := h.reset.mpr ⟨hxrequested hstage, by simpa using hin⟩
      cases hreset
    have hxin : x.incoming = true := by
      by_contra hin
      have hreset := h'.reset.mpr ⟨hyrequested (hy.leaving hyin), by simpa using hin⟩
      cases hreset
    -- and each answer has come back, so this end would have been given up
    have hyout : y.outgoing = true := by
      by_contra hout
      have hresponse := h.response.mpr ⟨hxin, by simpa using hout⟩
      cases hresponse
    exact absurd ⟨hyin, hyout⟩ hy.staying

/-- With nothing under way, and nobody about to ask for a reset or to leave, the stream is free at
    both ends or in use at both ends, on the same terms. -/
theorem quiet (h : Conversation o p qo qp uo up) (hqo : qo = []) (hqp : qp = [])
    (ho : ∀ r, o = some r → r.Settled ∧ (r.stage = .leaving → r.requested = true))
    (hp : ∀ y, p = some y → y.Settled ∧ (y.stage = .leaving → y.requested = true)) :
    o = none ∧ p = none ∨
      ∃ r y, o = some r ∧ p = some y ∧ r.terms = y.terms ∧ r.stage = .opened ∧
        y.stage = .opened := by
  cases h with
  -- whoever is still there would wait for something under way
  | vacant _ _ _ _ hleaving _ =>
    subst hqo
    cases p with
    | none => exact .inl ⟨rfl, rfl⟩
    | some y => exact (not_leaving_of_settled hleaving (hp y rfl).1).elim
  | ending r _ _ _ hleaving _ =>
    subst hqp
    exact (not_leaving_of_settled hleaving (ho r rfl).1).elim
  | opening => simp at hqo
  | both r y _ _ _ _ houtbound houtbound' hterms _ =>
    subst hqo hqp
    obtain ⟨hr, hrrequested⟩ := ho r rfl
    obtain ⟨hy, hyrequested⟩ := hp y rfl
    exact .inr ⟨r, y, rfl, rfl, hterms,
      stays_of_quiet houtbound houtbound' hr hrrequested hy hyrequested,
      stays_of_quiet houtbound' houtbound hy hyrequested hr hrrequested⟩

end Conversation

end Streams
