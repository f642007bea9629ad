import RawrtcDataChannel.Streams.Pipes
import RawrtcDataChannel.Streams.Safety

/-!
# What two parties hand over

When a message is received that has a content, its content is handed over to the user of the channel
that receives it. A channel may be unattended, and then its messages are ignored.

The channels that have been at the two ends of a stream are numbered, and the ones with the same
number belong together. Each of these pairs is a pipe in either direction: what one of them sends is
handed over by the other one or by nobody.
-/

namespace Streams

variable {κ χ μ ν : Type}

/-! ## Section 1: Contents -/

section Contents

variable [DecidableEq κ] (content : μ → Option ν) (c : κ)

/-- The message, if it has been sent by this channel and has a content. -/
def Item.messageOf : Item κ μ → Option μ
  | .message c' m => if c' = c ∧ (content m).isSome then some m else none
  | .reset | .response => none

/-- The messages that a channel has sent. -/
def messagesOf (items : List (Item κ μ)) : List μ :=
  items.filterMap (Item.messageOf content c)

/-- What has been handed over by a channel. -/
def handedTo (handed : List (κ × ν)) : List ν :=
  handed.filterMap fun x => if x.1 = c then some x.2 else none

variable {content} {c}

theorem messagesOf_append (items items' : List (Item κ μ)) :
    messagesOf content c (items ++ items') =
      messagesOf content c items ++ messagesOf content c items' :=
  List.filterMap_append

theorem messagesOf_middle (i : Item κ μ) (pre post : List (Item κ μ)) :
    messagesOf content c (pre ++ i :: post) =
      messagesOf content c pre ++
        ((i.messageOf content c).toList ++ messagesOf content c post) := by
  rw [messagesOf_append]
  cases hi : i.messageOf content c <;> simp [messagesOf, hi]

theorem Item.messageOf_message {m : μ} (hm : (content m).isSome = true) :
    (Item.message c m).messageOf content c = some m := by
  simp [messageOf, hm]

theorem Item.messageOf_eq_none {c' : κ} {m : μ} (h : c' ≠ c ∨ content m = none) :
    (Item.message c' m).messageOf content c = none := by
  rcases h with h | h
  · simp [messageOf, h]
  · simp [messageOf, h]

/-- Another item is received. -/
theorem messagesOf_removed {i : Item κ μ} (hi : i.messageOf content c = none)
    (pre post : List (Item κ μ)) :
    messagesOf content c (pre ++ post) = messagesOf content c (pre ++ i :: post) := by
  rw [messagesOf_middle, hi, messagesOf_append]
  rfl

/-- Whose messages they are. -/
theorem mem_messagesOf {m : μ} {items : List (Item κ μ)} :
    m ∈ messagesOf content c items ↔ .message c m ∈ items ∧ (content m).isSome = true := by
  unfold messagesOf
  rw [List.mem_filterMap]
  constructor
  · rintro ⟨i, hi, hm⟩
    cases i with
    | message c' m' =>
      simp only [Item.messageOf] at hm
      split at hm
      · next h =>
        obtain ⟨rfl, hcontent⟩ := h
        obtain rfl := Option.some.inj hm
        exact ⟨hi, hcontent⟩
      · cases hm
    | reset | response => cases hm
  · rintro ⟨hi, hcontent⟩
    exact ⟨_, hi, by simp [Item.messageOf, hcontent]⟩

theorem messagesOf_eq_nil {items : List (Item κ μ)}
    (h : ∀ m, .message c m ∈ items → content m = none) : messagesOf content c items = [] := by
  apply List.eq_nil_iff_forall_not_mem.mpr
  intro m hm
  obtain ⟨hi, hcontent⟩ := mem_messagesOf.mp hm
  rw [h m hi] at hcontent
  cases hcontent

theorem handedTo_append (handed handed' : List (κ × ν)) :
    handedTo c (handed ++ handed') = handedTo c handed ++ handedTo c handed' :=
  List.filterMap_append

theorem mem_handedTo {x : ν} {handed : List (κ × ν)} : x ∈ handedTo c handed ↔ (c, x) ∈ handed := by
  unfold handedTo
  rw [List.mem_filterMap]
  constructor
  · rintro ⟨⟨c', x'⟩, hmem, hx⟩
    dsimp only at hx
    split at hx
    · next hc =>
      obtain rfl := Option.some.inj hx
      rwa [hc] at hmem
    · cases hx
  · intro hmem
    exact ⟨_, hmem, by simp⟩

theorem handedTo_eq_nil {handed : List (κ × ν)} (h : ∀ x, (c, x) ∉ handed) :
    handedTo c handed = [] :=
  List.eq_nil_iff_forall_not_mem.mpr fun x hx => h x (mem_handedTo.mp hx)

end Contents

/-! ## Section 2: Accounts -/

/-- A net, and what each party has handed over so far, with the channels that received it. -/
@[ext]
structure Account (κ χ μ ν : Type) where
  net : Net κ χ μ
  handed : Side → List (κ × ν)

/-- What is to be handed over when an item is received at this end. -/
def offered (content : μ → Option ν) (o : Option (Occupant κ χ)) : Item κ μ → List (κ × ν)
  | .message _ m =>
    match o, content m with
    | some r, some x => [(r.channel, x)]
    | _, _ => []
  | .reset | .response => []

/-- The channel that has been at an end as number `k`. -/
def Party.user [Vocabulary μ χ] (p : Party κ χ μ) (sid k : Nat) : Option κ :=
  (p.users sid)[k]?

namespace Account

/-- A party goes on to `p`. -/
def follow (A : Account κ χ μ ν) (e : Side) (p : Party κ χ μ) : Account κ χ μ ν where
  net := A.net.follow e p
  handed := A.handed

/-- An item reaches a party, which hands over `out`. What is still under way is `rest`. -/
def take (A : Account κ χ μ ν) (e : Side) (sid : Nat) (i : Item κ μ) (rest : List (Item κ μ))
    (out : List (κ × ν)) : Account κ χ μ ν where
  net := A.net.take e sid i rest
  handed := Function.update A.handed e (A.handed e ++ out)

/-- An item to a party gets lost. What is still under way is `rest`. -/
def lose (A : Account κ χ μ ν) (e : Side) (sid : Nat) (rest : List (Item κ μ)) :
    Account κ χ μ ν where
  net := A.net.lose e sid rest
  handed := A.handed

section Projections

variable (A : Account κ χ μ ν) (e : Side) (sid j : Nat) (p : Party κ χ μ)
  (o : Option (Occupant κ χ)) (i : Item κ μ) (items rest : List (Item κ μ)) (out : List (κ × ν))

@[simp] theorem party_follow : (A.follow e p).net.party e = p :=
  Net.party_follow _ _ _

@[simp] theorem party_follow_other : (A.follow e p).net.party e.other = A.net.party e.other :=
  Net.party_follow_other _ _ _

theorem flight_follow_put : (A.follow e ((A.net.party e).put sid o items)).net.flight e j =
    A.net.flight e j ++ if j = sid then items else [] :=
  Net.flight_follow_put _ _ _ _ _ _

@[simp] theorem flight_follow_other : (A.follow e p).net.flight e.other = A.net.flight e.other :=
  Net.flight_follow_other _ _ _

@[simp] theorem handed_follow : (A.follow e p).handed = A.handed := rfl

@[simp] theorem party_take : (A.take e sid i rest out).net.party = A.net.party := rfl

theorem flight_take : (A.take e sid i rest out).net.flight e j =
    A.net.flight e j ++ if j = sid then i.answer else [] :=
  Net.flight_take _ _ _ _ _ _

theorem flight_take_other : (A.take e sid i rest out).net.flight e.other j =
    if j = sid then rest else A.net.flight e.other j :=
  Net.flight_take_other _ _ _ _ _ _

@[simp] theorem handed_take : (A.take e sid i rest out).handed e = A.handed e ++ out :=
  Function.update_self _ _ _

@[simp] theorem handed_take_other : (A.take e sid i rest out).handed e.other = A.handed e.other :=
  Function.update_of_ne e.other_ne _ _

@[simp] theorem party_lose : (A.lose e sid rest).net.party = A.net.party := rfl

@[simp] theorem flight_lose : (A.lose e sid rest).net.flight e = A.net.flight e :=
  Net.flight_lose _ _ _ _

theorem flight_lose_other : (A.lose e sid rest).net.flight e.other j =
    if j = sid then rest else A.net.flight e.other j :=
  Net.flight_lose_other _ _ _ _ _

@[simp] theorem handed_lose : (A.lose e sid rest).handed = A.handed := rfl

end Projections

section Definitions

variable [Vocabulary μ χ]

/-- The steps of a net, with what is handed over meanwhile. For channels in `attended` nothing is
    ignored. -/
inductive Step (opener : Nat → Side) (content : μ → Option ν) (attended : Side → κ → Prop) :
    Account κ χ μ ν → Account κ χ μ ν → Prop where
  | moves (A : Account κ χ μ ν) (e : Side) (p : Party κ χ μ) :
      Party.Moves (.full opener e) (A.net.party e) p →
      Step opener content attended A (A.follow e p)
  | deliver (A : Account κ χ μ ν) (e : Side) (sid : Nat) (i : Item κ μ)
      (pre post : List (Item κ μ)) (p p' : Party κ χ μ) (out : List (κ × ν)) :
      A.net.flight e.other sid = pre ++ i :: post → (∀ i' ∈ pre, i.Overtakes i') →
      Party.Reacts sid i (A.net.party e) p → Party.Moves (.full opener e) p p' →
      out = [] ∨ out = offered content ((A.net.party e).streams sid) i →
      (∀ r, (A.net.party e).streams sid = some r → attended e r.channel →
        out = offered content (some r) i) →
      Step opener content attended A ((A.take e sid i (pre ++ post) out).follow e p')
  | lose (A : Account κ χ μ ν) (e : Side) (sid : Nat) (c : κ) (m : μ) (pre post : List (Item κ μ)) :
      A.net.flight e.other sid = pre ++ .message c m :: post → Vocabulary.lossy m = true →
      Step opener content attended A (A.lose e sid (pre ++ post))

variable [DecidableEq κ] (content : μ → Option ν) (attended : Side → κ → Prop)
  (A : Account κ χ μ ν) (e : Side) (sid k : Nat)

/-- What channel number `k` at an end has sent. -/
def sentIn : List μ :=
  ((A.net.party e).user sid k).elim [] fun c =>
    messagesOf content c ((A.net.party e).sent.map Prod.snd)

/-- What of it is under way. -/
def underwayIn : List μ :=
  ((A.net.party e).user sid k).elim [] fun c => messagesOf content c (A.net.flight e sid)

/-- What it has handed over. -/
def handedIn : List ν :=
  ((A.net.party e).user sid k).elim [] fun c => handedTo c (A.handed e)

/-- A message to it may get lost or be ignored. -/
def Droppable (m : μ) : Prop :=
  Vocabulary.lossy m = true ∨ ∃ c, (A.net.party e).user sid k = some c ∧ ¬ attended e c

/-- What one channel sends and the other one hands over makes up a pipe. -/
def Piped : Prop :=
  ∃ handed, A.handedIn e sid k = handed.filterMap content ∧
    Pipe.Reached Vocabulary.unordered (A.Droppable attended e sid k)
      ⟨A.sentIn content e.other sid k, handed, A.underwayIn content e.other sid k⟩

/-- Each channel is at one end once, whatever is there to be received or handed over is of such
    channels, and all pairs are pipes. -/
structure Balanced : Prop where
  once : ∀ ⦃e sid k sid' k' c⦄, (A.net.party e).user sid k = some c →
    (A.net.party e).user sid' k' = some c → sid' = sid ∧ k' = k
  sent : ∀ ⦃e sid c m⦄, (sid, .message c m) ∈ (A.net.party e).sent → c ∈ (A.net.party e).users sid
  flight : ∀ ⦃e sid c m⦄, .message c m ∈ A.net.flight e sid → c ∈ (A.net.party e).users sid
  handed : ∀ ⦃e c x⦄, (c, x) ∈ A.handed e → ∃ sid, c ∈ (A.net.party e).users sid
  piped : ∀ e sid k, A.Piped content attended e sid k

end Definitions

end Account

end Streams
