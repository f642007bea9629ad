import RawrtcDataChannel.Streams.Safety

/-!
# How much is left to be received

A stream comes to rest once nobody opens it or sends messages on it: what is received then leads to
answers, greetings and requests for resets only, and not for long. To see this, everything is given
the number of items that may still be received because of it. No move of a quiet party makes the sum
larger, and with each item that is received it gets smaller.
-/

namespace Streams

variable {κ χ μ : Type}

/-! ## Section 1: Efforts -/

/-- The number of items that may be received because of an end: a request for a reset that has not
    been sent yet, and the answer to it. Sending it counts, too. -/
def Occupant.effort (r : Occupant κ χ) : Nat :=
  if r.requested then 0 else 3

section Definitions

variable [Vocabulary μ χ]

/-- The number of items that may be received because of an item that is under way. Whoever accepts
    a proposal sends a greeting, and a request later. -/
def Item.effort : Item κ μ → Nat
  | .message _ m => if (Vocabulary.proposal m).isSome then 5 else 1
  | .reset => 2
  | .response => 1

/-- The effort of some items. -/
def effort : List (Item κ μ) → Nat
  | [] => 0
  | i :: items => i.effort + effort items

namespace Net

/-- The effort of a party on a stream. -/
def effortOf (N : Net κ χ μ) (e : Side) (sid : Nat) : Nat :=
  ((N.party e).streams sid).elim 0 Occupant.effort + effort (N.flight e sid)

/-- The effort on a stream. -/
def effort (N : Net κ χ μ) (sid : Nat) : Nat :=
  N.effortOf .client sid + N.effortOf .server sid

end Net

end Definitions

section Lemmas

variable [Vocabulary μ χ] {N : Net κ χ μ} {e : Side} {sid j : Nat} {p : Party κ χ μ}

@[simp] theorem effort_nil : effort ([] : List (Item κ μ)) = 0 := rfl

@[simp] theorem effort_cons (i : Item κ μ) (items : List (Item κ μ)) :
    effort (i :: items) = i.effort + effort items := rfl

@[simp] theorem effort_append (items items' : List (Item κ μ)) :
    effort (items ++ items') = effort items + effort items' := by
  induction items with
  | nil => simp
  | cons i items ih =>
    rw [List.cons_append, effort_cons, effort_cons, ih]
    omega

/-- Each item accounts for five items at most. -/
theorem effort_le (items : List (Item κ μ)) : effort items ≤ 5 * items.length := by
  induction items with
  | nil => exact Nat.zero_le _
  | cons i items ih =>
    have hi : i.effort ≤ 5 := by
      cases i with
      | message c m =>
        by_cases hm : (Vocabulary.proposal m).isSome = true <;> simp [Item.effort, hm]
      | reset | response => simp [Item.effort]
    rw [effort_cons, List.length_cons]
    omega

omit [Vocabulary μ χ] in
theorem Occupant.effort_le (o : Option (Occupant κ χ)) : o.elim 0 Occupant.effort ≤ 3 := by
  cases o with
  | none => exact Nat.zero_le _
  | some r =>
    change r.effort ≤ 3
    unfold Occupant.effort
    split <;> omega

namespace Net

theorem effort_eq (N : Net κ χ μ) (e : Side) (sid : Nat) :
    N.effort sid = N.effortOf e sid + N.effortOf e.other sid := by
  cases e with
  | client => rfl
  | server => exact Nat.add_comm _ _

/-- The effort is bounded by what is under way. -/
theorem effort_le (N : Net κ χ μ) (sid : Nat) :
    N.effort sid ≤ 5 * (N.flight .client sid).length + 5 * (N.flight .server sid).length + 6 := by
  have hclient := Occupant.effort_le ((N.party .client).streams sid)
  have hserver := Occupant.effort_le ((N.party .server).streams sid)
  have hclient' := Streams.effort_le (N.flight .client sid)
  have hserver' := Streams.effort_le (N.flight .server sid)
  unfold effort effortOf
  omega

/-- The effort when an end has changed and items have been sent. -/
theorem effortOf_put (N : Net κ χ μ) (e : Side) (sid j : Nat) (o : Option (Occupant κ χ))
    (items : List (Item κ μ)) :
    (N.follow e ((N.party e).put sid o items)).effortOf e j = if j = sid then
      o.elim 0 Occupant.effort + (Streams.effort (N.flight e sid) + Streams.effort items)
      else N.effortOf e j := by
  unfold effortOf
  rw [flight_follow_put, party_follow]
  split
  · next hj =>
    rw [hj, Party.streams_put_self, effort_append]
  · next hj =>
    rw [Party.streams_put_of_ne _ hj, List.append_nil]

theorem effortOf_follow_other (N : Net κ χ μ) (e : Side) (p : Party κ χ μ) (j : Nat) :
    (N.follow e p).effortOf e.other j = N.effortOf e.other j := by
  rw [effortOf, flight_follow_other, party_follow_other]
  rfl

/-! ## Section 2: What parties do -/

/-- Only the end that changes has to be looked at. -/
theorem effort_put_le {o : Option (Occupant κ χ)} {items : List (Item κ μ)}
    (h : o.elim 0 Occupant.effort + Streams.effort items ≤
      ((N.party e).streams sid).elim 0 Occupant.effort) (j : Nat) :
    (N.follow e ((N.party e).put sid o items)).effort j ≤ N.effort j := by
  rw [effort_eq _ e, effort_eq N e, effortOf_put, effortOf_follow_other]
  by_cases hj : j = sid
  · subst hj
    simp only [if_true, effortOf]
    omega
  · apply Nat.le_of_eq
    rw [if_neg hj]

/-- Nothing a quiet party does makes the effort larger. -/
theorem effort_move (hmove : Party.Move .quiet (N.party e) p) (j : Nat) :
    (N.follow e p).effort j ≤ N.effort j := by
  cases hmove with
  | act hact =>
    cases hact with
    | propose sid c terms m hopens => exact hopens.elim
    | send sid r m hspeaks => exact hspeaks.elim
    | leave sid r _ hr _ =>
      apply effort_put_le
      rw [hr]
      exact Nat.le_refl _
    | request sid r hr _ hrequested =>
      -- the end has been charged for the request before it is sent
      apply effort_put_le
      rw [hr]
      simp [Occupant.effort, Item.effort, hrequested]
  | «open» sid r hr _ =>
    apply effort_put_le
    rw [hr]
    exact Nat.le_refl _
  | vacate sid r hr _ _ => exact effort_put_le (Nat.zero_le _) j

theorem effort_moves (hmoves : Party.Moves .quiet (N.party e) p) (j : Nat) :
    (N.follow e p).effort j ≤ N.effort j := by
  induction hmoves with
  | refl =>
    apply Nat.le_of_eq
    rw [follow_self]
  | tail hmoves hmove ih =>
    rw [← follow_follow N e (Party.Moves.sent hmoves)
      (Party.Moves.sent (Relation.ReflTransGen.single hmove))]
    refine Nat.le_trans (effort_move ?_ j) ih
    rw [party_follow]
    exact hmove

/-- What reaches a party makes the effort smaller. -/
theorem effort_reacts {i : Item κ μ} {pre post : List (Item κ μ)}
    (hflight : N.flight e.other sid = pre ++ i :: post)
    (hreacts : Party.Reacts sid i (N.party e) p) (j : Nat) :
    ((N.take e sid i (pre ++ post)).follow e p).effort j + (if j = sid then 1 else 0) ≤
      N.effort j := by
  -- only the end at which something is received has to be looked at
  have hput : ∀ {o : Option (Occupant κ χ)} {items : List (Item κ μ)},
      p = (N.party e).put sid o items →
      o.elim 0 Occupant.effort + Streams.effort i.answer + Streams.effort items + 1 ≤
        ((N.party e).streams sid).elim 0 Occupant.effort + i.effort →
      ((N.take e sid i (pre ++ post)).follow e p).effort j + (if j = sid then 1 else 0) ≤
        N.effort j := by
    intro o items hp hle
    have hother : (N.take e sid i (pre ++ post)).effortOf e.other j =
        ((N.party e.other).streams j).elim 0 Occupant.effort +
          Streams.effort (if j = sid then pre ++ post else N.flight e.other j) := by
      rw [effortOf, flight_take_other]
      rfl
    have hself := effortOf_put (N.take e sid i (pre ++ post)) e sid j o items
    rw [party_take, ← hp, flight_take, if_pos rfl, effort_append] at hself
    rw [effort_eq _ e, effort_eq N e, effortOf_follow_other, hself, hother]
    by_cases hj : j = sid
    · subst hj
      simp only [if_true, effortOf, hflight, effort_append, effort_cons]
      omega
    · simp only [if_neg hj, effortOf, flight_take, List.append_nil, party_take]
      omega
  cases hreacts with
  | accept _ c c' m m' terms unordered hfree _ hm hm' _ =>
    -- a greeting, and the request and its answer that the new channel makes later
    apply hput rfl
    rw [hfree]
    simp [Occupant.effort, Item.effort, Item.answer, hm, hm']
  | hear _ r c' m hr hm =>
    apply hput rfl
    rw [hr]
    simp [Occupant.effort, Item.effort, Item.answer, hm]
  | asked _ r hr =>
    apply hput rfl
    rw [hr]
    simp [Occupant.effort, Item.effort, Item.answer]
  | answered _ r hr =>
    apply hput rfl
    rw [hr]
    simp [Occupant.effort, Item.effort, Item.answer]

/-- So does what gets lost. -/
theorem effort_lose {i : Item κ μ} {pre post : List (Item κ μ)}
    (hflight : N.flight e.other sid = pre ++ i :: post) (j : Nat) :
    (N.lose e sid (pre ++ post)).effort j ≤ N.effort j := by
  simp only [effort_eq _ e, effortOf, flight_lose, flight_lose_other, party_lose]
  by_cases hj : j = sid
  · subst hj
    simp only [if_true, hflight, effort_append, effort_cons]
    omega
  · apply Nat.le_of_eq
    rw [if_neg hj]

end Net

end Lemmas

end Streams
