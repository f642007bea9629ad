import Mathlib.Data.List.Nodup
import RawrtcDataChannel.Streams.Accounts

/-!
# Accounts are balanced

Each step of a net is about one item or about one end of one stream, so it puts messages into the
pipes of one channel, takes one message out of a pipe, or changes no pipe at all. Hence all pairs of
channels stay pipes, and what holds of pipes holds of what the parties hand over.
-/

namespace Streams

variable {κ χ μ ν : Type}

/-! ## Section 1: Who says what -/

section Says

variable [Vocabulary μ χ] {opener : Nat → Side} {N : Net κ χ μ} {e : Side} {sid j k : Nat}
  {p p' : Party κ χ μ} {r y : Occupant κ χ} {c : κ} {items : List (Item κ μ)}
  {o : Option (Occupant κ χ)}

theorem Party.mem_users : c ∈ p.users sid ↔ ∃ k, p.user sid k = some c :=
  List.mem_iff_getElem?

theorem Party.user_lt (h : p.user sid k = some c) : k < (p.users sid).length :=
  (List.getElem?_eq_some_iff.mp h).1

/-- The number of the last channel. -/
theorem Party.user_concat {before : List κ} (h : p.users sid = before ++ [c]) :
    p.user sid before.length = some c := by
  rw [user, h]
  simp

/-- A channel that is over has a counterpart. -/
theorem Net.Inv.counterpart (h : N.Inv opener) (hc : (N.party e).user sid k = some c)
    (hasked : (N.party e).Asked sid c) : ∃ c', (N.party e.other).user sid k = some c' := by
  have hlt : k < ((N.party e.other).users sid).length := by
    have hk := Party.user_lt hc
    rcases h.counterparts e sid with hle | ⟨r, before, hr, hin, husers, hlength⟩
    · omega
    · by_contra hnobody
      -- without a counterpart it would be the last one, which has not been asked to leave
      have hlast : k = before.length := by
        rw [husers, List.length_append, List.length_singleton] at hk
        omega
      rw [hlast, Party.user_concat husers] at hc
      rw [hasked hr (Option.some.inj hc)] at hin
      cases hin
  exact ⟨_, List.getElem?_eq_getElem hlt⟩

/-- What is sent in one go: a new channel introduces itself, or one of this end says something. -/
structure Party.Says (p : Party κ χ μ) (sid : Nat) (items : List (Item κ μ)) : Prop where
  nodup : (items.filterMap Item.greeter).Nodup
  fresh : ∀ c ∈ items.filterMap Item.greeter, ∀ j, c ∉ p.users j
  users : ∀ c m, .message c m ∈ items → Vocabulary.greets m = false → c ∈ p.users sid

theorem Party.says_nil : p.Says sid [] :=
  ⟨List.nodup_nil, by simp, by simp⟩

theorem Party.says_reset : p.Says sid [.reset] :=
  ⟨by simp [List.filterMap, Item.greeter], by simp [List.filterMap, Item.greeter], by simp⟩

theorem Party.says_greeting {m : μ} (hm : Vocabulary.greets m = true) (hc : ∀ j, c ∉ p.users j) :
    p.Says sid [.message c m] := by
  refine ⟨by simp [Item.greeter, hm], by simpa [Item.greeter, hm] using hc, ?_⟩
  intro c' m' hi hm'
  cases List.mem_singleton.mp hi
  rw [hm] at hm'
  cases hm'

theorem Party.says_message {m : μ} (hm : Vocabulary.greets m = false) (hc : c ∈ p.users sid) :
    p.Says sid [.message c m] := by
  refine ⟨by simp [Item.greeter, hm], by simp [Item.greeter, hm], ?_⟩
  intro c' m' hi _
  cases List.mem_singleton.mp hi
  exact hc

/-- Who says something is at the end, or it is there now. -/
theorem Party.Says.mem_users_put (h : p.Says sid items) {m : μ} (hm : .message c m ∈ items) :
    c ∈ (p.put sid o items).users sid := by
  rw [Party.users_put, if_pos rfl, List.mem_append]
  by_cases hgreets : Vocabulary.greets m = true
  · exact .inr (List.mem_filterMap.mpr ⟨_, hm, by simp [Item.greeter, hgreets]⟩)
  · exact .inl (h.users c m hm (by simpa using hgreets))

/-- Who may still speak has introduced itself. -/
theorem Conversation.speaker {p : Option (Occupant κ χ)} {qo qp : List (Item κ μ)} {uo up : List κ}
    (h : Conversation (some r) p qo qp uo up) (hr : r.requested = false) : r.channel ∈ uo := by
  cases h with
  | ending _ _ _ _ hleaving _ =>
    have hrequested : r.requested = true := hleaving.2.1
    rw [hr] at hrequested
    cases hrequested
  | opening | both => simp

theorem Conversation.speaker_other {o : Option (Occupant κ χ)} {qo qp : List (Item κ μ)}
    {uo up : List κ} (h : Conversation o (some y) qo qp uo up) (hy : y.requested = false) :
    y.channel ∈ up := by
  have hnot : ∀ {q : List (Item κ μ)}, ¬ Leaving (some y) q := by
    intro q hleaving
    have hrequested : y.requested = true := hleaving.2.1
    rw [hy] at hrequested
    cases hrequested
  cases h with
  | vacant _ _ _ _ hleaving _ => exact absurd hleaving hnot
  | opening _ _ _ _ _ _ _ hleaving _ _ _ => exact absurd hleaving hnot
  | both => simp

theorem Net.Inv.speaker (h : N.Inv opener) (hr : (N.party e).streams sid = some r)
    (hrequested : r.requested = false) : r.channel ∈ (N.party e).users sid := by
  rcases e.eq_or_eq_other (opener sid) with he | he
  · have hconv := (Net.converses_iff he).mp (h sid)
    rw [hr] at hconv
    exact hconv.speaker hrequested
  · have hconv := (Net.converses_iff_other he).mp (h sid)
    rw [hr] at hconv
    exact hconv.speaker_other hrequested

/-- What is sent in a move. -/
theorem Net.Inv.move_speaks (h : N.Inv opener) (hmove : Party.Move (.full opener e) (N.party e) p) :
    ∃ sid o items, p = (N.party e).put sid o items ∧ (N.party e).Says sid items := by
  cases hmove with
  | act hact =>
    cases hact with
    | propose sid c terms m _ _ hfresh hm =>
      have hgreets := Vocabulary.greets_of_proposal m (by simp [hm])
      exact ⟨_, _, _, rfl, Party.says_greeting hgreets hfresh⟩
    | send sid r m _ hr hrequested hgreets _ =>
      exact ⟨_, _, _, rfl, Party.says_message hgreets (h.speaker hr hrequested)⟩
    | leave => exact ⟨_, _, _, rfl, Party.says_nil⟩
    | request => exact ⟨_, _, _, rfl, Party.says_reset⟩
  | «open» => exact ⟨_, _, _, rfl, Party.says_nil⟩
  | vacate => exact ⟨_, _, _, rfl, Party.says_nil⟩

/-- What is sent in a reaction. -/
theorem Party.Reacts.speaks {i : Item κ μ} (h : Party.Reacts sid i p p') :
    ∃ o items, p' = p.put sid o items ∧ p.Says sid items := by
  cases h with
  | accept _ _ _ _ _ _ _ _ hfresh _ _ hgreets =>
    exact ⟨_, _, rfl, Party.says_greeting hgreets hfresh⟩
  | hear => exact ⟨_, _, rfl, Party.says_nil⟩
  | asked => exact ⟨_, _, rfl, Party.says_nil⟩
  | answered => exact ⟨_, _, rfl, Party.says_nil⟩

/-- Who was at an end before is still counted in the same way, and the others are new. -/
theorem Party.user_put_cases (h : (p.put sid o items).user j k = some c) :
    p.user j k = some c ∨ j = sid ∧ p.user j k = none ∧ c ∈ items.filterMap Item.greeter ∧
      (items.filterMap Item.greeter)[k - (p.users j).length]? = some c := by
  rw [Party.user, Party.users_put, List.getElem?_append] at h
  split at h
  · exact .inl h
  · next hk =>
    split at h
    · next hj =>
      refine .inr ⟨hj, List.getElem?_eq_none (Nat.not_lt.mp hk), List.mem_of_getElem? h, h⟩
    · cases h

theorem Party.user_put (h : p.user j k = some c) : (p.put sid o items).user j k = some c := by
  have hk : k < (p.users j).length := (List.getElem?_eq_some_iff.mp h).1
  rw [Party.user, Party.users_put, List.getElem?_append_left hk]
  exact h

/-- Those who were at an end before have got more, and those who have introduced themselves have
    nothing yet. -/
theorem Party.elim_user_put {α : Type} {f f' g : κ → List α}
    (hold : ∀ c, p.user j k = some c → f' c = f c ++ g c)
    (hnew : ∀ c ∈ items.filterMap Item.greeter, f' c = []) :
    ((p.put sid o items).user j k).elim [] f' =
      (p.user j k).elim [] f ++ (p.user j k).elim [] g := by
  cases hafter : (p.put sid o items).user j k with
  | none =>
    cases hbefore : p.user j k with
    | none => rfl
    | some c =>
      rw [Party.user_put hbefore] at hafter
      cases hafter
  | some c =>
    rcases Party.user_put_cases hafter with hbefore | ⟨-, hbefore, hc, -⟩
    · rw [hbefore]
      exact hold c hbefore
    · rw [hbefore]
      exact hnew c hc

end Says

/-! ## Section 2: What keeps an account balanced -/

namespace Account

section Steps

variable [Vocabulary μ χ] [DecidableEq κ] {opener : Nat → Side} {content : μ → Option ν}
  {attended : Side → κ → Prop} {A A' : Account κ χ μ ν} {e : Side} {sid j k : Nat} {c : κ}
  {items : List (Item κ μ)} {o : Option (Occupant κ χ)}

/-- Messages are put into a pipe. -/
theorem Piped.sends (h : A.Piped content attended e j k) (ms : List μ)
    (hsent : A'.sentIn content e.other j k = A.sentIn content e.other j k ++ ms)
    (hunderway : A'.underwayIn content e.other j k = A.underwayIn content e.other j k ++ ms)
    (hhanded : A'.handedIn e j k = A.handedIn e j k)
    (huser : ∀ c, (A.net.party e).user j k = some c → (A'.net.party e).user j k = some c) :
    A'.Piped content attended e j k := by
  obtain ⟨handed, hh, hp⟩ := h
  refine ⟨handed, hhanded.trans hh, ?_⟩
  rw [hsent, hunderway]
  apply (hp.sends ms).mono
  rintro m (hm | ⟨c, hc, hignored⟩)
  · exact .inl hm
  · exact .inr ⟨c, huser c hc, hignored⟩

/-- A channel is at one end only. -/
theorem Balanced.end_eq (h : A.Balanced content attended)
    (hc : (A.net.party e).user j k = some c) (hmem : c ∈ (A.net.party e).users sid) : j = sid := by
  obtain ⟨k', hk'⟩ := Party.mem_users.mp hmem
  exact (h.once hk' hc).1

section Put

variable (hcontent : ∀ m, Vocabulary.greets m = true → content m = none)
  (h : A.Balanced content attended) (hsaid : (A.net.party e).Says sid items)
include hcontent hsaid

omit [DecidableEq κ] in
/-- Only those who are at the end say something that has a content. -/
theorem users_of_said {m : μ} (hm : .message c m ∈ items) (hsome : content m ≠ none) :
    c ∈ (A.net.party e).users sid := by
  apply hsaid.users c m hm
  by_contra hgreets
  exact hsome (hcontent m (by simpa using hgreets))

/-- A channel that is not at the end has nothing to do with what is said there. -/
theorem messagesOf_said (hc : c ∉ (A.net.party e).users sid) : messagesOf content c items = [] := by
  apply messagesOf_eq_nil
  intro m hm
  by_contra hsome
  exact hc (users_of_said hcontent hsaid hm hsome)

include h

theorem sentIn_put : (A.follow e ((A.net.party e).put sid o items)).sentIn content e j k =
    A.sentIn content e j k ++
      ((A.net.party e).user j k).elim [] fun c => messagesOf content c items := by
  unfold sentIn
  rw [party_follow]
  have hall : ∀ c, messagesOf content c (((A.net.party e).put sid o items).sent.map Prod.snd) =
      messagesOf content c ((A.net.party e).sent.map Prod.snd) ++ messagesOf content c items := by
    intro c
    rw [← messagesOf_append]
    simp [Party.put, Function.comp_def]
  apply Party.elim_user_put
  · exact fun c _ => hall c
  · -- the channel has just introduced itself
    intro c hc
    have hfresh := hsaid.fresh c hc
    rw [hall, messagesOf_said hcontent hsaid (hfresh sid), List.append_nil]
    apply messagesOf_eq_nil
    intro m hm
    obtain ⟨⟨sid', _⟩, hmem, rfl⟩ := List.mem_map.mp hm
    exact absurd (h.sent hmem) (hfresh sid')

theorem underwayIn_put : (A.follow e ((A.net.party e).put sid o items)).underwayIn content e j k =
    A.underwayIn content e j k ++
      ((A.net.party e).user j k).elim [] fun c => messagesOf content c items := by
  unfold underwayIn
  rw [party_follow, flight_follow_put]
  apply Party.elim_user_put
  · intro c hc
    rw [messagesOf_append]
    split
    · rfl
    · next hj =>
      -- what is said is not said on this stream
      have hsilent : c ∉ (A.net.party e).users sid := fun hmem => hj (h.end_eq hc hmem)
      rw [messagesOf_said hcontent hsaid hsilent]
      rfl
  · intro c hc
    have hfresh := hsaid.fresh c hc
    rw [messagesOf_append, messagesOf_eq_nil fun m hm => absurd (h.flight hm) (hfresh j)]
    split
    · exact messagesOf_said hcontent hsaid (hfresh sid)
    · rfl

omit hcontent in
theorem handedIn_put : (A.follow e ((A.net.party e).put sid o items)).handedIn e j k =
    A.handedIn e j k := by
  unfold handedIn
  rw [party_follow]
  have helim : ((A.net.party e).user j k).elim [] (fun c => handedTo c (A.handed e)) =
      ((A.net.party e).user j k).elim [] (fun c => handedTo c (A.handed e)) ++
        ((A.net.party e).user j k).elim [] fun _ => [] := by
    cases (A.net.party e).user j k <;> simp
  rw [helim]
  apply Party.elim_user_put
  · exact fun c _ => (List.append_nil _).symm
  · intro c hc
    apply handedTo_eq_nil
    intro x hx
    obtain ⟨sid', hmem⟩ := h.handed hx
    exact hsaid.fresh c hc sid' hmem

/-- Something is said at an end. -/
theorem Balanced.put :
    (A.follow e ((A.net.party e).put sid o items)).Balanced content attended where
  once e' j k j' k' c hc hc' := by
    rcases e.eq_or_eq_other e' with rfl | rfl
    · rw [party_follow] at hc hc'
      -- whoever introduces itself here was not known before
      have hnever : ∀ {j k}, c ∈ items.filterMap Item.greeter →
        (A.net.party e').user j k ≠ some c :=
        fun hnew hold => hsaid.fresh c hnew _ (Party.mem_users.mpr ⟨_, hold⟩)
      rcases Party.user_put_cases hc with hold | ⟨rfl, hnone, hnew, hk⟩
      · rcases Party.user_put_cases hc' with hold' | ⟨-, -, hnew, -⟩
        · exact h.once hold hold'
        · exact absurd hold (hnever hnew)
      · rcases Party.user_put_cases hc' with hold' | ⟨rfl, hnone', -, hk'⟩
        · exact absurd hold' (hnever hnew)
        · -- it has introduced itself only once
          have hlength := List.getElem?_eq_none_iff.mp hnone
          have hlength' := List.getElem?_eq_none_iff.mp hnone'
          have hlt := (List.getElem?_eq_some_iff.mp hk).1
          have hsame := (List.getElem?_inj hlt hsaid.nodup).mp (hk.trans hk'.symm)
          exact ⟨rfl, by omega⟩
    · rw [party_follow_other] at hc hc'
      exact h.once hc hc'
  sent e' j c m hm := by
    rcases e.eq_or_eq_other e' with rfl | rfl
    · rw [party_follow] at hm ⊢
      rcases List.mem_append.mp hm with hold | hnew
      · rw [Party.users_put]
        exact List.mem_append_left _ (h.sent hold)
      · -- what has just been said was said by whoever has the end
        obtain ⟨i, hi, heq⟩ := List.mem_map.mp hnew
        cases heq
        exact hsaid.mem_users_put hi
    · rw [party_follow_other] at hm ⊢
      exact h.sent hm
  flight e' j c m hm := by
    rcases e.eq_or_eq_other e' with rfl | rfl
    · rw [flight_follow_put, List.mem_append] at hm
      rw [party_follow]
      rcases hm with hold | hnew
      · rw [Party.users_put]
        exact List.mem_append_left _ (h.flight hold)
      · split at hnew
        · next hj =>
          subst hj
          exact hsaid.mem_users_put hnew
        · cases hnew
    · rw [flight_follow_other] at hm
      rw [party_follow_other]
      exact h.flight hm
  handed e' c x hx := by
    obtain ⟨j, hj⟩ := h.handed hx
    refine ⟨j, ?_⟩
    rcases e.eq_or_eq_other e' with rfl | rfl
    · rw [party_follow, Party.users_put]
      exact List.mem_append_left _ hj
    · rwa [party_follow_other]
  piped e' j k := by
    rcases e.eq_or_eq_other e' with rfl | rfl
    · -- the other party has not said anything
      apply (h.piped e' j k).sends []
      · rw [List.append_nil, sentIn, sentIn, party_follow_other]
      · rw [List.append_nil, underwayIn, underwayIn, party_follow_other,
          flight_follow_other]
      · exact handedIn_put h hsaid
      · intro c hc
        rw [party_follow]
        exact Party.user_put hc
    · apply (h.piped e.other j k).sends
        (((A.net.party e).user j k).elim [] fun c => messagesOf content c items)
      · rw [Side.other_other]
        exact sentIn_put hcontent h hsaid
      · rw [Side.other_other]
        exact underwayIn_put hcontent h hsaid
      · rw [handedIn, handedIn, party_follow_other, handed_follow]
      · intro c hc
        rw [party_follow_other]
        exact hc

end Put

/-- Nothing is said, but something may be received. -/
theorem Balanced.moves (hcontent : ∀ m, Vocabulary.greets m = true → content m = none)
    (h : A.Balanced content attended) (hnet : A.net.Inv opener) {p : Party κ χ μ}
    (hmoves : Party.Moves (.full opener e) (A.net.party e) p) :
    (A.follow e p).Balanced content attended := by
  induction hmoves with
  | refl =>
    rw [follow, Net.follow_self]
    exact h
  | @tail p₁ p₂ hmoves hmove ih =>
    have hnet' := hnet.moves hmoves
    have hsingle := Relation.ReflTransGen.single hmove
    rw [follow, ← Net.follow_follow A.net e (Party.Moves.sent hmoves) (Party.Moves.sent hsingle)]
    have hmove' : Party.Move (.full opener e) ((A.net.follow e p₁).party e) p₂ := by
      rw [Net.party_follow]
      exact hmove
    obtain ⟨sid, o, items, hp, hsaid⟩ := hnet'.move_speaks hmove'
    rw [hp]
    exact ih.put hcontent hsaid

/-- Nothing happens to a pipe. -/
theorem Piped.congr (h : A.Piped content attended e j k) (hparty : A'.net.party = A.net.party)
    (hunderway : A'.underwayIn content e.other j k = A.underwayIn content e.other j k)
    (hhanded : A'.handedIn e j k = A.handedIn e j k) : A'.Piped content attended e j k := by
  apply h.sends []
  · rw [List.append_nil, sentIn, sentIn, hparty]
  · rw [List.append_nil, hunderway]
  · exact hhanded
  · intro c hc
    rw [hparty]
    exact hc

section Take

variable {i : Item κ μ} {m : μ} {x : ν} {pre post : List (Item κ μ)}

omit [DecidableEq κ] in
/-- A message with a content is received by the channel of the same number as the one that sent
    it. -/
theorem receiver_of_content (hcontent : ∀ m, Vocabulary.greets m = true → content m = none)
    (hnet : A.net.Inv opener) (hflight : A.net.flight e.other sid = pre ++ .message c m :: post)
    (hpre : ∀ i' ∈ pre, (Item.message c m).Overtakes i') (hm : content m = some x) :
    ∃ r k, (A.net.party e).streams sid = some r ∧
      (A.net.party e).user sid k = some r.channel ∧ (A.net.party e.other).user sid k = some c := by
  have hproposal : Vocabulary.proposal m = none := by
    apply Net.proposal_of_not_greets
    by_contra hgreets
    rw [hcontent m (by simpa using hgreets)] at hm
    cases hm
  obtain ⟨r, y, hr, -, htogether⟩ := hnet.hears hflight hpre hproposal
  obtain ⟨before, before', husers, husers', hlength⟩ := htogether.rounds
  refine ⟨r, before.length, hr, ?_, ?_⟩
  · rw [Party.user, husers]
    simp
  · rw [Party.user, husers', hlength, htogether.sent]
    simp

/-- What is under way on a pipe to which an item has not belonged. -/
theorem underwayIn_removed (hparty : A'.net.party = A.net.party)
    (hflight : A.net.flight e sid = pre ++ i :: post)
    (hrest : ∀ j, A'.net.flight e j = if j = sid then pre ++ post else A.net.flight e j)
    (hi : j = sid → ∀ c, (A.net.party e).user j k = some c → i.messageOf content c = none) :
    A'.underwayIn content e j k = A.underwayIn content e j k := by
  unfold underwayIn
  rw [hparty, hrest]
  cases hc : (A.net.party e).user j k with
  | none => rfl
  | some c =>
    rw [Option.elim_some, Option.elim_some]
    split
    · next hj =>
      subst hj
      rw [hflight]
      exact messagesOf_removed (hi rfl c hc) pre post
    · rfl

/-- What is under way on the pipe to which a message has belonged. -/
theorem underwayIn_message (hparty : A'.net.party = A.net.party)
    (hflight : A.net.flight e sid = pre ++ .message c m :: post)
    (hrest : ∀ j, A'.net.flight e j = if j = sid then pre ++ post else A.net.flight e j)
    (hc : (A.net.party e).user sid k = some c) (hm : (content m).isSome = true) :
    A.underwayIn content e sid k =
        messagesOf content c pre ++ m :: messagesOf content c post ∧
      A'.underwayIn content e sid k =
        messagesOf content c pre ++ messagesOf content c post := by
  unfold underwayIn
  rw [hparty, hrest, if_pos rfl, hflight, hc]
  constructor
  · rw [Option.elim_some, messagesOf_middle, Item.messageOf_message hm]
    rfl
  · rw [Option.elim_some, messagesOf_append]

omit [DecidableEq κ] in
/-- What comes back on its own has no content, and it is not from a channel. -/
theorem not_mem_answer {i : Item κ μ} : .message c m ∉ i.answer := by
  cases i <;> simp [Item.answer]

/-- What has been removed from a pipe has been handed over or dropped. -/
theorem Piped.removes (h : A.Piped content attended e j k) (hparty : A'.net.party = A.net.party)
    {pre post : List μ}
    (hbefore : A.underwayIn content e.other j k = pre ++ m :: post)
    (hafter : A'.underwayIn content e.other j k = pre ++ post)
    (hremoved : (∀ m' ∈ pre, Vocabulary.unordered m = true ∨ Vocabulary.unordered m' = true) ∧
        A'.handedIn e j k = A.handedIn e j k ++ (content m).toList ∨
      A.Droppable attended e j k m ∧ A'.handedIn e j k = A.handedIn e j k) :
    A'.Piped content attended e j k := by
  obtain ⟨handed, hh, hp⟩ := h
  have hsent : A'.sentIn content e.other j k = A.sentIn content e.other j k := by
    rw [sentIn, sentIn, hparty]
  have hdroppable : A'.Droppable attended e j k = A.Droppable attended e j k := by
    funext m
    rw [Droppable, Droppable, hparty]
  rw [hbefore] at hp
  rw [Piped, hsent, hdroppable, hafter]
  rcases hremoved with ⟨hovertakes, hhanded⟩ | ⟨hdrop, hhanded⟩
  · refine ⟨handed ++ [m], ?_, hp.step (.hand m _ handed pre post hovertakes)⟩
    rw [hhanded, hh, List.filterMap_append]
    cases hm : content m <;> simp [hm]
  · exact ⟨handed, hhanded.trans hh, hp.step (.drop m _ handed pre post hdrop)⟩

omit [Vocabulary μ χ] in
/-- Either there is something to hand over, or the item is of no interest. -/
theorem content_cases (content : μ → Option ν) (i : Item κ μ) :
    (∃ c m x, i = .message c m ∧ content m = some x) ∨ (∀ c, i.messageOf content c = none) ∧
      ∀ o : Option (Occupant κ χ), offered content o i = [] := by
  cases i with
  | message c m =>
    cases hm : content m with
    | none =>
      refine .inr ⟨fun c' => Item.messageOf_eq_none (.inr hm), fun o => ?_⟩
      simp [offered, hm]
    | some x => exact .inl ⟨c, m, x, rfl, hm⟩
  | reset | response => exact .inr ⟨fun _ => rfl, fun _ => rfl⟩

section Taking

variable (hcontent : ∀ m, Vocabulary.greets m = true → content m = none)
  (h : A.Balanced content attended) (hnet : A.net.Inv opener)
  (hflight : A.net.flight e.other sid = pre ++ i :: post) (hpre : ∀ i' ∈ pre, i.Overtakes i')
  {out : List (κ × ν)}
  (hout : out = [] ∨ out = offered content ((A.net.party e).streams sid) i)

/-- Who hands over nothing. -/
theorem handedIn_take (hnone : ∀ c x, (A.net.party e).user j k = some c → (c, x) ∉ out)
    (rest : List (Item κ μ)) : (A.take e sid i rest out).handedIn e j k = A.handedIn e j k := by
  unfold handedIn
  rw [party_take, handed_take]
  cases hc : (A.net.party e).user j k with
  | none => rfl
  | some c =>
    rw [Option.elim_some, Option.elim_some, handedTo_append,
      handedTo_eq_nil fun x => hnone c x hc, List.append_nil]

include hcontent h hnet hflight hpre hout

/-- Pipes to the party that an item reaches. -/
theorem piped_take (hattended : ∀ r, (A.net.party e).streams sid = some r → attended e r.channel →
      out = offered content (some r) i) (j k : Nat) :
    (A.take e sid i (pre ++ post) out).Piped content attended e j k := by
  have hrest := fun j => A.flight_take_other e sid j i (pre ++ post) out
  rcases content_cases content i with ⟨c, m, x, rfl, hm⟩ | ⟨hnone, hnothing⟩
  · obtain ⟨r, k₀, hr, hk, hk'⟩ := receiver_of_content hcontent hnet hflight hpre hm
    have hoffered : offered content ((A.net.party e).streams sid) (.message c m) =
        [(r.channel, x)] := by
      simp only [offered, hr, hm]
    rw [hoffered] at hout
    by_cases hjk : j = sid ∧ k = k₀
    · -- this is the pipe to which the message has belonged
      obtain ⟨rfl, rfl⟩ := hjk
      have hsome : (content m).isSome = true := by rw [hm]; rfl
      obtain ⟨hbefore, hafter⟩ :=
        underwayIn_message (A.party_take e j _ _ out) hflight hrest hk' hsome
      apply (h.piped e j k).removes (A.party_take e j _ _ out) hbefore hafter
      have hhanded : (A.take e j (.message c m) (pre ++ post) out).handedIn e j k =
          A.handedIn e j k ++ handedTo r.channel out := by
        unfold handedIn
        rw [party_take, handed_take, hk, Option.elim_some, Option.elim_some,
          handedTo_append]
      rw [hhanded]
      rcases hout with rfl | rfl
      · -- it is not handed over, so nobody attends to the channel
        refine .inr ⟨.inr ⟨_, hk, ?_⟩, by simp [handedTo]⟩
        intro hr'
        simpa [offered, hm] using hattended r hr hr'
      · refine .inl ⟨?_, by simp [handedTo, hm]⟩
        intro m' hm'
        exact hpre _ (mem_messagesOf.mp hm').1
    · -- a channel has only one pipe, and this is another one
      have hother : ∀ c', (A.net.party e).user j k = some c' → c' ≠ r.channel := by
        rintro c' hc' rfl
        exact hjk (h.once hk hc')
      apply (h.piped e j k).congr (A.party_take e sid _ _ out)
        (underwayIn_removed rfl hflight hrest ?_) (handedIn_take ?_ _)
      · rintro rfl c' hc'
        apply Item.messageOf_eq_none
        refine .inl ?_
        rintro rfl
        exact hjk (h.once hk' hc')
      · intro c' x' hc' hx'
        rcases hout with rfl | rfl
        · cases hx'
        · exact hother c' hc' (congrArg Prod.fst (List.mem_singleton.mp hx'))
  · -- the item is none of any pipe
    rw [hnothing, or_self] at hout
    subst hout
    exact (h.piped e j k).congr (A.party_take e sid i _ [])
      (underwayIn_removed rfl hflight hrest fun _ c _ => hnone c) (handedIn_take (by simp) _)

omit hcontent hnet hflight hpre hout in
/-- Pipes to the other party. -/
theorem piped_take_other (rest : List (Item κ μ)) (j k : Nat) :
    (A.take e sid i rest out).Piped content attended e.other j k := by
  apply (h.piped e.other j k).congr (A.party_take e sid i rest out)
  · rw [Side.other_other]
    unfold underwayIn
    rw [party_take, flight_take]
    cases (A.net.party e).user j k with
    | none => rfl
    | some c =>
      have hanswer : messagesOf content c (if j = sid then i.answer else []) = [] := by
        apply messagesOf_eq_nil
        intro m hm
        split at hm
        · exact absurd hm not_mem_answer
        · cases hm
      rw [Option.elim_some, Option.elim_some, messagesOf_append, hanswer, List.append_nil]
  · rw [handedIn, handedIn, party_take, handed_take_other]

/-- An item is received, and its content is handed over or ignored. -/
theorem Balanced.take (hattended : ∀ r, (A.net.party e).streams sid = some r →
      attended e r.channel → out = offered content (some r) i) :
    (A.take e sid i (pre ++ post) out).Balanced content attended where
  once := h.once
  sent := h.sent
  flight e' j c m hm := by
    rcases e.eq_or_eq_other e' with rfl | rfl
    · rw [flight_take, List.mem_append] at hm
      rcases hm with hold | hanswer
      · exact h.flight hold
      · -- answers are no messages
        split at hanswer
        · exact absurd hanswer not_mem_answer
        · cases hanswer
    · rw [flight_take_other] at hm
      split at hm
      · next hj =>
        subst hj
        exact h.flight (hflight ▸ mem_of_removed hm)
      · exact h.flight hm
  handed e' c x hx := by
    rcases e.eq_or_eq_other e' with rfl | rfl
    · rw [handed_take, List.mem_append] at hx
      rcases hx with hold | hnew
      · exact h.handed hold
      · rcases content_cases content i with ⟨c', m, x', rfl, hm⟩ | ⟨-, hnothing⟩
        · -- what is handed over now goes to whoever has the end
          obtain ⟨r, k, hr, hk, -⟩ := receiver_of_content hcontent hnet hflight hpre hm
          rcases hout with rfl | rfl
          · cases hnew
          · simp only [offered, hr, hm, List.mem_singleton, Prod.mk.injEq] at hnew
            obtain ⟨rfl, -⟩ := hnew
            exact ⟨sid, Party.mem_users.mpr ⟨k, hk⟩⟩
        · rw [hnothing, or_self] at hout
          subst hout
          cases hnew
    · rw [handed_take_other] at hx
      exact h.handed hx
  piped e' j k := by
    rcases e.eq_or_eq_other e' with rfl | rfl
    · exact piped_take hcontent h hnet hflight hpre hout hattended j k
    · exact piped_take_other h _ j k

end Taking

/-- A message gets lost. -/
theorem Balanced.lose (h : A.Balanced content attended)
    (hflight : A.net.flight e.other sid = pre ++ .message c m :: post)
    (hm : Vocabulary.lossy m = true) :
    (A.lose e sid (pre ++ post)).Balanced content attended where
  once := h.once
  sent := h.sent
  flight e' j c' m' hm' := by
    rcases e.eq_or_eq_other e' with rfl | rfl
    · rw [flight_lose] at hm'
      exact h.flight hm'
    · rw [flight_lose_other] at hm'
      split at hm'
      · next hj =>
        subst hj
        exact h.flight (hflight ▸ mem_of_removed hm')
      · exact h.flight hm'
  handed := h.handed
  piped e' j k := by
    rcases e.eq_or_eq_other e' with rfl | rfl
    · have hrest := fun j => A.flight_lose_other e' sid j (pre ++ post)
      by_cases hpipe : j = sid ∧ (A.net.party e'.other).user j k = some c ∧
        (content m).isSome = true
      · obtain ⟨rfl, hc, hsome⟩ := hpipe
        obtain ⟨hbefore, hafter⟩ := underwayIn_message (A.party_lose e' j _) hflight hrest hc hsome
        exact (h.piped e' j k).removes (A.party_lose e' j _) hbefore hafter (.inr ⟨.inl hm, rfl⟩)
      · apply (h.piped e' j k).congr (A.party_lose e' sid (pre ++ post))
          (underwayIn_removed rfl hflight hrest ?_) rfl
        rintro rfl c' hc'
        apply Item.messageOf_eq_none
        by_cases hc : c = c'
        · subst hc
          simpa [hc'] using hpipe
        · exact .inl hc
    · apply (h.piped e.other j k).congr (A.party_lose e sid (pre ++ post)) _ rfl
      rw [Side.other_other, underwayIn, underwayIn, party_lose, flight_lose]

end Take

omit [Vocabulary μ χ] [DecidableEq κ] in
/-- Going on twice. -/
theorem follow_follow {p p' : Party κ χ μ} (h : ∃ out, p.sent = (A.net.party e).sent ++ out)
    (h' : ∃ out, p'.sent = p.sent ++ out) : (A.follow e p).follow e p' = A.follow e p' := by
  unfold follow
  rw [Net.follow_follow A.net e h h']

omit [DecidableEq κ] in
/-- What is handed over does not matter to the net. -/
theorem Step.net (hstep : Step opener content attended A A') : Net.Step opener A.net A'.net := by
  cases hstep with
  | moves e p hmoves => exact .moves _ _ _ hmoves
  | deliver e sid i pre post p p' out hflight hpre hreacts hmoves _ _ =>
    exact .deliver _ _ _ _ _ _ _ _ hflight hpre hreacts hmoves
  | lose e sid c m pre post hflight hm => exact .lose _ _ _ _ _ _ _ hflight hm

/-- Every step keeps the account balanced. -/
theorem Balanced.step (hcontent : ∀ m, Vocabulary.greets m = true → content m = none)
    (h : A.Balanced content attended) (hnet : A.net.Inv opener)
    (hstep : Step opener content attended A A') : A'.Balanced content attended := by
  cases hstep with
  | moves e p hmoves => exact h.moves hcontent hnet hmoves
  | deliver e sid i pre post p p' out hflight hpre hreacts hmoves hout hattended =>
    have htaken := h.take hcontent hnet hflight hpre hout hattended
    have hreacted := hnet.reacts hflight hpre hreacts
    obtain ⟨o, items, rfl, hsaid⟩ := hreacts.speaks
    have hput : ((A.take e sid i (pre ++ post) out).follow e
        ((A.net.party e).put sid o items)).Balanced content attended := htaken.put hcontent hsaid
    have hsent : ((A.net.party e).put sid o items).sent =
        ((A.take e sid i (pre ++ post) out).net.party e).sent ++ items.map (sid, ·) := rfl
    rw [← follow_follow ⟨_, hsent⟩ hmoves.sent]
    apply hput.moves hcontent hreacted
    rw [party_follow]
    exact hmoves
  | lose e sid c m pre post hflight hm => exact h.lose hflight hm

/-- Nobody has been anywhere, and nothing has been handed over. -/
theorem balanced_vacant (hnet : A.net.Vacant) (hhanded : ∀ e, A.handed e = []) :
    A.Balanced content attended := by
  have hnobody : ∀ e sid k, (A.net.party e).user sid k = none := by
    intro e sid k
    rw [Party.user, Party.users, hnet.sent]
    rfl
  refine ⟨?_, ?_, ?_, ?_, ?_⟩
  · intro e sid k sid' k' c hc
    rw [hnobody] at hc
    cases hc
  · intro e sid c m hm
    rw [hnet.sent] at hm
    cases hm
  · intro e sid c m hm
    rw [hnet.flight] at hm
    cases hm
  · intro e c x hx
    rw [hhanded] at hx
    cases hx
  · intro e sid k
    refine ⟨[], ?_, ?_⟩
    · rw [handedIn, hnobody]
      rfl
    · rw [sentIn, underwayIn, hnobody]
      exact .refl

end Steps

/-! ## Section 3: What follows -/

section Results

variable [Vocabulary μ χ] [DecidableEq κ] {content : μ → Option ν} {attended : Side → κ → Prop}
  {A : Account κ χ μ ν} {e : Side} {sid k : Nat} {c c' : κ}

/-- What a channel has sent. -/
def sentBy (content : μ → Option ν) (A : Account κ χ μ ν) (e : Side) (c : κ) : List μ :=
  messagesOf content c ((A.net.party e).sent.map Prod.snd)

/-- The two channels of a pair. -/
theorem Balanced.pipe (h : A.Balanced content attended)
    (hc : (A.net.party e.other).user sid k = some c) (hc' : (A.net.party e).user sid k = some c') :
    ∃ handed, handedTo c' (A.handed e) = handed.filterMap content ∧
      Pipe.Reached Vocabulary.unordered
        (fun m => Vocabulary.lossy m = true ∨ ¬ attended e c')
        ⟨A.sentBy content e.other c, handed, messagesOf content c (A.net.flight e.other sid)⟩ := by
  obtain ⟨handed, hhanded, hpipe⟩ := h.piped e sid k
  rw [handedIn, hc', Option.elim_some] at hhanded
  rw [sentIn, underwayIn, hc, Option.elim_some, Option.elim_some] at hpipe
  refine ⟨handed, hhanded, hpipe.mono ?_⟩
  rintro m (hm | ⟨c'', hc'', hignored⟩)
  · exact .inl hm
  · rw [hc'] at hc''
    obtain rfl := Option.some.inj hc''
    exact .inr hignored

/-- What is handed over or under way, in terms of contents. -/
theorem contents_append {handed underway : List μ} {contents : List ν}
    (h : contents = handed.filterMap content) :
    contents ++ underway.filterMap content = (handed ++ underway).filterMap content := by
  rw [h, List.filterMap_append]

/-- **Each message is handed over at most once**, by the channel that belongs to its sender. -/
theorem Balanced.at_most_once (h : A.Balanced content attended)
    (hc : (A.net.party e.other).user sid k = some c) (hc' : (A.net.party e).user sid k = some c') :
    (handedTo c' (A.handed e) ++
      (messagesOf content c (A.net.flight e.other sid)).filterMap content).Subperm
      ((A.sentBy content e.other c).filterMap content) := by
  obtain ⟨handed, hhanded, hpipe⟩ := h.pipe hc hc'
  rw [contents_append hhanded]
  obtain ⟨l, hperm, hsublist⟩ := hpipe.subperm
  exact ⟨_, hperm.filterMap content, hsublist.filterMap content⟩

/-- **Ordered messages are handed over in order.** -/
theorem Balanced.in_order (h : A.Balanced content attended)
    (hc : (A.net.party e.other).user sid k = some c) (hc' : (A.net.party e).user sid k = some c')
    (hordered : ∀ m ∈ A.sentBy content e.other c, Vocabulary.unordered m = false) :
    (handedTo c' (A.handed e) ++
      (messagesOf content c (A.net.flight e.other sid)).filterMap content).Sublist
      ((A.sentBy content e.other c).filterMap content) := by
  obtain ⟨handed, hhanded, hpipe⟩ := h.pipe hc hc'
  rw [contents_append hhanded]
  exact (hpipe.in_order hordered).filterMap content

/-- **Each message is handed over exactly once**, if it may not get lost and the channel is
    attended. -/
theorem Balanced.exactly_once (h : A.Balanced content attended)
    (hc : (A.net.party e.other).user sid k = some c) (hc' : (A.net.party e).user sid k = some c')
    (hattended : attended e c')
    (hlossless : ∀ m ∈ A.sentBy content e.other c, Vocabulary.lossy m = false) :
    (handedTo c' (A.handed e) ++
      (messagesOf content c (A.net.flight e.other sid)).filterMap content).Perm
      ((A.sentBy content e.other c).filterMap content) := by
  obtain ⟨handed, hhanded, hpipe⟩ := h.pipe hc hc'
  rw [contents_append hhanded]
  apply (hpipe.perm _).filterMap content
  rintro m hm (hlossy | hignored)
  · rw [hlossless m hm] at hlossy
    cases hlossy
  · exact hignored hattended

/-- **Nothing is under way to a channel that is over**, or from one that is. -/
theorem Balanced.nothing_underway {opener : Nat → Side} (h : A.Balanced content attended)
    (hnet : A.net.Inv opener) (hc : (A.net.party e.other).user sid k = some c)
    (hc' : (A.net.party e).user sid k = some c')
    (hover : (A.net.party e).Asked sid c' ∨ (A.net.party e.other).Answered sid c) :
    messagesOf content c (A.net.flight e.other sid) = [] := by
  apply messagesOf_eq_nil
  intro m hm
  obtain ⟨x, hx, hsent, hout, before, husers, hround⟩ := hnet.unfinished hm
  obtain ⟨-, rfl⟩ := h.once hc (Party.user_concat husers)
  rcases hover with hasked | hanswered
  · rcases hround with hnobody | ⟨y, before', hy, hin, husers', hlength⟩
    · -- the receiver would not have been there yet
      exact absurd hnobody (Nat.ne_of_gt (Party.user_lt hc'))
    · rw [← hlength, Party.user_concat husers'] at hc'
      rw [hasked hy (Option.some.inj hc')] at hin
      cases hin
  · rw [hanswered hx hsent.symm] at hout
    cases hout

/-- The counterpart of a channel that is over has asked for a reset, if it is still there. -/
theorem Balanced.requested {opener : Nat → Side} {r : Occupant κ χ}
    (h : A.Balanced content attended) (hnet : A.net.Inv opener)
    (hc : (A.net.party e.other).user sid k = some r.channel)
    (hc' : (A.net.party e).user sid k = some c')
    (hr : (A.net.party e.other).streams sid = some r) (hasked : (A.net.party e).Asked sid c') :
    r.requested = true := by
  apply hnet.requested hr
  · intro y before before' hy husers husers' hlength
    obtain ⟨-, hk⟩ := h.once hc (Party.user_concat husers')
    apply hasked hy
    rw [hk.symm, ← hlength, Party.user_concat husers] at hc'
    exact Option.some.inj hc'
  · rintro before husers hnobody
    obtain ⟨-, rfl⟩ := h.once hc (Party.user_concat husers)
    exact absurd hnobody (Nat.ne_of_gt (Party.user_lt hc'))

/-- A channel that belongs to nobody has handed over nothing. -/
theorem Balanced.nothing (h : A.Balanced content attended)
    (hc : (A.net.party e.other).user sid k = none) (hc' : (A.net.party e).user sid k = some c') :
    handedTo c' (A.handed e) = [] := by
  obtain ⟨handed, hhanded, hpipe⟩ := h.piped e sid k
  rw [handedIn, hc', Option.elim_some] at hhanded
  rw [sentIn, underwayIn, hc] at hpipe
  have hlength := hpipe.subperm.length_le
  obtain rfl : handed = [] := by simpa using hlength
  exact hhanded

end Results

end Account

end Streams
