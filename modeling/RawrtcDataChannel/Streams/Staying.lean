import RawrtcDataChannel.Streams.Hearing

/-!
# Parties that stay

As long as neither party leaves, no reset is ever asked for, and whoever is at an end stays there.
So each stream is opened once at most, by its opener, and with nothing under way on it the two ends
are in use at the same time. Who sends unordered messages knows of its counterpart, because it has
accepted a proposal or has heard something.
-/

namespace Streams

variable {κ χ μ : Type} [Vocabulary μ χ] {opener : Nat → Side} {N N' : Net κ χ μ} {e : Side}
  {sid : Nat} {p p' : Party κ χ μ} {may : Freedom} {i : Item κ μ} {pre post : List (Item κ μ)}
  {r : Occupant κ χ}

/-! ## Section 1: Nobody leaves -/

/-- A party that stays is free to open its own streams and to send. -/
def Freedom.staying (opener : Nat → Side) (e : Side) : Freedom :=
  ⟨(opener · = e), True, False⟩

/-- It does what anybody may do. -/
theorem Party.Move.free (h : Party.Move (.staying opener e) p p') :
    Party.Move (.full opener e) p p' := by
  cases h with
  | act hact =>
    apply Party.Move.act
    cases hact with
    | propose sid c terms m hown hfree hnew hm => exact .propose p sid c terms m hown hfree hnew hm
    | send sid r m hspeaks hr hrequested hgreets hordered =>
      exact .send p sid r m hspeaks hr hrequested hgreets hordered
    | leave sid r _ hr hstage => exact .leave p sid r (.inl trivial) hr hstage
    | request sid r hr hstage hrequested => exact .request p sid r hr hstage hrequested
  | «open» sid r hr hstage => exact .open p sid r hr hstage
  | vacate sid r hr hin hout => exact .vacate p sid r hr hin hout

theorem Party.Moves.free (h : Party.Moves (.staying opener e) p p') :
    Party.Moves (.full opener e) p p' :=
  Relation.ReflTransGen.mono (fun _ _ hmove => Party.Move.free hmove) _ _ h

/-- The item is a proposal. -/
def Item.proposes : Item κ μ → Bool
  | .message _ m => (Vocabulary.proposal m).isSome
  | .reset | .response => false

/-- The streams that a party has proposed to open. -/
def Party.proposed (p : Party κ χ μ) : List Nat :=
  (p.sent.filter fun i => i.2.proposes).map Prod.fst

theorem Party.proposed_put (p : Party κ χ μ) (sid : Nat) (o : Option (Occupant κ χ))
    (items : List (Item κ μ)) : (p.put sid o items).proposed =
      p.proposed ++ (items.filter Item.proposes).map fun _ => sid := by
  simp [proposed, put, List.filter_map, Function.comp_def]

/-- The channel is not about to leave. -/
def Occupant.Stays (r : Occupant κ χ) : Prop :=
  r.stage ≠ .leaving ∧ r.incoming = false

omit [Vocabulary μ χ] in
/-- Who stays does not leave anything behind. -/
theorem not_leaving_of_stays {o : Option (Occupant κ χ)} {q : List (Item κ μ)}
    (hleaving : Leaving o q) (hstays : ∀ y, o = some y → y.Stays) : o = none := by
  cases o with
  | none => rfl
  | some y =>
    have hin := hleaving.1
    rw [(hstays y rfl).2] at hin
    cases hin

/-- With nothing under way from the opener, both ends are in use or neither. -/
theorem Conversation.same_ends {o o' : Option (Occupant κ χ)} {qo qp : List (Item κ μ)}
    {uo up : List κ} (h : Conversation o o' qo qp uo up) (hqo : qo = [])
    (ho : ∀ r, o = some r → r.Stays) (ho' : ∀ y, o' = some y → y.Stays) :
    o = none ↔ o' = none := by
  cases h with
  | vacant _ _ _ _ hleaving _ =>
    have hnone := not_leaving_of_stays hleaving ho'
    simp [hnone]
  | ending r _ _ _ hleaving _ => cases not_leaving_of_stays hleaving ho
  | opening => simp at hqo
  | both => simp

namespace Net

/-- Nobody is about to leave, and no reset is under way. Each stream that is in use has been
    proposed once, by its opener, who still holds it. -/
structure Steady (opener : Nat → Side) (N : Net κ χ μ) : Prop where
  stays : ∀ ⦃e sid r⦄, (N.party e).streams sid = some r → r.Stays
  messages : ∀ ⦃e sid i⦄, i ∈ N.flight e sid → ∃ c m, i = .message c m
  once : ∀ e, (N.party e).proposed.Nodup
  holds : ∀ ⦃e sid⦄, sid ∈ (N.party e).proposed →
    opener sid = e ∧ (N.party e).streams sid ≠ none
  opened : ∀ ⦃e sid⦄, (N.party e).streams sid ≠ none → sid ∈ (N.party (opener sid)).proposed

theorem Vacant.steady (h : N.Vacant) : N.Steady opener := by
  have hproposed : ∀ e, (N.party e).proposed = [] := by
    intro e
    rw [Party.proposed, h.sent]
    rfl
  refine ⟨?_, ?_, ?_, ?_, ?_⟩
  · intro e sid r hr
    rw [h.streams] at hr
    cases hr
  · intro e sid i hi
    rw [h.flight] at hi
    cases hi
  · intro e
    rw [hproposed]
    exact List.nodup_nil
  · intro e sid hsid
    rw [hproposed] at hsid
    cases hsid
  · intro e sid hsid
    exact absurd (h.streams e sid) hsid

/-- An end is taken, or what is at an end changes. If it was free, the opener proposes or has
    proposed already. -/
theorem Steady.put (h : N.Steady opener) {items : List (Item κ μ)} (hr : r.Stays)
    (hitems : ∀ i ∈ items, ∃ c m, i = .message c m)
    (hproposed : items.filter Item.proposes = [] ∧ sid ∈ (N.party (opener sid)).proposed ∨
      opener sid = e ∧ (N.party e).streams sid = none ∧
        ∃ i, items.filter Item.proposes = [i]) :
    (N.follow e ((N.party e).put sid (some r) items)).Steady opener := by
  have hself : ∀ j, ((N.follow e ((N.party e).put sid (some r) items)).party e).streams j =
      if j = sid then some r else (N.party e).streams j := by
    intro j
    rw [party_follow]
    split
    · next hj => rw [hj, Party.streams_put_self]
    · next hj => rw [Party.streams_put_of_ne _ hj]
  -- what has been proposed before is not forgotten
  have hmore : ∀ e', (N.party e').proposed ⊆
      ((N.follow e ((N.party e).put sid (some r) items)).party e').proposed := by
    intro e'
    rcases e.eq_or_eq_other e' with rfl | rfl
    · rw [party_follow, Party.proposed_put]
      exact List.subset_append_left _ _
    · rw [party_follow_other]
      exact List.Subset.refl _
  refine ⟨?_, ?_, ?_, ?_, ?_⟩
  · intro e' j r' hr'
    rcases e.eq_or_eq_other e' with rfl | rfl
    · rw [hself] at hr'
      split at hr'
      · cases hr'
        exact hr
      · exact h.stays hr'
    · rw [party_follow_other] at hr'
      exact h.stays hr'
  · intro e' j i hi
    rcases e.eq_or_eq_other e' with rfl | rfl
    · rw [flight_follow_put] at hi
      rcases List.mem_append.mp hi with hi | hi
      · exact h.messages hi
      · split at hi
        · exact hitems i hi
        · cases hi
    · rw [flight_follow_other] at hi
      exact h.messages hi
  · intro e'
    rcases e.eq_or_eq_other e' with rfl | rfl
    · rw [party_follow, Party.proposed_put]
      rcases hproposed with ⟨hnone, -⟩ | ⟨-, hfree, i, hone⟩
      · rw [hnone, List.map_nil, List.append_nil]
        exact h.once _
      · -- a stream that has been proposed before would still be in use
        rw [hone, List.map_singleton]
        refine (h.once _).append (List.nodup_singleton sid) ?_
        intro j hj hj'
        obtain rfl := List.mem_singleton.mp hj'
        exact (h.holds hj).2 hfree
    · rw [party_follow_other]
      exact h.once _
  · intro e' j hj
    rcases e.eq_or_eq_other e' with rfl | rfl
    · rw [hself]
      rw [party_follow, Party.proposed_put] at hj
      rcases List.mem_append.mp hj with hj | hj
      · refine ⟨(h.holds hj).1, ?_⟩
        split
        · exact Option.some_ne_none r
        · exact (h.holds hj).2
      · rcases hproposed with ⟨hnone, -⟩ | ⟨hown, -⟩
        · rw [hnone] at hj
          cases hj
        · obtain ⟨-, -, rfl⟩ := List.mem_map.mp hj
          rw [if_pos rfl]
          exact ⟨hown, Option.some_ne_none r⟩
    · rw [party_follow_other] at hj ⊢
      exact h.holds hj
  · intro e' j hj
    rcases e.eq_or_eq_other e' with rfl | rfl
    · rw [hself] at hj
      split at hj
      · next hsid =>
        subst hsid
        rcases hproposed with ⟨-, hbefore⟩ | ⟨hown, -, i, hone⟩
        · exact hmore _ hbefore
        · rw [hown, party_follow, Party.proposed_put, hone]
          simp
      · exact hmore _ (h.opened hj)
    · rw [party_follow_other] at hj
      exact hmore _ (h.opened hj)

/-- What is at an end changes. -/
theorem Steady.change (h : N.Steady opener) {items : List (Item κ μ)} {r' : Occupant κ χ}
    (hr : (N.party e).streams sid = some r') (hstays : r.Stays)
    (hitems : ∀ i ∈ items, (∃ c m, i = .message c m) ∧ i.proposes = false) :
    (N.follow e ((N.party e).put sid (some r) items)).Steady opener := by
  refine h.put hstays (fun i hi => (hitems i hi).1) (.inl ⟨?_, ?_⟩)
  · apply List.filter_eq_nil_iff.mpr
    intro i hi
    rw [(hitems i hi).2]
    exact Bool.false_ne_true
  · exact h.opened (hr ▸ Option.some_ne_none r')

/-- A party moves without leaving. -/
theorem Steady.move (h : N.Steady opener)
    (hmove : Party.Move (.staying opener e) (N.party e) p) : (N.follow e p).Steady opener := by
  cases hmove with
  | act hact =>
    cases hact with
    | propose sid c terms m hown hfree _ hm =>
      refine h.put ⟨Stage.noConfusion, rfl⟩ ?_ (.inr ⟨hown, hfree, .message c m, ?_⟩)
      · intro i hi
        exact ⟨c, m, List.mem_singleton.mp hi⟩
      · simp [Item.proposes, hm]
    | send sid r m _ hr _ hgreets _ =>
      apply h.change hr (h.stays hr)
      intro i hi
      obtain rfl := List.mem_singleton.mp hi
      exact ⟨⟨_, _, rfl⟩, by simp [Item.proposes, proposal_of_not_greets hgreets]⟩
    | leave sid r hleaves hr _ =>
      -- it neither does so of its own accord nor has it been asked to
      rcases hleaves with hleaves | hin
      · exact hleaves.elim
      · rw [(h.stays hr).2] at hin
        cases hin
    | request sid r hr hstage _ => exact absurd hstage (h.stays hr).1
  | «open» sid r hr _ =>
    exact h.change hr ⟨Stage.noConfusion, (h.stays hr).2⟩ (by simp)
  | vacate sid r hr hin _ =>
    rw [(h.stays hr).2] at hin
    cases hin

theorem Steady.moves (h : N.Steady opener)
    (hmoves : Party.Moves (.staying opener e) (N.party e) p) : (N.follow e p).Steady opener := by
  induction hmoves with
  | refl =>
    rw [follow_self]
    exact h
  | tail hmoves hmove ih =>
    rw [← follow_follow N e (Party.Moves.sent hmoves)
      (Party.Moves.sent (Relation.ReflTransGen.single hmove))]
    apply ih.move
    rw [party_follow]
    exact hmove

/-- A party hears something. -/
theorem Steady.hear (h : N.Steady opener) (hr : (N.party e).streams sid = some r) :
    (N.follow e ((N.party e).hear sid)).Steady opener := by
  rw [Party.hear_of_some hr]
  have hstays : r.Stays := h.stays hr
  exact h.change hr hstays (by simp)

/-- Something is not under way any more. -/
theorem Steady.less (h : N.Steady opener) (hparty : N'.party = N.party)
    (hflight : ∀ e sid, N'.flight e sid ⊆ N.flight e sid) : N'.Steady opener := by
  refine ⟨?_, fun e sid i hi => h.messages (hflight e sid hi), ?_, ?_, ?_⟩
  · rw [hparty]
    exact h.stays
  · rw [hparty]
    exact h.once
  · rw [hparty]
    exact h.holds
  · rw [hparty]
    exact h.opened

theorem Steady.lose (h : N.Steady opener) (hflight : N.flight e.other sid = pre ++ i :: post) :
    (N.lose e sid (pre ++ post)).Steady opener := by
  have hparty : (N.lose e sid (pre ++ post)).party = N.party := rfl
  refine h.less hparty fun e' j => ?_
  rcases e.eq_or_eq_other e' with rfl | rfl
  · rw [flight_lose]
    exact List.Subset.refl _
  · rw [flight_lose_other]
    split
    · next hj =>
      rw [hj, hflight]
      exact sublist_of_removed.subset
    · exact List.Subset.refl _

/-- Messages are not answered on arrival. -/
theorem Steady.take (h : N.Steady opener) (hflight : N.flight e.other sid = pre ++ i :: post) :
    (N.take e sid i (pre ++ post)).Steady opener := by
  have hmem : i ∈ N.flight e.other sid := by simp [hflight]
  obtain ⟨c, m, rfl⟩ := h.messages hmem
  have hparty : (N.take e sid (.message c m) (pre ++ post)).party = N.party := rfl
  refine h.less hparty fun e' j => ?_
  rcases e.eq_or_eq_other e' with rfl | rfl
  · rw [flight_take]
    simp [Item.answer]
  · rw [flight_take_other]
    split
    · next hj =>
      rw [hj, hflight]
      exact sublist_of_removed.subset
    · exact List.Subset.refl _

/-- A message reaches a party. -/
theorem Steady.reacts (h : N.Steady opener) (hinv : N.Inv opener)
    (hflight : N.flight e.other sid = pre ++ i :: post) (hpre : ∀ i' ∈ pre, i.Overtakes i')
    (hreacts : Party.Reacts sid i (N.party e) p) :
    ((N.take e sid i (pre ++ post)).follow e p).Steady opener := by
  have htake := h.take hflight
  have hmem : i ∈ N.flight e.other sid := by simp [hflight]
  obtain ⟨c, m, rfl⟩ := h.messages hmem
  generalize hparty : N.party e = p₀ at hreacts
  cases hreacts with
  | accept _ c' _ _ m' terms unordered hfree _ hm hm' _ =>
    rw [← hparty] at hfree ⊢
    -- the opener has proposed this
    obtain ⟨hopener, -, y, hy, -⟩ := hinv.accepts hflight hpre (by simp [hm]) fun _ r hj hr => by
      rw [hj, hfree] at hr
      cases hr
    refine htake.put ⟨Stage.noConfusion, rfl⟩ ?_ (.inl ⟨?_, ?_⟩)
    · intro i hi
      exact ⟨c', m', List.mem_singleton.mp hi⟩
    · simp [Item.proposes, hm']
    · exact h.opened (e := e.other) (by simp [hy])
  | hear _ r _ _ hr _ =>
    rw [← hparty] at hr ⊢
    have hstays : r.Stays := h.stays hr
    exact htake.change hr hstays (by simp)

/-- Nobody is in the way of anybody else, whatever happens. -/
theorem Steady.advances {o : Option (Side × Nat × Item κ μ)} (h : N.Steady opener)
    (hinv : N.Inv opener) (hstep : Advances (.staying opener) N o N') : N'.Steady opener := by
  cases hstep with
  | moves e p hmoves => exact h.moves hmoves
  | deliver e sid i pre post p p' hflight hpre hreacts hmoves =>
    rw [follow_reacts N _ hreacts hmoves]
    apply (h.reacts hinv hflight hpre hreacts).moves
    rw [party_follow]
    exact hmoves
  | hear e sid c m r p _ _ hr hmoves =>
    rw [follow_hear N hmoves]
    apply (h.hear hr).moves
    rw [party_follow]
    exact hmoves
  | lose e sid c m pre post hflight _ => exact h.lose hflight

/-! ## Section 2: What follows -/

/-- No stream is proposed twice, at whichever end. -/
theorem Steady.proposed_apart (h : N.Steady opener) (e : Side) :
    ((N.party e).proposed ++ (N.party e.other).proposed).Nodup := by
  refine (h.once e).append (h.once e.other) ?_
  intro sid hsid hsid'
  have hsame := (h.holds hsid).1.symm.trans (h.holds hsid').1
  exact absurd hsame e.ne_other

/-- A stream that is in use has been proposed by its opener, and not by the other party. -/
theorem Steady.opened_once (h : N.Steady opener) (hsid : (N.party e).streams sid ≠ none) :
    sid ∈ (N.party (opener sid)).proposed ∧ sid ∉ (N.party (opener sid).other).proposed := by
  refine ⟨h.opened hsid, fun hsid' => ?_⟩
  exact absurd (h.holds hsid').1 (opener sid).ne_other

/-- The two ends of a stream that are both in use agree on the terms. -/
theorem Steady.agree (h : N.Steady opener) (hinv : N.Inv opener) {y : Occupant κ χ}
    (hr : (N.party e).streams sid = some r) (hy : (N.party e.other).streams sid = some y) :
    r.terms = y.terms := by
  rcases e.eq_or_eq_other (opener sid) with he | he
  · exact hinv.agree he hr hy (h.stays hy).2
  · have hr' : (N.party e.other.other).streams sid = some r := by
      rw [Side.other_other]
      exact hr
    exact (hinv.agree he hy hr' (h.stays hr).2).symm

/-- With nothing under way on a stream, it is in use at both ends or at neither. -/
theorem Steady.same_ends (h : N.Steady opener) (hinv : N.Inv opener)
    (hflight : ∀ e, N.flight e sid = []) :
    (N.party e).streams sid = none ↔ (N.party e.other).streams sid = none := by
  have hstays : ∀ e r, (N.party e).streams sid = some r → r.Stays := fun e r hr => h.stays hr
  rcases e.eq_or_eq_other (opener sid) with he | he
  · exact ((converses_iff he).mp (hinv sid)).same_ends (hflight _) (hstays _) (hstays _)
  · exact (((converses_iff_other he).mp (hinv sid)).same_ends (hflight _) (hstays _)
      (hstays _)).symm

end Net

/-! ## Section 3: Who sends unordered messages -/

/-- Only channels that know of their counterpart send unordered messages or are about to. -/
structure Party.Aware (known : κ → Prop) (p : Party κ χ μ) : Prop where
  ends : ∀ ⦃sid r⦄, p.streams sid = some r → r.unordered = true → known r.channel
  sent : ∀ ⦃sid c m⦄, (sid, .message c m) ∈ p.sent → Vocabulary.unordered m = true → known c

namespace Party

variable {known known' : κ → Prop}

/-- One end changes, and something is sent. -/
theorem Aware.put (h : p.Aware known) {o : Option (Occupant κ χ)} {items : List (Item κ μ)}
    (ho : ∀ r, o = some r → r.unordered = true → known r.channel)
    (hitems : ∀ c m, .message c m ∈ items → Vocabulary.unordered m = true → known c) :
    (p.put sid o items).Aware known where
  ends j r hr hunordered := by
    by_cases hj : j = sid
    · subst hj
      rw [streams_put_self] at hr
      exact ho r hr hunordered
    · rw [streams_put_of_ne _ hj] at hr
      exact h.ends hr hunordered
  sent j c m hm hunordered := by
    rcases List.mem_append.mp hm with hm | hm
    · exact h.sent hm hunordered
    · obtain ⟨i, hi, heq⟩ := List.mem_map.mp hm
      cases heq
      exact hitems c m hi hunordered

/-- More is known. -/
theorem Aware.mono (h : p.Aware known) (hknown : ∀ c, known c → known' c) : p.Aware known' where
  ends _ _ hr hunordered := hknown _ (h.ends hr hunordered)
  sent _ _ _ hm hunordered := hknown _ (h.sent hm hunordered)

theorem Aware.move (h : p.Aware known) (hmove : Move may p p') : p'.Aware known := by
  cases hmove with
  | act hact =>
    cases hact with
    | propose sid c terms m _ _ _ hm =>
      apply h.put
      · intro r hr hunordered
        cases hr
        cases hunordered
      · intro c' m' hm' hunordered
        cases List.mem_singleton.mp hm'
        rw [Vocabulary.ordered_of_proposal (by simp [hm])] at hunordered
        cases hunordered
    -- unordered messages are only sent by whoever may
    | send sid r m _ hr _ _ hordered =>
      apply h.put
      · intro r' hr'
        cases hr'
        exact h.ends hr
      · intro c' m' hm' hunordered
        cases List.mem_singleton.mp hm'
        exact h.ends hr (hordered hunordered).1
    | leave sid r _ hr _ =>
      refine h.put (fun r' hr' => ?_) (by simp)
      cases hr'
      exact h.ends (r := r) hr
    | request sid r hr _ _ =>
      refine h.put (fun r' hr' => ?_) (by simp)
      cases hr'
      exact h.ends (r := r) hr
  | «open» sid r hr _ =>
    refine h.put (fun r' hr' => ?_) (by simp)
    cases hr'
    exact h.ends (r := r) hr
  | vacate sid r _ _ _ => exact h.put (by simp) (by simp)

theorem Aware.moves (h : p.Aware known) (hmoves : Moves may p p') : p'.Aware known := by
  induction hmoves with
  | refl => exact h
  | tail _ hmove ih => exact ih.move hmove

/-- Whoever hears something knows of its counterpart. -/
theorem Aware.hear (h : p.Aware known) (hr : ∀ r, p.streams sid = some r → known r.channel) :
    (p.hear sid).Aware known := by
  refine Aware.put h ?_ (by simp)
  intro r' hr' _
  obtain ⟨r, hr'', rfl⟩ := Option.map_eq_some_iff.mp hr'
  exact hr r hr''

/-- Whoever is there when a message has been taken knows of its counterpart. -/
theorem Aware.reacts (h : p.Aware known) {c : κ} {m : μ}
    (hreacts : Reacts sid (.message c m) p p')
    (hr : ∀ r, p'.streams sid = some r → known r.channel) : p'.Aware known := by
  cases hreacts with
  | accept _ c' _ _ m' terms unordered _ _ _ _ hgreets =>
    apply h.put
    · intro r hr' _
      cases hr'
      exact hr _ (p.streams_put_self _ _ _)
    · intro c'' m'' hm'' hunordered
      cases List.mem_singleton.mp hm''
      rw [Vocabulary.ordered_of_greets m' hgreets] at hunordered
      cases hunordered
  | hear _ r _ _ _ _ =>
    refine h.put ?_ (by simp)
    intro r' hr' _
    cases hr'
    exact hr _ (p.streams_put_self _ _ _)

end Party

namespace Net

/-- What has been received on a channel, if there was one. -/
def receivedOn (N : Net κ χ μ) : Option (Side × Nat × Item κ μ) → List (Side × κ × μ)
  | some (e, sid, .message _ m) => ((N.party e).streams sid).toList.map fun r => (e, r.channel, m)
  | _ => []

/-- A channel knows of its counterpart: it has greeted it in return, or it has received something
    that is no proposal. -/
def Knows (N : Net κ χ μ) (received : List (Side × κ × μ)) (e : Side) (c : κ) : Prop :=
  (∃ sid m, (sid, .message c m) ∈ (N.party e).sent ∧ Vocabulary.greets m = true ∧
    Vocabulary.proposal m = none) ∨ ∃ m, (e, c, m) ∈ received ∧ Vocabulary.proposal m = none

/-- Whoever sends unordered messages knows of its counterpart. -/
def Mindful (N : Net κ χ μ) (received : List (Side × κ × μ)) : Prop :=
  ∀ e, (N.party e).Aware (N.Knows received e)

variable {received more : List (Side × κ × μ)} {free : Side → Freedom}

theorem Vacant.mindful (h : N.Vacant) : N.Mindful [] := by
  intro e
  refine ⟨fun sid r hr => ?_, fun sid c m hm => ?_⟩
  · rw [h.streams] at hr
    cases hr
  · rw [h.sent] at hm
    cases hm

/-- Nothing is forgotten. -/
theorem Knows.mono {c : κ} (h : N.Knows received e c)
    (hsent : ∃ out, (N'.party e).sent = (N.party e).sent ++ out) :
    N'.Knows (received ++ more) e c := by
  rcases h with ⟨sid, m, hm, hgreets⟩ | ⟨m, hm, hproposal⟩
  · obtain ⟨out, hout⟩ := hsent
    exact .inl ⟨sid, m, hout ▸ List.mem_append_left _ hm, hgreets⟩
  · exact .inr ⟨m, List.mem_append_left _ hm, hproposal⟩

/-- One party goes on, and knows what it should. -/
theorem Mindful.follow (h : N.Mindful received) (hparty : N'.party = Function.update N.party e p)
    (haware : p.Aware (N'.Knows (received ++ more) e)) : N'.Mindful (received ++ more) := by
  intro e'
  rcases e.eq_or_eq_other e' with rfl | rfl
  · rw [hparty, Function.update_self]
    exact haware
  · have hsame : N'.party e.other = N.party e.other := by
      rw [hparty, Function.update_of_ne e.other_ne]
    rw [hsame]
    exact (h e.other).mono fun c hc => hc.mono ⟨[], by rw [hsame, List.append_nil]⟩

/-- Whoever is there when a message has been taken knows of its counterpart. -/
theorem knows_of_reacts {c : κ} {m : μ} (hreacts : Party.Reacts sid (.message c m) (N.party e) p)
    (hsent : ∃ out, (N'.party e).sent = p.sent ++ out) (hr : p.streams sid = some r) :
    N'.Knows (received ++ N.receivedOn (some (e, sid, .message c m))) e r.channel := by
  generalize hparty : N.party e = p₀ at hreacts
  cases hreacts with
  | accept _ c' _ _ m' terms unordered _ _ _ hm' hgreets =>
    rw [Party.streams_put_self] at hr
    cases hr
    obtain ⟨out, hout⟩ := hsent
    refine .inl ⟨sid, m', ?_, hgreets, hm'⟩
    rw [hout]
    simp [Party.put]
  | hear _ r' _ _ hr' hm =>
    rw [Party.streams_put_self] at hr
    cases hr
    exact .inr ⟨m, by simp [receivedOn, hparty, hr'], hm⟩

/-- Whatever happens, parties that send unordered messages know of their counterparts. -/
theorem Mindful.advances {o : Option (Side × Nat × Item κ μ)} (h : N.Mindful received)
    (hsteady : N.Steady opener) (hstep : Advances free N o N') :
    N'.Mindful (received ++ N.receivedOn o) := by
  cases hstep with
  | moves e p hmoves =>
    refine h.follow rfl (Party.Aware.moves ?_ hmoves)
    refine (h e).mono fun c hc => hc.mono ?_
    rw [party_follow]
    exact hmoves.sent
  | deliver e sid i pre post p p' hflight _ hreacts hmoves =>
    have hmem : i ∈ N.flight e.other sid := by simp [hflight]
    obtain ⟨c, m, rfl⟩ := hsteady.messages hmem
    have hparty : ((N.take e sid (.message c m) (pre ++ post)).follow e p').party e = p' :=
      party_follow _ _ _
    have hsent := hmoves.sent
    have hmore : ∃ out, p'.sent = (N.party e).sent ++ out := by
      obtain ⟨o, items, hp⟩ := hreacts.eq_put
      obtain ⟨out, hout⟩ := hsent
      exact ⟨items.map (sid, ·) ++ out, by rw [hout, hp, Party.put, List.append_assoc]⟩
    rw [← hparty] at hsent hmore
    -- the end may have been taken just now
    refine h.follow rfl (Party.Aware.moves ?_ hmoves)
    refine Party.Aware.reacts ((h e).mono fun c hc => hc.mono hmore) hreacts ?_
    exact fun r hr => knows_of_reacts hreacts hsent hr
  | hear e sid c m r p _ hm hr hmoves =>
    have hsent : ∃ out, ((N.follow e p).party e).sent = (N.party e).sent ++ out := by
      obtain ⟨out, hout⟩ := hmoves.sent
      refine ⟨out, ?_⟩
      rw [party_follow, hout]
      simp [Party.hear, Party.put]
    refine h.follow rfl (Party.Aware.moves ?_ hmoves)
    refine Party.Aware.hear ((h e).mono fun c hc => hc.mono hsent) ?_
    intro r' hr'
    exact .inr ⟨m, by simp [receivedOn, hr'], hm⟩
  | lose e sid c m pre post _ _ =>
    exact fun e' => (h e').mono fun c hc => hc.mono ⟨[], (List.append_nil _).symm⟩

end Net

end Streams
