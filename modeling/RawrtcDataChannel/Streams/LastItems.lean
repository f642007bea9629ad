import RawrtcDataChannel.Streams.Safety

/-!
# What a channel sends last

A channel may send on its stream until it has requested a reset. After that nothing is sent for it
any more, also when it has left the stream and others use it: whatever it has sent comes before the
request. This is true of both parties in every run of the net.
-/

namespace Streams

variable {κ χ μ : Type} [Vocabulary μ χ]

/-! ## Section 1: One party -/

namespace Party

/-- The channel has the stream and has not requested a reset. -/
def Speaks (p : Party κ χ μ) (sid : Nat) (c : κ) : Prop :=
  ∃ r, p.streams sid = some r ∧ r.channel = c ∧ r.requested = false

omit [Vocabulary μ χ] in
/-- A reset has been requested after the last message of the channel. -/
def Concluded (p : Party κ χ μ) (sid : Nat) (c : κ) : Prop :=
  ∃ before after, itemsOn sid p.sent = before ++ .reset :: after ∧ ∀ m, .message c m ∉ after

/-- Whoever may not speak any more has requested a reset after its last message. -/
def ConcludesAll (p : Party κ χ μ) : Prop :=
  ∀ ⦃sid c⦄, c ∈ p.users sid → p.Speaks sid c ∨ p.Concluded sid c

variable {may : Freedom} {p p' : Party κ χ μ} {sid : Nat} {c : κ} {o : Option (Occupant κ χ)}
  {items : List (Item κ μ)} {r r' : Occupant κ χ}

omit [Vocabulary μ χ] in
/-- Others may go on. -/
theorem Concluded.put (h : p.Concluded sid c) (hitems : ∀ m, .message c m ∉ items) :
    (p.put sid o items).Concluded sid c := by
  obtain ⟨before, after, hsent, hafter⟩ := h
  refine ⟨before, after ++ items, ?_, ?_⟩
  · rw [Party.put, itemsOn_append, itemsOn_map, if_pos rfl, hsent, List.append_assoc,
      List.cons_append]
  · intro m hm
    rcases List.mem_append.mp hm with hm | hm
    · exact hafter m hm
    · exact hitems m hm

/-- Only the end at which something happens has to be looked at. -/
theorem ConcludesAll.put (h : p.ConcludesAll)
    (hsid : ∀ c, c ∈ p.users sid ∨ c ∈ items.filterMap Item.greeter →
      (p.put sid o items).Speaks sid c ∨ (p.put sid o items).Concluded sid c) :
    (p.put sid o items).ConcludesAll := by
  intro j c hc
  rw [users_put] at hc
  by_cases hj : j = sid
  · subst hj
    rw [if_pos rfl, List.mem_append] at hc
    exact hsid c hc
  · rw [if_neg hj, List.append_nil] at hc
    have hsent : itemsOn j (p.put sid o items).sent = itemsOn j p.sent := by
      rw [Party.put, itemsOn_append, itemsOn_map, if_neg hj, List.append_nil]
    rcases h hc with ⟨r, hr, hspeaks⟩ | hconcluded
    · exact .inl ⟨r, (p.streams_put_of_ne hj o items).trans hr, hspeaks⟩
    · right
      rwa [Concluded, hsent]

/-- A channel goes on without sending anything. -/
theorem ConcludesAll.restage (h : p.ConcludesAll) (hr : p.streams sid = some r)
    (hchannel : r'.channel = r.channel) (hrequested : r'.requested = r.requested) :
    (p.put sid (some r') []).ConcludesAll := by
  apply h.put
  intro c hc
  rcases h (hc.resolve_right List.not_mem_nil) with ⟨x, hx, rfl, hspeaks⟩ | hconcluded
  · rw [hr] at hx
    cases hx
    exact .inl ⟨r', p.streams_put_self _ _ _, hchannel, hrequested.trans hspeaks⟩
  · exact .inr (hconcluded.put fun m => List.not_mem_nil)

/-- A channel takes a free stream and introduces itself. -/
theorem ConcludesAll.introduce (h : p.ConcludesAll) {m : μ} (hfree : p.streams sid = none)
    (hrequested : r.requested = false) :
    (p.put sid (some r) [.message r.channel m]).ConcludesAll := by
  apply h.put
  intro c hc
  by_cases hnew : c = r.channel
  · exact .inl ⟨r, p.streams_put_self _ _ _, hnew.symm, hrequested⟩
  · have hold : c ∈ p.users sid := by
      rcases hc with hold | hgreets
      · exact hold
      · obtain ⟨i, hi, hgreeter⟩ := List.mem_filterMap.mp hgreets
        obtain rfl := List.mem_singleton.mp hi
        have hsame : Vocabulary.greets m = true ∧ r.channel = c := by
          simpa [Item.greeter] using hgreeter
        exact absurd hsame.2.symm hnew
    rcases h hold with ⟨x, hx, -⟩ | hconcluded
    · rw [hfree] at hx
      cases hx
    · refine .inr (hconcluded.put fun m' hm' => ?_)
      cases List.mem_singleton.mp hm'
      exact hnew rfl

theorem ConcludesAll.act (h : p.ConcludesAll) (hact : Act may p p') : p'.ConcludesAll := by
  cases hact with
  | propose sid c terms m _ hfree _ _ => exact h.introduce hfree rfl
  | send sid r m _ hr hrequested hgreets _ =>
    apply h.put
    intro c hc
    -- who sends may speak, and the message is not of anybody else
    by_cases hself : c = r.channel
    · exact .inl ⟨r, p.streams_put_self _ _ _, hself.symm, hrequested⟩
    · have hold : c ∈ p.users sid := by
        refine hc.resolve_right fun hmem => ?_
        simp [Item.greeter, hgreets] at hmem
      rcases h hold with ⟨x, hx, rfl, -⟩ | hconcluded
      · rw [hr] at hx
        cases hx
        exact absurd rfl hself
      · refine .inr (hconcluded.put fun m' hm' => ?_)
        cases List.mem_singleton.mp hm'
        exact hself rfl
  | leave sid r _ hr _ => exact h.restage hr rfl rfl
  | request sid r hr _ _ =>
    apply h.put
    intro c hc
    have hold : c ∈ p.users sid := by
      refine hc.resolve_right fun hmem => ?_
      simp [Item.greeter] at hmem
    right
    rcases h hold with ⟨x, hx, rfl, -⟩ | hconcluded
    · -- the request is the last thing that is sent
      refine ⟨itemsOn sid p.sent, [], ?_, fun m => List.not_mem_nil⟩
      rw [Party.put, itemsOn_append, itemsOn_map, if_pos rfl]
    · refine hconcluded.put fun m hm => ?_
      cases List.mem_singleton.mp hm

/-- Whoever gives up an end has requested a reset. -/
theorem ConcludesAll.move (h : p.ConcludesAll) (hmove : Move may p p')
    (hover : ∀ sid r, p.streams sid = some r → r.outgoing = true → r.requested = true) :
    p'.ConcludesAll := by
  cases hmove with
  | act hact => exact h.act hact
  | «open» sid r hr _ => exact h.restage hr rfl rfl
  | vacate sid r hr _ hout =>
    apply h.put
    intro c hc
    rcases h (hc.resolve_right List.not_mem_nil) with ⟨x, hx, -, hspeaks⟩ | hconcluded
    · rw [hr] at hx
      cases hx
      rw [hover sid r hr hout] at hspeaks
      cases hspeaks
    · exact .inr (hconcluded.put fun m => List.not_mem_nil)

theorem ConcludesAll.reacts {i : Item κ μ} (h : p.ConcludesAll) (hreacts : Reacts sid i p p') :
    p'.ConcludesAll := by
  cases hreacts with
  | accept _ _ _ _ _ _ _ hfree _ _ _ _ => exact h.introduce hfree rfl
  | hear _ _ _ _ hr _ => exact h.restage hr rfl rfl
  | asked _ _ hr => exact h.restage hr rfl rfl
  | answered _ _ hr => exact h.restage hr rfl rfl

end Party

/-! ## Section 2: The net -/

/-- Only requests are answered. -/
theorem Conversation.requested_of_answered {r : Occupant κ χ} {p : Option (Occupant κ χ)}
    {qo qp : List (Item κ μ)} {uo up : List κ} (h : Conversation (some r) p qo qp uo up)
    (hout : r.outgoing = true) : r.requested = true := by
  cases h with
  | ending _ _ _ _ hleaving _ => exact hleaving.2.1
  | opening _ _ _ _ _ _ _ _ hopening _ _ =>
    rw [hopening.outgoing] at hout
    cases hout
  | both _ p _ _ _ _ hforth hback _ _ => exact (hforth.ended (hback.answered hout)).1

theorem Conversation.requested_of_answered_other {r : Occupant κ χ} {o : Option (Occupant κ χ)}
    {qo qp : List (Item κ μ)} {uo up : List κ} (h : Conversation o (some r) qo qp uo up)
    (hout : r.outgoing = true) : r.requested = true := by
  cases h with
  | vacant _ _ _ _ hleaving _ => exact hleaving.2.1
  | opening _ _ _ _ _ _ _ hleaving _ _ _ => exact hleaving.2.1
  | both _ _ _ _ _ _ hforth hback _ _ => exact (hback.ended (hforth.answered hout)).1

namespace Net

variable {opener : Nat → Side} {N N' : Net κ χ μ} {e : Side} {sid : Nat} {c : κ}
  {p : Party κ χ μ} {r : Occupant κ χ}

theorem Inv.requested_of_answered (h : N.Inv opener) (hr : (N.party e).streams sid = some r)
    (hout : r.outgoing = true) : r.requested = true := by
  rcases e.eq_or_eq_other (opener sid) with he | he
  · have hconv := (converses_iff he).mp (h sid)
    rw [hr] at hconv
    exact hconv.requested_of_answered hout
  · have hconv := (converses_iff_other he).mp (h sid)
    rw [hr] at hconv
    exact hconv.requested_of_answered_other hout

/-- A party moves. -/
theorem Inv.concludesAll_moves (h : N.Inv opener) (hall : (N.party e).ConcludesAll)
    (hmoves : Party.Moves (.full opener e) (N.party e) p) : p.ConcludesAll := by
  induction hmoves with
  | refl => exact hall
  | @tail p p' hmoves hmove ih =>
    have hinv := h.moves hmoves
    apply ih.move hmove
    intro sid r hr hout
    rw [← party_follow N e p] at hr
    exact hinv.requested_of_answered hr hout

/-- **Whoever may not speak any more has requested a reset after its last message**: this is kept by
    every step of the net. -/
theorem Inv.concludesAll_step (h : N.Inv opener) (hall : ∀ e, (N.party e).ConcludesAll)
    (hstep : Step opener N N') (e : Side) : (N'.party e).ConcludesAll := by
  have hfollow : ∀ {M : Net κ χ μ} {e' : Side} {p : Party κ χ μ},
      (∀ e, (M.party e).ConcludesAll) → p.ConcludesAll → ((M.follow e' p).party e).ConcludesAll := by
    intro M e' p hM hp
    rcases e'.eq_or_eq_other e with rfl | rfl
    · rw [party_follow]
      exact hp
    · rw [party_follow_other]
      exact hM _
  cases hstep with
  | moves e' p hmoves => exact hfollow hall (h.concludesAll_moves (hall e') hmoves)
  | deliver e' sid i pre post p p' hflight hpre hreacts hmoves =>
    apply hfollow hall
    have hinv := h.reacts hflight hpre hreacts
    rw [← party_follow (N.take e' sid i (pre ++ post)) e' p] at hmoves
    apply hinv.concludesAll_moves _ hmoves
    rw [party_follow]
    exact (hall e').reacts hreacts
  | lose e' sid c m pre post _ _ => exact hall e

theorem Vacant.concludesAll (h : N.Vacant) (e : Side) : (N.party e).ConcludesAll := by
  intro sid c hc
  rw [Party.users, h.sent] at hc
  cases hc

end Net

end Streams
