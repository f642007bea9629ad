import RawrtcDataChannel.Redirect.Descriptors

/-!
# Redirect transports own their descriptors

A transport closes its raw socket when it enters the closed state, and it enters that state once:
the mark that it is detached is set before any handler runs. So the descriptor is closed once,
whoever stops the transport and how often. But whether there is a descriptor is read off a field
that `mem_zalloc` leaves at 0. A creation that fails before it calls `socket()` closes descriptor 0.
-/

namespace RawrtcDataChannel

open Reentrant Fallible

/-! ## Section 1: Ownership -/

/-- A transport closes descriptors of its own only, each of them once until it is destroyed. -/
structure OwnsDescriptor (t : RedirectObject) : Prop where
  own : ∀ before fd later, t.events = before ++ .closed fd :: later →
    .opened fd ∈ before ∧ .closed fd ∉ before
  closed : t.destroyed = true → ∀ fd, .opened fd ∈ t.events → t.events.count (.closed fd) = 1

/-- A transport that has a descriptor and uses it. -/
structure RedirectObject.Open (t : RedirectObject) : Prop where
  attached : t.transport.flags.detached = false
  state : t.transport.state ≠ .closed
  destroyed : t.destroyed = false
  hasBuffer : t.hasBuffer = true
  events : ∃ fd : Nat, t.socket = fd ∧ t.events = [.opened fd]

/-- A transport that is done with its descriptor. -/
structure RedirectObject.Shut (t : RedirectObject) : Prop where
  detached : t.transport.flags.detached = true
  events : t.hasBuffer = true → t.events = [] ∨ ∃ fd, t.events = [.opened fd, .closed fd]
  /-- What a creation leaves that has failed before `socket()`. -/
  unopened : t.hasBuffer = false → t.events = [.closed 0]

/-- How transports are found whenever somebody else runs. -/
def RedirectObject.Kept (t : RedirectObject) : Prop :=
  t.Open ∨ t.Shut

/-- Stopping the transport leaves it shut. -/
structure RedirectObject.Closable (t : RedirectObject) : Prop where
  attached : t.transport.flags.detached = false
  state : t.transport.state ≠ .closed
  shut : { t.closeRawSocket with transport := t.transport.detach }.Shut

section Objects

variable {t : RedirectObject}

/-- A list of one or two events in which something is closed. -/
theorem split_closed_two {fd fd' : Int} {before later : List DescriptorEvent}
    (h : [.opened fd, .closed fd] = before ++ .closed fd' :: later) :
    before = [.opened fd] ∧ fd' = fd := by
  match before, h with
  | [_], h =>
    simp only [List.cons_append, List.nil_append, List.cons.injEq, DescriptorEvent.closed.injEq] at h
    exact ⟨by rw [h.1], h.2.1.symm⟩
  | _ :: _ :: _, h => simp at h

/-- Transports own their descriptors exactly if their creation got as far as `socket()`. -/
theorem RedirectObject.Kept.owns_iff (h : t.Kept) : OwnsDescriptor t ↔ t.hasBuffer = true := by
  constructor
  · intro howns
    by_contra hbuffer
    have hnone : t.hasBuffer = false := by simpa using hbuffer
    rcases h with hopen | hshut
    · exact absurd (hopen.hasBuffer.symm.trans hnone) (by decide)
    · -- descriptor 0 was closed, and nothing before
      have hclosed := howns.own [] 0 [] (hshut.unopened hnone)
      exact absurd hclosed.1 List.not_mem_nil
  · intro hbuffer
    rcases h with hopen | hshut
    · obtain ⟨fd, -, hevents⟩ := hopen.events
      constructor
      · intro before fd' later heq
        rw [hevents] at heq
        match before, heq with
        | [], heq => simp at heq
        | _ :: _, heq => simp at heq
      · exact fun hdestroyed => absurd (hopen.destroyed.symm.trans hdestroyed) (by decide)
    · rcases hshut.events hbuffer with hevents | ⟨fd, hevents⟩
      · constructor
        · intro before fd' later heq
          rw [hevents] at heq
          simp at heq
        · intro _ fd' hfd
          rw [hevents] at hfd
          exact absurd hfd List.not_mem_nil
      · constructor
        · intro before fd' later heq
          rw [hevents] at heq
          obtain ⟨rfl, rfl⟩ := split_closed_two heq
          simp
        · intro _ fd' hfd
          rw [hevents] at hfd ⊢
          obtain rfl : fd' = fd := by simpa using hfd
          simp

theorem RedirectObject.Open.closable (h : t.Open) : t.Closable := by
  obtain ⟨fd, hsocket, hevents⟩ := h.events
  have hfd : t.socket ≠ -1 := by omega
  refine ⟨h.attached, h.state, rfl, ?_, ?_⟩
  · intro _
    refine .inr ⟨fd, ?_⟩
    show t.closeRawSocket.events = _
    simp [closeRawSocket, hevents, hsocket]
  · intro hnone
    have hbuffer : t.closeRawSocket.hasBuffer = t.hasBuffer := by
      unfold closeRawSocket
      split <;> rfl
    exact absurd (h.hasBuffer.symm.trans (hbuffer.symm.trans hnone)) (by decide)

/-- A kept transport that is detached is shut. -/
theorem RedirectObject.Kept.shut (h : t.Kept) (hdetached : t.transport.flags.detached = true) :
    t.Shut := by
  rcases h with hopen | hshut
  · exact absurd (hopen.attached.symm.trans hdetached) (by decide)
  · exact hshut

end Objects

/-! ## Section 2: What the code of a transport does -/

/-- The mark that the transport is detached is left alone, and the closed state is not entered. -/
def Harmless (t t' : RedirectTransport) : Prop :=
  t'.flags = t.flags ∧ (t'.state = .closed → t.state = .closed)

instance : IsPreorder RedirectTransport Harmless where
  refl _ := ⟨rfl, id⟩
  trans _ _ _ h h' := ⟨h'.1.trans h.1, h.2 ∘ h'.2⟩

/-- Replacing the receive buffer is harmless. -/
theorem Harmless.setBuffer {t t' : RedirectTransport} (h : Harmless t t') (buffer : Mbuf) :
    Harmless t (t'.setBuffer buffer) :=
  h

/-- The mark that the transport is detached is left alone. -/
def SameFlags (t t' : RedirectTransport) : Prop :=
  t'.flags = t.flags

instance : IsPreorder RedirectTransport SameFlags where
  refl _ := rfl
  trans _ _ _ h h' := h'.trans h

/-- The end of `set_state`. -/
theorem endSetState_stays {R : RedirectTransport → RedirectTransport → Prop}
    [IsPreorder RedirectTransport R] (state : RedirectTransportState)
    (hset : ∀ t : RedirectTransport, R t (t.setState state)) :
    (do modify (·.setState state); let t ← get
        if t.stateChangeHandler then
          redirectStateChangeHandler state : RedirectM Unit).Stays R := by
  refine (Routine.stays_modify hset).bind fun _ => Routine.stays_get.bind fun t => ?_
  exact (Routine.stays_perform _).ite (Routine.stays_pure _)

theorem redirectTransportStart_stays (remotePort : Nat) :
    (redirectTransportStart remotePort).Stays Harmless := by
  unfold redirectTransportStart
  refine Routine.stays_get.bind fun t => (Routine.stays_pure _).ite ?_
  refine (Routine.stays_modify fun _ => ⟨rfl, id⟩).bind fun _ => ?_
  refine (Routine.stays_perform RedirectOp.fdListen).bind fun error => ?_
  cases error with
  | some error => exact Routine.stays_pure _
  | none =>
    refine Routine.Stays.bind ?_ fun _ => Routine.stays_pure _
    -- the transport is opened
    exact endSetState_stays .opened fun t => ⟨rfl, fun h => by cases h⟩

section Code

variable [SoftwareCrc32c]

theorem redirectTransportFeedInbound_stays (buffer : Mbuf) :
    (redirectTransportFeedInbound buffer).Stays Harmless := by
  unfold redirectTransportFeedInbound
  refine Routine.stays_get.bind fun t => (Routine.stays_pure _).ite ((Routine.stays_pure _).ite ?_)
  refine (Routine.stays_perform (RedirectOp.sendto _)).bind fun error => ?_
  cases error <;> exact Routine.stays_pure _

variable [SocketAddress]

theorem redirectPacket_stays (fromAddress : Sa) (bytes : Bytes) :
    (redirectPacket fromAddress bytes).Stays Harmless := by
  intro t
  simp only [redirectPacket, Routine.run_bind, Routine.run_modify, Prog.bind, Routine.run_get,
    Routine.run_ite, Routine.run_pure, run_outboundHandler]
  have hreceived := (refl_of Harmless t).setBuffer (t.buffer.receive bytes)
  split
  · exact hreceived
  split
  · exact hreceived.setBuffer _
  · exact ⟨(hreceived.setBuffer _).setBuffer _, fun _ t' => refl_of Harmless t'⟩

theorem redirectFromRaw_stays (fdRead : Bool) (received : RawReceived) :
    (redirectFromRaw fdRead received).Stays Harmless := by
  unfold redirectFromRaw
  refine Routine.stays_get.bind fun t => (Routine.stays_pure _).ite ?_
  have hrewind : (modify RedirectTransport.rewind : RedirectM Unit).Stays Harmless :=
    Routine.stays_modify fun t => (refl_of Harmless t).setBuffer _
  refine Routine.Stays.ite ?_ hrewind
  cases received with
  | error => exact hrewind
  | packet fromAddress bytes =>
    exact (redirectPacket_stays fromAddress bytes).bind fun _ => hrewind

/-- No entry point but `stop` closes a transport. -/
theorem redirectCall_stays {a : RedirectCall} (ha : a ≠ .stop) : a.run.Stays Harmless := by
  cases a with
  | start remotePort => exact (redirectTransportStart_stays remotePort).map _
  | stop => exact absurd rfl ha
  | feedInbound buffer => exact (redirectTransportFeedInbound_stays buffer).map _
  | fromRaw fdRead received => exact redirectFromRaw_stays fdRead received

end Code

/-! ## Section 3: The contract -/

/-- Every transport is as it should be. -/
def RedirectWorld.Kept (w : RedirectWorld) : Prop :=
  ∀ i < w.next, (w.objects i).Kept

/-- Transports come, and what is detached stays detached. -/
structure LeavesDetached (w w' : RedirectWorld) : Prop where
  next : w.next ≤ w'.next
  detached : ∀ i < w.next, (w.objects i).transport.flags.detached = true →
    (w'.objects i).transport.flags.detached = true

instance : IsPreorder RedirectWorld LeavesDetached where
  refl _ := ⟨le_refl _, fun _ _ => id⟩
  trans _ _ _ h h' :=
    ⟨h.next.trans h'.next, fun i hi hd => h'.detached i (hi.trans_le h.next) (h.detached i hi hd)⟩

/-- The contract of redirect transports with whoever runs in their handlers. -/
def ownershipContract : Contract ObjectCall ObjectOp ObjectOp.Reply RedirectWorld where
  inv _ := RedirectWorld.Kept
  since _ _ _ := True
  rely _ := LeavesDetached
  answers _ _ _ := True

section Worlds

variable {w : RedirectWorld} {i j : Nat}

theorem RedirectWorld.objects_modifyObject_self (f : RedirectObject → RedirectObject) :
    (w.modifyObject i f).objects i = f (w.objects i) :=
  Function.update_self ..

theorem RedirectWorld.objects_modifyObject_of_ne (f : RedirectObject → RedirectObject)
    (h : j ≠ i) : (w.modifyObject i f).objects j = w.objects j :=
  Function.update_of_ne h ..

/-- Changing one object. -/
theorem RedirectWorld.kept_modifyObject {f : RedirectObject → RedirectObject}
    (hothers : ∀ j < w.next, j ≠ i → (w.objects j).Kept)
    (hself : i < w.next → (f (w.objects i)).Kept) : (w.modifyObject i f).Kept := by
  intro j hj
  by_cases hji : j = i
  · subst hji
    rw [objects_modifyObject_self]
    exact hself hj
  · rw [objects_modifyObject_of_ne f hji]
    exact hothers j hj hji

theorem RedirectWorld.leavesDetached_modifyObject {f : RedirectObject → RedirectObject}
    (hself : (w.objects i).transport.flags.detached = true →
      (f (w.objects i)).transport.flags.detached = true) : LeavesDetached w (w.modifyObject i f) := by
  refine ⟨le_refl _, fun j _ hj => ?_⟩
  by_cases hji : j = i
  · subst hji
    rw [objects_modifyObject_self]
    exact hself hj
  · rw [objects_modifyObject_of_ne f hji]
    exact hj

/-- Replacing the transport of one object. -/
theorem RedirectWorld.kept_setTransport {t : RedirectTransport} (h : w.Kept)
    (hself : i < w.next → RedirectObject.Kept { w.objects i with transport := t }) :
    (w.setTransport i t).Kept :=
  kept_modifyObject (fun j hj _ => h j hj) hself

theorem RedirectWorld.leavesDetached_setTransport {t : RedirectTransport}
    (hself : (w.objects i).transport.flags.detached = true → t.flags.detached = true) :
    LeavesDetached w (w.setTransport i t) :=
  leavesDetached_modifyObject hself

theorem RedirectWorld.detached_setTransport (t : RedirectTransport) :
    ((w.setTransport i t).objects i).transport = t :=
  congrArg RedirectObject.transport (objects_modifyObject_self _)

theorem RedirectWorld.objects_addObject_self (object : RedirectObject) :
    (w.addObject object).objects w.next = object :=
  Function.update_self ..

theorem RedirectWorld.objects_addObject_of_ne (object : RedirectObject) (h : j ≠ w.next) :
    (w.addObject object).objects j = w.objects j :=
  Function.update_of_ne h ..

/-- Adding an object. -/
theorem RedirectWorld.leavesDetached_addObject (object : RedirectObject) :
    LeavesDetached w (w.addObject object) := by
  refine ⟨Nat.le_succ _, fun j hj hd => ?_⟩
  rw [objects_addObject_of_ne object (Nat.ne_of_lt hj)]
  exact hd

end Worlds

/-- A harmless change keeps a transport as it should be. -/
theorem RedirectObject.Kept.transport {t : RedirectObject} (h : t.Kept) {s : RedirectTransport}
    (hs : Harmless t.transport s) : RedirectObject.Kept { t with transport := s } := by
  rcases h with hopen | hshut
  · refine .inl ⟨?_, ?_, hopen.destroyed, hopen.hasBuffer, hopen.events⟩
    · show s.flags.detached = false
      rw [hs.1]
      exact hopen.attached
    · exact mt hs.2 hopen.state
  · refine .inr ⟨?_, hshut.events, hshut.unopened⟩
    show s.flags.detached = true
    rw [hs.1]
    exact hshut.detached

/-- So does every change of a transport that is detached and stays so. -/
theorem RedirectObject.Shut.transport {t : RedirectObject} (h : t.Shut) {s : RedirectTransport}
    (hs : s.flags.detached = true) : RedirectObject.Shut { t with transport := s } :=
  ⟨hs, h.events, h.unopened⟩

section Safe

variable {α : Type} {a : ObjectCall} {fs : List (ObjectCall × ObjectOp)} {w₀ w : RedirectWorld}
  {i : Nat}

/-- The code of a transport that does not close it. -/
theorem onTransport_safe {m : RedirectM α} (hm : m.Stays Harmless) (h : w.Kept) :
    ((onTransport i m).run w).Safe ownershipContract a fs w₀ fun _ w' =>
      w'.Kept ∧ LeavesDetached w w' := by
  refine Prog.Stays.safe_onPart (I := RedirectWorld.Kept) (L := LeavesDetached) ?_ ?_ ?_ (hm _) h
  · intro w s hw hs
    refine ⟨RedirectWorld.kept_setTransport hw fun hi => (hw i hi).transport hs, ?_⟩
    exact RedirectWorld.leavesDetached_setTransport fun hd => (congrArg _ hs.1).trans hd
  · exact fun _ _ _ hw => ⟨hw, trivial⟩
  · exact fun _ _ _ _ hw' hrely => ⟨hw', hrely⟩

/-- Everything is as it should be, and this transport is detached. -/
structure RedirectWorld.Detached (w : RedirectWorld) (i : Nat) : Prop where
  kept : w.Kept
  lt_next : i < w.next
  detached : (w.objects i).transport.flags.detached = true

/-- Code on a transport that has been detached. -/
theorem onDetached_safe {m : RedirectM α} (hm : m.Stays SameFlags) (h : w.Detached i) :
    ((onTransport i m).run w).Safe ownershipContract a fs w₀ fun _ w' =>
      w'.Detached i ∧ LeavesDetached w w' := by
  refine Prog.Stays.safe_onPart (I := (RedirectWorld.Detached · i)) (L := LeavesDetached)
    ?_ ?_ ?_ (hm _) h
  · intro w s hw hs
    have hflags : s.flags.detached = true := (congrArg _ hs).trans hw.detached
    refine ⟨⟨?_, hw.lt_next, ?_⟩, RedirectWorld.leavesDetached_setTransport fun _ => hflags⟩
    · refine RedirectWorld.kept_setTransport hw.kept fun hi => .inr ?_
      exact ((hw.kept i hi).shut hw.detached).transport hflags
    · show ((w.setTransport i s).objects i).transport.flags.detached = true
      rw [RedirectWorld.detached_setTransport]
      exact hflags
  · exact fun _ _ _ hw => ⟨hw.kept, trivial⟩
  · intro o w w' hw hw' hrely
    exact ⟨⟨hw', hw.lt_next.trans_le hrely.next, hrely.detached i hw.lt_next hw.detached⟩, hrely⟩

/-- A transport that stopping leaves shut, or has left so. -/
def RedirectObject.Stoppable (t : RedirectObject) : Prop :=
  t.Shut ∨ t.Closable

theorem RedirectObject.Kept.stoppable {t : RedirectObject} (h : t.Kept) : t.Stoppable :=
  h.symm.imp_right RedirectObject.Open.closable

/-- Closing a transport: nobody else runs before it is shut. -/
theorem objectSetState_closed_safe (hothers : ∀ j < w.next, j ≠ i → (w.objects j).Kept)
    (hi : i < w.next) (hself : (w.objects i).Closable) :
    ((objectSetState i .closed).run w).Safe ownershipContract a fs w₀ fun _ w' =>
      w'.Detached i ∧ LeavesDetached w w' := by
  -- the world in which the detach handler is called
  let closed := w.modifyObject i RedirectObject.closeRawSocket
  let detached := closed.setTransport i (closed.objects i).transport.detach
  have hrun : (objectSetState i .closed).run w =
      .out (.transport i .detachHandler) detached fun _ w' =>
        (onTransport i (do
          modify (·.setState .closed); let t ← get
          if t.stateChangeHandler then
            redirectStateChangeHandler .closed : RedirectM Unit)).run w' := rfl
  have hobject : closed.objects i = (w.objects i).closeRawSocket :=
    RedirectWorld.objects_modifyObject_self _
  have hdetached : detached.Detached i := by
    refine ⟨?_, hi, ?_⟩
    · apply RedirectWorld.kept_modifyObject
      · intro j hj hji
        rw [show closed.objects j = w.objects j from RedirectWorld.objects_modifyObject_of_ne _ hji]
        exact hothers j hj hji
      · intro _
        have hsame : (w.objects i).closeRawSocket.transport = (w.objects i).transport := by
          unfold RedirectObject.closeRawSocket
          split <;> rfl
        rw [hobject, hsame]
        exact .inr hself.shut
    · rw [RedirectWorld.detached_setTransport]
      rfl
  have hleaves : LeavesDetached w detached := by
    have hclosed : LeavesDetached w closed := by
      refine RedirectWorld.leavesDetached_modifyObject fun hd => ?_
      exact absurd (hself.attached.symm.trans hd) (by decide)
    exact trans_of LeavesDetached hclosed (RedirectWorld.leavesDetached_setTransport fun _ => rfl)
  rw [hrun]
  refine ⟨⟨hdetached.kept, trivial⟩, ?_⟩
  intro r w' hkept hrely _
  have hdetached' : w'.Detached i :=
    ⟨hkept, hdetached.lt_next.trans_le hrely.next, hrely.detached i hi hdetached.detached⟩
  apply (onDetached_safe (endSetState_stays .closed fun _ => rfl) hdetached').mono
  intro _ w'' h
  exact ⟨h.1, trans_of LeavesDetached hleaves (trans_of LeavesDetached hrely h.2)⟩

/-- Stopping. Only the transport itself may still have to be closed. -/
theorem objectStop_safe (hothers : ∀ j < w.next, j ≠ i → (w.objects j).Kept) (hi : i < w.next)
    (hself : (w.objects i).Stoppable) :
    ((objectStop i).run w).Safe ownershipContract a fs w₀ fun _ w' =>
      w'.Detached i ∧ LeavesDetached w w' := by
  simp only [objectStop, Routine.run_bind, Routine.run_get, Prog.bind, Routine.run_ite]
  rcases hself with hshut | hclosable
  · -- there is nothing left to do
    rw [if_pos (.inl hshut.detached)]
    refine ⟨⟨fun j hj => ?_, hi, hshut.detached⟩, refl_of LeavesDetached w⟩
    by_cases hji : j = i
    · exact hji ▸ .inr hshut
    · exact hothers j hj hji
  · have hrunning : ¬ ((w.objects i).transport.flags.detached = true ∨
        (w.objects i).transport.state = .closed) := by
      simp [hclosable.attached, hclosable.state]
    rw [if_neg hrunning]
    simp only [Prog.safe_bind]
    exact objectSetState_closed_safe hothers hi hclosable

/-- Destroying. -/
theorem objectDestroy_safe (hothers : ∀ j < w.next, j ≠ i → (w.objects j).Kept) (hi : i < w.next)
    (hself : (w.objects i).Stoppable) :
    ((objectDestroy i).run w).Safe ownershipContract a fs w₀ fun _ w' =>
      w'.Kept ∧ LeavesDetached w w' := by
  -- the end of the destructor, behind the destroyed handler
  have hend : ∀ w' : RedirectWorld, w'.Detached i → LeavesDetached w w' →
      RedirectWorld.Kept (w'.modifyObject i ({ · with destroyed := true })) ∧
        LeavesDetached w (w'.modifyObject i ({ · with destroyed := true })) := by
    intro w' hw' hleaves
    refine ⟨?_, trans_of LeavesDetached hleaves (RedirectWorld.leavesDetached_modifyObject id)⟩
    refine RedirectWorld.kept_modifyObject (fun j hj _ => hw'.kept j hj) fun hi' => ?_
    have hshut := (hw'.kept i hi').shut hw'.detached
    exact .inr ⟨hshut.detached, hshut.events, hshut.unopened⟩
  simp only [objectDestroy, Routine.run_bind, Prog.safe_bind]
  apply (objectStop_safe hothers hi hself).mono
  rintro code w' ⟨hw', hleaves⟩
  simp only [Routine.run_get, Prog.safe_ret, Routine.run_ite]
  split
  · show _ ∧ _
    refine ⟨⟨hw'.kept, trivial⟩, ?_⟩
    intro r w'' hkept hrely _
    have hw'' : w''.Detached i :=
      ⟨hkept, hw'.lt_next.trans_le hrely.next, hrely.detached i hw'.lt_next hw'.detached⟩
    exact hend w'' hw'' (trans_of LeavesDetached hleaves hrely)
  · exact hend w' hw' hleaves

end Safe

/-! ## Section 4: Creations -/

/-- A creation either opens its raw socket or leaves something that can be stopped. -/
theorem ends_openRawSocket (a : RedirectAnswers) (addr : UInt32) :
    Ends (openRawSocket a) (.allocated a addr) (fun _ t => t.Open) fun _ t => t.Closable := by
  have hnew : ∀ t : RedirectObject, t.transport = (RedirectObject.allocated a addr).transport →
      t.transport.flags.detached = false ∧ t.transport.state ≠ .closed := by
    intro t ht
    rw [ht]
    exact ⟨rfl, by simp [RedirectObject.allocated, RedirectTransport.create]⟩
  unfold openRawSocket
  cases hbuffer : a.allocBuffer with
  | false =>
    -- `socket` is still 0
    refine ⟨rfl, (hnew _ rfl).2, rfl, fun h => ?_, fun _ => rfl⟩
    cases h
  | true =>
    cases hsocket : a.socket with
    | error error =>
      refine ⟨rfl, (hnew _ rfl).2, rfl, fun _ => .inl rfl, fun h => ?_⟩
      cases h
    | ok fd =>
      have hopen : RedirectObject.Open
          ({ RedirectObject.allocated a addr with hasBuffer := true }.storeSocket fd) :=
        ⟨rfl, (hnew _ rfl).2, rfl, rfl, fd, rfl, rfl⟩
      cases hblocking : a.blockingSet with
      | none => exact hopen
      | some error => exact hopen.closable

section Entries

variable {a : ObjectCall} {fs : List (ObjectCall × ObjectOp)} {w : RedirectWorld}

theorem objectCreate_safe (answers : RedirectAnswers) (h : w.Kept) :
    ((objectCreate answers).run w).Safe ownershipContract a fs w fun _ w' =>
      w'.Kept ∧ LeavesDetached w w' := by
  have hnothing : w.Kept ∧ LeavesDetached w w := ⟨h, refl_of LeavesDetached w⟩
  unfold objectCreate
  cases hcheck : checkRedirectArguments answers with
  | error error => exact hnothing
  | ok addr =>
    dsimp only
    cases halloc : answers.allocTransport with
    | false => exact hnothing
    | true =>
      simp only [if_true, Routine.run_bind, Routine.run_get, Prog.bind]
      -- the objects that exist before are not touched by adding one
      have hothers : ∀ (object : RedirectObject), ∀ j < (w.addObject object).next, j ≠ w.next →
          ((w.addObject object).objects j).Kept := by
        intro object j hj hjn
        rw [RedirectWorld.objects_addObject_of_ne object hjn]
        refine h j ?_
        have hlt : j < w.next + 1 := hj
        omega
      obtain ⟨u, object, hrun, hopen⟩ | ⟨error, object, hrun, hclosable⟩ :=
        (ends_openRawSocket answers addr).elim
      · rw [hrun]
        refine ⟨fun j hj => ?_, RedirectWorld.leavesDetached_addObject _⟩
        by_cases hjn : j = w.next
        · subst hjn
          rw [RedirectWorld.objects_addObject_self]
          exact .inl ⟨hopen.attached, hopen.state, hopen.destroyed, hopen.hasBuffer, hopen.events⟩
        · exact hothers _ j hj hjn
      · rw [hrun]
        simp only [Routine.run_bind, Routine.run_modify, Prog.bind, Prog.safe_bind]
        have hself : ((w.addObject object).objects w.next).Stoppable := by
          rw [RedirectWorld.objects_addObject_self]
          exact .inr hclosable
        apply (objectDestroy_safe (hothers object) (Nat.lt_succ_self _) hself).mono
        intro _ w' hw'
        exact ⟨hw'.1, trans_of LeavesDetached (RedirectWorld.leavesDetached_addObject _) hw'.2⟩

variable [SoftwareCrc32c] [SocketAddress]

/-- Every entry point keeps the contract. -/
theorem objectCall_safe (h : w.Kept) (hp : a.Permitted fs w) :
    (a.run.run w).Safe ownershipContract a fs w fun _ w' => w'.Kept ∧ LeavesDetached w w' := by
  cases a with
  | create answers =>
    simp only [ObjectCall.run, Routine.run_map, Prog.safe_bind]
    exact (objectCreate_safe answers h).mono fun _ _ hw' => hw'
  | use i call =>
    obtain ⟨hi, -, -⟩ := hp.usable i rfl
    by_cases hstop : call = .stop
    · subst hstop
      simp only [ObjectCall.run, Routine.run_map, Prog.safe_bind]
      apply (objectStop_safe (fun j hj _ => h j hj) hi (h i hi).stoppable).mono
      exact fun _ w' hw' => ⟨hw'.1.kept, hw'.2⟩
    · have hrun : (ObjectCall.use i call).run = onTransport i call.run := by
        cases call <;> first | rfl | exact absurd rfl hstop
      rw [hrun]
      exact onTransport_safe (redirectCall_stays hstop) h
  | destroy i =>
    obtain ⟨hi, -, -⟩ := hp.usable i rfl
    exact objectDestroy_safe (fun j hj _ => h j hj) hi (h i hi).stoppable

/-! ## Section 5: Every run -/

theorem reachable_kept {c : Config ObjectCall ObjectOp ObjectOp.Reply RedirectWorld Unit}
    (h : Reachable objectHost {} c) : c.state.Kept :=
  reachable_invariant (C := ownershipContract) (fun _ w => refl_of LeavesDetached w)
    (fun _ _ _ _ => trans_of LeavesDetached) (fun _ _ _ _ => trivial)
    (fun _ _ _ hkept hp => objectCall_safe hkept hp) (fun _ hi => absurd hi (Nat.not_lt_zero _)) h

/-- **Which transports own their descriptors.** In every run, whatever handlers do, these are the
    transports whose receive buffer could be allocated. -/
theorem ownsDescriptor_iff {c : Config ObjectCall ObjectOp ObjectOp.Reply RedirectWorld Unit}
    (h : Reachable objectHost {} c) {i : Nat} (hi : i < c.state.next) :
    OwnsDescriptor (c.state.objects i) ↔ (c.state.objects i).hasBuffer = true :=
  (reachable_kept h i hi).owns_iff

end Entries

/-- One transport, whose descriptor is 3. -/
def createdRedirect : RedirectWorld :=
  RedirectWorld.addObject {}
    { RedirectObject.storeSocket { RedirectObject.allocated {} 0x0a000002 with hasBuffer := true } 3
      with initialized := true }

theorem permitted_create {answers : RedirectAnswers} {w : RedirectWorld} :
    (ObjectCall.create answers).Permitted [] w where
  handler f hf := absurd hf List.not_mem_nil
  usable i hi := by cases hi
  destroy i hi := by cases hi
  fromRaw i fdRead received hi := by cases hi

theorem reachable_createdRedirect :
    Reachable (@objectHost bitwiseCrc32c plainSocketAddress) {} ⟨createdRedirect, []⟩ :=
  Reachable.start.enter_outcome (a := ObjectCall.create {}) (r := ())
    permitted_create (.ret _ _)

theorem permitted_destroy :
    (ObjectCall.destroy 0).Permitted [] createdRedirect where
  handler f hf := absurd hf List.not_mem_nil
  usable i hi := by
    obtain rfl : 0 = i := Option.some.inj hi
    exact ⟨by decide, rfl, rfl⟩
  destroy i _ f hf := absurd hf List.not_mem_nil
  fromRaw i fdRead received hi := by cases hi

/-- Surroundings in which nothing fails. -/
def obligingObjects : (o : ObjectOp) → RedirectWorld → o.Reply
  | .transport _ (.outboundHandler _), _ => Code.success
  | .transport _ .detachHandler, _ => ()
  | .transport _ (.stateChangeHandler _), _ => ()
  | .transport _ .fdListen, _ => (none : Option Failure)
  | .transport _ (.sendto _), _ => (none : Option Failure)
  | .destroyedHandler _, _ => ()

/-- The transport has been destroyed. -/
def destroyedRedirect : RedirectWorld :=
  ((objectDestroy 0).run createdRedirect |>.exec obligingObjects).2

theorem reachable_destroyedRedirect :
    Reachable (@objectHost bitwiseCrc32c plainSocketAddress) {} ⟨destroyedRedirect, []⟩ :=
  reachable_createdRedirect.enter_outcome (a := ObjectCall.destroy 0) permitted_destroy
    (Prog.outcome_exec obligingObjects (fun _ _ => trivial) _)

/-- A transport that was created and destroyed owned its descriptor. -/
theorem ownsDescriptor_iff_destroyed :
    (destroyedRedirect.objects 0).events = [.opened 3, .closed 3] ∧
      (destroyedRedirect.objects 0).destroyed = true ∧
      (OwnsDescriptor (destroyedRedirect.objects 0) ↔
        (destroyedRedirect.objects 0).hasBuffer = true) :=
  ⟨rfl, rfl,
    @ownsDescriptor_iff bitwiseCrc32c plainSocketAddress _ reachable_destroyedRedirect 0 (by decide)⟩

/-- A creation whose receive buffer cannot be allocated closes descriptor 0. -/
theorem not_ownsDescriptor :
    ∃ c, Reachable (@objectHost bitwiseCrc32c plainSocketAddress) {} c ∧ 0 < c.state.next ∧
      ¬ OwnsDescriptor (c.state.objects 0) := by
  let _ := bitwiseCrc32c
  let _ := plainSocketAddress
  let call : ObjectCall := .create { allocBuffer := false }
  let c := settle call (call.run.run {}) []
  refine ⟨c, Reachable.start.step (.enter call _ [] permitted_create), by decide, fun howns => ?_⟩
  have hevents : (c.state.objects 0).events = [.closed 0] := rfl
  have hclosed := howns.own [] 0 [] hevents
  exact absurd hclosed.1 List.not_mem_nil

end RawrtcDataChannel
