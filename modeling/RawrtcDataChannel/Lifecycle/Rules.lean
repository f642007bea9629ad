import RawrtcDataChannel.Reentrant.Termination
import RawrtcDataChannel.Lifecycle.Changes

/-!
# The contract of the library with its surroundings

The lifecycle invariant and the rely relation, put together to the contract that every entry point
keeps. The rules of this module say what a routine has to establish when it calls a system
function or a handler, and what it knows when it goes on.

System functions are not interrupted. While a handler runs, the library may be entered again.
-/

namespace RawrtcDataChannel

open Reentrant

/-! ## Section 1: The contract -/

/-- What a suspended routine may expect to be kept. -/
def relies : List (Call × Op) → Transport → Transport → Prop
  | [], s, s' => Rely (ongoing []) s.view s'.view
  | (a, o) :: fs, s, s' =>
    if o.isHandler then Rely (ongoing ((a, o) :: fs)) s.view s'.view else s' = s

/-- A reset of a stream is only requested when no message waits. -/
def ResetsIdle : List (Call × Op) → Transport → Prop
  | (_, .resetStreams _) :: _, s => s.bufferedMessagesOutgoing = []
  | _, _ => True

/-- The contract under which the library can be entered again from its handlers. -/
def contract (L : Limits) : Contract Call Op Op.Reply Transport where
  inv fs s := Inv L (ongoing fs) s.view ∧ ResetsIdle fs s
  since s₀ o s := (∀ c, (s₀.dataChannels c).state ≤ (s.dataChannels c).state) ∧
    ∀ c, o = .handler (.closeHandler c) →
      (s₀.dataChannels c).state ≠ .closed ∧ (s.dataChannels c).state = .closed
  rely := relies
  answers _ _ _ := True

theorem relies_refl (fs : List (Call × Op)) (s : Transport) : relies fs s s := by
  cases fs with
  | nil => exact Rely.refl _ _
  | cons f fs =>
    simp only [relies]
    split
    · exact Rely.refl _ _
    · trivial

theorem relies_trans (fs : List (Call × Op)) (s₁ s₂ s₃ : Transport) (h : relies fs s₁ s₂)
    (h' : relies fs s₂ s₃) : relies fs s₁ s₃ := by
  cases fs with
  | nil => exact Rely.trans h h'
  | cons f fs =>
    simp only [relies] at h h' ⊢
    split
    · next ho =>
      rw [if_pos ho] at h h'
      exact h.trans h'
    · next ho =>
      rw [if_neg ho] at h h'
      exact h'.trans h

/-! ## Section 2: What is in progress while something is called -/

section Ongoing

variable {a : Call} {o : Op} {fs : List (Call × Op)} {c : ChannelId} {h : Handler}

theorem here_le_ongoing : (here a fs).Le (ongoing ((a, o) :: fs)) := by
  refine ⟨?_, ?_, ?_, ?_⟩
  · rintro c ⟨b, hb⟩; exact ⟨b, List.mem_cons_of_mem _ hb⟩
  · rintro c ⟨b, hb⟩; exact ⟨b, List.mem_cons_of_mem _ hb⟩
  · rintro (⟨f, hf, hopens⟩ | hopens)
    · exact ⟨f, List.mem_cons_of_mem _ hf, hopens⟩
    · exact ⟨_, List.mem_cons_self, hopens⟩
  · rintro ⟨b, hb⟩; exact ⟨b, List.mem_cons_of_mem _ hb⟩

theorem ongoing_le_cons {f : Call × Op} : (ongoing fs).Le (ongoing (f :: fs)) := by
  refine ⟨?_, ?_, ?_, ?_⟩
  · rintro c ⟨b, hb⟩; exact ⟨b, List.mem_cons_of_mem _ hb⟩
  · rintro c ⟨b, hb⟩; exact ⟨b, List.mem_cons_of_mem _ hb⟩
  · rintro ⟨f, hf, hopens⟩; exact ⟨f, List.mem_cons_of_mem _ hf, hopens⟩
  · rintro ⟨b, hb⟩; exact ⟨b, List.mem_cons_of_mem _ hb⟩

/-- A routine that calls `o` goes on with what it had in progress, and `g` may say more. -/
theorem ongoing_le_of {g : Ongoing} (hg : (here a fs).Le g)
    (hclosing : ∀ c, o = .handler (.closeHandler c) → g.closing c)
    (hregistering : ∀ c, o = .handler (.dataChannelHandler c) → g.registering c)
    (hdetaching : o = .handler .detachHandler → g.detaching) :
    (ongoing ((a, o) :: fs)).Le g := by
  refine ⟨?_, ?_, ?_, ?_⟩
  · rintro c ⟨b, hb⟩
    rcases List.mem_cons.mp hb with hb | hb
    · exact hclosing c (Prod.mk.inj hb).2.symm
    · exact hg.closing c ⟨b, hb⟩
  · rintro c ⟨b, hb⟩
    rcases List.mem_cons.mp hb with hb | hb
    · exact hregistering c (Prod.mk.inj hb).2.symm
    · exact hg.registering c ⟨b, hb⟩
  · rintro ⟨f, hf, hopens⟩
    rcases List.mem_cons.mp hf with rfl | hf
    · exact hg.opening (.inr hopens)
    · exact hg.opening (.inl ⟨f, hf, hopens⟩)
  · rintro ⟨b, hb⟩
    rcases List.mem_cons.mp hb with hb | hb
    · exact hdetaching (Prod.mk.inj hb).2.symm
    · exact hg.detaching ⟨b, hb⟩

theorem Ongoing.Le.refl (g : Ongoing) : g.Le g := ⟨fun _ => id, fun _ => id, id, id⟩

/-- What is relied upon while something is called is relied upon by those who wait anyway. -/
theorem Rely.of_cons {f : Call × Op} {v v' : View} (h : Rely (ongoing (f :: fs)) v v') :
    Rely (ongoing fs) v v' := by
  refine h.anti ongoing_le_cons ?_
  rintro ⟨b, hb, hfr⟩
  exact ⟨b, List.mem_cons_of_mem _ hb, hfr⟩

end Ongoing

/-! ## Section 3: Program points -/

/-- What holds wherever a call is not in the middle of a transition. -/
structure At (L : Limits) (a : Call) (fs : List (Call × Op)) (s₀ s : Transport) : Prop where
  inv : Inv L (here a fs) s.view
  mono : ∀ c, (s₀.dataChannels c).state ≤ (s.dataChannels c).state

section Rules

variable {L : Limits} {a : Call} {fs : List (Call × Op)} {s₀ s s' : Transport} {α : Type}
  {Q : α → Transport → Prop} {c : ChannelId}

theorem At.next (h : At L a fs s₀ s) (hinv : Inv L (here a fs) s'.view)
    (hf : Forward s.view s'.view) : At L a fs s₀ s' :=
  ⟨hinv, fun c => (h.mono c).trans (hf.states c)⟩

theorem At.quiet (h : At L a fs s₀ s) (hq : Quiet s.view s'.view) : At L a fs s₀ s' :=
  h.next (h.inv.quiet hq) (Rely.quiet (g := ongoing fs) hq).toForward

/-- The rule for calls of system functions. -/
theorem safe_system {o : Op} (ho : o.isHandler = false)
    {k : o.Reply → Transport → Prog Op Op.Reply Transport α} (h : At L a fs s₀ s)
    (hidle : ResetsIdle ((a, o) :: fs) s) (hk : ∀ r, (k r s).Safe (contract L) a fs s₀ Q) :
    (Prog.out o s k).Safe (contract L) a fs s₀ Q := by
  refine ⟨⟨⟨h.inv.mono here_le_ongoing, hidle⟩, h.mono, ?_⟩, ?_⟩
  · rintro c rfl
    cases ho
  · intro r s' _ hrely _
    have heq : s' = s := by simpa [contract, relies, ho] using hrely
    rw [heq]
    exact hk r

/-- The rule for calls of handlers. `g` is what the routine has in progress meanwhile. -/
theorem safe_handler {hd : Handler} {g : Ongoing}
    {k : Unit → Transport → Prog Op Op.Reply Transport α} (hinv : Inv L g s.view)
    (hmono : ∀ c, (s₀.dataChannels c).state ≤ (s.dataChannels c).state)
    (hle : g.Le (ongoing ((a, .handler hd) :: fs)))
    (hge : (ongoing ((a, .handler hd) :: fs)).Le g)
    (hclose : ∀ c, hd = .closeHandler c →
      (s₀.dataChannels c).state ≠ .closed ∧ (s.dataChannels c).state = .closed)
    (hk : ∀ s', Inv L g s'.view → Rely (ongoing ((a, .handler hd) :: fs)) s.view s'.view →
      (k () s').Safe (contract L) a fs s₀ Q) :
    (Prog.out (.handler hd) s k : Prog Op Op.Reply Transport α).Safe (contract L) a fs s₀ Q := by
  refine ⟨⟨⟨hinv.mono hle, trivial⟩, hmono, fun c hc => hclose c (Op.handler.inj hc)⟩, ?_⟩
  intro r s' hinv' hrely _
  exact hk s' (hinv'.1.mono hge) hrely

/-- A handler whose call leaves nothing to be completed. -/
def Handler.Ordinary : Handler → Prop
  | .closeHandler _ | .dataChannelHandler _ | .detachHandler => False
  | _ => True

/-- The rule for calls of handlers at the end of a transition. -/
theorem safe_ordinary (hd : Handler) (hord : hd.Ordinary)
    {k : Unit → Transport → Prog Op Op.Reply Transport α} (h : At L a fs s₀ s)
    (hk : ∀ s', At L a fs s₀ s' → Rely (ongoing ((a, .handler hd) :: fs)) s.view s'.view →
      (k () s').Safe (contract L) a fs s₀ Q) :
    (Prog.out (.handler hd) s k : Prog Op Op.Reply Transport α).Safe (contract L) a fs s₀ Q := by
  refine safe_handler h.inv h.mono here_le_ongoing ?_ ?_ fun s' hinv hrely =>
    hk s' (h.next hinv hrely.toForward) hrely
  · refine ongoing_le_of (.refl _) ?_ ?_ ?_
    · rintro c heq; cases heq; exact hord.elim
    · rintro c heq; cases heq; exact hord.elim
    · rintro heq; cases heq; exact hord.elim
  · rintro c rfl
    exact hord.elim

end Rules

end RawrtcDataChannel
