import RawrtcDataChannel.Reentrant.Machine

/-!
# Reasoning about re-entrant code

A routine that calls out has to leave things in order before it does, and may rely on what every
re-entry keeps. `Prog.Safe` is the weakest precondition of an execution under such a contract:

- `inv` has to hold whenever control is handed over,
- `since` relates the state the call was entered in and the state it hands over,
- `rely` relates the state handed over and the state the routine is resumed in,
- `answers` bounds what it is told.

`reachable_invariant` is the rule for whole systems: if every entry point, entered in a state
where the invariant holds, is safe and its own effect is one that others may rely on, the
invariant holds in every reachable configuration, however deep the re-entry is.
-/

namespace Reentrant

variable {Call Op : Type} {Reply : Op → Type} {σ ρ α β : Type}

/-! ## Section 1: Safe executions -/

/-- What a routine owes its surroundings, and what it may expect of them. -/
structure Contract (Call Op : Type) (Reply : Op → Type) (σ : Type) where
  inv : List (Call × Op) → σ → Prop
  since : σ → Op → σ → Prop
  rely : List (Call × Op) → σ → σ → Prop
  answers : (o : Op) → σ → Reply o → Prop

/-- The execution `p` of the call `a`, entered in `s₀` on top of the suspended `fs`, keeps the
    contract and ends in `Q`. -/
def Prog.Safe (C : Contract Call Op Reply σ) (a : Call) (fs : List (Call × Op)) (s₀ : σ)
    (Q : α → σ → Prop) : Prog Op Reply σ α → Prop
  | .ret r s => Q r s
  | .out o s k => (C.inv ((a, o) :: fs) s ∧ C.since s₀ o s) ∧
      ∀ r s', C.inv ((a, o) :: fs) s' → C.rely ((a, o) :: fs) s s' → C.answers o s' r →
        (k r s').Safe C a fs s₀ Q

section Rules

variable {C : Contract Call Op Reply σ} {a : Call} {fs : List (Call × Op)} {s₀ : σ}

@[simp] theorem Prog.safe_ret {Q : α → σ → Prop} (r : α) (s : σ) :
    (Prog.ret r s : Prog Op Reply σ α).Safe C a fs s₀ Q ↔ Q r s := Iff.rfl

/-- The consequence rule. -/
theorem Prog.Safe.mono {Q Q' : α → σ → Prop} {p : Prog Op Reply σ α}
    (h : p.Safe C a fs s₀ Q) (hQ : ∀ r s, Q r s → Q' r s) : p.Safe C a fs s₀ Q' := by
  induction p with
  | ret r s => exact hQ r s h
  | out o s k ih =>
    obtain ⟨hinv, hk⟩ := h
    exact ⟨hinv, fun r s' h₁ h₂ h₃ => ih r s' (hk r s' h₁ h₂ h₃)⟩

/-- The sequencing rule. -/
@[simp] theorem Prog.safe_bind {Q : β → σ → Prop} (p : Prog Op Reply σ α)
    (f : α → σ → Prog Op Reply σ β) :
    (p.bind f).Safe C a fs s₀ Q ↔ p.Safe C a fs s₀ fun r s => (f r s).Safe C a fs s₀ Q := by
  induction p with
  | ret r s => rfl
  | out o s k ih => simp only [Prog.bind, Prog.Safe, ih]

/-- Keep the contract and the first postcondition, prove the second from it. -/
theorem Prog.Safe.bind {Q : α → σ → Prop} {Q' : β → σ → Prop} {p : Prog Op Reply σ α}
    {f : α → σ → Prog Op Reply σ β} (hp : p.Safe C a fs s₀ Q)
    (hf : ∀ r s, Q r s → (f r s).Safe C a fs s₀ Q') : (p.bind f).Safe C a fs s₀ Q' :=
  (Prog.safe_bind p f).mpr (hp.mono hf)

end Rules

/-- Safe executions that are never re-entered end in their postcondition. -/
theorem Prog.Safe.outcome {C : Contract Call Op Reply σ} {a : Call} {fs : List (Call × Op)} {s₀ : σ}
    (hrefl : ∀ fs s, C.rely fs s s) {Q : α → σ → Prop} {p : Prog Op Reply σ α}
    (h : p.Safe C a fs s₀ Q) {r : α} {s : σ} (hout : p.Outcome C.answers r s) : Q r s := by
  induction hout with
  | ret r s => exact h
  | out o s k r b s' hr _ ih => exact ih (h.2 r s h.1.1 (hrefl _ s) hr)

/-! ## Section 2: The invariant rule -/

/-- What the machine owes each suspended routine: whenever the surroundings are done, it goes on
    safely and restores what its caller expects. `s₁` is the state it was entered in. -/
def Kept (C : Contract Call Op Reply σ) (s : σ) : List (Frame Call Op Reply σ ρ) → Prop
  | [] => True
  | f :: stack => ∃ s₁ sₒ, C.rely (pending (f :: stack)) sₒ s ∧
      (∀ r s', C.inv (pending (f :: stack)) s' → C.rely (pending (f :: stack)) sₒ s' →
        C.answers f.op s' r → (f.resume r s').Safe C f.call (pending stack) s₁
          fun _ s'' => C.inv (pending stack) s'' ∧ C.rely (pending stack) s₁ s'') ∧
      Kept C s₁ stack

section Invariant

variable {H : Host Call Op Reply σ ρ} {C : Contract Call Op Reply σ}

private theorem Kept.trans (htrans : ∀ fs s₁ s₂ s₃, C.rely fs s₁ s₂ → C.rely fs s₂ s₃ →
      C.rely fs s₁ s₃) {s s' : σ} {stack : List (Frame Call Op Reply σ ρ)}
    (h : Kept C s stack) (hs : C.rely (pending stack) s s') : Kept C s' stack := by
  cases stack with
  | nil => trivial
  | cons f stack =>
    obtain ⟨s₁, sₒ, hrely, hresume, hrest⟩ := h
    exact ⟨s₁, sₒ, htrans _ _ _ _ hrely hs, hresume, hrest⟩

private theorem kept_settle (hrefl : ∀ fs s, C.rely fs s s)
    (htrans : ∀ fs s₁ s₂ s₃, C.rely fs s₁ s₂ → C.rely fs s₂ s₃ → C.rely fs s₁ s₃)
    {a : Call} {p : Prog Op Reply σ ρ} {stack : List (Frame Call Op Reply σ ρ)} {s₁ : σ}
    (hp : p.Safe C a (pending stack) s₁
      fun _ s' => C.inv (pending stack) s' ∧ C.rely (pending stack) s₁ s')
    (hrest : Kept C s₁ stack) :
    C.inv (pending (settle a p stack).stack) (settle a p stack).state ∧
      Kept C (settle a p stack).state (settle a p stack).stack := by
  cases p with
  | ret r s => exact ⟨hp.1, hrest.trans htrans hp.2⟩
  | out o s k => exact ⟨hp.1.1, s₁, s, hrefl _ s, hp.2, hrest⟩

/-- **The invariant rule.** If the invariant holds at the start and every permitted entry is
    safe, restores the invariant and has an effect that is relied upon at most, the invariant
    holds in every reachable configuration. -/
theorem reachable_invariant (hrefl : ∀ fs s, C.rely fs s s)
    (htrans : ∀ fs s₁ s₂ s₃, C.rely fs s₁ s₂ → C.rely fs s₂ s₃ → C.rely fs s₁ s₃)
    (hanswers : ∀ o s r, H.answers o s r → C.answers o s r)
    (hcode : ∀ a fs s, C.inv fs s → H.permits fs s a →
      ((H.code a).run s).Safe C a fs s fun _ s' => C.inv fs s' ∧ C.rely fs s s')
    {s₀ : σ} (hinit : C.inv [] s₀) {c : Config Call Op Reply σ ρ} (hc : Reachable H s₀ c) :
    C.inv (pending c.stack) c.state := by
  suffices h : C.inv (pending c.stack) c.state ∧ Kept C c.state c.stack from h.1
  induction hc with
  | refl => exact ⟨hinit, trivial⟩
  | tail _ hstep ih =>
    obtain ⟨hinv, hkept⟩ := ih
    cases hstep with
    | enter a s stack hp => exact kept_settle hrefl htrans (hcode a _ s hinv hp) hkept
    | answer f r s stack hr =>
      obtain ⟨s₁, sₒ, hrely, hresume, hrest⟩ := hkept
      exact kept_settle hrefl htrans (hresume r s hinv hrely (hanswers _ _ _ hr)) hrest

end Invariant

end Reentrant
