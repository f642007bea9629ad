import Mathlib.Order.Defs.Unbundled
import RawrtcDataChannel.Reentrant.Program

/-!
# Surroundings that interfere

A routine that waits for an answer may find the state changed when it goes on. `rely` says which
changes there may be. Nothing else is known about what happens meanwhile: entry points may have
been used, any number of times and to any depth.
-/

namespace Reentrant

variable {Op : Type} {Reply : Op → Type} {σ α β : Type}

/-! ## Section 1: Interference that is the same for all operations -/

/-- `p.OutcomeUnder rely answers a s`: the execution `p` may return `a` in state `s` when the
    surroundings change the state as `rely` allows before each of their answers. -/
inductive Prog.OutcomeUnder (rely : σ → σ → Prop) (answers : (o : Op) → σ → Reply o → Prop) :
    Prog Op Reply σ α → α → σ → Prop where
  | ret (a : α) (s : σ) : OutcomeUnder rely answers (.ret a s) a s
  | out (o : Op) (s s₁ : σ) (k : Reply o → σ → Prog Op Reply σ α) (r : Reply o) (a : α) (s' : σ) :
      rely s s₁ → answers o s₁ r → OutcomeUnder rely answers (k r s₁) a s' →
      OutcomeUnder rely answers (.out o s k) a s'

/-- `p` ends in `Q` whatever the surroundings do. -/
def Prog.AlwaysUnder (rely : σ → σ → Prop) (answers : (o : Op) → σ → Reply o → Prop)
    (Q : α → σ → Prop) : Prog Op Reply σ α → Prop
  | .ret a s => Q a s
  | .out o s k => ∀ r s', rely s s' → answers o s' r → (k r s').AlwaysUnder rely answers Q

namespace Prog

variable {rely : σ → σ → Prop} {answers : (o : Op) → σ → Reply o → Prop} {Q Q' : α → σ → Prop}

/-- The weakest precondition says what all outcomes have in common. -/
theorem alwaysUnder_iff {p : Prog Op Reply σ α} :
    p.AlwaysUnder rely answers Q ↔ ∀ a s, p.OutcomeUnder rely answers a s → Q a s := by
  constructor
  · intro h a s hp
    induction hp with
    | ret a s => exact h
    | out o s s₁ k r a s' hrely hr _ ih => exact ih (h r s₁ hrely hr)
  · intro h
    induction p with
    | ret a s => exact h a s (.ret a s)
    | out o s k ih =>
      intro r s' hrely hr
      exact ih r s' fun a s'' hp => h a s'' (.out o s s' k r a s'' hrely hr hp)

/-- The consequence rule. -/
theorem AlwaysUnder.mono {p : Prog Op Reply σ α} (h : p.AlwaysUnder rely answers Q)
    (hQ : ∀ a s, Q a s → Q' a s) : p.AlwaysUnder rely answers Q' := by
  rw [alwaysUnder_iff] at h ⊢
  exact fun a s hp => hQ a s (h a s hp)

/-- The sequencing rule. -/
theorem alwaysUnder_bind {Q : β → σ → Prop} (p : Prog Op Reply σ α)
    (f : α → σ → Prog Op Reply σ β) : (p.bind f).AlwaysUnder rely answers Q ↔
      p.AlwaysUnder rely answers fun a s => (f a s).AlwaysUnder rely answers Q := by
  induction p with
  | ret a s => rfl
  | out o s k ih => simp only [bind, AlwaysUnder, ih]

/-- The outcomes are known to be outcomes. -/
theorem alwaysUnder_outcome (p : Prog Op Reply σ α) :
    p.AlwaysUnder rely answers (p.OutcomeUnder rely answers) :=
  alwaysUnder_iff.mpr fun _ _ h => h

theorem AlwaysUnder.and {p : Prog Op Reply σ α} (h : p.AlwaysUnder rely answers Q)
    (h' : p.AlwaysUnder rely answers Q') :
    p.AlwaysUnder rely answers fun a s => Q a s ∧ Q' a s := by
  rw [alwaysUnder_iff] at h h' ⊢
  exact fun a s hp => ⟨h a s hp, h' a s hp⟩

end Prog

namespace Routine

/-- The routine changes the state as the surroundings do, by steps that `R` allows. -/
def Respects (answers : (o : Op) → σ → Reply o → Prop) (R : σ → σ → Prop)
    (m : Routine Op Reply σ α) : Prop :=
  ∀ s, (m.run s).AlwaysUnder R answers fun _ s' => R s s'

variable {answers : (o : Op) → σ → Reply o → Prop} {R : σ → σ → Prop}

theorem respects_modify {f : σ → σ} (hf : ∀ s, R s (f s)) :
    (modify f : Routine Op Reply σ Unit).Respects answers R :=
  hf

theorem Respects.ite {c : Prop} [Decidable c] {m n : Routine Op Reply σ α}
    (hm : m.Respects answers R) (hn : n.Respects answers R) :
    (if c then m else n).Respects answers R := by
  split
  · exact hm
  · exact hn

theorem respects_perform (o : Op) :
    (perform o : Routine Op Reply σ (Reply o)).Respects answers R :=
  fun _ _ _ hrely _ => hrely

variable [IsPreorder σ R]

theorem respects_pure (a : α) : (pure a : Routine Op Reply σ α).Respects answers R :=
  fun s => refl_of R s

theorem respects_get : (get : Routine Op Reply σ σ).Respects answers R :=
  fun s => refl_of R s

/-- The sequencing rule. -/
theorem Respects.bind {m : Routine Op Reply σ α} {f : α → Routine Op Reply σ β}
    (hm : m.Respects answers R) (hf : ∀ a, (f a).Respects answers R) :
    (m >>= f).Respects answers R := by
  intro s
  rw [run_bind, Prog.alwaysUnder_bind]
  apply (hm s).mono
  intro a s' hs
  apply (hf a s').mono
  intro b s'' hs'
  exact trans_of R hs hs'

end Routine

/-! ## Section 2: Interference that depends on the operation -/

/-- `p.OutcomeIn world a s`: the execution `p` may return `a` in state `s`, where `world o s r s'`
    says that the surroundings may answer `o`, performed in `s`, with `r` and leave `s'`. -/
inductive Prog.OutcomeIn (world : (o : Op) → σ → Reply o → σ → Prop) :
    Prog Op Reply σ α → α → σ → Prop where
  | ret (a : α) (s : σ) : OutcomeIn world (.ret a s) a s
  | out (o : Op) (s s₁ : σ) (k : Reply o → σ → Prog Op Reply σ α) (r : Reply o) (a : α) (s' : σ) :
      world o s r s₁ → OutcomeIn world (k r s₁) a s' → OutcomeIn world (.out o s k) a s'

/-- `p` ends in `Q` whatever the surroundings do. -/
def Prog.AlwaysIn (world : (o : Op) → σ → Reply o → σ → Prop) (Q : α → σ → Prop) :
    Prog Op Reply σ α → Prop
  | .ret a s => Q a s
  | .out o s k => ∀ r s', world o s r s' → (k r s').AlwaysIn world Q

namespace Prog

variable {world : (o : Op) → σ → Reply o → σ → Prop} {Q Q' : α → σ → Prop}

/-- The weakest precondition is about the outcomes. -/
theorem AlwaysIn.outcome {p : Prog Op Reply σ α} (h : p.AlwaysIn world Q) {a : α} {s : σ}
    (hp : p.OutcomeIn world a s) : Q a s := by
  induction hp with
  | ret a s => exact h
  | out o s s₁ k r a s' hr _ ih => exact ih (h r s₁ hr)

/-- The outcomes of a sequence. -/
theorem OutcomeIn.bind {p : Prog Op Reply σ α} {f : α → σ → Prog Op Reply σ β} {a : α} {b : β}
    {s s' : σ} (hp : p.OutcomeIn world a s) (hf : (f a s).OutcomeIn world b s') :
    (p.bind f).OutcomeIn world b s' := by
  induction hp with
  | ret a s => exact hf
  | out o s s₁ k r a s₂ hr _ ih => exact .out o s s₁ _ r b s' hr (ih hf)

/-- The consequence rule. -/
theorem AlwaysIn.mono {p : Prog Op Reply σ α} (h : p.AlwaysIn world Q)
    (hQ : ∀ a s, Q a s → Q' a s) : p.AlwaysIn world Q' := by
  induction p with
  | ret a s => exact hQ a s h
  | out o s k ih => exact fun r s' hr => ih r s' (h r s' hr)

/-- The sequencing rule. -/
@[simp] theorem alwaysIn_bind {Q : β → σ → Prop} (p : Prog Op Reply σ α)
    (f : α → σ → Prog Op Reply σ β) :
    (p.bind f).AlwaysIn world Q ↔ p.AlwaysIn world fun a s => (f a s).AlwaysIn world Q := by
  induction p with
  | ret a s => rfl
  | out o s k ih => simp only [bind, AlwaysIn, ih]

theorem AlwaysIn.and {p : Prog Op Reply σ α} (h : p.AlwaysIn world Q)
    (h' : p.AlwaysIn world Q') : p.AlwaysIn world fun a s => Q a s ∧ Q' a s := by
  induction p with
  | ret a s => exact ⟨h, h'⟩
  | out o s k ih => exact fun r s' hr => ih r s' (h r s' hr) (h' r s' hr)

/-- Surroundings that always find an answer let every execution come to its end. -/
theorem exists_outcomeIn (hworld : ∀ o s, ∃ r s', world o s r s') (p : Prog Op Reply σ α) :
    ∃ a s, p.OutcomeIn world a s := by
  induction p with
  | ret a s => exact ⟨a, s, .ret a s⟩
  | out o s k ih =>
    obtain ⟨r, s₁, hr⟩ := hworld o s
    obtain ⟨a, s', h⟩ := ih r s₁
    exact ⟨a, s', .out o s s₁ k r a s' hr h⟩

end Prog

end Reentrant
