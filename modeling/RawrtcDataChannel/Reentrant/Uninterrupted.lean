import Mathlib.Order.Defs.Unbundled
import RawrtcDataChannel.Reentrant.Program

/-!
# Reasoning about uninterrupted executions

Where the surroundings only answer and nobody enters the library meanwhile, an execution has a
weakest precondition in the usual sense: `p.Always answers Q` says that `p` ends in `Q` however
its calls are answered. The rules are the ones of Hoare logic, one for each way to build a
program.

Often only a little has to be known about a routine: that it leaves some part of the state alone.
`m.Keeps answers R` says that `m` changes the state only as the preorder `R` allows. Its rules are
structural, so such facts are proved along the text of a routine.
-/

namespace Reentrant

variable {Op : Type} {Reply : Op → Type} {σ α β : Type}

namespace Prog

/-- Every outcome of the execution satisfies `Q`. -/
def Always (answers : (o : Op) → σ → Reply o → Prop) (Q : α → σ → Prop) :
    Prog Op Reply σ α → Prop
  | .ret a s => Q a s
  | .out o s k => ∀ r, answers o s r → (k r s).Always answers Q

variable {answers : (o : Op) → σ → Reply o → Prop} {Q Q' : α → σ → Prop}

@[simp] theorem always_ret (a : α) (s : σ) :
    (.ret a s : Prog Op Reply σ α).Always answers Q ↔ Q a s := Iff.rfl

/-- The sequencing rule. -/
@[simp] theorem always_bind {Q : β → σ → Prop} (p : Prog Op Reply σ α)
    (f : α → σ → Prog Op Reply σ β) :
    (p.bind f).Always answers Q ↔ p.Always answers fun a s => (f a s).Always answers Q := by
  induction p with
  | ret a s => rfl
  | out o s k ih => simp only [bind, Always, ih]

/-- The consequence rule. -/
theorem Always.mono {p : Prog Op Reply σ α} (h : p.Always answers Q)
    (hQ : ∀ a s, Q a s → Q' a s) : p.Always answers Q' := by
  induction p with
  | ret a s => exact hQ a s h
  | out o s k ih =>
    intro r hr
    exact ih r s (h r hr)

theorem Always.and {p : Prog Op Reply σ α} (h : p.Always answers Q) (h' : p.Always answers Q') :
    p.Always answers fun a s => Q a s ∧ Q' a s := by
  induction p with
  | ret a s => exact ⟨h, h'⟩
  | out o s k ih =>
    intro r hr
    exact ih r s (h r hr) (h' r hr)

/-- The weakest precondition is about the outcomes. -/
theorem always_iff {p : Prog Op Reply σ α} :
    p.Always answers Q ↔ ∀ a s, p.Outcome answers a s → Q a s := by
  constructor
  · intro h a s hp
    induction hp with
    | ret a s => exact h
    | out o s k r a s' hr _ ih => exact ih (h r hr)
  · intro h
    induction p with
    | ret a s => exact h a s (.ret a s)
    | out o s k ih =>
      intro r hr
      apply ih r s
      intro a s' hp
      exact h a s' (.out o s k r a s' hr hp)

/-- Surroundings that always have an answer lead to an outcome. -/
theorem Always.exists_outcome {p : Prog Op Reply σ α} (h : p.Always answers Q)
    (hanswers : ∀ o s, ∃ r, answers o s r) : ∃ a s, p.Outcome answers a s ∧ Q a s := by
  induction p with
  | ret a s => exact ⟨a, s, .ret a s, h⟩
  | out o s k ih =>
    obtain ⟨r, hr⟩ := hanswers o s
    obtain ⟨a, s', hp, hQ⟩ := ih r s (h r hr)
    exact ⟨a, s', .out o s k r a s' hr hp, hQ⟩

/-- What may go wrong in some surroundings may go wrong in all that are more free. -/
theorem Always.not_always {answers' : (o : Op) → σ → Reply o → Prop} {p : Prog Op Reply σ α}
    (h : p.Always answers Q) (hanswers : ∀ o s, ∃ r, answers o s r)
    (hmore : ∀ o s r, answers o s r → answers' o s r) (hQ : ∀ a s, Q a s → ¬ Q' a s) :
    ¬ p.Always answers' Q' := by
  obtain ⟨a, s, hp, hbad⟩ := h.exists_outcome hanswers
  intro hall
  exact hQ a s hbad (always_iff.mp hall a s (hp.mono hmore))

end Prog

namespace Routine

/-- However its calls are answered, the routine changes the state only as `R` allows. -/
def Keeps (answers : (o : Op) → σ → Reply o → Prop) (R : σ → σ → Prop)
    (m : Routine Op Reply σ α) : Prop :=
  ∀ s, (m.run s).Always answers fun _ s' => R s s'

variable {answers : (o : Op) → σ → Reply o → Prop} {R : σ → σ → Prop} [IsPreorder σ R]

theorem keeps_pure (a : α) : (pure a : Routine Op Reply σ α).Keeps answers R :=
  fun s => refl_of R s

theorem keeps_get : (get : Routine Op Reply σ σ).Keeps answers R :=
  fun s => refl_of R s

theorem keeps_perform (o : Op) : (perform o : Routine Op Reply σ (Reply o)).Keeps answers R :=
  fun s _ _ => refl_of R s

omit [IsPreorder σ R] in
theorem keeps_modify {f : σ → σ} (hf : ∀ s, R s (f s)) :
    (modify f : Routine Op Reply σ Unit).Keeps answers R :=
  hf

/-- The sequencing rule. -/
theorem Keeps.bind {m : Routine Op Reply σ α} {f : α → Routine Op Reply σ β}
    (hm : m.Keeps answers R) (hf : ∀ a, (f a).Keeps answers R) : (m >>= f).Keeps answers R := by
  intro s
  rw [run_bind, Prog.always_bind]
  apply Prog.Always.mono (hm s)
  intro a s' hs
  apply Prog.Always.mono (hf a s')
  intro b s'' hs'
  exact trans_of R hs hs'

/-- What is made of the result does not matter. -/
theorem Keeps.map {m : Routine Op Reply σ α} (f : α → β) (hm : m.Keeps answers R) :
    (f <$> m).Keeps answers R :=
  hm.bind fun a => keeps_pure (f a)

omit [IsPreorder σ R] in
theorem Keeps.ite {c : Prop} [Decidable c] {m n : Routine Op Reply σ α}
    (hm : m.Keeps answers R) (hn : n.Keeps answers R) : (if c then m else n).Keeps answers R := by
  split
  · exact hm
  · exact hn

omit [IsPreorder σ R] in
theorem Keeps.mono {R' : σ → σ → Prop} {m : Routine Op Reply σ α} (h : m.Keeps answers R)
    (hR : ∀ s s', R s s' → R' s s') : m.Keeps answers R' :=
  fun s => Prog.Always.mono (h s) fun _ s' => hR s s'

end Routine

/-! ## Routines that only make calls of one kind

Surroundings may treat some operations in a special way: those that are certainly not used to
enter the library again, for example. -/

/-- All calls the execution makes are among `calls`, and it ends in `Q` whatever they are answered. -/
def Prog.Within (calls : Op → Prop) (Q : α → σ → Prop) : Prog Op Reply σ α → Prop
  | .ret a s => Q a s
  | .out o s k => calls o ∧ ∀ r, (k r s).Within calls Q

section Within

variable {calls : Op → Prop} {R : σ → σ → Prop}

/-- The sequencing rule. -/
theorem Prog.within_bind {Q : β → σ → Prop} (p : Prog Op Reply σ α)
    (f : α → σ → Prog Op Reply σ β) :
    (p.bind f).Within calls Q ↔ p.Within calls fun a s => (f a s).Within calls Q := by
  induction p with
  | ret a s => rfl
  | out o s k ih => simp only [Prog.bind, Prog.Within, ih]

/-- The consequence rule. -/
theorem Prog.Within.mono {Q Q' : α → σ → Prop} {p : Prog Op Reply σ α} (h : p.Within calls Q)
    (hQ : ∀ a s, Q a s → Q' a s) : p.Within calls Q' := by
  induction p with
  | ret a s => exact hQ a s h
  | out o s k ih =>
    obtain ⟨ho, hk⟩ := h
    exact ⟨ho, fun r => ih r s (hk r)⟩

/-- More calls are allowed. -/
theorem Prog.Within.of_calls {calls' : Op → Prop} {Q : α → σ → Prop} {p : Prog Op Reply σ α}
    (h : p.Within calls Q) (hcalls : ∀ o, calls o → calls' o) : p.Within calls' Q := by
  induction p with
  | ret a s => exact h
  | out o s k ih =>
    obtain ⟨ho, hk⟩ := h
    exact ⟨hcalls o ho, fun r => ih r s (hk r)⟩

/-- Which calls are made does not matter to what always holds. -/
theorem Prog.Within.always {answers : (o : Op) → σ → Reply o → Prop} {Q : α → σ → Prop}
    {p : Prog Op Reply σ α} (h : p.Within calls Q) : p.Always answers Q := by
  induction p with
  | ret a s => exact h
  | out o s k ih =>
    intro r _
    exact ih r s (h.2 r)

namespace Routine

/-- All calls of the routine are among `calls`, and it changes the state only as `R` allows. -/
def Within (calls : Op → Prop) (R : σ → σ → Prop) (m : Routine Op Reply σ α) : Prop :=
  ∀ s, (m.run s).Within calls fun _ s' => R s s'

theorem Within.keeps {answers : (o : Op) → σ → Reply o → Prop} {m : Routine Op Reply σ α}
    (h : m.Within calls R) : m.Keeps answers R :=
  fun s => (h s).always

theorem Within.mono {R' : σ → σ → Prop} {m : Routine Op Reply σ α} (h : m.Within calls R)
    (hR : ∀ s s', R s s' → R' s s') : m.Within calls R' :=
  fun s => (h s).mono fun _ s' => hR s s'

theorem Within.ite {c : Prop} [Decidable c] {m n : Routine Op Reply σ α}
    (hm : m.Within calls R) (hn : n.Within calls R) : (if c then m else n).Within calls R := by
  split
  · exact hm
  · exact hn

theorem within_modify {f : σ → σ} (hf : ∀ s, R s (f s)) :
    (modify f : Routine Op Reply σ Unit).Within calls R :=
  hf

variable [IsPreorder σ R]

theorem within_pure (a : α) : (pure a : Routine Op Reply σ α).Within calls R :=
  fun s => refl_of R s

theorem within_get : (get : Routine Op Reply σ σ).Within calls R :=
  fun s => refl_of R s

theorem within_perform {o : Op} (ho : calls o) :
    (perform o : Routine Op Reply σ (Reply o)).Within calls R :=
  fun s => ⟨ho, fun _ => refl_of R s⟩

/-- The sequencing rule. -/
theorem Within.bind {m : Routine Op Reply σ α} {f : α → Routine Op Reply σ β}
    (hm : m.Within calls R) (hf : ∀ a, (f a).Within calls R) : (m >>= f).Within calls R := by
  intro s
  rw [run_bind, Prog.within_bind]
  apply Prog.Within.mono (hm s)
  intro a s' hs
  apply Prog.Within.mono (hf a s')
  intro b s'' hs'
  exact trans_of R hs hs'

end Routine

end Within

end Reentrant
