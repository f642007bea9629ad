import RawrtcDataChannel.Reentrant.Guarded

/-!
# Routines that leave marks

To say something about the places a routine passes, the routine is written once more, with a mark
at each of them. Leaving a mark does nothing: nobody is called, and the state stays as it is. What
is claimed of a mark is a condition on the state in which it is left.

`unmarked` takes the marks away again, so that the routine with marks can be compared with the one
without. There is one rule for each way to build a routine.
-/

namespace Reentrant

variable {Mark Op : Type} {Reply : Op → Type} {σ α β : Type}

/-! ## Section 1: Marks -/

/-- Leave a mark, or perform an operation. -/
inductive MarkedOp (Mark Op : Type)
  | mark (m : Mark)
  | call (o : Op)

/-- Nothing comes back from a mark. -/
@[reducible] def MarkedOp.Answer (Reply : Op → Type) : MarkedOp Mark Op → Type
  | .mark _ => Unit
  | .call o => Reply o

/-- Routines that leave marks. -/
abbrev Marked (Mark Op : Type) (Reply : Op → Type) (σ α : Type) : Type :=
  Routine (MarkedOp Mark Op) (MarkedOp.Answer Reply) σ α

/-- The execution without its marks. -/
def Prog.unmarked : Prog (MarkedOp Mark Op) (MarkedOp.Answer Reply) σ α → Prog Op Reply σ α
  | .ret a s => .ret a s
  | .out (.mark _) s k => (k () s).unmarked
  | .out (.call o) s k => .out o s fun r s' => (k r s').unmarked

/-- An execution that leaves no marks. -/
def Prog.lift : Prog Op Reply σ α → Prog (MarkedOp Mark Op) (MarkedOp.Answer Reply) σ α
  | .ret a s => .ret a s
  | .out o s k => .out (.call o) s fun r s' => (k r s').lift

namespace Routine

/-- Leave a mark. -/
def mark (m : Mark) : Marked Mark Op Reply σ Unit :=
  perform (MarkedOp.mark m)

/-- A routine that leaves no marks. -/
def lift (m : Routine Op Reply σ α) : Marked Mark Op Reply σ α :=
  ⟨fun s => (m.run s).lift⟩

/-- The routine without its marks. -/
def unmarked (m : Marked Mark Op Reply σ α) : Routine Op Reply σ α :=
  ⟨fun s => (m.run s).unmarked⟩

end Routine

theorem Prog.unmarked_bind (p : Prog (MarkedOp Mark Op) (MarkedOp.Answer Reply) σ α)
    (f : α → σ → Prog (MarkedOp Mark Op) (MarkedOp.Answer Reply) σ β) :
    (p.bind f).unmarked = p.unmarked.bind fun a s => (f a s).unmarked := by
  induction p with
  | ret a s => rfl
  | out o s k ih =>
    cases o with
    | mark m => exact ih () s
    | call o => simp only [bind, unmarked, ih]

theorem Prog.unmarked_lift (p : Prog Op Reply σ α) :
    (p.lift : Prog (MarkedOp Mark Op) _ σ α).unmarked = p := by
  induction p with
  | ret a s => rfl
  | out o s k ih => simp only [lift, unmarked, ih]

namespace Routine

@[simp] theorem unmarked_pure (a : α) :
    (pure a : Marked Mark Op Reply σ α).unmarked = pure a := rfl

@[simp] theorem unmarked_get : (get : Marked Mark Op Reply σ σ).unmarked = get := rfl

@[simp] theorem unmarked_modify (f : σ → σ) :
    (modify f : Marked Mark Op Reply σ Unit).unmarked = modify f := rfl

@[simp] theorem unmarked_mark (m : Mark) :
    (mark m : Marked Mark Op Reply σ Unit).unmarked = pure () := rfl

@[simp] theorem unmarked_bind (m : Marked Mark Op Reply σ α)
    (f : α → Marked Mark Op Reply σ β) :
    (m >>= f).unmarked = m.unmarked >>= fun a => (f a).unmarked := by
  simp only [unmarked, run_bind, Prog.unmarked_bind]
  rfl

@[simp] theorem unmarked_map (f : α → β) (m : Marked Mark Op Reply σ α) :
    (f <$> m).unmarked = f <$> m.unmarked :=
  unmarked_bind m fun a => pure (f a)

@[simp] theorem unmarked_ite (c : Prop) [Decidable c] (m n : Marked Mark Op Reply σ α) :
    (if c then m else n).unmarked = if c then m.unmarked else n.unmarked := by
  split <;> rfl

@[simp] theorem unmarked_lift (m : Routine Op Reply σ α) :
    (lift m : Marked Mark Op Reply σ α).unmarked = m := by
  simp only [unmarked, lift, Prog.unmarked_lift]

/-- Routines with the same executions are the same. -/
theorem ext_run {m n : Routine Op Reply σ α} (h : ∀ s, m.run s = n.run s) : m = n := by
  cases m
  cases n
  congr 1
  exact funext h

/-- A mark in front of a routine goes away with the rest. -/
@[simp] theorem pure_bind_unit (m : Unit → Routine Op Reply σ α) :
    (pure () >>= m : Routine Op Reply σ α) = m () := rfl

end Routine

/-! ## Section 2: Marks under a contract -/

section Contract

variable {Call : Type} {C : Contract Call Op Reply σ} {P : Mark → σ → Prop} {a : Call}
  {fs : List (Call × Op)} {s₀ : σ}

/-- The execution `p` of the call `a` keeps the contract and ends in `Q`, and every mark is left in
    a state that `P` allows. -/
def Prog.SafeWith (C : Contract Call Op Reply σ) (P : Mark → σ → Prop) (a : Call)
    (fs : List (Call × Op)) (s₀ : σ) (Q : α → σ → Prop) :
    Prog (MarkedOp Mark Op) (MarkedOp.Answer Reply) σ α → Prop
  | .ret r s => Q r s
  | .out (.mark m) s k => P m s ∧ (k () s).SafeWith C P a fs s₀ Q
  | .out (.call o) s k => (C.inv ((a, o) :: fs) s ∧ C.since s₀ o s) ∧
      ∀ r s', C.inv ((a, o) :: fs) s' → C.rely ((a, o) :: fs) s s' → C.answers o s' r →
        (k r s').SafeWith C P a fs s₀ Q

namespace Prog

/-- The consequence rule. -/
theorem SafeWith.mono {Q Q' : α → σ → Prop}
    {p : Prog (MarkedOp Mark Op) (MarkedOp.Answer Reply) σ α} (h : p.SafeWith C P a fs s₀ Q)
    (hQ : ∀ r s, Q r s → Q' r s) : p.SafeWith C P a fs s₀ Q' := by
  induction p with
  | ret r s => exact hQ r s h
  | out o s k ih =>
    cases o with
    | mark m => exact ⟨h.1, ih () s h.2⟩
    | call o => exact ⟨h.1, fun r s' h₁ h₂ h₃ => ih r s' (h.2 r s' h₁ h₂ h₃)⟩

/-- The sequencing rule. -/
@[simp] theorem safeWith_bind {Q : β → σ → Prop}
    (p : Prog (MarkedOp Mark Op) (MarkedOp.Answer Reply) σ α)
    (f : α → σ → Prog (MarkedOp Mark Op) (MarkedOp.Answer Reply) σ β) :
    (p.bind f).SafeWith C P a fs s₀ Q ↔
      p.SafeWith C P a fs s₀ fun r s => (f r s).SafeWith C P a fs s₀ Q := by
  induction p with
  | ret r s => rfl
  | out o s k ih =>
    cases o with
    | mark m => exact and_congr_right fun _ => ih () s
    | call o => simp only [bind, SafeWith, ih]

/-- Without its marks a safe execution is still safe. -/
theorem SafeWith.unmarked {Q : α → σ → Prop}
    {p : Prog (MarkedOp Mark Op) (MarkedOp.Answer Reply) σ α} (h : p.SafeWith C P a fs s₀ Q) :
    p.unmarked.Safe C a fs s₀ Q := by
  induction p with
  | ret r s => exact h
  | out o s k ih =>
    cases o with
    | mark m => exact ih () s h.2
    | call o => exact ⟨h.1, fun r s' h₁ h₂ h₃ => ih r s' (h.2 r s' h₁ h₂ h₃)⟩

theorem Safe.lift {Q : α → σ → Prop} {p : Prog Op Reply σ α} (h : p.Safe C a fs s₀ Q) :
    p.lift.SafeWith C P a fs s₀ Q := by
  induction p with
  | ret r s => exact h
  | out o s k ih => exact ⟨h.1, fun r s' h₁ h₂ h₃ => ih r s' (h.2 r s' h₁ h₂ h₃)⟩

end Prog

end Contract

/-! ## Section 3: Marks in given surroundings -/

/-- Every mark the execution `p` leaves is left in a state that `P` allows, and `p` ends in `Q`, if
    the surroundings may do what `world` says while something is called. -/
def Prog.MarksIn (world : (o : Op) → σ → Reply o → σ → Prop) (P : Mark → σ → Prop)
    (Q : α → σ → Prop) : Prog (MarkedOp Mark Op) (MarkedOp.Answer Reply) σ α → Prop
  | .ret a s => Q a s
  | .out (.mark m) s k => P m s ∧ (k () s).MarksIn world P Q
  | .out (.call o) s k => ∀ r s', world o s r s' → (k r s').MarksIn world P Q

namespace Prog

variable {world : (o : Op) → σ → Reply o → σ → Prop} {P P' : Mark → σ → Prop}
  {Q Q' : α → σ → Prop}

@[simp] theorem marksIn_bind {Q : β → σ → Prop}
    (p : Prog (MarkedOp Mark Op) (MarkedOp.Answer Reply) σ α)
    (f : α → σ → Prog (MarkedOp Mark Op) (MarkedOp.Answer Reply) σ β) :
    (p.bind f).MarksIn world P Q ↔ p.MarksIn world P fun a s => (f a s).MarksIn world P Q := by
  induction p with
  | ret a s => rfl
  | out o s k ih =>
    cases o with
    | mark m => exact and_congr_right fun _ => ih () s
    | call o => simp only [bind, MarksIn, ih]

theorem MarksIn.mono {p : Prog (MarkedOp Mark Op) (MarkedOp.Answer Reply) σ α}
    (h : p.MarksIn world P Q) (hP : ∀ m s, P m s → P' m s) (hQ : ∀ a s, Q a s → Q' a s) :
    p.MarksIn world P' Q' := by
  induction p with
  | ret a s => exact hQ a s h
  | out o s k ih =>
    cases o with
    | mark m => exact ⟨hP m s h.1, ih () s h.2⟩
    | call o => exact fun r s' hr => ih r s' (h r s' hr)

/-- An execution that keeps a contract does so in all surroundings that keep it, too. -/
theorem SafeWith.marksIn {Call : Type} {C : Contract Call Op Reply σ} {a : Call}
    {fs : List (Call × Op)} {s₀ : σ} {p : Prog (MarkedOp Mark Op) (MarkedOp.Answer Reply) σ α}
    (hworld : ∀ o s r s', C.inv ((a, o) :: fs) s → world o s r s' →
      C.inv ((a, o) :: fs) s' ∧ C.rely ((a, o) :: fs) s s' ∧ C.answers o s' r)
    (h : p.SafeWith C P a fs s₀ Q) : p.MarksIn world P Q := by
  induction p with
  | ret a s => exact h
  | out o s k ih =>
    cases o with
    | mark m => exact ⟨h.1, ih () s h.2⟩
    | call o =>
      intro r s' hr
      obtain ⟨hinv, hrely, hanswers⟩ := hworld o s r s' h.1.1 hr
      exact ih r s' (h.2 r s' hinv hrely hanswers)

end Prog

end Reentrant
