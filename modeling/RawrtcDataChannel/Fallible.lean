import Mathlib.Tactic.TypeStar

/-!
# Steps that may fail

A routine of many steps gives up at the first one that fails, and whoever called it finds the
state as the steps before have left it. `EStateM` is the monad of such routines. What follows
are rules to say of one of them where it ends, with its result or with an error.
-/

namespace Fallible

variable {ε σ α β : Type}

/-- Started in `s`, the routine `m` ends in `Q` with its result or in `E` with its error. -/
def Ends (m : EStateM ε σ α) (s : σ) (Q : α → σ → Prop) (E : ε → σ → Prop) : Prop :=
  match m.run s with
  | .ok a s' => Q a s'
  | .error e s' => E e s'

/-- A step that fails if it is answered with an error. -/
def orFail (error : Option ε) : EStateM ε σ Unit :=
  match error with
  | none => pure ()
  | some e => throw e

section Rules

variable {s : σ} {Q : α → σ → Prop} {E : ε → σ → Prop}

@[simp] theorem ends_pure (a : α) : Ends (pure a) s Q E ↔ Q a s := Iff.rfl

@[simp] theorem ends_throw (e : ε) : Ends (throw e : EStateM ε σ α) s Q E ↔ E e s := Iff.rfl

@[simp] theorem ends_get {Q : σ → σ → Prop} : Ends get s Q E ↔ Q s s := Iff.rfl

@[simp] theorem ends_modify (f : σ → σ) {Q : Unit → σ → Prop} :
    Ends (modify f) s Q E ↔ Q () (f s) := Iff.rfl

/-- A sequence ends where its second part does, or where its first part fails. -/
@[simp] theorem ends_bind (m : EStateM ε σ β) (f : β → EStateM ε σ α) :
    Ends (m >>= f) s Q E ↔ Ends m s (fun b s' => Ends (f b) s' Q E) E := by
  simp only [Ends, EStateM.run, bind, EStateM.bind]
  cases m s with
  | ok b s' => rfl
  | error e s' => rfl

theorem ends_orFail (error : Option ε) {Q : Unit → σ → Prop} :
    Ends (orFail error) s Q E ↔ (error = none → Q () s) ∧ ∀ e, error = some e → E e s := by
  cases error with
  | none => simp [orFail]
  | some e => simp [orFail]

/-- What a routine that ends in `Q` or `E` returns and leaves. -/
theorem Ends.elim {m : EStateM ε σ α} (h : Ends m s Q E) :
    (∃ a s', m.run s = .ok a s' ∧ Q a s') ∨ ∃ e s', m.run s = .error e s' ∧ E e s' := by
  unfold Ends at h
  cases hm : m.run s with
  | ok a s' => exact .inl ⟨a, s', rfl, by simpa only [hm] using h⟩
  | error e s' => exact .inr ⟨e, s', rfl, by simpa only [hm] using h⟩

end Rules

end Fallible
