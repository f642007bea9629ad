import Mathlib.Tactic.TypeStar

/-!
# Programs that call out

A routine works on a state and, from time to time, hands control to its surroundings: it calls a
library, or a callback the user installed. What the surroundings do in between is open. They
answer with a value, and the state may have changed by the time the routine goes on.

`Prog` is one execution of such a routine, cut at the points where control is handed over.
`Routine` is the monad in which routines are written.

Between two such points a routine runs alone, so a `Prog` is a finite tree: one node for each
call out, one branch for each answer and each state the routine may find when it is resumed.
-/

namespace Reentrant

variable {Op : Type} {Reply : Op → Type} {σ α β γ : Type}

/-! ## Section 1: Executions -/

/-- An execution of a routine: finished, or waiting for the answer to a call out. -/
inductive Prog (Op : Type) (Reply : Op → Type) (σ α : Type) : Type where
  /-- The routine returned `a` and left the state `s`. -/
  | ret (a : α) (s : σ)
  /-- The routine performs `o` in state `s`. It goes on with `k`, given the answer and the state
      it finds then. -/
  | out (o : Op) (s : σ) (k : Reply o → σ → Prog Op Reply σ α)

namespace Prog

/-- Run `f` on what `p` returns. -/
def bind : Prog Op Reply σ α → (α → σ → Prog Op Reply σ β) → Prog Op Reply σ β
  | .ret a s, f => f a s
  | .out o s k, f => .out o s (fun r s' => (k r s').bind f)

@[simp] theorem bind_ret (p : Prog Op Reply σ α) : p.bind .ret = p := by
  induction p with
  | ret a s => rfl
  | out o s k ih => simp only [bind, ih]

theorem bind_assoc (p : Prog Op Reply σ α) (f : α → σ → Prog Op Reply σ β)
    (g : β → σ → Prog Op Reply σ γ) :
    (p.bind f).bind g = p.bind fun a s => (f a s).bind g := by
  induction p with
  | ret a s => rfl
  | out o s k ih => simp only [bind, ih]

/-- Run an execution against surroundings that answer by `oracle` and leave the state alone. -/
def exec (oracle : (o : Op) → σ → Reply o) : Prog Op Reply σ α → α × σ
  | .ret a s => (a, s)
  | .out o s k => (k (oracle o s) s).exec oracle

/-- Run an execution against surroundings that may change the state before they answer. -/
def execIn (world : (o : Op) → σ → Reply o × σ) : Prog Op Reply σ α → α × σ
  | .ret a s => (a, s)
  | .out o s k => (k (world o s).1 (world o s).2).execIn world

/-- Surroundings that leave the state alone. -/
theorem execIn_eq_exec (oracle : (o : Op) → σ → Reply o) (p : Prog Op Reply σ α) :
    p.execIn (fun o s => (oracle o s, s)) = p.exec oracle := by
  induction p with
  | ret a s => rfl
  | out o s k ih => exact ih _ s

/-- `p.Outcome answers a s`: the execution `p` may return `a` in state `s` when every call out is
    answered as `answers` allows and nothing else happens meanwhile. -/
inductive Outcome (answers : (o : Op) → σ → Reply o → Prop) :
    Prog Op Reply σ α → α → σ → Prop where
  | ret (a : α) (s : σ) : Outcome answers (.ret a s) a s
  | out (o : Op) (s : σ) (k : Reply o → σ → Prog Op Reply σ α) (r : Reply o) (a : α) (s' : σ) :
      answers o s r → Outcome answers (k r s) a s' → Outcome answers (.out o s k) a s'

/-- Running against an oracle whose answers are allowed gives an outcome. -/
theorem outcome_exec {answers : (o : Op) → σ → Reply o → Prop} (oracle : (o : Op) → σ → Reply o)
    (horacle : ∀ o s, answers o s (oracle o s)) (p : Prog Op Reply σ α) :
    p.Outcome answers (p.exec oracle).1 (p.exec oracle).2 := by
  induction p with
  | ret a s => exact .ret a s
  | out o s k ih => exact .out o s k _ _ _ (horacle o s) (ih (oracle o s) s)

section Outcomes

variable {answers : (o : Op) → σ → Reply o → Prop}

@[simp] theorem outcome_ret_iff {a b : α} {s s' : σ} :
    (.ret a s : Prog Op Reply σ α).Outcome answers b s' ↔ a = b ∧ s = s' := by
  constructor
  · rintro ⟨⟩
    exact ⟨rfl, rfl⟩
  · rintro ⟨rfl, rfl⟩
    exact .ret a s

theorem outcome_out_iff {o : Op} {s s' : σ} {k : Reply o → σ → Prog Op Reply σ α} {a : α} :
    (Prog.out o s k).Outcome answers a s' ↔ ∃ r, answers o s r ∧ (k r s).Outcome answers a s' := by
  constructor
  · rintro ⟨⟩
    exact ⟨_, ‹_›, ‹_›⟩
  · rintro ⟨r, hr, h⟩
    exact .out o s k r a s' hr h

/-- The outcomes of a sequence. -/
theorem outcome_bind_iff {p : Prog Op Reply σ α} {f : α → σ → Prog Op Reply σ β} {b : β}
    {s' : σ} : (p.bind f).Outcome answers b s' ↔
      ∃ a s, p.Outcome answers a s ∧ (f a s).Outcome answers b s' := by
  induction p with
  | ret a s =>
    constructor
    · intro h
      exact ⟨a, s, .ret a s, h⟩
    · rintro ⟨_, _, ⟨⟩, h⟩
      exact h
  | out o s k ih =>
    simp only [bind, outcome_out_iff, ih]
    constructor
    · rintro ⟨r, hr, a, s₁, hp, hf⟩
      exact ⟨a, s₁, ⟨r, hr, hp⟩, hf⟩
    · rintro ⟨a, s₁, ⟨r, hr, hp⟩, hf⟩
      exact ⟨r, hr, a, s₁, hp, hf⟩

end Outcomes

/-- Fewer answers allow fewer outcomes. -/
theorem Outcome.mono {answers answers' : (o : Op) → σ → Reply o → Prop}
    (h : ∀ o s r, answers o s r → answers' o s r) {p : Prog Op Reply σ α} {a : α} {s : σ}
    (hp : p.Outcome answers a s) : p.Outcome answers' a s := by
  induction hp with
  | ret a s => exact .ret a s
  | out o s k r a s' hr _ ih => exact .out o s k r a s' (h _ _ _ hr) ih

end Prog

/-! ## Section 2: Routines -/

/-- A routine on states `σ` that may call out with operations `Op` and returns an `α`. -/
structure Routine (Op : Type) (Reply : Op → Type) (σ α : Type) where
  /-- The execution of the routine from a given state. -/
  run : σ → Prog Op Reply σ α

namespace Routine

instance : Monad (Routine Op Reply σ) where
  pure a := ⟨fun s => .ret a s⟩
  bind m f := ⟨fun s => (m.run s).bind fun a s' => (f a).run s'⟩

instance : MonadStateOf σ (Routine Op Reply σ) where
  get := ⟨fun s => .ret s s⟩
  set s := ⟨fun _ => .ret () s⟩
  modifyGet f := ⟨fun s => .ret (f s).1 (f s).2⟩

/-- Hand control to the surroundings and wait for their answer. -/
def perform (o : Op) : Routine Op Reply σ (Reply o) :=
  ⟨fun s => .out o s fun r s' => .ret r s'⟩

@[simp] theorem run_pure (a : α) (s : σ) :
    (pure a : Routine Op Reply σ α).run s = .ret a s := rfl

@[simp] theorem run_bind (m : Routine Op Reply σ α) (f : α → Routine Op Reply σ β) (s : σ) :
    (m >>= f).run s = (m.run s).bind fun a s' => (f a).run s' := rfl

@[simp] theorem run_map (f : α → β) (m : Routine Op Reply σ α) (s : σ) :
    (f <$> m).run s = (m.run s).bind fun a s' => .ret (f a) s' := rfl

@[simp] theorem run_get (s : σ) : (get : Routine Op Reply σ σ).run s = .ret s s := rfl

@[simp] theorem run_modify (f : σ → σ) (s : σ) :
    (modify f : Routine Op Reply σ Unit).run s = .ret () (f s) := rfl

@[simp] theorem run_perform (o : Op) (s : σ) :
    (perform o : Routine Op Reply σ (Reply o)).run s = .out o s fun r s' => .ret r s' := rfl

@[simp] theorem run_ite (c : Prop) [Decidable c] (m n : Routine Op Reply σ α) (s : σ) :
    (if c then m else n).run s = if c then m.run s else n.run s := by
  split <;> rfl

end Routine

end Reentrant
