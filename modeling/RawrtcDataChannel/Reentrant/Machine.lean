import Mathlib.Logic.Relation
import RawrtcDataChannel.Reentrant.Program

/-!
# Running re-entrant code

The entry points of a library are routines. While one of them waits for an answer, the
surroundings may enter the library again, and so on to any depth. A configuration of the
machine is the state the library works on and the stack of suspended routines, innermost first.

There are two steps: enter the library at one of its entry points, and answer the innermost
suspended routine. Which entries are possible depends on what is suspended, so that a host can
say, for example, that code which calls a system function is not interrupted.
-/

namespace Reentrant

variable {Call Op : Type} {Reply : Op → Type} {σ ρ : Type}

/-! ## Section 1: Hosts and configurations -/

/-- A library and what its surroundings may do with it. -/
structure Host (Call Op : Type) (Reply : Op → Type) (σ ρ : Type) where
  /-- The code behind each entry point. -/
  code : Call → Routine Op Reply σ ρ
  /-- Which entry points may be used, given what is suspended and the current state. -/
  permits : List (Call × Op) → σ → Call → Prop
  /-- Which answers an operation may get. -/
  answers : (o : Op) → σ → Reply o → Prop

/-- A suspended routine: the entry point it belongs to, what it waits for, how it goes on. -/
structure Frame (Call Op : Type) (Reply : Op → Type) (σ ρ : Type) where
  call : Call
  op : Op
  resume : Reply op → σ → Prog Op Reply σ ρ

/-- The calls and operations that are suspended in a stack. -/
def pending (stack : List (Frame Call Op Reply σ ρ)) : List (Call × Op) :=
  stack.map fun f => (f.call, f.op)

/-- The state and the suspended routines, innermost first. -/
structure Config (Call Op : Type) (Reply : Op → Type) (σ ρ : Type) where
  state : σ
  stack : List (Frame Call Op Reply σ ρ)

/-- Let an execution of `a` run until it ends or calls out. -/
def settle (a : Call) :
    Prog Op Reply σ ρ → List (Frame Call Op Reply σ ρ) → Config Call Op Reply σ ρ
  | .ret _ s, stack => ⟨s, stack⟩
  | .out o s k, stack => ⟨s, ⟨a, o, k⟩ :: stack⟩

/-! ## Section 2: Runs -/

/-- One step of the machine. -/
inductive Step (H : Host Call Op Reply σ ρ) :
    Config Call Op Reply σ ρ → Config Call Op Reply σ ρ → Prop where
  /-- The surroundings use an entry point. -/
  | enter (a : Call) (s : σ) (stack : List (Frame Call Op Reply σ ρ)) :
      H.permits (pending stack) s a → Step H ⟨s, stack⟩ (settle a ((H.code a).run s) stack)
  /-- The surroundings answer the innermost suspended routine. -/
  | answer (f : Frame Call Op Reply σ ρ) (r : Reply f.op) (s : σ)
      (stack : List (Frame Call Op Reply σ ρ)) :
      H.answers f.op s r → Step H ⟨s, f :: stack⟩ (settle f.call (f.resume r s) stack)

/-- The configurations of all runs from an idle start. -/
def Reachable (H : Host Call Op Reply σ ρ) (s₀ : σ) (c : Config Call Op Reply σ ρ) : Prop :=
  Relation.ReflTransGen (Step H) ⟨s₀, []⟩ c

namespace Reachable

variable {H : Host Call Op Reply σ ρ} {s₀ : σ}

theorem start : Reachable H s₀ ⟨s₀, []⟩ := .refl

theorem step {c d : Config Call Op Reply σ ρ} (h : Reachable H s₀ c) (hstep : Step H c d) :
    Reachable H s₀ d :=
  h.tail hstep

/-- A host that allows more reaches more. -/
theorem mono {H' : Host Call Op Reply σ ρ} (hcode : H'.code = H.code)
    (hpermits : ∀ fs s a, H.permits fs s a → H'.permits fs s a)
    (hanswers : ∀ o s r, H.answers o s r → H'.answers o s r)
    {c : Config Call Op Reply σ ρ} (h : Reachable H s₀ c) : Reachable H' s₀ c := by
  induction h with
  | refl => exact start
  | tail _ hstep ih =>
    refine ih.step ?_
    cases hstep with
    | enter a s stack hp =>
      rw [← hcode]
      exact .enter a s stack (hpermits _ _ _ hp)
    | answer f r s stack hr => exact .answer f r s stack (hanswers _ _ _ hr)

end Reachable

/-! ## Section 3: Runs without re-entry

Where the surroundings only ever answer, each entry runs to its end before the next one and a
run is a sequence of outcomes. -/

/-- One uninterrupted use of an entry point, with its result. -/
def Turn (H : Host Call Op Reply σ ρ) (s : σ) (a : Call) (r : ρ) (s' : σ) : Prop :=
  H.permits [] s a ∧ ((H.code a).run s).Outcome H.answers r s'

/-- A run of uninterrupted calls with the results they returned, in order. -/
inductive Turns (H : Host Call Op Reply σ ρ) : σ → List (Call × ρ) → σ → Prop where
  | nil (s : σ) : Turns H s [] s
  | snoc {s s' s'' : σ} {done : List (Call × ρ)} {a : Call} {r : ρ} :
      Turns H s done s' → Turn H s' a r s'' → Turns H s (done ++ [(a, r)]) s''

/-- What an entry point returns and leaves behind if the surroundings answer by an oracle. -/
@[irreducible] def Host.exec (H : Host Call Op Reply σ ρ) (oracle : (o : Op) → σ → Reply o) (s : σ)
    (a : Call) : ρ × σ :=
  ((H.code a).run s).exec oracle

/-- A run goes on with a call against an oracle. -/
theorem Turns.exec {H : Host Call Op Reply σ ρ} {oracle : (o : Op) → σ → Reply o}
    (horacle : ∀ o s, H.answers o s (oracle o s)) {s₀ s : σ} {done : List (Call × ρ)}
    (h : Turns H s₀ done s) {a : Call} (hp : H.permits [] s a) :
    Turns H s₀ (done ++ [(a, (H.exec oracle s a).1)]) (H.exec oracle s a).2 := by
  unfold Host.exec
  exact h.snoc ⟨hp, Prog.outcome_exec oracle horacle _⟩

/-- An uninterrupted outcome is also reached by the machine. -/
theorem Reachable.settle_outcome {H : Host Call Op Reply σ ρ} {s₀ : σ} {a : Call}
    {stack : List (Frame Call Op Reply σ ρ)} {p : Prog Op Reply σ ρ} {r : ρ} {s' : σ}
    (hp : p.Outcome H.answers r s') (h : Reachable H s₀ (settle a p stack)) :
    Reachable H s₀ ⟨s', stack⟩ := by
  induction hp with
  | ret r s => exact h
  | out o s k r a' s' hr _ ih => exact ih (h.step (.answer ⟨a, o, k⟩ r s stack hr))

/-- An entry point may be used without interruption, whatever is suspended. -/
theorem Reachable.enter_outcome {H : Host Call Op Reply σ ρ} {s₀ s s' : σ} {a : Call} {r : ρ}
    {stack : List (Frame Call Op Reply σ ρ)} (h : Reachable H s₀ ⟨s, stack⟩)
    (hp : H.permits (pending stack) s a) (hout : ((H.code a).run s).Outcome H.answers r s') :
    Reachable H s₀ ⟨s', stack⟩ :=
  settle_outcome hout (h.step (.enter a s stack hp))

/-- A suspended routine may go on to its end without interruption. -/
theorem Reachable.answer_outcome {H : Host Call Op Reply σ ρ} {s₀ s s' : σ} {r' : ρ}
    {f : Frame Call Op Reply σ ρ} {stack : List (Frame Call Op Reply σ ρ)}
    (h : Reachable H s₀ ⟨s, f :: stack⟩) (r : Reply f.op) (hr : H.answers f.op s r)
    (hout : (f.resume r s).Outcome H.answers r' s') : Reachable H s₀ ⟨s', stack⟩ :=
  settle_outcome hout (h.step (.answer f r s stack hr))

/-- Uninterrupted runs are runs of the machine. -/
theorem Reachable.of_turns {H : Host Call Op Reply σ ρ} {s₀ s : σ} {done : List (Call × ρ)}
    (h : Turns H s₀ done s) : Reachable H s₀ ⟨s, []⟩ := by
  induction h with
  | nil => exact start
  | snoc _ hturn ih => exact ih.enter_outcome hturn.1 hturn.2

/-! ## Section 4: Scripts

A run against an oracle is determined by when the surroundings enter the library and when they
answer. Scripts are such runs written down. -/

/-- What the surroundings do next. -/
inductive Move (Call : Type) where
  | enter (a : Call)
  | answer

/-- Make a move. An answer where nobody waits for one has no effect. -/
def play (H : Host Call Op Reply σ ρ) (oracle : (o : Op) → σ → Reply o)
    (c : Config Call Op Reply σ ρ) : Move Call → Config Call Op Reply σ ρ
  | .enter a => settle a ((H.code a).run c.state) c.stack
  | .answer =>
    match c.stack with
    | [] => c
    | f :: stack => settle f.call (f.resume (oracle f.op c.state) c.state) stack

/-- Every entry of a script is permitted. -/
def Playable (H : Host Call Op Reply σ ρ) (oracle : (o : Op) → σ → Reply o) :
    Config Call Op Reply σ ρ → List (Move Call) → Prop
  | _, [] => True
  | c, .enter a :: moves =>
    H.permits (pending c.stack) c.state a ∧ Playable H oracle (play H oracle c (.enter a)) moves
  | c, .answer :: moves => Playable H oracle (play H oracle c .answer) moves

/-- Whether a script is playable can be decided if the host's permission can. -/
def Playable.decide (H : Host Call Op Reply σ ρ) (oracle : (o : Op) → σ → Reply o)
    [∀ fs s a, Decidable (H.permits fs s a)] (c : Config Call Op Reply σ ρ) :
    (moves : List (Move Call)) → Decidable (Playable H oracle c moves)
  | [] => inferInstanceAs (Decidable True)
  | .enter a :: moves =>
    have := Playable.decide H oracle (play H oracle c (.enter a)) moves
    inferInstanceAs (Decidable (H.permits (pending c.stack) c.state a ∧ _))
  | .answer :: moves => Playable.decide H oracle (play H oracle c .answer) moves

instance (H : Host Call Op Reply σ ρ) (oracle : (o : Op) → σ → Reply o)
    [∀ fs s a, Decidable (H.permits fs s a)] (c : Config Call Op Reply σ ρ)
    (moves : List (Move Call)) : Decidable (Playable H oracle c moves) :=
  Playable.decide H oracle c moves

/-- Scripts are runs. -/
theorem Reachable.script {H : Host Call Op Reply σ ρ} {oracle : (o : Op) → σ → Reply o}
    (horacle : ∀ o s, H.answers o s (oracle o s)) {s₀ : σ} {c : Config Call Op Reply σ ρ}
    (h : Reachable H s₀ c) {moves : List (Move Call)} (hmoves : Playable H oracle c moves) :
    Reachable H s₀ (moves.foldl (play H oracle) c) := by
  induction moves generalizing c with
  | nil => exact h
  | cons move moves ih =>
    cases move with
    | enter a => exact ih (h.step (.enter a c.state c.stack hmoves.1)) hmoves.2
    | answer =>
      refine ih ?_ hmoves
      obtain ⟨s, stack⟩ := c
      cases stack with
      | nil => exact h
      | cons f stack => exact h.step (.answer f _ s stack (horacle f.op s))

end Reentrant
