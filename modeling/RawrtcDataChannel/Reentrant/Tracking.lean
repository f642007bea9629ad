import RawrtcDataChannel.Reentrant.RelyGuarantee
import RawrtcDataChannel.Reentrant.Uninterrupted

/-!
# Tracking what a library does between two pauses

While some operations are performed the surroundings may enter the library again, while others are
not. A routine pauses at the former. What it does from one pause to the next is a stretch: nobody
else gets to see the states in between.

A routine keeps an invariant at its pauses, and promises something about each of its stretches.
`Prog.Tracks` is the weakest precondition of an execution under such a promise. The state in which a
stretch begins is not always the one it is measured against, so the promise is passed along as a
predicate on the state at the next pause. `Stretch.held` is the rule for whole systems: if every
entry point keeps its promises, every stretch of every run does.
-/

namespace Reentrant

variable {Call Op : Type} {Reply : Op → Type} {σ ρ α β : Type}

/-! ## Section 1: Stretches -/

/-- The execution has come to its end or pauses. -/
def Prog.Paused (pauses : Op → Prop) : Prog Op Reply σ α → Prop
  | .ret _ _ => True
  | .out o _ _ => pauses o

/-- The execution goes on to `p'` without a pause. -/
inductive Prog.GoesOn (pauses : Op → Prop) (answers : (o : Op) → σ → Reply o → Prop) :
    Prog Op Reply σ α → Prog Op Reply σ α → Prop where
  | refl (p : Prog Op Reply σ α) : GoesOn pauses answers p p
  | out (o : Op) (s : σ) (k : Reply o → σ → Prog Op Reply σ α) (r : Reply o)
      (p' : Prog Op Reply σ α) : ¬ pauses o → answers o s r → GoesOn pauses answers (k r s) p' →
      GoesOn pauses answers (.out o s k) p'

/-- Other surroundings may give these answers, too. -/
theorem Prog.GoesOn.mono {pauses : Op → Prop} {answers answers' : (o : Op) → σ → Reply o → Prop}
    (h : ∀ o s r, answers o s r → answers' o s r) {p p' : Prog Op Reply σ α}
    (hp : p.GoesOn pauses answers p') : p.GoesOn pauses answers' p' := by
  induction hp with
  | refl p => exact .refl p
  | out o s k r p' hpause hr _ ih => exact .out o s k r p' hpause (h o s r hr) ih

/-- All calls that are still made are among those of the whole execution. -/
theorem Prog.GoesOn.within {pauses : Op → Prop} {answers : (o : Op) → σ → Reply o → Prop}
    {calls : Op → Prop} {Q : α → σ → Prop} {p p' : Prog Op Reply σ α}
    (hp : p.GoesOn pauses answers p') (h : p.Within calls Q) : p'.Within calls Q := by
  induction hp with
  | refl p => exact h
  | out o s k r p' _ _ _ ih => exact ih (h.2 r)

/-- Go on to the next pause against an oracle. -/
def Prog.goOn (pauses : Op → Prop) [DecidablePred pauses] (oracle : (o : Op) → σ → Reply o) :
    Prog Op Reply σ α → Prog Op Reply σ α
  | .ret r s => .ret r s
  | .out o s k => if pauses o then .out o s k else (k (oracle o s) s).goOn pauses oracle

section Oracle

variable {pauses : Op → Prop} [DecidablePred pauses] {oracle : (o : Op) → σ → Reply o}
  {answers : (o : Op) → σ → Reply o → Prop}

theorem Prog.goesOn_goOn (horacle : ∀ o s, answers o s (oracle o s)) (p : Prog Op Reply σ α) :
    p.GoesOn pauses answers (p.goOn pauses oracle) := by
  induction p with
  | ret r s => exact .refl _
  | out o s k ih =>
    by_cases ho : pauses o
    · rw [goOn, if_pos ho]
      exact .refl _
    · rw [goOn, if_neg ho]
      exact .out o s k _ _ ho (horacle o s) (ih _ s)

theorem Prog.paused_goOn (p : Prog Op Reply σ α) : (p.goOn pauses oracle).Paused pauses := by
  induction p with
  | ret r s => trivial
  | out o s k ih =>
    by_cases ho : pauses o
    · rw [goOn, if_pos ho]
      exact ho
    · rw [goOn, if_neg ho]
      exact ih _ s

end Oracle

/-- The surroundings enter the library or answer the innermost suspended routine, which then goes on
    to its next pause. -/
inductive Stretch (H : Host Call Op Reply σ ρ) (pauses : Op → Prop) :
    Config Call Op Reply σ ρ → Config Call Op Reply σ ρ → Prop where
  | enter (a : Call) (s : σ) (stack : List (Frame Call Op Reply σ ρ)) (p : Prog Op Reply σ ρ) :
      H.permits (pending stack) s a → ((H.code a).run s).GoesOn pauses H.answers p →
      p.Paused pauses → Stretch H pauses ⟨s, stack⟩ (settle a p stack)
  | answer (f : Frame Call Op Reply σ ρ) (r : Reply f.op) (s : σ)
      (stack : List (Frame Call Op Reply σ ρ)) (p : Prog Op Reply σ ρ) :
      H.answers f.op s r → (f.resume r s).GoesOn pauses H.answers p → p.Paused pauses →
      Stretch H pauses ⟨s, f :: stack⟩ (settle f.call p stack)

/-- A host that allows more makes more stretches. -/
theorem Stretch.mono {H H' : Host Call Op Reply σ ρ} {pauses : Op → Prop} (hcode : H'.code = H.code)
    (hpermits : ∀ fs s a, H.permits fs s a → H'.permits fs s a)
    (hanswers : ∀ o s r, H.answers o s r → H'.answers o s r) {c d : Config Call Op Reply σ ρ}
    (h : Stretch H pauses c d) : Stretch H' pauses c d := by
  cases h with
  | enter a s stack p hp hgoes hpaused =>
    rw [← hcode] at hgoes
    exact .enter a s stack p (hpermits _ _ _ hp) (hgoes.mono hanswers) hpaused
  | answer f r s stack p hr hgoes hpaused =>
    exact .answer f r s stack p (hanswers _ _ _ hr) (hgoes.mono hanswers) hpaused

section Reach

variable {H : Host Call Op Reply σ ρ} {pauses : Op → Prop} {s₀ : σ}

/-- What a routine does without a pause is done by the machine, too. -/
theorem Reachable.goesOn {a : Call} {stack : List (Frame Call Op Reply σ ρ)}
    {p p' : Prog Op Reply σ ρ} (hp : p.GoesOn pauses H.answers p')
    (h : Reachable H s₀ (settle a p stack)) : Reachable H s₀ (settle a p' stack) := by
  induction hp with
  | refl p => exact h
  | out o s k r p' _ hr _ ih => exact ih (h.step (.answer ⟨a, o, k⟩ r s stack hr))

/-- Stretches are runs of the machine. -/
theorem Reachable.stretch {c d : Config Call Op Reply σ ρ} (h : Reachable H s₀ c)
    (hstretch : Stretch H pauses c d) : Reachable H s₀ d := by
  cases hstretch with
  | enter a s stack p hpermits hp _ => exact (h.step (.enter a s stack hpermits)).goesOn hp
  | answer f r s stack p hr hp _ => exact (h.step (.answer f r s stack hr)).goesOn hp

end Reach

/-! ## Section 2: Promises -/

/-- What calls promise, and what holds at each pause. -/
structure Discipline (Call Op : Type) (Reply : Op → Type) (σ : Type) where
  pauses : Op → Prop
  inv : List (Call × Op) → σ → Prop
  /-- The promise of calls on top of suspended ones, on which these rely. -/
  rely : σ → σ → Prop
  /-- The promise of calls with nothing suspended below. -/
  promise : σ → σ → Prop
  answers : (o : Op) → σ → Reply o → Prop

namespace Discipline

variable (D : Discipline Call Op Reply σ)

/-- What a call promises that runs on top of `fs`. -/
def owes (fs : List (Call × Op)) : σ → σ → Prop :=
  match fs with
  | [] => D.promise
  | _ :: _ => D.rely

/-- What a call has to establish at its end. -/
def ends (fs : List (Call × Op)) (K : σ → Prop) (s : σ) : Prop :=
  K s ∧ D.inv fs s

end Discipline

variable {D : Discipline Call Op Reply σ} {a : Call} {fs : List (Call × Op)}

/-- The execution `p` of the call `a` on top of `fs` keeps its promises, of which the first one is
    that `K` holds at the next pause. At its end `Q` holds, given what is promised then. -/
def Prog.Tracks (D : Discipline Call Op Reply σ) (a : Call) (fs : List (Call × Op))
    (Q : (σ → Prop) → α → σ → Prop) : (σ → Prop) → Prog Op Reply σ α → Prop
  | K, .ret r s => Q K r s
  | K, .out o s k =>
    (D.pauses o → (K s ∧ D.inv ((a, o) :: fs) s) ∧ ∀ r s', D.inv ((a, o) :: fs) s' →
      D.rely s s' → D.answers o s' r → (k r s').Tracks D a fs Q (D.owes fs s')) ∧
    (¬ D.pauses o → ∀ r, D.answers o s r → (k r s).Tracks D a fs Q K)

namespace Prog

variable {K K' : σ → Prop}

@[simp] theorem tracks_ret {Q : (σ → Prop) → α → σ → Prop} (r : α) (s : σ) :
    (ret r s : Prog Op Reply σ α).Tracks D a fs Q K ↔ Q K r s := Iff.rfl

/-- The consequence rule. -/
theorem Tracks.mono {Q Q' : (σ → Prop) → α → σ → Prop} {p : Prog Op Reply σ α}
    (h : p.Tracks D a fs Q K) (hQ : ∀ K r s, Q K r s → Q' K r s) : p.Tracks D a fs Q' K := by
  induction p generalizing K with
  | ret r s => exact hQ K r s h
  | out o s k ih =>
    refine ⟨?_, fun hpause r hr => ih r s (h.2 hpause r hr)⟩
    intro hpause
    obtain ⟨hs, hk⟩ := h.1 hpause
    exact ⟨hs, fun r s' h₁ h₂ h₃ => ih r s' (hk r s' h₁ h₂ h₃)⟩

/-- The sequencing rule. -/
@[simp] theorem tracks_bind {Q : (σ → Prop) → β → σ → Prop} (p : Prog Op Reply σ α)
    (f : α → σ → Prog Op Reply σ β) : (p.bind f).Tracks D a fs Q K ↔
      p.Tracks D a fs (fun K r s => (f r s).Tracks D a fs Q K) K := by
  induction p generalizing K with
  | ret r s => rfl
  | out o s k ih => simp only [bind, Tracks, ih]

/-- Whatever is promised at first may be replaced by something stronger. -/
theorem Tracks.weaken {p : Prog Op Reply σ α} (h : p.Tracks D a fs (fun K _ => D.ends fs K) K)
    (hK : ∀ s, K s → K' s) : p.Tracks D a fs (fun K _ => D.ends fs K) K' := by
  induction p with
  | ret r s => exact ⟨hK s h.1, h.2⟩
  | out o s k ih =>
    refine ⟨?_, fun hpause r hr => ih r s (h.2 hpause r hr)⟩
    intro hpause
    obtain ⟨hs, hk⟩ := h.1 hpause
    exact ⟨⟨hK s hs.1, hs.2⟩, hk⟩

/-- An execution without pauses. -/
theorem Within.tracks {R : α → σ → Prop} {Q : (σ → Prop) → α → σ → Prop} {p : Prog Op Reply σ α}
    {calls : Op → Prop} (hcalls : ∀ o, calls o → ¬ D.pauses o) (h : p.Within calls R)
    (hQ : p.Always D.answers fun r s => R r s → Q K r s) : p.Tracks D a fs Q K := by
  induction p with
  | ret r s => exact hQ h
  | out o s k ih =>
    obtain ⟨ho, hk⟩ := h
    refine ⟨fun hpause => absurd hpause (hcalls o ho), ?_⟩
    intro _ r hr
    exact ih r s (hk r) (hQ r hr)

/-- The promise stays the same until the next pause. -/
theorem Tracks.goesOn {Q : (σ → Prop) → α → σ → Prop} {p p' : Prog Op Reply σ α}
    (h : p.Tracks D a fs Q K) (hp : p.GoesOn D.pauses D.answers p') : p'.Tracks D a fs Q K := by
  induction hp with
  | refl p => exact h
  | out o s k r p' hpause hr _ ih => exact ih (h.2 hpause r hr)

end Prog

/-! ## Section 3: Every stretch of every run -/

/-- The suspended routines will keep their promises, and what they rely on has been kept. -/
def Held (D : Discipline Call Op Reply σ) (s : σ) : List (Frame Call Op Reply σ ρ) → Prop
  | [] => True
  | f :: stack => (∃ sₒ, D.rely sₒ s ∧ ∀ r s', D.inv (pending (f :: stack)) s' → D.rely sₒ s' →
      D.answers f.op s' r → (f.resume r s').Tracks D f.call (pending stack)
        (fun K _ => D.ends (pending stack) K) (D.owes (pending stack) s')) ∧ Held D s stack

section Rule

variable {H : Host Call Op Reply σ ρ} {K : σ → Prop}

theorem Held.trans (htrans : ∀ s₁ s₂ s₃, D.rely s₁ s₂ → D.rely s₂ s₃ → D.rely s₁ s₃) {s s' : σ}
    {stack : List (Frame Call Op Reply σ ρ)} (h : Held D s stack) (hs : D.rely s s') :
    Held D s' stack := by
  induction stack with
  | nil => trivial
  | cons f stack ih =>
    obtain ⟨⟨sₒ, hrely, hresume⟩, hrest⟩ := h
    exact ⟨⟨sₒ, htrans _ _ _ hrely hs, hresume⟩, ih hrest⟩

/-- An execution that has come to a pause has kept its promise, and it waits. -/
theorem Prog.Tracks.settle (hrefl : ∀ s, D.rely s s)
    (htrans : ∀ s₁ s₂ s₃, D.rely s₁ s₂ → D.rely s₂ s₃ → D.rely s₁ s₃) {s : σ}
    {stack : List (Frame Call Op Reply σ ρ)} {p : Prog Op Reply σ ρ}
    (h : p.Tracks D a (pending stack) (fun K _ => D.ends (pending stack) K) K)
    (hp : p.Paused D.pauses) (hheld : Held D s stack)
    (hK : stack ≠ [] → ∀ s', K s' → D.rely s s') :
    K (Reentrant.settle a p stack).state ∧
      D.inv (pending (Reentrant.settle a p stack).stack) (Reentrant.settle a p stack).state ∧
      Held D (Reentrant.settle a p stack).state (Reentrant.settle a p stack).stack := by
  -- what is suspended below relies on the promise
  have hbelow : ∀ s', K s' → Held D s' stack := by
    intro s' hs'
    cases stack with
    | nil => trivial
    | cons f stack => exact hheld.trans htrans (hK (by simp) s' hs')
  cases p with
  | ret r s' => exact ⟨h.1, h.2, hbelow s' h.1⟩
  | out o s' k =>
    obtain ⟨⟨hs', hinv⟩, hk⟩ := h.1 hp
    exact ⟨hs', hinv, ⟨s', hrefl s', hk⟩, hbelow s' hs'⟩

/-- **Every stretch keeps its promise**, if every entry point does. -/
theorem Stretch.held (hrefl : ∀ s, D.rely s s)
    (htrans : ∀ s₁ s₂ s₃, D.rely s₁ s₂ → D.rely s₂ s₃ → D.rely s₁ s₃)
    (hpromise : ∀ s s', D.rely s s' → D.promise s s')
    (hanswers : ∀ o s r, H.answers o s r → D.answers o s r)
    (hcode : ∀ a fs s, D.inv fs s → H.permits fs s a → ((H.code a).run s).Tracks D a fs
      (fun K _ => D.ends fs K) (D.owes fs s))
    {c d : Config Call Op Reply σ ρ} (hinv : D.inv (pending c.stack) c.state)
    (hheld : Held D c.state c.stack) (hstretch : Stretch H D.pauses c d) :
    D.promise c.state d.state ∧ D.inv (pending d.stack) d.state ∧ Held D d.state d.stack := by
  have howes : ∀ (stack : List (Frame Call Op Reply σ ρ)) s s', D.owes (pending stack) s s' →
      D.promise s s' := by
    intro stack s s' h
    cases stack with
    | nil => exact h
    | cons f stack => exact hpromise s s' h
  have hrely : ∀ (stack : List (Frame Call Op Reply σ ρ)) s, stack ≠ [] → ∀ s',
      D.owes (pending stack) s s' → D.rely s s' := by
    intro stack s hne s' h
    cases stack with
    | nil => exact absurd rfl hne
    | cons f stack => exact h
  cases hstretch with
  | enter a s stack p hpermits hp hpaused =>
    obtain ⟨hs', hrest⟩ := ((hcode a _ s hinv hpermits).goesOn (hp.mono hanswers)).settle hrefl
      htrans hpaused hheld (hrely stack s)
    exact ⟨howes stack _ _ hs', hrest⟩
  | answer f r s stack p hr hp hpaused =>
    obtain ⟨⟨sₒ, hsₒ, hresume⟩, hbelow⟩ := hheld
    have htracks := hresume r s hinv hsₒ (hanswers _ _ _ hr)
    obtain ⟨hs', hrest⟩ := (htracks.goesOn (hp.mono hanswers)).settle hrefl htrans hpaused hbelow
      (hrely stack s)
    exact ⟨howes stack _ _ hs', hrest⟩

end Rule

end Reentrant
