import RawrtcDataChannel.Reentrant.RelyGuarantee
import RawrtcDataChannel.Reentrant.Uninterrupted

/-!
# Keeping an invariant along the text of a routine

Most routines of a library establish nothing new. If an invariant holds when they are called, it
holds whenever they hand control over and when they are done. `m.Guarded C a fs P R` says so for a
routine `m` that runs on behalf of the call `a`, with `fs` suspended below it: the contract `C` is
kept, the invariant `P` is restored, and all that happened meanwhile is allowed by `R`.

The rules are structural, as those for `Routine.Within`. Calls that a contract trusts need no
argument at all.
-/

namespace Reentrant

variable {Call Op : Type} {Reply : Op → Type} {σ α β : Type} {C : Contract Call Op Reply σ}
  {a : Call} {fs : List (Call × Op)}

/-! ## Section 1: Trusted calls -/

/-- The contract demands nothing of the calls in `calls`, and they leave the state alone. -/
structure Contract.Trusts (C : Contract Call Op Reply σ) (calls : Op → Prop) : Prop where
  inv : ∀ ⦃o⦄, calls o → ∀ a fs s, C.inv ((a, o) :: fs) s
  since : ∀ ⦃o⦄, calls o → ∀ s₀ s, C.since s₀ o s
  rely : ∀ ⦃o⦄, calls o → ∀ a fs s s', C.rely ((a, o) :: fs) s s' → s' = s

/-- An execution with trusted calls only is safe, and ends as it always does. -/
theorem Prog.Within.safe {calls : Op → Prop} (hC : C.Trusts calls) {Q Q' : α → σ → Prop}
    {p : Prog Op Reply σ α} (h : p.Within calls Q) (a : Call) (fs : List (Call × Op)) (s₀ : σ)
    (h' : p.Always C.answers Q') :
    p.Safe C a fs s₀ fun r s => Q r s ∧ Q' r s := by
  induction p with
  | ret r s => exact ⟨h, h'⟩
  | out o s k ih =>
    obtain ⟨ho, hk⟩ := h
    refine ⟨⟨hC.inv ho _ _ _, hC.since ho _ _⟩, ?_⟩
    intro r s' _ hrely hr
    obtain rfl := hC.rely ho _ _ _ _ hrely
    exact ih r s' (hk r) (h' r hr)

/-! ## Section 2: Guarded routines -/

/-- The routine keeps the contract and the invariant `P`, and what happens meanwhile is in `R`. -/
def Routine.Guarded (C : Contract Call Op Reply σ) (a : Call) (fs : List (Call × Op))
    (P : σ → Prop) (R : σ → σ → Prop) (m : Routine Op Reply σ α) : Prop :=
  ∀ s₀ s, P s → (m.run s).Safe C a fs s₀ fun _ s' => P s' ∧ R s s'

namespace Routine

variable {P : σ → Prop} {R : σ → σ → Prop}

theorem Guarded.ite {c : Prop} [Decidable c] {m n : Routine Op Reply σ α}
    (hm : m.Guarded C a fs P R) (hn : n.Guarded C a fs P R) :
    (if c then m else n).Guarded C a fs P R := by
  split
  · exact hm
  · exact hn

/-- A routine with trusted calls only, whose effect does not touch the invariant. -/
theorem Within.guarded {calls : Op → Prop} (hC : C.Trusts calls) {R' : σ → σ → Prop}
    (hR' : ∀ s s', P s → R' s s' → P s' ∧ R s s') {m : Routine Op Reply σ α}
    (h : m.Within calls R') : m.Guarded C a fs P R := by
  intro s₀ s hs
  have hsafe := (h s).safe hC a fs s₀ (h s).always
  exact hsafe.mono fun r s' h' => hR' s s' hs h'.1

variable [IsPreorder σ R]

theorem guarded_pure (r : α) : (pure r : Routine Op Reply σ α).Guarded C a fs P R :=
  fun _ s hs => ⟨hs, refl_of R s⟩

theorem guarded_get : (get : Routine Op Reply σ σ).Guarded C a fs P R :=
  fun _ s hs => ⟨hs, refl_of R s⟩

/-- The sequencing rule. -/
theorem Guarded.bind {m : Routine Op Reply σ α} {f : α → Routine Op Reply σ β}
    (hm : m.Guarded C a fs P R) (hf : ∀ r, (f r).Guarded C a fs P R) :
    (m >>= f).Guarded C a fs P R := by
  intro s₀ s hs
  rw [run_bind, Prog.safe_bind]
  apply (hm s₀ s hs).mono
  intro r s' h
  apply (hf r s₀ s' h.1).mono
  intro r' s'' h'
  exact ⟨h'.1, trans_of R h.2 h'.2⟩

/-- What is made of the result does not matter. -/
theorem Guarded.map {m : Routine Op Reply σ α} (f : α → β) (hm : m.Guarded C a fs P R) :
    (f <$> m).Guarded C a fs P R :=
  hm.bind fun r => guarded_pure (f r)

end Routine

end Reentrant
