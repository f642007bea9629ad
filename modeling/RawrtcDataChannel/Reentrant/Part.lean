import RawrtcDataChannel.Reentrant.Interference
import RawrtcDataChannel.Reentrant.RelyGuarantee
import RawrtcDataChannel.Reentrant.Uninterrupted

/-!
# Routines on a part of the state

A library may keep many objects of one kind, each with routines that know of a single one. Such
a routine is lifted to the state with all objects: it works on its part and leaves the rest alone,
and when it is resumed it finds its part as the surroundings have left it.

To reason about a lifted routine it is enough to know what it does to its part in between two
calls out.
-/

namespace Reentrant

variable {Op Op' : Type} {Reply : Op → Type} {Reply' : Op' → Type} {σ τ α β : Type}

/-! ## Section 1: Lifting -/

/-- A part `σ` of a state `τ`. -/
structure Part (τ σ : Type) where
  get : τ → σ
  put : τ → σ → τ

/-- How the operations on a part are called, given to those on the whole. -/
structure Embedding (Reply : Op → Type) (Reply' : Op' → Type) where
  op : Op → Op'
  reply : ∀ o, Reply' (op o) → Reply o

/-- An execution on a part, as an execution on the whole. It is in state `t` but for its part. -/
def Prog.onPart (P : Part τ σ) (E : Embedding Reply Reply') :
    Prog Op Reply σ α → τ → Prog Op' Reply' τ α
  | .ret a s, t => .ret a (P.put t s)
  | .out o s k, t => .out (E.op o) (P.put t s) fun r t' => (k (E.reply o r) (P.get t')).onPart P E t'

/-- A routine for a part, as a routine for the whole. -/
def Routine.onPart (P : Part τ σ) (E : Embedding Reply Reply') (m : Routine Op Reply σ α) :
    Routine Op' Reply' τ α :=
  ⟨fun t => (m.run (P.get t)).onPart P E t⟩

@[simp] theorem Routine.run_onPart (P : Part τ σ) (E : Embedding Reply Reply')
    (m : Routine Op Reply σ α) (t : τ) :
    (m.onPart P E).run t = (m.run (P.get t)).onPart P E t := rfl

/-! ## Section 2: What a routine does in between two calls out -/

/-- Whenever the execution hands control over, and in the end, the state is related by `R` to the
    one it was resumed in last, which is `s` for a start. -/
def Prog.Stays (R : σ → σ → Prop) (s : σ) : Prog Op Reply σ α → Prop
  | .ret _ s' => R s s'
  | .out _ s' k => R s s' ∧ ∀ r s'', (k r s'').Stays R s''

/-- A routine whose executions stay in `R`. -/
def Routine.Stays (R : σ → σ → Prop) (m : Routine Op Reply σ α) : Prop :=
  ∀ s, (m.run s).Stays R s

section Stays

variable {R : σ → σ → Prop}

theorem Routine.stays_modify {f : σ → σ} (hf : ∀ s, R s (f s)) :
    (modify f : Routine Op Reply σ Unit).Stays R :=
  hf

theorem Routine.Stays.ite {c : Prop} [Decidable c] {m n : Routine Op Reply σ α} (hm : m.Stays R)
    (hn : n.Stays R) : (if c then m else n).Stays R := by
  split
  · exact hm
  · exact hn

variable [IsPreorder σ R]

theorem Routine.stays_pure (a : α) : (pure a : Routine Op Reply σ α).Stays R :=
  fun s => refl_of R s

theorem Routine.stays_get : (get : Routine Op Reply σ σ).Stays R :=
  fun s => refl_of R s

theorem Routine.stays_perform (o : Op) : (perform o : Routine Op Reply σ (Reply o)).Stays R :=
  fun s => ⟨refl_of R s, fun _ s' => refl_of R s'⟩

/-- What was done before the start of an execution that stays in `R` is done in it. -/
theorem Prog.Stays.of_start {p : Prog Op Reply σ α} {s s' : σ} (hs : R s s')
    (h : p.Stays R s') : p.Stays R s := by
  cases p with
  | ret a s'' => exact trans_of R hs h
  | out o s'' k => exact ⟨trans_of R hs h.1, h.2⟩

theorem Prog.Stays.bind {p : Prog Op Reply σ α} {f : α → σ → Prog Op Reply σ β} {s : σ}
    (hp : p.Stays R s) (hf : ∀ a s', (f a s').Stays R s') : (p.bind f).Stays R s := by
  induction p generalizing s with
  | ret a s' => exact (hf a s').of_start hp
  | out o s' k ih => exact ⟨hp.1, fun r s'' => ih r s'' (hp.2 r s'')⟩

/-- The sequencing rule. -/
theorem Routine.Stays.bind {m : Routine Op Reply σ α} {f : α → Routine Op Reply σ β}
    (hm : m.Stays R) (hf : ∀ a, (f a).Stays R) : (m >>= f).Stays R :=
  fun s => Prog.Stays.bind (hm s) fun a s' => hf a s'

/-- What is made of the result does not matter. -/
theorem Routine.Stays.map {m : Routine Op Reply σ α} (f : α → β) (hm : m.Stays R) :
    (f <$> m).Stays R :=
  hm.bind fun a => stays_pure (f a)

end Stays

/-! ## Section 3: What a routine returns -/

/-- Whatever the surroundings do, the result is in `Q`. -/
def Prog.Returns (Q : α → Prop) : Prog Op Reply σ α → Prop
  | .ret a _ => Q a
  | .out _ _ k => ∀ r s, (k r s).Returns Q

theorem Prog.returns_bind {Q : β → Prop} (p : Prog Op Reply σ α)
    {f : α → σ → Prog Op Reply σ β} (hf : ∀ a s, (f a s).Returns Q) : (p.bind f).Returns Q := by
  induction p with
  | ret a s => exact hf a s
  | out o s k ih => exact fun r s' => ih r s'

/-- A lifted execution returns what it returns on its part. -/
theorem Prog.Returns.onPart {Q : α → Prop} {p : Prog Op Reply σ α} (h : p.Returns Q)
    (P : Part τ σ) (E : Embedding Reply Reply')
    {world : (o : Op') → τ → Reply' o → τ → Prop} (t : τ) :
    (p.onPart P E t).AlwaysIn world fun a _ => Q a := by
  induction p generalizing t with
  | ret a s => exact h
  | out o s k ih => exact fun r t' _ => ih _ _ (h _ _) t'

/-! ## Section 4: Lifted routines under a contract -/

/-- A contract whose invariant and rely relation survive every change of the part in `R` is kept
    by every lifted execution that stays in `R`. -/
theorem Prog.Stays.safe_onPart {Call : Type} {P : Part τ σ} {E : Embedding Reply Reply'}
    {R : σ → σ → Prop} {C : Contract Call Op' Reply' τ} {a : Call} {fs : List (Call × Op')}
    {I : τ → Prop} {L : τ → τ → Prop} [IsPreorder τ L]
    (hstep : ∀ t s, I t → R (P.get t) s → I (P.put t s) ∧ L t (P.put t s))
    (hinv : ∀ o t₀ t, I t → C.inv ((a, o) :: fs) t ∧ C.since t₀ o t)
    (hresume : ∀ o t t', I t → C.inv ((a, o) :: fs) t' → C.rely ((a, o) :: fs) t t' →
      I t' ∧ L t t')
    {p : Prog Op Reply σ α} {t₀ t : τ} (hp : p.Stays R (P.get t)) (ht : I t) :
    (p.onPart P E t).Safe C a fs t₀ fun _ t' => I t' ∧ L t t' := by
  induction p generalizing t with
  | ret r s => exact hstep t s ht hp
  | out o s k ih =>
    obtain ⟨hput, hleft⟩ := hstep t s ht hp.1
    refine ⟨hinv _ t₀ _ hput, ?_⟩
    intro r t' hinv' hrely _
    obtain ⟨ht', hright⟩ := hresume _ _ _ hput hinv' hrely
    apply (ih (E.reply o r) (P.get t') (hp.2 _ _) ht').mono
    intro r' t'' h
    exact ⟨h.1, trans_of L hleft (trans_of L hright h.2)⟩

end Reentrant
