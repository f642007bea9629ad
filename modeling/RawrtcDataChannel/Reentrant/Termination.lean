import RawrtcDataChannel.Reentrant.RelyGuarantee

/-!
# Termination of re-entrant code

A callback may use the library as often as it likes before it returns, but it has to return. To
say that a call terminates, each suspended routine gets a budget of further entries when it hands
control over. The budget is chosen freely at that moment and every entry on its behalf uses up one
unit. A call terminates if no run inside it is infinite, whatever the budgets are.

Executions are finite trees, so a run can only be infinite if callbacks enter the library at ever
greater depth or without end. `call_terminates` excludes that with a measure: every operation
that can be re-entered happens below the value the measure had when the call was entered.
-/

namespace Reentrant

variable {Call Op : Type} {Reply : Op → Type} {σ ρ : Type}

/-! ## Section 1: Budgets -/

/-- A configuration together with a budget for each suspended routine. -/
abbrev Budgeted (Call Op : Type) (Reply : Op → Type) (σ ρ : Type) :=
  Config Call Op Reply σ ρ × List Nat

/-- Budgets after an execution ran on top of `budgets`: if it called out, it may be re-entered
    `n` times. -/
def settleBudgets (n : Nat) : Prog Op Reply σ ρ → List Nat → List Nat
  | .ret _ _, budgets => budgets
  | .out _ _ _, budgets => n :: budgets

/-- One step inside a call: an entry that the innermost suspended routine still has budget for,
    or the answer it waits for. -/
inductive InnerStep (H : Host Call Op Reply σ ρ) :
    Budgeted Call Op Reply σ ρ → Budgeted Call Op Reply σ ρ → Prop where
  | enter (a : Call) (s : σ) (f : Frame Call Op Reply σ ρ) (stack : List (Frame Call Op Reply σ ρ))
      (b n : Nat) (budgets : List Nat) :
      H.permits (pending (f :: stack)) s a →
      InnerStep H (⟨s, f :: stack⟩, (b + 1) :: budgets)
        (settle a ((H.code a).run s) (f :: stack),
          settleBudgets n ((H.code a).run s) (b :: budgets))
  | answer (f : Frame Call Op Reply σ ρ) (r : Reply f.op) (s : σ)
      (stack : List (Frame Call Op Reply σ ρ)) (b n : Nat) (budgets : List Nat) :
      H.answers f.op s r →
      InnerStep H (⟨s, f :: stack⟩, b :: budgets)
        (settle f.call (f.resume r s) stack, settleBudgets n (f.resume r s) budgets)

/-- No infinite run starts in this configuration. -/
def Terminates (H : Host Call Op Reply σ ρ) (c : Budgeted Call Op Reply σ ρ) : Prop :=
  Acc (fun d e => InnerStep H e d) c

/-- Nothing is left to do once the outermost call has returned. -/
theorem terminates_idle (H : Host Call Op Reply σ ρ) (s : σ) (budgets : List Nat) :
    Terminates H (⟨s, []⟩, budgets) := by
  refine Acc.intro _ ?_
  intro d hd
  cases hd

/-- With fewer ways to enter the library again there are fewer runs. -/
theorem Terminates.mono {H H' : Host Call Op Reply σ ρ} (hcode : H'.code = H.code)
    (hpermits : ∀ f fs s a, H'.permits (f :: fs) s a → H.permits (f :: fs) s a)
    (hanswers : ∀ o s r, H'.answers o s r → H.answers o s r)
    {c : Budgeted Call Op Reply σ ρ} (h : Terminates H c) : Terminates H' c := by
  induction h with
  | intro c _ ih =>
    refine Acc.intro c fun d hd => ih d ?_
    cases hd with
    | enter a s f stack b n budgets hp =>
      rw [hcode]
      exact .enter a s f stack b n budgets (hpermits _ _ _ _ hp)
    | answer f r s stack b n budgets hr => exact .answer f r s stack b n budgets (hanswers _ _ _ hr)

/-! ## Section 2: Termination from a measure -/

section Measure

variable {H : Host Call Op Reply σ ρ} {C : Contract Call Op Reply σ} {μ : σ → Nat}

/-- A suspended routine that is not re-entered any more only waits for its answer. -/
private theorem terminates_answer {s : σ} {f : Frame Call Op Reply σ ρ}
    {stack : List (Frame Call Op Reply σ ρ)} {b : Nat} {budgets : List Nat}
    (henter : ∀ a b' n, b = b' + 1 → H.permits (pending (f :: stack)) s a →
      Terminates H (settle a ((H.code a).run s) (f :: stack),
        settleBudgets n ((H.code a).run s) (b' :: budgets)))
    (hanswer : ∀ r n, H.answers f.op s r →
      Terminates H (settle f.call (f.resume r s) stack,
        settleBudgets n (f.resume r s) budgets)) :
    Terminates H (⟨s, f :: stack⟩, b :: budgets) := by
  refine Acc.intro _ ?_
  intro d hd
  cases hd with
  | enter a _ _ _ b' n _ hp => exact henter a b' n rfl hp
  | answer _ r _ _ _ n _ hr => exact hanswer r n hr

/-- **Termination from a measure.** Suppose what the surroundings do never raises `μ`, and
    whenever a call may be re-entered `μ` has dropped since the call was entered. Then every call
    terminates. -/
theorem call_terminates (hrefl : ∀ fs s, C.rely fs s s)
    (htrans : ∀ fs s₁ s₂ s₃, C.rely fs s₁ s₂ → C.rely fs s₂ s₃ → C.rely fs s₁ s₃)
    (hanswers : ∀ o s r, H.answers o s r → C.answers o s r)
    (hmono : ∀ fs s s', C.rely fs s s' → μ s' ≤ μ s)
    (hdrop : ∀ s₀ a o fs s b, C.inv ((a, o) :: fs) s → C.since s₀ o s →
      (∃ s', C.rely ((a, o) :: fs) s s' ∧ H.permits ((a, o) :: fs) s' b) → μ s < μ s₀)
    (hcode : ∀ a fs s, C.inv fs s → H.permits fs s a →
      ((H.code a).run s).Safe C a fs s fun _ s' => C.inv fs s' ∧ C.rely fs s s')
    (a : Call) (stack : List (Frame Call Op Reply σ ρ)) (budgets : List Nat) (s : σ) (n : Nat)
    (hinv : C.inv (pending stack) s) (hpermits : H.permits (pending stack) s a)
    (hstack : ∀ s', C.inv (pending stack) s' → C.rely (pending stack) s s' →
      Terminates H (⟨s', stack⟩, budgets)) :
    Terminates H (settle a ((H.code a).run s) stack,
      settleBudgets n ((H.code a).run s) budgets) := by
  induction hm : μ s using Nat.strongRecOn generalizing a stack budgets s n with
  | ind m ihm =>
    have hsafe := hcode a _ s hinv hpermits
    -- the execution is a finite tree: every answer leads to a smaller one
    generalize (H.code a).run s = p at hsafe
    induction p generalizing n with
    | ret r s' => exact hstack s' hsafe.1 hsafe.2
    | out o sₒ k ihk =>
      obtain ⟨⟨hinvo, hsince⟩, hresume⟩ := hsafe
      -- re-entries happen below `m`, one budget unit each
      suffices h : ∀ b s', C.inv ((a, o) :: pending stack) s' →
          C.rely ((a, o) :: pending stack) sₒ s' →
          Terminates H (⟨s', ⟨a, o, k⟩ :: stack⟩, b :: budgets) from
        h n sₒ hinvo (hrefl _ _)
      intro b
      induction b with
      | zero =>
        intro s' hinv' hrely'
        refine terminates_answer (fun _ _ _ h => absurd h (by omega)) ?_
        intro r n' hr
        exact ihk r s' n' (hresume r s' hinv' hrely' (hanswers _ _ _ hr))
      | succ b ihb =>
        intro s' hinv' hrely'
        refine terminates_answer ?_ ?_
        · intro a' b' n' hb hp
          obtain rfl : b = b' := by omega
          have hlt : μ s' < m := by
            have hdrop' := hdrop s a o _ sₒ a' hinvo hsince ⟨s', hrely', hp⟩
            have hle := hmono _ _ _ hrely'
            omega
          refine ihm (μ s') hlt a' (⟨a, o, k⟩ :: stack) (b :: budgets) s' n' hinv' hp ?_ rfl
          intro s'' hinv'' hrely''
          exact ihb s'' hinv'' (htrans _ _ _ _ hrely' hrely'')
        · intro r n' hr
          exact ihk r s' n' (hresume r s' hinv' hrely' (hanswers _ _ _ hr))

end Measure

end Reentrant
