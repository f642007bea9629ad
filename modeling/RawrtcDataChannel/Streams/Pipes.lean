import Mathlib.Data.List.Perm.Subperm
import Mathlib.Logic.Relation
import RawrtcDataChannel.Streams.Conversation

/-!
# What becomes of messages

A pipe is one direction of a pair of channels. What is sent is under way until it is handed over or
dropped. A message may overtake another one if either of them is unordered.

Nothing is handed over twice, ordered messages are handed over in the order in which they have been
sent, and if none may be dropped then none is missing in the end.
-/

namespace Streams

/-! ## Section 1: Pipes -/

/-- What has been sent, what has been handed over, and what is under way, each in order. -/
structure Pipe (μ : Type) where
  sent : List μ
  handed : List μ
  underway : List μ

namespace Pipe

variable {μ : Type}

/-- Nothing has been sent yet. -/
def empty : Pipe μ :=
  ⟨[], [], []⟩

/-- What happens to one message. -/
inductive Step (unordered : μ → Bool) (droppable : μ → Prop) : Pipe μ → Pipe μ → Prop where
  | send (m : μ) (sent handed underway : List μ) : Step unordered droppable
      ⟨sent, handed, underway⟩ ⟨sent ++ [m], handed, underway ++ [m]⟩
  | hand (m : μ) (sent handed pre post : List μ) :
      (∀ m' ∈ pre, unordered m = true ∨ unordered m' = true) → Step unordered droppable
        ⟨sent, handed, pre ++ m :: post⟩ ⟨sent, handed ++ [m], pre ++ post⟩
  | drop (m : μ) (sent handed pre post : List μ) : droppable m → Step unordered droppable
      ⟨sent, handed, pre ++ m :: post⟩ ⟨sent, handed, pre ++ post⟩

/-- The pipes of all runs. -/
def Reached (unordered : μ → Bool) (droppable : μ → Prop) (p : Pipe μ) : Prop :=
  Relation.ReflTransGen (Step unordered droppable) empty p

variable {unordered : μ → Bool} {droppable droppable' : μ → Prop} {p p' : Pipe μ}

theorem Step.mono (h : ∀ m, droppable m → droppable' m) (hstep : Step unordered droppable p p') :
    Step unordered droppable' p p' := by
  cases hstep with
  | send m sent handed underway => exact .send m sent handed underway
  | hand m sent handed pre post hpre => exact .hand m sent handed pre post hpre
  | drop m sent handed pre post hm => exact .drop m sent handed pre post (h m hm)

/-- More may be dropped. -/
theorem Reached.mono (h : ∀ m, droppable m → droppable' m) (hp : p.Reached unordered droppable) :
    p.Reached unordered droppable' :=
  Relation.ReflTransGen.mono (fun _ _ => Step.mono h) _ _ hp

theorem Reached.step (h : p.Reached unordered droppable) (hstep : Step unordered droppable p p') :
    p'.Reached unordered droppable :=
  h.tail hstep

/-- Several messages are sent. -/
theorem Reached.sends {sent handed underway : List μ}
    (h : Reached unordered droppable ⟨sent, handed, underway⟩) (ms : List μ) :
    Reached unordered droppable ⟨sent ++ ms, handed, underway ++ ms⟩ := by
  induction ms generalizing sent underway with
  | nil => simpa using h
  | cons m ms ih =>
    have hmore := ih (h.step (.send m sent handed underway))
    rwa [List.append_assoc, List.append_assoc] at hmore

/-! ## Section 2: What holds of all pipes -/

/-- A message moves from the middle of what is under way to the end of what has been handed over. -/
theorem perm_of_moved {m : μ} {handed pre post : List μ} :
    (handed ++ [m] ++ (pre ++ post)).Perm (handed ++ (pre ++ m :: post)) := by
  rw [List.append_assoc, List.singleton_append]
  exact List.perm_middle.symm.append_left handed

/-- What has been sent stays sent. -/
theorem Step.sent (h : Step unordered droppable p p') : p.sent ⊆ p'.sent := by
  cases h with
  | send => exact List.subset_append_left _ _
  | hand => exact List.Subset.refl _
  | drop => exact List.Subset.refl _

/-- **Nothing is handed over twice**, and nothing that has not been sent. -/
theorem Reached.subperm (h : p.Reached unordered droppable) :
    (p.handed ++ p.underway).Subperm p.sent := by
  induction h with
  | refl => exact List.Subperm.refl _
  | tail _ hstep ih =>
    cases hstep with
    | send m =>
      rw [← List.append_assoc]
      exact (List.subperm_append_right [m]).mpr ih
    | hand m sent handed pre post _ => exact perm_of_moved.subperm.trans ih
    | drop m sent handed pre post _ =>
      have hless : (handed ++ (pre ++ post)).Sublist (handed ++ (pre ++ m :: post)) :=
        (List.Sublist.refl handed).append sublist_of_removed
      exact hless.subperm.trans ih

/-- The messages in a list that are ordered. -/
def ordered (unordered : μ → Bool) (l : List μ) : List μ :=
  l.filter fun m => !unordered m

theorem ordered_eq_self {l : List μ} (h : ∀ m ∈ l, unordered m = false) :
    ordered unordered l = l := by
  apply List.filter_eq_self.mpr
  intro m hm
  simp [h m hm]

/-- **Ordered messages stay in order.** -/
theorem Reached.sublist (h : p.Reached unordered droppable) :
    (ordered unordered (p.handed ++ p.underway)).Sublist (ordered unordered p.sent) := by
  induction h with
  | refl => exact List.Sublist.refl _
  | tail _ hstep ih =>
    cases hstep with
    | send m sent handed underway =>
      have hmore := ih.append (List.Sublist.refl (ordered unordered [m]))
      simp only [ordered, ← List.filter_append, List.append_assoc] at hmore
      exact hmore
    | hand m sent handed pre post hpre =>
      apply List.Sublist.trans _ ih
      by_cases hm : unordered m = true
      · simp [ordered, hm]
      · -- nothing that is ordered has been overtaken
        have hnone : pre.filter (fun m => !unordered m) = [] := by
          apply List.filter_eq_nil_iff.mpr
          intro m' hm'
          simpa using (hpre m' hm').resolve_left hm
        simp [ordered, hm, hnone]
    | drop m sent handed pre post _ =>
      apply List.Sublist.trans _ ih
      exact ((List.Sublist.refl handed).append sublist_of_removed).filter _

/-- **Nothing is missing** that may not be dropped. -/
theorem Reached.perm (h : p.Reached unordered droppable) (hsent : ∀ m ∈ p.sent, ¬ droppable m) :
    (p.handed ++ p.underway).Perm p.sent := by
  induction h with
  | refl => exact List.Perm.refl _
  | tail hp hstep ih =>
    have hbefore := ih fun m hm => hsent m (hstep.sent hm)
    cases hstep with
    | send m =>
      rw [← List.append_assoc]
      exact hbefore.append_right [m]
    | hand m sent handed pre post _ => exact perm_of_moved.trans hbefore
    | drop m sent handed pre post hm =>
      -- what is under way has been sent
      have hmem : m ∈ sent := (Reached.subperm hp).subset (by simp)
      exact absurd hm (hsent m hmem)

/-- A pipe whose messages are all ordered keeps the order. -/
theorem Reached.in_order (h : p.Reached unordered droppable)
    (hsent : ∀ m ∈ p.sent, unordered m = false) : (p.handed ++ p.underway).Sublist p.sent := by
  have hsublist := h.sublist
  rwa [ordered_eq_self hsent, ordered_eq_self fun m hm => hsent m (h.subperm.subset hm)] at hsublist

/-- A pipe whose messages are all ordered and may not be dropped is a queue. -/
theorem Reached.queue (h : p.Reached unordered droppable)
    (hsent : ∀ m ∈ p.sent, unordered m = false ∧ ¬ droppable m) :
    p.handed ++ p.underway = p.sent :=
  (h.in_order fun m hm => (hsent m hm).1).eq_of_length
    (h.perm fun m hm => (hsent m hm).2).length_eq

end Pipe

end Streams
