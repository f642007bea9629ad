import Mathlib.Algebra.Group.Pi.Basic
import Mathlib.Data.Set.Card

/-!
# Reference-counted objects

A heap of objects that live as long as somebody refers to them. Whoever allocates an object holds
the first reference to it; an object whose last reference is dropped is gone. Dropping or adding
a reference through a null pointer does nothing.

To follow what a routine does to such a heap it is enough to count: allocating and referring add
one reference at one address, releasing takes one away.
-/

namespace Refcount

/-- Names of allocated objects. They are handed out in order and never twice. -/
abbrev Address := Nat

/-- Objects of type `α` and the number of references to each. The content of an object without
    references has no meaning. -/
structure Heap (α : Type) where
  content : Address → Option α
  references : Address → Nat
  next : Address
  fresh : ∀ a, next ≤ a → references a = 0

/-- The references that a pointer is. -/
def pointsTo : Option Address → Address → Nat
  | none, _ => 0
  | some a, b => if b = a then 1 else 0

@[simp] theorem pointsTo_none : pointsTo none = 0 := rfl

theorem pointsTo_self (a : Address) : pointsTo (some a) a = 1 :=
  if_pos rfl

namespace Heap

variable {α : Type} (h : Heap α)

/-! ## Section 1: Operations -/

/-- The heap without objects. -/
def empty : Heap α where
  content := fun _ => none
  references := fun _ => 0
  next := 0
  fresh := fun _ _ => rfl

/-- The objects somebody refers to. -/
def live : Set Address :=
  {a | h.references a ≠ 0}

/-- Allocate an object and return the only reference to it. -/
def alloc (x : α) : Address × Heap α :=
  (h.next,
    { content := Function.update h.content h.next (some x)
      references := Function.update h.references h.next 1
      next := h.next + 1
      fresh := by
        intro a ha
        rw [Function.update_of_ne (Nat.ne_of_gt ha)]
        exact h.fresh a (Nat.le_of_succ_le ha) })

/-- Add a reference to an object that is alive. -/
def ref : Option Address → Heap α
  | none => h
  | some a =>
    { h with
      references := fun b => if b = a ∧ h.references a ≠ 0 then h.references b + 1
        else h.references b
      fresh := by
        intro b hb
        have hdead := h.fresh b hb
        rw [if_neg (fun hba => hba.2 (hba.1 ▸ hdead))]
        exact hdead }

/-- Drop a reference. -/
def release : Option Address → Heap α
  | none => h
  | some a =>
    { h with
      references := fun b => if b = a then h.references b - 1 else h.references b
      fresh := by
        intro b hb
        simp only [h.fresh b hb, Nat.zero_sub, ite_self] }

/-- The object that goes when a reference is dropped. -/
def lastReferenceTo : Option Address → Option α
  | none => none
  | some a => if h.references a = 1 then h.content a else none

/-! ## Section 2: Counting references -/

theorem references_next : h.references h.next = 0 :=
  h.fresh h.next (Nat.le_refl _)

theorem references_alloc (x : α) (b : Address) :
    (h.alloc x).2.references b = h.references b + pointsTo (some (h.alloc x).1) b := by
  show Function.update h.references h.next 1 b = _ + if b = h.next then 1 else 0
  by_cases hb : b = h.next
  · rw [hb, Function.update_self, references_next, if_pos rfl]
  · rw [Function.update_of_ne hb, if_neg hb, Nat.add_zero]

/-- A reference counts if it is to an object that is alive. -/
theorem references_ref {p : Option Address} (hp : ∀ a ∈ p, h.references a ≠ 0) (b : Address) :
    (h.ref p).references b = h.references b + pointsTo p b := by
  cases p with
  | none => rfl
  | some a =>
    have ha : h.references a ≠ 0 := hp a rfl
    simp only [ref, pointsTo, ha, ne_eq, not_false_eq_true, and_true]
    split <;> rfl

theorem references_release (p : Option Address) (b : Address) :
    (h.release p).references b = h.references b - pointsTo p b := by
  cases p with
  | none => rfl
  | some a =>
    simp only [release, pointsTo]
    split <;> rfl

@[simp] theorem content_ref (p : Option Address) : (h.ref p).content = h.content := by
  cases p <;> rfl

@[simp] theorem content_release (p : Option Address) : (h.release p).content = h.content := by
  cases p <;> rfl

theorem content_alloc_self (x : α) : (h.alloc x).2.content (h.alloc x).1 = some x :=
  Function.update_self ..

/-- Allocating leaves the objects alone that are alive. -/
theorem content_alloc_of_live (x : α) {a : Address} (ha : h.references a ≠ 0) :
    (h.alloc x).2.content a = h.content a := by
  apply Function.update_of_ne
  rintro rfl
  exact ha h.references_next

/-- The last reference leads to the object. -/
theorem lastReferenceTo_of_references {a : Address} (ha : h.references a = 1) :
    h.lastReferenceTo (some a) = h.content a :=
  if_pos ha

/-! ## Section 3: Live objects -/

theorem next_notMem_live : h.next ∉ h.live :=
  fun hlive => hlive h.references_next

theorem live_congr {h h' : Heap α} (hreferences : h.references = h'.references) :
    h.live = h'.live := by
  rw [live, live, hreferences]

/-- An allocation makes one more object live. -/
theorem live_alloc (x : α) : (h.alloc x).2.live = insert (h.alloc x).1 h.live := by
  ext b
  show (h.alloc x).2.references b ≠ 0 ↔ b = h.next ∨ h.references b ≠ 0
  rw [references_alloc]
  show _ + (if b = h.next then 1 else 0) ≠ 0 ↔ _
  by_cases hb : b = h.next
  · simp [hb]
  · simp [hb]

/-- What was live before an allocation is not all that is live after it. -/
theorem live_alloc_ne (x : α) : (h.alloc x).2.live ≠ h.live := by
  rw [live_alloc]
  intro heq
  exact h.next_notMem_live (heq ▸ Set.mem_insert h.next h.live)

theorem finite_live : h.live.Finite := by
  apply (Set.finite_lt_nat h.next).subset
  intro a ha
  by_contra hnext
  exact ha (h.fresh a (Nat.not_lt.mp hnext))

theorem ncard_live_alloc (x : α) : (h.alloc x).2.live.ncard = h.live.ncard + 1 := by
  rw [live_alloc]
  exact Set.ncard_insert_of_notMem h.next_notMem_live h.finite_live

end Heap

end Refcount
