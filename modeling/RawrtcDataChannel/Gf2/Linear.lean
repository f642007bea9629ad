import Mathlib.Logic.Function.Iterate

/-!
# Linear maps on words over GF(2)

A word of `w` bits is a vector over the field with two elements, and `^^^` is its addition. A map
between words that distributes over `^^^` is linear: it is determined by its values on the words
with a single bit, its columns.

A matrix is stored as the list of its columns, the one for the lowest bit first.
-/

namespace Gf2

variable {u v w : Nat}

/-! ## Section 1: Linear maps -/

/-- The map `f` distributes over `^^^`. -/
def Linear (f : BitVec v → BitVec w) : Prop :=
  ∀ x y, f (x ^^^ y) = f x ^^^ f y

namespace Linear

variable {f : BitVec v → BitVec w}

theorem map_zero (hf : Linear f) : f 0#v = 0#w := by
  have h : f (0#v ^^^ 0#v) = f 0#v ^^^ f 0#v := hf 0#v 0#v
  rw [BitVec.xor_self, BitVec.xor_self] at h
  exact h

theorem id : Linear (id : BitVec w → BitVec w) := by
  intro x y
  rfl

theorem comp {g : BitVec u → BitVec v} (hf : Linear f) (hg : Linear g) : Linear (f ∘ g) := by
  intro x y
  show f (g (x ^^^ y)) = f (g x) ^^^ f (g y)
  rw [hg, hf]

/-- Applying a linear map a number of times is linear. -/
theorem iterate {f : BitVec w → BitVec w} (hf : Linear f) (n : Nat) : Linear f^[n] := by
  induction n with
  | zero => exact id
  | succ n ih =>
    rw [Function.iterate_succ]
    exact ih.comp hf

end Linear

/-! ## Section 2: Matrices -/

/-- The columns of `f` for the bits `k`, `k + 1`, …, `k + n - 1`. -/
def columnsFrom (f : BitVec v → BitVec w) (k : Nat) : Nat → List (BitVec w)
  | 0 => []
  | n + 1 => f (1#v <<< k) :: columnsFrom f (k + 1) n

/-- The matrix of `f`. -/
def columns (f : BitVec v → BitVec w) : List (BitVec w) :=
  columnsFrom f 0 v

theorem map_columnsFrom (g : BitVec w → BitVec u) (f : BitVec v → BitVec w) (k n : Nat) :
    (columnsFrom f k n).map g = columnsFrom (g ∘ f) k n := by
  induction n generalizing k with
  | zero => rfl
  | succ n ih => simp only [columnsFrom, List.map_cons, ih, Function.comp_apply]

/-- Applying a map to each column of a matrix gives the matrix of the composition. -/
theorem map_columns (g : BitVec w → BitVec u) (f : BitVec v → BitVec w) :
    (columns f).map g = columns (g ∘ f) :=
  map_columnsFrom g f 0 v

/-- The bits of a word that has at most one bit set. -/
theorem getLsbD_ite_shiftLeft {b : Bool} {k i : Nat} (hi : i < w) :
    (if b then 1#w <<< k else 0#w).getLsbD i = (b && decide (i = k)) := by
  cases b with
  | false => simp
  | true =>
    simp only [if_true, BitVec.getLsbD_shiftLeft, BitVec.getLsbD_one, Bool.true_and]
    rcases Nat.lt_trichotomy i k with hlt | rfl | hgt
    · simp [hlt, Nat.ne_of_lt hlt]
    · simp [hi, Nat.zero_lt_of_lt hi]
    · have hsub : i - k ≠ 0 := Nat.sub_ne_zero_of_lt hgt
      simp [hsub, Nat.ne_of_gt hgt]

/-- A word is its lowest bit and the rest of it, moved back into place. -/
theorem shiftLeft_split (x : BitVec w) (k : Nat) :
    x <<< k = (if x.getLsbD 0 then 1#w <<< k else 0#w) ^^^ ((x >>> 1) <<< (k + 1)) := by
  apply BitVec.eq_of_getLsbD_eq
  intro i hi
  rw [BitVec.getLsbD_xor, getLsbD_ite_shiftLeft hi]
  simp only [BitVec.getLsbD_shiftLeft, BitVec.getLsbD_ushiftRight, hi, decide_true, Bool.true_and]
  -- the three ranges of bits: below `k`, the bit `k` itself, and above
  rcases Nat.lt_trichotomy i k with hlt | rfl | hgt
  · simp [hlt, Nat.ne_of_lt hlt, Nat.lt_succ_of_lt hlt]
  · simp
  · have hsub : 1 + (i - (k + 1)) = i - k := by omega
    simp [hsub, Nat.ne_of_gt hgt, Nat.not_lt.mpr hgt, Nat.not_lt.mpr (Nat.le_of_lt hgt)]

/-- A linear map on a word that is split into its lowest bit and the rest. -/
theorem Linear.map_shiftLeft {f : BitVec v → BitVec w} (hf : Linear f) (x : BitVec v) (k : Nat) :
    f (x <<< k) = (if x.getLsbD 0 then f (1#v <<< k) else 0#w) ^^^ f ((x >>> 1) <<< (k + 1)) := by
  rw [shiftLeft_split x k, hf]
  split
  · rfl
  · rw [hf.map_zero]

end Gf2
