import RawrtcDataChannel.Gf2.Linear

/-!
# Cyclic redundancy checks

The register of a reflected CRC of any width and polynomial, advanced bit by bit. Advancing it is
linear, so the influence of what the register held before and the influence of the bytes that are
read can be computed apart and added up. That is what an implementation relies on that works on
several parts of a message at the same time.
-/

namespace Gf2.Crc

variable {w : Nat} (poly : BitVec w)

/-! ## Section 1: The register -/

/-- Advance the register by one zero bit. -/
def bitStep (crc : BitVec w) : BitVec w :=
  if crc.getLsbD 0 then (crc >>> 1) ^^^ poly else crc >>> 1

/-- Advance the register by `n` zero bytes. -/
def zeros (n : Nat) : BitVec w → BitVec w :=
  (bitStep poly)^[8 * n]

/-- Advance the register by one byte. -/
def byteStep (crc : BitVec w) (b : UInt8) : BitVec w :=
  zeros poly 1 (crc ^^^ b.toBitVec.setWidth w)

/-- Advance the register by a sequence of bytes. -/
def run (crc : BitVec w) (bytes : List UInt8) : BitVec w :=
  bytes.foldl (byteStep poly) crc

/-- The checksum of a message: the register starts with all bits set and is inverted at the end. -/
def checksum (bytes : List UInt8) : BitVec w :=
  run poly (BitVec.allOnes w) bytes ^^^ BitVec.allOnes w

/-! ## Section 2: Linearity -/

theorem linear_bitStep : Linear (bitStep poly) := by
  intro x y
  unfold bitStep
  simp only [BitVec.getLsbD_xor, BitVec.ushiftRight_xor_distrib]
  -- the polynomial is added on both sides, on one of them, or on none
  cases x.getLsbD 0 <;> cases y.getLsbD 0
  · rfl
  · simp [BitVec.xor_assoc]
  · simp only [Bool.true_xor, Bool.not_false, if_true, Bool.false_eq_true, if_false]
    rw [BitVec.xor_assoc, BitVec.xor_comm (y >>> 1), ← BitVec.xor_assoc]
  · have hcancel : x >>> 1 ^^^ poly ^^^ (y >>> 1 ^^^ poly) = x >>> 1 ^^^ y >>> 1 := by
      rw [BitVec.xor_comm (y >>> 1), BitVec.xor_assoc, ← BitVec.xor_assoc poly, BitVec.xor_self,
        BitVec.zero_xor]
    simp [hcancel]

theorem linear_zeros (n : Nat) : Linear (zeros poly n) :=
  (linear_bitStep poly).iterate (8 * n)

/-- Zero bytes add up. -/
theorem zeros_add (m n : Nat) (crc : BitVec w) :
    zeros poly (m + n) crc = zeros poly m (zeros poly n crc) := by
  unfold zeros
  rw [Nat.mul_add, Function.iterate_add_apply]

@[simp] theorem run_nil (crc : BitVec w) : run poly crc [] = crc := rfl

@[simp] theorem run_cons (crc : BitVec w) (b : UInt8) (bytes : List UInt8) :
    run poly crc (b :: bytes) = run poly (byteStep poly crc b) bytes := rfl

theorem run_append (crc : BitVec w) (bytes bytes' : List UInt8) :
    run poly crc (bytes ++ bytes') = run poly (run poly crc bytes) bytes' :=
  List.foldl_append

/-- What the register held before and what is read do not interact. -/
theorem run_xor (x y : BitVec w) (bytes : List UInt8) :
    run poly (x ^^^ y) bytes = zeros poly bytes.length x ^^^ run poly y bytes := by
  induction bytes generalizing x y with
  | nil => rfl
  | cons b bytes ih =>
    have hstep : byteStep poly (x ^^^ y) b = zeros poly 1 x ^^^ byteStep poly y b := by
      unfold byteStep
      rw [BitVec.xor_assoc, linear_zeros]
    rw [run_cons, hstep, ih, List.length_cons, zeros_add, run_cons]

/-- Reading some bytes is as good as reading them into an empty register and adding up. -/
theorem run_eq_zeros_xor (crc : BitVec w) (bytes : List UInt8) :
    run poly crc bytes = zeros poly bytes.length crc ^^^ run poly 0#w bytes := by
  conv => lhs; rw [← BitVec.xor_zero (x := crc)]
  exact run_xor poly crc 0#w bytes

/-- Two parts of a message can be read independently. -/
theorem run_append_eq (crc : BitVec w) (bytes bytes' : List UInt8) :
    run poly crc (bytes ++ bytes') =
      zeros poly bytes'.length (run poly crc bytes) ^^^ run poly 0#w bytes' := by
  rw [run_append, run_eq_zeros_xor]

/-! ## Section 3: The matrix of a single bit -/

theorem bitStep_one (hw : 0 < w) : bitStep poly 1#w = poly := by
  have hlow : (1#w).getLsbD 0 = true := by simp [hw]
  have hrest : (1#w) >>> 1 = 0#w := by
    apply BitVec.eq_of_getLsbD_eq
    intro i hi
    simp [BitVec.getLsbD_one]
  rw [bitStep, if_pos hlow, hrest, BitVec.zero_xor]

theorem bitStep_shiftLeft {k : Nat} (hk : k + 1 < w) :
    bitStep poly (1#w <<< (k + 1)) = 1#w <<< k := by
  have hlow : ¬ (1#w <<< (k + 1)).getLsbD 0 = true := by simp
  rw [bitStep, if_neg hlow]
  apply BitVec.eq_of_getLsbD_eq
  intro i hi
  simp only [BitVec.getLsbD_ushiftRight, BitVec.getLsbD_shiftLeft, BitVec.getLsbD_one]
  have hsub : 1 + i - (k + 1) = i - k := by omega
  have hiff : 1 + i < k + 1 ↔ i < k := by omega
  by_cases hlt : 1 + i < w
  · simp [hi, hlt, hsub, hiff]
  · have hne : i - k ≠ 0 := by omega
    simp [hlt, hne]

theorem columnsFrom_bitStep {k n : Nat} (hk : k + n < w) :
    columnsFrom (bitStep poly) (k + 1) n = (List.range' k n).map (1#w <<< ·) := by
  induction n generalizing k with
  | zero => rfl
  | succ n ih =>
    rw [columnsFrom, bitStep_shiftLeft poly (by omega), ih (by omega), List.range'_succ,
      List.map_cons]

/-- The matrix of one zero bit: the polynomial, then the bits one place further down. -/
theorem columns_bitStep {n : Nat} (poly : BitVec (n + 1)) :
    columns (bitStep poly) = poly :: (List.range n).map (1#(n + 1) <<< ·) := by
  have hfirst : bitStep poly (1#(n + 1) <<< 0) = poly := by
    rw [BitVec.shiftLeft_zero]
    exact bitStep_one poly (Nat.succ_pos n)
  rw [columns, columnsFrom, hfirst, columnsFrom_bitStep poly (by omega), List.range_eq_range']

end Gf2.Crc
