import Mathlib.Tactic.IntervalCases
import Mathlib.Tactic.Ring
import Mathlib.Tactic.Set
import RawrtcDataChannel.Checksum.Sse42

/-!
# The checksum does not depend on the implementation

The hardware implementation computes the plain CRC-32C. The operators it builds by repeated
squaring are the matrices of zero bytes, its tables decompose them byte by byte, and each of its
loops keeps the checksum that is still to be computed.
-/

namespace RawrtcDataChannel

open Gf2

/-! ## Section 1: The operators are matrices of zero bytes -/

/-- The loop of `gf2_matrix_times` on the columns that are left. The bits that are left in the
    vector have been moved down as many places as columns were used. -/
theorem gf2MatrixTimesLoop_columnsFrom {f : BitVec 32 → BitVec 32} (hf : Linear f) (k n : Nat)
    (vec sum : BitVec 32) (hvec : vec >>> n = 0#32) :
    gf2MatrixTimesLoop (columnsFrom f k n) vec sum = sum ^^^ f (vec <<< k) := by
  induction n generalizing k vec sum with
  | zero =>
    have hzero : vec = 0#32 := by simpa using hvec
    rw [hzero, BitVec.zero_shiftLeft, hf.map_zero, BitVec.xor_zero]
    rfl
  | succ n ih =>
    unfold columnsFrom gf2MatrixTimesLoop
    split
    · next hzero => rw [hzero, BitVec.zero_shiftLeft, hf.map_zero, BitVec.xor_zero]
    · have hrest : (vec >>> 1) >>> n = 0#32 := by
        rw [← BitVec.shiftRight_add, Nat.add_comm, hvec]
      rw [ih _ _ _ hrest, hf.map_shiftLeft vec k]
      -- the lowest bit is added to the sum in the code, and to the rest on the other side
      split
      · rw [BitVec.xor_assoc]
      · rw [BitVec.zero_xor]

/-- Multiplying with the matrix of a linear map applies the map. -/
theorem gf2MatrixTimes_columns {f : BitVec 32 → BitVec 32} (hf : Linear f) (vec : BitVec 32) :
    gf2MatrixTimes (columns f) vec = f vec := by
  have hvec : vec >>> 32 = 0#32 := by
    apply BitVec.eq_of_getLsbD_eq
    intro i hi
    simp
  unfold gf2MatrixTimes columns
  rw [gf2MatrixTimesLoop_columnsFrom hf 0 32 vec 0#32 hvec, BitVec.zero_xor, BitVec.shiftLeft_zero]

/-- Squaring the matrix of a linear map gives the matrix of applying it twice. -/
theorem gf2MatrixSquare_columns {f : BitVec 32 → BitVec 32} (hf : Linear f) :
    gf2MatrixSquare (columns f) = columns (f ∘ f) := by
  have htimes : gf2MatrixTimes (columns f) = f := funext (gf2MatrixTimes_columns hf)
  unfold gf2MatrixSquare
  rw [htimes, map_columns]

/-- Squaring the matrix of `n` applications of `f` gives the one of `2 * n` applications. -/
theorem gf2MatrixSquare_iterate {f : BitVec 32 → BitVec 32} (hf : Linear f) (n : Nat) :
    gf2MatrixSquare (columns f^[n]) = columns f^[2 * n] := by
  rw [gf2MatrixSquare_columns (hf.iterate n), ← Function.iterate_add, Nat.two_mul]

/-- One pass of the loop of `crc32c_zeros_op` squares twice, and two halvings undo two powers. -/
theorem crc32cZerosOpLoop_two_pow {f : BitVec 32 → BitVec 32} (hf : Linear f) (n k : Nat) :
    crc32cZerosOpLoop (columns f^[n]) (2 ^ k) = columns f^[2 ^ (k + 1) * n] := by
  induction k using Nat.twoStepInduction generalizing n with
  | zero =>
    rw [crc32cZerosOpLoop]
    exact gf2MatrixSquare_iterate hf n
  | one =>
    rw [crc32cZerosOpLoop]
    simp only [gf2MatrixSquare_iterate hf]
    rw [if_neg (by decide), if_pos (by decide), ← Nat.mul_assoc]
    rfl
  | more k ih _ =>
    have hpos : 0 < 2 ^ k := Nat.two_pow_pos k
    have hhalf : 2 ^ (k + 2) / 2 = 2 ^ k * 2 := by rw [Nat.pow_succ, Nat.mul_div_cancel _ two_pos,
      Nat.pow_succ]
    have hquarter : 2 ^ k * 2 / 2 = 2 ^ k := Nat.mul_div_cancel _ two_pos
    rw [crc32cZerosOpLoop]
    simp only [gf2MatrixSquare_iterate hf, hhalf, hquarter]
    rw [if_neg (by omega), if_neg (by omega), ih]
    congr 2
    ring

/-- The operator of `crc32c_zeros_op` is the matrix of as many zero bytes. -/
theorem crc32cZerosOp_two_pow (k : Nat) :
    crc32cZerosOp (2 ^ k) = columns (Crc.zeros crc32cPoly (2 ^ k)) := by
  have hlin := Crc.linear_bitStep crc32cPoly
  have hfirst : crc32cPoly :: (List.range 31).map (1#32 <<< ·) =
      columns (Crc.bitStep crc32cPoly)^[1] := (Crc.columns_bitStep crc32cPoly).symm
  unfold crc32cZerosOp Crc.zeros
  simp only [hfirst, gf2MatrixSquare_iterate hlin, crc32cZerosOpLoop_two_pow hlin]
  congr 2
  ring

/-! ## Section 2: The tables decompose the operators -/

/-- A register is the sum of its four bytes in their places. -/
theorem bytes_of_register (crc : BitVec 32) :
    crc = ((crc.setWidth 8).setWidth 32 <<< 0) ^^^ (((crc >>> 8).setWidth 8).setWidth 32 <<< 8) ^^^
      (((crc >>> 16).setWidth 8).setWidth 32 <<< 16) ^^^
      (((crc >>> 24).setWidth 8).setWidth 32 <<< 24) := by
  apply BitVec.eq_of_getLsbD_eq
  intro i hi
  interval_cases i <;> simp

/-- Looking up the four bytes of a register applies the operator the tables were made for. -/
theorem crc32cShift_zeros (k : Nat) (crc : BitVec 32) :
    crc32cShift (crc32cZeros (2 ^ k)) crc = Crc.zeros crc32cPoly (2 ^ k) crc := by
  have hlin := Crc.linear_zeros crc32cPoly (2 ^ k)
  have htimes := gf2MatrixTimes_columns hlin
  unfold crc32cShift crc32cZeros
  simp only [crc32cZerosOp_two_pow, htimes]
  conv => rhs; rw [bytes_of_register crc]
  rw [hlin, hlin, hlin]
  rfl

/-! ## Section 3: The loops -/

theorem Memory.bytes_add (mem : Memory) (next m n : Nat) :
    mem.bytes next (m + n) = mem.bytes next m ++ mem.bytes (next + m) n := by
  simp only [Memory.bytes, List.range_add, List.map_append, List.map_map, Function.comp_def,
    Nat.add_assoc]

theorem Memory.bytes_succ (mem : Memory) (next n : Nat) :
    mem.bytes next (n + 1) = mem next :: mem.bytes (next + 1) n := by
  rw [Nat.add_comm n, Memory.bytes_add]
  rfl

@[simp] theorem Memory.length_bytes (mem : Memory) (next n : Nat) :
    (mem.bytes next n).length = n := by
  simp [Memory.bytes]

/-- What a 64-bit register will hold in its lower half after reading `len` bytes from `next` on. -/
def remaining (mem : Memory) (crc0 : BitVec 64) (next len : Nat) : BitVec 32 :=
  Crc.run crc32cPoly (crc0.setWidth 32) (mem.bytes next len)

theorem remaining_zero (mem : Memory) (crc0 : BitVec 64) (next : Nat) :
    remaining mem crc0 next 0 = crc0.setWidth 32 := rfl

/-- The instruction `crc32b` takes one byte off what remains. -/
theorem remaining_crc32b (mem : Memory) (crc0 : BitVec 64) (next len : Nat) :
    remaining mem (crc32b mem next crc0) (next + 1) len = remaining mem crc0 next (len + 1) := by
  unfold remaining crc32b
  rw [Memory.bytes_succ, Crc.run_cons, BitVec.setWidth_setWidth_of_le _ (by decide),
    BitVec.setWidth_eq]

/-- The instruction `crc32q` takes eight bytes off what remains. -/
theorem remaining_crc32q (mem : Memory) (crc0 : BitVec 64) (next len : Nat) :
    remaining mem (crc32q mem next crc0) (next + 8) len = remaining mem crc0 next (8 + len) := by
  unfold remaining crc32q
  rw [Memory.bytes_add, Crc.run_append, BitVec.setWidth_setWidth_of_le _ (by decide),
    BitVec.setWidth_eq]

/-- The loop over leading bytes keeps the checksum. -/
theorem remaining_leadingBytes (mem : Memory) (len : Nat) (crc0 : BitVec 64) (next : Nat) :
    remaining mem (leadingBytes mem len crc0 next).1 (leadingBytes mem len crc0 next).2.1
      (leadingBytes mem len crc0 next).2.2 = remaining mem crc0 next len := by
  induction len generalizing crc0 next with
  | zero => rfl
  | succ len ih =>
    unfold leadingBytes
    split
    · rw [ih, remaining_crc32b]
    · rfl

/-- The inner loop reads three blocks, each into a register of its own. -/
theorem threeBlocks_spec (mem : Memory) (block : BlockSize) (n : Nat) (crc0 crc1 crc2 : BitVec 64)
    (next : Nat) {r : BitVec 64 × BitVec 64 × BitVec 64 × Nat}
    (hr : threeBlocks mem block crc0 crc1 crc2 next (next + 8 * (n + 1)) = r) :
    r.1.setWidth 32 = remaining mem crc0 next (8 * (n + 1)) ∧
      r.2.1.setWidth 32 = remaining mem crc1 (next + block.size) (8 * (n + 1)) ∧
      r.2.2.1.setWidth 32 = remaining mem crc2 (next + 2 * block.size) (8 * (n + 1)) ∧
      r.2.2.2 = next + 8 * (n + 1) := by
  -- one pass takes eight bytes off each of the three blocks
  have hpass : ∀ crc next len, remaining mem crc next (8 * (len + 1)) =
      remaining mem (crc32q mem next crc) (next + 8) (8 * len) := by
    intro crc next len
    rw [remaining_crc32q, Nat.mul_succ, Nat.add_comm]
  induction n generalizing crc0 crc1 crc2 next with
  | zero =>
    rw [threeBlocks, if_neg (by omega)] at hr
    subst hr
    simp only [hpass, Nat.mul_zero, remaining_zero, block.x1_eq, block.x2_eq, true_and]
  | succ n ih =>
    have hend : next + 8 * (n + 1 + 1) = next + 8 + 8 * (n + 1) := by omega
    rw [threeBlocks, if_pos (by omega), hend] at hr
    obtain ⟨h0, h1, h2, hnext⟩ := ih _ _ _ _ hr
    rw [block.x1_eq] at h1
    rw [block.x2_eq] at h2
    rw [hpass crc0, hpass crc1, hpass crc2, h0, h1, h2, hnext, hend,
      Nat.add_right_comm next 8, Nat.add_right_comm next 8]
    exact ⟨rfl, rfl, rfl, rfl⟩

/-- Three blocks that were read independently are put together by shifting. -/
theorem remaining_three (mem : Memory) (crc0 : BitVec 64) (next n len : Nat) :
    remaining mem crc0 next (n * 3 + len) =
      Crc.run crc32cPoly
        (Crc.zeros crc32cPoly n
          (Crc.zeros crc32cPoly n (remaining mem crc0 next n) ^^^ remaining mem 0#64 (next + n) n) ^^^
            remaining mem 0#64 (next + 2 * n) n)
        (mem.bytes (next + n * 3) len) := by
  have hsplit : mem.bytes next (n * 3) =
      mem.bytes next n ++ mem.bytes (next + n) n ++ mem.bytes (next + 2 * n) n := by
    rw [show n * 3 = n + n + n by omega, Memory.bytes_add, Memory.bytes_add,
      show next + (n + n) = next + 2 * n by omega]
  have hzero : (0#64).setWidth 32 = 0#32 := rfl
  unfold remaining
  rw [Memory.bytes_add, Crc.run_append, hsplit, Crc.run_append_eq, Crc.run_append_eq, hzero]
  simp only [Memory.length_bytes]

/-- The loop over sets of three blocks keeps the checksum. -/
theorem remaining_blockLoop (mem : Memory) (block : BlockSize) {k : Nat} (hk : block.size = 2 ^ k)
    (crc0 : BitVec 64) (next len : Nat) {r : BitVec 64 × Nat × Nat}
    (hr : blockLoop mem block (crc32cZeros block.size) crc0 next len = r) :
    remaining mem r.1 r.2.1 r.2.2 = remaining mem crc0 next len := by
  induction len using Nat.strongRecOn generalizing crc0 next with
  | ind len ih =>
    rw [blockLoop] at hr
    split at hr
    · next hle =>
      obtain ⟨m, hm⟩ := block.dvd_size
      have hpos := block.size_pos
      obtain ⟨n, rfl⟩ : ∃ n, m = n + 1 := ⟨m - 1, by omega⟩
      have hspec := threeBlocks_spec mem block n crc0 0#64 0#64 next rfl
      rw [← hm] at hspec
      rcases hthree : threeBlocks mem block crc0 0#64 0#64 next (next + block.size) with
        ⟨r0, r1, r2, next'⟩
      rw [hthree] at hspec hr
      obtain ⟨h0, h1, h2, rfl⟩ := hspec
      dsimp only at h0 h1 h2
      have hlow : ∀ x : BitVec 32, (x.setWidth 64).setWidth 32 = x := by
        intro x
        rw [BitVec.setWidth_setWidth_of_le _ (by decide), BitVec.setWidth_eq]
      rw [ih _ (by omega) _ _ hr]
      -- the registers of the three blocks are combined to the one of all of them
      obtain ⟨left, rfl⟩ := Nat.exists_eq_add_of_le hle
      have hnext : next + block.size + block.size * 2 = next + block.size * 3 := by omega
      rw [Nat.add_sub_cancel_left, hnext, remaining_three, remaining]
      congr 1
      rw [BitVec.setWidth_xor, hlow, BitVec.setWidth_xor, hlow, hk, crc32cShift_zeros,
        crc32cShift_zeros, ← hk, h0, h1, h2]
    · subst hr
      rfl

/-- The loop over units of eight bytes keeps the checksum. -/
theorem remaining_unitLoop (mem : Memory) (n : Nat) (crc0 : BitVec 64) (next len : Nat) :
    remaining mem (unitLoop mem crc0 next (next + 8 * n)).1
      (unitLoop mem crc0 next (next + 8 * n)).2 len = remaining mem crc0 next (8 * n + len) := by
  induction n generalizing crc0 next with
  | zero =>
    unfold unitLoop
    rw [if_neg (by omega), Nat.mul_zero, Nat.zero_add]
  | succ n ih =>
    have hend : next + 8 * (n + 1) = next + 8 + 8 * n := by omega
    unfold unitLoop
    rw [if_pos (by omega), hend, ih, remaining_crc32q]
    congr 1
    omega

/-- The loop over trailing bytes computes what remains. -/
theorem setWidth_trailingBytes (mem : Memory) (len : Nat) (crc0 : BitVec 64) (next : Nat) :
    (trailingBytes mem len crc0 next).setWidth 32 = remaining mem crc0 next len := by
  induction len generalizing crc0 next with
  | zero => rfl
  | succ len ih =>
    unfold trailingBytes
    rw [ih, remaining_crc32b]

/-! ## Section 4: The checksum -/

/-- The hardware implementation computes the CRC-32C of the buffer. -/
theorem rawrtcCrc32cSse42_eq (mem : Memory) (buffer length : Nat) :
    rawrtcCrc32cSse42 rawrtcCrc32cInitSse42 mem buffer length =
      crc32c (mem.bytes buffer length) := by
  unfold rawrtcCrc32cSse42 crc32cHw rawrtcCrc32cInitSse42
  set crc0 : BitVec 64 := (0x00000000#32 ^^^ 0xffffffff#32).setWidth 64
  have hstart : crc0.setWidth 32 = BitVec.allOnes 32 := by decide
  dsimp only
  -- each loop is replaced by its result, which keeps the checksum
  have h₁ := remaining_leadingBytes mem length crc0 buffer
  generalize leadingBytes mem length crc0 buffer = r₁ at h₁ ⊢
  have h₂ := remaining_blockLoop mem longBlock (k := 13) rfl r₁.1 r₁.2.1 r₁.2.2 rfl
  generalize blockLoop mem longBlock (crc32cZeros longBlock.size) r₁.1 r₁.2.1 r₁.2.2 = r₂ at h₂ ⊢
  have h₃ := remaining_blockLoop mem shortBlock (k := 8) rfl r₂.1 r₂.2.1 r₂.2.2 rfl
  generalize blockLoop mem shortBlock (crc32cZeros shortBlock.size) r₂.1 r₂.2.1 r₂.2.2 = r₃ at h₃ ⊢
  have hunits : r₃.2.2 - r₃.2.2 % 8 = 8 * (r₃.2.2 / 8) := by omega
  have hrest : 8 * (r₃.2.2 / 8) + r₃.2.2 % 8 = r₃.2.2 := Nat.div_add_mod r₃.2.2 8
  rw [hunits, setWidth_trailingBytes, remaining_unitLoop, hrest, h₃, h₂, h₁]
  unfold remaining crc32c Crc.checksum
  rw [hstart]
  rfl

/-- Whichever implementation is installed computes the CRC-32C of the buffer. -/
theorem rawrtcCrc32c_eq [SoftwareCrc32c] (enableSse42 sse42Supported : Bool) (mem : Memory)
    (buffer length : Nat) :
    rawrtcCrc32c (rawrtcCrc32cInit enableSse42 sse42Supported) mem buffer length =
      crc32c (mem.bytes buffer length) := by
  unfold rawrtcCrc32c rawrtcCrc32cInit
  cases enableSse42 && sse42Supported with
  | true => exact rawrtcCrc32cSse42_eq mem buffer length
  | false => exact SoftwareCrc32c.software_eq mem buffer length

/-- **The checksum does not depend on which implementation was installed.** Where SSE 4.2 is there
    it is used, and for every buffer at every address the result is the CRC-32C. -/
theorem checksum_independent [SoftwareCrc32c] (mem : Memory) (buffer length : Nat) :
    (rawrtcCrc32cInit true true).crc32cHandler = .sse42 ∧
      ∀ enableSse42 sse42Supported,
        rawrtcCrc32c (rawrtcCrc32cInit enableSse42 sse42Supported) mem buffer length =
          crc32c (mem.bytes buffer length) := by
  constructor
  · rfl
  · intro enableSse42 sse42Supported
    exact rawrtcCrc32c_eq enableSse42 sse42Supported mem buffer length

/-- Nine bytes at an address that is not a multiple of 8, on a processor with SSE 4.2. -/
theorem checksum_independent_nine :
    (rawrtcCrc32cInit true true).crc32cHandler = .sse42 ∧
      @rawrtcCrc32c bitwiseCrc32c (rawrtcCrc32cInit true true) UInt8.ofNat 3 9 =
        crc32c (Memory.bytes UInt8.ofNat 3 9) :=
  have h := @checksum_independent bitwiseCrc32c UInt8.ofNat 3 9
  ⟨h.1, h.2 true true⟩

end RawrtcDataChannel
