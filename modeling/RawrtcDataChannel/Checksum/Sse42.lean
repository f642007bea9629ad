import RawrtcDataChannel.Gf2.Crc

/-!
# The CRC-32C implementations

The code of `crc32c/crc32c.c` and `crc32c/sse42.c`. The processor instructions `crc32b` and
`crc32q` are taken as advancing a CRC-32C register by one byte and by eight bytes in the order of
their addresses. Registers have 64 bits, of which the instructions use the lower half and clear
the upper one.

The software implementation is not part of the repository. The class `SoftwareCrc32c` states
what it is assumed to compute.
-/

namespace RawrtcDataChannel

open Gf2

/-- What is in memory at each address. -/
abbrev Memory := Nat → UInt8

/-- The bytes at `n` addresses from `next` on. -/
def Memory.bytes (mem : Memory) (next n : Nat) : List UInt8 :=
  (List.range n).map fun i => mem (next + i)

/-- `POLY`, the CRC-32C polynomial in reversed bit order. -/
def crc32cPoly : BitVec 32 := 0x82f63b78#32

/-- The CRC-32C of a message, bit by bit. -/
def crc32c (bytes : List UInt8) : BitVec 32 :=
  Crc.checksum crc32cPoly bytes

/-- The check value of the CRC-32C, for the digits from one to nine. -/
example : crc32c [0x31, 0x32, 0x33, 0x34, 0x35, 0x36, 0x37, 0x38, 0x39] = 0xe3069283#32 := by
  decide +kernel

/-! ## Section 1: Operators on CRC registers -/

/-- The loop of `gf2_matrix_times`. -/
def gf2MatrixTimesLoop : List (BitVec 32) → BitVec 32 → BitVec 32 → BitVec 32
  | [], _, sum => sum
  | row :: mat, vec, sum =>
    if vec = 0#32 then sum
    else
      gf2MatrixTimesLoop mat (vec >>> 1) (if vec.getLsbD 0 then sum ^^^ row else sum)

/-- `gf2_matrix_times`. -/
def gf2MatrixTimes (mat : List (BitVec 32)) (vec : BitVec 32) : BitVec 32 :=
  gf2MatrixTimesLoop mat vec 0#32

/-- `gf2_matrix_square`. -/
def gf2MatrixSquare (mat : List (BitVec 32)) : List (BitVec 32) :=
  mat.map (gf2MatrixTimes mat)

/-- The loop of `crc32c_zeros_op`. The operator it returns is in `even` if it leaves the loop in
    the middle, and in `odd` otherwise. -/
def crc32cZerosOpLoop (odd : List (BitVec 32)) (len : Nat) : List (BitVec 32) :=
  let even := gf2MatrixSquare odd
  if len / 2 = 0 then even
  else
    let odd := gf2MatrixSquare even
    if len / 2 / 2 = 0 then odd else crc32cZerosOpLoop odd (len / 2 / 2)
termination_by len

/-- `crc32c_zeros_op`. -/
def crc32cZerosOp (len : Nat) : List (BitVec 32) :=
  -- the operator for one zero bit, squared twice
  let odd := crc32cPoly :: (List.range 31).map (1#32 <<< ·)
  let even := gf2MatrixSquare odd
  let odd := gf2MatrixSquare even
  crc32cZerosOpLoop odd len

/-- Four lookup tables, one for each byte of a register. -/
abbrev ShiftTable := Fin 4 → BitVec 8 → BitVec 32

/-- `crc32c_zeros`. -/
def crc32cZeros (len : Nat) : ShiftTable :=
  let op := crc32cZerosOp len
  fun i n => gf2MatrixTimes op (n.setWidth 32 <<< (8 * i.val))

/-- `crc32c_shift`. -/
def crc32cShift (zeros : ShiftTable) (crc : BitVec 32) : BitVec 32 :=
  zeros 0 (crc.setWidth 8) ^^^ zeros 1 ((crc >>> 8).setWidth 8) ^^^
    zeros 2 ((crc >>> 16).setWidth 8) ^^^ zeros 3 ((crc >>> 24).setWidth 8)

/-! ## Section 2: The hardware implementation -/

/-- A block size and the offsets of the second and the third block, which the assembler code has
    as strings. -/
structure BlockSize where
  size : Nat
  x1 : Nat
  x2 : Nat
  size_pos : 0 < size
  dvd_size : 8 ∣ size
  x1_eq : x1 = size
  x2_eq : x2 = 2 * size

/-- `LONG`, `LONGx1` and `LONGx2`. -/
def longBlock : BlockSize := ⟨8192, 8192, 16384, by decide, by decide, rfl, rfl⟩

/-- `SHORT`, `SHORTx1` and `SHORTx2`. -/
def shortBlock : BlockSize := ⟨256, 256, 512, by decide, by decide, rfl, rfl⟩

/-- The instruction `crc32b`, on a byte in memory. -/
def crc32b (mem : Memory) (next : Nat) (crc : BitVec 64) : BitVec 64 :=
  (Crc.byteStep crc32cPoly (crc.setWidth 32) (mem next)).setWidth 64

/-- The instruction `crc32q`, on eight bytes in memory. -/
def crc32q (mem : Memory) (next : Nat) (crc : BitVec 64) : BitVec 64 :=
  (Crc.run crc32cPoly (crc.setWidth 32) (mem.bytes next 8)).setWidth 64

/-- The loop of `crc32c_hw` over up to seven leading bytes. The arguments are `len`, `crc0` and
    `next`. -/
def leadingBytes (mem : Memory) : Nat → BitVec 64 → Nat → BitVec 64 × Nat × Nat
  | 0, crc0, next => (crc0, next, 0)
  | len + 1, crc0, next =>
    if next % 8 ≠ 0 then leadingBytes mem len (crc32b mem next crc0) (next + 1)
    else (crc0, next, len + 1)

/-- The inner loop of `crc32c_hw` over three blocks at the same time. -/
def threeBlocks (mem : Memory) (block : BlockSize) (crc0 crc1 crc2 : BitVec 64)
    (next end_ : Nat) : BitVec 64 × BitVec 64 × BitVec 64 × Nat :=
  let crc0 := crc32q mem next crc0
  let crc1 := crc32q mem (next + block.x1) crc1
  let crc2 := crc32q mem (next + block.x2) crc2
  let next := next + 8
  if next < end_ then threeBlocks mem block crc0 crc1 crc2 next end_ else (crc0, crc1, crc2, next)
termination_by end_ - next

/-- The loop of `crc32c_hw` over sets of three blocks. -/
def blockLoop (mem : Memory) (block : BlockSize) (zeros : ShiftTable) (crc0 : BitVec 64)
    (next len : Nat) : BitVec 64 × Nat × Nat :=
  if block.size * 3 ≤ len then
    let (crc0, crc1, crc2, next) :=
      threeBlocks mem block crc0 0#64 0#64 next (next + block.size)
    let crc0 := (crc32cShift zeros (crc0.setWidth 32)).setWidth 64 ^^^ crc1
    let crc0 := (crc32cShift zeros (crc0.setWidth 32)).setWidth 64 ^^^ crc2
    blockLoop mem block zeros crc0 (next + block.size * 2) (len - block.size * 3)
  else
    (crc0, next, len)
termination_by len
decreasing_by have := block.size_pos; omega

/-- The loop of `crc32c_hw` over units of eight bytes. -/
def unitLoop (mem : Memory) (crc0 : BitVec 64) (next end_ : Nat) : BitVec 64 × Nat :=
  if next < end_ then unitLoop mem (crc32q mem next crc0) (next + 8) end_ else (crc0, next)
termination_by end_ - next

/-- The loop of `crc32c_hw` over up to seven trailing bytes. The arguments are `len`, `crc0` and
    `next`. -/
def trailingBytes (mem : Memory) : Nat → BitVec 64 → Nat → BitVec 64
  | 0, crc0, _ => crc0
  | len + 1, crc0, next => trailingBytes mem len (crc32b mem next crc0) (next + 1)

/-- The tables `crc32c_long` and `crc32c_short`. -/
structure Sse42Tables where
  crc32cLong : ShiftTable
  crc32cShort : ShiftTable

/-- `crc32c_hw`. -/
def crc32cHw (tables : Sse42Tables) (mem : Memory) (crc : BitVec 32) (buf len : Nat) :
    BitVec 32 :=
  let crc0 := (crc ^^^ 0xffffffff#32).setWidth 64
  let (crc0, next, len) := leadingBytes mem len crc0 buf
  let (crc0, next, len) := blockLoop mem longBlock tables.crc32cLong crc0 next len
  let (crc0, next, len) := blockLoop mem shortBlock tables.crc32cShort crc0 next len
  let (crc0, next) := unitLoop mem crc0 next (next + (len - len % 8))
  let crc0 := trailingBytes mem (len % 8) crc0 next
  crc0.setWidth 32 ^^^ 0xffffffff#32

/-- `rawrtc_crc32c_init_sse42`. -/
def rawrtcCrc32cInitSse42 : Sse42Tables where
  crc32cLong := crc32cZeros longBlock.size
  crc32cShort := crc32cZeros shortBlock.size

/-- `rawrtc_crc32c_sse42`. -/
def rawrtcCrc32cSse42 (tables : Sse42Tables) (mem : Memory) (buffer length : Nat) : BitVec 32 :=
  crc32cHw tables mem 0x00000000#32 buffer length

/-! ## Section 3: Selecting an implementation -/

/-- The software implementation. -/
class SoftwareCrc32c where
  /-- `rawrtc_crc32c_software`. -/
  rawrtcCrc32cSoftware : Memory → Nat → Nat → BitVec 32
  software_eq (mem : Memory) (buffer length : Nat) :
    rawrtcCrc32cSoftware mem buffer length = crc32c (mem.bytes buffer length)

/-- The software implementation that advances the register bit by bit. -/
@[reducible] def bitwiseCrc32c : SoftwareCrc32c where
  rawrtcCrc32cSoftware mem buffer length := crc32c (mem.bytes buffer length)
  software_eq _ _ _ := rfl

/-- The function `rawrtcdc_global.crc32c_handler` points to. -/
inductive Crc32cHandler
  | sse42
  | software
deriving DecidableEq, Repr

/-- The tables and the handler, as `rawrtc_crc32c_init` sets them. The tables are static data and
    zero before. -/
structure Crc32cGlobal where
  tables : Sse42Tables := ⟨fun _ _ => 0#32, fun _ _ => 0#32⟩
  crc32cHandler : Crc32cHandler

/-- `rawrtc_crc32c_init`, given whether the library was built with SSE 4.2 code and what
    `rawrtc_crc32c_sse42_supported` returns. -/
def rawrtcCrc32cInit (enableSse42 sse42Supported : Bool) : Crc32cGlobal :=
  if enableSse42 && sse42Supported then
    { tables := rawrtcCrc32cInitSse42, crc32cHandler := .sse42 }
  else
    { crc32cHandler := .software }

/-- `rawrtc_crc32c`. -/
def rawrtcCrc32c [SoftwareCrc32c] (g : Crc32cGlobal) (mem : Memory) (buffer length : Nat) :
    BitVec 32 :=
  match g.crc32cHandler with
  | .sse42 => rawrtcCrc32cSse42 g.tables mem buffer length
  | .software => SoftwareCrc32c.rawrtcCrc32cSoftware mem buffer length

end RawrtcDataChannel
