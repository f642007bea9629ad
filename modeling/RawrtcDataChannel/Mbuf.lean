import Mathlib.Algebra.Group.Nat.Defs
import Mathlib.Data.List.Basic

/-!
# Message buffers

The library passes messages around as `mbuf`s of libre: a byte buffer with a position. A reader
consumes from the position on, a writer continues at the position and grows the buffer.

`data` stands for the bytes up to the end of the message; the allocated size behind it has no
observable effect.
-/

namespace RawrtcDataChannel

/-- Octets, as they appear on the wire. -/
abbrev Bytes := List UInt8

/-- A message buffer and the position in it. -/
structure Mbuf where
  data : Bytes
  pos : Nat := 0
deriving DecidableEq, Repr

namespace Mbuf

/-- The bytes from the position to the end, `mbuf_buf` up to `mbuf_get_left`. -/
def rest (mb : Mbuf) : Bytes :=
  mb.data.drop mb.pos

/-- `mbuf_get_left`: how many bytes there are from the position to the end. -/
def getLeft (mb : Mbuf) : Nat :=
  mb.rest.length

/-- `mbuf_advance`: move the position. -/
def advance (mb : Mbuf) (n : Nat) : Mbuf :=
  { mb with pos := mb.pos + n }

/-- `mbuf_skip_to_end`: move the position behind the last byte. -/
def skipToEnd (mb : Mbuf) : Mbuf :=
  { mb with pos := mb.data.length }

/-- `mbuf_set_pos`. -/
def setPos (mb : Mbuf) (pos : Nat) : Mbuf :=
  { mb with pos := pos }

/-- `mbuf_shift` by minus the position: move the remaining bytes to the front. -/
def shiftToFront (mb : Mbuf) : Mbuf :=
  { data := mb.rest, pos := 0 }

/-- `mbuf_write_mem`: overwrite from the position on, growing the buffer if needed. -/
def writeMem (mb : Mbuf) (bytes : Bytes) : Mbuf :=
  { data := mb.data.take mb.pos ++ bytes ++ mb.data.drop (mb.pos + bytes.length)
    pos := mb.pos + bytes.length }

/-- `mbuf_read_u8`: a read behind the end gives zero and does not advance. -/
def readU8 (mb : Mbuf) : UInt8 × Mbuf :=
  match mb.rest with
  | b :: _ => (b, mb.advance 1)
  | [] => (0, mb)

/-- `ntohs(mbuf_read_u16)`: two bytes, most significant first. -/
def readU16 (mb : Mbuf) : Nat × Mbuf :=
  match mb.rest with
  | b₁ :: b₀ :: _ => (b₁.toNat * 2 ^ 8 + b₀.toNat, mb.advance 2)
  | _ => (0, mb)

/-- `ntohl(mbuf_read_u32)`: four bytes, most significant first. -/
def readU32 (mb : Mbuf) : Nat × Mbuf :=
  match mb.rest with
  | b₃ :: b₂ :: b₁ :: b₀ :: _ =>
    (b₃.toNat * 2 ^ 24 + b₂.toNat * 2 ^ 16 + b₁.toNat * 2 ^ 8 + b₀.toNat, mb.advance 4)
  | _ => (0, mb)

/-! ## What is left after moving the position -/

@[simp] theorem rest_mk_zero (bytes : Bytes) : (⟨bytes, 0⟩ : Mbuf).rest = bytes := rfl

@[simp] theorem rest_advance (mb : Mbuf) (n : Nat) : (mb.advance n).rest = mb.rest.drop n := by
  simp [rest, advance, List.drop_drop]

@[simp] theorem rest_skipToEnd (mb : Mbuf) : mb.skipToEnd.rest = [] := by
  simp [rest, skipToEnd]

@[simp] theorem getLeft_skipToEnd (mb : Mbuf) : mb.skipToEnd.getLeft = 0 := by
  simp [getLeft]

@[simp] theorem rest_shiftToFront (mb : Mbuf) : mb.shiftToFront.rest = mb.rest := rfl

@[simp] theorem data_shiftToFront (mb : Mbuf) : mb.shiftToFront.data = mb.rest := rfl

theorem getLeft_advance (mb : Mbuf) (n : Nat) :
    (mb.advance n).getLeft = mb.getLeft - n := by
  simp [getLeft]

/-! ## The two parts of a buffer -/

/-- The buffer with `before` in front of its position and `behind` from there on. -/
def split (before behind : Bytes) : Mbuf :=
  ⟨before ++ behind, before.length⟩

@[simp] theorem rest_split (before behind : Bytes) : (split before behind).rest = behind := by
  simp [split, rest]

theorem writeMem_split (before behind bytes : Bytes) :
    (split before behind).writeMem bytes = split (before ++ bytes) (behind.drop bytes.length) := by
  simp [split, writeMem, List.drop_append]

theorem advance_split (before skipped behind : Bytes) :
    (split before (skipped ++ behind)).advance skipped.length =
      split (before ++ skipped) behind := by
  simp [split, advance]

theorem setPos_split (before skipped behind : Bytes) :
    (split (before ++ skipped) behind).setPos before.length = split before (skipped ++ behind) := by
  simp [split, setPos]

end Mbuf

end RawrtcDataChannel
