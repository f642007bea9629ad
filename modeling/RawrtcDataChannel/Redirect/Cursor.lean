import Mathlib.Data.List.GetD
import RawrtcDataChannel.Mbuf

/-!
# Message buffers in memory

`Mbuf` keeps a position and the bytes up to the end of a message. Here the buffer is seen as it
lies in memory: positions are numbers of 64 bits that may leave the message or wrap around, and
every access to the memory is taken down. As long as all accesses stay inside the message, the
two views agree.
-/

namespace RawrtcDataChannel

/-! ## Section 1: Buffers in memory -/

/-- Arithmetic of `size_t`. -/
def sizeT (n : Nat) : Nat := n % 2 ^ 64

/-- Some bytes of a buffer that are read or written, from an offset on. -/
structure Access where
  offset : Nat
  length : Nat
deriving DecidableEq, Repr

/-- All bytes that are accessed lie between two offsets. -/
def Access.Within (a : Access) (start stop : Nat) : Prop :=
  ∀ i < a.length, start ≤ sizeT (a.offset + i) ∧ sizeT (a.offset + i) < stop

/-- `struct mbuf`, with the memory as it is seen from `buf` on, and the accesses so far. -/
structure Cursor where
  buf : Nat → UInt8
  size : Nat
  pos : Nat := 0
  end_ : Nat := 0
  accesses : List Access := []

namespace Cursor

variable (c : Cursor)

/-- `mbuf_get_left`. -/
def getLeft : Nat :=
  c.end_ - c.pos

/-- `mbuf_get_space`. -/
def getSpace : Nat :=
  c.size - c.pos

/-- `mbuf_advance`. -/
def advance (n : Nat) : Cursor :=
  { c with pos := sizeT (c.pos + n) }

/-- `mbuf_advance` by a negative number of bytes. -/
def retreat (n : Nat) : Cursor :=
  { c with pos := sizeT (c.pos + (2 ^ 64 - n)) }

/-- `mbuf_set_pos`. -/
def setPos (pos : Nat) : Cursor :=
  { c with pos := pos }

/-- `mbuf_set_end`. -/
def setEnd (end_ : Nat) : Cursor :=
  { c with end_ := end_ }

/-- `mbuf_rewind`. -/
def rewind : Cursor :=
  { c with pos := 0, end_ := 0 }

/-- Some bytes, from an offset on. -/
def bytes (offset n : Nat) : Bytes :=
  (List.range n).map fun i => c.buf (sizeT (offset + i))

/-- The bytes from the position to the end, `mbuf_buf` up to `mbuf_get_left`. -/
def rest : Bytes :=
  c.bytes c.pos c.getLeft

/-- Take down an access to the next bytes. -/
def touch (n : Nat) : Cursor :=
  { c with accesses := c.accesses ++ [⟨c.pos, n⟩] }

/-- Overwrite the next bytes, whatever they belong to. -/
def store (bytes : Bytes) : Cursor :=
  { c.touch bytes.length with
    buf := fun i =>
      let k := sizeT (i + (2 ^ 64 - c.pos))
      if k < bytes.length then bytes.getD k 0 else c.buf i }

/-- `memset` of the next bytes to zero. Nothing is checked. -/
def memset (n : Nat) : Cursor :=
  c.store (List.replicate n 0)

/-- `mbuf_read_mem`. Nothing is read and the position stays if there are not enough bytes. -/
def readMem (n : Nat) : Option Bytes × Cursor :=
  if c.getLeft < n then (none, c)
  else (some (c.bytes c.pos n), (c.touch n).advance n)

/-- `mbuf_read_u8`. -/
def readU8 : UInt8 × Cursor :=
  match c.readMem 1 with
  | (some [b], c) => (b, c)
  | (_, c) => (0, c)

/-- `ntohs(mbuf_read_u16)`. -/
def readU16 : Nat × Cursor :=
  match c.readMem 2 with
  | (some [b₁, b₀], c) => (b₁.toNat * 2 ^ 8 + b₀.toNat, c)
  | (_, c) => (0, c)

/-- `mbuf_resize`, if there is memory. -/
def resize (realloc : Nat → Bool) (size : Nat) : Bool × Cursor :=
  if realloc size then (true, { c with size := size }) else (false, c)

/-- `mbuf_write_mem`. The buffer grows if it is too small. The result is whether there was enough
    memory. -/
def writeMem (realloc : Nat → Bool) (bytes : Bytes) : Bool × Cursor :=
  let rsize := sizeT (c.pos + bytes.length)
  let dsize := if c.size = 0 then 512 else sizeT (c.size * 2)
  let (resized, c) := if c.size < rsize then c.resize realloc (max rsize dsize) else (true, c)
  if resized then
    let c := (c.store bytes).advance bytes.length
    (true, c.setEnd (max c.end_ c.pos))
  else
    (false, c)

/-- The position is in the message and the message is in the buffer. -/
structure Valid : Prop where
  pos_le : c.pos ≤ c.end_
  end_le : c.end_ ≤ c.size
  size_lt : c.size < 2 ^ 64

/-- Everything that has been accessed lies between two offsets. -/
def AllWithin (start stop : Nat) : Prop :=
  ∀ a ∈ c.accesses, a.Within start stop

/-- The message without the memory around it. -/
def toMbuf : Mbuf :=
  ⟨c.bytes 0 c.end_, c.pos⟩

/-! ## Section 2: Inside the message -/

variable {c}

theorem sizeT_of_lt {n : Nat} (h : n < 2 ^ 64) : sizeT n = n :=
  Nat.mod_eq_of_lt h

@[simp] theorem length_bytes (offset n : Nat) : (c.bytes offset n).length = n := by
  simp [bytes]

theorem getElem_bytes {offset n i : Nat} (hi : i < (c.bytes offset n).length) :
    (c.bytes offset n)[i] = c.buf (sizeT (offset + i)) := by
  simp [bytes]

@[simp] theorem length_toMbuf : c.toMbuf.data.length = c.end_ :=
  length_bytes 0 c.end_

/-- Both views have the same bytes left. -/
theorem rest_toMbuf (h : c.Valid) : c.toMbuf.rest = c.rest := by
  have hpos := h.pos_le
  apply List.ext_getElem
  · simp [Mbuf.rest, toMbuf, rest, getLeft]
  · intro i hi hi'
    simp only [Mbuf.rest, toMbuf, List.getElem_drop, rest, getElem_bytes, Nat.zero_add]

theorem getLeft_toMbuf (h : c.Valid) : c.toMbuf.getLeft = c.getLeft := by
  rw [Mbuf.getLeft, rest_toMbuf h, rest, length_bytes]

theorem touch_allWithin {start stop n : Nat} (h : c.AllWithin start stop)
    (hstart : start ≤ c.pos) (hstop : c.pos + n ≤ stop) (hlt : stop < 2 ^ 64) :
    (c.touch n).AllWithin start stop := by
  intro a ha
  rcases List.mem_append.mp ha with ha | ha
  · exact h a ha
  · obtain rfl : a = ⟨c.pos, n⟩ := by simpa using ha
    intro i hi
    have hi : i < n := hi
    rw [sizeT_of_lt (show c.pos + i < 2 ^ 64 by omega)]
    exact ⟨by omega, by omega⟩

theorem store_allWithin {start stop : Nat} {bytes : Bytes} (h : c.AllWithin start stop)
    (hstart : start ≤ c.pos) (hstop : c.pos + bytes.length ≤ stop) (hlt : stop < 2 ^ 64) :
    (c.store bytes).AllWithin start stop :=
  touch_allWithin h hstart hstop hlt

/-- Moving inside the message. -/
theorem advance_eq (h : c.Valid) {n : Nat} (hn : c.pos + n ≤ c.end_) :
    c.advance n = c.setPos (c.pos + n) := by
  have hend := h.end_le
  have hsize := h.size_lt
  rw [advance, sizeT_of_lt (by omega), setPos]

theorem Valid.setPos (h : c.Valid) {pos : Nat} (hpos : pos ≤ c.end_) : (c.setPos pos).Valid :=
  ⟨hpos, h.end_le, h.size_lt⟩

theorem Valid.touch (h : c.Valid) (n : Nat) : (c.touch n).Valid :=
  ⟨h.pos_le, h.end_le, h.size_lt⟩

theorem Valid.store (h : c.Valid) (bytes : Bytes) : (c.store bytes).Valid :=
  ⟨h.pos_le, h.end_le, h.size_lt⟩

/-- A write inside the message. -/
theorem writeMem_eq (h : c.Valid) (bytes : Bytes) (hn : c.pos + bytes.length ≤ c.end_)
    (realloc : Nat → Bool) :
    c.writeMem realloc bytes = (true, (c.store bytes).setPos (c.pos + bytes.length)) := by
  have hend := h.end_le
  have hsize := h.size_lt
  have hfits : ¬ c.size < sizeT (c.pos + bytes.length) := by
    rw [sizeT_of_lt (by omega)]
    omega
  have hadvance : (c.store bytes).advance bytes.length =
      (c.store bytes).setPos (c.pos + bytes.length) := advance_eq (h.store bytes) hn
  have hmax : max c.end_ (c.pos + bytes.length) = c.end_ := Nat.max_eq_left hn
  simp only [writeMem, if_neg hfits, if_true, hadvance]
  show (true, ((c.store bytes).setPos (c.pos + bytes.length)).setEnd
    (max c.end_ (c.pos + bytes.length))) = _
  rw [hmax]
  rfl

/-- What is stored inside the message replaces the bytes there. -/
theorem bytes_store (h : c.Valid) (bytes : Bytes) (hn : c.pos + bytes.length ≤ c.end_) :
    (c.store bytes).bytes 0 c.end_ =
      (c.bytes 0 c.end_).take c.pos ++ bytes ++
        (c.bytes 0 c.end_).drop (c.pos + bytes.length) := by
  have hpos := h.pos_le
  have hend := h.end_le
  have hsize := h.size_lt
  apply List.ext_getElem
  · simp
    omega
  · intro i hi hi'
    have hi_lt : i < c.end_ := by simpa using hi
    rw [getElem_bytes, Nat.zero_add, sizeT_of_lt (by omega)]
    simp only [store]
    by_cases hfront : i < c.pos
    · -- in front of the position
      have hk : ¬ sizeT (i + (2 ^ 64 - c.pos)) < bytes.length := by
        rw [sizeT_of_lt (by omega)]
        omega
      rw [if_neg hk, List.getElem_append_left (by simp; omega),
        List.getElem_append_left (by simp; omega), List.getElem_take, getElem_bytes,
        Nat.zero_add, sizeT_of_lt (by omega)]
    · have hk : sizeT (i + (2 ^ 64 - c.pos)) = i - c.pos := by
        unfold sizeT
        rw [show i + (2 ^ 64 - c.pos) = i - c.pos + 2 ^ 64 by omega, Nat.add_mod_right]
        exact Nat.mod_eq_of_lt (by omega)
      rw [hk]
      by_cases hinside : i - c.pos < bytes.length
      · rw [if_pos hinside, List.getElem_append_left (by simp; omega),
          List.getElem_append_right (by simp; omega)]
        simp only [List.length_take, length_bytes, Nat.min_eq_left hpos]
        rw [List.getD_eq_getElem _ _ hinside]
      · rw [if_neg hinside, List.getElem_append_right (by simp; omega), List.getElem_drop,
          getElem_bytes, Nat.zero_add, sizeT_of_lt (by simp; omega)]
        congr 1
        simp
        omega

theorem toMbuf_store (h : c.Valid) (bytes : Bytes) (hn : c.pos + bytes.length ≤ c.end_) :
    ((c.store bytes).setPos (c.pos + bytes.length)).toMbuf = c.toMbuf.writeMem bytes := by
  show (⟨(c.store bytes).bytes 0 c.end_, c.pos + bytes.length⟩ : Mbuf) = _
  rw [bytes_store h bytes hn]
  rfl

end Cursor

end RawrtcDataChannel
