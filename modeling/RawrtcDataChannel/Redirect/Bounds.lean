import RawrtcDataChannel.Redirect.Cursor
import RawrtcDataChannel.Redirect.Forwarding

/-!
# Where the redirect transport reads and writes

`patch_sctp_header` does not ask how long a packet is. If a packet has a full header, nothing
outside of it is touched and its length stays. A packet that is too short is forwarded
nevertheless, and the buffer grows on the way. Only the test of the source port keeps the raw
socket's short packets out, if it does.
-/

namespace RawrtcDataChannel

/-! ## Section 1: The code -/

/-- What handling a packet comes to: the buffer then, and what has been sent or handed out. -/
structure Redirected where
  buffer : Cursor
  forwarded : Option Bytes := none

namespace Cursor

variable (realloc : Nat → Bool) (c : Cursor)

/-- `patch_sctp_header`, with any checksum function. -/
def patchSctpHeader (crc : Bytes → BitVec 32) (source destination : Nat) : Cursor :=
  let start := c.pos
  match c.writeMem realloc (be16 source) with
  | (false, c) => c
  | (true, c) =>
    match c.writeMem realloc (be16 destination) with
    | (false, c) => c
    | (true, c) =>
      -- skip verification tag
      let c := c.advance 4
      -- reset checksum field and rewind back
      let c := (c.memset 4).setPos start
      -- recalculate checksum
      let checksum := crc c.rest
      let c := c.touch c.getLeft
      -- advance to checksum field, set it and rewind back
      let c := c.advance 8
      match c.writeMem realloc (le32 checksum) with
      | (false, c) => c
      | (true, c) => c.setPos start

/-- `recvfrom` into the space of the buffer, then `mbuf_set_end`. -/
def receive (bytes : Bytes) : Cursor :=
  let received := bytes.take c.getSpace
  { c.store received with accesses := c.accesses, end_ := received.length }

/-- The receive buffer of a transport when it has been rewound. -/
def receiveBuffer (buf : Nat → UInt8) (size : Nat) : Cursor where
  buf := buf
  size := size

variable [SoftwareCrc32c] (t : RedirectTransport)

/-- `rawrtc_sctp_redirect_transport_feed_inbound`, given how many bytes `sendto` sends. -/
def redirectTransportFeedInbound (sent : Option Nat) : Redirected :=
  if t.flags.detached then
    { buffer := c }
  else if t.state ≠ .opened then
    { buffer := c }
  else
    let c := c.patchSctpHeader realloc t.crc32c t.localPort t.redirectAddress.port
    { buffer := match sent with
        | some length => c.advance length
        | none => c
      forwarded := some c.rest }

/-- The part of `redirect_from_raw` behind receiving a packet, up to where the buffer is rewound. -/
def redirectPacket [SocketAddress] (fromAddress : Sa) : Redirected :=
  -- check address
  if SocketAddress.saIsset fromAddress = false ∧
      SocketAddress.saCmp t.redirectAddress fromAddress = false then
    { buffer := c }
  else
    -- skip IPv4 header
    let headerLength := (c.readU8.1 &&& 0xf).toNat
    let c := (c.readU8.2.retreat 1).advance (headerLength * 4)
    -- read source and destination port
    let source := c.readU16.1
    let c := c.readU16.2.readU16.2.retreat 4
    -- is this from the correct source?
    if source ≠ t.redirectAddress.port then
      { buffer := c }
    else
      let c := c.patchSctpHeader realloc t.crc32c t.localPort t.remotePort
      { buffer := c, forwarded := some c.rest }

end Cursor

/-! ## Section 2: Full headers -/

namespace Cursor

variable {realloc : Nat → Bool} {crc : Bytes → BitVec 32} {c : Cursor}

/-- What `patch_sctp_header` does to a packet with a full header. -/
structure PatchedInside (crc : Bytes → BitVec 32) (source destination : Nat) (c c' : Cursor) :
    Prop where
  valid : c'.Valid
  pos : c'.pos = c.pos
  end_ : c'.end_ = c.end_
  within : ∀ start, start ≤ c.pos → c.AllWithin start c.end_ → c'.AllWithin start c.end_
  toMbuf : c'.toMbuf = patchSctpHeaderWith crc c.toMbuf source destination

theorem toMbuf_memset (h : c.Valid) {n : Nat} (hn : c.pos + n ≤ c.end_) :
    (c.memset n).toMbuf = c.toMbuf.clear n := by
  have hmin : min n c.toMbuf.getLeft = n := by
    rw [getLeft_toMbuf h, getLeft]
    omega
  have hstore := bytes_store h (List.replicate n 0) (by simpa using hn)
  rw [List.length_replicate] at hstore
  show (⟨(c.store (List.replicate n 0)).bytes 0 c.end_, c.pos⟩ : Mbuf) = _
  rw [hstore, Mbuf.clear, hmin]
  rfl

/-- A packet with a full header is patched without leaving it. -/
theorem patchSctpHeader_inside (realloc : Nat → Bool) (crc : Bytes → BitVec 32) (h : c.Valid)
    (hleft : 12 ≤ c.getLeft) (source destination : Nat) :
    PatchedInside crc source destination c
      (c.patchSctpHeader realloc crc source destination) := by
  have hend := h.end_le
  have hsize := h.size_lt
  have hfull : c.pos + 12 ≤ c.end_ := by
    have := h.pos_le
    unfold getLeft at hleft
    omega
  -- the buffer after each of the steps
  set c₁ := (c.store (be16 source)).setPos (c.pos + 2) with hc₁
  have hvalid₁ : c₁.Valid := (h.store _).setPos (show c.pos + 2 ≤ c.end_ by omega)
  have hwrite₁ : c.writeMem realloc (be16 source) = (true, c₁) :=
    writeMem_eq h (be16 source) (show c.pos + 2 ≤ c.end_ by omega) realloc
  set c₂ := (c₁.store (be16 destination)).setPos (c.pos + 4) with hc₂
  have hvalid₂ : c₂.Valid := (hvalid₁.store _).setPos (show c.pos + 4 ≤ c.end_ by omega)
  have hwrite₂ : c₁.writeMem realloc (be16 destination) = (true, c₂) :=
    writeMem_eq hvalid₁ (be16 destination) (show c.pos + 2 + 2 ≤ c.end_ by omega) realloc
  set c₃ := c₂.setPos (c.pos + 8) with hc₃
  have hvalid₃ : c₃.Valid := hvalid₂.setPos (show c.pos + 8 ≤ c.end_ by omega)
  have hskip : c₂.advance 4 = c₃ := advance_eq hvalid₂ (show c.pos + 4 + 4 ≤ c.end_ by omega)
  set c₄ := (c₃.memset 4).setPos c.pos with hc₄
  have hvalid₄ : c₄.Valid := (hvalid₃.store _).setPos (show c.pos ≤ c.end_ by omega)
  set c₅ := (c₄.touch c₄.getLeft).setPos (c.pos + 8) with hc₅
  have hvalid₅ : c₅.Valid := (hvalid₄.touch _).setPos (show c.pos + 8 ≤ c.end_ by omega)
  have hadvance : (c₄.touch c₄.getLeft).advance 8 = c₅ :=
    advance_eq (hvalid₄.touch _) (show c.pos + 8 ≤ c.end_ by omega)
  set checksum := crc c₄.rest with hchecksum
  set c₆ := (c₅.store (le32 checksum)).setPos (c.pos + 12) with hc₆
  have hvalid₆ : c₆.Valid := (hvalid₅.store _).setPos hfull
  have hwrite₃ : c₅.writeMem realloc (le32 checksum) = (true, c₆) :=
    writeMem_eq hvalid₅ (le32 checksum) (show c.pos + 8 + 4 ≤ c.end_ by omega) realloc
  have hpatched : c.patchSctpHeader realloc crc source destination = c₆.setPos c.pos := by
    simp only [patchSctpHeader, hwrite₁, hwrite₂, hskip, ← hc₄, ← hchecksum, hadvance, hwrite₃]
  rw [hpatched]
  refine ⟨hvalid₆.setPos (show c.pos ≤ c.end_ by omega), rfl, rfl, ?_, ?_⟩
  · -- every access lies in the header or in the whole packet
    intro start hstart hwithin
    have hlt : c.end_ < 2 ^ 64 := by omega
    have hwithin₁ : c₁.AllWithin start c.end_ :=
      store_allWithin hwithin hstart (show c.pos + 2 ≤ c.end_ by omega) hlt
    have hwithin₂ : c₂.AllWithin start c.end_ :=
      store_allWithin hwithin₁ (show start ≤ c.pos + 2 by omega)
        (show c.pos + 2 + 2 ≤ c.end_ by omega) hlt
    have hwithin₃ : c₃.AllWithin start c.end_ := hwithin₂
    have hwithin₄ : c₄.AllWithin start c.end_ :=
      store_allWithin hwithin₃ (show start ≤ c.pos + 8 by omega)
        (show c.pos + 8 + 4 ≤ c.end_ by omega) hlt
    have hwithin₅ : c₅.AllWithin start c.end_ :=
      touch_allWithin hwithin₄ hstart (show c.pos + (c.end_ - c.pos) ≤ c.end_ by omega) hlt
    exact store_allWithin hwithin₅ (show start ≤ c.pos + 8 by omega)
      (show c.pos + 8 + 4 ≤ c.end_ by omega) hlt
  · -- both models of the buffer take the same steps
    have hmbuf₁ : c₁.toMbuf = c.toMbuf.writeMem (be16 source) :=
      toMbuf_store h (be16 source) (show c.pos + 2 ≤ c.end_ by omega)
    have hmbuf₂ : c₂.toMbuf = c₁.toMbuf.writeMem (be16 destination) :=
      toMbuf_store hvalid₁ (be16 destination) (show c.pos + 2 + 2 ≤ c.end_ by omega)
    have hmbuf₃ : c₃.toMbuf = c₂.toMbuf.advance 4 := rfl
    have hmbuf₄ : c₄.toMbuf = (c₃.toMbuf.clear 4).setPos c.pos := by
      rw [← toMbuf_memset hvalid₃ (show c.pos + 8 + 4 ≤ c.end_ by omega)]
      rfl
    have hmbuf₅ : c₅.toMbuf = c₄.toMbuf.advance 8 := rfl
    have hmbuf₆ : c₆.toMbuf = c₅.toMbuf.writeMem (le32 checksum) :=
      toMbuf_store hvalid₅ (le32 checksum) (show c.pos + 8 + 4 ≤ c.end_ by omega)
    show c₆.toMbuf.setPos c.pos = _
    rw [hmbuf₆, hchecksum, ← rest_toMbuf hvalid₄, hmbuf₅, hmbuf₄, hmbuf₃, hmbuf₂, hmbuf₁]
    rfl

/-! ## Section 3: Reading the headers of raw packets -/

/-- Between `c` and `c'` the message is read at most. -/
structure ReadOnly (c c' : Cursor) : Prop where
  buf : c'.buf = c.buf
  size : c'.size = c.size
  end_ : c'.end_ = c.end_
  within : c.AllWithin 0 c.end_ → c'.AllWithin 0 c.end_

theorem ReadOnly.trans {c' c'' : Cursor} (h : ReadOnly c c') (h' : ReadOnly c' c'') :
    ReadOnly c c'' where
  buf := h'.buf.trans h.buf
  size := h'.size.trans h.size
  end_ := h'.end_.trans h.end_
  within hc := by
    have hc' := h.within hc
    rw [← h.end_] at hc' ⊢
    exact h'.within hc'

theorem readOnly_advance (n : Nat) : ReadOnly c (c.advance n) := ⟨rfl, rfl, rfl, id⟩

theorem readOnly_retreat (n : Nat) : ReadOnly c (c.retreat n) := ⟨rfl, rfl, rfl, id⟩

/-- A read that succeeds reads from the message, wherever the position is. -/
theorem readOnly_readMem {n : Nat} (hlt : c.end_ < 2 ^ 64) (hn : 0 < n) :
    ReadOnly c (c.readMem n).2 := by
  unfold readMem
  split
  · exact ⟨rfl, rfl, rfl, id⟩
  · next hleft =>
    unfold getLeft at hleft
    exact ⟨rfl, rfl, rfl, fun hc => touch_allWithin hc (Nat.zero_le _) (by omega) hlt⟩

theorem readOnly_readU8 (hlt : c.end_ < 2 ^ 64) : ReadOnly c c.readU8.2 := by
  have h : c.readU8.2 = (c.readMem 1).2 := by
    unfold readU8
    split <;> simp_all
  rw [h]
  exact readOnly_readMem hlt Nat.one_pos

theorem readOnly_readU16 (hlt : c.end_ < 2 ^ 64) : ReadOnly c c.readU16.2 := by
  have h : c.readU16.2 = (c.readMem 2).2 := by
    unfold readU16
    split <;> simp_all
  rw [h]
  exact readOnly_readMem hlt Nat.two_pos

theorem readU8_eq (h : c.Valid) (hn : c.pos + 1 ≤ c.end_) :
    c.readU8 = (c.buf c.pos, (c.touch 1).setPos (c.pos + 1)) := by
  have hend := h.end_le
  have hsize := h.size_lt
  have hleft : ¬ c.getLeft < 1 := by
    unfold getLeft
    omega
  have hadvance : (c.touch 1).advance 1 = (c.touch 1).setPos (c.pos + 1) :=
    advance_eq (h.touch 1) hn
  have hbytes : c.bytes c.pos 1 = [c.buf c.pos] := by
    simp [bytes, sizeT_of_lt (show c.pos < 2 ^ 64 by omega)]
  rw [readU8, readMem, if_neg hleft, hadvance, hbytes]

theorem readU16_eq (h : c.Valid) (hn : c.pos + 2 ≤ c.end_) : c.readU16 =
    ((c.buf c.pos).toNat * 2 ^ 8 + (c.buf (c.pos + 1)).toNat,
      (c.touch 2).setPos (c.pos + 2)) := by
  have hend := h.end_le
  have hsize := h.size_lt
  have hleft : ¬ c.getLeft < 2 := by
    unfold getLeft
    omega
  have hadvance : (c.touch 2).advance 2 = (c.touch 2).setPos (c.pos + 2) :=
    advance_eq (h.touch 2) hn
  have hrange : List.range 2 = [0, 1] := rfl
  have hbytes : c.bytes c.pos 2 = [c.buf c.pos, c.buf (c.pos + 1)] := by
    simp [bytes, hrange, sizeT_of_lt (show c.pos < 2 ^ 64 by omega),
      sizeT_of_lt (show c.pos + 1 < 2 ^ 64 by omega)]
  rw [readU16, readMem, if_neg hleft, hadvance, hbytes]

/-- A read behind the end gives zero. -/
theorem readU16_of_short (h : c.getLeft < 2) : c.readU16 = (0, c) := by
  rw [readU16, readMem, if_pos h]

/-- Going back to where one has been. -/
theorem retreat_eq {n : Nat} (h : c.Valid) (hn : n ≤ c.pos) :
    c.retreat n = c.setPos (c.pos - n) := by
  have hpos := h.pos_le
  have hend := h.end_le
  have hsize := h.size_lt
  have hwrap : c.pos + (2 ^ 64 - n) = c.pos - n + 2 ^ 64 := by omega
  rw [retreat, hwrap, sizeT, Nat.add_mod_right, Nat.mod_eq_of_lt (by omega), setPos]

end Cursor

/-- The source port as it is read: zero, if the packet ends before it. -/
def readSourcePort (packet : Bytes) : Nat :=
  if ipv4HeaderLength packet + 2 ≤ packet.length then sctpSourcePort (sctpPacket packet) else 0

namespace Cursor

variable {c : Cursor}

/-- The buffer behind the IPv4 header. -/
def skipIpv4Header (c : Cursor) : Cursor :=
  (c.readU8.2.retreat 1).advance ((c.readU8.1 &&& 0xf).toNat * 4)

theorem getD_bytes {i : Nat} (h : c.Valid) (hi : i < c.end_) :
    c.toMbuf.data.getD i 0 = c.buf i := by
  have hend := h.end_le
  have hsize := h.size_lt
  have hlength : i < (c.bytes 0 c.end_).length := by simpa using hi
  show (c.bytes 0 c.end_).getD i 0 = c.buf i
  rw [List.getD_eq_getElem _ _ hlength, getElem_bytes, Nat.zero_add, sizeT_of_lt (by omega)]

/-- The position behind the IPv4 header, if there is a first byte. -/
theorem skipIpv4Header_eq (h : c.Valid) (hpos : c.pos = 0) (hne : 1 ≤ c.end_) :
    c.skipIpv4Header = (c.touch 1).setPos (ipv4HeaderLength c.toMbuf.data) := by
  have hend := h.end_le
  have hsize := h.size_lt
  have hread : c.readU8 = (c.buf 0, (c.touch 1).setPos 1) := by
    have hread := readU8_eq h (show c.pos + 1 ≤ c.end_ by omega)
    rwa [hpos] at hread
  have hvalid : ((c.touch 1).setPos 1).Valid := (h.touch 1).setPos (show 1 ≤ c.end_ from hne)
  have hback : ((c.touch 1).setPos 1).retreat 1 = (c.touch 1).setPos 0 :=
    retreat_eq hvalid (show 1 ≤ 1 from le_rfl)
  have hfirst : c.toMbuf.data.headD 0 = c.buf 0 := by
    rw [← getD_bytes h (show 0 < c.end_ by omega)]
    cases c.toMbuf.data <;> rfl
  have hsmall : (c.buf 0 &&& 0xf).toNat * 4 < 2 ^ 64 := by
    have := (c.buf 0 &&& 0xf).toNat_lt
    omega
  simp only [skipIpv4Header, hread, hback, ipv4HeaderLength, hfirst]
  show (c.touch 1).setPos (sizeT (0 + _)) = _
  rw [Nat.zero_add, sizeT_of_lt hsmall]

theorem readOnly_skipIpv4Header (h : c.Valid) : ReadOnly c c.skipIpv4Header := by
  have hend := h.end_le
  have hsize := h.size_lt
  exact ((readOnly_readU8 (by omega)).trans (readOnly_retreat 1)).trans (readOnly_advance _)

/-- The source port that is read. -/
theorem readU16_skipIpv4Header (h : c.Valid) (hpos : c.pos = 0) :
    c.skipIpv4Header.readU16.1 = readSourcePort c.toMbuf.data := by
  have hend := h.end_le
  have hsize := h.size_lt
  unfold readSourcePort
  rw [length_toMbuf]
  by_cases hne : 1 ≤ c.end_
  · rw [skipIpv4Header_eq h hpos hne]
    set n := ipv4HeaderLength c.toMbuf.data with hn
    split
    · next hfits =>
      have hvalid : ((c.touch 1).setPos n).Valid := (h.touch 1).setPos (show n ≤ c.end_ by omega)
      rw [readU16_eq hvalid hfits]
      show (c.buf n).toNat * 2 ^ 8 + (c.buf (n + 1)).toNat = _
      simp only [sctpSourcePort, sctpPacket, ← hn, List.getD_eq_getElem?_getD, List.getElem?_drop]
      simp only [← List.getD_eq_getElem?_getD, Nat.add_zero]
      rw [getD_bytes h (by omega), getD_bytes h (by omega)]
    · next hshort =>
      rw [readU16_of_short]
      show c.end_ - n < 2
      omega
  · -- an empty packet: the position wraps around
    have hzero : c.end_ = 0 := by omega
    rw [if_neg (by omega), readU16_of_short]
    have hend' := (readOnly_skipIpv4Header h).end_
    unfold getLeft
    omega

/-- The buffer after both ports have been read, back in front of them if all went well. -/
def peekPorts (c : Cursor) : Cursor :=
  (c.skipIpv4Header.readU16.2.readU16.2).retreat 4

theorem readOnly_peekPorts (h : c.Valid) : ReadOnly c c.peekPorts := by
  have hend := h.end_le
  have hsize := h.size_lt
  have hlt : c.end_ < 2 ^ 64 := by omega
  have hskip := readOnly_skipIpv4Header h
  have hread₁ := hskip.trans (readOnly_readU16 (hskip.end_ ▸ hlt))
  have hread₂ := hread₁.trans (readOnly_readU16 (hread₁.end_ ▸ hlt))
  exact hread₂.trans (readOnly_retreat 4)

/-- In a packet with a full header one is back in front of the ports. -/
theorem peekPorts_eq (h : c.Valid) (hpos : c.pos = 0)
    (hfull : ipv4HeaderLength c.toMbuf.data + 12 ≤ c.end_) :
    c.peekPorts.Valid ∧ c.peekPorts.pos = ipv4HeaderLength c.toMbuf.data := by
  have hend := h.end_le
  have hsize := h.size_lt
  unfold peekPorts
  rw [skipIpv4Header_eq h hpos (by omega)]
  set n := ipv4HeaderLength c.toMbuf.data with hn
  set c₁ := (c.touch 1).setPos n with hc₁
  have hvalid₁ : c₁.Valid := (h.touch 1).setPos (show n ≤ c.end_ by omega)
  set c₂ := (c₁.touch 2).setPos (n + 2) with hc₂
  have hvalid₂ : c₂.Valid := (hvalid₁.touch 2).setPos (show n + 2 ≤ c.end_ by omega)
  have hread₁ : c₁.readU16.2 = c₂ :=
    congrArg Prod.snd (readU16_eq hvalid₁ (show n + 2 ≤ c.end_ by omega))
  set c₃ := (c₂.touch 2).setPos (n + 4) with hc₃
  have hvalid₃ : c₃.Valid := (hvalid₂.touch 2).setPos (show n + 4 ≤ c.end_ by omega)
  have hread₂ : c₂.readU16.2 = c₃ :=
    congrArg Prod.snd (readU16_eq hvalid₂ (show n + 2 + 2 ≤ c.end_ by omega))
  have hback : c₃.retreat 4 = c₃.setPos n := retreat_eq hvalid₃ (show 4 ≤ n + 4 by omega)
  rw [hread₁, hread₂, hback]
  exact ⟨hvalid₃.setPos (show n ≤ c.end_ by omega), rfl⟩

/-- A buffer as it is given to the transport. -/
structure Fresh (c : Cursor) : Prop extends c.Valid where
  accesses : c.accesses = []

theorem Fresh.allWithin (h : c.Fresh) (start stop : Nat) : c.AllWithin start stop := by
  intro a ha
  rw [h.accesses] at ha
  cases ha

end Cursor

/-! ## Section 4: What stays inside the packet -/

/-- A packet that starts at the position of `c` has been handled: nothing outside of it has been
    accessed, its length is the same, and it is neither changed nor forwarded if it has no full
    SCTP header behind the first `skipped` bytes. -/
structure StaysInside (c : Cursor) (skipped : Nat) (r : Redirected) : Prop where
  inside : r.buffer.AllWithin c.pos (c.pos + c.getLeft)
  length : r.buffer.end_ = c.end_
  short : c.getLeft < skipped + 12 → r.forwarded = none ∧ r.buffer.buf = c.buf

section Inside

variable [SoftwareCrc32c] {t : RedirectTransport} {realloc : Nat → Bool} {c : Cursor}

omit [SoftwareCrc32c] in
theorem Cursor.Valid.pos_add_getLeft (h : c.Valid) : c.pos + c.getLeft = c.end_ := by
  have hpos := h.pos_le
  unfold Cursor.getLeft
  omega

omit [SoftwareCrc32c] in
/-- Nothing happens to a packet that is dropped at once. -/
theorem staysInside_dropped (h : c.Fresh) (skipped : Nat) :
    StaysInside c skipped { buffer := c } :=
  ⟨h.allWithin _ _, rfl, fun _ => ⟨rfl, rfl⟩⟩

/-- Packets that are fed. -/
theorem staysInside_feedInbound_iff (h : c.Fresh) (sent : Option Nat) :
    StaysInside c 0 (c.redirectTransportFeedInbound realloc t sent) ↔
      t.flags.detached = true ∨ t.state ≠ .opened ∨ 12 ≤ c.getLeft := by
  unfold Cursor.redirectTransportFeedInbound
  by_cases hdetached : t.flags.detached = true
  · rw [if_pos hdetached]
    exact iff_of_true (staysInside_dropped h 0) (.inl hdetached)
  · rw [if_neg hdetached]
    by_cases hopened : t.state ≠ .opened
    · rw [if_pos hopened]
      exact iff_of_true (staysInside_dropped h 0) (.inr (.inl hopened))
    · rw [if_neg hopened]
      constructor
      · -- the packet is sent, so it must not be short
        intro hinside
        refine .inr (.inr (not_lt.mp fun hshort => ?_))
        cases (hinside.short (by omega)).1
      · rintro (hattached | hclosed | hleft)
        · exact absurd hattached hdetached
        · exact absurd hclosed hopened
        · have hpatched := Cursor.patchSctpHeader_inside realloc t.crc32c
            h.toValid hleft t.localPort t.redirectAddress.port
          have hwithin := hpatched.within c.pos le_rfl (h.allWithin _ _)
          rw [← h.toValid.pos_add_getLeft] at hwithin
          refine ⟨?_, ?_, fun hshort => absurd hleft (by omega)⟩
          · cases sent with
            | none => exact hwithin
            | some length => exact hwithin
          · cases sent with
            | none => exact hpatched.end_
            | some length => exact hpatched.end_

/-- What is sent is what the model without memory sends. -/
theorem forwarded_feedInbound (h : c.Fresh) (hattached : t.flags.detached = false)
    (hopened : t.state = .opened) (hleft : 12 ≤ c.getLeft) (sent : Option Nat) :
    (c.redirectTransportFeedInbound realloc t sent).forwarded =
      some (patchSctpHeader t c.toMbuf t.localPort t.redirectAddress.port).rest := by
  have hpatched := Cursor.patchSctpHeader_inside realloc t.crc32c
    h.toValid hleft t.localPort t.redirectAddress.port
  unfold Cursor.redirectTransportFeedInbound
  rw [if_neg (by simp [hattached]), if_neg (not_not.mpr hopened), patchSctpHeader_eq,
    ← hpatched.toMbuf, Cursor.rest_toMbuf hpatched.valid]

variable [SocketAddress] {fromAddress : Sa}

/-- A raw packet is patched although it has no full SCTP header. -/
def PatchesShort (t : RedirectTransport) (fromAddress : Sa) (packet : Bytes) : Prop :=
  (fromAddress.addr ≠ inaddrAny ∨ t.redirectAddress.addr = fromAddress.addr) ∧
    ¬ HasSctpHeader packet ∧ readSourcePort packet = t.redirectAddress.port

/-- The code with names for the positions it goes to. -/
theorem redirectPacket_eq : c.redirectPacket realloc t fromAddress =
    if SocketAddress.saIsset fromAddress = false ∧
        SocketAddress.saCmp t.redirectAddress fromAddress = false then
      { buffer := c }
    else if c.skipIpv4Header.readU16.1 ≠ t.redirectAddress.port then
      { buffer := c.peekPorts }
    else
      { buffer := c.peekPorts.patchSctpHeader realloc t.crc32c t.localPort t.remotePort
        forwarded := some
          (c.peekPorts.patchSctpHeader realloc t.crc32c t.localPort t.remotePort).rest } := rfl

/-- Packets from the raw socket. -/
theorem staysInside_redirectPacket_iff (h : c.Fresh) (hpos : c.pos = 0) :
    StaysInside c (ipv4HeaderLength c.toMbuf.data) (c.redirectPacket realloc t fromAddress) ↔
      ¬ PatchesShort t fromAddress c.toMbuf.data := by
  have hend := h.end_le
  have hsize := h.size_lt
  have hleft : c.getLeft = c.end_ := by
    unfold Cursor.getLeft
    omega
  have hfull : HasSctpHeader c.toMbuf.data ↔ ipv4HeaderLength c.toMbuf.data + 12 ≤ c.end_ := by
    rw [HasSctpHeader, Cursor.length_toMbuf]
  rw [redirectPacket_eq]
  simp only [address_ignored_iff]
  by_cases haddress : fromAddress.addr ≠ inaddrAny ∨ t.redirectAddress.addr = fromAddress.addr
  · rw [if_neg (not_not.mpr haddress), Cursor.readU16_skipIpv4Header h.toValid hpos]
    by_cases hport : readSourcePort c.toMbuf.data = t.redirectAddress.port
    · rw [if_neg (not_not.mpr hport)]
      constructor
      · -- the packet is handed out, so it must not be short
        rintro hinside ⟨-, hshort, -⟩
        have hlt : c.getLeft < ipv4HeaderLength c.toMbuf.data + 12 := by
          rw [hfull] at hshort
          omega
        cases (hinside.short hlt).1
      · intro hnot
        have hheader : HasSctpHeader c.toMbuf.data :=
          not_not.mp fun hshort => hnot ⟨haddress, hshort, hport⟩
        rw [hfull] at hheader
        -- the ports have been looked at, and the cursor is behind the IP header
        have hreadOnly := Cursor.readOnly_peekPorts h.toValid
        obtain ⟨hvalid, hat⟩ := Cursor.peekPorts_eq h.toValid hpos hheader
        have hleft' : 12 ≤ c.peekPorts.getLeft := by
          unfold Cursor.getLeft
          rw [hreadOnly.end_, hat]
          omega
        -- twelve bytes are left there, so patching the header stays inside
        have hpatched := Cursor.patchSctpHeader_inside realloc t.crc32c
          hvalid hleft' t.localPort t.remotePort
        refine ⟨?_, hpatched.end_.trans hreadOnly.end_, fun hshort => ?_⟩
        · have hwithin := hpatched.within 0 (Nat.zero_le _)
          rw [hreadOnly.end_] at hwithin
          rw [hpos, hleft, Nat.zero_add]
          dsimp only
          exact hwithin (hreadOnly.within (h.allWithin _ _))
        · omega
    · -- a packet of somebody else is only read
      rw [if_pos hport]
      refine iff_of_true ?_ fun hshort => hport hshort.2.2
      have hread := Cursor.readOnly_peekPorts h.toValid
      refine ⟨?_, hread.end_, fun _ => ⟨rfl, hread.buf⟩⟩
      rw [hpos, hleft, Nat.zero_add]
      exact hread.within (h.allWithin _ _)
  · -- a packet from another address is not looked at
    rw [if_pos haddress]
    exact iff_of_true (staysInside_dropped h _) fun hshort => haddress hshort.1

omit [SoftwareCrc32c] [SocketAddress] in
/-- What is received lies at the front of the buffer. -/
theorem receive_receiveBuffer (buf : Nat → UInt8) {size : Nat} (hsize : size < 2 ^ 64)
    (bytes : Bytes) :
    ((Cursor.receiveBuffer buf size).receive bytes).Fresh ∧
      ((Cursor.receiveBuffer buf size).receive bytes).toMbuf = ⟨bytes.take size, 0⟩ := by
  have hle : (bytes.take size).length ≤ size := by
    simp
  have hfresh : ((Cursor.receiveBuffer buf size).receive bytes).Fresh :=
    ⟨⟨Nat.zero_le _, hle, hsize⟩, rfl⟩
  refine ⟨hfresh, ?_⟩
  show (⟨((Cursor.receiveBuffer buf size).receive bytes).bytes 0 (bytes.take size).length, 0⟩ : Mbuf)
    = _
  congr 1
  apply List.ext_getElem
  · simp
  · intro i hi hi'
    have hk : sizeT (i + 2 ^ 64) = i := by
      rw [sizeT, Nat.add_mod_right, Nat.mod_eq_of_lt (by omega)]
    rw [Cursor.getElem_bytes, Nat.zero_add, Cursor.sizeT_of_lt (by omega)]
    simp only [Cursor.receive, Cursor.store, Cursor.receiveBuffer, Cursor.getSpace, Nat.sub_zero,
      hk, if_pos hi']
    exact List.getD_eq_getElem _ _ hi'

/-- **When the redirect transport stays inside packets**: those that are fed must have a full
    header, and those from the raw socket must have one or another source port. -/
theorem staysInside_iff (hc : c.Fresh) (sent : Option Nat) {buf : Nat → UInt8} {size : Nat}
    (hsize : size < 2 ^ 64) (bytes : Bytes) :
    (StaysInside c 0 (c.redirectTransportFeedInbound realloc t sent) ↔
      t.flags.detached = true ∨ t.state ≠ .opened ∨ 12 ≤ c.getLeft) ∧
    (StaysInside ((Cursor.receiveBuffer buf size).receive bytes)
        (ipv4HeaderLength (bytes.take size))
        (((Cursor.receiveBuffer buf size).receive bytes).redirectPacket realloc t fromAddress) ↔
      ¬ PatchesShort t fromAddress (bytes.take size)) := by
  obtain ⟨hfresh, hpacket⟩ := receive_receiveBuffer buf hsize bytes
  have hdata : ((Cursor.receiveBuffer buf size).receive bytes).toMbuf.data = bytes.take size := by
    rw [hpacket]
  refine ⟨staysInside_feedInbound_iff hc sent, ?_⟩
  rw [← hdata]
  exact staysInside_redirectPacket_iff hfresh rfl

end Inside

/-- Some bytes in a buffer of their size. -/
def Cursor.ofBytes (bytes : Bytes) : Cursor where
  buf i := bytes.getD i 0
  size := bytes.length
  end_ := bytes.length

theorem Cursor.fresh_ofBytes {bytes : Bytes} (h : bytes.length < 2 ^ 64) :
    (Cursor.ofBytes bytes).Fresh :=
  ⟨⟨Nat.zero_le _, le_rfl, h⟩, rfl⟩

/-- A header without chunks that is fed, and a packet of the configured peer. -/
theorem staysInside_sample :
    StaysInside (.ofBytes (List.replicate 12 0)) 0
        (@Cursor.redirectTransportFeedInbound (fun _ => true) (.ofBytes (List.replicate 12 0))
          bitwiseCrc32c openedRedirect (some 12)) ∧
      StaysInside ((Cursor.receiveBuffer (fun _ => 0) 8192).receive samplePacket)
        (ipv4HeaderLength (samplePacket.take 8192))
        (@Cursor.redirectPacket (fun _ => true)
          ((Cursor.receiveBuffer (fun _ => 0) 8192).receive samplePacket) bitwiseCrc32c
          openedRedirect plainSocketAddress ⟨0x0a000002, 0⟩) := by
  have h := @staysInside_iff bitwiseCrc32c openedRedirect (fun _ => true)
    (.ofBytes (List.replicate 12 0)) plainSocketAddress ⟨0x0a000002, 0⟩
    (Cursor.fresh_ofBytes (by decide)) (some 12) (fun _ => 0) 8192 (by decide) samplePacket
  refine ⟨h.1.mpr (.inr (.inr (by decide))), h.2.mpr ?_⟩
  rintro ⟨-, hshort, -⟩
  exact hshort (by decide)

/-- Four bytes are fed to an open transport, and they are sent although they are no header. -/
theorem not_staysInside : ¬ StaysInside (.ofBytes (List.replicate 4 0)) 0
    (@Cursor.redirectTransportFeedInbound (fun _ => true) (.ofBytes (List.replicate 4 0))
      bitwiseCrc32c openedRedirect (some 12)) := by
  intro h
  have hshort : (Cursor.ofBytes (List.replicate 4 0)).getLeft < 0 + 12 := by decide
  have hforwarded := (h.short hshort).1
  unfold Cursor.redirectTransportFeedInbound at hforwarded
  rw [if_neg (by decide), if_neg (by decide)] at hforwarded
  cases hforwarded

end RawrtcDataChannel
