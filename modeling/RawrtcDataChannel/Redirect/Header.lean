import Mathlib.Tactic.Set
import RawrtcDataChannel.Redirect.Transport

/-!
# SCTP headers

The first twelve bytes of an SCTP packet are its common header: two ports, a verification tag and a
checksum. Here `patch_sctp_header` is looked at for any function in the place of the checksum
function.
-/

namespace RawrtcDataChannel

/-! ## Section 1: The fields of the header -/

/-- An SCTP packet with other ports and a given checksum. -/
def withPorts (source destination : Nat) (checksum : Bytes) (sctp : Bytes) : Bytes :=
  be16 source ++ be16 destination ++ (sctp.drop 4).take 4 ++ checksum ++ sctp.drop 12

/-- An SCTP packet with other ports. The checksum is computed with zeros in its place. -/
def redirectedWith (crc : Bytes → BitVec 32) (source destination : Nat) (sctp : Bytes) : Bytes :=
  withPorts source destination
    (le32 (crc (withPorts source destination [0, 0, 0, 0] sctp))) sctp

section Fields

variable {sctp checksum : Bytes} {source destination : Nat}

@[simp] theorem length_be16 (n : Nat) : (be16 n).length = 2 := rfl

@[simp] theorem length_le32 (v : BitVec 32) : (le32 v).length = 4 := rfl

/-- A packet in front of its checksum field, the field, and the rest. -/
theorem take_checksumField_drop (sctp : Bytes) :
    sctp.take 8 ++ checksumField sctp ++ sctp.drop 12 = sctp := by
  rw [checksumField, List.append_assoc, ← List.drop_drop (i := 4) (j := 8), List.take_append_drop,
    List.take_append_drop]

/-- Putting back the checksum. -/
theorem withChecksum_checksumField (sctp : Bytes) :
    withChecksum (checksumField sctp) sctp = sctp :=
  take_checksumField_drop sctp

theorem length_checksumField (hlength : 12 ≤ sctp.length) : (checksumField sctp).length = 4 := by
  simp [checksumField]
  omega

theorem length_withChecksum (hlength : 12 ≤ sctp.length) (hchecksum : checksum.length = 4) :
    (withChecksum checksum sctp).length = sctp.length := by
  simp [withChecksum, hchecksum]
  omega

/-- The last checksum that is put in stays. -/
theorem withChecksum_withChecksum {checksum' : Bytes} (hlength : 12 ≤ sctp.length)
    (hchecksum : checksum.length = 4) :
    withChecksum checksum' (withChecksum checksum sctp) = withChecksum checksum' sctp := by
  have hfront : (sctp.take 8).length = 8 := by
    simp
    omega
  have htake : (withChecksum checksum sctp).take 8 = sctp.take 8 := by
    rw [withChecksum, List.append_assoc, List.take_append_of_le_length (by omega),
      List.take_of_length_le (by omega)]
  have hdrop : (withChecksum checksum sctp).drop 12 = sctp.drop 12 := by
    rw [withChecksum, List.drop_append_of_le_length (by simp [hchecksum]; omega),
      List.drop_of_length_le (by simp [hchecksum]), List.nil_append]
  rw [withChecksum, htake, hdrop, withChecksum]

theorem checksumField_withChecksum (hlength : 12 ≤ sctp.length) (hchecksum : checksum.length = 4) :
    checksumField (withChecksum checksum sctp) = checksum := by
  have hfront : (sctp.take 8).length = 8 := by
    simp
    omega
  rw [checksumField, withChecksum, List.append_assoc, List.drop_append_of_le_length (by omega),
    List.drop_of_length_le (by omega), List.nil_append,
    List.take_append_of_le_length (by omega), List.take_of_length_le (by omega)]

theorem length_withPorts (hlength : 12 ≤ sctp.length) (hchecksum : checksum.length = 4) :
    (withPorts source destination checksum sctp).length = sctp.length := by
  simp [withPorts, hchecksum]
  omega

/-- The first eight bytes do not depend on the checksum. -/
theorem take_withPorts (source destination : Nat) (checksum : Bytes)
    (hlength : 12 ≤ sctp.length) : (withPorts source destination checksum sctp).take 8 =
      be16 source ++ be16 destination ++ (sctp.drop 4).take 4 := by
  have hfront : (be16 source ++ be16 destination ++ (sctp.drop 4).take 4).length = 8 := by
    simp
    omega
  rw [withPorts, List.append_assoc _ checksum, List.take_append_of_le_length (by omega),
    List.take_of_length_le (by omega)]

/-- The bytes behind the header are kept. -/
theorem drop_withPorts (hlength : 12 ≤ sctp.length) (hchecksum : checksum.length = 4) :
    (withPorts source destination checksum sctp).drop 12 = sctp.drop 12 := by
  have hheader : (be16 source ++ be16 destination ++ (sctp.drop 4).take 4 ++ checksum).length =
      12 := by
    simp [hchecksum]
    omega
  rw [withPorts, List.drop_append_of_le_length (by omega), List.drop_of_length_le (by omega),
    List.nil_append]

/-- The verification tag is kept. -/
theorem verificationTag_withPorts (hlength : 12 ≤ sctp.length) :
    ((withPorts source destination checksum sctp).drop 4).take 4 = (sctp.drop 4).take 4 := by
  have h := congrArg (List.drop 4) (take_withPorts source destination checksum hlength)
  rw [List.drop_take] at h
  exact h

/-- Putting in another checksum. -/
theorem withChecksum_withPorts {checksum' : Bytes} (hlength : 12 ≤ sctp.length)
    (hchecksum : checksum.length = 4) :
    withChecksum checksum' (withPorts source destination checksum sctp) =
      withPorts source destination checksum' sctp := by
  rw [withChecksum, take_withPorts source destination checksum hlength,
    drop_withPorts hlength hchecksum, withPorts]

/-- The last ports that are put in stay. -/
theorem withPorts_withPorts {source' destination' : Nat} {checksum' : Bytes}
    (hlength : 12 ≤ sctp.length) (hchecksum : checksum.length = 4) :
    withPorts source' destination' checksum' (withPorts source destination checksum sctp) =
      withPorts source' destination' checksum' sctp := by
  rw [withPorts, verificationTag_withPorts hlength, drop_withPorts hlength hchecksum, withPorts]

end Fields

/-! ## Section 2: Patching headers -/

/-- `patch_sctp_header`, with any checksum function. -/
def patchSctpHeaderWith (crc : Bytes → BitVec 32) (buffer : Mbuf) (source destination : Nat) :
    Mbuf :=
  let start := buffer.pos
  let buffer := buffer.writeMem (be16 source)
  let buffer := buffer.writeMem (be16 destination)
  -- skip verification tag
  let buffer := buffer.advance 4
  -- reset checksum field and recalculate the checksum
  let buffer := buffer.clear 4
  let buffer := buffer.setPos start
  let checksum := crc buffer.rest
  -- advance to checksum field and set it
  let buffer := buffer.advance 8
  let buffer := buffer.writeMem (le32 checksum)
  buffer.setPos start

/-- The redirect transport uses the CRC-32C that is installed. -/
theorem patchSctpHeader_eq [SoftwareCrc32c] (t : RedirectTransport) :
    patchSctpHeader t = patchSctpHeaderWith t.crc32c := rfl

theorem Mbuf.clear_split (before cleared behind : Bytes) :
    (Mbuf.split before (cleared ++ behind)).clear cleared.length =
      Mbuf.split before (List.replicate cleared.length 0 ++ behind) := by
  simp [Mbuf.split, Mbuf.clear, Mbuf.getLeft, Mbuf.rest, List.drop_append]

/-- The ports and the checksum are written in place, everything else is kept. -/
theorem patchSctpHeaderWith_split (crc : Bytes → BitVec 32) (before sctp : Bytes)
    (source destination : Nat) (hlength : 12 ≤ sctp.length) :
    patchSctpHeaderWith crc (.split before sctp) source destination =
      .split before (redirectedWith crc source destination sctp) := by
  set tag := (sctp.drop 4).take 4 with htag
  set sum := (sctp.drop 8).take 4 with hsum
  set front := be16 source ++ be16 destination ++ tag with hfront
  have htag_length : tag.length = 4 := by simp [htag]; omega
  have hsum_length : sum.length = 4 := by simp [hsum]; omega
  have hfront_length : front.length = 8 := by simp [hfront, htag_length]
  have hbehind : sctp.drop 4 = tag ++ (sum ++ sctp.drop 12) := by
    rw [htag, hsum, ← List.drop_drop (i := 4) (j := 8), List.take_append_drop,
      ← List.drop_drop (i := 4) (j := 4), List.take_append_drop]
  -- the ports are written and the verification tag is skipped
  have hskip : (((Mbuf.split before sctp).writeMem (be16 source)).writeMem
      (be16 destination)).advance 4 = .split (before ++ front) (sum ++ sctp.drop 12) := by
    have h := Mbuf.advance_split (before ++ be16 source ++ be16 destination) tag
      (sum ++ sctp.drop 12)
    rw [htag_length] at h
    rw [Mbuf.writeMem_split, Mbuf.writeMem_split, List.drop_drop]
    show (Mbuf.split (before ++ be16 source ++ be16 destination) (sctp.drop 4)).advance 4 = _
    rw [hbehind, h, hfront, ← List.append_assoc, ← List.append_assoc]
  have hclear := Mbuf.clear_split (before ++ front) sum (sctp.drop 12)
  rw [hsum_length] at hclear
  have hpos : (Mbuf.split before sctp).pos = before.length := rfl
  -- the checksum is computed over the packet without one
  have hblank : front ++ (List.replicate 4 0 ++ sctp.drop 12) =
      withPorts source destination [0, 0, 0, 0] sctp := by
    simp only [withPorts, hfront, List.append_assoc]
    rfl
  have hadvance := Mbuf.advance_split before front (List.replicate 4 0 ++ sctp.drop 12)
  rw [hfront_length, hblank] at hadvance
  unfold patchSctpHeaderWith
  simp only [hskip, hclear, hpos, Mbuf.setPos_split, hblank, hadvance, Mbuf.rest_split]
  rw [Mbuf.writeMem_split, List.append_assoc before front, Mbuf.setPos_split, redirectedWith]
  simp only [withPorts, hfront, List.append_assoc]
  rfl

/-- A buffer with bytes left, in two parts. -/
theorem Mbuf.eq_split {mb : Mbuf} (h : mb.pos ≤ mb.data.length) :
    mb = .split (mb.data.take mb.pos) mb.rest := by
  simp [Mbuf.split, Mbuf.rest, h]

theorem Mbuf.pos_le_of_getLeft {mb : Mbuf} (h : 0 < mb.getLeft) : mb.pos ≤ mb.data.length := by
  simp only [Mbuf.getLeft, Mbuf.rest, List.length_drop] at h
  omega

end RawrtcDataChannel
