import RawrtcDataChannel.Reassembly
import RawrtcDataChannel.Transfer.Outgoing
import RawrtcDataChannel.Api

/-!
# Receiving pieces

`buffer_message_received_raise_complete` puts the pieces of a message together in a buffer. Where
there is memory, one call of it extends the message the buffer holds, exactly as the abstract
reassembly does for one stream.
-/

namespace RawrtcDataChannel

open Reentrant Reassembly

/-! ## Section 1: What a reassembly buffer holds -/

/-- An unfinished message: the receive info of its first piece, and its bytes so far. -/
abbrev InboundMessage := Message RcvInfo UInt8

/-- A buffer that is positioned at its end. -/
def Mbuf.full (bytes : Bytes) : Mbuf := ⟨bytes, bytes.length⟩

/-- The reassembly buffer, with the receive info stored for it, holds an unfinished message. -/
def HeldAs (bufferInbound : Option Mbuf) (infoInbound : RcvInfo) :
    Option InboundMessage → Prop
  | none => bufferInbound = none
  | some (info, bytes) => bufferInbound = some (.full bytes) ∧ infoInbound = info

/-- Whether a piece completes its message. -/
def completes (info : RcvInfo) (eor : Bool) : Bool :=
  eor && info.rcvPpid != ppidUtf16Partial && info.rcvPpid != ppidBinaryPartial

/-! ## Section 2: One more piece -/

theorem Mbuf.writeMem_full (bytes more : Bytes) :
    (Mbuf.full bytes).writeMem more = .full (bytes ++ more) := by
  simp [Mbuf.writeMem, Mbuf.full]

/-- `buffer_message_received_raise_complete`, if there is memory. -/
theorem bufferMessageReceivedRaiseComplete_always
    {answers : (o : Op) → Transport → o.Reply → Prop} (hanswers : AmpleMemory answers)
    {bufferInbound : Option Mbuf} {infoInbound : RcvInfo} {unfinished : Option InboundMessage}
    (hheld : HeldAs bufferInbound infoInbound unfinished) (bytes : Bytes) (info : RcvInfo)
    (eor : Bool) (s : Transport) :
    ((bufferMessageReceivedRaiseComplete bufferInbound infoInbound { data := bytes } info eor).run
      s).Always answers fun r s' => s' = s ∧
        r = if completes info eor then
          (.success, some { data := (extend unfinished info bytes).2 },
            (extend unfinished info bytes).1)
        else
          (.noValue, some (.full (extend unfinished info bytes).2),
            (extend unfinished info bytes).1) := by
  unfold bufferMessageReceivedRaiseComplete
  cases unfinished with
  | none =>
    obtain rfl : bufferInbound = none := hheld
    simp only [extend, ← completes.eq_def]
    cases completes info eor with
    | true => exact ⟨rfl, rfl⟩
    | false =>
      -- there is no headroom, and the position is moved to the end
      simp [Mbuf.skipToEnd, Mbuf.writeMem, Mbuf.rest, Mbuf.full]
  | some message =>
    obtain ⟨info₀, bytes₀⟩ := message
    obtain ⟨rfl, rfl⟩ := hheld
    simp only [Routine.run_bind, run_alloc, Prog.bind, extend, ← completes.eq_def]
    intro ok hok
    obtain rfl : ok = true := hanswers s ok hok
    simp only [if_true, Mbuf.writeMem_full, Mbuf.rest_mk_zero]
    cases completes info eor with
    | true => exact ⟨rfl, rfl⟩
    | false => exact ⟨rfl, rfl⟩

end RawrtcDataChannel
