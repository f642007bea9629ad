import RawrtcDataChannel.Lifecycle.CloseOnce
import RawrtcDataChannel.Lifecycle.GenuineClose
import RawrtcDataChannel.Lifecycle.GracefulClose
import RawrtcDataChannel.Lifecycle.Registry
import RawrtcDataChannel.Transfer.SentInOrder
import RawrtcDataChannel.Reassembly
import RawrtcDataChannel.Transfer.Frames
import RawrtcDataChannel.Transfer.Inbound
import RawrtcDataChannel.Transfer.ControlMessages
import RawrtcDataChannel.Transfer.RoundTrip
import RawrtcDataChannel.Transfer.PendingMark
import RawrtcDataChannel.Transfer.Streaming
import RawrtcDataChannel.Transfer.WholeRecords
import RawrtcDataChannel.Negotiation.OpenFormat
import RawrtcDataChannel.Negotiation.OpenHeap
import RawrtcDataChannel.Negotiation.Shortage
import RawrtcDataChannel.Checksum.Crc32c
import RawrtcDataChannel.Redirect.Forwarding
import RawrtcDataChannel.Closing.NoLiveChannel
import RawrtcDataChannel.Closing.AllStreams
import RawrtcDataChannel.Redirect.Verification
import RawrtcDataChannel.Redirect.Bounds
import RawrtcDataChannel.Service.RoundRobin
import RawrtcDataChannel.Globals.Balance
import RawrtcDataChannel.Redirect.Ownership
import RawrtcDataChannel.Service.UpcallLoop
import RawrtcDataChannel.Slots.InBounds
import RawrtcDataChannel.Peers.Closing
import RawrtcDataChannel.Peers.Negotiation
import RawrtcDataChannel.Peers.Reuse
