import MultiUeProxy.Clock.Admission
import MultiUeProxy.Clock.ElapsedTime
import MultiUeProxy.Clock.Convergence
import MultiUeProxy.Clock.NodeSync
import MultiUeProxy.Clock.Staleness
import MultiUeProxy.Downlink.Relay
import MultiUeProxy.Downlink.TimingWindow
import MultiUeProxy.Lib.TlvCodec
import MultiUeProxy.P4.DecoderSafety
import MultiUeProxy.P4.RoundTrip
import MultiUeProxy.P5.Config
import MultiUeProxy.P5.NrConfigRoundTrip
import MultiUeProxy.P5.Param
import MultiUeProxy.P5.PnfParam
import MultiUeProxy.P5.Responses
import MultiUeProxy.P5.Undecodable
import MultiUeProxy.P7.LteInstanceLists
import MultiUeProxy.P7.LtePayloadLists
import MultiUeProxy.P7.LteTxRequest
import MultiUeProxy.P7.NrUplinkPack
import MultiUeProxy.P7.UeRelease
import MultiUeProxy.Queue.Matching
import MultiUeProxy.Segmentation.StaleEntries
import MultiUeProxy.Segmentation.VnfSender
import MultiUeProxy.Tick.Barrier
import MultiUeProxy.Tlv.CursorBounds
import MultiUeProxy.Tlv.PackTlv
import MultiUeProxy.Transport.Framing
import MultiUeProxy.Uplink.Interleaving
import MultiUeProxy.Uplink.Run
