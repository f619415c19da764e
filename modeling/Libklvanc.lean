import Libklvanc.Foundation.Checked
import Libklvanc.Foundation.Bits
import Libklvanc.Foundation.Scan
import Libklvanc.Core.Basic
import Libklvanc.Bitstream.Klbs
import Libklvanc.Bitstream.Writer
import Libklvanc.Bitstream.Reader
import Libklvanc.Core.Checksum
import Libklvanc.Core.Packet
import Libklvanc.Services.Fixed
import Libklvanc.Services.Bitstream
import Libklvanc.Scte104.OperationParsers
import Libklvanc.Core.Context
import Libklvanc.Core.PacketParse
import Libklvanc.Core.LineScan
import Libklvanc.Core.LineBounds
import Libklvanc.Core.SdiPayload
import Libklvanc.Core.Lines
import Libklvanc.Core.PacketRoundTrip
import Libklvanc.Core.LineRoundTrip
import Libklvanc.Foundation.Series
import Libklvanc.Scte104.Reassembly
import Libklvanc.Scte104.OperationBounds
import Libklvanc.Foundation.Records
import Libklvanc.Scte104.Framing
import Libklvanc.Scte104.Encode
import Libklvanc.Scte104.Wire
import Libklvanc.Scte104.Encoded
import Libklvanc.Scte104.Reencode
import Libklvanc.Scte104.Decoded
import Libklvanc.Scte104.RoundTrip
import Libklvanc.Scte104.Decodable
import Libklvanc.Smpte2038.Parser
import Libklvanc.Smpte2038.Packetizer
import Libklvanc.Smpte2038.Packetized
import Libklvanc.Smpte2038.Lines
import Libklvanc.Smpte2038.Payload
import Libklvanc.Smpte2038.Safety
import Libklvanc.Smpte2038.Frames
import Libklvanc.Smpte2038.RoundTrip
import Libklvanc.Smpte2038.Stuffing
import Libklvanc.Core.LineLayout
import Libklvanc.Services.Captions
import Libklvanc.Services.CaptionBounds
import Libklvanc.Services.MetadataBounds
import Libklvanc.Services.CaptionEncode
import Libklvanc.Services.CaptionWire
import Libklvanc.Services.CaptionRoundTrip
import Libklvanc.Services.TimeCode
import Libklvanc.Scte104.Delivery
import Libklvanc.Scte104.Accepted
import Libklvanc.Bitstream.RoundTrip
import Libklvanc.Bitstream.Refinement
import Libklvanc.Foundation.Keyed
import Libklvanc.Core.Cache
import Libklvanc.Services.FixedEncode
import Libklvanc.Services.ServiceWords
import Libklvanc.Services.FixedRoundTrip
import Libklvanc.Core.Corruption
import Libklvanc.Services.MetadataFrames
import Libklvanc.Core.Pixels
import Libklvanc.Foundation.Overlay
import Libklvanc.Core.PixelLayout
import Libklvanc.Core.PixelRoundTrip
import Libklvanc.Core.LinePacking
import Libklvanc.Core.LineSet
import Libklvanc.Services.FrameRate
import Libklvanc.Scte104.AddOperation
import Libklvanc.Core.PixelAgreement
import Libklvanc.Core.LineRegeneration
import Libklvanc.Core.RateLimiter
import Libklvanc.Foundation.RingWindow
import Libklvanc.Foundation.Runs
import Libklvanc.Tools.RingBuffer
import Libklvanc.Tools.RingQueue
import Libklvanc.Tools.PesExtractor
import Libklvanc.Tools.PesQueue
import Libklvanc.Tools.PesSafety
import Libklvanc.Foundation.FrameScan
import Libklvanc.Tools.PesScan
import Libklvanc.Services.Truncation
import Libklvanc.Core.ChecksumLoop
import Libklvanc.Tools.TsPacketizer
import Libklvanc.Tools.Transport
import Libklvanc.Tools.Smpte2038Receiver
import Libklvanc.Core.LineRuns
import Libklvanc.Core.LineStatistics
import Libklvanc.Scte104.Stream
import Libklvanc.Foundation.RecordFile
import Libklvanc.Tools.VancAnalyzer
import Libklvanc.Tools.VancCapture
import Libklvanc.Core.Blocks
import Libklvanc.Core.BlockLifetime
import Libklvanc.Services.Reencode
import Libklvanc.Services.St370
import Libklvanc.Tools.ReceiverBlocks
