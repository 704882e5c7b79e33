import Streaming.Foundation.Resumable
import Streaming.Network.FlatBuffer
import Streaming.Foundation.Exit
import Streaming.Rtmp.Packet
import Streaming.Rtmp.Send
import Streaming.Rtmp.Protocol
import Streaming.Rtmp.Segmentation
import Streaming.Rtmp.Session
import Streaming.Rtmp.ChunkStream
import Streaming.Rtmp.Handling
import Streaming.Rtmp.Demultiplexing
import Streaming.Foundation.Run
import Streaming.Media.Fanout
import Streaming.Media.Membership
import Streaming.Network.Session
import Streaming.Codec.Tracks
import Streaming.Rtmp.Amf
import Streaming.Foundation.Fault
import Streaming.Rtmp.Demuxer
import Streaming.Rtmp.MediaSource
import Streaming.Rtmp.Feed
import Streaming.Flv.Muxer
import Streaming.Flv.Relay
import Streaming.Flv.AsyncMuxer
import Streaming.Foundation.NestedMap
import Streaming.Media.MediaInfo
import Streaming.Media.Registry
import Streaming.Rtmp.Publish
import Streaming.Rtmp.Ownership
import Streaming.Rtmp.Filing
import Streaming.Rtmp.Exclusivity
import Streaming.Rtmp.TurnedAway
import Streaming.Flv.OnAir
import Streaming.Flv.LateJoin
import Streaming.Flv.Viewing
import Streaming.Flv.Configuration
import Streaming.Rtmp.Audience
import Streaming.Http.FlvHeader
import Streaming.Http.StreamNames
import Streaming.Http.Framing
import Streaming.Http.Session
import Streaming.Rtmp.SourcePointers
import Streaming.Rtmp.Playable
import Streaming.Http.Responses
import Streaming.Rtmp.Writing
import Streaming.Rtmp.AmfDecoder
import Streaming.Rtmp.Messages
import Streaming.Rtmp.Leftover
import Streaming.Rtmp.SentChunks
import Streaming.Rtmp.Assembly
import Streaming.Rtmp.Completion
import Streaming.Rtmp.Counting
import Streaming.Foundation.Checked
import Streaming.Rtmp.Bounds
import Streaming.Foundation.Amf0
import Streaming.Rtmp.SentMetadata
import Streaming.Rtmp.ReadMetadata
import Streaming.Rtmp.KeptMetadata
import Streaming.Rtmp.Answers
import Streaming.Foundation.Agreement
import Streaming.Rtmp.Indeterminate
import Streaming.Rtmp.AmfScalars
import Streaming.Foundation.Refinement
import Streaming.Rtmp.AmfObjects
import Streaming.Network.ByteQueue
import Streaming.Network.Prepend
import Streaming.Network.ReadDestination
import Streaming.Codec.Adts
import Streaming.Foundation.LengthPrefixed
import Streaming.Rtmp.AdtsFrames
import Streaming.Rtmp.NalUnits
import Streaming.Codec.AvcConfig
import Streaming.Http.RequestLine
import Streaming.Http.Teardown
import Streaming.Foundation.Ownership
import Streaming.Network.BufferRaw
import Streaming.Util.ResourcePool
import Streaming.Network.TcpServer
import Streaming.Http.ResponseWrites
import Streaming.Rtmp.SendWindow
import Streaming.Foundation.Loop
import Streaming.Network.CheckedReads
import Streaming.Rtmp.DecodingEnds
import Streaming.Foundation.Bits
import Streaming.Foundation.BitReading
import Streaming.Foundation.ExpGolomb
import Streaming.Codec.SpsReader
import Streaming.Codec.GolombCodes
import Streaming.Codec.EmulationPrevention
import Streaming.Codec.SpsParser
import Streaming.Codec.SpsSafety
import Streaming.Codec.SpsSyntax
import Streaming.Codec.SpsRoundTrip
import Streaming.Codec.SpsTrack
import Streaming.Rtmp.Commands
import Streaming.Rtmp.Dialogue
import Streaming.Rtmp.Exchange
import Streaming.Rtmp.Conversation
import Streaming.Rtmp.HandedOver
import Streaming.Flv.Broadcast
