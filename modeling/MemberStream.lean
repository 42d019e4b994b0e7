import MemberStream.Bits.Decoder
import MemberStream.Bits.Huffman
import MemberStream.Bits.Packing
import MemberStream.Bits.Stream
import MemberStream.Bytes
import MemberStream.Checksum.Crc32
import MemberStream.Checksum.XxHash
import MemberStream.Codec.Appending
import MemberStream.Codec.Encoders
import MemberStream.Codec.Error
import MemberStream.Codec.Member
import MemberStream.Codec.Placeholder
import MemberStream.Codec.Survey
import MemberStream.Decimal.Binary
import MemberStream.Decimal.Fixed
import MemberStream.Decimal.Shortest
import MemberStream.Deflate.Code
import MemberStream.Deflate.Encode
import MemberStream.Deflate.Framing
import MemberStream.Deflate.Gzip
import MemberStream.Deflate.Inflate
import MemberStream.Deflate.Member
import MemberStream.Engine.Basic
import MemberStream.Engine.Member
import MemberStream.Engine.Rationed
import MemberStream.Engine.Recorded
import MemberStream.Error.Basic
import MemberStream.Error.Label
import MemberStream.Error.Status
import MemberStream.Json.Decode
import MemberStream.Json.Lexer
import MemberStream.Json.Print
import MemberStream.Json.Skip
import MemberStream.Lz.History
import MemberStream.Lz.Parse
import MemberStream.Lz4.Block
import MemberStream.Lz4.Frame
import MemberStream.Lz4.Header
import MemberStream.Parameter.Domain
import MemberStream.Parameter.Lookup
import MemberStream.Parameter.Option
import MemberStream.Parameter.Set
import MemberStream.Proofs.Basic
import MemberStream.Proofs.Batches
import MemberStream.Proofs.Bits.Accepted
import MemberStream.Proofs.Bits.Carrying
import MemberStream.Proofs.Bits.Cutting
import MemberStream.Proofs.Bits.Packed
import MemberStream.Proofs.Bits.Ranges
import MemberStream.Proofs.Bits.Reading
import MemberStream.Proofs.Bits.Reads
import MemberStream.Proofs.Bits.SelfDelimiting
import MemberStream.Proofs.Codec.Boundary
import MemberStream.Proofs.Codec.Damage
import MemberStream.Proofs.Codec.Encoders
import MemberStream.Proofs.Codec.Indexing
import MemberStream.Proofs.Codec.Joined
import MemberStream.Proofs.Codec.Limiting
import MemberStream.Proofs.Codec.RoundTrip
import MemberStream.Proofs.Codec.Unpack
import MemberStream.Proofs.Deflate.Acceptance
import MemberStream.Proofs.Deflate.Bodies
import MemberStream.Proofs.Deflate.Containers
import MemberStream.Proofs.Deflate.Delimiting
import MemberStream.Proofs.Deflate.FixedCodes
import MemberStream.Proofs.Discipline
import MemberStream.Proofs.Engine.Afresh
import MemberStream.Proofs.Engine.Answers
import MemberStream.Proofs.Engine.Attempts
import MemberStream.Proofs.Engine.Discipline
import MemberStream.Proofs.Engine.Ignoring
import MemberStream.Proofs.Engine.Member
import MemberStream.Proofs.Engine.Operating
import MemberStream.Proofs.Engine.Record
import MemberStream.Proofs.Engine.Requests
import MemberStream.Proofs.Engine.Sessions
import MemberStream.Proofs.Engine.Spending
import MemberStream.Proofs.Filtering
import MemberStream.Proofs.Growing
import MemberStream.Proofs.Growth
import MemberStream.Proofs.Handing
import MemberStream.Proofs.Limiting
import MemberStream.Proofs.Lz.Replay
import MemberStream.Proofs.Lz4.Acceptance
import MemberStream.Proofs.Lz4.Blocks
import MemberStream.Proofs.Lz4.Chains
import MemberStream.Proofs.Lz4.Delimiting
import MemberStream.Proofs.Lz4.Frames
import MemberStream.Proofs.Parameter.Acceptance
import MemberStream.Proofs.Parameter.Batch
import MemberStream.Proofs.Parameter.Denoting
import MemberStream.Proofs.Parameter.Overriding
import MemberStream.Proofs.Parameter.Settings
import MemberStream.Proofs.Parameter.Showing
import MemberStream.Proofs.Parameter.Staged
import MemberStream.Proofs.Reader.Ceiling
import MemberStream.Proofs.Reader.Damage
import MemberStream.Proofs.Reader.Discipline
import MemberStream.Proofs.Reader.Ending
import MemberStream.Proofs.Reader.Filling
import MemberStream.Proofs.Reader.Filtering
import MemberStream.Proofs.Reader.Fitting
import MemberStream.Proofs.Reader.Freezing
import MemberStream.Proofs.Reader.Gather
import MemberStream.Proofs.Reader.Growing
import MemberStream.Proofs.Reader.Ledger
import MemberStream.Proofs.Reader.Limiting
import MemberStream.Proofs.Reader.Loop
import MemberStream.Proofs.Reader.Operating
import MemberStream.Proofs.Reader.Past
import MemberStream.Proofs.Reader.Phases
import MemberStream.Proofs.Reader.Places
import MemberStream.Proofs.Reader.Refinement
import MemberStream.Proofs.Reader.Renewal
import MemberStream.Proofs.Reader.Reporting
import MemberStream.Proofs.Reader.Session
import MemberStream.Proofs.Reader.Showing
import MemberStream.Proofs.Reader.Slicing
import MemberStream.Proofs.Reader.Spending
import MemberStream.Proofs.Reader.Truncation
import MemberStream.Proofs.Reader.Unpacking
import MemberStream.Proofs.Renewal
import MemberStream.Proofs.Reporting
import MemberStream.Proofs.RoundTrip
import MemberStream.Proofs.Showing
import MemberStream.Proofs.Slice
import MemberStream.Proofs.Slicing
import MemberStream.Proofs.Telemetry.Filtering
import MemberStream.Proofs.Telemetry.Telling
import MemberStream.Proofs.Text.Written
import MemberStream.Proofs.Transport.Accepting
import MemberStream.Proofs.Transport.Received
import MemberStream.Proofs.Transport.Serving
import MemberStream.Proofs.Transport.Upstream
import MemberStream.Proofs.Transport.Watched
import MemberStream.Proofs.Writer.Absorbing
import MemberStream.Proofs.Writer.Blaming
import MemberStream.Proofs.Writer.Closing
import MemberStream.Proofs.Writer.Conservation
import MemberStream.Proofs.Writer.Conserves
import MemberStream.Proofs.Writer.Discipline
import MemberStream.Proofs.Writer.Faithful
import MemberStream.Proofs.Writer.Filtering
import MemberStream.Proofs.Writer.Frame
import MemberStream.Proofs.Writer.Freezing
import MemberStream.Proofs.Writer.Growing
import MemberStream.Proofs.Writer.Limiting
import MemberStream.Proofs.Writer.Marking
import MemberStream.Proofs.Writer.Opening
import MemberStream.Proofs.Writer.Operating
import MemberStream.Proofs.Writer.Options
import MemberStream.Proofs.Writer.Packing
import MemberStream.Proofs.Writer.Past
import MemberStream.Proofs.Writer.Phases
import MemberStream.Proofs.Writer.Reference
import MemberStream.Proofs.Writer.Renewal
import MemberStream.Proofs.Writer.Reporting
import MemberStream.Proofs.Writer.Retrying
import MemberStream.Proofs.Writer.Segments
import MemberStream.Proofs.Writer.Session
import MemberStream.Proofs.Writer.Showing
import MemberStream.Proofs.Writer.Slicing
import MemberStream.Proofs.Writer.Spending
import MemberStream.Proofs.Writer.Staging
import MemberStream.Proofs.Writer.Streams
import MemberStream.Proofs.Writer.Submit
import MemberStream.Proofs.Writer.Succession
import MemberStream.Proofs.Writer.Verdicts
import MemberStream.Proofs.Writer.Yielding
import MemberStream.Proofs.Zstd.Copies
import MemberStream.Proofs.Zstd.Delimiting
import MemberStream.Proofs.Zstd.Frames
import MemberStream.Proofs.Zstd.Headers
import MemberStream.Rehearsal.Engine
import MemberStream.Rehearsal.Log
import MemberStream.Rehearsal.Transport
import MemberStream.Stream.Growth
import MemberStream.Stream.Phase
import MemberStream.Stream.Reader
import MemberStream.Stream.Whole
import MemberStream.Stream.Writer
import MemberStream.Telemetry.Counters
import MemberStream.Telemetry.Snapshot
import MemberStream.Telemetry.Trace
import MemberStream.Text.Blank
import MemberStream.Text.Hex
import MemberStream.Text.Numeral
import MemberStream.Transport.Recorded
import MemberStream.Transport.Sink
import MemberStream.Transport.Source
import MemberStream.Zstd.Encode
import MemberStream.Zstd.Frame
import MemberStream.Zstd.Fse
import MemberStream.Zstd.Header
import MemberStream.Zstd.Literals
import MemberStream.Zstd.Sequence
