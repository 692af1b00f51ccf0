import DocSieve.Chain.Action
import DocSieve.Chain.Basic
import DocSieve.Chain.Channel
import DocSieve.Chain.Spot
import DocSieve.Chain.Stage
import DocSieve.Chain.Turns
import DocSieve.CommandLine.Argument
import DocSieve.CommandLine.Events
import DocSieve.CommandLine.Flags
import DocSieve.CommandLine.Help
import DocSieve.CommandLine.Results
import DocSieve.CommandLine.Run
import DocSieve.CommandLine.Settings
import DocSieve.Config.Basic
import DocSieve.Config.Json
import DocSieve.Config.Reader
import DocSieve.Config.Toml
import DocSieve.Document.Basic
import DocSieve.Document.Json
import DocSieve.Embedding.Basic
import DocSieve.Embedding.Hash
import DocSieve.Embedding.Vector
import DocSieve.Fault.Basic
import DocSieve.Fault.Os
import DocSieve.Files.Tree
import DocSieve.Files.Window
import DocSieve.Format
import DocSieve.Generator.Pacer
import DocSieve.Generator.Random
import DocSieve.Generator.Window
import DocSieve.Index.Basic
import DocSieve.Json.Basic
import DocSieve.Json.Format
import DocSieve.Json.Number
import DocSieve.Json.Parser
import DocSieve.Json.Printer
import DocSieve.Log.Event
import DocSieve.Log.Filter
import DocSieve.Log.Pattern
import DocSieve.Main
import DocSieve.Metrics.Board
import DocSieve.Metrics.Json
import DocSieve.Metrics.Recorder
import DocSieve.Metrics.Snapshot
import DocSieve.Metrics.Timestamp
import DocSieve.Numeric.Binary
import DocSieve.Numeric.Decimal
import DocSieve.Numeric.Shortest
import DocSieve.Numeric.Style
import DocSieve.Ranking.Basic
import DocSieve.Ranking.Halves
import DocSieve.Ranking.Runs
import DocSieve.Sieve.Basic
import DocSieve.Sieve.Collection
import DocSieve.Sieve.Parcel
import DocSieve.Sieve.Run
import DocSieve.Signal
import DocSieve.Text.Alphabetic
import DocSieve.Text.Blank
import DocSieve.Text.CodeSet
import DocSieve.Text.Hexadecimal
import DocSieve.Text.Lowercase
import DocSieve.Text.Numeric
import DocSieve.Text.Printable
import DocSieve.Text.Quoted
import DocSieve.Text.Record
import DocSieve.Text.Terms
import DocSieve.Text.Utf8
import DocSieve.Toml.Basic
import DocSieve.Toml.Lexeme
import DocSieve.Toml.Parser
import DocSieve.Toml.Table
import DocSieve.Proofs.Chain.Advance
import DocSieve.Proofs.Chain.Scene
import DocSieve.Proofs.Chain.Settled
import DocSieve.Proofs.Chain.Account
import DocSieve.Proofs.Chain.Sound
import DocSieve.Proofs.Chain.Conservation
import DocSieve.Proofs.Chain.Tally
import DocSieve.Proofs.Chain.Closing
import DocSieve.Proofs.Chain.Cancellation
import DocSieve.Proofs.Chain.Calm
import DocSieve.Proofs.Chain.Composition
import DocSieve.Proofs.Chain.Rest
import DocSieve.Proofs.Chain.Unwinding
import DocSieve.Proofs.Chain.Order
import DocSieve.Proofs.Chain.Backpressure
import DocSieve.Proofs.Numeric.Order
import DocSieve.Proofs.Numeric.Packing
import DocSieve.Proofs.Numeric.Rounding
import DocSieve.Proofs.Numeric.Arithmetic
import DocSieve.Proofs.Numeric.Accumulation
import DocSieve.Proofs.Embedding.Counts
import DocSieve.Proofs.Embedding.Length
import DocSieve.Proofs.Index.Nearest
import DocSieve.Proofs.Index.Submission
import DocSieve.Proofs.Index.Decisions
import DocSieve.Proofs.Index.Separation
import DocSieve.Proofs.Index.Repetition
import DocSieve.Proofs.Ranking.Insertion
import DocSieve.Proofs.Ranking.Members
import DocSieve.Proofs.Chain.Sharing
import DocSieve.Proofs.Chain.Delivery
import DocSieve.Proofs.Sieve.Stages
import DocSieve.Proofs.Sieve.Starting
import DocSieve.Proofs.Sieve.Refinement
import DocSieve.Proofs.Sieve.Accounting
import DocSieve.Proofs.Index.Lookup
import DocSieve.Proofs.Generator.Schedule
import DocSieve.Proofs.Generator.Stream
import DocSieve.Proofs.Chain.Bookkeeping
import DocSieve.Proofs.Chain.Energy
import DocSieve.Proofs.Chain.Single
import DocSieve.Proofs.Chain.Confluence
import DocSieve.Proofs.Chain.Exhaustion
import DocSieve.Proofs.Generator.Window
import DocSieve.Proofs.Files.Window
import DocSieve.Proofs.Json.Text
import DocSieve.Proofs.Json.Numeral
import DocSieve.Proofs.Json.Number
import DocSieve.Proofs.Json.RoundTrip
import DocSieve.Proofs.Json.Record
import DocSieve.Proofs.Json.Types
import DocSieve.Proofs.Metrics.Board
import DocSieve.Proofs.Metrics.Latency
import DocSieve.Proofs.Metrics.Recording
import DocSieve.Proofs.Config.Settings
import DocSieve.Proofs.Numeric.Nearest
import DocSieve.Proofs.Numeric.Separation
import DocSieve.Proofs.Numeric.Shortest
import DocSieve.Proofs.Numeric.Double
import DocSieve.Proofs.Numeric.NotANumber
import DocSieve.Proofs.Json.Scaling
import DocSieve.Proofs.Json.Lexeme
import DocSieve.Proofs.Json.Single
import DocSieve.Proofs.Json.Rereading
import DocSieve.Proofs.CommandLine.Lines
import DocSieve.Proofs.Signal.Kinship
import DocSieve.Proofs.Index.Exactness
import DocSieve.Proofs.Index.Admission
import DocSieve.Proofs.Sieve.Collection
import DocSieve.Proofs.Index.TopHits
import DocSieve.Proofs.Index.ZeroVector
import DocSieve.Proofs.Generator.Draws
import DocSieve.Proofs.Generator.Pacing
import DocSieve.Proofs.Text.Utf8
import DocSieve.Proofs.Files.Cuts
import DocSieve.Proofs.Text.Lowercase
import DocSieve.Proofs.Text.Runs
import DocSieve.Proofs.Text.Terms
import DocSieve.Proofs.Embedding.Hash
import DocSieve.Proofs.Numeric.Integers
import DocSieve.Proofs.Embedding.Tally
import DocSieve.Proofs.Embedding.Parity
