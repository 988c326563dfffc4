import SchemaCatalog.Text.Utf8
import SchemaCatalog.Text.Hex
import SchemaCatalog.Checksum
import SchemaCatalog.Duration
import SchemaCatalog.SchemaId
import SchemaCatalog.Key
import SchemaCatalog.Lru
import SchemaCatalog.Retry
import SchemaCatalog.Mapping
import SchemaCatalog.Flight
import SchemaCatalog.Binary64
import SchemaCatalog.Json.Basic
import SchemaCatalog.Json.Number
import SchemaCatalog.Json.Reader
import SchemaCatalog.Json.Writer
import SchemaCatalog.Envelope
import SchemaCatalog.Event
import SchemaCatalog.RegistryPath
import SchemaCatalog.Text.Printable
import SchemaCatalog.Text.Quoted
import SchemaCatalog.Url.Basic
import SchemaCatalog.Url.Escape
import SchemaCatalog.Url.Ipv4
import SchemaCatalog.Url.Ipv6
import SchemaCatalog.Url.Domain
import SchemaCatalog.Url.Host
import SchemaCatalog.Url.Reader
import SchemaCatalog.Yaml.Cursor
import SchemaCatalog.Yaml.Quoted
import SchemaCatalog.Yaml.Token
import SchemaCatalog.Yaml.Block
import SchemaCatalog.Yaml.Plain
import SchemaCatalog.Yaml.Tag
import SchemaCatalog.Yaml.Lexer
import SchemaCatalog.Yaml.Document
import SchemaCatalog.Config.Basic
import SchemaCatalog.Config.Limits
import SchemaCatalog.Config.Placeholder
import SchemaCatalog.Config.Reading
import SchemaCatalog.Config.Loading
import SchemaCatalog.Config.Object
import SchemaCatalog.RegistryUrl
import SchemaCatalog.Catalog.Group
import SchemaCatalog.Catalog.Scheduler
import SchemaCatalog.CommandLine.Arguments
import SchemaCatalog.CommandLine.Basic
import SchemaCatalog.CommandLine.Run
import SchemaCatalog.Main
import SchemaCatalog.Proofs.Flight.Standing
import SchemaCatalog.Proofs.Flight.Traffic
import SchemaCatalog.Proofs.Flight.Session
import SchemaCatalog.Proofs.Flight.Slots
import SchemaCatalog.Proofs.Flight.Fate
import SchemaCatalog.Proofs.Lru.Calls
import SchemaCatalog.Proofs.Lru.Stamps
import SchemaCatalog.Proofs.Lru.Inclusion
import SchemaCatalog.Proofs.Handler.Own
import SchemaCatalog.Proofs.Retry.Delay
import SchemaCatalog.Proofs.Retry.Backoff
import SchemaCatalog.Proofs.Text.Percent
import SchemaCatalog.Proofs.Registry.Paths
import SchemaCatalog.Proofs.Config.Pieces
import SchemaCatalog.Proofs.Json.Grammar
import SchemaCatalog.Proofs.Json.Texts
import SchemaCatalog.Proofs.Json.Numbers
import SchemaCatalog.Proofs.Run.Basic
import SchemaCatalog.Proofs.Run.Requests
import SchemaCatalog.Proofs.Run.Direction
import SchemaCatalog.Proofs.Run.Moves
import SchemaCatalog.Proofs.Run.Sound
import SchemaCatalog.Proofs.Run.Bare
import SchemaCatalog.Proofs.Run.Attempts
import SchemaCatalog.Proofs.Run.Clock
import SchemaCatalog.Proofs.Run.Waiting
import SchemaCatalog.Proofs.Run.Returns
import SchemaCatalog.Proofs.Run.Mappings
import SchemaCatalog.Proofs.Run.Permanence
import SchemaCatalog.Proofs.Run.Provenance
import SchemaCatalog.Proofs.Run.Schedule
import SchemaCatalog.Proofs.Run.Reports
import SchemaCatalog.Proofs.Run.Freshness
import SchemaCatalog.Proofs.Run.Turns
import SchemaCatalog.Proofs.Run.Settling
import SchemaCatalog.Proofs.Envelope.RoundTrip
import SchemaCatalog.Proofs.Envelope.Staging
import SchemaCatalog.Proofs.Envelope.Reading
import SchemaCatalog.Proofs.Run.LocalTier
import SchemaCatalog.Proofs.Run.Fallback
import SchemaCatalog.Proofs.Run.Outstanding
import SchemaCatalog.Proofs.Run.Tasks
import SchemaCatalog.Proofs.Run.Unwedged
import SchemaCatalog.Proofs.Run.Lookups
import SchemaCatalog.Proofs.Run.Cell
import SchemaCatalog.Proofs.Run.Alone
import SchemaCatalog.Proofs.Run.Isolation
import SchemaCatalog.Proofs.Json.Values
import SchemaCatalog.Proofs.Binary64.Rounding
import SchemaCatalog.Proofs.Json.Range
import SchemaCatalog.Proofs.Registry.Answers
import SchemaCatalog.Proofs.Envelope.Counts
import SchemaCatalog.Proofs.Registry.Resolution
import SchemaCatalog.Proofs.Run.Formed
import SchemaCatalog.Proofs.Config.Loading
import SchemaCatalog.Proofs.Retry.History
import SchemaCatalog.Proofs.Retry.Opening
import SchemaCatalog.Proofs.Key.Sets
import SchemaCatalog.Proofs.Text.Hex
import SchemaCatalog.Proofs.Text.Decimal
import SchemaCatalog.Proofs.CommandLine.Inspect
import SchemaCatalog.Proofs.Config.Durations
