import Lineup.Channel.Basic
import Lineup.Channel.Canonical
import Lineup.Channel.Data
import Lineup.Channel.Error
import Lineup.Channel.Identity
import Lineup.Channel.Kind
import Lineup.Channel.Xr
import Lineup.Command.Arguments
import Lineup.Command.Check
import Lineup.Command.Outcome
import Lineup.Command.Run
import Lineup.Data.Basic
import Lineup.Data.Json
import Lineup.Digest.Md5
import Lineup.Document.Rendered
import Lineup.Document.Sessions
import Lineup.Extraction.Channel
import Lineup.Extraction.Check
import Lineup.Extraction.Consistency
import Lineup.Extraction.Endpoint
import Lineup.Extraction.Grouping
import Lineup.Extraction.MediaLine
import Lineup.Extraction.Role
import Lineup.Extraction.Streams
import Lineup.Extraction.Xr
import Lineup.Main
import Lineup.Net.Ipv4
import Lineup.Proofs.AddressMap
import Lineup.Proofs.Arena
import Lineup.Proofs.Extraction.Stages
import Lineup.Proofs.Registry.Fits
import Lineup.Proofs.Registry.Indexed
import Lineup.Proofs.Registry.Reached
import Lineup.Proofs.Registry.Seats
import Lineup.Proofs.Update.Replacement
import Lineup.Proofs.Update.Afresh
import Lineup.Proofs.Update.Staging
import Lineup.Registry.AddressMap
import Lineup.Registry.Arena
import Lineup.Registry.Basic
import Lineup.Registry.Error
import Lineup.Session.Basic
import Lineup.Session.Data
import Lineup.Session.Error
import Lineup.Session.Field
import Lineup.Session.Printer
import Lineup.Session.Reader
import Lineup.Settings.Basic
import Lineup.Settings.Data
import Lineup.Settings.LogLevel
import Lineup.Text.Columns
import Lineup.Text.Decimal
import Lineup.Text.Emoji
import Lineup.Text.Hidden
import Lineup.Text.Ligature
import Lineup.Text.Quoted
import Lineup.Text.Ranges
import Lineup.Text.Split
import Lineup.Text.Table
import Lineup.Text.White
import Lineup.Text.Width
import Lineup.Time.Instant
import Lineup.Toml.Document
import Lineup.Toml.Quoted
import Lineup.Toml.Scalar
import Lineup.Toml.Table
import Lineup.Update.Coordinator
import Lineup.Update.Manager
import Lineup.Update.Report
import Lineup.Proofs.Text.Numbers
import Lineup.Proofs.Session.Fields
import Lineup.Proofs.Session.Reading
import Lineup.Proofs.Session.Written
import Lineup.Proofs.Extraction.Endpoint
import Lineup.Proofs.Extraction.Media
import Lineup.Proofs.Extraction.Reports
import Lineup.Proofs.Extraction.Streams
import Lineup.Proofs.Extraction.Groups
import Lineup.Proofs.Extraction.Canonical
import Lineup.Proofs.Extraction.RoundTrip
import Lineup.Proofs.Document.Rendered
import Lineup.Proofs.Registry.Holds
import Lineup.Proofs.Update.Reload
import Lineup.Proofs.Extraction.Fingerprint
import Lineup.Proofs.Registry.Linked
import Lineup.Proofs.Update.Comparison
import Lineup.Proofs.Update.Versions
import Lineup.Proofs.Session.Grammar
import Lineup.Proofs.Session.Steps
import Lineup.Proofs.Extraction.Rules
import Lineup.Proofs.Extraction.Footprint
import Lineup.Proofs.Extraction.Positions
import Lineup.Proofs.Extraction.Reordering
import Lineup.Proofs.Registry.Alone
import Lineup.Proofs.Document.Joined
import Lineup.Proofs.Update.Tally
import Lineup.Proofs.Update.Order
import Lineup.Proofs.Update.Again
import Lineup.Proofs.Update.Generations
import Lineup.Proofs.Registry.Refusal
import Lineup.Proofs.Registry.Acceptance
import Lineup.Proofs.Update.Loose
import Lineup.Proofs.Update.Calls
import Lineup.Proofs.Update.Balance
import Lineup.Proofs.Command.Agreement
import Lineup.Proofs.Update.Attribution
import Lineup.Proofs.Update.Saving
import Lineup.Proofs.AddressMap.Ownership
import Lineup.Proofs.Arena.Journal
import Lineup.Proofs.Document.Framing
import Lineup.Proofs.Channel.Tokens
import Lineup.Proofs.Registry.Naming
