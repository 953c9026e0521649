import Hashgate.Base64
import Hashgate.Calendar
import Hashgate.Challenge
import Hashgate.Client
import Hashgate.Config.Client
import Hashgate.Config.Gate
import Hashgate.Config.Server
import Hashgate.Config.Settings
import Hashgate.Dialogue
import Hashgate.Digest.LeadingZeros
import Hashgate.Digest.Sha256
import Hashgate.Downstream
import Hashgate.Error.Failure
import Hashgate.Error.Gate
import Hashgate.Error.Io
import Hashgate.Error.Kind
import Hashgate.Gate.Basic
import Hashgate.Gate.Submission
import Hashgate.Header.Basic
import Hashgate.Header.Fault
import Hashgate.Json.Number
import Hashgate.Json.ReadError
import Hashgate.Json.Reader
import Hashgate.Json.Record
import Hashgate.Json.Text
import Hashgate.Json.Value
import Hashgate.Log
import Hashgate.Main
import Hashgate.Quote.Basic
import Hashgate.Quote.Bundled
import Hashgate.Quote.File
import Hashgate.Quote.Service
import Hashgate.Quote.Store
import Hashgate.Server.AcceptLoop
import Hashgate.Server.Address
import Hashgate.Server.Clients
import Hashgate.Server.Latch
import Hashgate.Server.Sessions
import Hashgate.Session.Basic
import Hashgate.Session.Live
import Hashgate.Session.Report
import Hashgate.Session.Signal
import Hashgate.Solution
import Hashgate.Stream
import Hashgate.Text.Decimal
import Hashgate.Text.Fields
import Hashgate.Text.Hex
import Hashgate.Text.Quoted
import Hashgate.Text.Shortest
import Hashgate.Text.Unprintable
import Hashgate.Text.Utf8
import Hashgate.Token
import Hashgate.Proofs.Reading
import Hashgate.Proofs.Text.Decimal
import Hashgate.Proofs.Text.Fields
import Hashgate.Proofs.Text.Utf8
import Hashgate.Proofs.Text.Lossy
import Hashgate.Proofs.Base64
import Hashgate.Proofs.Text.Ascii
import Hashgate.Proofs.Calendar
import Hashgate.Proofs.Digest.LeadingZeros
import Hashgate.Proofs.Digest.Expansion
import Hashgate.Proofs.Header.Grammar
import Hashgate.Proofs.Header.RoundTrip
import Hashgate.Proofs.Solution
import Hashgate.Proofs.Judging
import Hashgate.Proofs.Mining
import Hashgate.Proofs.Session.Basic
import Hashgate.Proofs.Session.Waiting
import Hashgate.Proofs.Session.Writing
import Hashgate.Proofs.Session.Speech
import Hashgate.Proofs.Session.Observation
import Hashgate.Proofs.Session.Deafness
import Hashgate.Proofs.Session.Usage
import Hashgate.Proofs.Session.Accounting
import Hashgate.Proofs.Session.Promptness
import Hashgate.Proofs.Gate.Speech
import Hashgate.Proofs.Gate.Course
import Hashgate.Proofs.Gate.Promptness
import Hashgate.Proofs.Gate.Discipline
import Hashgate.Proofs.Gate.Admission
import Hashgate.Proofs.Gate.Conversation
import Hashgate.Proofs.Gate.Race
import Hashgate.Proofs.Gate.Duration
import Hashgate.Proofs.Gate.Calm
import Hashgate.Proofs.Gate.Failing
import Hashgate.Proofs.Gate.Nesting
import Hashgate.Proofs.Challenge
import Hashgate.Proofs.Config.Gate
import Hashgate.Proofs.Issuing
import Hashgate.Proofs.Quote.Store
import Hashgate.Proofs.Quote.Service
import Hashgate.Proofs.Session.Free
import Hashgate.Proofs.Client
import Hashgate.Proofs.Dialogue.Rounds
import Hashgate.Proofs.Dialogue.Honest
import Hashgate.Proofs.Dialogue.Sides
import Hashgate.Proofs.Gate.Blame
import Hashgate.Proofs.Gate.Replay
import Hashgate.Proofs.Server.Steps
import Hashgate.Proofs.Server.Isolation
import Hashgate.Proofs.Server.Latch
import Hashgate.Proofs.Server.AcceptLoop
import Hashgate.Proofs.Server.Sessions
import Hashgate.Proofs.Server.Accepting
import Hashgate.Proofs.Text.Pieces
import Hashgate.Proofs.Submission
import Hashgate.Proofs.Text.Canonical
import Hashgate.Proofs.Header.Spelling
import Hashgate.Proofs.Satisfiability
import Hashgate.Proofs.Gate.Opening
import Hashgate.Proofs.Header.Dates
import Hashgate.Proofs.Config.Server
import Hashgate.Proofs.Quote.Telling
import Hashgate.Proofs.Json.Reader
import Hashgate.Proofs.Json.Text
import Hashgate.Proofs.Json.Number
import Hashgate.Proofs.Json.Value
import Hashgate.Proofs.Json.Record
import Hashgate.Proofs.Quote.File
