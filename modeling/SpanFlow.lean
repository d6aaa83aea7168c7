import SpanFlow.Assoc
import SpanFlow.Attribute
import SpanFlow.Context.Basic
import SpanFlow.Context.Entries
import SpanFlow.Context.Scope
import SpanFlow.Decimal.Positional
import SpanFlow.Decimal.Shortest
import SpanFlow.Diagnostic
import SpanFlow.Event
import SpanFlow.Id
import SpanFlow.Propagation.Carrier
import SpanFlow.Propagation.Jaeger
import SpanFlow.Propagation.Propagator
import SpanFlow.Recording.Exporter
import SpanFlow.Recording.IdSource
import SpanFlow.Recording.Lifetime
import SpanFlow.Recording.Limits
import SpanFlow.Recording.Provider
import SpanFlow.Recording.Sampler
import SpanFlow.Recording.Span
import SpanFlow.Recording.SpanData
import SpanFlow.Recording.Telemetry
import SpanFlow.Script.Action
import SpanFlow.Script.Carrying
import SpanFlow.Script.Contexts
import SpanFlow.Script.Propagation
import SpanFlow.Script.Providers
import SpanFlow.Script.Run
import SpanFlow.Script.Spans
import SpanFlow.Script.StandIn
import SpanFlow.Script.Step
import SpanFlow.Session.World
import SpanFlow.SpanContext
import SpanFlow.Status
import SpanFlow.Text.Blank
import SpanFlow.Text.CaseTable
import SpanFlow.Text.Description
import SpanFlow.Text.Fields
import SpanFlow.Text.Hex
import SpanFlow.Text.Lowercase
import SpanFlow.Text.Numeral
import SpanFlow.Text.Order
import SpanFlow.Text.Percent
import SpanFlow.Text.Printable
import SpanFlow.Text.Quoted
import SpanFlow.Text.Slice
import SpanFlow.Text.Utf8
import SpanFlow.TraceFlags
import SpanFlow.TraceState.Basic
import SpanFlow.TraceState.Header
import SpanFlow.TraceState.Key
import SpanFlow.Proofs.Context.Derivation
import SpanFlow.Proofs.Recording.Log
import SpanFlow.Proofs.Session.Nesting
import SpanFlow.Proofs.Recording.Acts
import SpanFlow.Proofs.Recording.Told
import SpanFlow.Proofs.Recording.Ledger
import SpanFlow.Proofs.Recording.Delivery
import SpanFlow.Proofs.Recording.Handles
import SpanFlow.Proofs.Recording.Closing
import SpanFlow.Proofs.Session.Backing
import SpanFlow.Proofs.Script.Reading
import SpanFlow.Proofs.Script.Running
import SpanFlow.Proofs.Script.Backing
import SpanFlow.Proofs.Script.Shutdowns
import SpanFlow.Proofs.Text.Numerals
import SpanFlow.Proofs.Propagation.HeaderGrammar
import SpanFlow.Proofs.Propagation.HeaderRoundTrip
import SpanFlow.Proofs.Propagation.TraceChain
import SpanFlow.Proofs.Session.Intact
import SpanFlow.Proofs.Script.Quiet
import SpanFlow.Proofs.Script.Lasting
import SpanFlow.Proofs.Script.Heeding
import SpanFlow.Proofs.Script.Layers
import SpanFlow.Proofs.Script.Capturing
import SpanFlow.Proofs.Script.Persisting
import SpanFlow.Proofs.Script.Plays
import SpanFlow.Proofs.Script.Carried
import SpanFlow.Proofs.TraceState.Members
import SpanFlow.Proofs.TraceState.Rereading
import SpanFlow.Proofs.Session.OutOfTurn
import SpanFlow.Proofs.Session.Isolation
import SpanFlow.Proofs.Script.Moving
import SpanFlow.Proofs.Propagation.Flattening
import SpanFlow.Proofs.Propagation.ListedNames
import SpanFlow.Proofs.Recording.Exchanges
import SpanFlow.Proofs.Recording.Answers
import SpanFlow.Proofs.Recording.Lives
import SpanFlow.Proofs.Session.Returning
import SpanFlow.Proofs.Session.Calling
import SpanFlow.Proofs.Script.CallTrees
import SpanFlow.Proofs.Script.Neatness
import SpanFlow.Proofs.Script.Tidying
import SpanFlow.Proofs.Recording.Calls
import SpanFlow.Proofs.Recording.Attributes
import SpanFlow.Proofs.Recording.Additions
import SpanFlow.Proofs.Recording.InvalidParents
import SpanFlow.Proofs.TraceState.Characters
import SpanFlow.Proofs.TraceState.Acceptance
import SpanFlow.Proofs.Propagation.Extraction
import SpanFlow.Proofs.Session.Stacking
import SpanFlow.Proofs.Text.Bytes
import SpanFlow.Proofs.TraceState.KeyForm
import SpanFlow.Proofs.TraceState.KeyGrammar
import SpanFlow.Proofs.Recording.Statuses
import SpanFlow.Proofs.Context.Sharing
import SpanFlow.Proofs.Session.Instances
import SpanFlow.Proofs.Script.Instances
import SpanFlow.Proofs.Identity.Spelling
import SpanFlow.Proofs.Recording.LimitSources
import SpanFlow.Proofs.Recording.Sampling
import SpanFlow.Proofs.Text.Lowercase
import SpanFlow.Proofs.Propagation.CarrierNames
import SpanFlow.Proofs.Text.Truncation
