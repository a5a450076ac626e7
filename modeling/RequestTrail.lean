import RequestTrail.History
import RequestTrail.Operation
import RequestTrail.Record.Reader
import RequestTrail.Rehearsal
import RequestTrail.Proofs.Text.Search
import RequestTrail.Proofs.Text.Fields
import RequestTrail.Proofs.Text.Utf8
import RequestTrail.Proofs.Normalizer.Segments
import RequestTrail.Proofs.Normalizer.TokenEqual
import RequestTrail.Proofs.RoundTrip
import RequestTrail.Proofs.Script
import RequestTrail.Proofs.Client.Schedule
import RequestTrail.Proofs.Tracker.Log
import RequestTrail.Proofs.Tracker.Transparency
import RequestTrail.Proofs.Json.Quoted
import RequestTrail.Proofs.Json.Reads
import RequestTrail.Proofs.Json.Written
import RequestTrail.Proofs.Record.Json
import RequestTrail.Proofs.Client.HookFault
import RequestTrail.Proofs.UploadName
import RequestTrail.Proofs.Normalizer.Plain
import RequestTrail.Proofs.Normalizer.Settled
import RequestTrail.Proofs.Reported
import RequestTrail.Proofs.Normalizer.Becomes
import RequestTrail.Proofs.ObjectName
import RequestTrail.Proofs.Operation.Reader
import RequestTrail.Proofs.Operation.Lines
import RequestTrail.Proofs.Http.Verbatim
import RequestTrail.Proofs.Service
import RequestTrail.Proofs.Client.Interleaving
import RequestTrail.Proofs.Tracker.Interleaving
import RequestTrail.Proofs.Normalizer.Passes
import RequestTrail.Proofs.Normalizer.Clear
import RequestTrail.Proofs.Operation.Normalized
import RequestTrail.Proofs.Json.Grammar
import RequestTrail.Proofs.Json.Spelled
import RequestTrail.Proofs.Json.Complete
import RequestTrail.Proofs.Text.Blank
import RequestTrail.Proofs.Multipart.ContentType
import RequestTrail.Proofs.Multipart.Part
import RequestTrail.Proofs.Multipart.RoundTrip
import RequestTrail.Proofs.Json.Nesting
import RequestTrail.Proofs.Json.Closed
import RequestTrail.Proofs.Json.Syntax
import RequestTrail.Proofs.Multipart.Headers
import RequestTrail.Proofs.Multipart.Delimiter
import RequestTrail.Proofs.Multipart.Parameters
import RequestTrail.Proofs.Multipart.LineBreaks
import RequestTrail.Proofs.Text.WellFormed
import RequestTrail.Proofs.ObjectName.Form
import RequestTrail.Proofs.Http.Headers
import RequestTrail.Proofs.Record.Headers
import RequestTrail.Proofs.Client.Attempts
import RequestTrail.Proofs.Client.Waits
import RequestTrail.Proofs.Tracker.Chain
import RequestTrail.Proofs.Json.Levels
import RequestTrail.Proofs.Record.Shapes
import RequestTrail.Proofs.Record.Truncated
import RequestTrail.Proofs.Json.Skipped
import RequestTrail.Proofs.RootUrl.Domain
import RequestTrail.Proofs.RootUrl.Judged
import RequestTrail.Proofs.RootUrl.Kept
import RequestTrail.Proofs.Multipart.Span
