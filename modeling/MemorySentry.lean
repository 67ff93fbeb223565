import MemorySentry.Main
import MemorySentry.Page.Cache
import MemorySentry.Pool.Command
import MemorySentry.Program.EntryPoint
import MemorySentry.Program.Startup
import MemorySentry.SpanMap.Command
import MemorySentry.Proofs.Span
import MemorySentry.Proofs.Since
import MemorySentry.Proofs.Results
import MemorySentry.Proofs.SpanMap.Tree
import MemorySentry.Proofs.SpanMap.Splay
import MemorySentry.Proofs.SpanMap.Traversal
import MemorySentry.Proofs.SpanMap.Vacancy
import MemorySentry.Proofs.SpanMap.Operations
import MemorySentry.Proofs.SpanMap.Refinement
import MemorySentry.Proofs.SpanMap.Contract
import MemorySentry.Proofs.Pool.Objects
import MemorySentry.Proofs.Pool.Mutation
import MemorySentry.Proofs.Pool.Validity
import MemorySentry.Proofs.Pool.Storage
import MemorySentry.Proofs.Pool.Intake
import MemorySentry.Proofs.Pool.Refinement
import MemorySentry.Proofs.Pool.Equivalence
import MemorySentry.Proofs.Pool.Family
import MemorySentry.Proofs.Pool.Window
import MemorySentry.Proofs.Pool.Merging
import MemorySentry.Proofs.Pool.AtHand
import MemorySentry.Proofs.Pool.Retention
import MemorySentry.Proofs.Monitor.Operations
import MemorySentry.Proofs.Monitor.Reporting
import MemorySentry.Proofs.Pool.Ownership
import MemorySentry.Proofs.Monitor.Legality
import MemorySentry.Proofs.Pool.Renumbering
import MemorySentry.Proofs.Monitor.Isolation
import MemorySentry.AlertLog.Command
import MemorySentry.Proofs.AlertLog.Policy
import MemorySentry.Proofs.Monitor.Fallback
import MemorySentry.Proofs.Monitor.Sites
import MemorySentry.Proofs.Program.Places
import MemorySentry.Proofs.Json.Fields
import MemorySentry.Proofs.Json.Records
import MemorySentry.Proofs.AlertLog.Budget
import MemorySentry.Proofs.RunLog.Validation
import MemorySentry.Proofs.Trace.Replay
import MemorySentry.Proofs.Trace.Operations
import MemorySentry.Proofs.Trace.Relabelling
import MemorySentry.Proofs.Trace.Summary
import MemorySentry.Page.Command
import MemorySentry.Proofs.Page.Run
import MemorySentry.Proofs.Page.Conservation
import MemorySentry.Proofs.Page.ByteCounts
import MemorySentry.Proofs.Text.Utf8
import MemorySentry.Proofs.Json.Tokens
import MemorySentry.Proofs.Json.Texts
import MemorySentry.Proofs.Json.RoundTrip
import MemorySentry.Proofs.RunLog.Emission
import MemorySentry.Proofs.RunLog.Lines
import MemorySentry.Proofs.Trace.Log
import MemorySentry.Proofs.AlertLog.JsonLines
import MemorySentry.Proofs.RunLog.RoundTrip
import MemorySentry.Proofs.Monitor.Exchange
import MemorySentry.Proofs.Monitor.UnknownPools
import MemorySentry.Proofs.Program.Descriptors
import MemorySentry.Proofs.Pool.Bytes
import MemorySentry.Proofs.Pool.Verdicts
import MemorySentry.Proofs.Monitor.Reachability
import MemorySentry.Proofs.Monitor.Strictness
import MemorySentry.Proofs.Pool.Frees
import MemorySentry.Proofs.Pool.Registering
import MemorySentry.Proofs.Pool.Agreement
import MemorySentry.Proofs.Monitor.Verdicts
import MemorySentry.Proofs.Pool.Releasing
import MemorySentry.Proofs.Pool.Quarantine
import MemorySentry.Proofs.Pool.Moving
import MemorySentry.Proofs.Allocator.Table
import MemorySentry.Proofs.Monitor.Allocations
import MemorySentry.Proofs.Monitor.Strings
import MemorySentry.Proofs.Trace.Labels
import MemorySentry.Proofs.Monitor.Views
import MemorySentry.Proofs.Monitor.Aliasing
import MemorySentry.Proofs.Program.Installation
import MemorySentry.Proofs.Text.Numerals
import MemorySentry.Proofs.Json.Literals
import MemorySentry.Proofs.Trace.Addresses
import MemorySentry.Proofs.Settings
import MemorySentry.Proofs.SpanMap.Neighbour
import MemorySentry.Proofs.SpanMap.Slots
import MemorySentry.Proofs.Pool.Turnover
import MemorySentry.Proofs.Pool.Hits
import MemorySentry.Proofs.Monitor.Counting
