import Routectl.Aliases.Glob
import Routectl.Aliases.Resolve
import Routectl.Aliases.Validate
import Routectl.AnthropicApi.Agreement
import Routectl.AnthropicApi.Collecting
import Routectl.AnthropicApi.Serialization
import Routectl.AnthropicApi.Stream
import Routectl.AnthropicApi.Types
import Routectl.Attempt.Placed
import Routectl.Attempt.Placement
import Routectl.Attempt.Strip
import Routectl.Attempt.Stripped
import Routectl.Bedrock.Contract
import Routectl.Bedrock.Cuts
import Routectl.Bedrock.Delivery
import Routectl.Bedrock.Frame
import Routectl.Bedrock.Framing
import Routectl.Bedrock.Ledger
import Routectl.Bedrock.Progress
import Routectl.Cache.Breakpoints
import Routectl.Canary.Canaries
import Routectl.Canary.Exposure
import Routectl.Canary.FieldCanary
import Routectl.Canary.LiveGuards
import Routectl.Canary.Preflight
import Routectl.Cloak.NameSheet
import Routectl.Cloak.Reversal
import Routectl.Cloak.ToolRename
import Routectl.ContextAnchor.Digest
import Routectl.ContextAnchor.PrefixMatch
import Routectl.ContextAnchor.Store
import Routectl.ContextAnchor.Turns
import Routectl.Converse.Agreement
import Routectl.Converse.Serialization
import Routectl.Converse.Stream
import Routectl.Converse.Types
import Routectl.ConverseInput.Messages
import Routectl.ConverseInput.Pairing
import Routectl.ConverseInput.Wire
import Routectl.Core.Capability
import Routectl.Dispatch.Balance
import Routectl.Dispatch.Classify
import Routectl.Dispatch.ErrorArm
import Routectl.Dispatch.Failure
import Routectl.Dispatch.Moves
import Routectl.Dispatch.Reported
import Routectl.Dispatch.Walk
import Routectl.Filter.Chained
import Routectl.Filter.Consulting
import Routectl.Filter.Contract
import Routectl.Filter.FeatureFilter
import Routectl.Filter.SlotReads
import Routectl.Filter.Sorting
import Routectl.Filter.Strip
import Routectl.Gate.Capacity
import Routectl.Gate.Clocked
import Routectl.Gate.HalfOpen
import Routectl.Gate.ProviderState
import Routectl.Gate.RateBound
import Routectl.Gemini.Agreement
import Routectl.Gemini.Collecting
import Routectl.Gemini.Losses
import Routectl.Gemini.Origins
import Routectl.Gemini.Positions
import Routectl.Gemini.Schema
import Routectl.Gemini.Types
import Routectl.History.Egress
import Routectl.History.Pairing
import Routectl.History.Replayed
import Routectl.Learn.Clears
import Routectl.Learn.Commit
import Routectl.Learn.Delivery
import Routectl.Learn.Fidelity
import Routectl.Learn.RefusedSettlement
import Routectl.Learn.ReplayCarry
import Routectl.Learn.ReplayFlight
import Routectl.Learn.RestartFidelity
import Routectl.Learn.Session
import Routectl.Ledger.Event
import Routectl.Ledger.Plane
import Routectl.Ledger.PurgeFloors
import Routectl.Ledger.Rebuild
import Routectl.Ledger.Replay
import Routectl.Ledger.Restatement
import Routectl.Ledger.RoundTrip
import Routectl.Ledger.Writer
import Routectl.Library.Brackets
import Routectl.Library.Buffers
import Routectl.Library.Claims
import Routectl.Library.Coalesce
import Routectl.Library.Decimal
import Routectl.Library.Delimiters
import Routectl.Library.DepthFirst
import Routectl.Library.Flattening
import Routectl.Library.JsonFields
import Routectl.Library.JsonText
import Routectl.Library.JsonTokens
import Routectl.Library.JsonTree
import Routectl.Library.KeyedMap
import Routectl.Library.LruCache
import Routectl.Library.Optimistic
import Routectl.Library.Splitting
import Routectl.Library.Table
import Routectl.Library.Threading
import Routectl.Library.Toml
import Routectl.Library.Transition
import Routectl.Library.Turns
import Routectl.LogSafe.Nesting
import Routectl.LogSafe.Noninterference
import Routectl.LogSafe.Redaction
import Routectl.LogSafe.Uploads
import Routectl.Messages.Calls
import Routectl.Messages.Conformance
import Routectl.Messages.Grammar
import Routectl.Messages.Lossless
import Routectl.Messages.Render
import Routectl.Messages.Sent
import Routectl.Messages.Told
import Routectl.Migrate.Climbing
import Routectl.Migrate.Folding
import Routectl.Migrate.Ladder
import Routectl.Migrate.Normalize
import Routectl.Migrate.Reading
import Routectl.Migrate.Relocation
import Routectl.Migrate.Verdicts
import Routectl.Oauth.Calls
import Routectl.Oauth.Precedence
import Routectl.Oauth.Presentation
import Routectl.Oauth.Refresh
import Routectl.Oauth.Retention
import Routectl.Oauth.Rotation
import Routectl.Oauth.SingleFlight
import Routectl.Oauth.Store
import Routectl.Oauth.World
import Routectl.OpenaiCompat.ThinkStream
import Routectl.OpenaiCompat.ThinkTags
import Routectl.OpenaiCompat.ToolCallIds
import Routectl.Overrides.Registry
import Routectl.Probe.Occupancy
import Routectl.Probe.Probing
import Routectl.Probe.Scheduler
import Routectl.Probe.Settled
import Routectl.Quota.Admission
import Routectl.Quota.Merge
import Routectl.Quota.Store
import Routectl.Quota.Window
import Routectl.Reduction.Lossless
import Routectl.Reduction.Minify
import Routectl.Reduction.Tail
import Routectl.Registry.Boundary
import Routectl.Registry.BoundaryReceipts
import Routectl.Registry.Entry
import Routectl.Registry.Guarded
import Routectl.Registry.Incarnations
import Routectl.Registry.Operations
import Routectl.Registry.ProbeGuard
import Routectl.Registry.ProbeSlots
import Routectl.Registry.PurgeIsolation
import Routectl.Registry.World
import Routectl.Replay.Conversation
import Routectl.Replay.Egress
import Routectl.Replay.Grouping
import Routectl.Replay.Ingress
import Routectl.Replay.Preserved
import Routectl.Replay.ToolIds
import Routectl.Responses.Drawing
import Routectl.Responses.Following
import Routectl.Responses.Lifecycle
import Routectl.Responses.Outline
import Routectl.Responses.Output
import Routectl.Responses.Reported
import Routectl.Responses.Stream
import Routectl.ResponsesApi.Agreement
import Routectl.ResponsesApi.Collecting
import Routectl.ResponsesApi.Emitting
import Routectl.ResponsesApi.Equivalence
import Routectl.ResponsesApi.Serialization
import Routectl.ResponsesApi.Stream
import Routectl.ResponsesApi.Streamed
import Routectl.ResponsesApi.Types
import Routectl.ResponsesInput.Messages
import Routectl.ResponsesInput.Pairing
import Routectl.Schema.Chunk
import Routectl.Schema.Collected
import Routectl.Schema.Envelope
import Routectl.Seats.Selection
import Routectl.Seats.Sticky
import Routectl.Trim.Elision
import Routectl.Trim.Growth
import Routectl.Trim.NearLossless
import Routectl.Trim.PrefixEpochs
import Routectl.Trim.Request
import Routectl.Trim.SteadyState
import Routectl.Usage.Lifecycle
import Routectl.Usage.PaidProbe
import Routectl.Usage.Spending
