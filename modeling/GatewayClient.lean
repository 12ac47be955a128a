import GatewayClient.Callback
import GatewayClient.ClientId
import GatewayClient.CommandLine.Arguments
import GatewayClient.CommandLine.Listener
import GatewayClient.Configuration
import GatewayClient.Configuration.Batcher
import GatewayClient.Configuration.Outbox
import GatewayClient.Connection.Basic
import GatewayClient.Connection.Flushing
import GatewayClient.Connection.Opening
import GatewayClient.Connection.Receiving
import GatewayClient.Connection.Subscribing
import GatewayClient.DebounceTimer
import GatewayClient.Decimal.Binary64
import GatewayClient.Decimal.Shortest
import GatewayClient.Endpoint
import GatewayClient.Error
import GatewayClient.Event
import GatewayClient.EventStream
import GatewayClient.Filter
import GatewayClient.Host
import GatewayClient.Http.Header
import GatewayClient.Http.Request
import GatewayClient.Http.Response
import GatewayClient.Http.Transport
import GatewayClient.Http.Url
import GatewayClient.Json.Decode
import GatewayClient.Json.Literal
import GatewayClient.Json.Printer
import GatewayClient.Json.Source
import GatewayClient.Json.Value
import GatewayClient.Log
import GatewayClient.Log.Filter
import GatewayClient.Log.Line
import GatewayClient.Main
import GatewayClient.Manager
import GatewayClient.Session
import GatewayClient.Settings.Basic
import GatewayClient.Settings.Layers
import GatewayClient.Simulation.Agenda
import GatewayClient.Simulation.Gateway
import GatewayClient.Simulation.Rehearsal
import GatewayClient.Simulation.Scenario
import GatewayClient.Simulation.Server
import GatewayClient.Simulation.TimerBench
import GatewayClient.Simulation.World
import GatewayClient.Subscription.Registry
import GatewayClient.Subscription.Request
import GatewayClient.Text.Alphanumeric
import GatewayClient.Text.Basic
import GatewayClient.Text.Invisible
import GatewayClient.Text.Numeral
import GatewayClient.Text.Percent
import GatewayClient.Text.Quoted
import GatewayClient.Text.Terminal
import GatewayClient.Text.Utf8
import GatewayClient.Proofs.Connection.Operations
import GatewayClient.Proofs.Runs.Change
import GatewayClient.Proofs.Runs.Life
import GatewayClient.Proofs.Configuration.Deltas
import GatewayClient.Proofs.Simulation.Calls
import GatewayClient.Proofs.Configuration.Acknowledgments
import GatewayClient.Proofs.Configuration.PendingFlush
import GatewayClient.Proofs.Runs.Attempts
import GatewayClient.Proofs.Subscription.Attachment
import GatewayClient.Proofs.Manager.Exclusivity
import GatewayClient.Proofs.Configuration.Credentials
import GatewayClient.Proofs.Configuration.Dispatchers
import GatewayClient.Proofs.EventStream.Chunks
import GatewayClient.Proofs.EventStream.Blocks
import GatewayClient.Proofs.Configuration.Posting
import GatewayClient.Proofs.Http.Reopening
import GatewayClient.Proofs.Connection.Straddling
import GatewayClient.Proofs.Configuration.Slots
import GatewayClient.Proofs.Subscription.Listeners
import GatewayClient.Proofs.Runs.Armed
import GatewayClient.Proofs.Connection.Greeting
import GatewayClient.Proofs.Connection.Refusals
import GatewayClient.Proofs.Subscription.Dispatch
import GatewayClient.Proofs.Debounce.Generations
import GatewayClient.Proofs.Debounce.Burst
import GatewayClient.Proofs.Connection.Retrying
import GatewayClient.Proofs.Connection.Ended
import GatewayClient.Proofs.Json.Sorted
import GatewayClient.Proofs.Json.Printing
import GatewayClient.Proofs.Subscription.Matching
import GatewayClient.Proofs.Json.Holding
import GatewayClient.Proofs.Json.Records
import GatewayClient.Proofs.Settings.Decoding
import GatewayClient.Proofs.Settings.Merging
import GatewayClient.Proofs.Settings.Layering
import GatewayClient.Proofs.Settings.Agreement
import GatewayClient.Proofs.Settings.Paths
import GatewayClient.Proofs.Settings.Validity
import GatewayClient.Proofs.CommandLine.Arguments
import GatewayClient.Proofs.CommandLine.Answers
import GatewayClient.Proofs.CommandLine.Output
import GatewayClient.Proofs.Messages.RoundTrip
import GatewayClient.Proofs.Messages.Announcing
import GatewayClient.Proofs.Messages.Echo
import GatewayClient.Proofs.EventStream.Writing
import GatewayClient.Proofs.Endpoint.Urls
import GatewayClient.Proofs.Endpoint.BaseUrl
import GatewayClient.Proofs.Manager.TabAffinity
import GatewayClient.Proofs.Manager.FreshIds
import GatewayClient.Proofs.Subscription.Requests
import GatewayClient.Proofs.Text.Tokens
