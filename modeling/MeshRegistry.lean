import MeshRegistry.Main
import MeshRegistry.Proofs.Registration.Acceptance
import MeshRegistry.Proofs.Registration.History
import MeshRegistry.Proofs.Registration.Messages
import MeshRegistry.Proofs.Text.Parts
import MeshRegistry.Proofs.Registration.Keys
import MeshRegistry.Proofs.Json.Strings
import MeshRegistry.Proofs.Json.Numerals
import MeshRegistry.Proofs.Json.Written
import MeshRegistry.Proofs.Json.Records
import MeshRegistry.Proofs.Json.Containers
import MeshRegistry.Proofs.Json.Skipped
import MeshRegistry.Proofs.Text.Cut
import MeshRegistry.Proofs.Json.Cut
import MeshRegistry.Proofs.Channel.Stream
import MeshRegistry.Proofs.Channel.Calls
import MeshRegistry.Proofs.Channel.Cut
import MeshRegistry.Proofs.Channel.Interleaving
import MeshRegistry.Proofs.Discovery.Sorting
import MeshRegistry.Proofs.Discovery.Projection
import MeshRegistry.Proofs.Discovery.Interruption
import MeshRegistry.Proofs.Registration.Logging
import MeshRegistry.Proofs.Time.Calendar
import MeshRegistry.Proofs.Time.Moments
import MeshRegistry.Proofs.Discovery.Messages
import MeshRegistry.Proofs.Api.Failures
import MeshRegistry.Proofs.Api.Paths
import MeshRegistry.Proofs.Api.Counting
import MeshRegistry.Proofs.Http.Spelling
import MeshRegistry.Proofs.Http.Targets
import MeshRegistry.Proofs.Http.Urls
import MeshRegistry.Proofs.Api.Services
import MeshRegistry.Proofs.CommandLine.Typed
import MeshRegistry.Proofs.Control.Services
import MeshRegistry.Proofs.Registration.Sockets
import MeshRegistry.Proofs.Control.Registrations
import MeshRegistry.Proofs.Retry.Schedule
import MeshRegistry.Proofs.Proxy.Course
import MeshRegistry.Proofs.Proxy.Conduct
import MeshRegistry.Proofs.Address.Written
import MeshRegistry.Proofs.Address.Compressed
import MeshRegistry.Proofs.Text.Case
import MeshRegistry.Proofs.Proxy.Labels
import MeshRegistry.Proofs.Proxy.Reload
import MeshRegistry.Proofs.Proxy.Fleet
import MeshRegistry.Proofs.Proxy.Shutdown
import MeshRegistry.Proofs.Proxy.Choice
import MeshRegistry.Proofs.Proxy.Outlets
import MeshRegistry.Proofs.Proxy.Relaying
import MeshRegistry.Proofs.Proxy.Spellings
