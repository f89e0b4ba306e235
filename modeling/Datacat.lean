import Datacat.Alerting.Aggregates
import Datacat.Alerting.Buckets
import Datacat.Alerting.ErrorRatio
import Datacat.Alerting.Eval
import Datacat.Alerting.Groups
import Datacat.Alerting.Independence
import Datacat.Alerting.Notify
import Datacat.Alerting.Novelty
import Datacat.Alerting.Queries
import Datacat.Alerting.Rules
import Datacat.Alerting.Safety
import Datacat.Alerting.Statements
import Datacat.Alerting.Tenancy
import Datacat.Alerting.Transition
import Datacat.Alerting.Windows
import Datacat.Api.Access
import Datacat.Api.Accounting
import Datacat.Api.Events
import Datacat.Api.Export
import Datacat.Api.Isolation
import Datacat.Api.KeySpaces
import Datacat.Api.Submitted
import Datacat.Api.Validation
import Datacat.Basics.BTreeMap
import Datacat.Basics.Buckets
import Datacat.Basics.Calendar
import Datacat.Basics.Csv
import Datacat.Basics.Digest
import Datacat.Basics.Durations
import Datacat.Basics.Float64
import Datacat.Basics.Flow
import Datacat.Basics.History
import Datacat.Basics.Instants
import Datacat.Basics.Json.Serde
import Datacat.Basics.Json.Text
import Datacat.Basics.Json.Value
import Datacat.Basics.Like
import Datacat.Basics.Net
import Datacat.Basics.Paging
import Datacat.Basics.ParseFloat
import Datacat.Basics.Rounding
import Datacat.Basics.Run
import Datacat.Basics.Selection
import Datacat.Basics.Settings
import Datacat.Basics.Sql
import Datacat.Basics.Table
import Datacat.Basics.Templates
import Datacat.Basics.Text
import Datacat.Basics.Time
import Datacat.Basics.Toml
import Datacat.Companion.Agent
import Datacat.Companion.Config
import Datacat.Companion.Liveness
import Datacat.Companion.Machine
import Datacat.Companion.Stability
import Datacat.Companion.Switch
import Datacat.Companion.Token
import Datacat.Config
import Datacat.Db.Failures
import Datacat.Db.Partitions
import Datacat.Db.Retention
import Datacat.Db.Service
import Datacat.Db.Staging
import Datacat.Delivery
import Datacat.Durations
import Datacat.Events.Model
import Datacat.Expansion
import Datacat.Export.Columns
import Datacat.Export.Coverage
import Datacat.Export.Lake
import Datacat.Export.Pages
import Datacat.Export.Paths
import Datacat.Ingest.Acceptance
import Datacat.Ingest.Arithmetic
import Datacat.Ingest.Batcher
import Datacat.Ingest.Csv
import Datacat.Ingest.Flattening
import Datacat.Ingest.Intake
import Datacat.Ingest.Refusals
import Datacat.Ingest.Rows
import Datacat.Ingest.Storable
import Datacat.Logs.Dedup
import Datacat.Logs.Encoding
import Datacat.Logs.Grpc
import Datacat.Logs.Model
import Datacat.Logs.Transports
import Datacat.Metrics.Dedup
import Datacat.Metrics.Encoding
import Datacat.Metrics.Fidelity
import Datacat.Metrics.Grpc
import Datacat.Metrics.Model
import Datacat.Metrics.Transports
import Datacat.Otlp.Agreement
import Datacat.Otlp.Common
import Datacat.Otlp.Encoding
import Datacat.Otlp.Json
import Datacat.Otlp.Proto
import Datacat.Query.Journeys
import Datacat.Query.Logs
import Datacat.Query.Search
import Datacat.Resend
import Datacat.Sdk.BatchBound
import Datacat.Sdk.Client
import Datacat.Sdk.Conservation
import Datacat.Sdk.DueRetries
import Datacat.Sdk.Flutter.Client
import Datacat.Sdk.Flutter.Flush
import Datacat.Sdk.Flutter.Futures
import Datacat.Sdk.Flutter.Outcomes
import Datacat.Sdk.Flutter.Retries
import Datacat.Sdk.Flutter.Spacing
import Datacat.Sdk.Flutter.Steps
import Datacat.Sdk.Identity
import Datacat.Sdk.MemoryBound
import Datacat.Sdk.Retries
import Datacat.Sdk.Shutdown
import Datacat.Sdk.Spacing
import Datacat.Sdk.Termination
import Datacat.Sdk.Tokens
import Datacat.Security.Anomaly
import Datacat.Security.BanLifetime
import Datacat.Security.ClientIp
import Datacat.Security.Detection
import Datacat.Security.GlobalBound
import Datacat.Security.Inert
import Datacat.Security.IpCap
import Datacat.Security.Keys
import Datacat.Security.Memory
import Datacat.Security.OwnBucket
import Datacat.Security.RateLimit
import Datacat.Security.RetryAfter
import Datacat.Security.SessionBound
import Datacat.Security.Token
import Datacat.Settings
import Datacat.State
import Datacat.Traces.Encoding
import Datacat.Traces.Grpc
import Datacat.Traces.Model
import Datacat.Traces.Transports
