import MKurator.Lib.Strings
import MKurator.Lib.Traced
import MKurator.Api.Types
import MKurator.MqAdmin.Admin
import MKurator.MqAdmin.Match
import MKurator.MqRest.Command
import MKurator.Controller.Policy
import MKurator.Controller.Steps
import MKurator.Controller.Reconcile
import MKurator.Controller.Effects
import MKurator.Controller.Ensure
import MKurator.Controller.Kinds
import MKurator.Controller.Gate
import MKurator.Controller.BreakGlass
import MKurator.Controller.WatchFilter
import MKurator.Lib.System
import MKurator.Controller.Outcome
import MKurator.Controller.Ownership
import MKurator.Controller.CreateOnly
import MKurator.Controller.Recording
import MKurator.Controller.Leftovers
import MKurator.Validation.Fields
import MKurator.Validation.Specs
import MKurator.Webhook.Admission
import MKurator.Lib.Fallible
import MKurator.MqRest.Response
import MKurator.MqRest.Transport
import MKurator.MqRest.Client
import MKurator.MqRest.Deletion
import MKurator.Lib.Mqsc
import MKurator.MqRest.Clauses
import MKurator.Convergence.Authority
import MKurator.Convergence.ChannelAuth
import MKurator.Controller.Desired
import MKurator.Convergence.Attributes
import MKurator.Convergence.Numbers
import MKurator.Convergence.Spellings
import MKurator.MqRest.Breaker
import MKurator.MqRest.Traffic
import MKurator.Connections.Registry
import MKurator.Lib.Versions
import MKurator.Connections.Cache
import MKurator.Connections.Identity
import MKurator.Connections.Freshness
import MKurator.Lib.Journal
import MKurator.MqRest.Sessions
import MKurator.MqRest.Logins
import MKurator.MqRest.Retries
import MKurator.Controller.Requeue
import MKurator.Connections.Secrets
import MKurator.Controller.Connection
import MKurator.Validation.Connections
import MKurator.MqRest.Exchanges
import MKurator.MqRest.Taxonomy
import MKurator.Logging.Redact
import MKurator.Convergence.Commands
import MKurator.MqRest.DisplayText
import MKurator.Convergence.Parameters
import MKurator.Convergence.DefineText
import MKurator.Convergence.Order
import MKurator.MqRest.Probes
import MKurator.MqRest.ProbeCache
import MKurator.Controller.Existence
import MKurator.Lib.Quoting
import MKurator.MqRest.Resilience
import MKurator.Lib.Deferred
import MKurator.MqRest.Operations
import MKurator.Validation.ManagedChannels
import MKurator.MqRest.Metrics
import MKurator.Controller.FanOut
import MKurator.Controller.Fleet
import MKurator.Controller.StatusTruth
import MKurator.Controller.Wakeups
import MKurator.Convergence.ReadBack
import MKurator.Controller.ConnectionRuns
import MKurator.Lib.References
import MKurator.Validation.Dependents
import MKurator.Webhook.References
import MKurator.Controller.Drift
import MKurator.Controller.Settings
import MKurator.Convergence.EndToEnd
import MKurator.Lib.Spending
import MKurator.MqRest.Budget
import MKurator.Api.ConversionAttributes
import MKurator.Convergence.Folding
import MKurator.Convergence.Promotion
import MKurator.Health.MqConnectivity
