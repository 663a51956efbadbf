import AliasSync.Alias
import AliasSync.Alias.Diff
import AliasSync.CommandLine.Basic
import AliasSync.CommandLine.Parser
import AliasSync.Config.Basic
import AliasSync.Config.Decode
import AliasSync.Config.Error
import AliasSync.Config.Load
import AliasSync.Config.Overlay
import AliasSync.Config.Validation
import AliasSync.Decimal.Shortest
import AliasSync.Deployment
import AliasSync.Deployment.World
import AliasSync.Duration
import AliasSync.Expansion.Cache
import AliasSync.Expansion.Exrex
import AliasSync.Expansion.Generator
import AliasSync.Expansion.Machine
import AliasSync.FileTree
import AliasSync.Files
import AliasSync.HostName
import AliasSync.Http.Call
import AliasSync.Http.Endpoint
import AliasSync.Http.Error
import AliasSync.Http.Message
import AliasSync.Http.Status
import AliasSync.Json.Basic
import AliasSync.Json.Decode
import AliasSync.Json.Number
import AliasSync.Json.Parser
import AliasSync.Json.Value
import AliasSync.Launch
import AliasSync.Log
import AliasSync.Log.Filter
import AliasSync.Main
import AliasSync.Proxy.Client
import AliasSync.Proxy.Payload
import AliasSync.Rehearsal
import AliasSync.Resolver.Client
import AliasSync.Resolver.Payload
import AliasSync.Router
import AliasSync.Rule.Candidates
import AliasSync.Rule.Error
import AliasSync.Rule.Expr
import AliasSync.Rule.Matcher
import AliasSync.Rule.Parser
import AliasSync.Rule.Predicate
import AliasSync.Rule.Token
import AliasSync.Shutdown
import AliasSync.SocketAddress
import AliasSync.Store.Error
import AliasSync.Sync.Cycle
import AliasSync.Sync.Error
import AliasSync.Sync.Execution
import AliasSync.Sync.Expansion
import AliasSync.Sync.Metric
import AliasSync.Sync.Plan
import AliasSync.Sync.Program
import AliasSync.Sync.Reconciler
import AliasSync.Sync.Run
import AliasSync.Sync.Ticker
import AliasSync.Text.AlphanumericTable
import AliasSync.Text.Base64
import AliasSync.Text.Blank
import AliasSync.Text.CaseTable
import AliasSync.Text.CodeRange
import AliasSync.Text.CodeTable
import AliasSync.Text.Composition
import AliasSync.Text.CompositionTable
import AliasSync.Text.ControlSequence
import AliasSync.Text.Digits
import AliasSync.Text.LowerCase
import AliasSync.Text.PrintableTable
import AliasSync.Text.Punycode
import AliasSync.Text.Quoted
import AliasSync.Text.Similarity
import AliasSync.Text.Split
import AliasSync.Text.Utf8
import AliasSync.Toml.Lexer
import AliasSync.Toml.Parser
import AliasSync.Toml.Scalar
import AliasSync.Toml.Value
import AliasSync.Url.Basic
import AliasSync.Url.Domain
import AliasSync.Url.Domain.Direction
import AliasSync.Url.Domain.DirectionTable
import AliasSync.Url.Domain.Joiner
import AliasSync.Url.Domain.JoiningTable
import AliasSync.Url.Domain.MappingTable
import AliasSync.Url.Error
import AliasSync.Url.Host
import AliasSync.Url.Parser
import AliasSync.Url.Percent
import AliasSync.Proofs.Course
import AliasSync.Proofs.TimedRun
import AliasSync.Proofs.AliasTable
import AliasSync.Proofs.Harvest
import AliasSync.Proofs.PlanSets
import AliasSync.Proofs.Execution
import AliasSync.Proofs.CycleCourse
import AliasSync.Proofs.Turn
import AliasSync.Proofs.Isolation
import AliasSync.Proofs.PendingChanges
import AliasSync.Proofs.CalmReading
import AliasSync.Proofs.StoredAliases
import AliasSync.Proofs.UnmanagedAliases
import AliasSync.Proofs.ReliableStore
import AliasSync.Proofs.Convergence
import AliasSync.Proofs.StaleAliases
import AliasSync.Proofs.Diary
import AliasSync.Proofs.DistinctKeys
import AliasSync.Proofs.RuleGrammar
import AliasSync.Proofs.RulePrinting
import AliasSync.Proofs.RulePredicate
import AliasSync.Proofs.RoutedNames
import AliasSync.Proofs.ExecutionProtocol
import AliasSync.Proofs.AbortedCycle
import AliasSync.Proofs.DryRun
import AliasSync.Proofs.SnapshotOrder
import AliasSync.Proofs.ChangeOrder
import AliasSync.Proofs.FallibleStore
import AliasSync.Proofs.Retry
import AliasSync.Proofs.Conversation
import AliasSync.Proofs.RunEffects
import AliasSync.Proofs.PlannedTurn
import AliasSync.Proofs.Truncation
import AliasSync.Proofs.Cadence
import AliasSync.Proofs.ExpansionHistory
import AliasSync.Proofs.Accounting
import AliasSync.Proofs.Difference
import AliasSync.Proofs.HostCandidates
import AliasSync.Proofs.HostPolarity
import AliasSync.Proofs.RuleText
import AliasSync.Proofs.SyntaxErrors
import AliasSync.Proofs.RuleHeight
import AliasSync.Proofs.PatternEscapes
import AliasSync.Proofs.LostCandidates
import AliasSync.Proofs.Telling
import AliasSync.Proofs.IssueOrder
import AliasSync.Proofs.Bookkeeping
import AliasSync.Proofs.Narrowing
import AliasSync.Proofs.SettingPlaces
import AliasSync.Proofs.OverlaidSettings
import AliasSync.Proofs.RenderedSettings
import AliasSync.Proofs.SettingChecks
import AliasSync.Proofs.FirstDeadline
import AliasSync.Proofs.JoinedPaths
import AliasSync.Proofs.DeletionTargets
import AliasSync.Proofs.ListedNames
import AliasSync.Proofs.AccountedTriggers
import AliasSync.Proofs.BodySnippet
import AliasSync.Proofs.NamesAndKeys
