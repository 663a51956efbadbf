import AliasSync.CommandLine.Parser
import AliasSync.Config.Load
import AliasSync.Deployment.World
import AliasSync.Log.Filter
import AliasSync.SocketAddress

/-! A launch of the program: from its arguments to a synchronizer that is ready to run, and from the end of
the run to the exit status. -/

namespace AliasSync

structure Console where
  output : List String
  errors : List String
  deriving DecidableEq, Repr

structure Surroundings where
  environment : Config.Environment
  files : Files
  /-- Opens the metrics page at an address, or says why that fails. -/
  expose : SocketAddress → Except String Unit

structure Launch where
  deployment : Deployment
  once : Bool
  filter : Log.Filter
  console : Console

structure Exit where
  status : Nat
  console : Console
  deriving DecidableEq, Repr

namespace Launch

def shown (filter : Log.Filter) (records : List Log.Record) : List String :=
  (records.filter filter.admits).map Log.Record.consoleLine

def environmentFilter? (environment : Config.Environment) : Option Log.Filter :=
  (environment "RUST_LOG").bind Log.Filter.parse?

/-- The choice of records while the settings are not known yet. -/
def firstFilter (environment : Config.Environment) : Log.Filter :=
  (environmentFilter? environment).getD (.ofText "info")

def metricsRecords (settings : Config.ObservabilitySettings)
    (expose : SocketAddress → Except String Unit) : List Log.Record :=
  if settings.metricsEnabled then
    match SocketAddress.parse? settings.metricsAddress with
    | none => [.error .program "Failed to parse metrics address"
        [("metrics_address", .plain settings.metricsAddress)]]
    | some address =>
      match expose address with
      | .ok () => [.info .metrics "Prometheus metrics exporter started" [("address", .plain address.text)]]
      | .error cause => [.error .metrics "Failed to start metrics exporter"
          [("address", .plain address.text), ("error", .plain cause)]]
  else []

def withSettings (surroundings : Surroundings) (arguments : CommandLine.Arguments)
    (source : Config.Source) (early : List String) (settings : Config.Settings) :
    Except Exit Launch :=
  let level := settings.observability.logLevel
  let chosen := environmentFilter? surroundings.environment
  let filter := chosen.getD (.ofText level)
  let errors := if chosen.isSome then [] else Log.Filter.complaints level
  let started : Log.Record := .info .program "traefik-opnsense-sync starting"
    [("version", .freeText CommandLine.programVersion), ("config", .plain source.path)]
  let opening := started :: metricsRecords settings.observability surroundings.expose
  let dryRun := arguments.dryRun || settings.dryRun
  match Deployment.ofSettings settings dryRun with
  | .error cause =>
    let failed : Log.Record := .error .program "Startup failed" [("error", .plain cause.message)]
    .error ⟨1, early ++ shown filter (opening ++ [failed]), errors⟩
  | .ok deployment =>
    .ok ⟨deployment, arguments.once, filter,
      early ++ shown filter (opening ++ Deployment.records settings dryRun), errors⟩

def withArguments (surroundings : Surroundings) (arguments : CommandLine.Arguments) :
    Except Exit Launch :=
  let source := Config.Source.resolve arguments.config surroundings.environment
  let loaded := Config.load source surroundings.environment surroundings.files
  let early := shown (firstFilter surroundings.environment) loaded.records
  match loaded.result with
  | .error cause => .error ⟨1, early, [CommandLine.programName ++ ": " ++ cause.message]⟩
  | .ok settings => withSettings surroundings arguments source early settings

/-- Prepares a run as the arguments ask for it, or ends with what they ask for instead. -/
def prepare (surroundings : Surroundings) (arguments : List String) : Except Exit Launch :=
  match CommandLine.parse arguments with
  | .help => .error ⟨0, CommandLine.helpLines, []⟩
  | .version => .error ⟨0, [CommandLine.versionText], []⟩
  | .misuse cause => .error ⟨2, [], [cause.message]⟩
  | .run arguments => withArguments surroundings arguments

/-- The exit status and the last record of an ending. There is no ending without end. -/
def farewell : Sync.Ending → Nat × List Log.Record
  | .completed => (0, [.info .program "Shutdown complete" []])
  | .failed cause => (1, [.error .program "Sync failed" [("error", .plain cause.message)]])
  | .crashed _ => (101, [])
  | .endless => (0, [])

def conclude (launch : Launch) (run : Sync.Run σ Sync.Ending) : Exit :=
  let (status, last) := farewell (run.result.getD .endless)
  let records := run.steps.flatMap (Deployment.stepRecords ·.2) ++ last
  ⟨status, { launch.console with output := launch.console.output ++ shown launch.filter records }⟩

end Launch

end AliasSync
