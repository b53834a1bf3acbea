import DnsForwarder.CommandLine.Reader
import DnsForwarder.Config.Source
import DnsForwarder.Event.Filter.Reader
import DnsForwarder.Server.Lifecycle
import DnsForwarder.Services

/-!
# The program

From the command line to the end of service: the configuration is loaded, the services are put
together, and the server serves until it is told to stop. Whatever goes wrong on the way ends the
program with a complaint.
-/

namespace DnsForwarder.Program

/-- How the program ends. -/
structure Ending where
  exitCode : UInt8 := 0
  /-- What it says about its failure. -/
  complaint : Option String := none
  /-- The lines that it prints, its log apart. -/
  lines : List String := []
  /-- What gets into its log. -/
  log : List Event := []
  jsonLog : Bool := false
deriving DecidableEq

/-- What the program runs on. -/
structure Surroundings where
  files : Config.Files
  host : Net.Host
  /-- A filter for the log that overrules the configuration. -/
  logFilter : Option String := none
  /-- The reading of the metrics' clock. -/
  now : Nat := 0

/-- What goes on while the server takes queries: a signal to stop. -/
def terminated (engine : Engine) : Server.Term where
  engine
  events := [.info "Received SIGTERM, shutting down"]

/-- Puts the services together and serves until the signal to stop. The error is what the program
fails with. -/
def serve (surroundings : Surroundings) (config : Config) : Option Error × List Report :=
  let greeting := Source.configuration.reports [config.summaryEvent] ++
    Source.program.reports [.info s!"Starting Warden DNS v{CommandLine.version}"]
  let (services, reports) :=
    Services.ofConfig Unit surroundings.host config surroundings.now
  match services with
  | .error error => (some error, greeting ++ reports)
  | .ok services =>
    let jobEvents := (Services.jobs config).flatMap (·.startEvents)
    let (result, _, served) :=
      Server.serve surroundings.host config.server terminated services.engine
    let reports :=
      greeting ++ reports ++ Source.jobs.reports jobEvents ++ Source.server.reports served
    match result with
    | .error error =>
      (some error,
        reports ++ Source.program.reports [.error "DNS server error" [("error", error.message)]])
    | .ok _ => (none, reports ++ Source.program.reports [.info "Server shutdown complete"])

/-- The ending of a program that breaks down. What it says begins with an empty line. -/
def breakdown (complaint : String) : Ending :=
  { exitCode := 101, complaint := some ("\n" ++ complaint) }

/-- Runs with what the options give. -/
def runWith (surroundings : Surroundings) (arguments : CommandLine.Arguments) : Ending :=
  match Config.loadValid surroundings.files arguments.path arguments.overrides with
  | .error error => { exitCode := 1, complaint := some s!"Error: {error.message}" }
  | .ok config =>
    match EventFilter.choose surroundings.logFilter config.logging.level with
    | .error _ => breakdown "a rule of the log filter is cut within a character"
    | .ok filter =>
      let (error, reports) := serve surroundings config
      { exitCode := if error.isSome then 1 else 0
        complaint := error.map fun error => s!"Error: {error.message}"
        log := (reports.filter filter.admits).map (·.event)
        jsonLog := config.logging.isJson }

/-- Runs the program. -/
def run (surroundings : Surroundings) (arguments : List String) : Ending :=
  match CommandLine.read arguments with
  | .error misuse => { exitCode := 2, complaint := some s!"error: {misuse.message}" }
  | .ok .help => { lines := CommandLine.helpLines }
  | .ok .version => { lines := [CommandLine.versionLine] }
  | .ok (.run arguments) => runWith surroundings arguments

end DnsForwarder.Program
