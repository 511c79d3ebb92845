import GroupSync.CommandLine
import GroupSync.Config.Loading
import GroupSync.Manager

/-!
# The program

A run of the program from its arguments, the environment and the files to its exit code: load the
configuration, read the groups, open a manager, synchronize and shut down.  The first failure ends
the run and is recorded with what was being done.
-/

namespace GroupSync

namespace Program

open Http

/-- What a run leaves behind, besides the trace of its session. -/
structure Report where
  exitCode : Nat
  /-- What is printed besides events. -/
  output : String
  /-- What is printed as an error. -/
  complaint : String
  /-- Decides which events are shown; without one, none are. -/
  filter : Option LogFilter
  format : LogFormat

namespace Report

def success : Nat := 0

def failure : Nat := 1

/-- The exit code of arguments that make no sense. -/
def usage : Nat := 2

/-- The exit code of a program that broke down. -/
def brokenDown : Nat := 101

def silent (exitCode : Nat) (output complaint : String) : Report :=
  ⟨exitCode, output, complaint, none, default⟩

def shownBy (filter : LogFilter) (format : LogFormat) (exitCode : Nat) (complaint : String) :
    Report :=
  ⟨exitCode, "", complaint, some filter, format⟩

/-- The event of an effect, if it is shown. -/
def shown? (report : Report) : Effect → Option LogEvent
  | .logged event => if report.filter.any fun filter => filter.admits event then some event
      else none
  | _ => none

def shown (report : Report) (trace : List Effect) : List LogEvent :=
  trace.filterMap report.shown?

/-- What a run prints besides complaints, line by line. -/
def lines (report : Report) (trace : List Effect) : List String :=
  (if report.output.isEmpty then [] else [report.output]) ++
    (report.shown trace).map fun event => event.render report.format

end Report

structure Surroundings where
  environment : Environment
  files : Files
  directories : Config.Directories

/-- The environment variables that a run looks at. -/
def variableNames : List String :=
  ["UMSYNC_ORGANIZATION_ID", "UMSYNC_CLIENT_ID", "UMSYNC_CLIENT_SECRET",
    "UMSYNC_UMAPI_BASE_URL", "UMSYNC_TEST_ONLY", "UMSYNC_TOKEN_ENDPOINT_URL", "UMSYNC_SCOPES",
    "UMSYNC_CONNECT_TIMEOUT_MS", "UMSYNC_SOCKET_TIMEOUT_MS", "UMSYNC_PRODUCT_PROFILES",
    "UMSYNC_LOG_FORMAT", "RUST_LOG"]

/-- The paths that a run looks at: the files that are named and those with usual names. -/
def pathsOf (directories : Config.Directories) (arguments : List String) : List String :=
  match CommandLine.read arguments with
  | .ok (.synchronize groups config) =>
      groups :: (config.toList ++ (Config.candidates directories).map Config.Candidate.path)
  | _ => []

def standardFilter : String :=
  "info"

def logTarget : String :=
  "umsync"

def formatOf (environment : Environment) : Except Failure LogFormat :=
  match environment.text? "UMSYNC_LOG_FORMAT" with
  | none => .ok .text
  | some name =>
      match LogFormat.ofName? name with
      | some format => .ok format
      | none => .error (.config (LogFormat.refusal name))

/-- Start to record events under the filter that is asked for, if it is one, or else under the
standard one.  Recording can be started only once. -/
def startLogging (started : Bool) (asked : Option String) (standard : String) :
    Except Failure LogFilter :=
  match LogFilter.inForce asked standard with
  | .error fault => .error (.config ("Invalid log filter: " ++ fault.message))
  | .ok filter =>
      if started then
        .error (.internal ("Failed to install log subscriber: a global default trace " ++
          "dispatcher has already been set"))
      else .ok filter

def loadConfig (surroundings : Surroundings) (config : Option String) : Config.Loading :=
  match config with
  | some path => Config.ofFile surroundings.files path
  | none => Config.load surroundings.environment surroundings.files surroundings.directories

/-- Read the file of groups.  A failure is given by its wording. -/
def readGroups (files : Files) (path : String) : Except String (List Group) :=
  match files.readText path with
  | .error fault => .error ("Failed to read groups file " ++ path ++ ": " ++ fault.message)
  | .ok text =>
      match Group.readList text with
      | .ok groups => .ok groups
      | .error error => .error ("Invalid groups file " ++ path ++ ": " ++ error.message)

def finishedEvent (summary : Summary) : LogEvent :=
  ⟨.info, logTarget, "Synchronization finished",
    [("label", .text Manager.label), ("batches", .number summary.batchesSent),
      ("commands", .number summary.commandsSent), ("completed", .number summary.completed),
      ("completed_in_test_mode", .number summary.completedInTestMode),
      ("warnings", .number summary.warnings.length)]⟩

def failedEvent (message : String) : LogEvent :=
  ⟨.error, logTarget, "Synchronization failed", [("error", .text message)]⟩

variable [BodyDecoding]

def updateAndShutDown (manager : Manager) (groups : List Group) :
    Session (Except String Summary) := do
  let result ← manager.update groups
  match result with
  | .error .counterOverflow => throw .counterOverflow
  | .error (.failed error) =>
      manager.shutdown
      return .error (Manager.label ++ " group update failed: " ++ error.message)
  | .ok summary =>
      manager.shutdown
      return .ok summary

/-- Synchronize the groups of a file.  A failure is given by its wording. -/
def synchronize (surroundings : Surroundings) (groups : String) (config : Option String) :
    Session (Except String Summary) := do
  let loading := loadConfig surroundings config
  Session.recordAll loading.events
  match loading.outcome with
  | .error error => return .error ("Failed to load configuration: " ++ error.message)
  | .ok config =>
      match readGroups surroundings.files groups with
      | .error message => return .error message
      | .ok groups =>
          match ← Manager.openValid config with
          | .error error => return .error ("Invalid configuration: " ++ error.message)
          | .ok manager => updateAndShutDown manager groups

/-- Synchronize the groups of a file and record how that ended; the exit code says so too. -/
def synchronizeAndRecord (surroundings : Surroundings) (groups : String)
    (config : Option String) : Session Nat := do
  match ← synchronize surroundings groups config with
  | .ok summary =>
      Session.record (finishedEvent summary)
      return Report.success
  | .error message =>
      Session.record (failedEvent message)
      return Report.failure

/-- Run with a filter for events.  A run that breaks down still shows what it has recorded. -/
def runWith (surroundings : Surroundings) (format : LogFormat) (filter : LogFilter)
    (groups : String) (config : Option String) : StateM World Report := do
  match ← ExceptT.run (synchronizeAndRecord surroundings groups config) with
  | .ok exitCode => return .shownBy filter format exitCode ""
  | .error .counterOverflow =>
      return .shownBy filter format Report.brokenDown RunFailure.overflowMessage

def logging (environment : Environment) : Except Failure (LogFormat × LogFilter) := do
  let format ← formatOf environment
  let filter ← startLogging false (environment.text? "RUST_LOG") standardFilter
  return (format, filter)

def run (surroundings : Surroundings) (arguments : List String) : StateM World Report :=
  match CommandLine.read arguments with
  | .error fault => return .silent Report.usage "" fault.message
  | .ok .help => return .silent Report.success CommandLine.helpText ""
  | .ok .version => return .silent Report.success CommandLine.versionText ""
  | .ok (.synchronize groups config) =>
      match logging surroundings.environment with
      | .error error =>
          return .silent Report.failure "" ("Failed to initialise logging: " ++ error.message)
      | .ok (format, filter) => runWith surroundings format filter groups config

end Program

end GroupSync
