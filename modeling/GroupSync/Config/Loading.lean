import GroupSync.Config
import GroupSync.Document.Toml
import GroupSync.Environment
import GroupSync.Files
import GroupSync.Log

/-!
# Loading configurations

Settings come from environment variables or from a file.  The environment wins if it holds all
credentials; otherwise the first file that exists under one of the usual names is read, in the
working directory or next to the program.  A file is read by the rules of the format that its
extension names.
-/

namespace GroupSync

namespace Config

open Document

def logTarget : String :=
  "umsync_infra::config::loader"

/-- What loading comes to, with the events recorded on the way. -/
structure Loading where
  events : List LogEvent
  outcome : Except Failure Config

def requiredVariable (environment : Environment) (name : String) : Except Failure String :=
  match environment.text? name with
  | some text => .ok text
  | none => .error (.config ("Missing required environment variable: " ++ name))

/-- The spellings of truth; everything else is false. -/
def trueSpellings : List String :=
  ["1", "true", "yes", "on"]

def booleanVariable (environment : Environment) (name : String) : Bool :=
  match environment.text? name with
  | some text => trueSpellings.any fun spelling => Text.equalsIgnoringAsciiCase spelling text
  | none => false

/-- The entries of a list that is written with commas; blank ones are dropped. -/
def listEntries (text : String) : List String :=
  (((text.toList.splitOn ',').map Text.trimChars).filter fun entry => !entry.isEmpty).map
    String.ofList

def listVariable (environment : Environment) (name : String) (standard : List String) :
    List String :=
  ((environment.text? name).map listEntries).getD standard

def numberVariable (environment : Environment) (name : String) (standard : Nat) :
    Except Failure Nat :=
  match environment.text? name with
  | none => .ok standard
  | some text =>
      match Number.readUInt64 (Text.trimChars text.toList) with
      | .ok number => .ok number
      | .error fault => .error (.config ("Invalid " ++ name ++ ": " ++ fault.message))

def ofEnvironment (environment : Environment) : Except Failure Config := do
  let organizationId ← requiredVariable environment "UMSYNC_ORGANIZATION_ID"
  let clientId ← requiredVariable environment "UMSYNC_CLIENT_ID"
  let clientSecret ← requiredVariable environment "UMSYNC_CLIENT_SECRET"
  let connectMilliseconds ← numberVariable environment "UMSYNC_CONNECT_TIMEOUT_MS"
    standardConnectMilliseconds
  let readMilliseconds ← numberVariable environment "UMSYNC_SOCKET_TIMEOUT_MS"
    standardReadMilliseconds
  return {
    actionBase := (environment.text? "UMSYNC_UMAPI_BASE_URL").getD standardActionBase
    organizationId := organizationId
    testOnly := booleanVariable environment "UMSYNC_TEST_ONLY"
    tokenEndpoint := (environment.text? "UMSYNC_TOKEN_ENDPOINT_URL").getD standardTokenEndpoint
    clientId := clientId
    clientSecret := clientSecret
    scopes := listVariable environment "UMSYNC_SCOPES" standardScopes
    connectMilliseconds := connectMilliseconds
    readMilliseconds := readMilliseconds
    productProfiles := listVariable environment "UMSYNC_PRODUCT_PROFILES" [] }

/-- The refusals of a value whose wording is passed on from a file in TOML. -/
def passedOn (error : DecodeError) : Bool :=
  match error with
  | .invalidType _ _ => true
  | .invalidValue _ _ => true
  | .invalidLength _ _ => true
  | .missingField _ => true
  | _ => false

/-- Settings from a text in TOML.  Of a refusal only the sentence about the refused value is kept.
The position and the lines of the text that a reader shows along with it are left out, and so is
what makes a text no document. -/
def ofToml (text : String) : Except Failure Config :=
  match Toml.read? text with
  | none => .error (.config "Invalid TOML format")
  | some node =>
      match ofNode node with
      | .ok config => .ok config
      | .error error =>
          .error (.config ("Invalid TOML format" ++
            if passedOn error then ": " ++ error.message else ""))

def ofJson (text : String) : Except Failure Config :=
  match Json.decode ofNode text with
  | .ok config => .ok config
  | .error error => .error (.config ("Invalid JSON format: " ++ error.message))

def ofText (text path : String) : Except Failure Config :=
  let extension := (Files.extension? path).getD "json"
  if extension == "toml" then ofToml text
  else if extension == "json" then ofJson text
  else .error (.config ("Unsupported config format: " ++ extension))

/-- Load the settings from a file that exists.  `shown` is its path in events. -/
def ofExistingFile (files : Files) (path shown : String) : Loading where
  events := [⟨.info, logTarget, "Loading configuration from file", [("path", .text shown)]⟩]
  outcome :=
    match files.readText path with
    | .error fault => .error (.config ("Failed to read config file: " ++ fault.message))
    | .ok text => ofText text path

def ofFile (files : Files) (path : String) : Loading :=
  if files.contains path then ofExistingFile files path path
  else ⟨[], .error (.config ("Config file not found: " ++ path))⟩

/-- The names under which a file is looked for. -/
def usualNames : List String :=
  ["umsync.json", "umsync.toml", "config.json", "config.toml"]

/-- The directories in which a file is looked for.  One whose path cannot be told is left out. -/
structure Directories where
  /-- The path of the working directory. -/
  working : Option String
  /-- The path of the directory that holds the program itself. -/
  program : Option String

/-- A file that may exist. -/
structure Candidate where
  /-- The path under which it is found. -/
  path : String
  /-- Its path in events. -/
  shown : String

/-- The files that may hold the settings, in the order in which they are looked for: first those
in the working directory, whose paths are relative to it, then those next to the program. -/
def candidates (directories : Directories) : List Candidate :=
  (directories.working.toList.flatMap fun directory =>
      usualNames.map fun name => ⟨name, Files.join directory name⟩) ++
    directories.program.toList.flatMap fun directory =>
      usualNames.map fun name => ⟨Files.join directory name, Files.join directory name⟩

/-- The first candidate that exists. -/
def probe? (files : Files) (directories : Directories) : Option Candidate :=
  (candidates directories).find? fun candidate => files.contains candidate.path

/-- Load the settings from the first file with a usual name. -/
def ofUsualFile (files : Files) (directories : Directories) : Loading :=
  match probe? files directories with
  | some candidate => ofExistingFile files candidate.path candidate.shown
  | none => ⟨[], .error (.config "No config file found in any of the standard locations")⟩

/-- Load the settings from the environment, or else from a file with a usual name. -/
def load (environment : Environment) (files : Files) (directories : Directories) : Loading :=
  match ofEnvironment environment with
  | .ok config =>
      ⟨[⟨.info, logTarget, "Configuration loaded from environment variables", []⟩],
        .ok config⟩
  | .error _ => ofUsualFile files directories

end Config

end GroupSync
