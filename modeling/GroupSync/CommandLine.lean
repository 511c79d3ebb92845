/-!
# Command lines

What the program is asked to do by its arguments: to show its help or its version, or to
synchronize the groups of a file, with or without a configuration file.  Arguments are looked at
from left to right, and the first one that is wrong, or asks for help or the version, decides.
-/

namespace GroupSync

namespace CommandLine

/-- What the program is asked to do. -/
inductive Invocation where
  | help
  | version
  | synchronize (groups : String) (config : Option String)
deriving DecidableEq

inductive UsageFault where
  | missingGroups
  | unexpected (argument : String)
  | missingValue (parameter : String)
  | repeated (parameter : String)
  | surplusValue (value parameter : String)
deriving DecidableEq

def UsageFault.message : UsageFault → String
  | missingGroups => "error: the following required arguments were not provided:"
  | unexpected argument => "error: unexpected argument '" ++ argument ++ "' found"
  | missingValue parameter =>
      "error: a value is required for '" ++ parameter ++ "' but none was supplied"
  | repeated parameter =>
      "error: the argument '" ++ parameter ++ "' cannot be used multiple times"
  | surplusValue value parameter =>
      "error: unexpected value '" ++ value ++ "' for '" ++ parameter ++
        "' found; no more were expected"

/-- The option that names a configuration file, as refusals show it. -/
def configParameter : String :=
  "--config <PATH>"

/-- The argument that names the file of groups, as refusals show it. -/
def groupsParameter : String :=
  "<GROUPS>"

/-- What is known after some arguments. -/
structure Progress where
  groups : Option String
  config : Option String
  /-- The option for a configuration file waits for its value. -/
  waiting : Bool

abbrev Outcome := Except UsageFault Invocation

namespace Progress

def start : Progress :=
  ⟨none, none, false⟩

/-- Close what is open: an option must have its value, and a file must have a name. -/
def settle (progress : Progress) : Except UsageFault Unit :=
  if progress.waiting then .error (.missingValue configParameter)
  else if progress.groups = some "" then .error (.missingValue groupsParameter)
  else .ok ()

def takeConfig (progress : Progress) (value : String) : Except UsageFault Progress :=
  if progress.config.isSome then .error (.repeated configParameter)
  else if value.isEmpty then .error (.missingValue configParameter)
  else .ok { progress with config := some value, waiting := false }

def takeGroups (progress : Progress) (value : String) : Except UsageFault Progress :=
  if progress.groups.isSome then .error (.unexpected value)
  else do
    progress.settle
    return { progress with groups := some value }

/-- Take the option for a configuration file, with its value if that is attached. -/
def takeOption (progress : Progress) (value : Option String) : Except UsageFault Progress := do
  progress.settle
  match value with
  | some value => progress.takeConfig value
  | none => return { progress with waiting := true }

def finish (progress : Progress) : Outcome := do
  progress.settle
  match progress.groups with
  | some groups => return .synchronize groups progress.config
  | none => .error .missingGroups

end Progress

/-- An argument goes on with known state or decides what is asked for. -/
inductive Step where
  | proceed (progress : Progress)
  | decide (invocation : Invocation)

/-- Take an option without a value that decides what is asked for. -/
def takeDeciding (progress : Progress) (invocation : Invocation) (parameter : String)
    (value : Option String) : Except UsageFault Step :=
  match value with
  | some value => .error (.surplusValue value parameter)
  | none => do
      progress.settle
      return .decide invocation

/-- Take an option with a long name, which stands behind two hyphens. -/
def takeLong (progress : Progress) (text : List Char) : Except UsageFault Step :=
  let name := String.ofList (text.takeWhile (· != '='))
  let value := match text.dropWhile (· != '=') with
    | [] => none
    | _ :: value => some (String.ofList value)
  if name == "config" then (progress.takeOption value).map .proceed
  else if name == "help" then takeDeciding progress .help "--help" value
  else if name == "version" then takeDeciding progress .version "--version" value
  else .error (.unexpected ("--" ++ name))

/-- Take an option with a short name, which stands behind a hyphen; what follows the name is its
value. -/
def takeShort (progress : Progress) (name : Char) (rest : List Char) : Except UsageFault Step :=
  if name == 'c' then
    let value := match rest with
      | [] => none
      | '=' :: value => some (String.ofList value)
      | value => some (String.ofList value)
    (progress.takeOption value).map .proceed
  else if name == 'h' then takeDeciding progress .help "--help" none
  else if name == 'V' then takeDeciding progress .version "--version" none
  else .error (.unexpected (String.ofList ['-', name]))

/-- Take an argument that may be an option. -/
def take (progress : Progress) (argument : String) : Except UsageFault Step :=
  match argument.toList with
  | '-' :: '-' :: text => takeLong progress text
  | '-' :: name :: rest => takeShort progress name rest
  | _ =>
      if progress.waiting then (progress.takeConfig argument).map .proceed
      else (progress.takeGroups argument).map .proceed

/-- Take the arguments behind two hyphens, none of which is an option. -/
def takeFiles (progress : Progress) : List String → Outcome
  | [] => progress.finish
  | argument :: arguments => do
      let progress ← progress.takeGroups argument
      takeFiles progress arguments

def takeAll (progress : Progress) : List String → Outcome
  | [] => progress.finish
  | argument :: arguments =>
      if argument == "--" then takeFiles progress arguments
      else
        match take progress argument with
        | .error fault => .error fault
        | .ok (.decide invocation) => .ok invocation
        | .ok (.proceed progress) => takeAll progress arguments

/-- What arguments ask for. -/
def read (arguments : List String) : Outcome :=
  takeAll .start arguments

def versionText : String :=
  "umsync 0.1.0"

def helpText : String :=
  "\n".intercalate
    ["Synchronize group definitions into Adobe IMS",
      "",
      "Usage: umsync [OPTIONS] <GROUPS>",
      "",
      "Arguments:",
      "  <GROUPS>  JSON file holding the group definitions to synchronize",
      "",
      "Options:",
      "  -c, --config <PATH>  JSON or TOML configuration file",
      "  -h, --help           Print help",
      "  -V, --version        Print version",
      "",
      "Environment:",
      "  UMSYNC_ORGANIZATION_ID, UMSYNC_CLIENT_ID, UMSYNC_CLIENT_SECRET, ...",
      "  UMSYNC_LOG_FORMAT=json  Emit JSON log lines",
      "  RUST_LOG                Log filter (default: info)"]

end CommandLine

end GroupSync
