import GroupSync.Text.Utf8

/-!
# Files

The files that the program can see, found by paths that are relative to the working directory or
absolute.  A path is followed step by step, and every step but the last must be a directory.
-/

namespace GroupSync

inductive FileEntry where
  | file (bytes : List UInt8)
  | directory
deriving DecidableEq

inductive FileFault where
  | missing
  | stepIsFile
  | isDirectory
  | notText
deriving DecidableEq

def FileFault.message : FileFault → String
  | missing => "No such file or directory (os error 2)"
  | stepIsFile => "Not a directory (os error 20)"
  | isDirectory => "Is a directory (os error 21)"
  | notText => "stream did not contain valid UTF-8"

/-- The entries that exist, by the steps that lead to them from the working directory.  The
steps of an absolute path begin with a slash; directories on the way exist as well. -/
structure Files where
  entries : List (List String × FileEntry)

namespace Files

def root : String := "/"

def up : String := ".."

def entry? (files : Files) (place : List String) : Option FileEntry :=
  if place.all fun step => step == root || step == up then some .directory
  else
    match files.entries.find? fun entry => entry.1 == place with
    | some entry => some entry.2
    | none =>
        if files.entries.any fun entry => place.isPrefixOf entry.1 then some .directory
        else none

/-- The place above another one. -/
def above (place : List String) : List String :=
  match place.getLast? with
  | none => [up]
  | some last =>
      if last == root then place
      else if last == up then place ++ [up]
      else place.dropLast

/-- Follow steps from a place.  Empty steps and single dots stay where they are, but ask for a
directory like all others. -/
def follow (files : Files) : List String → List String → Except FileFault FileEntry
  | place, [] =>
      match files.entry? place with
      | some entry => .ok entry
      | none => .error .missing
  | place, step :: steps =>
      match files.entry? place with
      | none => .error .missing
      | some (.file _) => .error .stepIsFile
      | some .directory =>
          if step == "" || step == "." then files.follow place steps
          else if step == up then files.follow (above place) steps
          else files.follow (place ++ [step]) steps

/-- The place that steps lead to from another one, whatever exists there. -/
def place : List String → List String → List String
  | start, [] => start
  | start, step :: steps =>
      if step == "" || step == "." then place start steps
      else if step == up then place (above start) steps
      else place (start ++ [step]) steps

/-- The steps of a path and the place where they begin. -/
def steps (path : String) : List String × List String :=
  match (path.toList.splitOn '/').map String.ofList with
  | "" :: steps => ([root], steps)
  | steps => ([], steps)

/-- The paths on the way along a path, each with its place. -/
def stages (path : String) : List (String × List String) :=
  let (start, named) := steps path
  let opening := if start.isEmpty then "" else "/"
  (List.range named.length).map fun count =>
    let taken := named.take (count + 1)
    (opening ++ "/".intercalate taken, place start taken)

/-- The path of a name in a directory. -/
def join (directory name : String) : String :=
  if directory.toList.getLast?.all (· == '/') then directory ++ name
  else directory ++ "/" ++ name

def find (files : Files) (path : String) : Except FileFault FileEntry :=
  if path.isEmpty then .error .missing
  else
    let (start, named) := steps path
    files.follow start named

def contains (files : Files) (path : String) : Bool :=
  (files.find path).isOk

def readText (files : Files) (path : String) : Except FileFault String := do
  match ← files.find path with
  | .directory => .error .isDirectory
  | .file bytes =>
      match Text.decodeUtf8? bytes with
      | some text => return String.ofList text
      | none => .error .notText

/-- The last step of a path that names something. -/
def fileName? (path : String) : Option (List Char) :=
  let named := (path.toList.splitOn '/').filter fun step => !step.isEmpty && step != ['.']
  named.getLast?.filter (· != ['.', '.'])

/-- The part of a file's name behind its last dot, unless the dot opens the name. -/
def extension? (path : String) : Option String := do
  let name ← fileName? path
  let behind := (name.reverse.takeWhile (· != '.')).reverse
  let before := name.take (name.length - behind.length - 1)
  if behind.length = name.length || before.isEmpty then none else some (String.ofList behind)

end Files

end GroupSync
