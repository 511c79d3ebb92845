import GroupSync.Program

/-!
# The command line

Hands the arguments, the environment and the files to a run of the program, prints what it
reports and exits with its code.  No connection is made from here: every request of a run finds
its server unreachable.
-/

namespace GroupSync

def entryAt (path : String) : IO (Option FileEntry) := do
  try
    let bytes ← IO.FS.readBinFile path
    return some (.file bytes.toList)
  catch error =>
    match error with
    | .noFileOrDirectory _ _ _ => return none
    | .inappropriateType _ _ _ => return some .directory
    | _ => return none

/-- The entries along a path. -/
def entriesAlong (path : String) : IO (List (List String × FileEntry)) := do
  let entries ← (Files.stages path).mapM fun (stage, place) => do
    return (← entryAt stage).map fun entry => (place, entry)
  return entries.filterMap id

def settingNamed (name : String) : IO (Option (String × List UInt8)) := do
  return (← IO.getEnv name).map fun value => (name, Text.utf8Bytes value.toList)

/-- The result of an action that may fail. -/
def orNone {α : Type} (action : IO α) : IO (Option α) := do
  try
    return some (← action)
  catch _ =>
    return none

def directoriesInSight : IO Config.Directories := do
  let working ← orNone IO.currentDir
  let program ← orNone IO.appPath
  return ⟨working.map toString, (program.bind fun path => path.parent).map toString⟩

def surroundingsOf (arguments : List String) : IO Program.Surroundings := do
  let settings ← Program.variableNames.mapM settingNamed
  let directories ← directoriesInSight
  let entries ← (Program.pathsOf directories arguments).mapM entriesAlong
  return ⟨⟨settings.filterMap id⟩, ⟨entries.flatten⟩, directories⟩

end GroupSync

def main (arguments : List String) : IO UInt32 := do
  -- No reply arrives, so it makes no difference how bodies are read.
  let _ : GroupSync.Http.BodyDecoding := .utf8
  let surroundings ← GroupSync.surroundingsOf arguments
  let draws := List.replicate 64 (← IO.rand 0 0x80000000)
  let (report, world) := (GroupSync.Program.run surroundings arguments).run
    (.fresh .unreachable draws)
  for line in report.lines world.trace do
    IO.println line
  if !report.complaint.isEmpty then
    IO.eprintln report.complaint
  return UInt32.ofNat report.exitCode
