import GroupSync.Text.Utf8

/-!
# Environment variables

Settings that the surroundings of the program provide, as byte sequences by name.  A variable
whose value is no text counts as unset.
-/

namespace GroupSync

/-- The variables that are set, with their values. -/
structure Environment where
  /-- Names and values; the first entry of a name counts. -/
  entries : List (String × List UInt8)

namespace Environment

def text? (environment : Environment) (name : String) : Option String := do
  let entry ← environment.entries.find? fun entry => entry.1 == name
  let text ← Text.decodeUtf8? entry.2
  return String.ofList text

end Environment

end GroupSync
