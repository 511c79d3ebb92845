import GroupSync.Document.Json
import GroupSync.Document.JsonText
import GroupSync.NameSet

/-!
# Group definitions

A group that should exist in the external directory, as the host tool hands it in, with its
document form.  An absent description and an empty set of profiles are left out of the written
form; reading supplies them again.
-/

namespace GroupSync

open Document

/-- A group that should exist in the external directory. -/
structure Group where
  id : String
  description : Option String
  /-- Profiles declared on the group itself.  Commands are built from the configured profiles,
  not from these. -/
  profiles : NameSet
deriving DecidableEq

namespace Group

def toNode (group : Group) : Node :=
  .ofMembers
    (("id", .string group.id) ::
      ((group.description.map fun text => ("description", Node.string text)).toList ++
        (if group.profiles.isEmpty then []
          else [("productProfileIds", .ofStrings group.profiles.toList)])))

def render (group : Group) : String :=
  Json.render group.toNode

def shape : RecordShape :=
  ⟨"GroupDefinition",
    [.mandatory "id" Node.asString,
      .withDefault "description" Node.asOptionalString,
      .withDefault "productProfileIds" (Node.asListOf Node.asString)]⟩

def ofNode (node : Node) : Decoded Group := do
  let gathered ← shape.gather node
  let id ← gathered.required "id" Node.asString
  let description ← gathered.getD "description" Node.asOptionalString none
  let profiles ← gathered.getD "productProfileIds" (Node.asListOf Node.asString) []
  return ⟨id, description, .ofList profiles⟩

def listOfNode (node : Node) : Decoded (List Group) :=
  node.asListOf ofNode

def readList (text : String) : Decoded (List Group) :=
  Json.decode listOfNode text

end Group

end GroupSync
