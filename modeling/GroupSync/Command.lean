import GroupSync.Document.JsonText
import GroupSync.NameSet
import GroupSync.Text.Ascii

/-!
# Action commands

A command targets one user group and carries a list of steps that are executed in order.  The
wire form of a step is an object with a single key that names the type of the step.  Keys of
one object stand in ascending order.
-/

namespace GroupSync

open Document

/-- What the creation of a group does when the group exists already.  An update on conflict is
not offered, since the directory refuses it for names that differ only in case. -/
inductive ConflictPolicy where
  /-- Keep the existing group untouched. -/
  | ignoreIfExists
deriving DecidableEq, Inhabited

namespace ConflictPolicy

def all : List ConflictPolicy :=
  [ignoreIfExists]

def wireName : ConflictPolicy → String
  | ignoreIfExists => "ignoreIfAlreadyExists"

def diagnosticName : ConflictPolicy → String
  | ignoreIfExists => "IgnoreIfExists"

/-- The policy of a wire name in letters of any case. -/
def ofWireName? (name : String) : Option ConflictPolicy :=
  all.find? fun policy => Text.equalsIgnoringAsciiCase policy.wireName name

def refusal (name : String) : String :=
  "Invalid ConflictPolicy: " ++ name

end ConflictPolicy

inductive Step where
  | createGroup (policy : ConflictPolicy) (description : Option String)
  /-- Add users to the group, and the group to product profiles. -/
  | addMembership (users profiles : NameSet)
deriving DecidableEq

namespace Step

def create (description : Option String) : Step :=
  createGroup default description

def addProfiles (profiles : NameSet) : Step :=
  addMembership .empty profiles

/-- The wire key that names the type of a step. -/
def typeName : Step → String
  | createGroup _ _ => "createUserGroup"
  | addMembership _ _ => "add"

/-- The member that a set contributes to a wire object: none if the set is empty. -/
def setMember (key : String) (names : NameSet) : List (String × Node) :=
  if names.isEmpty then [] else [(key, .ofStrings names.toList)]

/-- The member that a description contributes: none if it is absent or empty, since the
directory refuses empty descriptions. -/
def descriptionMember (description : Option String) : List (String × Node) :=
  match description with
  | some text => if text.isEmpty then [] else [("description", .string text)]
  | none => []

def body : Step → Node
  | createGroup policy description =>
      .ofMembers (descriptionMember description ++ [("option", .string policy.wireName)])
  | addMembership users profiles =>
      .ofMembers (setMember "productConfiguration" profiles ++ setMember "user" users)

def toNode (step : Step) : Node :=
  .ofMembers [(step.typeName, step.body)]

def render (step : Step) : String :=
  Json.render step.toNode

end Step

/-- All steps for one user group, in the order of their execution. -/
structure Command where
  /-- The user group that the steps apply to. -/
  groupId : String
  steps : List Step
deriving DecidableEq

namespace Command

def toNode (command : Command) : Node :=
  .ofMembers
    [("do", .ofList (command.steps.map Step.toNode)), ("usergroup", .string command.groupId)]

def render (command : Command) : String :=
  Json.render command.toNode

end Command

/-- Commands that are sent together in one request. -/
structure Batch where
  commands : List Command
deriving DecidableEq

namespace Batch

def size (batch : Batch) : Nat :=
  batch.commands.length

def toNode (batch : Batch) : Node :=
  .ofList (batch.commands.map Command.toNode)

/-- The body of the request that sends a batch. -/
def payload (batch : Batch) : String :=
  Json.render batch.toNode

end Batch

end GroupSync
