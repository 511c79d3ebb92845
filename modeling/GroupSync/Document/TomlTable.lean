import GroupSync.Document.JsonText

/-!
# Tables of TOML texts

The tree that grows while a TOML text is read.  How a table came about decides what may still
be added to it: a header may complete a table that was only implied by a longer header, a dotted
key may extend what was not stated by a header, and a table in braces is closed for good.
-/

namespace GroupSync

namespace Document

namespace Toml

/-- How a table came about. -/
inductive Origin where
  /-- On the way to a table with a longer header. -/
  | implied
  /-- On the way of a dotted key. -/
  | dotted
  /-- By a header of its own. -/
  | stated
  /-- In braces. -/
  | braced
deriving DecidableEq

inductive Value where
  | leaf (node : Node)
  | list (items : List Value)
  | table (origin : Origin) (members : List (String × Value))
  /-- The tables under one header in double brackets, last first. -/
  | tables (last : List (String × Value)) (earlier : List (List (String × Value)))

abbrev Members := List (String × Value)

def find? (members : Members) (key : String) : Option Value :=
  (members.find? fun member => member.1 == key).map Prod.snd

/-- Replace the value under a key that occurs. -/
def replace (members : Members) (key : String) (value : Value) : Members :=
  members.map fun member => if member.1 == key then (key, value) else member

/-- How a path is followed into a tree. -/
inductive Approach where
  /-- By a header: tables on the way are implied. -/
  | header
  /-- By a dotted key: tables with a header are closed. -/
  | dottedKey
  /-- By the header in force, whose tables exist. -/
  | inForce
deriving DecidableEq

namespace Approach

/-- The origin of the tables that are made on the way. -/
def origin : Approach → Origin
  | dottedKey => .dotted
  | _ => .implied

def mayEnter : Approach → Origin → Bool
  | header, origin => origin != .braced
  | dottedKey, origin => origin == .implied || origin == .dotted
  | inForce, _ => true

end Approach

/-- Change the members of the table at a path; `none` if the path is barred or the change is
refused. -/
def change (approach : Approach) (action : Members → Option Members) :
    List String → Members → Option Members
  | [], members => action members
  | key :: path, members =>
      match find? members key with
      | none => do
          let inner ← change approach action path []
          return members ++ [(key, .table approach.origin inner)]
      | some (.table origin inner) =>
          if approach.mayEnter origin then do
            let inner ← change approach action path inner
            return replace members key (.table origin inner)
          else none
      | some (.tables last earlier) => do
          let last ← change approach action path last
          return replace members key (.tables last earlier)
      | some _ => none

def add (key : String) (value : Value) (members : Members) : Option Members :=
  match find? members key with
  | none => some (members ++ [(key, value)])
  | some _ => none

def addUnder (path : List String) (value : Value) (members : Members) : Option Members :=
  match path.getLast? with
  | none => none
  | some key => change .dottedKey (add key value) path.dropLast members

/-- Open the table of a header: a new one, or one that is only implied so far. -/
def openTable (key : String) (members : Members) : Option Members :=
  match find? members key with
  | none => some (members ++ [(key, .table .stated [])])
  | some (.table .implied inner) => some (replace members key (.table .stated inner))
  | some _ => none

/-- Open a further table of a header in double brackets. -/
def openFurther (key : String) (members : Members) : Option Members :=
  match find? members key with
  | none => some (members ++ [(key, .tables [] [])])
  | some (.tables last earlier) => some (replace members key (.tables [] (last :: earlier)))
  | some _ => none

/-- Put a member into its place among members in ascending order of their keys. -/
def place (member : String × Node) : List (String × Node) → List (String × Node)
  | [] => [member]
  | first :: rest =>
      if member.1 < first.1 then member :: first :: rest else first :: place member rest

mutual

/-- The tree of a value; the members of a table stand in ascending order of their keys. -/
def Value.toNode : Value → Node
  | .leaf node => node
  | .list items => .ofList (listNodes items)
  | .table _ members => .ofMembers (memberNodes members)
  | .tables last earlier =>
      .ofList ((.ofMembers (memberNodes last) :: tableNodes earlier).reverse)

def listNodes : List Value → List Node
  | [] => []
  | item :: items => item.toNode :: listNodes items

def tableNodes : List (List (String × Value)) → List Node
  | [] => []
  | members :: tables => .ofMembers (memberNodes members) :: tableNodes tables

def memberNodes : List (String × Value) → List (String × Node)
  | [] => []
  | (key, value) :: members => place (key, value.toNode) (memberNodes members)

end

end Toml

end Document

end GroupSync
