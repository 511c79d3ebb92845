import GroupSync.Document.Node
import GroupSync.Text.Quoted

/-!
# Typed values of documents

Functions that ask a document tree for a value of a certain type, with the wording of every
refusal.  A record is decoded in two steps.  The members are first gathered one after another:
an unknown key is passed over, a known key must not have occurred before, and its value is
checked at once, so that the earliest fault is the one reported.  Then the record is assembled
from the gathered members by name, which makes their order irrelevant.  A list stands for a
record as well, its items being the fields in the order of their declaration.
-/

namespace GroupSync

namespace Document

/-- Why a value could not be decoded. -/
inductive DecodeError where
  | fault (cause : Fault)
  /-- A value of another type stands where `expected` was asked for. -/
  | invalidType (found expected : String)
  /-- A value of the right type lies outside what `expected` allows. -/
  | invalidValue (found expected : String)
  /-- A list is too short for the record it stands for. -/
  | invalidLength (length : Nat) (expected : String)
  /-- A field without a default does not occur. -/
  | missingField (name : String)
  | duplicateField (name : String)
deriving DecidableEq, Repr

namespace DecodeError

/-- The wording of a refusal.  The position that a reader of texts adds to it, the line and the
column, is left out: values are decoded from a tree, which knows no positions. -/
def message : DecodeError → String
  | fault cause => cause.message
  | invalidType found expected => "invalid type: " ++ found ++ ", expected " ++ expected
  | invalidValue found expected => "invalid value: " ++ found ++ ", expected " ++ expected
  | invalidLength length expected =>
      "invalid length " ++ toString length ++ ", expected " ++ expected
  | missingField name => "missing field `" ++ name ++ "`"
  | duplicateField name => "duplicate field `" ++ name ++ "`"

end DecodeError

/-- The outcome of asking for a value. -/
abbrev Decoded (α : Type) := Except DecodeError α

/-- An integer fits 64 bits, with or without a sign. -/
def fitsWord (value : Int) : Bool :=
  -0x8000000000000000 ≤ value && value < 0x10000000000000000

/-- The description of an integer in a refusal.  One that does not fit 64 bits is described
together with the width that it takes. -/
def describeInteger (value : Int) : String :=
  "integer `" ++ toString value ++ "`" ++
    if fitsWord value then ""
    else if value < 0x80000000000000000000000000000000 then " as i128"
    else " as u128"

namespace Node

def refuse {α : Type} (node : Node) (expected : String) : Decoded α :=
  match node with
  | null => .error (.invalidType "null" expected)
  | boolean value =>
      .error (.invalidType (if value then "boolean `true`" else "boolean `false`") expected)
  | integer value => .error (.invalidType (describeInteger value) expected)
  | float text => .error (.invalidType ("floating point `" ++ text ++ "`") expected)
  | string value => .error (.invalidType ("string " ++ Text.quoted value) expected)
  | list _ _ => .error (.invalidType "sequence" expected)
  | object _ _ => .error (.invalidType "map" expected)
  | flawed flaw => .error (.fault flaw.decoding)

def asString (node : Node) : Decoded String :=
  match node with
  | string value => .ok value
  | other => other.refuse "a string"

def asOptionalString (node : Node) : Decoded (Option String) :=
  match node with
  | null => .ok none
  | string value => .ok (some value)
  | other => other.refuse "a string"

def asBoolean (node : Node) : Decoded Bool :=
  match node with
  | boolean value => .ok value
  | other => other.refuse "a boolean"

/-- Ask for an integer between two bounds; one that does not fit 64 bits counts as a value of
another type. -/
def asIntegerBetween (least greatest : Int) (expected : String) (node : Node) : Decoded Int :=
  match node with
  | integer value =>
      if least ≤ value ∧ value ≤ greatest then .ok value
      else if fitsWord value then .error (.invalidValue (describeInteger value) expected)
      else .error (.invalidType (describeInteger value) expected)
  | other => other.refuse expected

def asInt64 (node : Node) : Decoded Int :=
  node.asIntegerBetween (-0x8000000000000000) 0x7FFFFFFFFFFFFFFF "i64"

def asUInt64 (node : Node) : Decoded Nat := do
  let value ← node.asIntegerBetween 0 0xFFFFFFFFFFFFFFFF "u64"
  return value.toNat

/-- The refusal that the end of a list brings, if it has a flaw. -/
def endingRefusal (ending : Option Flaw) : Decoded Unit :=
  match ending with
  | none => .ok ()
  | some flaw => .error (.fault flaw.decoding)

def asListOf {α : Type} (item : Node → Decoded α) (node : Node) : Decoded (List α) :=
  match node with
  | list items ending => do
      let values ← items.mapM item
      endingRefusal ending
      return values
  | other => other.refuse "a sequence"

end Node

structure Field where
  name : String
  /-- The field may be left out of a list that stands for the record. -/
  optional : Bool
  check : Node → Decoded Unit

namespace Field

/-- A field whose value is asked for by a given function. -/
def mandatory {α : Type} (name : String) (ask : Node → Decoded α) : Field :=
  ⟨name, false, fun node => (ask node).map fun _ => ()⟩

def withDefault {α : Type} (name : String) (ask : Node → Decoded α) : Field :=
  ⟨name, true, fun node => (ask node).map fun _ => ()⟩

end Field

/-- The fields of a record in the order of their declaration. -/
structure RecordShape where
  name : String
  fields : List Field

/-- The gathered members of a record: keys with their values. -/
abbrev Gathered := List (String × Node)

namespace RecordShape

def expectation (shape : RecordShape) : String :=
  "struct " ++ shape.name

/-- The record in the wording of a refusal for want of items. -/
def lengthExpectation (shape : RecordShape) : String :=
  shape.expectation ++ " with " ++ toString shape.fields.length ++ " elements"

def field? (shape : RecordShape) (name : String) : Option Field :=
  shape.fields.find? fun field => field.name == name

def keyName (key : Node) : Decoded String :=
  match key with
  | .string name => .ok name
  | .flawed flaw => .error (.fault flaw.decoding)
  | _ => .error (.fault .keyNotString)

/-- Pass over a value under an unknown key. -/
def skip (value : Node) : Decoded Unit :=
  match value.skipFault? with
  | none => .ok ()
  | some fault => .error (.fault fault)

def gatherMembers (shape : RecordShape) : List (Node × Node) → Gathered → Decoded Gathered
  | [], gathered => .ok gathered
  | (key, value) :: members, gathered => do
      let name ← keyName key
      match shape.field? name with
      | none =>
          skip value
          shape.gatherMembers members gathered
      | some field =>
          if gathered.any fun member => member.1 == name then
            .error (.duplicateField name)
          else
            field.check value
            shape.gatherMembers members (gathered ++ [(name, value)])

/-- The refusal of a list that goes on, or breaks off, after the last field. -/
def afterLastItem (items : List Node) (ending : Option Flaw) : Decoded Unit :=
  match items, ending with
  | [], none => .ok ()
  | [], some flaw =>
      if flaw.decoding = .expectedCommaOrBracket then .error (.fault .trailingCharacters)
      else .error (.fault flaw.decoding)
  | _ :: _, _ => .error (.fault .trailingCharacters)

/-- Gather the items of a list that stands for the record, as the fields from `index` on. -/
def gatherItems (shape : RecordShape) :
    List Field → Nat → List Node → Option Flaw → Decoded Gathered
  | [], _, items, ending => do
      afterLastItem items ending
      return []
  | field :: fields, index, item :: items, ending => do
      field.check item
      let gathered ← shape.gatherItems fields (index + 1) items ending
      return (field.name, item) :: gathered
  | field :: fields, index, [], ending => do
      Node.endingRefusal ending
      if field.optional then shape.gatherItems fields (index + 1) [] ending
      else .error (.invalidLength index shape.lengthExpectation)

/-- Gather the members of the record that a value stands for. -/
def gather (shape : RecordShape) (node : Node) : Decoded Gathered :=
  match node with
  | .object members ending => do
      let gathered ← shape.gatherMembers members []
      Node.endingRefusal ending
      return gathered
  | .list items ending => shape.gatherItems shape.fields 0 items ending
  | other => other.refuse shape.expectation

end RecordShape

namespace Gathered

def find? (gathered : Gathered) (name : String) : Option Node :=
  (List.find? (fun member => member.1 == name) gathered).map Prod.snd

def required {α : Type} (gathered : Gathered) (name : String) (ask : Node → Decoded α) :
    Decoded α :=
  match gathered.find? name with
  | some node => ask node
  | none => .error (.missingField name)

/-- The value under a key, or the default of a field that is left out. -/
def getD {α : Type} (gathered : Gathered) (name : String) (ask : Node → Decoded α)
    (standard : α) : Decoded α :=
  match gathered.find? name with
  | some node => ask node
  | none => .ok standard

end Gathered

end Document

end GroupSync
