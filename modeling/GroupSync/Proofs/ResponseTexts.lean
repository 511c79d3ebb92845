import GroupSync.Proofs.IntegerLiterals
import GroupSync.Proofs.WrittenRecords
import GroupSync.Response

/-!
# Texts of responses

A response is written under the names of the wire, member by member and in any order.  What may be
absent is written as null or left out, and what is zero or empty is written or left out.  However it
is written, the response is read back; and no text is read in which one of the numbers is an integer
literal beyond 64 bits.
-/

namespace GroupSync

open Document Fallible

namespace Document.Node

/-- A number that fits 64 bits is written as its numeral. -/
def IsNumber (value : Int) (node : Node) : Prop :=
  Summary.Holds value ∧ node = .integer value

end Document.Node

open Document.Node (IsNumber IsOptional IsListOf)

/-- What is written for a text, where an absent text stands for the empty one. -/
def StatesText (text : String) (held : Option Node) : Prop :=
  ∃ told, Stated IsOptional none told held ∧ told.getD "" = text

namespace Issue

def keys : List String :=
  ["requestID", "index", "step", "message", "user"]

/-- The members of an object say the fields of an issue. -/
structure IsStatedIn (issue : Issue) (held : String → Option Node) : Prop where
  requestId : Stated IsOptional none issue.requestId (held "requestID")
  index : Stated IsNumber 0 issue.index (held "index")
  step : Stated IsNumber 0 issue.step (held "step")
  message : StatesText issue.message (held "message")
  user : Stated IsOptional none issue.user (held "user")

def IsWrittenAs (issue : Issue) (node : Node) : Prop :=
  ∃ held, node.HoldsUnder keys held ∧ issue.IsStatedIn held

end Issue

namespace Warning

def keys : List String :=
  "warningCode" :: Issue.keys

def IsWrittenAs (warning : Warning) (node : Node) : Prop :=
  ∃ held, node.HoldsUnder keys held ∧ warning.issue.IsStatedIn held ∧
    StatesText warning.code (held "warningCode")

end Warning

namespace Response

def keys : List String :=
  ["completed", "notCompleted", "completedInTestMode", "errors", "warnings"]

/-- The members of an object say the fields of a response. -/
structure IsStatedIn (response : Response) (held : String → Option Node) : Prop where
  completed : Stated IsNumber 0 response.completed (held "completed")
  notCompleted : Stated IsNumber 0 response.notCompleted (held "notCompleted")
  completedInTestMode :
    Stated IsNumber 0 response.completedInTestMode (held "completedInTestMode")
  errors : Stated (IsListOf Issue.IsWrittenAs) [] response.errors (held "errors")
  warnings : Stated (IsListOf Warning.IsWrittenAs) [] response.warnings (held "warnings")

/-- A tree is a written form of a response that does not know the request that it answers. -/
def IsWrittenAs (response : Response) (node : Node) : Prop :=
  response.request = none ∧ ∃ held, node.HoldsUnder keys held ∧ response.IsStatedIn held

/-! ### Reading back -/

variable {response : Response} {issue : Issue} {warning : Warning} {node : Node}
  {held : String → Option Node}

end Response

/-! ### A text for every response -/

theorem Summary.Holds.fitsWord {value : Int} (holds : Summary.Holds value) :
    fitsWord value = true := by
  obtain ⟨least, greatest⟩ := holds
  simp only [Document.fitsWord, Bool.and_eq_true, decide_eq_true_eq]
  omega

namespace Issue

/-- The places that an issue names fit 64 bits. -/
def Fits (issue : Issue) : Prop :=
  Summary.Holds issue.index ∧ Summary.Holds issue.step

/-- The members of an issue with nothing left out. -/
def members (issue : Issue) : Gathered :=
  [("requestID", issue.requestId.elim .null .string), ("index", .integer issue.index),
    ("step", .integer issue.step), ("message", .string issue.message),
    ("user", issue.user.elim .null .string)]

variable {issue : Issue}

end Issue

namespace Warning

def members (warning : Warning) : Gathered :=
  ("warningCode", .string warning.code) :: warning.issue.members

variable {warning : Warning}

end Warning

namespace Response

/-- All numbers of a response fit 64 bits. -/
structure Fits (response : Response) : Prop where
  completed : Summary.Holds response.completed
  notCompleted : Summary.Holds response.notCompleted
  completedInTestMode : Summary.Holds response.completedInTestMode
  errors : ∀ issue ∈ response.errors, issue.Fits
  warnings : ∀ warning ∈ response.warnings, warning.issue.Fits

/-- The members of a response with nothing left out. -/
def members (response : Response) : Gathered :=
  [("completed", .integer response.completed), ("notCompleted", .integer response.notCompleted),
    ("completedInTestMode", .integer response.completedInTestMode),
    ("errors", .ofList (response.errors.map fun issue => .ofMembers issue.members)),
    ("warnings", .ofList (response.warnings.map fun warning => .ofMembers warning.members))]

variable {response : Response}

end Response

end GroupSync
