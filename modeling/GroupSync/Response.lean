import GroupSync.Document.Json

/-!
# Responses to a batch

What the directory answers to a batch of commands: three counters, the issues that made
commands fail and the issues that are mere remarks.  A response also knows the request that it
answers, which is rendered into every diagnostic so that an operator can replay it.
-/

namespace GroupSync

open Document

/-- The request that a response answers, as far as diagnostics show it. -/
structure AnsweredRequest where
  method : String
  /-- The URL with its query. -/
  url : String
  payload : Option String
deriving DecidableEq

namespace AnsweredRequest

def post (url payload : String) : AnsweredRequest :=
  ⟨"POST", url, some payload⟩

def render (request : AnsweredRequest) : String :=
  request.method ++ " " ++ request.url ++
    match request.payload with
    | some payload => "\nwith payload:\n" ++ payload
    | none => ""

/-- The form in diagnostics of a request that may not be known. -/
def renderOption (request : Option AnsweredRequest) : String :=
  match request with
  | some request => request.render
  | none => "Unknown"

end AnsweredRequest

/-- A remark or error about one step of one command. -/
structure Issue where
  /-- The name of the request as chosen by the caller. -/
  requestId : Option String
  /-- The position of the command within the batch. -/
  index : Int
  /-- The position of the step within the command. -/
  step : Int
  message : String
  user : Option String
deriving DecidableEq

namespace Issue

/-- The fields of an issue in diagnostics, without the opening. -/
def renderFields (issue : Issue) : String :=
  "requestID=" ++ issue.requestId.getD "null" ++
    ", index=" ++ toString issue.index ++
    ", step=" ++ toString issue.step ++
    ", message=" ++ issue.message ++
    ", user=" ++ issue.user.getD "null" ++ "]"

def render (issue : Issue) : String :=
  "ActionCommandIssue [" ++ issue.renderFields

def renderList (issues : List Issue) : String :=
  ", ".intercalate (issues.map render)

end Issue

/-- A remark together with its code for machines. -/
structure Warning where
  issue : Issue
  code : String
deriving DecidableEq

namespace Warning

def render (warning : Warning) : String :=
  "ActionCommandWarning [warningCode=" ++ warning.code ++ ", " ++ warning.issue.renderFields

end Warning

structure Response where
  completed : Int
  notCompleted : Int
  completedInTestMode : Int
  /-- Fatal issues: any of them fails the batch. -/
  errors : List Issue
  warnings : List Warning
  request : Option AnsweredRequest
deriving DecidableEq

namespace Response

def issueShape : RecordShape :=
  ⟨"WireIssue",
    [.withDefault "requestID" Node.asOptionalString,
      .withDefault "index" Node.asInt64,
      .withDefault "step" Node.asInt64,
      .withDefault "message" Node.asOptionalString,
      .withDefault "user" Node.asOptionalString,
      .withDefault "warningCode" Node.asOptionalString]⟩

/-- Ask a document for a remark; a missing message or code is empty. -/
def warningOfNode (node : Node) : Decoded Warning := do
  let gathered ← issueShape.gather node
  let requestId ← gathered.getD "requestID" Node.asOptionalString none
  let index ← gathered.getD "index" Node.asInt64 0
  let step ← gathered.getD "step" Node.asInt64 0
  let message ← gathered.getD "message" Node.asOptionalString none
  let user ← gathered.getD "user" Node.asOptionalString none
  let code ← gathered.getD "warningCode" Node.asOptionalString none
  return ⟨⟨requestId, index, step, message.getD "", user⟩, code.getD ""⟩

def shape : RecordShape :=
  ⟨"WireResponse",
    [.withDefault "completed" Node.asInt64,
      .withDefault "notCompleted" Node.asInt64,
      .withDefault "completedInTestMode" Node.asInt64,
      .withDefault "errors" (Node.asListOf warningOfNode),
      .withDefault "warnings" (Node.asListOf warningOfNode)]⟩

/-- Ask a document for a response.  Errors and remarks have one wire form; an error makes no
use of a code. -/
def ofNode (node : Node) : Decoded Response := do
  let gathered ← shape.gather node
  let completed ← gathered.getD "completed" Node.asInt64 0
  let notCompleted ← gathered.getD "notCompleted" Node.asInt64 0
  let completedInTestMode ← gathered.getD "completedInTestMode" Node.asInt64 0
  let errors ← gathered.getD "errors" (Node.asListOf warningOfNode) []
  let warnings ← gathered.getD "warnings" (Node.asListOf warningOfNode) []
  return ⟨completed, notCompleted, completedInTestMode, errors.map Warning.issue, warnings, none⟩

def read (body : String) : Decoded Response :=
  Json.decode ofNode body

def withRequest (response : Response) (request : AnsweredRequest) : Response :=
  { response with request := some request }

end Response

end GroupSync
