import GroupSync.Outcome
import GroupSync.Proofs.ResponseTexts

/-!
# Diagnoses of refused batches

The text of a refusal shows every error of the response, with every fact about it as it came over
the wire, and then the request.  The facts are made of any characters, so nothing in the text tells
where one of them ends; that they stand one behind the other is said by `Shows`, which cuts the text
at their ends.
-/

namespace GroupSync

open Document Fallible

/-- Parts stand in a text in this order, each of them behind the end of the one before. -/
inductive Shows : List String → String → Prop
  | nothing (rest : String) : Shows [] rest
  | part (gap part : String) {parts : List String} {rest : String} (later : Shows parts rest) :
      Shows (part :: parts) (gap ++ part ++ rest)

namespace Shows

variable {parts others : List String} {text rest : String}

theorem behind (shows : Shows parts text) (gap : String) : Shows parts (gap ++ text) := by
  cases shows with
  | nothing => exact .nothing _
  | part inner part later =>
      rw [← String.append_assoc, ← String.append_assoc]
      exact .part (gap ++ inner) part later

theorem append (shows : Shows parts text) (later : Shows others rest) :
    Shows (parts ++ others) (text ++ rest) := by
  induction shows with
  | nothing between => exact later.behind between
  | part gap part _ induction =>
      rw [String.append_assoc]
      exact .part gap part induction

theorem front (part : String) (later : Shows parts rest) :
    Shows (part :: parts) (part ++ rest) := by
  have shows := Shows.part "" part later
  rwa [String.empty_append] at shows

theorem self (part : String) : Shows [part] part := by
  have shows := front part (.nothing "")
  rwa [String.append_empty] at shows

theorem before (shows : Shows parts text) (gap : String) : Shows parts (text ++ gap) := by
  have shows := shows.append (.nothing gap)
  rwa [List.append_nil] at shows

/-- One more fact, told under its name. -/
theorem named (shows : Shows parts text) {gap name between : String} (cut : gap ++ name = between)
    (value : String) : Shows (parts ++ [name ++ value]) (text ++ between ++ value) := by
  rw [← cut, String.append_assoc, String.append_assoc]
  exact shows.append ((Shows.self _).behind gap)

/-- What every item of a list shows, its rendering shows item by item. -/
theorem intercalate {α : Type} {facts : α → List String} {render : α → String} (separator : String)
    (each : ∀ item, Shows (facts item) (render item)) (items : List α) :
    Shows (items.flatMap facts) (separator.intercalate (items.map render)) := by
  induction items with
  | nil => exact .nothing _
  | cons item items induction =>
      cases items with
      | nil => simpa using each item
      | cons next items =>
          rw [List.flatMap_cons, List.map_cons, List.map_cons, String.intercalate_cons_cons,
            String.append_assoc]
          exact (each item).append (induction.behind separator)

end Shows

namespace Issue

open Shows (front behind)

/-- The facts about an issue, each of them under its name. -/
def facts (issue : Issue) : List String :=
  ["requestID=" ++ issue.requestId.getD "null", "index=" ++ toString issue.index,
    "step=" ++ toString issue.step, "message=" ++ issue.message,
    "user=" ++ issue.user.getD "null"]

theorem shows_render (issue : Issue) : Shows issue.facts issue.render := by
  unfold render renderFields
  have index : ", " ++ "index=" = ", index=" := by decide
  have step : ", " ++ "step=" = ", step=" := by decide
  have message : ", " ++ "message=" = ", message=" := by decide
  have user : ", " ++ "user=" = ", user=" := by decide
  have shows := (Shows.self ("requestID=" ++ issue.requestId.getD "null"))
    |>.named index (toString issue.index)
    |>.named step (toString issue.step)
    |>.named message issue.message
    |>.named user (issue.user.getD "null")
  exact (shows.before "]").behind _

end Issue

namespace AnsweredRequest

/-- The facts about a request that may not be known. -/
def facts (request : Option AnsweredRequest) : List String :=
  match request with
  | some request => request.method :: request.url :: request.payload.toList
  | none => ["Unknown"]

theorem shows_renderOption (request : Option AnsweredRequest) :
    Shows (facts request) (renderOption request) := by
  cases request with
  | none => exact .self _
  | some request =>
      obtain ⟨method, url, payload⟩ := request
      have place : Shows [method, url] (method ++ " " ++ url) := by
        rw [String.append_assoc]
        exact .front method ((Shows.self url).behind " ")
      cases payload with
      | none => exact place.append (.nothing "")
      | some payload => exact place.append ((Shows.self payload).behind "\nwith payload:\n")

end AnsweredRequest

namespace Failure

theorem shows_domain (errors : List Issue) (request : Option AnsweredRequest) :
    Shows (errors.flatMap Issue.facts ++ AnsweredRequest.facts request)
      (domain errors request).message := by
  have errorsShown := Shows.intercalate ", " Issue.shows_render errors
  have requestShown := AnsweredRequest.shows_renderOption request
  exact ((errorsShown.behind _).before _).append requestShown

end Failure

/-! ### Errors as they came over the wire -/

namespace Document.Node

theorem asOptionalString_eq_ok_iff {node : Node} {text : Option String} :
    node.asOptionalString = .ok text ↔ IsOptional text node := by
  refine ⟨fun asked => ?_, IsOptional.asOptionalString_eq⟩
  cases node with
  | null =>
      cases asked
      rfl
  | string value =>
      cases asked
      rfl
  | _ => cases asked

/-- What is got for a field that may be left out is stated by what was gathered. -/
theorem stated_of_getD {α : Type} {gathered : Gathered} {name : String} {ask : Node → Decoded α}
    {form : α → Node → Prop} {standard value : α}
    (forms : ∀ {node value}, ask node = .ok value → form value node)
    (got : gathered.getD name ask standard = .ok value) :
    Stated form standard value (gathered.find? name) := by
  rw [Gathered.getD] at got
  cases held : gathered.find? name with
  | none =>
      rw [held] at got
      cases got
      exact .leftOut
  | some node =>
      rw [held] at got
      exact .written (forms got)

end Document.Node

open Document.Node (IsNumber IsListOf stated_of_getD)

/-- A document is a record whose members state an issue. -/
def Issue.IsToldBy (issue : Issue) (node : Node) : Prop :=
  ∃ gathered, Response.issueShape.gather node = .ok gathered ∧ issue.IsStatedIn gathered.find?

namespace Response

/-- A document is a record that lists errors: what it states for them tells them one by one. -/
def ListsErrors (errors : List Issue) (node : Node) : Prop :=
  ∃ gathered, shape.gather node = .ok gathered ∧
    Stated (IsListOf Issue.IsToldBy) [] errors (gathered.find? "errors")

variable {body : String} {response : Response} {warning : Warning} {node : Node}

theorem isToldBy_of_warningOfNode (read : warningOfNode node = .ok warning) :
    warning.issue.IsToldBy node := by
  obtain ⟨gathered, made, read⟩ := bind_eq_ok_iff.mp read
  obtain ⟨requestId, gotId, read⟩ := bind_eq_ok_iff.mp read
  obtain ⟨index, gotIndex, read⟩ := bind_eq_ok_iff.mp read
  obtain ⟨step, gotStep, read⟩ := bind_eq_ok_iff.mp read
  obtain ⟨message, gotMessage, read⟩ := bind_eq_ok_iff.mp read
  obtain ⟨user, gotUser, read⟩ := bind_eq_ok_iff.mp read
  obtain ⟨code, -, ⟨⟩⟩ := bind_eq_ok_iff.mp read
  have number {node : Node} {value : Int} (asked : node.asInt64 = .ok value) :
      IsNumber value node := (Node.asInt64_eq_ok_iff.mp asked).symm
  exact ⟨gathered, made,
    { requestId := stated_of_getD Node.asOptionalString_eq_ok_iff.mp gotId
      index := stated_of_getD number gotIndex
      step := stated_of_getD number gotStep
      message := ⟨message, stated_of_getD Node.asOptionalString_eq_ok_iff.mp gotMessage, rfl⟩
      user := stated_of_getD Node.asOptionalString_eq_ok_iff.mp gotUser }⟩

/-- The errors of a response are those that its document lists, and it does not know its request. -/
theorem listsErrors_of_ofNode (read : ofNode node = .ok response) :
    ListsErrors response.errors node ∧ response.request = none := by
  obtain ⟨gathered, made, read⟩ := bind_eq_ok_iff.mp read
  obtain ⟨completed, -, read⟩ := bind_eq_ok_iff.mp read
  obtain ⟨notCompleted, -, read⟩ := bind_eq_ok_iff.mp read
  obtain ⟨completedInTestMode, -, read⟩ := bind_eq_ok_iff.mp read
  obtain ⟨errors, gotErrors, read⟩ := bind_eq_ok_iff.mp read
  obtain ⟨warnings, -, ⟨⟩⟩ := bind_eq_ok_iff.mp read
  refine ⟨⟨gathered, made, ?_⟩, rfl⟩
  rw [Gathered.getD] at gotErrors
  cases held : gathered.find? "errors" with
  | none =>
      rw [held] at gotErrors
      cases gotErrors
      exact .leftOut
  | some node =>
      rw [held] at gotErrors
      obtain ⟨items, rfl, each⟩ := Node.asListOf_eq_ok_iff.mp gotErrors
      refine .written ⟨items, rfl, List.forall₂_map_left_iff.mpr ?_⟩
      exact (each.imp fun _ _ one => isToldBy_of_warningOfNode one).flip

theorem ofNode_of_read (read : Response.read body = .ok response) :
    ofNode (Json.read body.toList).1 = .ok response := by
  rw [Response.read, Json.decode] at read
  obtain ⟨value, made, read⟩ := bind_eq_ok_iff.mp read
  refine made.trans ?_
  split at read
  · exact read
  · split at read
    · exact read
    · cases read

/-- Whoever is told of a refused batch is told all about it: the failure shows every error that the
document of the body lists, fact by fact, and then the request, if it is known. -/
theorem toResult_showsErrors (read : Response.read body = .ok response)
    (refused : response.errors ≠ []) (request : Option AnsweredRequest) :
    ∃ failure, (Outcome.ofResponse (request.elim response response.withRequest)).toResult =
        .error failure ∧
      Shows (response.errors.flatMap Issue.facts ++ AnsweredRequest.facts request)
        failure.message ∧
      ListsErrors response.errors (Json.read body.toList).1 := by
  obtain ⟨listed, unknown⟩ := listsErrors_of_ofNode (ofNode_of_read read)
  have attached : request.elim response response.withRequest =
      { response with request := request } := by
    cases request with
    | none => exact congrArg (fun request => { response with request }) unknown
    | some request => rfl
  refine ⟨.domain response.errors request, ?_, Failure.shows_domain _ _, listed⟩
  rw [attached, Outcome.toResult_ofResponse, if_neg refused]

/-- Two errors, one of them about a user whose name is the word for nobody, the other with a message
that looks like the end of an error and the beginning of the next. -/
theorem toResult_showsErrors_lookalike :
    let body := "\x7b\"errors\":[\x7b\"user\":\"null\"\x7d,\x7b\"requestID\":\"r\",\"index\":1," ++
      "\"message\":\"], ActionCommandIssue [\\n\"\x7d]\x7d"
    let errors : List Issue :=
      [⟨none, 0, 0, "", some "null"⟩, ⟨some "r", 1, 0, "], ActionCommandIssue [\n", none⟩]
    let response : Response := ⟨0, 0, 0, errors, [], none⟩
    Response.read body = .ok response ∧ response.errors ≠ [] ∧
      ∃ failure, (Outcome.ofResponse response).toResult = .error failure ∧
        Shows (errors.flatMap Issue.facts ++ ["Unknown"]) failure.message ∧
        ListsErrors errors (Json.read body.toList).1 := by
  intro body errors response
  have read : Response.read body = .ok response := by decide +kernel
  have refused : response.errors ≠ [] := by decide
  exact ⟨read, refused, toResult_showsErrors read refused none⟩

end Response

end GroupSync
