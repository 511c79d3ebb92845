import GroupSync.Proofs.FailedCommands
import GroupSync.Proofs.Transcripts

/-!
# What the log of a run tells

A run records the warnings of every accepted response, and the failure that ends it, if one does.
The log, the summary and the failure are made at different places; this file shows that they tell
the same, whatever the replies are and whatever the channels record in between.
-/

namespace GroupSync

namespace LogEvent

/-- The value of a field of an event. -/
def field? (event : LogEvent) (name : String) : Option LogValue :=
  (event.fields.find? fun field => field.1 == name).map Prod.snd

/-- An event that tells of one warning: its text, with its code beside it. -/
structure TellsWarning (warning : Warning) (event : LogEvent) : Prop where
  level : event.level = .warn
  message : event.message = warning.render
  code : event.fields = [("code", .text warning.code)]

/-- Events that tell of the warnings of a response: how many there are and what request they are
about, and then each of them. -/
inductive TellWarnings (response : Response) : List LogEvent → Prop
  | told {opening : LogEvent} {each : List LogEvent} (level : opening.level = .warn)
      (message : opening.message = "Remote returned warnings")
      (count : opening.field? "count" = some (.number response.warnings.length))
      (request : opening.field? "request" =
        some (.text (response.request.elim "Unknown" AnsweredRequest.render)))
      (warnings : List.Forall₂ TellsWarning response.warnings each) :
      TellWarnings response (opening :: each)

end LogEvent

/-- A response that is accepted and has warnings. -/
def Response.IsRemarked (response : Response) : Prop :=
  response.errors = [] ∧ response.warnings ≠ []

instance (response : Response) : Decidable response.IsRemarked :=
  inferInstanceAs (Decidable (_ ∧ _))

/-- The responses that are accepted and have warnings. -/
def remarkedOf (responses : List Response) : List Response :=
  responses.filter fun response => response.IsRemarked

theorem flatMap_warnings_remarkedOf {responses : List Response}
    (clean : ∀ response ∈ responses, response.errors = []) :
    (remarkedOf responses).flatMap Response.warnings = responses.flatMap Response.warnings := by
  induction responses with
  | nil => rfl
  | cons response responses induction =>
      rw [List.forall_mem_cons] at clean
      have later := induction clean.2
      rw [remarkedOf] at later
      by_cases silent : response.warnings = []
      · simpa [remarkedOf, Response.IsRemarked, silent] using later
      · simpa [remarkedOf, Response.IsRemarked, clean.1, silent] using later

/-- A reply that ends the run brings no warnings. -/
theorem remarkedOf_responsesOf_of_ending {reply : Except Failure Response} {failure : Failure}
    (ends : Scenario.ending? reply = some failure) :
    remarkedOf (Scenario.responsesOf [reply]) = [] := by
  cases reply with
  | error error => rfl
  | ok response =>
      have refused : response.errors ≠ [] := by
        intro clean
        rw [Scenario.ending?, if_pos clean] at ends
        cases ends
      simp [remarkedOf, Response.IsRemarked, refused]

namespace Synchronization

open LogEvent

theorem tellsWarning_warningEvent (warning : Warning) :
    TellsWarning warning (warningEvent warning) :=
  ⟨rfl, rfl, rfl⟩

theorem tellsEach_map_warningEvent (warnings : List Warning) :
    List.Forall₂ TellsWarning warnings (warnings.map warningEvent) :=
  List.forall₂_map_right_iff.mpr
    (List.forall₂_same.mpr fun warning _ => tellsWarning_warningEvent warning)

theorem tellWarnings_warningEvents (response : Response) :
    TellWarnings response (warningEvents response.request response.warnings) := by
  refine .told rfl rfl rfl ?_ (tellsEach_map_warningEvent response.warnings)
  cases asked : response.request <;> rfl

theorem outcomeEvents_eq (response : Response) :
    outcomeEvents response =
      if response.IsRemarked then warningEvents response.request response.warnings else [] := by
  cases errors : response.errors with
  | cons error errors => simp [outcomeEvents, Outcome.ofResponse, Response.IsRemarked, errors]
  | nil =>
      cases warnings : response.warnings <;>
        simp [outcomeEvents, Outcome.ofResponse, Response.IsRemarked, errors, warnings]

theorem flatMap_outcomeEvents (responses : List Response) :
    responses.flatMap outcomeEvents = (remarkedOf responses).flatMap fun response =>
      warningEvents response.request response.warnings := by
  induction responses with
  | nil => rfl
  | cons response responses induction =>
      rw [List.flatMap_cons, induction, outcomeEvents_eq]
      by_cases remarked : response.IsRemarked
      · simp [remarkedOf, remarked]
      · simp [remarkedOf, remarked]

theorem level_warningEvents {request : Option AnsweredRequest} {warnings : List Warning} :
    ∀ event ∈ warningEvents request warnings, event.level = .warn := by
  rintro event (_ | ⟨_, listed⟩)
  · rfl
  · obtain ⟨warning, -, rfl⟩ := List.mem_map.mp listed
    rfl

theorem level_outcomeEvents (responses : List Response) :
    ∀ event ∈ responses.flatMap outcomeEvents, event.level = .warn := by
  rw [flatMap_outcomeEvents]
  intro event listed
  obtain ⟨response, -, listed⟩ := List.mem_flatMap.mp listed
  exact level_warningEvents event listed

/-- The events of responses are all warnings, so they are all that is left among the warnings of a
run if the events around them are none. -/
theorem filter_warn_around {opening closing : LogEvent} (responses : List Response)
    (opens : opening.level ≠ .warn) (closes : closing.level ≠ .warn) :
    (opening :: (responses.flatMap outcomeEvents ++ [closing])).filter
        (fun event => event.level = .warn) = responses.flatMap outcomeEvents := by
  have kept : (responses.flatMap outcomeEvents).filter (fun event => event.level = .warn) =
      responses.flatMap outcomeEvents :=
    List.filter_eq_self.mpr fun event listed =>
      decide_eq_true (level_outcomeEvents responses event listed)
  rw [List.filter_cons_of_neg (by simpa using opens), List.filter_append, kept,
    List.filter_cons_of_neg (by simpa using closes), List.filter_nil, List.append_nil]

theorem filter_error_around {opening closing : LogEvent} (responses : List Response)
    (opens : opening.level ≠ .error) :
    (opening :: (responses.flatMap outcomeEvents ++ [closing])).filter
        (fun event => event.level = .error) =
      [closing].filter fun event => event.level = .error := by
  have dropped : (responses.flatMap outcomeEvents).filter (fun event => event.level = .error) =
      [] := by
    refine List.filter_eq_nil_iff.mpr fun event listed => ?_
    simp [level_outcomeEvents responses event listed]
  rw [List.filter_cons_of_neg (by simpa using opens), List.filter_append, dropped,
    List.nil_append]

/-- The events of responses fall into one group for each response with warnings, in order, and the
groups tell of these warnings one by one. -/
theorem exists_groups_eq (responses : List Response) : ∃ groups : List (List LogEvent),
    responses.flatMap outcomeEvents = groups.flatten ∧
      List.Forall₂ TellWarnings (remarkedOf responses) groups ∧
      List.Forall₂ TellsWarning ((remarkedOf responses).flatMap Response.warnings)
        (groups.flatMap List.tail) := by
  refine ⟨(remarkedOf responses).map fun response =>
    warningEvents response.request response.warnings, ?_, ?_, ?_⟩
  · rw [flatMap_outcomeEvents, List.flatMap_def]
  · exact List.forall₂_map_right_iff.mpr
      (List.forall₂_same.mpr fun response _ => tellWarnings_warningEvents response)
  · have each := tellsEach_map_warningEvent ((remarkedOf responses).flatMap Response.warnings)
    rw [List.map_flatMap] at each
    rwa [List.flatMap_map]

/-- The event that ends a run names its batch, the number of batches and the failure. -/
structure TellsFailure (batch total : Nat) (failure : Failure) (event : LogEvent) : Prop where
  level : event.level = .error
  batch : event.field? "batch" = some (.number batch)
  total : event.field? "of" = some (.number total)
  failure : event.field? "error" = some (.text failure.message)

theorem tellsFailure_endingEvent {batch total : Nat} {reply : Except Failure Response}
    {failure : Failure} (ends : Scenario.ending? reply = some failure) :
    TellsFailure batch total failure (Rehearsal.endingEvent batch total reply) := by
  cases reply with
  | error error =>
      cases ends
      exact ⟨rfl, rfl, rfl, rfl⟩
  | ok response =>
      obtain ⟨-, rfl⟩ : response.errors ≠ [] ∧
          .domain response.errors response.request = failure := by
        simpa [Scenario.ending?] using ends
      exact ⟨rfl, rfl, rfl, rfl⟩

end Synchronization

namespace Transcript

open Scenario Synchronization LogEvent

/-- The log of a run under a token tells the same as the replies that the run heard and as its
result. -/
structure Agrees (scenario : Scenario) (total : Nat) (result : Except RunFailure Summary)
    (log : List Entry) : Prop where
  /-- The warnings in the log are those of the accepted responses, one group of events for each
  response that has any, and those of the summary if there is one. -/
  warned : ∃ groups : List (List LogEvent),
    (ownEvents log).filter (fun event => event.level = .warn) = groups.flatten ∧
      List.Forall₂ TellWarnings (remarkedOf (scenario.responses total)) groups ∧
      ∀ summary, result = .ok summary →
        List.Forall₂ TellsWarning summary.warnings (groups.flatMap List.tail)
  succeeded : ∀ summary, result = .ok summary →
    (ownEvents log).filter (fun event => event.level = .error) = []
  /-- The only error in the log is the last event, and names the batch whose reply ended the run. -/
  failed : ∀ failure, result = .error failure → ∃ index error event,
    failure = .failed error ∧ index < total ∧ scenario.GoesOnTo index ∧
      ending? (scenario.replies.get index) = some error ∧
      TellsFailure (index + 1) total error event ∧
      (ownEvents log).filter (fun event => event.level = .error) = [event] ∧
      (log.filter fun entry => entry.event.isAtLeast .info).getLast? = some (.ofRun event)

variable {scenario : Scenario} {token : Token} {total : Nat} {log : List Entry}

theorem getLast?_ownEvents {event : LogEvent} (last : log.getLast? = some (.ofRun event)) :
    (ownEvents log).getLast? = some event := by
  obtain ⟨earlier, rfl⟩ := List.getLast?_eq_some_iff.mp last
  rw [ownEvents, List.filterMap_append]
  exact List.getLast?_concat

theorem getLast?_filter_isAtLeast {event : LogEvent} {level : LogLevel}
    (last : log.getLast? = some (.ofRun event)) (severe : event.isAtLeast level = true) :
    (log.filter fun entry => entry.event.isAtLeast level).getLast? = some (.ofRun event) := by
  obtain ⟨earlier, rfl⟩ := List.getLast?_eq_some_iff.mp last
  have shown : [Entry.ofRun event].filter (fun entry => entry.event.isAtLeast level) =
      [.ofRun event] :=
    List.filter_eq_self.mpr (by simpa [Entry.event] using severe)
  rw [List.filter_append, shown, List.getLast?_concat]

theorem agrees_of_finishing (granted : scenario.token = .ok token) (going : scenario.GoesOnTo total)
    {batches : List Batch}
    (own : ownEvents log = startEvent total ::
      ((scenario.firstResponses total).flatMap outcomeEvents ++
        [finishEvent (Summary.empty.extended batches (scenario.firstResponses total))])) :
    Agrees scenario total
      (.ok (Summary.empty.extended batches (scenario.firstResponses total))) log := by
  have opens : (startEvent total).level = .info := rfl
  have closes (summary : Summary) : (finishEvent summary).level = .info := rfl
  obtain ⟨groups, events, tell, tellEach⟩ := exists_groups_eq (scenario.firstResponses total)
  rw [flatMap_warnings_remarkedOf (errors_eq_nil_of_goesOnTo going)] at tellEach
  constructor
  · refine ⟨groups, ?_, ?_, ?_⟩
    · rw [own, filter_warn_around _ (by simp [opens]) (by simp [closes]), events]
    · rwa [responses_of_goesOnTo granted going]
    · rintro _ ⟨⟩
      simpa [Summary.extended, Summary.empty] using tellEach
  · rintro _ -
    rw [own, filter_error_around _ (by simp [opens])]
    simp [closes]
  · rintro _ ⟨⟩

theorem agrees_of_ending (granted : scenario.token = .ok token) {index : Nat} {failure : Failure}
    (going : scenario.GoesOnTo index) (inside : index < total)
    (ends : ending? (scenario.replies.get index) = some failure)
    (own : ownEvents log = startEvent total ::
      ((scenario.firstResponses index).flatMap outcomeEvents ++
        [Rehearsal.endingEvent (index + 1) total (scenario.replies.get index)]))
    (last : ∃ event, log.getLast? = some (.ofRun event)) :
    Agrees scenario total (.error (.failed failure)) log := by
  have opens : (startEvent total).level = .info := rfl
  have tells : TellsFailure (index + 1) total failure _ := tellsFailure_endingEvent ends
  obtain ⟨groups, events, tell, -⟩ := exists_groups_eq (scenario.firstResponses index)
  constructor
  · refine ⟨groups, ?_, ?_, nofun⟩
    · rw [own, filter_warn_around _ (by simp [opens]) (by simp [tells.level]), events]
    · rw [responses_of_ending granted going inside ends, firstResponses, Stream'.take_succ',
        responsesOf_append, remarkedOf, List.filter_append]
      have silent := remarkedOf_responsesOf_of_ending ends
      rw [remarkedOf] at silent tell
      rwa [silent, List.append_nil]
  · rintro _ ⟨⟩
  · rintro _ ⟨⟩
    refine ⟨index, failure, _, rfl, inside, going, ends, tells, ?_, ?_⟩
    · rw [own, filter_error_around _ (by simp [opens])]
      simp [tells.level]
    · obtain ⟨event, last⟩ := last
      have ended := getLast?_ownEvents last
      rw [own, ← List.cons_append, List.getLast?_concat] at ended
      cases ended
      exact getLast?_filter_isAtLeast last (by
        simp [LogEvent.isAtLeast, tells.level, LogLevel.verbosity])

end Transcript

open Rehearsal Scenario Transcript

/-- Whatever the replies are and whatever the channels record, the log of a run under a token whose
responses can be counted tells the same as the replies and as the result; a run without a token
records nothing. -/
theorem transcribe_agrees (scenario : Scenario) (asides : Stream' (List LogEvent))
    (profiles : NameSet) (groups : List Group) :
    let total := (Batch.ofGroups profiles groups).length
    let ended := transcribe scenario asides profiles groups
    (∀ error, scenario.token = .error error →
      ended.1 = .error (.failed error) ∧ ownEvents ended.2.log = []) ∧
    ∀ token, scenario.token = .ok token → Summary.empty.Fits (scenario.responses total) →
      Agrees scenario total ended.1 ended.2.log := by
  intro total ended
  obtain ⟨result, own⟩ := transcribe_follows scenario asides profiles groups
  constructor
  · intro error denied
    rw [rehearse_of_denied denied] at result own
    exact ⟨result, own⟩
  · intro token granted fits
    by_cases going : scenario.GoesOnTo total
    · rw [responses_of_goesOnTo granted going] at fits
      rw [rehearse_of_finishing granted rfl going fits] at result own
      have finished : ended.1 = _ := result
      rw [finished]
      exact agrees_of_finishing granted going own
    · obtain ⟨index, inside, first, failure, ends⟩ := exists_ending_of_not_goesOnTo going
      rw [responses_of_ending granted first inside ends] at fits
      rw [rehearse_of_ending granted rfl first inside ends fits] at result own
      have failed : ended.1 = _ := result
      rw [failed]
      exact agrees_of_ending granted first inside ends own (exists_getLast?_log granted result)

/-- Eleven groups make two batches.  The first is accepted with a warning, the second refused, and
the channels record a warning of their own at every use. -/
theorem transcribe_agrees_refused :
    let remark : Warning := ⟨⟨none, 0, 0, "known", none⟩, "w"⟩
    let accepted : Response := ⟨10, 0, 0, [], [remark], none⟩
    let refused : Response := ⟨0, 1, 0, [⟨none, 0, 0, "bad name", none⟩], [remark], none⟩
    let scenario : Scenario := ⟨.ok (.bearer "t"), .cons (.ok accepted) (.const (.ok refused))⟩
    let asides : Stream' (List LogEvent) := .const [⟨.warn, "channel", "aside", []⟩]
    let groups := List.replicate 11 (⟨"g", none, .empty⟩ : Group)
    let ended := transcribe scenario asides .empty groups
    scenario.token = .ok (.bearer "t") ∧ Summary.empty.Fits (scenario.responses 2) ∧
      Agrees scenario 2 ended.1 ended.2.log ∧
      ended.1 = .error (.failed (.domain refused.errors none)) ∧
      ended.2.log.map (fun entry => entry.event.message) =
        ["aside", "Synchronizing groups", "aside", "Remote returned warnings", remark.render,
          "aside", "Remote reported failed commands"] := by
  intro remark accepted refused scenario asides groups ended
  have fits : Summary.empty.Fits (scenario.responses 2) := by decide
  have agrees := (transcribe_agrees scenario asides .empty groups).2 (.bearer "t") rfl fits
  exact ⟨rfl, fits, agrees, by decide, by decide⟩

end GroupSync
