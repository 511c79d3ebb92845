import GroupSync.Proofs.CounterOverflow
import Mathlib.Algebra.BigOperators.Group.List.Basic

/-!
# Failed commands in a run that succeeds

A response tells in two ways that commands failed: it counts them, and it lists errors.  A run is
decided by the errors alone, so it succeeds although commands were counted as failed if the
responses do not list errors for them.  This file says when a run succeeds, and what is known of
the counters if it does.
-/

namespace GroupSync

/-- A response that counts failed commands lists errors as well. -/
def Response.Agrees (response : Response) : Prop :=
  response.notCompleted ≠ 0 → response.errors ≠ []

theorem Response.agrees_iff_of_errors_eq_nil {response : Response} (clean : response.errors = []) :
    response.Agrees ↔ response.notCompleted = 0 := by
  simp [Agrees, clean]

namespace Scenario

variable {scenario : Scenario} {token : Token} {count : Nat}

/-- Where the replies do not let a run go on, one of them is the first to end it. -/
theorem exists_ending_of_not_goesOnTo (stops : ¬ scenario.GoesOnTo count) :
    ∃ index < count, scenario.GoesOnTo index ∧
      ∃ failure, ending? (scenario.replies.get index) = some failure := by
  induction count with
  | zero => exact absurd (fun _ bound => absurd bound (Nat.not_lt_zero _)) stops
  | succ count induction =>
      -- Either the last reply ends the run or one before it already did.
      by_cases going : scenario.GoesOnTo count
      · refine ⟨count, Nat.lt_succ_self count, going, Option.ne_none_iff_exists'.mp ?_⟩
        intro passes
        refine stops fun earlier bound => ?_
        rcases Nat.lt_succ_iff_lt_or_eq.mp bound with before | rfl
        · exact going earlier before
        · exact passes
      · obtain ⟨index, inside, first⟩ := induction going
        exact ⟨index, Nat.lt_succ_of_lt inside, first⟩

theorem errors_eq_nil_of_goesOnTo (going : scenario.GoesOnTo count) :
    ∀ response ∈ scenario.firstResponses count, response.errors = [] := by
  intro response member
  obtain ⟨reply, heard, answered⟩ := List.mem_filterMap.mp member
  obtain ⟨accepted, rfl, clean⟩ := ending?_eq_none_iff.mp (going.ending?_eq_none reply heard)
  obtain rfl : accepted = response := Option.some.inj answered
  exact clean

end Scenario

namespace Rehearsal

open Scenario

variable {scenario : Scenario} {profiles : NameSet} {groups : List Group}

/-- A run succeeds exactly if there is a token, no reply ends it and all responses can be
counted. -/
theorem exists_rehearse_eq_ok_iff :
    (∃ summary, (rehearse scenario profiles groups).1 = .ok summary) ↔
      (∃ token, scenario.token = .ok token) ∧
        scenario.GoesOnTo (Batch.ofGroups profiles groups).length ∧
        Summary.empty.Fits (scenario.responses (Batch.ofGroups profiles groups).length) := by
  constructor
  · rintro ⟨summary, succeeded⟩
    have fits : Summary.empty.Fits
        (scenario.responses (Batch.ofGroups profiles groups).length) := by
      by_contra overflows
      rw [rehearse_overflows_iff.mpr overflows] at succeeded
      cases succeeded
    cases granted : scenario.token with
    | error error =>
        rw [rehearse_of_denied granted] at succeeded
        cases succeeded
    | ok token =>
        refine ⟨⟨token, rfl⟩, ?_, fits⟩
        by_contra stops
        obtain ⟨index, inside, going, failure, ends⟩ := exists_ending_of_not_goesOnTo stops
        rw [responses_of_ending granted going inside ends] at fits
        rw [rehearse_of_ending granted rfl going inside ends fits] at succeeded
        cases succeeded
  · rintro ⟨⟨token, granted⟩, going, fits⟩
    rw [responses_of_goesOnTo granted going] at fits
    exact ⟨_, congrArg Prod.fst (rehearse_of_finishing granted rfl going fits)⟩

end Rehearsal

open Rehearsal Scenario

/-- A run succeeds exactly if there is a token, no reply fails or lists errors and all responses
can be counted.  The total of failed commands is then what the responses count together.  That no
response counts a failed command is known exactly if every response that counts one lists errors
as well. -/
theorem rehearse_hidesFailedCommands_iff (scenario : Scenario) (profiles : NameSet)
    (groups : List Group) :
    let batches := Batch.ofGroups profiles groups
    let responses := scenario.responses batches.length
    let result := (rehearse scenario profiles groups).1
    ((∃ summary, result = .ok summary) ↔
      (∃ token, scenario.token = .ok token) ∧ scenario.GoesOnTo batches.length ∧
        Summary.empty.Fits responses) ∧
    ∀ summary, result = .ok summary →
      (∀ response ∈ responses, response.errors = []) ∧
      summary.notCompleted = (responses.map Response.notCompleted).sum ∧
      ((∀ response ∈ responses, response.notCompleted = 0) ∧ summary.notCompleted = 0 ↔
        ∀ response ∈ responses, response.Agrees) := by
  intro batches responses result
  refine ⟨exists_rehearse_eq_ok_iff, ?_⟩
  intro summary succeeded
  obtain ⟨⟨token, granted⟩, going, fits⟩ := exists_rehearse_eq_ok_iff.mp ⟨summary, succeeded⟩
  have heard : responses = scenario.firstResponses batches.length :=
    responses_of_goesOnTo granted going
  have clean : ∀ response ∈ responses, response.errors = [] := by
    rw [heard]
    exact errors_eq_nil_of_goesOnTo going
  have total : summary.notCompleted = (responses.map Response.notCompleted).sum := by
    have ended := rehearse_of_finishing granted rfl going
      (responses_of_goesOnTo granted going ▸ fits)
    have same := succeeded.symm.trans (congrArg Prod.fst ended)
    cases same
    simp [Summary.extended, Summary.empty, heard, batches]
  refine ⟨clean, total, ?_⟩
  have agree_iff : (∀ response ∈ responses, response.Agrees) ↔
      ∀ response ∈ responses, response.notCompleted = 0 :=
    forall₂_congr fun response member =>
      Response.agrees_iff_of_errors_eq_nil (clean response member)
  rw [agree_iff, and_iff_left_iff_imp]
  intro none
  rw [total]
  exact List.sum_eq_zero (by simpa using none)

/-- The only reply of a run counts a failed command and lists no errors, and the run succeeds. -/
theorem rehearse_hides_failedCommand :
    let response : Response := ⟨0, 1, 0, [], [], none⟩
    let scenario : Scenario := ⟨.ok (.bearer "t"), .const (.ok response)⟩
    let groups := [(⟨"g", none, .empty⟩ : Group)]
    Response.read "\x7b\"notCompleted\":1\x7d" = .ok response ∧
      scenario.responses (Batch.ofGroups .empty groups).length = [response] ∧
      (rehearse scenario .empty groups).1 = .ok ⟨1, 1, 0, 1, 0, []⟩ := by
  decide +kernel

end GroupSync
