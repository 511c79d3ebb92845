import GroupSync.Proofs.BatchCutting
import GroupSync.Proofs.Rehearsal
import Mathlib

/-!
# A run fails fast

A run asks for one token, sends its batches in order and stops at the first reply that ends it.
What it asked for, what it recorded and what it returns follow from the scenario: from the first
such reply if there is one, and from all responses if there is none.
-/

namespace GroupSync

namespace Rehearsal

open Scenario Summary Synchronization

variable {scenario : Scenario} {profiles : NameSet} {groups : List Group} {token : Token}
  {batches : List Batch}

theorem rehearse_of_denied {error : Failure} (denied : scenario.token = .error error) :
    rehearse scenario profiles groups =
      (.error (.failed error), { fresh scenario with calls := [.acquire] }) := by
  rw [rehearse, run, run_bind, run_token]
  simp only [fresh, denied, run_pure, List.nil_append]

/-- A rehearsal in which a token was acquired and the number of batches was recorded. -/
def opened (scenario : Scenario) (batches : Nat) : Rehearsal :=
  ⟨scenario, [.acquire], [startEvent batches]⟩

/-- Behind the acquisition of a token the batches are sent, and a run whose sends succeed is
closed. -/
theorem rehearse_of_granted (granted : scenario.token = .ok token)
    (cut : Batch.ofGroups profiles groups = batches)
    {result : Except RunFailure Summary} {final : Rehearsal}
    (sends : (sendBatches channels token batches.length 1 batches .empty).run
      (opened scenario batches.length) = (result, final)) :
    rehearse scenario profiles groups =
      (result, final.noted (result.toOption.map finishEvent).toList) := by
  have start : (⟨scenario, [.acquire], []⟩ : Rehearsal).noted [startEvent batches.length] =
      opened scenario batches.length := rfl
  rw [rehearse, run, run_bind, run_token]
  simp only [fresh, granted, cut, run_bind, run_record, List.nil_append, start, sends]
  cases result with
  | error failure =>
      rw [run_pure]
      simp [noted, Except.toOption]
  | ok summary => rfl

/-- Under a token, a run sends its first batches, and one at least if there are any. -/
theorem exists_calls_rehearse (profiles : NameSet) (groups : List Group)
    (granted : scenario.token = .ok token) :
    ∃ count, (Batch.ofGroups profiles groups ≠ [] → 0 < count) ∧
      (rehearse scenario profiles groups).2.calls =
        .acquire :: ((Batch.ofGroups profiles groups).take count).map (.send · token) := by
  obtain ⟨count, positive, sent⟩ := @exists_calls_sendBatches token
    (Batch.ofGroups profiles groups).length 1 (Batch.ofGroups profiles groups) .empty
    (opened scenario (Batch.ofGroups profiles groups).length) empty_fits_nil
  refine ⟨count, positive, ?_⟩
  rw [rehearse_of_granted granted rfl rfl]
  exact sent

/-- A reply that ends the sends is the last: no later batch is sent. -/
theorem rehearse_of_ending {index : Nat} {failure : Failure}
    (granted : scenario.token = .ok token) (cut : Batch.ofGroups profiles groups = batches)
    (going : scenario.GoesOnTo index) (inside : index < batches.length)
    (ends : ending? (scenario.replies.get index) = some failure)
    (fits : Summary.empty.Fits (scenario.firstResponses (index + 1))) :
    rehearse scenario profiles groups =
      (.error (.failed failure),
        ((opened scenario batches.length).sent (batches.take (index + 1)) token).noted
          ((scenario.firstResponses index).flatMap outcomeEvents ++
            [endingEvent (index + 1) batches.length (scenario.replies.get index)])) := by
  obtain ⟨front, batch, rest, rfl, rfl⟩ : ∃ front batch rest,
      batches = front ++ batch :: rest ∧ index = front.length :=
    ⟨batches.take index, batches[index], batches.drop (index + 1), by simp, by simp; omega⟩
  have leading : (front ++ batch :: rest).take (front.length + 1) = front ++ [batch] := by
    simp [List.take_append]
  have counted : scenario.firstResponses (front.length + 1) =
      scenario.firstResponses front.length ++ responsesOf [scenario.replies.get front.length] := by
    rw [firstResponses, Stream'.take_succ', responsesOf_append]
    rfl
  rw [counted] at fits
  have next : (scenario.replies.drop front.length).head = scenario.replies.get front.length :=
    Stream'.head_drop _ _
  have sends : (sendBatches channels token (front ++ batch :: rest).length 1
      (front ++ batch :: rest) .empty).run
        (opened scenario (front ++ batch :: rest).length) = _ :=
    (sendBatches_append going (fits.leading ⟨_, rfl⟩)).trans
      (sendBatches_of_ending next ends (fits.behind front))
  rw [sent_noted_sent_noted] at sends
  rw [rehearse_of_granted granted cut sends, leading, Nat.add_comm 1]
  simp [noted, opened, Except.toOption]

/-- A run that no reply ends sends all batches, and its totals are those of all responses. -/
theorem rehearse_of_finishing (granted : scenario.token = .ok token)
    (cut : Batch.ofGroups profiles groups = batches)
    (going : scenario.GoesOnTo batches.length)
    (fits : Summary.empty.Fits (scenario.firstResponses batches.length)) :
    rehearse scenario profiles groups =
      (.ok (Summary.empty.extended batches (scenario.firstResponses batches.length)),
        ((opened scenario batches.length).sent batches token).noted
          ((scenario.firstResponses batches.length).flatMap outcomeEvents ++
            [finishEvent
              (Summary.empty.extended batches (scenario.firstResponses batches.length))])) := by
  have sends : (sendBatches channels token batches.length 1 (batches ++ []) .empty).run
      (opened scenario batches.length) = _ := sendBatches_append going fits
  rw [List.append_nil, sendBatches, run_pure] at sends
  rw [rehearse_of_granted granted cut sends]
  simp [noted, opened, Except.toOption]

end Rehearsal

open Rehearsal Scenario

/-- A run asks for one token.  Without a token it ends with that failure.  With a token it sends
its batches in order, each of them once and under this token, up to and including the first
whose reply ends the run; that reply is the failure of the run.  If no reply ends the run, all
batches are sent, and the summary holds exact totals. -/
theorem rehearse_failsFast (scenario : Scenario) (profiles : NameSet) (groups : List Group)
    (fits : Summary.empty.Fits
      (scenario.responses (Batch.ofGroups profiles groups).length)) :
    let batches := Batch.ofGroups profiles groups
    let responses := scenario.responses batches.length
    let result := (rehearse scenario profiles groups).1
    let calls := (rehearse scenario profiles groups).2.calls
    (∀ error, scenario.token = .error error →
      result = .error (.failed error) ∧ calls = [.acquire]) ∧
    ∀ token, scenario.token = .ok token →
      (∀ index < batches.length, scenario.GoesOnTo index →
        ∀ failure, ending? (scenario.replies.get index) = some failure →
          result = .error (.failed failure) ∧
            calls = .acquire :: (batches.take (index + 1)).map (.send · token)) ∧
      (scenario.GoesOnTo batches.length →
        calls = .acquire :: batches.map (.send · token) ∧
          ∃ summary, result = .ok summary ∧
            summary.batchesSent = batches.length ∧
            batches.length = groups.length ⌈/⌉ 10 ∧
            summary.commandsSent = groups.length ∧
            summary.completed = (responses.map Response.completed).sum ∧
            summary.notCompleted = (responses.map Response.notCompleted).sum ∧
            summary.completedInTestMode =
              (responses.map Response.completedInTestMode).sum ∧
            summary.warnings = responses.flatMap Response.warnings) := by
  intro batches responses result calls
  constructor
  · intro error denied
    have ended : rehearse scenario profiles groups = _ := rehearse_of_denied denied
    exact ⟨congrArg Prod.fst ended, congrArg (·.2.calls) ended⟩
  · intro token granted
    constructor
    · intro index inside going failure ends
      have heard := responses_of_ending granted going inside ends
      have ended := rehearse_of_ending granted rfl going inside ends (heard ▸ fits)
      exact ⟨congrArg Prod.fst ended, congrArg (·.2.calls) ended⟩
    · intro going
      have heard : responses = scenario.firstResponses batches.length :=
        responses_of_goesOnTo granted going
      have ended := rehearse_of_finishing granted rfl going (heard ▸ fits)
      refine ⟨congrArg (·.2.calls) ended, _, congrArg Prod.fst ended, ?_⟩
      have commands := Batch.sum_size_ofGroups profiles groups
      have count := Batch.length_ofGroups profiles groups
      simp [Summary.extended, Summary.empty, commands, count, batches, heard]

/-- Eleven groups make two batches.  The first is accepted with a remark, the second refused. -/
theorem rehearse_failsFast_second_batch :
    let token := Token.bearer "t"
    let remark : Warning := ⟨⟨none, 0, 0, "known", none⟩, "w"⟩
    let accepted : Response := ⟨10, 0, 0, [], [remark], none⟩
    let refused : Response := ⟨0, 1, 0, [⟨none, 0, 0, "bad name", none⟩], [remark], none⟩
    let scenario : Scenario := ⟨.ok token, .cons (.ok accepted) (.const (.ok refused))⟩
    let groups := List.replicate 11 (⟨"g", none, .empty⟩ : Group)
    let batches := Batch.ofGroups .empty groups
    Summary.empty.Fits (scenario.responses batches.length) ∧
      (rehearse scenario .empty groups).1 =
        .error (.failed (.domain refused.errors refused.request)) ∧
      (rehearse scenario .empty groups).2.calls =
        .acquire :: batches.map (.send · token) := by
  intro token remark accepted refused scenario groups batches
  have fits : Summary.empty.Fits (scenario.responses batches.length) := by decide
  have fast := (rehearse_failsFast scenario .empty groups fits).2 token rfl
  exact ⟨fits, fast.1 1 (by decide) (by decide) _ rfl⟩

end GroupSync
