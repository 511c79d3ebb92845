import GroupSync.Proofs.FailedCommands

/-!
# Resuming a run at a border of batches

Groups that are cut at a border of batches make the same batches as the whole list.  A run over the
whole list is therefore a run over the first part and, if that succeeds, a run over the second part
that hears what the world does from then on.  Only the totals connect the two.
-/

namespace GroupSync

namespace Summary

/-- The sum of two summaries, with the warnings of the first in front. -/
def plus (first second : Summary) : Summary where
  batchesSent := first.batchesSent + second.batchesSent
  commandsSent := first.commandsSent + second.commandsSent
  completed := first.completed + second.completed
  notCompleted := first.notCompleted + second.notCompleted
  completedInTestMode := first.completedInTestMode + second.completedInTestMode
  warnings := first.warnings ++ second.warnings

theorem extended_plus_extended (front rest : List Batch) (responses others : List Response) :
    (empty.extended front responses).plus (empty.extended rest others) =
      empty.extended (front ++ rest) (responses ++ others) := by
  simp [plus, extended, empty]

end Summary

/-- The batch that a use of the world sends, if it sends one, and the token for it. -/
def Call.sending? : Call → Option (Batch × Token)
  | .acquire => none
  | .send batch token => some (batch, token)

namespace Scenario

variable {scenario : Scenario} {first second : Nat}

theorem goesOnTo_add_iff : scenario.GoesOnTo (first + second) ↔
    scenario.GoesOnTo first ∧ (scenario.later first).GoesOnTo second := by
  constructor
  · intro going
    refine ⟨fun earlier bound => going earlier (by omega), fun earlier bound => ?_⟩
    have shifted := going (first + earlier) (by omega)
    rwa [Nat.add_comm] at shifted
  · rintro ⟨going, later⟩ earlier bound
    by_cases before : earlier < first
    · exact going earlier before
    · obtain ⟨rest, rfl⟩ := Nat.exists_eq_add_of_le (Nat.le_of_not_lt before)
      have shifted := later rest (by omega)
      rw [Nat.add_comm]
      exact shifted

theorem firstResponses_add : scenario.firstResponses (first + second) =
    scenario.firstResponses first ++ (scenario.later first).firstResponses second := by
  rw [firstResponses, Stream'.take_add, responsesOf_append]
  rfl

end Scenario

namespace Rehearsal

open Scenario

def sendings (rehearsal : Rehearsal) : List (Batch × Token) :=
  rehearsal.calls.filterMap Call.sending?

theorem sendings_of_calls {rehearsal : Rehearsal} {batches : List Batch} {token : Token}
    (calls : rehearsal.calls = .acquire :: batches.map (.send · token)) :
    rehearsal.sendings = batches.map (·, token) := by
  have sent : Call.sending? ∘ (Call.send · token) = some ∘ (·, token) := rfl
  rw [sendings, calls, List.filterMap_cons_none rfl, List.filterMap_map, sent,
    List.filterMap_eq_map]

variable {scenario : Scenario} {profiles : NameSet} {token : Token}
  {groups early late : List Group} {batches front rest : List Batch}

theorem sendings_of_denied {error : Failure} (denied : scenario.token = .error error) :
    (rehearse scenario profiles groups).2.sendings = [] := by
  rw [rehearse_of_denied denied]
  rfl

theorem ends_of_ending {index : Nat} {failure : Failure} (granted : scenario.token = .ok token)
    (cut : Batch.ofGroups profiles groups = batches) (going : scenario.GoesOnTo index)
    (inside : index < batches.length) (ends : ending? (scenario.replies.get index) = some failure)
    (fits : Summary.empty.Fits (scenario.responses batches.length)) :
    (rehearse scenario profiles groups).1 = .error (.failed failure) ∧
      (rehearse scenario profiles groups).2.sendings =
        (batches.take (index + 1)).map (·, token) := by
  rw [responses_of_ending granted going inside ends] at fits
  have ended := rehearse_of_ending granted cut going inside ends fits
  exact ⟨congrArg Prod.fst ended, sendings_of_calls (congrArg (·.2.calls) ended)⟩

theorem ends_of_finishing (granted : scenario.token = .ok token)
    (cut : Batch.ofGroups profiles groups = batches) (going : scenario.GoesOnTo batches.length)
    (fits : Summary.empty.Fits (scenario.responses batches.length)) :
    (rehearse scenario profiles groups).1 =
        .ok (Summary.empty.extended batches (scenario.firstResponses batches.length)) ∧
      (rehearse scenario profiles groups).2.sendings = batches.map (·, token) := by
  rw [responses_of_goesOnTo granted going] at fits
  have ended := rehearse_of_finishing granted cut going fits
  exact ⟨congrArg Prod.fst ended, sendings_of_calls (congrArg (·.2.calls) ended)⟩

/-- A run does what two runs do one after the other: the second only if the first succeeds. -/
structure Continues (whole first second : Except RunFailure Summary × Rehearsal) : Prop where
  result : whole.1 = do return (← first.1).plus (← second.1)
  sendings : whole.2.sendings = first.2.sendings ++
    match first.1 with
    | .ok _ => second.2.sendings
    | .error _ => []

theorem continues_of_denied {error : Failure} (denied : scenario.token = .error error)
    (second : Except RunFailure Summary × Rehearsal) :
    Continues (rehearse scenario profiles groups) (rehearse scenario profiles early) second where
  result := by
    rw [rehearse_of_denied denied, rehearse_of_denied denied]
    rfl
  sendings := by
    rw [sendings_of_denied denied, sendings_of_denied denied, rehearse_of_denied denied]
    rfl

/-- A run that a reply ends in its first part does not come to the second. -/
theorem continues_of_stopping (granted : scenario.token = .ok token)
    (cut : Batch.ofGroups profiles groups = front ++ rest)
    (earlyCut : Batch.ofGroups profiles early = front)
    (stops : ¬ scenario.GoesOnTo front.length)
    (fits : Summary.empty.Fits (scenario.responses (front ++ rest).length))
    (second : Except RunFailure Summary × Rehearsal) :
    Continues (rehearse scenario profiles groups) (rehearse scenario profiles early) second := by
  obtain ⟨index, inside, going, failure, ends⟩ := exists_ending_of_not_goesOnTo stops
  have within : index < (front ++ rest).length := by
    rw [List.length_append]
    omega
  have earlyFits : Summary.empty.Fits (scenario.responses front.length) := by
    rw [responses_of_ending granted going inside ends,
      ← responses_of_ending granted going within ends]
    exact fits
  obtain ⟨result, sent⟩ := ends_of_ending granted cut going within ends fits
  obtain ⟨earlyResult, earlySent⟩ := ends_of_ending granted earlyCut going inside ends earlyFits
  have same : (front ++ rest).take (index + 1) = front.take (index + 1) :=
    List.take_append_of_le_length inside
  constructor
  · rw [result, earlyResult]
    rfl
  · rw [sent, earlySent, earlyResult, same, List.append_nil]

/-- A run that goes on behind its first part does what a run over the second part would do. -/
theorem continues_of_going (granted : scenario.token = .ok token)
    (cut : Batch.ofGroups profiles groups = front ++ rest)
    (earlyCut : Batch.ofGroups profiles early = front)
    (lateCut : Batch.ofGroups profiles late = rest)
    (going : scenario.GoesOnTo front.length)
    (fits : Summary.empty.Fits (scenario.responses (front ++ rest).length))
    (earlyFits : Summary.empty.Fits (scenario.responses front.length))
    (lateFits : Summary.empty.Fits ((scenario.later front.length).responses rest.length)) :
    Continues (rehearse scenario profiles groups) (rehearse scenario profiles early)
      (rehearse (scenario.later front.length) profiles late) := by
  have still : (scenario.later front.length).token = .ok token := granted
  obtain ⟨earlyResult, earlySent⟩ := ends_of_finishing granted earlyCut going earlyFits
  by_cases goingOn : (scenario.later front.length).GoesOnTo rest.length
  · have through : scenario.GoesOnTo (front ++ rest).length := by
      rw [List.length_append]
      exact goesOnTo_add_iff.mpr ⟨going, goingOn⟩
    obtain ⟨result, sent⟩ := ends_of_finishing granted cut through fits
    obtain ⟨lateResult, lateSent⟩ := ends_of_finishing still lateCut goingOn lateFits
    constructor
    · rw [result, earlyResult, lateResult, List.length_append, firstResponses_add,
        ← Summary.extended_plus_extended]
      rfl
    · rw [sent, earlySent, lateSent, earlyResult, List.map_append]
  · obtain ⟨index, inside, goingTo, failure, ends⟩ := exists_ending_of_not_goesOnTo goingOn
    have within : front.length + index < (front ++ rest).length := by
      rw [List.length_append]
      omega
    have through : scenario.GoesOnTo (front.length + index) :=
      goesOnTo_add_iff.mpr ⟨going, goingTo⟩
    have ending : ending? (scenario.replies.get (front.length + index)) = some failure := by
      rw [Nat.add_comm]
      exact ends
    have taken : (front ++ rest).take (front.length + index + 1) =
        front ++ rest.take (index + 1) := by
      rw [Nat.add_assoc, List.take_length_add_append]
    obtain ⟨result, sent⟩ := ends_of_ending granted cut through within ending fits
    obtain ⟨lateResult, lateSent⟩ := ends_of_ending still lateCut goingTo inside ends lateFits
    constructor
    · rw [result, earlyResult, lateResult]
      rfl
    · rw [sent, earlySent, lateSent, earlyResult, taken, List.map_append]

theorem fits_responses_of_going (granted : scenario.token = .ok token)
    (going : scenario.GoesOnTo front.length)
    (fits : Summary.empty.Fits (scenario.responses (front ++ rest).length)) :
    Summary.empty.Fits (scenario.responses front.length) := by
  have heard : scenario.responses (front ++ rest).length =
      scenario.responses front.length ++ (scenario.later front.length).responses rest.length := by
    have still : (scenario.later front.length).token = .ok token := granted
    rw [responses_of_goesOnTo granted going, responses, responses, granted, still, firstResponses,
      List.length_append, Stream'.take_add, ← responsesOf_append]
    exact congrArg responsesOf (heard_append going.ending?_eq_none _)
  rw [heard] at fits
  exact fits.leading (List.prefix_append _ _)

/-- Behind a run that succeeded, the world does what it would have done next. -/
theorem scenario_rehearse_of_going (granted : scenario.token = .ok token)
    (cut : Batch.ofGroups profiles groups = batches) (going : scenario.GoesOnTo batches.length)
    (fits : Summary.empty.Fits (scenario.responses batches.length)) :
    (rehearse scenario profiles groups).2.scenario = scenario.later batches.length := by
  rw [responses_of_goesOnTo granted going] at fits
  rw [rehearse_of_finishing granted cut going fits]
  rfl

/-- What a run sends under its token are the first of its batches. -/
theorem sendings_isPrefix (profiles : NameSet) (groups : List Group)
    (granted : scenario.token = .ok token) :
    (rehearse scenario profiles groups).2.sendings <+:
      (Batch.ofGroups profiles groups).map (·, token) := by
  obtain ⟨count, -, calls⟩ := exists_calls_rehearse profiles groups granted
  rw [sendings_of_calls calls]
  exact (List.take_prefix count _).map _

theorem head?_sendings (profiles : NameSet) (groups : List Group)
    (granted : scenario.token = .ok token) :
    (rehearse scenario profiles groups).2.sendings.head?.map Prod.fst =
      (Batch.ofGroups profiles groups).head? := by
  obtain ⟨count, positive, calls⟩ := exists_calls_rehearse profiles groups granted
  rw [sendings_of_calls calls]
  cases cut : Batch.ofGroups profiles groups with
  | nil => simp
  | cons batch batches =>
      have some : count ≠ 0 := Nat.ne_of_gt (positive (by simp [cut]))
      simp [List.head?_take, some]

theorem sendings_of_success {summary : Summary} (granted : scenario.token = .ok token)
    (succeeded : (rehearse scenario profiles groups).1 = .ok summary) :
    (rehearse scenario profiles groups).2.sendings =
      (Batch.ofGroups profiles groups).map (·, token) := by
  obtain ⟨-, going, fits⟩ := exists_rehearse_eq_ok_iff.mp ⟨summary, succeeded⟩
  exact (ends_of_finishing granted rfl going fits).2

/-- The last batch that a run sent is found by the number of its sends. -/
theorem getLast?_sendings {index : Nat}
    (sent : (rehearse scenario profiles groups).2.sendings.length = index + 1) :
    index < (Batch.ofGroups profiles groups).length ∧
      (rehearse scenario profiles groups).2.sendings.getLast?.map Prod.fst =
        (Batch.ofGroups profiles groups)[index]? := by
  cases granted : scenario.token with
  | error error =>
      rw [sendings_of_denied granted] at sent
      cases sent
  | ok token =>
      have leading := sendings_isPrefix profiles groups granted
      have inside : index < (Batch.ofGroups profiles groups).length := by
        have bound := leading.length_le
        rw [sent, List.length_map] at bound
        omega
      refine ⟨inside, ?_⟩
      rw [List.prefix_iff_eq_take.mp leading, sent, List.getLast?_take]
      simp [inside]

end Rehearsal

open Rehearsal Scenario

/-- A run over a list of groups, and a border of its batches: the run does what a run over the first
part does and, if that succeeds, what a run over the second part does in the world that it finds.
And wherever a run broke off, a run over the groups from its last batch on sends this batch again
first, then the later ones, and nothing else, whatever the world does then. -/
theorem rehearse_resumes (scenario : Scenario) (profiles : NameSet) (groups : List Group) :
    let batches := Batch.ofGroups profiles groups
    let whole := rehearse scenario profiles groups
    (Summary.empty.Fits (scenario.responses batches.length) →
      ∀ border ≤ groups.length, 10 ∣ border →
        let first := rehearse scenario profiles (groups.take border)
        let second := rehearse first.2.scenario profiles (groups.drop border)
        ((∃ summary, first.1 = .ok summary) → Summary.empty.Fits (first.2.scenario.responses
          (Batch.ofGroups profiles (groups.drop border)).length)) →
        Continues whole first second) ∧
    ∀ index, whole.2.sendings.length = index + 1 →
      ∀ (retry : Scenario) token, retry.token = .ok token →
        let again := rehearse retry profiles (groups.drop (10 * index))
        again.2.sendings.head?.map Prod.fst = whole.2.sendings.getLast?.map Prod.fst ∧
          again.2.sendings <+: (batches.drop index).map (·, token) ∧
          ∀ summary, again.1 = .ok summary →
            again.2.sendings = (batches.drop index).map (·, token) := by
  intro batches whole
  constructor
  · intro fits border inside aligned first second lateFits
    have cut : batches = _ := (Batch.ofGroups_take_append_drop profiles inside aligned).symm
    cases granted : scenario.token with
    | error error => exact continues_of_denied granted second
    | ok token =>
        rw [cut] at fits
        by_cases going : scenario.GoesOnTo (Batch.ofGroups profiles (groups.take border)).length
        · have earlyFits := fits_responses_of_going granted going fits
          have found : first.2.scenario = _ :=
            scenario_rehearse_of_going granted rfl going earlyFits
          have succeeded := (ends_of_finishing granted rfl going earlyFits).1
          have restFits := lateFits ⟨_, succeeded⟩
          have moved : second = rehearse _ profiles (groups.drop border) :=
            congrArg (rehearse · profiles (groups.drop border)) found
          rw [found] at restFits
          rw [moved]
          exact continues_of_going granted cut rfl rfl going fits earlyFits restFits
        · exact continues_of_stopping granted cut rfl going fits second
  · intro index sent retry token granted again
    obtain ⟨inside, last⟩ := getLast?_sendings sent
    have remaining : Batch.ofGroups profiles (groups.drop (10 * index)) = batches.drop index := by
      refine Batch.ofGroups_drop profiles ?_
      rw [Batch.length_ofGroups, Nat.ceilDiv_eq_add_pred_div] at inside
      omega
    refine ⟨?_, ?_, ?_⟩
    · have head := head?_sendings profiles (groups.drop (10 * index)) granted
      rw [remaining, List.head?_drop] at head
      exact head.trans last.symm
    · rw [← remaining]
      exact sendings_isPrefix profiles _ granted
    · intro summary succeeded
      rw [← remaining]
      exact sendings_of_success granted succeeded

/-- Eleven groups make two batches, and the second is refused.  A run over the last group sends the
second batch again. -/
theorem rehearse_resumes_second_batch :
    let token := Token.bearer "t"
    let accepted : Response := ⟨10, 0, 0, [], [], none⟩
    let refused : Response := ⟨0, 1, 0, [⟨none, 0, 0, "bad name", none⟩], [], none⟩
    let scenario : Scenario := ⟨.ok token, .cons (.ok accepted) (.const (.ok refused))⟩
    let retry : Scenario := ⟨.ok token, .const (.ok accepted)⟩
    let groups := List.replicate 11 (⟨"g", none, .empty⟩ : Group)
    let first := rehearse scenario .empty (groups.take 10)
    Summary.empty.Fits (scenario.responses 2) ∧
      Continues (rehearse scenario .empty groups) first
        (rehearse first.2.scenario .empty (groups.drop 10)) ∧
      (rehearse retry .empty (groups.drop 10)).2.sendings =
        ((Batch.ofGroups .empty groups).drop 1).map (·, token) := by
  intro token accepted refused scenario retry groups first
  have fits : Summary.empty.Fits (scenario.responses 2) := by decide
  obtain ⟨continues, sendsAgain⟩ := rehearse_resumes scenario .empty groups
  refine ⟨fits, continues fits 10 (by decide) (by decide) fun _ => by decide, ?_⟩
  exact (sendsAgain 1 (by decide) retry token rfl).2.2 ⟨1, 1, 10, 0, 0, []⟩ (by decide)

end GroupSync
