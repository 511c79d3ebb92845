import GroupSync.Proofs.FailFast

/-!
# Counters that overflow

A response is counted before it is judged, so a reply whose counters are too great breaks a run
off, whatever else it says.  This file states exactly when that happens.
-/

namespace GroupSync

namespace Rehearsal

open Scenario Summary Synchronization

variable {token : Token} {total number : Nat}

/-- The sends of a run break off exactly when not all responses that are heard can be counted. -/
theorem sendBatches_overflows_iff {batches : List Batch} {summary : Summary}
    {rehearsal : Rehearsal} (now : summary.Fits []) :
    ((sendBatches channels token total number batches summary).run rehearsal).1 =
        .error .counterOverflow ↔
      ¬ summary.Fits
        (responsesOf (heard (rehearsal.scenario.replies.take batches.length))) := by
  induction batches generalizing number summary rehearsal with
  | nil =>
      rw [sendBatches, run_pure]
      simpa [heard, responsesOf] using now
  | cons batch batches induction =>
      have replies : rehearsal.scenario.replies.take (batch :: batches).length =
          rehearsal.scenario.replies.head ::
            (rehearsal.scenario.replies.drop 1).take batches.length :=
        Stream'.take_succ _ _
      rw [replies]
      cases reply : rehearsal.scenario.replies.head with
      | error error =>
          have ends : ending? (.error error) = some error := rfl
          rw [sendBatches_of_ending reply ends (by simpa using now), heard_cons_of_ending ends]
          simpa using now
      | ok response =>
          by_cases next : (summary.extended [batch] [response]).Fits []
          · by_cases accepted : response.errors = []
            · have going : ending? (.ok response) = none := by simp [ending?, accepted]
              rw [sendBatches_of_accepted reply next accepted, induction next,
                heard_cons_of_going going, responsesOf_ok_cons, fits_cons batch]
              simp [now, noted, sent, Scenario.later]
            · have ends : ending? (.ok response) =
                  some (.domain response.errors response.request) := by simp [ending?, accepted]
              have single : summary.Fits [response] := (fits_cons batch).mpr ⟨now, next⟩
              rw [sendBatches_of_ending reply ends (by simpa using single),
                heard_cons_of_ending ends]
              simpa using single
          · have uncounted (later : List Response) : ¬ summary.Fits (response :: later) :=
              fun fits => next (((fits_cons batch).mp fits).2.leading List.nil_prefix)
            rw [sendBatches_of_overflow reply next, heard, responsesOf_ok_cons]
            simp [uncounted]

/-- A run breaks off exactly when not all responses that it gets can be counted. -/
theorem rehearse_overflows_iff {scenario : Scenario} {profiles : NameSet} {groups : List Group} :
    (rehearse scenario profiles groups).1 = .error .counterOverflow ↔
      ¬ Summary.empty.Fits
        (scenario.responses (Batch.ofGroups profiles groups).length) := by
  cases granted : scenario.token with
  | error error =>
      rw [rehearse_of_denied granted, responses, granted]
      simp [empty_fits_nil]
  | ok token =>
      rw [rehearse_of_granted granted rfl rfl, responses, granted]
      exact sendBatches_overflows_iff empty_fits_nil

/-- What does not break off ends with a summary or a failure. -/
theorem ne_counterOverflow_iff {result : Except RunFailure Summary} :
    result ≠ .error .counterOverflow ↔
      (∃ summary, result = .ok summary) ∨ ∃ failure, result = .error (.failed failure) := by
  rcases result with (failure | _) | summary <;> simp

end Rehearsal

open Rehearsal Scenario

/-- A run ends with a summary or with a failure exactly when every running sum of the counters,
over the responses up to and including the one that ends the run, is held by a signed 64-bit
counter; otherwise it breaks off.  The same holds of the refusal that a reply to some batch asks
for: it is what the run returns exactly when that reply can be counted along with all before. -/
theorem rehearse_endsOrderly_iff (scenario : Scenario) (profiles : NameSet)
    (groups : List Group) :
    let batches := Batch.ofGroups profiles groups
    let result := (rehearse scenario profiles groups).1
    (((∃ summary, result = .ok summary) ∨ ∃ failure, result = .error (.failed failure)) ↔
      Summary.empty.Fits (scenario.responses batches.length)) ∧
    ∀ token, scenario.token = .ok token →
      ∀ index < batches.length, scenario.GoesOnTo index →
        ∀ response, scenario.replies.get index = .ok response → response.errors ≠ [] →
          (result = .error (.failed (.domain response.errors response.request)) ↔
            Summary.empty.Fits (scenario.firstResponses (index + 1))) := by
  intro batches result
  have orderly : ((∃ summary, result = .ok summary) ∨
      ∃ failure, result = .error (.failed failure)) ↔
        Summary.empty.Fits (scenario.responses batches.length) := by
    rw [← ne_counterOverflow_iff, Ne, rehearse_overflows_iff, not_not]
  refine ⟨orderly, ?_⟩
  intro token granted index inside going response reply refused
  have ends : ending? (scenario.replies.get index) =
      some (.domain response.errors response.request) := by
    simp [reply, ending?, refused]
  rw [responses_of_ending granted going inside ends] at orderly
  constructor
  · intro returned
    exact orderly.mp (.inr ⟨_, returned⟩)
  · intro fits
    exact congrArg Prod.fst (rehearse_of_ending granted rfl going inside ends fits)

/-- Both replies can be received, and the second refuses its batch; but the second cannot be
counted along with the first, so the run breaks off and the refusal is lost. -/
theorem rehearse_loses_refusal :
    let token := Token.bearer "t"
    let accepted : Response := ⟨2 ^ 63 - 1, 0, 0, [], [], none⟩
    let refused : Response := ⟨1, 0, 0, [⟨none, 0, 0, "bad name", none⟩], [], none⟩
    let scenario : Scenario := ⟨.ok token, .cons (.ok accepted) (.const (.ok refused))⟩
    let groups := List.replicate 11 (⟨"g", none, .empty⟩ : Group)
    Response.read "\x7b\"completed\":9223372036854775807\x7d" = .ok accepted ∧
      Response.read "\x7b\"completed\":1,\"errors\":[\x7b\"message\":\"bad name\"\x7d]\x7d" =
        .ok refused ∧
      1 < (Batch.ofGroups .empty groups).length ∧
      scenario.GoesOnTo 1 ∧
      refused.errors ≠ [] ∧
      (rehearse scenario .empty groups).1 = .error .counterOverflow := by
  decide +kernel

end GroupSync
