import GroupSync.Synchronization
import Mathlib.Algebra.Order.Ring.Int
import Mathlib.Data.List.Infix

/-!
# Totals of a run

The counters of a run are sums that are formed response by response, and every sum on the way
must be held by a signed 64-bit counter.  This file says which responses can be counted, and
what the totals are after a list of responses.
-/

namespace GroupSync

namespace Summary

/-- A signed 64-bit counter holds the value. -/
def Holds (value : Int) : Prop :=
  -0x8000000000000000 ≤ value ∧ value < 0x8000000000000000

instance (value : Int) : Decidable (Holds value) :=
  inferInstanceAs (Decidable (_ ∧ _))

/-- A counter that stands at `start` holds every sum on the way when amounts are added one after
another. -/
def SumsHold (start : Int) (amounts : List Int) : Prop :=
  ∀ added, added <+: amounts → Holds (start + added.sum)

instance (start : Int) (amounts : List Int) : Decidable (SumsHold start amounts) :=
  decidable_of_iff (∀ added ∈ amounts.inits, Holds (start + added.sum))
    (by simp [SumsHold])

@[simp]
theorem sumsHold_nil {start : Int} : SumsHold start [] ↔ Holds start := by
  simp [SumsHold]

theorem sumsHold_cons {start amount : Int} {amounts : List Int} :
    SumsHold start (amount :: amounts) ↔ Holds start ∧ SumsHold (start + amount) amounts := by
  constructor
  · intro holds
    refine ⟨by simpa using holds [] List.nil_prefix, ?_⟩
    intro added leading
    have further := holds (amount :: added) (List.cons_prefix_cons.mpr ⟨rfl, leading⟩)
    rwa [List.sum_cons, ← Int.add_assoc] at further
  · rintro ⟨current, later⟩ added leading
    rcases List.prefix_cons_iff.mp leading with rfl | ⟨rest, rfl, restLeading⟩
    · simpa using current
    · rw [List.sum_cons, ← Int.add_assoc]
      exact later rest restLeading

theorem SumsHold.start {start : Int} {amounts : List Int} (holds : SumsHold start amounts) :
    Holds start := by
  simpa using holds [] List.nil_prefix

theorem SumsHold.behind {start : Int} {first second : List Int}
    (holds : SumsHold start (first ++ second)) : SumsHold (start + first.sum) second := by
  intro added leading
  have further := holds (first ++ added) ((List.prefix_append_right_inj first).mpr leading)
  rwa [List.sum_append, ← Int.add_assoc] at further

/-- The counters of a summary hold every sum on the way when responses are counted one after
another. -/
structure Fits (summary : Summary) (responses : List Response) : Prop where
  completed : SumsHold summary.completed (responses.map Response.completed)
  notCompleted : SumsHold summary.notCompleted (responses.map Response.notCompleted)
  completedInTestMode :
    SumsHold summary.completedInTestMode (responses.map Response.completedInTestMode)

instance (summary : Summary) (responses : List Response) :
    Decidable (summary.Fits responses) :=
  decidable_of_iff
    (SumsHold summary.completed (responses.map Response.completed) ∧
      SumsHold summary.notCompleted (responses.map Response.notCompleted) ∧
      SumsHold summary.completedInTestMode (responses.map Response.completedInTestMode))
    ⟨fun ⟨first, second, third⟩ => ⟨first, second, third⟩,
      fun ⟨first, second, third⟩ => ⟨first, second, third⟩⟩

/-- The totals after further batches were answered: nothing is lost and nothing is invented. -/
def extended (summary : Summary) (batches : List Batch) (responses : List Response) :
    Summary where
  batchesSent := summary.batchesSent + batches.length
  commandsSent := summary.commandsSent + (batches.map Batch.size).sum
  completed := summary.completed + (responses.map Response.completed).sum
  notCompleted := summary.notCompleted + (responses.map Response.notCompleted).sum
  completedInTestMode :=
    summary.completedInTestMode + (responses.map Response.completedInTestMode).sum
  warnings := summary.warnings ++ responses.flatMap Response.warnings

@[simp]
theorem extended_nil (summary : Summary) : summary.extended [] [] = summary := by
  simp [extended]

theorem extended_cons (summary : Summary) (batch : Batch) (batches : List Batch)
    (response : Response) (responses : List Response) :
    summary.extended (batch :: batches) (response :: responses) =
      (summary.extended [batch] [response]).extended batches responses := by
  have count : batches.length + 1 = 1 + batches.length := Nat.add_comm _ _
  simp [extended, count, Nat.add_assoc, Int.add_assoc]

theorem empty_fits_nil : empty.Fits [] := by
  decide

/-- Counting a list of responses is counting the first and then the others. -/
theorem fits_cons (batch : Batch) {summary : Summary} {response : Response}
    {responses : List Response} :
    summary.Fits (response :: responses) ↔
      summary.Fits [] ∧ (summary.extended [batch] [response]).Fits responses := by
  constructor
  · rintro ⟨first, second, third⟩
    obtain ⟨firstNow, firstLater⟩ := sumsHold_cons.mp first
    obtain ⟨secondNow, secondLater⟩ := sumsHold_cons.mp second
    obtain ⟨thirdNow, thirdLater⟩ := sumsHold_cons.mp third
    exact ⟨⟨by simpa, by simpa, by simpa⟩,
      ⟨by simpa [extended], by simpa [extended], by simpa [extended]⟩⟩
  · rintro ⟨now, later⟩
    refine ⟨sumsHold_cons.mpr ⟨now.completed.start, ?_⟩,
      sumsHold_cons.mpr ⟨now.notCompleted.start, ?_⟩,
      sumsHold_cons.mpr ⟨now.completedInTestMode.start, ?_⟩⟩
    · simpa [extended] using later.completed
    · simpa [extended] using later.notCompleted
    · simpa [extended] using later.completedInTestMode

theorem Fits.leading {summary : Summary} {counted responses : List Response}
    (fits : summary.Fits responses) (leading : counted <+: responses) :
    summary.Fits counted :=
  ⟨fun added part => fits.completed added (part.trans (leading.map _)),
    fun added part => fits.notCompleted added (part.trans (leading.map _)),
    fun added part => fits.completedInTestMode added (part.trans (leading.map _))⟩

theorem Fits.behind {summary : Summary} {first second : List Response}
    (fits : summary.Fits (first ++ second)) (batches : List Batch) :
    (summary.extended batches first).Fits second := by
  obtain ⟨completed, notCompleted, completedInTestMode⟩ := fits
  rw [List.map_append] at completed notCompleted completedInTestMode
  exact ⟨completed.behind, notCompleted.behind, completedInTestMode.behind⟩

theorem addCounters?_eq (first second : Int) :
    addCounters? first second =
      if Holds (first + second) then some (first + second) else none :=
  rfl

theorem fits_nil_iff {summary : Summary} :
    summary.Fits [] ↔
      Holds summary.completed ∧ Holds summary.notCompleted ∧
        Holds summary.completedInTestMode := by
  constructor
  · rintro ⟨first, second, third⟩
    exact ⟨first.start, second.start, third.start⟩
  · rintro ⟨first, second, third⟩
    exact ⟨by simpa, by simpa, by simpa⟩

/-- An accepted response is counted exactly when the counters hold the new totals. -/
theorem record?_addWarnings (summary : Summary) (batch : Batch) (response : Response) :
    (summary.record? batch.size response).map (·.addWarnings response.warnings) =
      if (summary.extended [batch] [response]).Fits [] then
        some (summary.extended [batch] [response])
      else none := by
  have totals : (summary.extended [batch] [response]).Fits [] ↔
      Holds (summary.completed + response.completed) ∧
        Holds (summary.notCompleted + response.notCompleted) ∧
        Holds (summary.completedInTestMode + response.completedInTestMode) := by
    simp [fits_nil_iff, extended]
  simp only [record?, addCounters?_eq, totals]
  by_cases first : Holds (summary.completed + response.completed)
  · by_cases second : Holds (summary.notCompleted + response.notCompleted)
    · by_cases third : Holds (summary.completedInTestMode + response.completedInTestMode)
      · simp [first, second, third, extended, addWarnings]
      · simp [first, second, third]
    · simp [first, second]
  · simp [first]

theorem exists_record?_eq_some {summary : Summary} {batch : Batch} {response : Response}
    (fits : (summary.extended [batch] [response]).Fits []) :
    ∃ counted, summary.record? batch.size response = some counted ∧
      counted.addWarnings response.warnings = summary.extended [batch] [response] := by
  simpa [fits] using summary.record?_addWarnings batch response

theorem record?_eq_none {summary : Summary} {batch : Batch} {response : Response}
    (overflows : ¬ (summary.extended [batch] [response]).Fits []) :
    summary.record? batch.size response = none := by
  simpa [overflows] using summary.record?_addWarnings batch response

end Summary

end GroupSync
