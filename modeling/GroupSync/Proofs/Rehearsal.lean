import GroupSync.Proofs.Totals
import Mathlib.Data.Stream.Init

/-!
# Rehearsals of a run

A run is written against channels.  In a rehearsal the channels follow a scenario that fixes what
the acquisition of a token and every send bring, and everything that is asked of them is noted.
Since the scenario is arbitrary, what holds of all rehearsals holds whatever the world does.

The lemmas follow the run: what one batch does to it, what a stretch of accepted batches does to
it, and which of the scenario's replies it gets to hear at all.
-/

namespace GroupSync

/-- What the world outside does during a run: what the acquisition of a token brings, and what the
sends bring one after another. -/
structure Scenario where
  token : Except Failure Token
  replies : Stream' (Except Failure Response)

namespace Scenario

/-- The failure with which a reply ends the run, if it does: a send that fails, or a response that
reports errors. -/
def ending? : Except Failure Response → Option Failure
  | .error error => some error
  | .ok response =>
      if response.errors = [] then none else some (.domain response.errors response.request)

/-- The replies up to the first that ends the run. -/
def heard : List (Except Failure Response) → List (Except Failure Response)
  | [] => []
  | reply :: replies => reply :: if (ending? reply).isSome then [] else heard replies

/-- The responses among replies. -/
def responsesOf (replies : List (Except Failure Response)) : List Response :=
  replies.filterMap Except.toOption

theorem responsesOf_append (first second : List (Except Failure Response)) :
    responsesOf (first ++ second) = responsesOf first ++ responsesOf second :=
  List.filterMap_append

theorem heard_cons_of_going {reply : Except Failure Response}
    {replies : List (Except Failure Response)} (going : ending? reply = none) :
    heard (reply :: replies) = reply :: heard replies := by
  simp [heard, going]

theorem heard_cons_of_ending {reply : Except Failure Response}
    {replies : List (Except Failure Response)} {failure : Failure}
    (ends : ending? reply = some failure) : heard (reply :: replies) = [reply] := by
  simp [heard, ends]

/-- What follows replies that let the run go on is heard as if it stood alone. -/
theorem heard_append {front : List (Except Failure Response)}
    (going : ∀ reply ∈ front, ending? reply = none) (rest : List (Except Failure Response)) :
    heard (front ++ rest) = front ++ heard rest := by
  induction front with
  | nil => rfl
  | cons reply front induction =>
      rw [List.cons_append, heard_cons_of_going (going reply List.mem_cons_self),
        induction fun later member => going later (List.mem_cons_of_mem _ member)]
      rfl

/-- The responses that a run of so many batches gets: none without a token. -/
def responses (scenario : Scenario) (batches : Nat) : List Response :=
  match scenario.token with
  | .error _ => []
  | .ok _ => responsesOf (heard (scenario.replies.take batches))

theorem ending?_eq_none_iff {reply : Except Failure Response} :
    ending? reply = none ↔ ∃ response, reply = .ok response ∧ response.errors = [] := by
  cases reply <;> simp [ending?]

@[simp]
theorem responsesOf_nil : responsesOf [] = [] :=
  rfl

@[simp]
theorem responsesOf_ok_cons (response : Response) (replies : List (Except Failure Response)) :
    responsesOf (.ok response :: replies) = response :: responsesOf replies :=
  rfl

@[simp]
theorem responsesOf_error_cons (error : Failure) (replies : List (Except Failure Response)) :
    responsesOf (.error error :: replies) = responsesOf replies :=
  rfl

/-- The replies before the one of the given index let the run go on. -/
def GoesOnTo (scenario : Scenario) (index : Nat) : Prop :=
  ∀ earlier < index, ending? (scenario.replies.get earlier) = none

instance (scenario : Scenario) (index : Nat) : Decidable (scenario.GoesOnTo index) :=
  inferInstanceAs (Decidable (∀ earlier < index, _))

theorem GoesOnTo.ending?_eq_none {scenario : Scenario} {index : Nat}
    (going : scenario.GoesOnTo index) :
    ∀ reply ∈ scenario.replies.take index, ending? reply = none := by
  intro reply member
  obtain ⟨earlier, bound, rfl⟩ := List.mem_iff_getElem.mp member
  rw [Stream'.length_take] at bound
  rw [Stream'.take_get]
  exact going earlier bound

/-- The responses among the first replies. -/
def firstResponses (scenario : Scenario) (count : Nat) : List Response :=
  responsesOf (scenario.replies.take count)

theorem responses_of_goesOnTo {scenario : Scenario} {token : Token} {batches : Nat}
    (granted : scenario.token = .ok token) (going : scenario.GoesOnTo batches) :
    scenario.responses batches = scenario.firstResponses batches := by
  have all := heard_append going.ending?_eq_none []
  rw [List.append_nil, heard, List.append_nil] at all
  rw [responses, granted]
  exact congrArg responsesOf all

theorem responses_of_ending {scenario : Scenario} {token : Token} {batches index : Nat}
    {failure : Failure} (granted : scenario.token = .ok token)
    (going : scenario.GoesOnTo index) (inside : index < batches)
    (ends : ending? (scenario.replies.get index) = some failure) :
    scenario.responses batches = scenario.firstResponses (index + 1) := by
  obtain ⟨others, rfl⟩ : ∃ others, batches = index + (others + 1) :=
    ⟨batches - index - 1, by omega⟩
  rw [responses, granted, firstResponses, Stream'.take_add, Stream'.take_succ,
    Stream'.head_drop, Stream'.take_succ']
  exact congrArg responsesOf ((heard_append going.ending?_eq_none _).trans
    (congrArg _ (heard_cons_of_ending ends)))

/-- The scenario after so many sends. -/
def later (scenario : Scenario) (sends : Nat) : Scenario :=
  { scenario with replies := scenario.replies.drop sends }

end Scenario

/-- A use of the world outside: a token was asked for, or a batch was sent under a token. -/
inductive Call where
  | acquire
  | send (batch : Batch) (token : Token)
deriving DecidableEq

/-- A rehearsal in progress: what the world does from here on, what was asked of it and which
events were recorded, in order. -/
structure Rehearsal where
  scenario : Scenario
  calls : List Call
  events : List LogEvent

namespace Rehearsal

/-- The channels of a rehearsal. -/
def channels : Channels (StateM Rehearsal) where
  token := modifyGet fun rehearsal =>
    (rehearsal.scenario.token, { rehearsal with calls := rehearsal.calls ++ [.acquire] })
  send batch token := modifyGet fun rehearsal =>
    (rehearsal.scenario.replies.head,
      { rehearsal with
        scenario := rehearsal.scenario.later 1
        calls := rehearsal.calls ++ [.send batch token] })
  record event := modify fun rehearsal => { rehearsal with events := rehearsal.events ++ [event] }

/-- A rehearsal before anything has happened. -/
def fresh (scenario : Scenario) : Rehearsal :=
  ⟨scenario, [], []⟩

/-- A rehearsal in which batches were sent. -/
def sent (rehearsal : Rehearsal) (batches : List Batch) (token : Token) : Rehearsal :=
  { rehearsal with
    scenario := rehearsal.scenario.later batches.length
    calls := rehearsal.calls ++ batches.map (.send · token) }

/-- The event of a batch whose reply ends the run. -/
def endingEvent (number total : Nat) : Except Failure Response → LogEvent
  | .error error => Synchronization.batchFailedEvent number total error
  | .ok response =>
      Synchronization.commandsFailedEvent number total
        (.domain response.errors response.request)

/-- A rehearsal in which events were recorded. -/
def noted (rehearsal : Rehearsal) (events : List LogEvent) : Rehearsal :=
  { rehearsal with events := rehearsal.events ++ events }

end Rehearsal

/-- Rehearse a synchronization of groups. -/
def rehearse (scenario : Scenario) (profiles : NameSet) (groups : List Group) :
    Except RunFailure Summary × Rehearsal :=
  (Synchronization.run Rehearsal.channels profiles groups).run (.fresh scenario)

namespace Rehearsal

open Scenario Summary Synchronization

variable {token : Token} {total number : Nat} {summary : Summary} {rehearsal : Rehearsal}

theorem run_pure {σ α : Type} (value : α) (state : σ) :
    (pure value : StateM σ α).run state = (value, state) :=
  rfl

theorem run_bind {σ α β : Type} (first : StateM σ α) (next : α → StateM σ β) (state : σ) :
    (first >>= next).run state = (next (first.run state).1).run (first.run state).2 :=
  rfl

theorem run_token (rehearsal : Rehearsal) :
    channels.token.run rehearsal =
      (rehearsal.scenario.token, { rehearsal with calls := rehearsal.calls ++ [.acquire] }) :=
  rfl

theorem run_send (batch : Batch) (token : Token) (rehearsal : Rehearsal) :
    (channels.send batch token).run rehearsal =
      (rehearsal.scenario.replies.head, rehearsal.sent [batch] token) :=
  rfl

theorem run_record (event : LogEvent) (rehearsal : Rehearsal) :
    (channels.record event).run rehearsal = ((), rehearsal.noted [event]) :=
  rfl

theorem run_recordAll (events : List LogEvent) (rehearsal : Rehearsal) :
    (recordAll channels events).run rehearsal = ((), rehearsal.noted events) := by
  induction events generalizing rehearsal with
  | nil =>
      rw [recordAll, run_pure]
      simp [noted]
  | cons event events induction =>
      rw [recordAll, run_bind, run_record, induction]
      simp [noted]

/-- A response that cannot be counted ends the run before it is judged. -/
theorem sendBatches_of_overflow {batch : Batch} {batches : List Batch} {response : Response}
    (reply : rehearsal.scenario.replies.head = .ok response)
    (overflows : ¬ (summary.extended [batch] [response]).Fits []) :
    (sendBatches channels token total number (batch :: batches) summary).run rehearsal =
      (.error .counterOverflow, rehearsal.sent [batch] token) := by
  have uncounted := record?_eq_none overflows
  simp only [sendBatches, run_bind, run_pure, run_send, reply, uncounted]

/-- A send that fails ends the run, and so does a response that reports errors once it is
counted. -/
theorem sendBatches_of_ending {batch : Batch} {batches : List Batch}
    {reply : Except Failure Response} {failure : Failure}
    (next : rehearsal.scenario.replies.head = reply) (ends : ending? reply = some failure)
    (fits : summary.Fits (responsesOf [reply])) :
    (sendBatches channels token total number (batch :: batches) summary).run rehearsal =
      (.error (.failed failure),
        (rehearsal.sent [batch] token).noted [endingEvent number total reply]) := by
  cases reply with
  | error error =>
      obtain rfl : error = failure := Option.some.inj ends
      simp only [sendBatches, run_bind, run_pure, run_send, run_record, next, endingEvent]
  | ok response =>
      obtain ⟨refused, rfl⟩ : response.errors ≠ [] ∧
          .domain response.errors response.request = failure := by
        simpa [ending?] using ends
      obtain ⟨counted, counts, -⟩ := exists_record?_eq_some ((fits_cons batch).mp fits).2
      have verdict :
          Outcome.ofResponse response = .refused response.errors response.request := by
        simp [Outcome.ofResponse, refused]
      simp only [sendBatches, run_bind, run_pure, run_send, run_record, run_recordAll, next,
        counts, verdict, Outcome.toResult, outcomeEvents, endingEvent]
      simp [noted]

/-- After an accepted response the run goes on with the next batch. -/
theorem sendBatches_of_accepted {batch : Batch} {batches : List Batch} {response : Response}
    (reply : rehearsal.scenario.replies.head = .ok response)
    (fits : (summary.extended [batch] [response]).Fits []) (accepted : response.errors = []) :
    (sendBatches channels token total number (batch :: batches) summary).run rehearsal =
      (sendBatches channels token total (number + 1) batches
          (summary.extended [batch] [response])).run
        ((rehearsal.sent [batch] token).noted (outcomeEvents response)) := by
  obtain ⟨counted, counts, total⟩ := exists_record?_eq_some fits
  have verdict : (Outcome.ofResponse response).toResult = .ok response.warnings := by
    rw [Outcome.toResult_ofResponse, if_pos accepted]
  simp only [sendBatches, run_bind, run_send, run_recordAll, reply, counts, verdict, total]

theorem sent_noted_sent_noted (rehearsal : Rehearsal) (front back : List Batch) (token : Token)
    (first second : List LogEvent) :
    (((rehearsal.sent front token).noted first).sent back token).noted second =
      (rehearsal.sent (front ++ back) token).noted (first ++ second) := by
  simp [sent, noted, Scenario.later, Stream'.drop_drop]

/-- A stretch of batches whose responses are all accepted and can be counted is sent in order,
and the run goes on with the other batches. -/
theorem sendBatches_append {front rest : List Batch}
    (going : rehearsal.scenario.GoesOnTo front.length)
    (fits : summary.Fits (rehearsal.scenario.firstResponses front.length)) :
    (sendBatches channels token total number (front ++ rest) summary).run rehearsal =
      (sendBatches channels token total (number + front.length) rest
          (summary.extended front (rehearsal.scenario.firstResponses front.length))).run
        ((rehearsal.sent front token).noted
          ((rehearsal.scenario.firstResponses front.length).flatMap outcomeEvents)) := by
  induction front generalizing number summary rehearsal with
  | nil => simp [firstResponses, responsesOf, Scenario.later, sent, noted]
  | cons batch front induction =>
      obtain ⟨response, reply, accepted⟩ :=
        ending?_eq_none_iff.mp (going 0 (by simp))
      have responses : rehearsal.scenario.firstResponses (batch :: front).length =
          response :: (rehearsal.scenario.later 1).firstResponses front.length := by
        rw [firstResponses, List.length_cons, Stream'.take_succ]
        exact congrArg (responsesOf <| · :: _) reply
      have laterGoing : (rehearsal.scenario.later 1).GoesOnTo front.length :=
        fun earlier bound => going (earlier + 1) (by simpa using bound)
      rw [responses] at fits ⊢
      have later : (summary.extended [batch] [response]).Fits
          ((rehearsal.scenario.later 1).firstResponses front.length) :=
        ((fits_cons batch).mp fits).2
      have count : number + 1 + front.length = number + (batch :: front).length := by
        rw [List.length_cons]
        omega
      rw [List.cons_append,
        sendBatches_of_accepted reply (later.leading List.nil_prefix) accepted,
        induction laterGoing later, sent_noted_sent_noted, extended_cons summary batch front,
        List.flatMap_cons, count]
      rfl

/-- However the sends of a run end, they are those of its first batches, and of one at least if
there are any. -/
theorem exists_calls_sendBatches {batches : List Batch} {summary : Summary}
    {rehearsal : Rehearsal} (now : summary.Fits []) :
    ∃ count, (batches ≠ [] → 0 < count) ∧
      ((sendBatches channels token total number batches summary).run rehearsal).2.calls =
        rehearsal.calls ++ (batches.take count).map (.send · token) := by
  -- A batch is sent before its reply is looked at, so the one that ends the run counts as well.
  induction batches generalizing number summary rehearsal with
  | nil =>
      refine ⟨0, by simp, ?_⟩
      rw [sendBatches, run_pure]
      simp
  | cons batch batches induction =>
      cases reply : rehearsal.scenario.replies.head with
      | error error =>
          refine ⟨1, by simp, ?_⟩
          rw [sendBatches_of_ending reply rfl now]
          rfl
      | ok response =>
          by_cases next : (summary.extended [batch] [response]).Fits []
          · by_cases accepted : response.errors = []
            · obtain ⟨count, -, later⟩ := @induction (number + 1) _
                ((rehearsal.sent [batch] token).noted (outcomeEvents response)) next
              refine ⟨count + 1, by simp, ?_⟩
              rw [sendBatches_of_accepted reply next accepted, later]
              simp [noted, sent]
            · have ends : ending? (.ok response) =
                  some (.domain response.errors response.request) := by simp [ending?, accepted]
              refine ⟨1, by simp, ?_⟩
              rw [sendBatches_of_ending reply ends ((fits_cons batch).mpr ⟨now, next⟩)]
              rfl
          · refine ⟨1, by simp, ?_⟩
            rw [sendBatches_of_overflow reply next]
            rfl

end Rehearsal

end GroupSync
