import GroupSync.Proofs.Rehearsal

/-!
# Transcripts of a run

The channels of a run may record events of their own while they are used.  A transcript is a
rehearsal in which they do: its log holds the events of the run and those of the channels in the
order in which they were recorded.  What the channels record is arbitrary, and leaving it out gives
the rehearsal back.
-/

namespace GroupSync

/-- An event in a log, and who recorded it: the run itself or one of its channels. -/
inductive Entry where
  | ofRun (event : LogEvent)
  | ofChannel (event : LogEvent)
deriving DecidableEq

namespace Entry

def event : Entry → LogEvent
  | ofRun event => event
  | ofChannel event => event

def ofRun? : Entry → Option LogEvent
  | ofRun event => some event
  | ofChannel _ => none

end Entry

/-- The events of a log that the run itself recorded. -/
def ownEvents (log : List Entry) : List LogEvent :=
  log.filterMap Entry.ofRun?

/-- A rehearsal whose channels record events of their own. -/
structure Transcript where
  rehearsal : Rehearsal
  /-- What the channels record at their uses to come. -/
  asides : Stream' (List LogEvent)
  log : List Entry

namespace Transcript

open Synchronization

/-- Use a channel, which records what it likes. -/
def use {α : Type} (channel : StateM Rehearsal α) : StateM Transcript α :=
  modifyGet fun transcript =>
    ((channel.run transcript.rehearsal).1,
      ⟨(channel.run transcript.rehearsal).2, transcript.asides.tail,
        transcript.log ++ transcript.asides.head.map .ofChannel⟩)

/-- A transcript in which the run recorded an event. -/
def noted (transcript : Transcript) (event : LogEvent) : Transcript :=
  { transcript with
    rehearsal := transcript.rehearsal.noted [event]
    log := transcript.log ++ [.ofRun event] }

def channels : Channels (StateM Transcript) where
  token := use Rehearsal.channels.token
  send batch token := use (Rehearsal.channels.send batch token)
  record event := modify (noted · event)

/-- A transcript before anything has happened. -/
def fresh (scenario : Scenario) (asides : Stream' (List LogEvent)) : Transcript :=
  ⟨.fresh scenario, asides, []⟩

end Transcript

/-- Rehearse a synchronization of groups with channels that record events of their own. -/
def transcribe (scenario : Scenario) (asides : Stream' (List LogEvent)) (profiles : NameSet)
    (groups : List Group) : Except RunFailure Summary × Transcript :=
  (Synchronization.run Transcript.channels profiles groups).run (.fresh scenario asides)

namespace Transcript

open Synchronization

variable {α β : Type} {token : Token} {total number : Nat}

/-- The run's own events in the log are those of the rehearsal. -/
def IsFaithful (transcript : Transcript) : Prop :=
  ownEvents transcript.log = transcript.rehearsal.events

theorem isFaithful_fresh (scenario : Scenario) (asides : Stream' (List LogEvent)) :
    (fresh scenario asides).IsFaithful :=
  rfl

/-- A computation of a transcript does what a computation of its rehearsal does. -/
def Follows (told : StateM Transcript α) (plain : StateM Rehearsal α) : Prop :=
  ∀ transcript : Transcript, transcript.IsFaithful →
    (told.run transcript).1 = (plain.run transcript.rehearsal).1 ∧
      (told.run transcript).2.rehearsal = (plain.run transcript.rehearsal).2 ∧
      (told.run transcript).2.IsFaithful

namespace Follows

theorem pure (value : α) : Follows (Pure.pure value) (Pure.pure value) :=
  fun _ faithful => ⟨rfl, rfl, faithful⟩

theorem bind {told : StateM Transcript α} {plain : StateM Rehearsal α}
    {next : α → StateM Transcript β} {plainNext : α → StateM Rehearsal β}
    (first : Follows told plain) (follows : ∀ value, Follows (next value) (plainNext value)) :
    Follows (told >>= next) (plain >>= plainNext) := by
  intro transcript faithful
  obtain ⟨same, reached, still⟩ := first transcript faithful
  rw [Rehearsal.run_bind, Rehearsal.run_bind, ← reached, ← same]
  exact follows (told.run transcript).1 _ still

/-- A channel leaves the events of the run alone, so its asides do not show among them. -/
theorem use {channel : StateM Rehearsal α}
    (silent : ∀ rehearsal, (channel.run rehearsal).2.events = rehearsal.events) :
    Follows (Transcript.use channel) channel := by
  intro transcript faithful
  refine ⟨rfl, rfl, ?_⟩
  have asides : ownEvents (transcript.asides.head.map .ofChannel) = [] := by
    simp [ownEvents, List.filterMap_map, Function.comp_def, Entry.ofRun?]
  change ownEvents (transcript.log ++ transcript.asides.head.map .ofChannel) =
    (channel.run transcript.rehearsal).2.events
  rw [silent, ← faithful, ownEvents, List.filterMap_append]
  exact (congrArg _ asides).trans (List.append_nil _)

theorem record (event : LogEvent) :
    Follows (channels.record event) (Rehearsal.channels.record event) := by
  intro transcript faithful
  refine ⟨rfl, rfl, ?_⟩
  change ownEvents (transcript.log ++ [.ofRun event]) = transcript.rehearsal.events ++ [event]
  rw [← faithful, ownEvents, List.filterMap_append]
  rfl

theorem recordAll (events : List LogEvent) :
    Follows (Synchronization.recordAll channels events)
      (Synchronization.recordAll Rehearsal.channels events) := by
  induction events with
  | nil => exact .pure ()
  | cons event events induction => exact .bind (.record event) fun _ => induction

theorem sendBatches (batches : List Batch) (summary : Summary) :
    Follows (Synchronization.sendBatches channels token total number batches summary)
      (Synchronization.sendBatches Rehearsal.channels token total number batches summary) := by
  induction batches generalizing number summary with
  | nil => exact .pure _
  | cons batch batches induction =>
      refine .bind (.use fun _ => rfl) fun answered => ?_
      cases answered with
      | error error => exact .bind (.record _) fun _ => .pure _
      | ok response =>
          dsimp only
          cases summary.record? batch.size response with
          | none => exact .pure _
          | some counted =>
              refine .bind (.recordAll _) fun _ => ?_
              cases (Outcome.ofResponse response).toResult with
              | error error => exact .bind (.record _) fun _ => .pure _
              | ok warnings => exact induction _

theorem run (profiles : NameSet) (groups : List Group) :
    Follows (Synchronization.run channels profiles groups)
      (Synchronization.run Rehearsal.channels profiles groups) := by
  refine .bind (.use fun _ => rfl) fun answered => ?_
  cases answered with
  | error error => exact .pure _
  | ok token =>
      refine .bind (.record _) fun _ => .bind (.sendBatches _ _) fun result => ?_
      cases result with
      | error failure => exact .pure _
      | ok summary => exact .bind (.record _) fun _ => .pure _

end Follows

/-- A run of a transcript ends as the rehearsal does, and its own events are the same. -/
theorem transcribe_follows (scenario : Scenario) (asides : Stream' (List LogEvent))
    (profiles : NameSet) (groups : List Group) :
    (transcribe scenario asides profiles groups).1 = (rehearse scenario profiles groups).1 ∧
      ownEvents (transcribe scenario asides profiles groups).2.log =
        (rehearse scenario profiles groups).2.events := by
  obtain ⟨same, reached, faithful⟩ :=
    Follows.run profiles groups _ (isFaithful_fresh scenario asides)
  exact ⟨same, faithful.trans (congrArg Rehearsal.events reached)⟩

/-- If a computation ends the run with a failure, the last event in the log is the run's own. -/
def ClosesItself (told : StateM Transcript (Except RunFailure Summary)) : Prop :=
  ∀ transcript failure, (told.run transcript).1 = .error (.failed failure) →
    ∃ event, (told.run transcript).2.log.getLast? = some (.ofRun event)

namespace ClosesItself

theorem ok (summary : Summary) : ClosesItself (pure (.ok summary)) :=
  fun _ _ failed => nomatch failed

theorem overflow : ClosesItself (pure (.error .counterOverflow)) :=
  fun _ _ failed => nomatch failed

theorem bind {first : StateM Transcript α}
    {next : α → StateM Transcript (Except RunFailure Summary)}
    (closes : ∀ value, ClosesItself (next value)) : ClosesItself (first >>= next) :=
  fun transcript => closes (first.run transcript).1 (first.run transcript).2

theorem afterRecord (event : LogEvent) (result : Except RunFailure Summary) :
    ClosesItself (channels.record event >>= fun _ => pure result) :=
  fun _ _ _ => ⟨event, List.getLast?_concat⟩

/-- What follows a computation may hand on its failure. -/
theorem thenOk {told : StateM Transcript (Except RunFailure Summary)}
    {next : Except RunFailure Summary → StateM Transcript (Except RunFailure Summary)}
    (first : ClosesItself told) (handsOn : ∀ failure, next (.error failure) = pure (.error failure))
    (closes : ∀ summary, ClosesItself (next (.ok summary))) : ClosesItself (told >>= next) := by
  intro transcript failure failed
  rw [Rehearsal.run_bind] at failed ⊢
  cases ended : (told.run transcript).1 with
  | error other =>
      rw [ended, handsOn, Rehearsal.run_pure] at failed
      cases failed
      rw [handsOn, Rehearsal.run_pure]
      exact first transcript failure ended
  | ok summary =>
      rw [ended] at failed
      exact closes summary _ failure failed

theorem sendBatches (batches : List Batch) (summary : Summary) :
    ClosesItself (Synchronization.sendBatches channels token total number batches summary) := by
  induction batches generalizing number summary with
  | nil => exact .ok summary
  | cons batch batches induction =>
      refine .bind fun answered => ?_
      cases answered with
      | error error => exact .afterRecord _ _
      | ok response =>
          dsimp only
          cases summary.record? batch.size response with
          | none => exact .overflow
          | some counted =>
              refine .bind fun _ => ?_
              cases (Outcome.ofResponse response).toResult with
              | error error => exact .afterRecord _ _
              | ok warnings => exact induction _

end ClosesItself

/-- The last event in the log of a run that fails under a token is the run's own. -/
theorem exists_getLast?_log {scenario : Scenario} {profiles : NameSet} {groups : List Group}
    {asides : Stream' (List LogEvent)} {failure : Failure} (granted : scenario.token = .ok token)
    (failed : (transcribe scenario asides profiles groups).1 = .error (.failed failure)) :
    ∃ event,
      (transcribe scenario asides profiles groups).2.log.getLast? = some (.ofRun event) := by
  have acquired : (channels.token.run (fresh scenario asides)).1 = .ok token := granted
  rw [transcribe, Synchronization.run, Rehearsal.run_bind, acquired] at failed ⊢
  refine ClosesItself.bind (fun _ => ?_) _ failure failed
  exact .thenOk (.sendBatches _ _) (fun _ => rfl) fun _ => .afterRecord _ _

end Transcript

end GroupSync
