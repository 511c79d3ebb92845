import GroupSync.Batching
import GroupSync.Log
import GroupSync.Outcome
import GroupSync.Token

/-!
# Synchronizing groups

A run acquires one token, builds one command for each group and sends the commands in batches,
one batch after another.  The first failure ends the run; batches accepted before it stay
applied.  A run is written against channels, the ways to acquire a token, to send a batch and to
record an event, in any monad.
-/

namespace GroupSync

/-- The ways in which a run reaches the world outside. -/
structure Channels (m : Type → Type) where
  token : m (Except Failure Token)
  send : Batch → Token → m (Except Failure Response)
  record : LogEvent → m Unit

/-- Totals over the batches of a run. -/
structure Summary where
  batchesSent : Nat
  commandsSent : Nat
  completed : Int
  notCompleted : Int
  completedInTestMode : Int
  warnings : List Warning
deriving DecidableEq

/-- How a run ends if it does not succeed. -/
inductive RunFailure where
  /-- With a failure of the synchronization. -/
  | failed (error : Failure)
  /-- With a total that no 64-bit counter holds. -/
  | counterOverflow
deriving DecidableEq

namespace RunFailure

def overflowMessage : String :=
  "attempt to add with overflow"

end RunFailure

namespace Summary

def empty : Summary :=
  ⟨0, 0, 0, 0, 0, []⟩

/-- The sum of two counters, if a signed 64-bit counter holds it. -/
def addCounters? (first second : Int) : Option Int :=
  if -0x8000000000000000 ≤ first + second ∧ first + second < 0x8000000000000000 then
    some (first + second)
  else none

def record? (summary : Summary) (commands : Nat) (response : Response) : Option Summary := do
  let completed ← addCounters? summary.completed response.completed
  let notCompleted ← addCounters? summary.notCompleted response.notCompleted
  let completedInTestMode ←
    addCounters? summary.completedInTestMode response.completedInTestMode
  return { summary with
    batchesSent := summary.batchesSent + 1
    commandsSent := summary.commandsSent + commands
    completed := completed
    notCompleted := notCompleted
    completedInTestMode := completedInTestMode }

def addWarnings (summary : Summary) (warnings : List Warning) : Summary :=
  { summary with warnings := summary.warnings ++ warnings }

end Summary

namespace Synchronization

def logTarget : String :=
  "umsync_core::sync::synchronizer"

def event (level : LogLevel) (message : String) (fields : List (String × LogValue)) :
    LogEvent :=
  ⟨level, logTarget, message, fields⟩

/-- The event that opens a run, once the number of batches is known. -/
def startEvent (batches : Nat) : LogEvent :=
  event .info "Synchronizing groups" [("batches", .number batches)]

/-- The event of a batch that got no usable response. -/
def batchFailedEvent (batch total : Nat) (error : Failure) : LogEvent :=
  event .error "Batch failed"
    [("batch", .number batch), ("of", .number total), ("kind", .text error.kind),
      ("error", .text error.message)]

/-- The event of a batch whose response reports failed commands. -/
def commandsFailedEvent (batch total : Nat) (error : Failure) : LogEvent :=
  event .error "Remote reported failed commands"
    [("batch", .number batch), ("of", .number total), ("error", .text error.message)]

def warningEvent (warning : Warning) : LogEvent :=
  event .warn warning.render [("code", .text warning.code)]

/-- The events of a response with remarks: their number and the request, then each of them. -/
def warningEvents (request : Option AnsweredRequest) (warnings : List Warning) :
    List LogEvent :=
  event .warn "Remote returned warnings"
      [("count", .number warnings.length),
        ("request", .text (AnsweredRequest.renderOption request))] ::
    warnings.map warningEvent

/-- The events of the remarks of an accepted response; a response without remarks, or one that
reports errors, has none. -/
def outcomeEvents (response : Response) : List LogEvent :=
  match Outcome.ofResponse response with
  | .acceptedWithRemarks warnings => warningEvents response.request warnings
  | _ => []

def finishEvent (summary : Summary) : LogEvent :=
  event .info "Groups synchronized"
    [("batches", .number summary.batchesSent), ("completed", .number summary.completed),
      ("warnings", .number summary.warnings.length)]

variable {m : Type → Type} [Monad m]

def recordAll (channels : Channels m) : List LogEvent → m Unit
  | [] => pure ()
  | first :: rest => do
      channels.record first
      recordAll channels rest

/-- Send batches one after another.  `number` is the number of the first of them, `total` the
number of all batches of the run.  A response is counted before it is judged. -/
def sendBatches (channels : Channels m) (token : Token) (total : Nat) :
    Nat → List Batch → Summary → m (Except RunFailure Summary)
  | _, [], summary => pure (.ok summary)
  | number, batch :: batches, summary => do
      match ← channels.send batch token with
      | .error error =>
          channels.record (batchFailedEvent number total error)
          pure (.error (.failed error))
      | .ok response =>
          match summary.record? batch.size response with
          | none => pure (.error .counterOverflow)
          | some counted =>
              recordAll channels (outcomeEvents response)
              match (Outcome.ofResponse response).toResult with
              | .error error =>
                  channels.record (commandsFailedEvent number total error)
                  pure (.error (.failed error))
              | .ok warnings =>
                  sendBatches channels token total (number + 1) batches
                    (counted.addWarnings warnings)

/-- Create every group, or keep it, and add it to the configured profiles.  The token is
acquired first, even for an empty list, so that bad credentials always fail the run. -/
def run (channels : Channels m) (profiles : NameSet) (groups : List Group) :
    m (Except RunFailure Summary) := do
  match ← channels.token with
  | .error error => pure (.error (.failed error))
  | .ok token =>
      let batches := Batch.ofGroups profiles groups
      channels.record (startEvent batches.length)
      match ← sendBatches channels token batches.length 1 batches .empty with
      | .error failure => pure (.error failure)
      | .ok summary =>
          channels.record (finishEvent summary)
          pure (.ok summary)

end Synchronization

end GroupSync
