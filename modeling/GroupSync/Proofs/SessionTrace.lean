import GroupSync.Http.Session

/-!
# What a session adds to the trace

A session only ever appends to the trace of the world.  `Session.Adds` relates how a session ends
to the effects that it appends, and has one rule for each way in which sessions are built, so that
a session is described from its parts.
-/

namespace GroupSync

namespace Http

/-- A request that was sent and what came of it. -/
abbrev Exchange := Request × Arrival

/-- The exchange that an effect is, if it is one. -/
def Effect.exchange? : Effect → Option Exchange
  | .exchanged request arrival => some (request, arrival)
  | _ => none

/-- The exchanges among effects, in order. -/
def exchangesOf (effects : List Effect) : List Exchange :=
  effects.filterMap Effect.exchange?

@[simp]
theorem exchangesOf_nil : exchangesOf [] = [] :=
  rfl

@[simp]
theorem exchangesOf_append (first second : List Effect) :
    exchangesOf (first ++ second) = exchangesOf first ++ exchangesOf second :=
  List.filterMap_append

@[simp]
theorem exchangesOf_exchanged_cons (request : Request) (arrival : Arrival)
    (effects : List Effect) :
    exchangesOf (.exchanged request arrival :: effects) =
      (request, arrival) :: exchangesOf effects :=
  rfl

@[simp]
theorem exchangesOf_logged_cons (event : LogEvent) (effects : List Effect) :
    exchangesOf (.logged event :: effects) = exchangesOf effects :=
  rfl

@[simp]
theorem exchangesOf_slept_cons (duration : Duration) (effects : List Effect) :
    exchangesOf (.slept duration :: effects) = exchangesOf effects :=
  rfl

@[simp]
theorem exchangesOf_map_logged (events : List LogEvent) :
    exchangesOf (events.map .logged) = [] := by
  induction events with
  | nil => rfl
  | cons event events ih => simpa using ih

/-- The exchanges that have happened, in order. -/
def World.exchanges (world : World) : List Exchange :=
  exchangesOf world.trace

/-- A world in which events have been recorded and nothing else has happened. -/
def World.noted (world : World) (events : List LogEvent) : World :=
  { world with trace := world.trace ++ events.map .logged }

namespace World

variable (world : World)

@[simp]
theorem noted_nil : world.noted [] = world := by
  simp [noted]

@[simp]
theorem noted_append (first second : List LogEvent) :
    world.noted (first ++ second) = (world.noted first).noted second := by
  simp [noted]

@[simp]
theorem exchanges_noted (events : List LogEvent) :
    (world.noted events).exchanges = world.exchanges := by
  simp [exchanges, noted]

end World

namespace Session

variable {α β : Type}

theorem run_modifyGet (change : World → α × World) (world : World) :
    (modifyGet change : Session α).run world =
      (.ok (change world).1, (change world).2) :=
  rfl

theorem run_bind (session : Session α) (next : α → Session β) (world : World) :
    (session >>= next).run world =
      match session.run world with
      | (.ok value, after) => (next value).run after
      | (.error breakdown, after) => (.error breakdown, after) := by
  cases reached : session.run world with
  | mk result after =>
      have unfolded : (session >>= next).run world =
          (ExceptT.bindCont next result).run after := by
        have paired : StateT.run session world = (result, after) := reached
        simp only [Session.run, ExceptT.run, bind, ExceptT.bind, ExceptT.mk, StateT.bind,
          StateT.run] at paired ⊢
        rw [paired]
      rw [unfolded]
      cases result with
      | error breakdown => rfl
      | ok value => rfl

@[simp]
theorem run_record (event : LogEvent) (world : World) :
    (record event).run world = (.ok (), world.noted [event]) :=
  rfl

@[simp]
theorem run_recordAll (events : List LogEvent) (world : World) :
    (recordAll events).run world = (.ok (), world.noted events) := by
  induction events generalizing world with
  | nil =>
      rw [World.noted_nil]
      rfl
  | cons event events induction =>
      rw [recordAll, run_bind, run_record]
      simp only [induction]
      rw [← World.noted_append, List.singleton_append]

/-- How a session ends, and the effects that it appends to the trace of any world. -/
def Adds (session : Session α) (ends : Except Breakdown α → List Effect → Prop) : Prop :=
  ∀ world, ∃ effects,
    (session.run world).2.trace = world.trace ++ effects ∧ ends (session.run world).1 effects

namespace Adds

variable {session : Session α} {next : α → Session β}
  {ends weaker : Except Breakdown α → List Effect → Prop}
  {final : Except Breakdown β → List Effect → Prop}

theorem mono (adds : session.Adds ends)
    (implies : ∀ result effects, ends result effects → weaker result effects) :
    session.Adds weaker := by
  intro world
  obtain ⟨effects, trace, holds⟩ := adds world
  exact ⟨effects, trace, implies _ _ holds⟩

/-- The effects of a session are known from the trace, so what holds of them holds together. -/
theorem and {others : Except Breakdown α → List Effect → Prop} (adds : session.Adds ends)
    (further : session.Adds others) :
    session.Adds fun result effects => ends result effects ∧ others result effects := by
  intro world
  obtain ⟨effects, trace, holds⟩ := adds world
  obtain ⟨same, sameTrace, sameHolds⟩ := further world
  obtain rfl := List.append_cancel_left (trace.symm.trans sameTrace)
  exact ⟨effects, trace, holds, sameHolds⟩

theorem pure {value : α} (holds : ends (.ok value) []) :
    (Pure.pure value : Session α).Adds ends :=
  fun _ => ⟨[], (List.append_nil _).symm, holds⟩

theorem throw {breakdown : Breakdown} (holds : ends (.error breakdown) []) :
    (MonadExcept.throw breakdown : Session α).Adds ends :=
  fun _ => ⟨[], (List.append_nil _).symm, holds⟩

/-- A session and what follows it: either the session breaks down, or what follows goes on from
its value and appends further effects. -/
theorem bind (adds : session.Adds ends)
    (breaks : ∀ breakdown effects, ends (.error breakdown) effects →
      final (.error breakdown) effects)
    (follows : ∀ value effects, ends (.ok value) effects →
      (next value).Adds fun result later => final result (effects ++ later)) :
    (session >>= next).Adds final := by
  intro world
  obtain ⟨effects, trace, holds⟩ := adds world
  rw [run_bind]
  cases reached : session.run world with
  | mk result after =>
      rw [reached] at trace holds
      cases result with
      | error breakdown => exact ⟨effects, trace, breaks breakdown effects holds⟩
      | ok value =>
          obtain ⟨later, laterTrace, laterHolds⟩ := follows value effects holds after
          refine ⟨effects ++ later, ?_, laterHolds⟩
          rw [laterTrace, trace, List.append_assoc]

/-- What follows a session that surely returns a value and appends given effects. -/
theorem bindOk {value : α} {given : List Effect}
    (adds : session.Adds fun result effects => result = .ok value ∧ effects = given)
    (follows : (next value).Adds fun result later => final result (given ++ later)) :
    (session >>= next).Adds final := by
  refine .bind adds (by simp) ?_
  rintro _ _ ⟨ended, rfl⟩
  cases ended
  exact follows

theorem afterRecord {event : LogEvent} {next : Unit → Session β}
    (follows : (next ()).Adds fun result later => final result (.logged event :: later)) :
    (Session.record event >>= next).Adds final :=
  bindOk (fun _ => ⟨_, rfl, rfl, rfl⟩) follows

theorem recordAll (events : List LogEvent) :
    (Session.recordAll events).Adds fun result effects =>
      result = .ok () ∧ effects = events.map .logged := by
  induction events with
  | nil => exact .pure ⟨rfl, rfl⟩
  | cons event events induction =>
      refine .afterRecord (induction.mono ?_)
      rintro result effects ⟨ended, rfl⟩
      exact ⟨ended, rfl⟩

theorem afterRecordAll {events : List LogEvent} {next : Unit → Session β}
    (follows : (next ()).Adds fun result later => final result (events.map .logged ++ later)) :
    (Session.recordAll events >>= next).Adds final :=
  bindOk (recordAll events) follows

theorem afterSleep {duration : Duration} {next : Unit → Session β}
    (follows : (next ()).Adds fun result later => final result (.slept duration :: later)) :
    (Session.sleep duration >>= next).Adds final :=
  bindOk (fun _ => ⟨_, rfl, rfl, rfl⟩) follows

theorem afterDraw {next : Nat → Session β} (follows : ∀ number, (next number).Adds final) :
    (Session.draw >>= next).Adds final := by
  have drawn : Session.draw.Adds fun result effects =>
      (∃ number, result = .ok number) ∧ effects = [] :=
    fun _ => ⟨[], (List.append_nil _).symm, ⟨_, rfl⟩, rfl⟩
  refine .bind drawn (by simp) ?_
  rintro number _ ⟨-, rfl⟩
  exact follows number

/-- Whatever the server does, one exchange is made and its arrival is returned. -/
theorem exchange (request : Request) :
    (Session.exchange request).Adds fun result effects =>
      ∃ arrival, result = .ok arrival ∧ effects = [.exchanged request arrival] := by
  intro world
  rw [Session.exchange, run_modifyGet]
  by_cases connected : world.server.schemes.contains (String.ofList request.url.scheme) = true
  · rw [if_pos connected]
    cases world.server.queue with
    | nil => exact ⟨_, rfl, _, rfl, rfl⟩
    | cons arrival queue => exact ⟨_, rfl, _, rfl, rfl⟩
  · rw [if_neg connected]
    exact ⟨_, rfl, _, rfl, rfl⟩

end Adds

end Session

end Http

end GroupSync
