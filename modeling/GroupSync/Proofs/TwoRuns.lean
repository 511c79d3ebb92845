import GroupSync.Http.Delivery
import GroupSync.Proofs.SessionTrace
import Mathlib.Data.List.Forall2

/-!
# Two sessions side by side

That something cannot be told from a run is a statement about two runs.  Two sessions are alike if,
in worlds that behave in the same way, they end in the same way, leave the worlds behaving in the
same way and append effects that are related.  There is one rule for each way in which sessions are
built, as for the effects of a single run.
-/

namespace GroupSync

namespace Http

/-- Two worlds behave in the same way from now on, whatever has happened in them. -/
structure World.BehavesLike (world other : World) : Prop where
  server : world.server = other.server
  draws : world.draws = other.draws

namespace Effect

variable {related stronger : Request → Request → Prop}

/-- Two effects are the same, apart from the requests of exchanges, which are related. -/
inductive Like (related : Request → Request → Prop) : Effect → Effect → Prop
  | exchanged {request other : Request} (alike : related request other) (arrival : Arrival) :
      Like related (.exchanged request arrival) (.exchanged other arrival)
  | slept (duration : Duration) : Like related (.slept duration) (.slept duration)
  | logged (event : LogEvent) : Like related (.logged event) (.logged event)

theorem Like.mono {effect other : Effect} (like : Like stronger effect other)
    (weaken : ∀ first second, stronger first second → related first second) :
    Like related effect other := by
  cases like with
  | exchanged alike arrival => exact .exchanged (weaken _ _ alike) arrival
  | slept duration => exact .slept duration
  | logged event => exact .logged event

theorem Like.eq {effect other : Effect} (like : Like Eq effect other) : effect = other := by
  cases like with
  | exchanged alike arrival => rw [alike]
  | slept duration => rfl
  | logged event => rfl

/-- Recorded events are alike to themselves. -/
theorem like_map_logged (events : List LogEvent) :
    List.Forall₂ (Like related) (events.map .logged) (events.map .logged) := by
  rw [List.forall₂_map_left_iff, List.forall₂_map_right_iff]
  exact List.forall₂_same.mpr fun event _ => .logged event

end Effect

namespace Session

variable {α β : Type}

/-- Two sessions end in the same way in worlds that behave in the same way, and append effects that
stand in a relation to each other. -/
def Alike (session other : Session α)
    (ends : Except Breakdown α → List Effect → List Effect → Prop) : Prop :=
  ∀ world otherWorld, world.BehavesLike otherWorld → ∃ effects others,
    (session.run world).2.trace = world.trace ++ effects ∧
      (other.run otherWorld).2.trace = otherWorld.trace ++ others ∧
      (session.run world).2.BehavesLike (other.run otherWorld).2 ∧
      (session.run world).1 = (other.run otherWorld).1 ∧
      ends (session.run world).1 effects others

namespace Alike

variable {session other : Session α} {next nextOther : α → Session β}
  {ends weaker : Except Breakdown α → List Effect → List Effect → Prop}
  {final : Except Breakdown β → List Effect → List Effect → Prop}

theorem mono (alike : session.Alike other ends)
    (implies : ∀ result effects others, ends result effects others →
      weaker result effects others) : session.Alike other weaker := by
  intro world otherWorld behaves
  obtain ⟨effects, others, trace, otherTrace, after, same, holds⟩ := alike world otherWorld behaves
  exact ⟨effects, others, trace, otherTrace, after, same, implies _ _ _ holds⟩

theorem pure {value : α} (holds : ends (.ok value) [] []) :
    (Pure.pure value : Session α).Alike (Pure.pure value) ends :=
  fun _ _ behaves =>
    ⟨[], [], (List.append_nil _).symm, (List.append_nil _).symm, behaves, rfl, holds⟩

theorem throw {breakdown : Breakdown} (holds : ends (.error breakdown) [] []) :
    (MonadExcept.throw breakdown : Session α).Alike (MonadExcept.throw breakdown) ends :=
  fun _ _ behaves =>
    ⟨[], [], (List.append_nil _).symm, (List.append_nil _).symm, behaves, rfl, holds⟩

/-- Sessions that are alike stay so if alike sessions follow every value. -/
theorem bind (alike : session.Alike other ends)
    (breaks : ∀ breakdown effects others, ends (.error breakdown) effects others →
      final (.error breakdown) effects others)
    (follows : ∀ value effects others, ends (.ok value) effects others →
      (next value).Alike (nextOther value) fun result later laterOthers =>
        final result (effects ++ later) (others ++ laterOthers)) :
    (session >>= next).Alike (other >>= nextOther) final := by
  intro world otherWorld behaves
  obtain ⟨effects, others, trace, otherTrace, after, same, holds⟩ := alike world otherWorld behaves
  rw [run_bind, run_bind]
  cases reached : session.run world with
  | mk result worldAfter =>
      cases otherReached : other.run otherWorld with
      | mk otherResult otherAfter =>
          rw [reached] at trace after same holds
          rw [otherReached] at otherTrace after same
          obtain rfl : result = otherResult := same
          cases result with
          | error breakdown =>
              exact ⟨effects, others, trace, otherTrace, after, rfl, breaks _ _ _ holds⟩
          | ok value =>
              obtain ⟨later, laterOthers, laterTrace, laterOtherTrace, final⟩ :=
                follows value effects others holds worldAfter otherAfter after
              refine ⟨effects ++ later, others ++ laterOthers, ?_, ?_, final⟩
              · rw [laterTrace, trace, List.append_assoc]
              · rw [laterOtherTrace, otherTrace, List.append_assoc]

/-- What follows sessions that surely return the same value and append given effects. -/
theorem bindOk {value : α} {given givenOthers : List Effect}
    (alike : session.Alike other fun result effects others =>
      result = .ok value ∧ effects = given ∧ others = givenOthers)
    (follows : (next value).Alike (nextOther value) fun result later laterOthers =>
      final result (given ++ later) (givenOthers ++ laterOthers)) :
    (session >>= next).Alike (other >>= nextOther) final := by
  refine .bind alike (by simp) ?_
  rintro _ _ _ ⟨ended, rfl, rfl⟩
  cases ended
  exact follows

theorem afterRecord {event : LogEvent} {next nextOther : Unit → Session β}
    (follows : (next ()).Alike (nextOther ()) fun result later laterOthers =>
      final result (.logged event :: later) (.logged event :: laterOthers)) :
    (Session.record event >>= next).Alike (Session.record event >>= nextOther) final :=
  bindOk (fun _ _ behaves => ⟨_, _, rfl, rfl, ⟨behaves.server, behaves.draws⟩, rfl, rfl, rfl, rfl⟩)
    follows

theorem recordAll (events : List LogEvent) :
    (Session.recordAll events).Alike (Session.recordAll events) fun result effects others =>
      result = .ok () ∧ effects = events.map .logged ∧ others = events.map .logged := by
  induction events with
  | nil => exact .pure ⟨rfl, rfl, rfl⟩
  | cons event events induction =>
      refine .afterRecord (induction.mono ?_)
      rintro result effects others ⟨ended, rfl, rfl⟩
      exact ⟨ended, rfl, rfl⟩

theorem afterRecordAll {events : List LogEvent} {next nextOther : Unit → Session β}
    (follows : (next ()).Alike (nextOther ()) fun result later laterOthers =>
      final result (events.map .logged ++ later) (events.map .logged ++ laterOthers)) :
    (Session.recordAll events >>= next).Alike (Session.recordAll events >>= nextOther) final :=
  bindOk (recordAll events) follows

theorem afterSleep {duration : Duration} {next nextOther : Unit → Session β}
    (follows : (next ()).Alike (nextOther ()) fun result later laterOthers =>
      final result (.slept duration :: later) (.slept duration :: laterOthers)) :
    (Session.sleep duration >>= next).Alike (Session.sleep duration >>= nextOther) final :=
  bindOk (fun _ _ behaves => ⟨_, _, rfl, rfl, ⟨behaves.server, behaves.draws⟩, rfl, rfl, rfl, rfl⟩)
    follows

theorem afterDraw {next nextOther : Nat → Session β}
    (follows : ∀ number, (next number).Alike (nextOther number) final) :
    (Session.draw >>= next).Alike (Session.draw >>= nextOther) final := by
  have drawn : Session.draw.Alike Session.draw fun result effects others =>
      (∃ number, result = .ok number) ∧ effects = [] ∧ others = [] := by
    intro world otherWorld behaves
    have sameRest : world.draws.drop 1 = otherWorld.draws.drop 1 := by rw [behaves.draws]
    have sameNumber : (draw.run world).1 = (draw.run otherWorld).1 := by
      rw [draw, run_modifyGet, run_modifyGet, behaves.draws]
    exact ⟨[], [], (List.append_nil _).symm, (List.append_nil _).symm,
      ⟨behaves.server, sameRest⟩, sameNumber, ⟨_, rfl⟩, rfl, rfl⟩
  refine .bind drawn (by simp) ?_
  rintro number _ _ ⟨-, rfl, rfl⟩
  exact follows number

/-- Requests for the same URL have the same arrival. -/
theorem exchange {request otherRequest : Request} (sameUrl : request.url = otherRequest.url) :
    (Session.exchange request).Alike (Session.exchange otherRequest)
      fun result effects others => ∃ arrival, result = .ok arrival ∧
        effects = [.exchanged request arrival] ∧ others = [.exchanged otherRequest arrival] := by
  rintro ⟨server, draws, trace⟩ ⟨_, _, otherTrace⟩ ⟨rfl, rfl⟩
  rw [Session.exchange, Session.exchange, run_modifyGet, run_modifyGet]
  dsimp only
  rw [sameUrl]
  by_cases connected : server.schemes.contains (String.ofList otherRequest.url.scheme) = true
  · rw [if_pos connected, if_pos connected]
    cases server.queue with
    | nil => exact ⟨_, _, rfl, rfl, ⟨rfl, rfl⟩, rfl, _, rfl, rfl, rfl⟩
    | cons arrival queue => exact ⟨_, _, rfl, rfl, ⟨rfl, rfl⟩, rfl, _, rfl, rfl, rfl⟩
  · rw [if_neg connected, if_neg connected]
    exact ⟨_, _, rfl, rfl, ⟨rfl, rfl⟩, rfl, _, rfl, rfl, rfl⟩

end Alike

end Session

namespace Client

variable {request other : Request}

/-- Requests for the same URL have the same fate in one attempt. -/
theorem attempt_alike (client : Client) (sameUrl : request.url = other.url) :
    (client.attempt request).Alike (client.attempt other) fun _ effects others =>
      effects = [] ∧ others = [] ∨ ∃ arrival,
        effects = [.exchanged (client.introduce request) arrival] ∧
          others = [.exchanged (client.introduce other) arrival] := by
  have sendable : request.isSendable = other.isSendable := by
    rw [Request.isSendable, Request.isSendable, sameUrl]
  have introduced : (client.introduce request).url = (client.introduce other).url := by
    rw [introduce_url, introduce_url, sameUrl]
  rw [attempt, attempt, sendable, sameUrl]
  cases other.isSendable with
  | false => exact .pure (.inl ⟨rfl, rfl⟩)
  | true =>
      refine .bind (.exchange introduced) ?_ ?_
      · rintro _ _ _ ⟨arrival, ended, -⟩
        cases ended
      · rintro arrival _ _ ⟨_, ended, rfl, rfl⟩
        cases ended
        exact .pure (.inr ⟨arrival, rfl, rfl⟩)

/-- Requests for the same URL have the same fate, are repeated in the same way and leave the same
events and delays. -/
theorem deliverFrom_alike (client : Client) (sameUrl : request.url = other.url)
    (left attempt : Nat) :
    (client.deliverFrom request left attempt).Alike (client.deliverFrom other left attempt)
      fun _ => List.Forall₂ (Effect.Like fun sent otherSent =>
        sent = client.introduce request ∧ otherSent = client.introduce other) := by
  induction left generalizing attempt with
  | zero => exact .throw .nil
  | succ left induction =>
      -- What one attempt appends is like itself; the verdict on it is the same for both sessions.
      have exchanged : ∀ {effects others : List Effect},
          (effects = [] ∧ others = [] ∨ ∃ arrival,
            effects = [.exchanged (client.introduce request) arrival] ∧
              others = [.exchanged (client.introduce other) arrival]) →
          List.Forall₂ (Effect.Like fun sent otherSent =>
            sent = client.introduce request ∧ otherSent = client.introduce other)
            effects others := by
        rintro effects others (⟨rfl, rfl⟩ | ⟨arrival, rfl, rfl⟩)
        · exact .nil
        · exact .cons (.exchanged ⟨rfl, rfl⟩ arrival) .nil
      rw [deliverFrom, deliverFrom]
      refine .bind (client.attempt_alike sameUrl) (fun _ _ _ => exchanged) ?_
      intro answered effects others sent
      have alike := exchanged sent
      cases answered with
      | error failure => exact .pure (by simpa using alike)
      | ok reply =>
          dsimp only
          split
          · exact .pure (by simpa using alike)
          · refine .afterRecordAll (.afterDraw fun number => ?_)
            rw [sameUrl]
            split
            · refine .afterRecord (.pure ?_)
              exact List.rel_append alike (List.rel_append (Effect.like_map_logged _)
                (.cons (.logged _) .nil))
            · refine .afterRecord (.afterSleep ((induction (attempt + 1)).mono ?_))
              intro result later laterOthers following
              exact List.rel_append alike (List.rel_append (Effect.like_map_logged _)
                (.cons (.logged _) (.cons (.slept _) following)))

end Client

end Http

end GroupSync
