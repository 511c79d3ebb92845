import GroupSync.Manager
import GroupSync.Proofs.Rounds
import Mathlib.Data.List.Forall2

/-!
# The order of requests

An update asks for a token and then posts its batches one after another.  Each batch has a round
of exchanges to itself, and the next round begins only after a reply that accepted the batch.
Nothing else is ever requested, whatever the server answers.
-/

namespace GroupSync

open Http

variable [BodyDecoding]

namespace ActionEndpoint

/-- Rounds of exchanges under a token.  They belong to the first of the batches, in order, and
every round that is followed by another one ended with its batch accepted.  If no further one
follows a round that ended so, then there is no further batch, its request cannot be sent, or the
totals overflow. -/
structure PostsInOrder (endpoint : ActionEndpoint) (token : Token) (overflows : Prop)
    (batches : List Batch) (rounds : List (List Exchange)) : Prop where
  posts : List.Forall₂ (endpoint.PostsBatch token) (batches.take rounds.length) rounds
  accepted : ∀ round ∈ rounds.dropLast, EndsAccepted round
  complete : (∀ round, rounds.getLast? = some round → EndsAccepted round) →
    ∀ batch, batches[rounds.length]? = some batch →
      (endpoint.draft batch token).IsSendable → overflows

variable {endpoint : ActionEndpoint} {token : Token} {overflows : Prop} {batch : Batch}
  {batches : List Batch} {round : List Exchange} {rounds : List (List Exchange)}

theorem postsInOrder_nil : endpoint.PostsInOrder token overflows [] [] where
  posts := .nil
  accepted := by simp
  complete := by simp

theorem postsInOrder_cons_nil (unsendable : ¬ (endpoint.draft batch token).IsSendable) :
    endpoint.PostsInOrder token overflows (batch :: batches) [] where
  posts := .nil
  accepted := by simp
  complete := by
    rintro - _ ⟨⟩ sendable
    exact absurd sendable unsendable

/-- Nothing needs to follow a round unless it ended with its batch accepted. -/
theorem postsInOrder_singleton (posts : endpoint.PostsBatch token batch round)
    (stops : EndsAccepted round → overflows) :
    endpoint.PostsInOrder token overflows (batch :: batches) [round] where
  posts := .cons posts .nil
  accepted := by simp
  complete := fun ended _ _ _ => stops (ended round rfl)

/-- The exchanges of a batch that is not followed by another one. -/
theorem postsInOrder_of_last
    (sent : ¬ (endpoint.draft batch token).IsSendable ∧ round = [] ∨
      endpoint.PostsBatch token batch round) (stops : EndsAccepted round → overflows) :
    ∃ rounds : List (List Exchange), round = rounds.flatten ∧
      endpoint.PostsInOrder token overflows (batch :: batches) rounds := by
  rcases sent with ⟨unsendable, rfl⟩ | posts
  · exact ⟨[], rfl, postsInOrder_cons_nil unsendable⟩
  · exact ⟨[round], by simp, postsInOrder_singleton posts stops⟩

/-- A round that ended with its batch accepted may be followed by others. -/
theorem PostsInOrder.after (posts : endpoint.PostsBatch token batch round)
    (ended : EndsAccepted round) (later : endpoint.PostsInOrder token overflows batches rounds) :
    endpoint.PostsInOrder token overflows (batch :: batches) (round :: rounds) where
  posts := .cons posts later.posts
  accepted := by
    cases rounds with
    | nil => simp
    | cons next rest =>
        rintro earlier (_ | ⟨_, member⟩)
        · exact ended
        · exact later.accepted earlier member
  complete := by
    intro endings
    refine later.complete fun final last => endings final ?_
    rw [List.getLast?_cons, last]
    rfl

end ActionEndpoint

namespace Manager

/-- The exchanges of an update: those of asking for a token, and rounds in order under the token
that is handed out, if there is one. -/
structure RequestsInOrder (manager : Manager) (overflows : Prop) (batches : List Batch)
    (asking : List Exchange) (rounds : List (List Exchange)) : Prop where
  asked : manager.tokens.AsksOnce asking
  denied : (∀ token exchange, asking = [exchange] → ¬ exchange.2.Grants token) → rounds = []
  granted : ∀ token exchange, asking = [exchange] → exchange.2.Grants token →
    manager.endpoint.PostsInOrder token overflows batches rounds

variable {manager : Manager} {token : Token} {overflows : Prop} {batches : List Batch}
  {asking : List Exchange} {rounds : List (List Exchange)}

theorem requestsInOrder_of_denied (asked : manager.tokens.AsksOnce asking)
    (denied : ∀ token, ¬ ∃ exchange, asking = [exchange] ∧ exchange.2.Grants token) :
    manager.RequestsInOrder overflows batches asking [] where
  asked := asked
  denied := fun _ => rfl
  granted := fun token exchange sent grants => absurd ⟨exchange, sent, grants⟩ (denied token)

theorem requestsInOrder_of_granted (asked : manager.tokens.AsksOnce asking)
    (granted : ∀ other, token = other ↔ ∃ exchange, asking = [exchange] ∧ exchange.2.Grants other)
    (inOrder : manager.endpoint.PostsInOrder token overflows batches rounds) :
    manager.RequestsInOrder overflows batches asking rounds where
  asked := asked
  denied := by
    intro denied
    obtain ⟨exchange, sent, grants⟩ := (granted token).mp rfl
    exact absurd grants (denied token exchange sent)
  granted := by
    intro other exchange sent grants
    obtain rfl := (granted other).mpr ⟨exchange, sent, grants⟩
    exact inOrder

theorem recordAll_channels (events : List LogEvent) :
    Synchronization.recordAll manager.channels events = Session.recordAll events := by
  induction events with
  | nil => rfl
  | cons event events induction =>
      rw [Synchronization.recordAll, Session.recordAll, induction]
      rfl

/-- The exchanges of sending batches are rounds in order. -/
theorem sendBatches_adds (total number : Nat) (batches : List Batch) (summary : Summary) :
    (Synchronization.sendBatches manager.channels token total number batches summary).Adds
      fun result effects => ∃ rounds : List (List Exchange),
        exchangesOf effects = rounds.flatten ∧
          manager.endpoint.PostsInOrder token (result = .ok (.error .counterOverflow)) batches
            rounds := by
  induction batches generalizing number summary with
  | nil => exact .pure ⟨[], rfl, ActionEndpoint.postsInOrder_nil⟩
  | cons batch batches induction =>
      rw [Synchronization.sendBatches]
      -- Whatever ends the run at this batch, its round is the last; only a response that is counted
      -- and reports no errors lets further rounds follow.
      refine .bind (manager.endpoint.send_adds batch token) ?_ ?_
      · rintro breakdown effects ⟨sent, accepted⟩
        exact ActionEndpoint.postsInOrder_of_last sent fun ended => by simpa using accepted.mp ended
      · rintro answered effects ⟨sent, accepted⟩
        cases answered with
        | error error =>
            obtain ⟨rounds, split, inOrder⟩ := ActionEndpoint.postsInOrder_of_last sent
              fun ended => by simpa using accepted.mp ended
            exact .afterRecord (.pure ⟨rounds, by simp [split], inOrder⟩)
        | ok response =>
            have clean_iff : EndsAccepted (exchangesOf effects) ↔ response.errors = [] := by
              simpa using accepted
            dsimp only
            cases summary.record? batch.size response with
            | none =>
                obtain ⟨rounds, split, inOrder⟩ := ActionEndpoint.postsInOrder_of_last sent
                  fun _ => rfl
                exact .pure ⟨rounds, by simp [split], inOrder⟩
            | some counted =>
                rw [recordAll_channels]
                refine .afterRecordAll ?_
                cases judged : (Outcome.ofResponse response).toResult with
                | error error =>
                    obtain ⟨rounds, split, inOrder⟩ := ActionEndpoint.postsInOrder_of_last sent
                      fun ended => by
                        rw [Outcome.toResult_ofResponse, if_pos (clean_iff.mp ended)] at judged
                        cases judged
                    exact .afterRecord (.pure ⟨rounds, by simp [split], inOrder⟩)
                | ok warnings =>
                    have ended := clean_iff.mpr (Outcome.errors_eq_nil_of_toResult_eq_ok judged)
                    refine (induction (number + 1) (counted.addWarnings warnings)).mono ?_
                    rintro result later ⟨rounds, laterRounds, inOrder⟩
                    rcases sent with ⟨-, silent⟩ | posts
                    · simp [EndsAccepted, silent] at ended
                    · exact ⟨_ :: rounds, by simp [laterRounds], .after posts ended inOrder⟩

theorem update_adds (manager : Manager) (groups : List Group) :
    (manager.update groups).Adds fun result effects =>
      ∃ (asking : List Exchange) (rounds : List (List Exchange)),
        exchangesOf effects = asking ++ rounds.flatten ∧
          manager.RequestsInOrder (result = .ok (.error .counterOverflow))
            (Batch.ofGroups manager.profiles groups) asking rounds := by
  refine .afterRecord (.bind manager.tokens.acquire_adds ?_ ?_)
  · rintro breakdown effects ⟨asked, granted⟩
    exact ⟨_, [], by simp, requestsInOrder_of_denied asked (by simpa using granted)⟩
  · rintro acquired effects ⟨asked, granted⟩
    cases acquired with
    | error error =>
        exact .pure ⟨_, [], by simp, requestsInOrder_of_denied asked (by simpa using granted)⟩
    | ok token =>
        have ordered : ∀ {overflows : Prop} {rounds : List (List Exchange)},
            manager.endpoint.PostsInOrder token overflows
                (Batch.ofGroups manager.profiles groups) rounds →
              manager.RequestsInOrder overflows (Batch.ofGroups manager.profiles groups)
                (exchangesOf effects) rounds :=
          requestsInOrder_of_granted asked (by simpa using granted)
        refine .afterRecord (.bind (sendBatches_adds _ _ _ _) ?_ ?_)
        · rintro breakdown later ⟨rounds, split, inOrder⟩
          exact ⟨_, rounds, by simp [split], ordered inOrder⟩
        · rintro result later ⟨rounds, split, inOrder⟩
          cases result with
          | error failure => exact .pure ⟨_, rounds, by simp [split], ordered inOrder⟩
          | ok summary =>
              refine .afterRecord (.pure ⟨_, rounds, by simp [split], ordered ?_⟩)
              simpa using inOrder

/-- Whatever the server answers, an update asks for a token at most once and then posts its
batches in order, each of them again only while it is rate-limited and the next only once it is
accepted. -/
theorem update_requestsInOrder (manager : Manager) (groups : List Group) (world : World) :
    ∃ (asking : List Exchange) (rounds : List (List Exchange)),
      ((manager.update groups).run world).2.exchanges =
          world.exchanges ++ asking ++ rounds.flatten ∧
        manager.RequestsInOrder
          (((manager.update groups).run world).1 = .ok (.error .counterOverflow))
          (Batch.ofGroups manager.profiles groups) asking rounds := by
  obtain ⟨effects, trace, asking, rounds, split, inOrder⟩ := manager.update_adds groups world
  refine ⟨asking, rounds, ?_, inOrder⟩
  rw [World.exchanges, trace, exchangesOf_append, split, List.append_assoc]
  rfl

/-- With three retries a batch is sent at most four times. -/
example : RetryPolicy.standard.maxRetries.toNat + 1 = 4 :=
  rfl

end Manager

end GroupSync
