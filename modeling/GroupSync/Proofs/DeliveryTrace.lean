import GroupSync.Http.Delivery
import GroupSync.Proofs.SessionTrace

/-!
# What a delivery does

A request is sent again only directly after a reply that says that there are too many requests,
and at most as often as the policy allows.  `Client.Delivered` lists the ways in which a delivery
can go on from an attempt, with every effect that it has; what holds of all its exchanges follows
by induction.
-/

namespace GroupSync

namespace RetryPolicy

variable {policy : RetryPolicy} {status attempt : Nat} {advised : Option Duration}
  {jitter : Duration}

theorem lt_of_verdict_eq_final (limited : status = retryableStatus)
    (final : policy.verdict status attempt advised jitter = .final) :
    policy.maxRetries.toNat < attempt := by
  refine Nat.lt_of_not_le fun allowed => ?_
  have neither : ¬ (status ≠ retryableStatus ∨ policy.maxRetries.toNat < attempt) := by
    omega
  rw [verdict, if_neg neither] at final
  cases final

theorem le_of_verdict_eq_again {delay share : Duration}
    (again : policy.verdict status attempt advised jitter = .again delay share) :
    attempt ≤ policy.maxRetries.toNat := by
  refine Nat.le_of_not_lt fun late => ?_
  rw [verdict, if_pos (.inr late)] at again
  cases again

end RetryPolicy

namespace Http

namespace Arrival

/-- A reply that says that there are too many requests. -/
def RateLimits (arrival : Arrival) : Prop :=
  ∃ reply, arrival = .reply reply ∧ reply.status = RetryPolicy.retryableStatus

theorem outcome_eq_ok_iff {arrival : Arrival} {url : Url} {received : Reply} :
    arrival.outcome url = .ok received ↔ arrival = .reply received := by
  cases arrival with
  | reply answered => simp [outcome]
  | closed => simp [outcome]
  | silence => simp [outcome]
  | unreachable => simp [outcome]

theorem reply_rateLimits_iff {received : Reply} :
    (reply received).RateLimits ↔ received.status = RetryPolicy.retryableStatus := by
  simp [RateLimits]

theorem ne_reply_of_outcome_eq_error {arrival : Arrival} {url : Url} {failure : Failure}
    (failed : arrival.outcome url = .error failure) (received : Reply) :
    arrival ≠ .reply received := by
  rintro rfl
  cases failed

end Arrival

namespace Draft

/-- A draft is a request that can be sent. -/
def IsSendable (draft : Draft) : Prop :=
  ∃ request, draft = .ok request ∧ request.isSendable = true

theorem not_isSendable_error (fault : BuildFault) : ¬ IsSendable (.error fault) := by
  rintro ⟨request, drafted, -⟩
  cases drafted

theorem isSendable_ok_iff {request : Request} :
    IsSendable (.ok request) ↔ request.isSendable = true := by
  simp [IsSendable]

instance (draft : Draft) : Decidable draft.IsSendable :=
  match draft with
  | .error fault => isFalse (not_isSendable_error fault)
  | .ok _ => decidable_of_iff _ isSendable_ok_iff.symm

end Draft

/-- The exchanges of one request that is sent up to `limit` times: all of them carry the same
request, and all but the last are answered with a reply that says that there are too many. -/
structure Sendings (request : Request) (limit : Nat) (exchanges : List Exchange) : Prop where
  /-- The request is not sent more often than allowed. -/
  bounded : exchanges.length ≤ limit
  /-- Every exchange carries the request. -/
  same : ∀ exchange ∈ exchanges, exchange.1 = request
  /-- Every exchange that is followed by another one was rate-limited. -/
  rateLimited : ∀ exchange ∈ exchanges.dropLast, exchange.2.RateLimits

namespace Sendings

variable {request : Request} {limit : Nat} {exchanges : List Exchange}

theorem nothing : Sendings request limit [] :=
  ⟨Nat.zero_le _, by simp, by simp⟩

theorem once {arrival : Arrival} (positive : 0 < limit) :
    Sendings request limit [(request, arrival)] :=
  ⟨positive, by simp, by simp⟩

/-- A request that was rate-limited may be sent again. -/
theorem again {arrival : Arrival} (limits : arrival.RateLimits)
    (sendings : Sendings request limit exchanges) :
    Sendings request (limit + 1) ((request, arrival) :: exchanges) where
  bounded := Nat.succ_le_succ sendings.bounded
  same := by
    rintro exchange (_ | ⟨_, later⟩)
    · rfl
    · exact sendings.same exchange later
  rateLimited := by
    cases exchanges with
    | nil => simp
    | cons next rest =>
        rintro exchange (_ | ⟨_, later⟩)
        · exact limits
        · exact sendings.rateLimited exchange later

end Sendings

namespace Client

variable {client : Client} {request : Request}

/-- One attempt makes one exchange, unless the request cannot be sent. -/
theorem attempt_adds (client : Client) (request : Request) :
    (client.attempt request).Adds fun result effects =>
      request.isSendable = false ∧
          result = .ok (.error (BuildFault.unusable request.url).toError) ∧ effects = [] ∨
        request.isSendable = true ∧ ∃ arrival, result = .ok (arrival.outcome request.url) ∧
          effects = [.exchanged (client.introduce request) arrival] := by
  rw [attempt]
  cases sendable : request.isSendable with
  | false => exact .pure (.inl ⟨rfl, rfl, rfl⟩)
  | true =>
      refine .bind (.exchange _) ?_ ?_
      · rintro _ _ ⟨arrival, ended, -⟩
        cases ended
      · rintro arrival _ ⟨_, ended, rfl⟩
        cases ended
        exact .pure (.inr ⟨rfl, arrival, rfl, rfl⟩)

/-- How a delivery goes on from attempt number `attempt`, while the counter of attempts holds
`left` more of them: its result and its effects. -/
inductive Delivered (client : Client) (request : Request) :
    Nat → Nat → Except Breakdown (Except Failure Reply) → List Effect → Prop
  /-- The counter of attempts is used up. -/
  | overflown (attempt : Nat) :
      Delivered client request 0 attempt (.error .counterOverflow) []
  /-- The request cannot be sent. -/
  | unsendable (left attempt : Nat) (refused : request.isSendable = false) :
      Delivered client request (left + 1) attempt
        (.ok (.error (BuildFault.unusable request.url).toError)) []
  /-- What comes of the request is final whatever the policy says. -/
  | settled (left attempt : Nat) (arrival : Arrival) (sendable : request.isSendable = true)
      (free : ¬ arrival.RateLimits) :
      Delivered client request (left + 1) attempt (.ok (arrival.outcome request.url))
        [.exchanged (client.introduce request) arrival]
  /-- The request is rate-limited and the policy allows no further attempt. -/
  | exhausted (left attempt : Nat) (reply : Reply) (sendable : request.isSendable = true)
      (limited : reply.status = RetryPolicy.retryableStatus)
      (late : client.policy.maxRetries.toNat < attempt) :
      Delivered client request (left + 1) attempt (.ok (.ok reply))
        (.exchanged (client.introduce request) (.reply reply) ::
          ((advice client.policy reply).2.map .logged ++
            [.logged (exhaustedEvent request.url attempt)]))
  /-- The request is rate-limited and sent again after a delay with some random share. -/
  | again (left attempt number : Nat) (reply : Reply) (delay jitter : Duration)
      {result : Except Breakdown (Except Failure Reply)} {effects : List Effect}
      (sendable : request.isSendable = true)
      (limited : reply.status = RetryPolicy.retryableStatus)
      (allowed : client.policy.verdict reply.status attempt (advice client.policy reply).1
        (client.policy.jitter number) = .again delay jitter)
      (later : Delivered client request left (attempt + 1) result effects) :
      Delivered client request (left + 1) attempt result
        (.exchanged (client.introduce request) (.reply reply) ::
          ((advice client.policy reply).2.map .logged ++
            .logged (retryEvent client.policy request.url attempt delay jitter) ::
              .slept delay :: effects))

theorem deliverFrom_adds (client : Client) (request : Request) (left attempt : Nat) :
    (client.deliverFrom request left attempt).Adds (Delivered client request left attempt) := by
  induction left generalizing attempt with
  | zero => exact .throw (.overflown attempt)
  | succ left induction =>
      rw [deliverFrom]
      refine .bind (attempt_adds client request) ?_ ?_
      · rintro _ _ (⟨-, ended, -⟩ | ⟨-, _, ended, -⟩)
        · cases ended
        · cases ended
      · rintro answered effects (⟨refused, ended, rfl⟩ | ⟨sendable, arrival, ended, rfl⟩)
        · cases ended
          exact .pure (.unsendable left attempt refused)
        · cases ended
          cases reached : arrival.outcome request.url with
          | error failure =>
              have free : ¬ arrival.RateLimits := by
                rintro ⟨received, replied, -⟩
                exact Arrival.ne_reply_of_outcome_eq_error reached received replied
              exact .pure (reached ▸ .settled left attempt arrival sendable free)
          | ok reply =>
              obtain rfl := Arrival.outcome_eq_ok_iff.mp reached
              by_cases limited : reply.status = RetryPolicy.retryableStatus
              -- The verdict of the policy matters only for the one status that is ever retried.
              · have repeatable : (reply.status ≠ RetryPolicy.retryableStatus) = False :=
                  eq_false (not_not_intro limited)
                simp only [repeatable, if_false]
                refine .afterRecordAll (.afterDraw fun number => ?_)
                cases verdict : client.policy.verdict reply.status attempt
                    (advice client.policy reply).1 (client.policy.jitter number) with
                | final =>
                    have late := RetryPolicy.lt_of_verdict_eq_final limited verdict
                    exact .afterRecord (.pure (.exhausted left attempt reply sendable limited late))
                | again delay jitter =>
                    refine .afterRecord (.afterSleep ?_)
                    refine (induction (attempt + 1)).mono fun result effects later => ?_
                    exact .again left attempt number reply delay jitter sendable limited verdict
                      later
              · have free : ¬ (Arrival.reply reply).RateLimits :=
                  fun limits => limited (Arrival.reply_rateLimits_iff.mp limits)
                simp only [ne_eq, limited, not_false_eq_true, if_true]
                exact .pure (.settled left attempt (.reply reply) sendable free)

namespace Delivered

variable {left attempt : Nat} {result : Except Breakdown (Except Failure Reply)}
  {effects : List Effect}

@[simp]
theorem exchangesOf_again (reply : Reply) (events : List LogEvent) (event : LogEvent)
    (delay : Duration) :
    exchangesOf (.exchanged request (.reply reply) ::
        (events.map .logged ++ .logged event :: .slept delay :: effects)) =
      (request, .reply reply) :: exchangesOf effects := by
  simp

/-- From attempt number `attempt` on, a request is sent as often as retries are left, and once. -/
theorem sendings (delivered : Delivered client request left attempt result effects)
    (allowed : attempt ≤ client.policy.maxRetries.toNat + 1) :
    Sendings (client.introduce request) (client.policy.maxRetries.toNat + 2 - attempt)
      (exchangesOf effects) := by
  induction delivered with
  | overflown attempt => exact .nothing
  | unsendable left attempt refused => exact .nothing
  | settled left attempt arrival sendable free => exact .once (by omega)
  | exhausted left attempt reply sendable limited late =>
      simpa using Sendings.once (by omega)
  | again left attempt number reply delay jitter sendable limited verdict later induction =>
      have early := RetryPolicy.le_of_verdict_eq_again verdict
      have limits := Arrival.reply_rateLimits_iff.mpr limited
      have counted : client.policy.maxRetries.toNat + 2 - attempt =
          client.policy.maxRetries.toNat + 2 - (attempt + 1) + 1 := by omega
      rw [exchangesOf_again, counted]
      exact (induction (by omega)).again limits

theorem of_refused (delivered : Delivered client request left attempt result effects)
    (refused : request.isSendable = false) (counting : left ≠ 0) :
    exchangesOf effects = [] ∧ ∃ failure, result = .ok (.error failure) := by
  cases delivered with
  | overflown attempt => exact absurd rfl counting
  | unsendable left attempt refused => exact ⟨rfl, _, rfl⟩
  | settled left attempt arrival sendable free =>
      rw [sendable] at refused
      cases refused
  | exhausted left attempt reply sendable limited late =>
      rw [sendable] at refused
      cases refused
  | again left attempt number reply delay jitter sendable limited verdict later =>
      rw [sendable] at refused
      cases refused

/-- A delivery ends with what came of its last exchange, unless that was rate-limited and the
counter of attempts is used up. -/
theorem of_sendable (delivered : Delivered client request left attempt result effects)
    (sendable : request.isSendable = true) (counting : left ≠ 0) :
    ∃ arrival, (exchangesOf effects).getLast? = some (client.introduce request, arrival) ∧
      (result = .ok (arrival.outcome request.url) ∨
        arrival.RateLimits ∧ result = .error .counterOverflow) := by
  induction delivered with
  | overflown attempt => exact absurd rfl counting
  | unsendable left attempt refused =>
      rw [sendable] at refused
      cases refused
  | settled left attempt arrival sendable free => exact ⟨arrival, rfl, .inl rfl⟩
  | exhausted left attempt reply sendable limited late =>
      exact ⟨.reply reply, by simp, .inl rfl⟩
  | again left attempt number reply delay jitter sendable limited verdict later induction =>
      rw [exchangesOf_again]
      cases left with
      | zero =>
          cases later
          exact ⟨.reply reply, rfl, .inr ⟨Arrival.reply_rateLimits_iff.mpr limited, rfl⟩⟩
      | succ left =>
          obtain ⟨arrival, last, ended⟩ := induction (Nat.succ_ne_zero left)
          refine ⟨arrival, ?_, ended⟩
          rw [List.getLast?_cons, last]
          rfl

end Delivered

/-- The request of a draft is sent if it can be, and at most once more than the number of
retries. -/
theorem deliver_adds (client : Client) (draft : Draft) :
    (client.deliver draft).Adds fun result effects =>
      ¬ draft.IsSendable ∧ exchangesOf effects = [] ∧ (∃ failure, result = .ok (.error failure)) ∨
        ∃ request arrival, draft = .ok request ∧ request.isSendable = true ∧
          Sendings (client.introduce request) (client.policy.maxRetries.toNat + 1)
            (exchangesOf effects) ∧
          (exchangesOf effects).getLast? = some (client.introduce request, arrival) ∧
          (result = .ok (arrival.outcome request.url) ∨
            arrival.RateLimits ∧ result = .error .counterOverflow) := by
  cases draft with
  | error fault => exact .pure (.inl ⟨Draft.not_isSendable_error fault, rfl, _, rfl⟩)
  | ok request =>
      refine (deliverFrom_adds client request _ 1).mono fun result effects delivered => ?_
      have counting : RetryPolicy.greatestAttempt ≠ 0 := by decide
      cases sendable : request.isSendable with
      | false =>
          have unsendable : ¬ Draft.IsSendable (.ok request) := by
            rw [Draft.isSendable_ok_iff, sendable]
            exact Bool.false_ne_true
          exact .inl ⟨unsendable, delivered.of_refused sendable counting⟩
      | true =>
          obtain ⟨arrival, last, ended⟩ := delivered.of_sendable sendable counting
          exact .inr ⟨request, arrival, rfl, sendable, delivered.sendings (by omega), last, ended⟩

/-- Sending a draft once does nothing but make one exchange, if it can be sent. -/
theorem exchange_effects (client : Client) (draft : Draft) :
    (client.exchange draft).Adds fun result effects =>
      ¬ draft.IsSendable ∧ effects = [] ∧ (∃ failure, result = .ok (.error failure)) ∨
        ∃ request arrival, draft = .ok request ∧ request.isSendable = true ∧
          effects = [.exchanged (client.introduce request) arrival] ∧
          result = .ok (arrival.outcome request.url) := by
  cases draft with
  | error fault => exact .pure (.inl ⟨Draft.not_isSendable_error fault, rfl, _, rfl⟩)
  | ok request =>
      refine (attempt_adds client request).mono ?_
      rintro result effects (⟨refused, rfl, rfl⟩ | ⟨sendable, arrival, rfl, rfl⟩)
      · have unsendable : ¬ Draft.IsSendable (.ok request) := by
          rw [Draft.isSendable_ok_iff, refused]
          exact Bool.false_ne_true
        exact .inl ⟨unsendable, rfl, _, rfl⟩
      · exact .inr ⟨request, arrival, rfl, sendable, rfl, rfl⟩

/-- The request of a draft that is sent once is sent if it can be, and never again. -/
theorem exchange_adds (client : Client) (draft : Draft) :
    (client.exchange draft).Adds fun result effects =>
      ¬ draft.IsSendable ∧ exchangesOf effects = [] ∧ (∃ failure, result = .ok (.error failure)) ∨
        ∃ request arrival, draft = .ok request ∧ request.isSendable = true ∧
          exchangesOf effects = [(client.introduce request, arrival)] ∧
          result = .ok (arrival.outcome request.url) := by
  refine (client.exchange_effects draft).mono ?_
  rintro result effects
    (⟨unsendable, rfl, failed⟩ | ⟨request, arrival, drafted, sendable, rfl, ended⟩)
  · exact .inl ⟨unsendable, rfl, failed⟩
  · exact .inr ⟨request, arrival, drafted, sendable, rfl, ended⟩

end Client

end Http

end GroupSync
