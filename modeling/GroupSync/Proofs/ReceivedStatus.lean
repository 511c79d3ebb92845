import GroupSync.Proofs.Rounds

/-!
# Which statuses are reported

The body of a reply is read before its status is looked at.  A failing status is therefore reported
exactly if the body arrives to its end; if it does not, the batch is said to have failed before any
status arrived.
-/

namespace GroupSync

open Http

namespace Http.Client

variable {client : Client}

/-- A counter of attempts is used up only by a policy that allows that many retries. -/
theorem Delivered.le_maxRetries_of_overflow {request : Request} {left attempt : Nat}
    {result : Except Breakdown (Except Failure Reply)} {effects : List Effect}
    (delivered : Delivered client request left attempt result effects) (counting : left ≠ 0)
    {breakdown : Breakdown} (overflown : result = .error breakdown) :
    attempt + left ≤ client.policy.maxRetries.toNat + 1 := by
  induction delivered with
  | overflown attempt => exact absurd rfl counting
  | unsendable left attempt refused => cases overflown
  | settled left attempt arrival sendable free => cases overflown
  | exhausted left attempt reply sendable limited late => cases overflown
  | again left attempt number reply delay jitter sendable limited verdict later induction =>
      have early := RetryPolicy.le_of_verdict_eq_again verdict
      cases left with
      | zero => omega
      | succ left =>
          have bound := induction (Nat.succ_ne_zero left) overflown
          omega

/-- A delivery breaks down only if the policy allows as many retries as can be counted. -/
theorem deliver_breaks (client : Client) (draft : Draft) :
    (client.deliver draft).Adds fun result _ => ∀ breakdown, result = .error breakdown →
      client.policy.maxRetries.toNat = RetryPolicy.greatestAttempt := by
  cases draft with
  | error fault => exact .pure fun breakdown ended => nomatch ended
  | ok request =>
      refine (deliverFrom_adds client request _ 1).mono fun result effects delivered => ?_
      intro breakdown ended
      have counting : RetryPolicy.greatestAttempt ≠ 0 := by decide
      have bound := delivered.le_maxRetries_of_overflow counting ended
      have counted := client.policy.maxRetries.toNat_lt
      have greatest : RetryPolicy.greatestAttempt = 2 ^ 32 - 1 := rfl
      omega

end Http.Client

namespace ActionEndpoint

/-- A result reports an arrival as far as its body allows: a failing status together with the
request if the body arrives to its end, and a failure before any status if there is no reply, or
none that arrives to its end. -/
structure Reports (context : AnsweredRequest) (arrival : Arrival)
    (result : Except Failure Response) : Prop where
  status : ∀ reply, arrival = .reply reply → 300 ≤ reply.status →
    ((∃ reason body, result = .error (.transport reply.status reason body context)) ↔
      reply.complete = true)
  network : (∃ text, result = .error (.network text)) ↔
    ∀ reply, arrival = .reply reply → reply.complete = false

variable {context : AnsweredRequest} {arrival : Arrival} {url : Url}

theorem reports_of_no_reply {failure : Failure} (reached : arrival.outcome url = .error failure) :
    Reports context arrival (.error failure) where
  status := fun reply replied => absurd replied (Arrival.ne_reply_of_outcome_eq_error reached reply)
  network := by
    have unreplied := Arrival.ne_reply_of_outcome_eq_error reached
    obtain ⟨text, rfl⟩ : ∃ text, failure = .network text := by
      cases arrival <;> cases reached <;> exact ⟨_, rfl⟩
    simp [unreplied]

theorem reports_judgeReply [BodyDecoding] (context : AnsweredRequest) (reply : Reply) :
    Reports context (.reply reply) (judgeReply context reply) := by
  cases arrived : reply.complete with
  | false =>
      have broken : reply.text = .error "error decoding response body" := by
        simp [Reply.text, arrived]
      constructor <;> simp [judgeReply, broken, arrived]
  | true =>
      obtain ⟨body, readable⟩ : ∃ body, reply.text = .ok body := by simp [Reply.text, arrived]
      by_cases failing : 300 ≤ reply.status
      · constructor <;> simp [judgeReply, judge, readable, Status.isFailing, failing, arrived]
      · have silent : ∀ text, judge context reply.status body ≠ .error (.network text) := by
          intro text
          rw [judge]
          split
          · simp
          · split
            · simp
            · split <;> simp
        constructor <;> simp [judgeReply, readable, failing, arrived, silent]

/-- A result comes of the last arrival alone. -/
theorem send_judgesLast [BodyDecoding] (endpoint : ActionEndpoint) (batch : Batch) (token : Token) :
    (endpoint.send batch token).Adds fun result effects =>
      ∀ exchange, (exchangesOf effects).getLast? = some exchange →
        (∃ url, result =
          .ok ((exchange.2.outcome url).bind (judgeReply (endpoint.context batch)))) ∨
        endpoint.client.policy.maxRetries.toNat = RetryPolicy.greatestAttempt ∧
          exchange.2.RateLimits ∧ result = .error .counterOverflow := by
  have delivers := (endpoint.client.deliver_adds (endpoint.draft batch token)).and
    (endpoint.client.deliver_breaks (endpoint.draft batch token))
  rw [send]
  refine .bind delivers ?_ ?_
  · rintro breakdown effects
      ⟨⟨-, -, failure, ended⟩ | ⟨request, arrival, -, -, -, last, ended⟩, breaks⟩ exchange final
    · cases ended
    · obtain rfl : (endpoint.client.introduce request, arrival) = exchange := by
        simpa [last] using final
      rcases ended with ended | ⟨limits, ended⟩
      · cases ended
      · exact .inr ⟨breaks breakdown rfl, limits, by simp⟩
  · rintro answered effects
      ⟨⟨-, silent, -⟩ | ⟨request, arrival, -, -, -, last, ended⟩, -⟩
    · cases answered <;> exact .pure (by simp [silent])
    · obtain rfl : answered = arrival.outcome request.url := by simpa using ended
      have judged (exchange : Exchange) (final : (exchangesOf effects).getLast? = some exchange) :
          exchange.2 = arrival := by
        obtain rfl : (endpoint.client.introduce request, arrival) = exchange := by
          simpa [last] using final
        rfl
      cases reached : arrival.outcome request.url with
      | error failure =>
          refine .pure fun exchange final => .inl ⟨request.url, ?_⟩
          rw [List.append_nil] at final
          rw [judged exchange final, reached]
          rfl
      | ok reply =>
          refine .pure fun exchange final => .inl ⟨request.url, ?_⟩
          rw [List.append_nil] at final
          rw [judged exchange final, reached]
          rfl

theorem send_reportsLast [BodyDecoding] (endpoint : ActionEndpoint) (batch : Batch)
    (token : Token) :
    (endpoint.send batch token).Adds fun result effects =>
      ∀ exchange, (exchangesOf effects).getLast? = some exchange →
        (∃ ended, result = .ok ended ∧ Reports (endpoint.context batch) exchange.2 ended) ∨
        endpoint.client.policy.maxRetries.toNat = RetryPolicy.greatestAttempt ∧
          exchange.2.RateLimits ∧ result = .error .counterOverflow := by
  refine (endpoint.send_judgesLast batch token).mono fun result effects judges exchange last => ?_
  refine (judges exchange last).imp_left ?_
  rintro ⟨url, rfl⟩
  refine ⟨_, rfl, ?_⟩
  cases reached : exchange.2.outcome url with
  | error failure => exact reports_of_no_reply reached
  | ok reply =>
      rw [Arrival.outcome_eq_ok_iff.mp reached]
      exact reports_judgeReply _ reply

/-- Whatever is answered to a batch, its result reports the last arrival as far as the body allows.
Only a policy that allows as many retries as can be counted may end without a result. -/
theorem send_reports [BodyDecoding] (endpoint : ActionEndpoint) (batch : Batch) (token : Token)
    (world : World) :
    ∃ round, ((endpoint.send batch token).run world).2.exchanges = world.exchanges ++ round ∧
      (¬ (endpoint.draft batch token).IsSendable ∧ round = [] ∨
        endpoint.PostsBatch token batch round) ∧
      ∀ exchange, round.getLast? = some exchange →
        (∃ ended, ((endpoint.send batch token).run world).1 = .ok ended ∧
          Reports (endpoint.context batch) exchange.2 ended) ∨
        endpoint.client.policy.maxRetries.toNat = RetryPolicy.greatestAttempt ∧
          exchange.2.RateLimits ∧
          ((endpoint.send batch token).run world).1 = .error .counterOverflow := by
  obtain ⟨effects, trace, ⟨sent, -⟩, reports⟩ :=
    (endpoint.send_adds batch token).and (endpoint.send_reportsLast batch token) world
  refine ⟨exchangesOf effects, ?_, sent, reports⟩
  rw [World.exchanges, trace, exchangesOf_append]
  rfl

/-- A failing status with its whole body is reported. -/
theorem send_reports_unavailable :
    let _ : BodyDecoding := .utf8
    let url : Url :=
      ⟨"http".toList, some ⟨[], none, some (.domain "umapi.test".toList), none⟩, .segments [[]],
        none, none⟩
    let endpoint : ActionEndpoint := ⟨.new .standard, url, "id"⟩
    let refusal : Reply := ⟨503, [], Text.utf8Bytes "later".toList, true⟩
    let world : World := .fresh ⟨["http"], [.reply refusal], .closed⟩ []
    300 ≤ refusal.status ∧ ∃ reason body, ((endpoint.send ⟨[]⟩ (.bearer "t")).run world).1 =
      .ok (.error (.transport 503 reason body (endpoint.context ⟨[]⟩))) := by
  intro decoding url endpoint refusal world
  obtain ⟨round, sent, -, reports⟩ := endpoint.send_reports ⟨[]⟩ (.bearer "t") world
  have received : ((endpoint.send ⟨[]⟩ (.bearer "t")).run world).2.exchanges.getLast?.map
      Prod.snd = some (.reply refusal) := by decide +kernel
  have silent : world.exchanges = [] := rfl
  rw [sent, silent, List.nil_append] at received
  obtain ⟨⟨request, arrival⟩, last, rfl⟩ := Option.map_eq_some_iff.mp received
  rcases reports _ last with ⟨ended, result, told⟩ | ⟨unlimited, -⟩
  · obtain ⟨reason, body, rfl⟩ := (told.status refusal rfl (by decide)).mpr rfl
    exact ⟨by decide, reason, body, result⟩
  · exact absurd unlimited (by decide)

/-- A failing status is lost with the end of its body: the batch is said to have failed before any
status arrived. -/
theorem send_loses_status :
    let _ : BodyDecoding := .utf8
    let url : Url :=
      ⟨"http".toList, some ⟨[], none, some (.domain "umapi.test".toList), none⟩, .segments [[]],
        none, none⟩
    let endpoint : ActionEndpoint := ⟨.new .standard, url, "id"⟩
    let refusal : Reply := ⟨500, [], Text.utf8Bytes "oops".toList, false⟩
    let world : World := .fresh ⟨["http"], [.reply refusal], .closed⟩ []
    let final := (endpoint.send ⟨[]⟩ (.bearer "t")).run world
    final.2.exchanges.map Prod.snd = [.reply refusal] ∧ 300 ≤ refusal.status ∧
      final.1 = .ok (.error (.network
        "failed to read response body from <unknown>: error decoding response body")) := by
  intro decoding url endpoint refusal world final
  have received : final.2.exchanges.map Prod.snd = [.reply refusal] := by decide +kernel
  obtain ⟨effects, trace, judges⟩ := endpoint.send_judgesLast ⟨[]⟩ (.bearer "t") world
  have sent : exchangesOf effects = final.2.exchanges := (congrArg exchangesOf trace).symm
  obtain ⟨exchange, single, answered⟩ := List.map_eq_singleton_iff.mp received
  rcases judges exchange (by rw [sent, single]; rfl) with ⟨asked, result⟩ | ⟨unlimited, -⟩
  · rw [answered] at result
    exact ⟨received, by decide, result⟩
  · exact absurd unlimited (by decide)

end ActionEndpoint

end GroupSync
