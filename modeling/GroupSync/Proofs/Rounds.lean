import GroupSync.Proofs.DeliveryTrace
import GroupSync.Proofs.Requests

/-!
# The exchanges of one token request and of one batch

A token is asked for at most once.  A batch has a round of exchanges: one request, which is sent
again while it is rate-limited.
-/

namespace GroupSync

open Http

namespace Http.Arrival

/-- A reply that hands out a token: it reports success and its body can be read and understood. -/
def Grants [BodyDecoding] (arrival : Arrival) (token : Token) : Prop :=
  ∃ reply body, arrival = .reply reply ∧ Status.isSuccess reply.status = true ∧
    reply.text = .ok body ∧ Text.isBlankText body = false ∧ Token.read body = .ok token

/-- A reply that accepts a batch: its status is below 300, and its body can be read and
understood and reports no errors. -/
def Accepts [BodyDecoding] (arrival : Arrival) : Prop :=
  ∃ reply body response, arrival = .reply reply ∧ reply.status < 300 ∧ reply.text = .ok body ∧
    Text.isBlankText body = false ∧ Response.read body = .ok response ∧ response.errors = []

theorem not_rateLimits_of_accepts [BodyDecoding] {arrival : Arrival} (accepts : arrival.Accepts) :
    ¬ arrival.RateLimits := by
  obtain ⟨reply, body, response, rfl, below, -⟩ := accepts
  intro limits
  have limited := reply_rateLimits_iff.mp limits
  have above : RetryPolicy.retryableStatus = 429 := rfl
  omega

end Http.Arrival

namespace TokenSource

/-- A token comes of exactly the replies that hand it out. -/
theorem judgeReply_eq_ok_iff [BodyDecoding] {reply : Reply} {token : Token} :
    judgeReply reply = .ok token ↔ (Arrival.reply reply).Grants token := by
  cases readable : reply.text with
  | error cause => simp [judgeReply, Arrival.Grants, readable]
  | ok body =>
      cases success : Status.isSuccess reply.status with
      | false => simp [judgeReply, judge, Arrival.Grants, success, readable]
      | true =>
          cases blank : Text.isBlankText body with
          | true => simp [judgeReply, judge, Arrival.Grants, success, readable, blank]
          | false =>
              cases understood : Token.read body <;>
                simp [judgeReply, judge, Arrival.Grants, success, readable, blank, understood]

/-- The exchanges of asking for a token: one, or none if no request can be sent. -/
structure AsksOnce (source : TokenSource) (exchanges : List Exchange) : Prop where
  bounded : exchanges.length ≤ 1
  made : exchanges ≠ [] ↔ source.draft.IsSendable
  posted : ∀ exchange ∈ exchanges, ∃ request url, source.draft = .ok request ∧
    exchange.1 = source.client.introduce request ∧ Url.read source.endpoint = .ok url ∧
      exchange.1.Targets "POST" url

variable {source : TokenSource}

theorem asksOnce_nil (unsendable : ¬ source.draft.IsSendable) : source.AsksOnce [] where
  bounded := Nat.zero_le 1
  made := by simp [unsendable]
  posted := by simp

theorem asksOnce_singleton {request : Request} {arrival : Arrival}
    (drafted : source.draft = .ok request) (sendable : request.isSendable = true) :
    source.AsksOnce [(source.client.introduce request, arrival)] where
  bounded := Nat.le_refl 1
  made := by simp [drafted, Draft.isSendable_ok_iff, sendable]
  posted := by
    intro exchange member
    obtain rfl := List.mem_singleton.mp member
    obtain ⟨url, known, targets⟩ := draft_targets drafted
    exact ⟨request, url, drafted, rfl, known, Client.introduce_targets targets⟩

/-- A token is acquired exactly if the only request is answered by handing it out. -/
theorem acquire_adds [BodyDecoding] (source : TokenSource) :
    source.acquire.Adds fun result effects =>
      source.AsksOnce (exchangesOf effects) ∧
        ∀ token, result = .ok (.ok token) ↔
          ∃ exchange, exchangesOf effects = [exchange] ∧ exchange.2.Grants token := by
  rw [acquire]
  refine .bind (source.client.exchange_adds source.draft) ?_ ?_
  · rintro breakdown effects (⟨-, -, failure, ended⟩ | ⟨request, arrival, -, -, -, ended⟩)
    · cases ended
    · cases ended
  · rintro answered effects
      (⟨unsendable, silent, failure, ended⟩ | ⟨request, arrival, drafted, sendable, sent, ended⟩)
    · cases ended
      refine .pure ?_
      rw [List.append_nil, silent]
      exact ⟨asksOnce_nil unsendable, by simp⟩
    · cases ended
      have asked : source.AsksOnce (exchangesOf (effects ++ [])) := by
        rw [List.append_nil, sent]
        exact asksOnce_singleton drafted sendable
      cases reached : arrival.outcome request.url with
      | error failure =>
          have none := Arrival.ne_reply_of_outcome_eq_error reached
          exact .pure ⟨asked, by simp [sent, Arrival.Grants, none]⟩
      | ok reply =>
          obtain rfl := Arrival.outcome_eq_ok_iff.mp reached
          refine .pure ⟨asked, fun token => ?_⟩
          simp [sent, judgeReply_eq_ok_iff]

end TokenSource

/-- A round of exchanges ended with its batch accepted. -/
def EndsAccepted [BodyDecoding] (round : List Exchange) : Prop :=
  ∃ exchange, round.getLast? = some exchange ∧ exchange.2.Accepts

namespace ActionEndpoint

/-- The round of exchanges of a batch under a token: one request, which carries the batch to the
action URL, is sent at least once, and again only while it is rate-limited. -/
structure PostsBatch (endpoint : ActionEndpoint) (token : Token) (batch : Batch)
    (round : List Exchange) : Prop where
  made : round ≠ []
  repeated : ∃ request, endpoint.draft batch token = .ok request ∧
    Sendings (endpoint.client.introduce request)
      (endpoint.client.policy.maxRetries.toNat + 1) round
  posted : ∀ exchange ∈ round,
    exchange.1.Targets "POST" endpoint.url ∧ exchange.1.body = batch.payload

/-- A response without errors comes of exactly the replies that accept the batch. -/
theorem judgeReply_clean_iff [BodyDecoding] {context : AnsweredRequest} {reply : Reply} :
    (∃ response, judgeReply context reply = .ok response ∧ response.errors = []) ↔
      (Arrival.reply reply).Accepts := by
  cases readable : reply.text with
  | error cause => simp [judgeReply, Arrival.Accepts, readable]
  | ok body =>
      by_cases failing : 300 ≤ reply.status
      · have above : ¬ reply.status < 300 := by omega
        simp [judgeReply, judge, Arrival.Accepts, Status.isFailing, readable, failing, above]
      · have below : reply.status < 300 := by omega
        cases blank : Text.isBlankText body with
        | true =>
            simp [judgeReply, judge, Arrival.Accepts, Status.isFailing, readable, failing, blank]
        | false =>
            cases understood : Response.read body <;>
              simp [judgeReply, judge, Arrival.Accepts, Status.isFailing, readable, failing,
                blank, below, understood, Response.withRequest]

variable {endpoint : ActionEndpoint} {token : Token} {batch : Batch} {request : Request}
  {round : List Exchange}

theorem postsBatch_of_sendings (drafted : endpoint.draft batch token = .ok request)
    {exchange : Exchange} (last : round.getLast? = some exchange)
    (sendings : Sendings (endpoint.client.introduce request)
      (endpoint.client.policy.maxRetries.toNat + 1) round) :
    endpoint.PostsBatch token batch round where
  made := List.ne_nil_of_mem (List.mem_of_getLast? last)
  repeated := ⟨request, drafted, sendings⟩
  posted := by
    intro exchange member
    rw [sendings.same exchange member, Client.introduce_body]
    exact ⟨Client.introduce_targets (endpoint.draft_targets batch token request drafted),
      Draft.body_eq_of_body drafted⟩

/-- A batch has a round of exchanges if its request can be sent, and a response without errors
exactly if the round ended with the batch accepted. -/
theorem send_adds [BodyDecoding] (endpoint : ActionEndpoint) (batch : Batch) (token : Token) :
    (endpoint.send batch token).Adds fun result effects =>
      (¬ (endpoint.draft batch token).IsSendable ∧ exchangesOf effects = [] ∨
          endpoint.PostsBatch token batch (exchangesOf effects)) ∧
        (EndsAccepted (exchangesOf effects) ↔
          ∃ response, result = .ok (.ok response) ∧ response.errors = []) := by
  rw [send]
  refine .bind (endpoint.client.deliver_adds (endpoint.draft batch token)) ?_ ?_
  · rintro breakdown effects
      (⟨-, -, failure, ended⟩ | ⟨request, arrival, drafted, -, sendings, last, ended⟩)
    · cases ended
    · refine ⟨.inr (postsBatch_of_sendings drafted last sendings), ?_⟩
      rcases ended with ended | ⟨limits, -⟩
      · cases ended
      · have refused : ¬ arrival.Accepts :=
          fun accepts => Arrival.not_rateLimits_of_accepts accepts limits
        simp [EndsAccepted, last, refused]
  · rintro answered effects
      (⟨unsendable, silent, failure, ended⟩ | ⟨request, arrival, drafted, -, sendings, last, ended⟩)
    · cases ended
      refine .pure ?_
      rw [List.append_nil, silent]
      exact ⟨.inl ⟨unsendable, rfl⟩, by simp [EndsAccepted]⟩
    · have posts : endpoint.PostsBatch token batch (exchangesOf (effects ++ [])) := by
        rw [List.append_nil]
        exact postsBatch_of_sendings drafted last sendings
      obtain rfl : answered = arrival.outcome request.url := by simpa using ended
      cases reached : arrival.outcome request.url with
      | error failure =>
          have none := Arrival.ne_reply_of_outcome_eq_error reached
          exact .pure ⟨.inr posts, by simp [EndsAccepted, last, Arrival.Accepts, none]⟩
      | ok reply =>
          obtain rfl := Arrival.outcome_eq_ok_iff.mp reached
          refine .pure ⟨.inr posts, ?_⟩
          simp [EndsAccepted, last, judgeReply_clean_iff]

end ActionEndpoint

end GroupSync
