import GroupSync.Proofs.Fallible
import GroupSync.Proofs.ReceivedStatus

/-!
# What is made of a complete reply

A reply whose body arrives to its end belongs to one of three classes, which are told apart by its
status first, then by whether its text is blank or cannot be understood.  Whatever the class, what
is returned shows the very request that all attempts carried.
-/

namespace GroupSync

open Http

namespace Http.Draft

variable {draft : Draft}

/-- A draft with a header can be sent exactly if the draft can, and the header is one. -/
theorem isSendable_header_iff {name value : String} :
    (draft.header name value).IsSendable ↔
      draft.IsSendable ∧ Header.isName name = true ∧ Header.isValue value = true := by
  cases draft with
  | error fault => simp [Draft.header, IsSendable, bind, Except.bind]
  | ok request =>
      cases named : Header.isName name <;> cases valued : Header.isValue value <;>
        simp [Draft.header, IsSendable, bind, Except.bind, pure, Except.pure, named, valued,
          Request.isSendable]

theorem isSendable_body_iff {body : String} :
    (draft.body body).IsSendable ↔ draft.IsSendable := by
  cases draft with
  | error fault => simp [Draft.body, IsSendable, bind, Except.bind]
  | ok request =>
      simp [Draft.body, IsSendable, bind, Except.bind, pure, Except.pure, Request.isSendable]

end Http.Draft

namespace ActionEndpoint

/-- A batch can be sent exactly if its URL can be asked and the token and the key are fit for a
header. -/
theorem isSendable_draft_iff {endpoint : ActionEndpoint} {batch : Batch} {token : Token} :
    (endpoint.draft batch token).IsSendable ↔
      (Draft.ofUrl "POST" endpoint.url).IsSendable ∧ Header.isValue token.value = true ∧
        Header.isValue endpoint.apiKey = true := by
  have authorization : Header.isName "authorization" = true := by decide
  have key : Header.isName apiKeyHeader = true := by decide
  have type : Header.isName "content-type" = true := by decide
  have json : Header.isValue "application/json" = true := by decide
  simp [draft, Draft.addHeaders, Draft.isSendable_body_iff, Draft.isSendable_header_iff,
    Token.isValue_authorization, authorization, key, type, json, and_assoc]

/-- A result is the one for a complete reply with a status and a text, and shows a request. -/
structure Classifies (request : AnsweredRequest) (status : Nat) (text : String)
    (result : Except Failure Response) : Prop where
  transport : ∀ failed reason body shown, result = .error (.transport failed reason body shown) ↔
    300 ≤ status ∧ failed = status ∧ reason = (Status.reason? status).getD "" ∧ body = text ∧
      shown = request
  protocol : (∃ message, result = .error (.protocol message)) ↔
    status < 300 ∧ (Text.isBlankText text = true ∨ ∃ error, Response.read text = .error error)
  /-- A text that is no response is reported with the request at the end. -/
  shown : ∀ message, result = .error (.protocol message) →
    ∃ beginning, message = beginning ++ request.render
  accepted : ∀ response, result = .ok response ↔
    status < 300 ∧ Text.isBlankText text = false ∧
      ∃ decoded, Response.read text = .ok decoded ∧ response = decoded.withRequest request

theorem classifies_judge (request : AnsweredRequest) (status : Nat) (text : String) :
    Classifies request status text (judge request status text) := by
  by_cases failing : 300 ≤ status
  · have refused : judge request status text =
        .error (.transport status ((Status.reason? status).getD "") text request) := by
      rw [judge, Status.isFailing, decide_eq_true failing, if_pos rfl]
    have above : ¬ status < 300 := by omega
    rw [refused]
    constructor
    · intro failed reason body shown
      simp [failing, eq_comm]
    · simp [above]
    · simp
    · simp [above]
  · have below : status < 300 := by omega
    have proceeds : Status.isFailing status = false := by simpa [Status.isFailing] using below
    cases blank : Text.isBlankText text with
    | true =>
        have silent : judge request status text =
            .error (.protocol ("No response body from UMAPI for request " ++ request.render)) := by
          rw [judge, proceeds, blank, if_neg Bool.false_ne_true, if_pos rfl]
        rw [silent]
        constructor
        · simp [failing]
        · simp [below, blank]
        · rintro message ⟨⟩
          exact ⟨_, rfl⟩
        · simp [blank]
    | false =>
        cases understood : Response.read text with
        | error error =>
            have malformed : judge request status text =
                .error (.protocol ("Malformed UMAPI response (" ++ error.message ++
                  ") for request " ++ request.render)) := by
              simp [judge, proceeds, blank, understood]
            rw [malformed]
            constructor
            · simp [failing]
            · simp [below, understood]
            · rintro message ⟨⟩
              exact ⟨_, rfl⟩
            · simp [understood]
        | ok decoded =>
            have answered : judge request status text = .ok (decoded.withRequest request) := by
              simp [judge, proceeds, blank, understood]
            rw [answered]
            constructor
            · simp [failing]
            · simp [blank, understood]
            · simp
            · simp [below, blank, understood, eq_comm]

/-- Under a token and a key that are fit for headers, a batch is sent unchanged until a reply is
final, unless the URL cannot be asked at all.  Whatever was answered before, if the final reply is
complete, its status and its text decide what is returned.  A reply is final unless it is
rate-limited and the policy allows as many retries as can be counted. -/
theorem send_classifies [BodyDecoding] (endpoint : ActionEndpoint) (batch : Batch) (token : Token)
    (tokenFits : Header.isValue token.value = true)
    (keyFits : Header.isValue endpoint.apiKey = true) (world : World) :
    let ended := (endpoint.send batch token).run world
    ∃ round, ended.2.exchanges = world.exchanges ++ round ∧
      (¬ (Draft.ofUrl "POST" endpoint.url).IsSendable ∧ round = [] ∨
        endpoint.PostsBatch token batch round) ∧
      ∀ request reply, round.getLast? = some (request, .reply reply) → reply.complete = true →
        (reply.status = RetryPolicy.retryableStatus →
          endpoint.client.policy.maxRetries.toNat < RetryPolicy.greatestAttempt) →
        ∃ result, ended.1 = .ok result ∧
          Classifies (.post endpoint.url.render batch.payload) reply.status
            (BodyDecoding.textOf (reply.header? "content-type") reply.body) result := by
  intro ended
  obtain ⟨effects, trace, ⟨sent, -⟩, judges⟩ :=
    (endpoint.send_adds batch token).and (endpoint.send_judgesLast batch token) world
  refine ⟨exchangesOf effects, ?_, ?_, ?_⟩
  · rw [World.exchanges, trace, exchangesOf_append]
    rfl
  · refine sent.imp_left fun refused => ⟨fun usable => refused.1 ?_, refused.2⟩
    exact isSendable_draft_iff.mpr ⟨usable, tokenFits, keyFits⟩
  · intro request reply last arrived final
    rcases judges _ last with ⟨url, result⟩ | ⟨unlimited, limits, -⟩
    · refine ⟨_, result, ?_⟩
      have readable : reply.text =
          .ok (BodyDecoding.textOf (reply.header? "content-type") reply.body) := by
        rw [Reply.text, if_pos arrived]
      have judged : ((Arrival.reply reply).outcome url).bind (judgeReply (endpoint.context batch)) =
          judge (endpoint.context batch) reply.status
            (BodyDecoding.textOf (reply.header? "content-type") reply.body) := by
        simp only [Arrival.outcome, Except.bind, judgeReply, readable]
      rw [judged]
      exact classifies_judge _ _ _
    · have counted := final (Arrival.reply_rateLimits_iff.mp limits)
      omega

/-- A response behind a rate-limited reply is decoded, and knows the request of both attempts. -/
theorem send_classifies_second_reply :
    let _ : BodyDecoding := .utf8
    let url : Url :=
      ⟨"http".toList, some ⟨[], none, some (.domain "umapi.test".toList), none⟩, .segments [[]],
        none, none⟩
    let endpoint : ActionEndpoint := ⟨.new .standard, url, "id"⟩
    let limited : Reply := ⟨429, [], Text.utf8Bytes "later".toList, true⟩
    let accepted : Reply := ⟨200, [], Text.utf8Bytes "\x7b\"completed\":1\x7d".toList, true⟩
    let world : World := .fresh ⟨["http"], [.reply limited, .reply accepted], .closed⟩ []
    Header.isValue (Token.bearer "t").value = true ∧ Header.isValue endpoint.apiKey = true ∧
      ((endpoint.send ⟨[]⟩ (.bearer "t")).run world).1 =
        .ok (.ok ⟨1, 0, 0, [], [], some (.post "http://umapi.test/" "[]")⟩) := by
  intro decoding url endpoint limited accepted world
  obtain ⟨round, sent, -, classifies⟩ :=
    endpoint.send_classifies ⟨[]⟩ (.bearer "t") (by decide) (by decide) world
  have received : ((endpoint.send ⟨[]⟩ (.bearer "t")).run world).2.exchanges.getLast?.map
      Prod.snd = some (.reply accepted) := by decide +kernel
  have silent : world.exchanges = [] := rfl
  rw [sent, silent, List.nil_append] at received
  obtain ⟨⟨request, arrival⟩, last, rfl⟩ := Option.map_eq_some_iff.mp received
  obtain ⟨result, ended, classified⟩ := classifies request accepted last rfl (by decide)
  refine ⟨by decide, by decide, ?_⟩
  rw [ended]
  congr 1
  refine (classified.accepted _).mpr ⟨by decide, by decide +kernel, ⟨1, 0, 0, [], [], none⟩, ?_, ?_⟩
  · decide +kernel
  · decide +kernel

end ActionEndpoint

end GroupSync
