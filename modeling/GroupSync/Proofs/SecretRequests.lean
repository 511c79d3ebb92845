import GroupSync.Proofs.Requests
import GroupSync.Proofs.TwoRuns

/-!
# Requests that differ in a secret

Two requests for a token differ in the secret that is a field of their form, and two requests for a
batch in the token that a header presents.  What they come to, how often they are repeated and what
is recorded on the way does not depend on it.
-/

namespace GroupSync

open Http Document

namespace Http

namespace Request

/-- Two requests are the same, apart from the token that an authorization header presents. -/
def DifferInToken (value other : String) (request otherRequest : Request) : Prop :=
  ∃ (frame : Request) (before after : List Header),
    let headers value := before ++ ⟨"authorization", (Token.bearer value).authorization⟩ :: after
    request = { frame with headers := headers value } ∧
      otherRequest = { frame with headers := headers other }

/-- Two requests are the same, apart from the client secret in the form that is their body. -/
def DifferInSecret (secret other : String) (request otherRequest : Request) : Prop :=
  ∃ (frame : Request) (before after : List (List Char × List Char)),
    let form secret := String.ofList
      (Url.Form.encode (before ++ ("client_secret".toList, secret.toList) :: after))
    request = { frame with body := form secret } ∧ otherRequest = { frame with body := form other }

variable {value other secret otherSecret : String} {request otherRequest : Request}

theorem DifferInToken.url (differ : DifferInToken value other request otherRequest) :
    request.url = otherRequest.url := by
  obtain ⟨frame, before, after, rfl, rfl⟩ := differ
  rfl

theorem DifferInToken.eq (differ : DifferInToken value value request otherRequest) :
    request = otherRequest := by
  obtain ⟨frame, before, after, rfl, rfl⟩ := differ
  rfl

theorem DifferInToken.append (differ : DifferInToken value other request otherRequest)
    (header : Header) :
    DifferInToken value other { request with headers := request.headers ++ [header] }
      { otherRequest with headers := otherRequest.headers ++ [header] } := by
  obtain ⟨frame, before, after, rfl, rfl⟩ := differ
  exact ⟨frame, before, after ++ [header], by simp, by simp⟩

theorem DifferInToken.introduce (client : Client)
    (differ : DifferInToken value other request otherRequest) :
    DifferInToken value other (client.introduce request) (client.introduce otherRequest) := by
  have introduced := differ.append ⟨"user-agent", client.userAgent⟩
  have sameNames : (request.headers.any fun present => present.name == "user-agent") =
      otherRequest.headers.any fun present => present.name == "user-agent" := by
    obtain ⟨frame, before, after, rfl, rfl⟩ := differ
    simp
  rw [Client.introduce, Client.introduce, withStandardHeader, withStandardHeader, sameNames]
  split
  · exact differ
  · exact introduced

theorem DifferInSecret.url (differ : DifferInSecret secret otherSecret request otherRequest) :
    request.url = otherRequest.url := by
  obtain ⟨frame, before, after, rfl, rfl⟩ := differ
  rfl

theorem introduce_body (client : Client) (frame : Request) (body : String) :
    client.introduce { frame with body := body } =
      { client.introduce frame with body := body } := by
  rw [Client.introduce, Client.introduce, withStandardHeader, withStandardHeader]
  dsimp only
  split <;> rfl

theorem DifferInSecret.introduce (client : Client)
    (differ : DifferInSecret secret otherSecret request otherRequest) :
    DifferInSecret secret otherSecret (client.introduce request)
      (client.introduce otherRequest) := by
  obtain ⟨frame, before, after, rfl, rfl⟩ := differ
  exact ⟨client.introduce frame, before, after, introduce_body client frame _,
    introduce_body client frame _⟩

end Request

namespace Draft

/-- Two drafts have the same flaw or are related requests. -/
inductive Like (related : Request → Request → Prop) : Draft → Draft → Prop
  | error (fault : BuildFault) : Like related (.error fault) (.error fault)
  | ok {request other : Request} (alike : related request other) :
      Like related (.ok request) (.ok other)

variable {value other : String} {draft otherDraft : Draft}

theorem Like.header (like : Like (Request.DifferInToken value other) draft otherDraft)
    (name text : String) :
    Like (Request.DifferInToken value other) (draft.header name text)
      (otherDraft.header name text) := by
  cases like with
  | error fault => exact .error fault
  | ok differ =>
      simp only [Draft.header, bind, Except.bind]
      split
      · exact .ok (differ.append _)
      · exact .error .malformed

theorem Like.body (like : Like (Request.DifferInToken value other) draft otherDraft)
    (body : String) :
    Like (Request.DifferInToken value other) (draft.body body) (otherDraft.body body) := by
  cases like with
  | error fault => exact .error fault
  | ok alike =>
      obtain ⟨frame, before, after, rfl, rfl⟩ := alike
      exact .ok ⟨{ frame with body := body }, before, after, rfl, rfl⟩

/-- Presenting one token or another makes no other difference if both fit into a header. -/
theorem like_header_authorization {token otherToken : Token} (draft : Draft)
    (valid : Header.isValue token.authorization = Header.isValue otherToken.authorization) :
    Like (Request.DifferInToken token.value otherToken.value)
      (draft.header "authorization" token.authorization)
      (draft.header "authorization" otherToken.authorization) := by
  cases draft with
  | error fault => exact .error fault
  | ok request =>
      simp only [Draft.header, bind, Except.bind, valid]
      split
      · exact .ok ⟨request, request.headers, [], rfl, rfl⟩
      · exact .error .malformed

end Draft

/-- Effects are the same, apart from the first exchange, whose requests are related. -/
def DifferFirst (related : Request → Request → Prop) (effects others : List Effect) : Prop :=
  effects = others ∨ ∃ (before : List LogEvent) (request other : Request) (arrival : Arrival)
    (after : List Effect), related request other ∧
      effects = before.map .logged ++ .exchanged request arrival :: after ∧
        others = before.map .logged ++ .exchanged other arrival :: after

namespace DifferFirst

variable {related : Request → Request → Prop} {effects others : List Effect}

theorem afterLogged (differ : DifferFirst related effects others) (event : LogEvent) :
    DifferFirst related (.logged event :: effects) (.logged event :: others) := by
  rcases differ with rfl | ⟨before, request, other, arrival, after, alike, rfl, rfl⟩
  · exact .inl rfl
  · exact .inr ⟨event :: before, request, other, arrival, after, alike, rfl, rfl⟩

theorem append (differ : DifferFirst related effects others) (later : List Effect) :
    DifferFirst related (effects ++ later) (others ++ later) := by
  rcases differ with rfl | ⟨before, request, other, arrival, after, alike, rfl, rfl⟩
  · exact .inl rfl
  · exact .inr ⟨before, request, other, arrival, after ++ later, alike, by simp, by simp⟩

end DifferFirst

namespace Client

variable {related : Request → Request → Prop} {draft otherDraft : Draft}

theorem deliver_alike (client : Client)
    (sameUrl : ∀ request other, related request other → request.url = other.url)
    (introduced : ∀ request other, related request other →
      related (client.introduce request) (client.introduce other))
    (drafts : Draft.Like related draft otherDraft) :
    (client.deliver draft).Alike (client.deliver otherDraft) fun _ =>
      List.Forall₂ (Effect.Like related) := by
  cases drafts with
  | error fault => exact .pure .nil
  | ok alike =>
      refine (client.deliverFrom_alike (sameUrl _ _ alike) _ 1).mono ?_
      refine fun _ _ _ => List.Forall₂.imp fun effect other like => like.mono ?_
      rintro _ _ ⟨rfl, rfl⟩
      exact introduced _ _ alike

theorem exchange_alike (client : Client)
    (sameUrl : ∀ request other, related request other → request.url = other.url)
    (introduced : ∀ request other, related request other →
      related (client.introduce request) (client.introduce other))
    (drafts : Draft.Like related draft otherDraft) :
    (client.exchange draft).Alike (client.exchange otherDraft) fun _ => DifferFirst related := by
  cases drafts with
  | error fault => exact .pure (.inl rfl)
  | ok alike =>
      refine (client.attempt_alike (sameUrl _ _ alike)).mono ?_
      rintro _ _ _ (⟨rfl, rfl⟩ | ⟨arrival, rfl, rfl⟩)
      · exact .inl rfl
      · exact .inr ⟨[], _, _, arrival, [], introduced _ _ alike, rfl, rfl⟩

end Client

end Http

namespace ActionEndpoint

variable {token other : Token}

theorem draft_like (endpoint : ActionEndpoint) (batch : Batch)
    (valid : Header.isValue token.authorization = Header.isValue other.authorization) :
    Draft.Like (Request.DifferInToken token.value other.value) (endpoint.draft batch token)
      (endpoint.draft batch other) :=
  (((Draft.like_header_authorization _ valid).header _ _).header _ _).body _

/-- What a batch comes to does not depend on the token that it is sent under. -/
theorem send_alike [BodyDecoding] (endpoint : ActionEndpoint) (batch : Batch)
    (valid : Header.isValue token.authorization = Header.isValue other.authorization) :
    (endpoint.send batch token).Alike (endpoint.send batch other) fun _ =>
      List.Forall₂ (Effect.Like (Request.DifferInToken token.value other.value)) := by
  rw [send, send]
  refine .bind (endpoint.client.deliver_alike (fun _ _ differ => differ.url)
    (fun _ _ differ => differ.introduce _) (endpoint.draft_like batch valid)) (by simp) ?_
  intro answered effects others like
  cases answered with
  | error failure => exact .pure (by simpa using like)
  | ok reply => exact .pure (by simpa using like)

end ActionEndpoint

namespace TokenSource

/-- The same source with another secret. -/
def withSecret (source : TokenSource) (secret : String) : TokenSource :=
  { source with clientSecret := secret }

theorem draft_like (source : TokenSource) (secret : String) :
    Draft.Like (Request.DifferInSecret source.clientSecret secret) source.draft
      (source.withSecret secret).draft := by
  have sameEndpoint : (source.withSecret secret).endpoint = source.endpoint := rfl
  rw [draft, draft, Draft.form, Draft.form, sameEndpoint]
  cases (Draft.ofText "POST" source.endpoint).header "content-type"
      "application/x-www-form-urlencoded" with
  | error fault => exact .error fault
  | ok request =>
      exact .ok ⟨request, [("client_id".toList, source.clientId.toList)],
        [("grant_type".toList, "client_credentials".toList), ("scope".toList, source.scope.toList)],
        rfl, rfl⟩

/-- What asking for a token comes to does not depend on the secret. -/
theorem acquire_alike [BodyDecoding] (source : TokenSource) (secret : String) :
    source.acquire.Alike (source.withSecret secret).acquire fun _ =>
      DifferFirst (Request.DifferInSecret source.clientSecret secret) := by
  rw [acquire, acquire]
  refine .bind (source.client.exchange_alike (fun _ _ differ => differ.url)
    (fun _ _ differ => differ.introduce _) (source.draft_like secret)) (by simp) ?_
  intro answered effects others sent
  cases answered with
  | error failure => exact .pure (by simpa using sent)
  | ok reply => exact .pure (by simpa using sent)

end TokenSource

end GroupSync
