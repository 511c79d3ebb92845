import GroupSync.ActionEndpoint
import GroupSync.TokenSource

/-!
# Where drafted requests go

Headers and bodies are added to a draft without changing its method or its URL, so a request that
comes of a draft goes where the draft was begun for.
-/

namespace GroupSync

namespace Http

@[simp]
theorem requested_withoutCredentials (url : Url) :
    url.withoutCredentials.requested = url.requested := by
  obtain ⟨scheme, authority, path, query, fragment⟩ := url
  cases authority with
  | none => rfl
  | some authority => rfl

/-- What is requested does not depend on a user name and password. -/
theorem extractCredentials_requested (url : Url) :
    (extractCredentials url).1.requested = url.requested := by
  rw [extractCredentials]
  split
  · rfl
  · split
    · rfl
    · dsimp only
      split
      · rfl
      · exact requested_withoutCredentials url

/-- A request goes to a URL by some method. -/
def Request.Targets (request : Request) (method : String) (url : Url) : Prop :=
  request.method = method ∧ request.url.requested = url.requested

theorem Request.Targets.query {request : Request} {method : String} {url : Url}
    (targets : request.Targets method url) : request.url.query = url.query := by
  have same : request.url.requested.query = url.requested.query := congrArg Url.query targets.2
  exact same

namespace Draft

/-- A request that comes of a draft goes to a URL by some method. -/
def Targets (draft : Draft) (method : String) (url : Url) : Prop :=
  ∀ request, draft = .ok request → request.Targets method url

variable {draft : Draft} {method : String} {url : Url}

theorem ofUrl_targets (method : String) (url : Url) : (ofUrl method url).Targets method url := by
  intro request drafted
  rw [ofUrl] at drafted
  cases hosted : url.host?.isSome with
  | false =>
      rw [hosted] at drafted
      cases drafted
  | true =>
      rw [hosted] at drafted
      cases drafted
      exact ⟨rfl, extractCredentials_requested url⟩

theorem Targets.header (targets : draft.Targets method url) (name value : String) :
    (draft.header name value).Targets method url := by
  intro request drafted
  cases draft with
  | error fault => cases drafted
  | ok started =>
      simp only [Draft.header, bind, Except.bind] at drafted
      split at drafted
      · cases drafted
        exact targets started rfl
      · cases drafted

theorem Targets.addHeaders (targets : draft.Targets method url)
    (headers : List (String × String)) : (draft.addHeaders headers).Targets method url := by
  induction headers generalizing draft with
  | nil => exact targets
  | cons header headers induction => exact induction (targets.header header.1 header.2)

theorem Targets.body (targets : draft.Targets method url) (body : String) :
    (draft.body body).Targets method url := by
  intro request drafted
  cases draft with
  | error fault => cases drafted
  | ok started =>
      cases drafted
      exact targets started rfl

theorem Targets.form (targets : draft.Targets method url)
    (pairs : List (List Char × List Char)) : (draft.form pairs).Targets method url :=
  (targets.header _ _).body _

theorem body_eq_of_body {request : Request} {body : String}
    (drafted : draft.body body = .ok request) : request.body = body := by
  cases draft with
  | error fault => cases drafted
  | ok started =>
      cases drafted
      rfl

end Draft

theorem Client.introduce_targets {client : Client} {request : Request} {method : String} {url : Url}
    (targets : request.Targets method url) : (client.introduce request).Targets method url := by
  rw [introduce, Request.withStandardHeader]
  split
  · exact targets
  · exact targets

theorem Client.introduce_body (client : Client) (request : Request) :
    (client.introduce request).body = request.body := by
  rw [introduce, Request.withStandardHeader]
  split
  · rfl
  · rfl

end Http

/-- A token is fit for a header exactly if its value is. -/
theorem Token.isValue_authorization (token : Token) :
    Http.Header.isValue token.authorization = Http.Header.isValue token.value := by
  have start : Http.Header.isValue "Bearer " = true := by decide
  rw [Http.Header.isValue] at start
  rw [Http.Header.isValue, Http.Header.isValue, Token.authorization, String.toList_append,
    List.all_append, start, Bool.true_and]

/-- The request for a token goes to the token endpoint. -/
theorem TokenSource.draft_targets {source : TokenSource} {request : Http.Request}
    (drafted : source.draft = .ok request) :
    ∃ url, Url.read source.endpoint = .ok url ∧ request.Targets "POST" url := by
  rw [TokenSource.draft, Http.Draft.ofText] at drafted
  cases known : Url.read source.endpoint with
  | error fault =>
      rw [known] at drafted
      cases drafted
  | ok url =>
      rw [known] at drafted
      exact ⟨url, rfl, (Http.Draft.ofUrl_targets "POST" url).form _ request drafted⟩

/-- The request for a batch goes to the action URL. -/
theorem ActionEndpoint.draft_targets (endpoint : ActionEndpoint) (batch : Batch) (token : Token) :
    (endpoint.draft batch token).Targets "POST" endpoint.url :=
  ((Http.Draft.ofUrl_targets "POST" endpoint.url).addHeaders _).body _

end GroupSync
