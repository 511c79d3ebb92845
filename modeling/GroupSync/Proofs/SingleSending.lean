import GroupSync.Proofs.RetryTimeline

/-!
# Sending once and sending repeatedly

While nothing is rate-limited, a request that may be sent again is sent like one that is sent once:
the same exchange is made, and the same comes of it.  A draft that is no request is told from the
others by the words of its failure.  Who wants to send it once learns what is wrong with it; who
wants to send it repeatedly is told that its body cannot be sent again, whatever is wrong with it.
-/

namespace GroupSync

namespace Http

namespace Draft

/-- The draft of a request whose parts are given as texts. -/
def ofTexts (method url : String) (headers : List (String × String)) (body : String) : Draft :=
  ((ofText method url).addHeaders headers).body body

/-- A draft has become a request, whether it can be sent or not. -/
def IsRequest (draft : Draft) : Prop :=
  ∃ request, draft = .ok request

/-- A text is a URL that names a host. -/
def NamesHost (url : String) : Prop :=
  ∃ known, Url.read url = .ok known ∧ known.host?.isSome = true

/-- A name and a value make a header. -/
def IsHeader (header : String × String) : Prop :=
  Header.isName header.1 = true ∧ Header.isValue header.2 = true

variable {draft : Draft} {method url body : String} {headers : List (String × String)}

theorem not_isRequest_error (fault : BuildFault) : ¬ IsRequest (.error fault) := by
  rintro ⟨request, drafted⟩
  cases drafted

theorem isRequest_ofText_iff : (ofText method url).IsRequest ↔ NamesHost url := by
  rw [ofText, NamesHost]
  cases Url.read url with
  | error fault => simp [IsRequest]
  | ok known => cases hosted : known.host?.isSome <;> simp [IsRequest, ofUrl, hosted]

theorem isRequest_header_iff {name value : String} :
    (draft.header name value).IsRequest ↔ draft.IsRequest ∧ IsHeader (name, value) := by
  cases draft with
  | error fault => simp [Draft.header, IsRequest, bind, Except.bind]
  | ok request =>
      cases named : Header.isName name <;> cases valued : Header.isValue value <;>
        simp [Draft.header, IsRequest, IsHeader, bind, Except.bind, pure, Except.pure, named,
          valued]

theorem isRequest_addHeaders_iff :
    (draft.addHeaders headers).IsRequest ↔
      draft.IsRequest ∧ ∀ header ∈ headers, IsHeader header := by
  induction headers generalizing draft with
  | nil => simp [addHeaders]
  | cons header headers induction =>
      have next : draft.addHeaders (header :: headers) =
          (draft.header header.1 header.2).addHeaders headers := rfl
      rw [next, induction, isRequest_header_iff, and_assoc, List.forall_mem_cons]

theorem isRequest_body_iff : (draft.body body).IsRequest ↔ draft.IsRequest := by
  cases draft with
  | error fault => simp [Draft.body, IsRequest, bind, Except.bind]
  | ok request => simp [Draft.body, IsRequest, bind, Except.bind, pure, Except.pure]

theorem isRequest_ofTexts_iff : (ofTexts method url headers body).IsRequest ↔
    NamesHost url ∧ ∀ header ∈ headers, IsHeader header := by
  rw [ofTexts, isRequest_body_iff, isRequest_addHeaders_iff, isRequest_ofText_iff]

end Draft

namespace Client

variable {client : Client} {request : Request} {world : World}

theorem run_deliver_of_unsendable (refused : request.isSendable = false) :
    (client.deliver (.ok request)).run world =
      (.ok (.error (BuildFault.unusable request.url).toError), world) := by
  have first : client.deliver (.ok request) = client.deliverFrom request (0xFFFFFFFE + 1) 1 := rfl
  rw [first, deliverFrom, Session.run_bind, run_attempt_of_unsendable refused]
  rfl

/-- A request that is not rate-limited at once is sent repeatedly as it is sent once. -/
theorem run_deliver_eq_run_exchange
    (free : ¬ (world.arrivals request.url).head.RateLimits) :
    (client.deliver (.ok request)).run world = (client.exchange (.ok request)).run world := by
  have once : client.exchange (.ok request) = client.attempt request := rfl
  rw [once]
  cases sendable : request.isSendable with
  | false => rw [run_deliver_of_unsendable sendable, run_attempt_of_unsendable sendable]
  | true =>
      have first : client.deliver (.ok request) =
          client.deliverFrom request (0xFFFFFFFE + 1) 1 := rfl
      rw [first, run_deliverFrom_of_free sendable free, run_attempt sendable]

/-- The words for a draft that cannot be sent again are not those for a draft that is no request. -/
theorem notRepeatable_ne_toError (fault : BuildFault) : notRepeatable ≠ fault.toError := by
  intro same
  have text : "request body cannot be cloned; buffer the body to enable retries".toList =
      ("invalid HTTP request: " ++ fault.message).toList :=
    congrArg String.toList (Failure.internal.inj same)
  rw [String.toList_append] at text
  exact absurd (congrArg List.head? text) (by simp)

/-- Unless the first reply is rate-limited, a draft leaves the world alike whether it is sent
repeatedly or once, and the same comes of it exactly if it has become a request.  Of a draft that
has not, nothing is sent, and the two failures have different words. -/
theorem deliver_likeExchange_iff (client : Client) (draft : Draft) (world : World)
    (free : ∀ request, draft = .ok request → ¬ (world.arrivals request.url).head.RateLimits) :
    let repeated := (client.deliver draft).run world
    let single := (client.exchange draft).run world
    repeated.2 = single.2 ∧
      (repeated.1 = single.1 ↔ draft.IsRequest) ∧
      (∀ fault, draft = .error fault → repeated.2 = world ∧
        repeated.1 = .ok (.error notRepeatable) ∧ single.1 = .ok (.error fault.toError)) ∧
      ∀ method url headers body, draft = .ofTexts method url headers body →
        (draft.IsRequest ↔ Draft.NamesHost url ∧ ∀ header ∈ headers, Draft.IsHeader header) := by
  intro repeated single
  have written : ∀ method url headers body, draft = .ofTexts method url headers body →
      (draft.IsRequest ↔ Draft.NamesHost url ∧ ∀ header ∈ headers, Draft.IsHeader header) := by
    rintro method url headers body rfl
    exact Draft.isRequest_ofTexts_iff
  cases draft with
  | error fault =>
      have different : repeated.1 ≠ single.1 := by
        intro same
        exact notRepeatable_ne_toError fault (Except.error.inj (Except.ok.inj same))
      refine ⟨rfl, iff_of_false different (Draft.not_isRequest_error fault), ?_, written⟩
      rintro known ⟨⟩
      exact ⟨rfl, rfl, rfl⟩
  | ok request =>
      have same : repeated = single := run_deliver_eq_run_exchange (free request rfl)
      exact ⟨congrArg Prod.snd same, iff_of_true (congrArg Prod.fst same) ⟨request, rfl⟩, nofun,
        written⟩

/-- A request that is answered with a failing status comes to the same in both ways. -/
theorem deliver_likeExchange_unavailable :
    let draft : Draft := .ofTexts "POST" "http://umapi.test/action" [("X-Api-Key", "key")] "[]"
    let refusal : Reply := ⟨503, [], [], true⟩
    let client : Client := .new .standard
    let world : World := .fresh ⟨["http"], [.reply refusal], .closed⟩ []
    (∀ request, draft = .ok request → ¬ (world.arrivals request.url).head.RateLimits) ∧
      ((client.deliver draft).run world).1 = ((client.exchange draft).run world).1 ∧
      ((client.exchange draft).run world).1 = .ok (.ok refusal) := by
  intro draft refusal client world
  have drafted : draft = .ok
      { method := "POST"
        url := ⟨"http".toList, some ⟨[], none, some (.domain "umapi.test".toList), none⟩,
          .segments ["action".toList], none, none⟩
        headers := [⟨"x-api-key", "key"⟩]
        body := "[]" } := by decide +kernel
  have free : ∀ request, draft = .ok request →
      ¬ (world.arrivals request.url).head.RateLimits := by
    intro request made
    rw [drafted] at made
    cases made
    have heard : ¬ (Arrival.reply refusal).RateLimits := by
      rw [Arrival.reply_rateLimits_iff]
      decide
    exact heard
  obtain ⟨-, same, -, -⟩ := deliver_likeExchange_iff client draft world free
  exact ⟨free, same.mpr ⟨_, drafted⟩, by decide +kernel⟩

/-- A text that is no URL is reported as such when it is to be sent once.  When it is to be sent
repeatedly, its body is blamed, which is sound. -/
theorem deliver_blamesBody :
    let draft : Draft := .ofTexts "POST" "nope" [] "[]"
    let client : Client := .new .standard
    let world : World := .fresh ⟨["http"], [], .closed⟩ []
    (∀ request, draft = .ok request → ¬ (world.arrivals request.url).head.RateLimits) ∧
      ((client.exchange draft).run world).1 =
        .ok (.error (.internal "invalid HTTP request: builder error")) ∧
      ((client.deliver draft).run world).1 = .ok (.error (.internal
        "request body cannot be cloned; buffer the body to enable retries")) := by
  intro draft client world
  have unread : draft = .error .malformed := by decide +kernel
  refine ⟨fun request drafted => ?_, ?_, ?_⟩
  · rw [unread] at drafted
    cases drafted
  · rw [unread]
    rfl
  · rw [unread]
    rfl

end Client

end Http

end GroupSync
