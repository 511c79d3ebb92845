import GroupSync.Proofs.RequestOrder
import GroupSync.Proofs.SecretRequests
import GroupSync.Proofs.TokenReplies

/-!
# Where secrets show

The client secret shows in the form that asks for a token and nowhere else.  A token shows in the
headers that present it and, if the token endpoint sends one along with a failing status, in the
failure that quotes the reply.
-/

namespace GroupSync

open Http Document

namespace Http

/-- The world in which a given reply comes next. -/
def World.replying (world : World) (reply : Reply) : World :=
  { world with server := { world.server with queue := .reply reply :: world.server.queue } }

/-- A session that asks one thing of the server.  Whatever reply comes next, the session either
fails without receiving it, in the same way for all replies, or it receives it. -/
def Session.Receives {α : Type} (session : Session (Except Failure α))
    (result : Reply → Except Failure α) : Prop :=
  ∀ world : World,
    (∃ failure effects, ∀ reply, session.run (world.replying reply) =
        (.ok (.error failure), { world.replying reply with trace := world.trace ++ effects })) ∨
      ∃ request, ∀ reply, session.run (world.replying reply) =
        (.ok (result reply), world.extend (.exchanged request (.reply reply)))

theorem Session.Receives.error {α : Type} (failure : Failure)
    {result : Reply → Except Failure α} :
    (Pure.pure (.error failure) : Session (Except Failure α)).Receives result := by
  refine fun world => .inl ⟨failure, [], fun reply => ?_⟩
  rw [List.append_nil]
  rfl

/-- What comes next arrives, or a connection cannot even be made. -/
theorem Session.run_exchange_replying (request : Request) (world : World) :
    (∀ reply, (Session.exchange request).run (world.replying reply) =
        (.ok (.reply reply), world.extend (.exchanged request (.reply reply)))) ∨
      ∀ reply, (Session.exchange request).run (world.replying reply) =
        (.ok .unreachable, (world.replying reply).extend (.exchanged request .unreachable)) := by
  by_cases connected :
      world.server.schemes.contains (String.ofList request.url.scheme) = true
  · refine .inl fun reply => ?_
    have same : (world.replying reply).server.schemes = world.server.schemes := rfl
    rw [Session.exchange, run_modifyGet, same, if_pos connected]
    rfl
  · refine .inr fun reply => ?_
    have same : (world.replying reply).server.schemes = world.server.schemes := rfl
    rw [Session.exchange, run_modifyGet, same, if_neg connected]

theorem Client.attempt_receives (client : Client) (request : Request) :
    (client.attempt request).Receives .ok := by
  rw [attempt]
  cases request.isSendable with
  | false => exact .error _
  | true =>
      intro world
      rcases Session.run_exchange_replying (client.introduce request) world with arrives | fails
      · refine .inr ⟨client.introduce request, fun reply => ?_⟩
        rw [if_pos rfl, Session.run_bind, arrives]
        rfl
      · obtain ⟨failure, unreached⟩ :
            ∃ failure, Arrival.unreachable.outcome request.url = .error failure := ⟨_, rfl⟩
        refine .inl ⟨failure, [.exchanged (client.introduce request) .unreachable],
          fun reply => ?_⟩
        rw [if_pos rfl, Session.run_bind, fails]
        dsimp only
        rw [unreached]
        rfl

end Http

namespace TokenSource

theorem acquire_receives [BodyDecoding] (source : TokenSource) :
    source.acquire.Receives judgeReply := by
  rw [acquire]
  cases source.draft with
  | error fault => exact .error _
  | ok request =>
      intro world
      rcases source.client.attempt_receives request world with
        ⟨failure, effects, fails⟩ | ⟨sent, arrives⟩
      · refine .inl ⟨.auth ("token request failed: " ++ failure.message), effects, fun reply => ?_⟩
        rw [Session.run_bind, Client.exchange, fails]
        rfl
      · refine .inr ⟨sent, fun reply => ?_⟩
        rw [Session.run_bind, Client.exchange, arrives]
        rfl

end TokenSource

namespace Manager

variable {manager otherManager : Manager} {token other : Token}

/-- What sending batches comes to does not depend on the token, nor on how it was come by. -/
theorem sendBatches_alike [BodyDecoding] (sameEndpoint : otherManager.endpoint = manager.endpoint)
    (valid : Header.isValue token.authorization = Header.isValue other.authorization)
    (total number : Nat) (batches : List Batch) (summary : Summary) :
    (Synchronization.sendBatches manager.channels token total number batches summary).Alike
      (Synchronization.sendBatches otherManager.channels other total number batches summary)
      fun _ => List.Forall₂ (Effect.Like (Request.DifferInToken token.value other.value)) := by
  -- Both runs see the same responses, so they count, judge and stop in the same way.
  induction batches generalizing number summary with
  | nil => exact .pure .nil
  | cons batch batches induction =>
      rw [Synchronization.sendBatches, Synchronization.sendBatches]
      have sends : (manager.channels.send batch token).Alike
          (otherManager.channels.send batch other) fun _ =>
            List.Forall₂ (Effect.Like (Request.DifferInToken token.value other.value)) := by
        have same : otherManager.channels.send = manager.endpoint.send := by
          rw [← sameEndpoint]
          rfl
        rw [same]
        exact manager.endpoint.send_alike batch valid
      refine .bind sends (fun _ _ _ => id) ?_
      intro answered effects others sent
      cases answered with
      | error failure =>
          refine .afterRecord (.pure ?_)
          exact List.rel_append sent (.cons (.logged _) .nil)
      | ok response =>
          dsimp only
          cases summary.record? batch.size response with
          | none => exact .pure (by simpa using sent)
          | some counted =>
              rw [recordAll_channels, recordAll_channels]
              refine .afterRecordAll ?_
              cases (Outcome.ofResponse response).toResult with
              | error failure =>
                  refine .afterRecord (.pure ?_)
                  exact List.rel_append sent
                    (List.rel_append (Effect.like_map_logged _) (.cons (.logged _) .nil))
              | ok warnings =>
                  refine (induction (number + 1) (counted.addWarnings warnings)).mono ?_
                  intro result later laterOthers following
                  exact List.rel_append sent
                    (List.rel_append (Effect.like_map_logged _) following)

/-- What a run does once it has been decided whether there is a token. -/
def proceed [BodyDecoding] (manager : Manager) (groups : List Group) :
    Except Failure Token → Session (Except RunFailure Summary)
  | .error failure => return .error (.failed failure)
  | .ok token => do
      let batches := Batch.ofGroups manager.profiles groups
      Session.record (Synchronization.startEvent batches.length)
      match ←
        Synchronization.sendBatches manager.channels token batches.length 1 batches .empty with
      | .error failure => return .error failure
      | .ok summary =>
          Session.record (Synchronization.finishEvent summary)
          return .ok summary

theorem update_eq [BodyDecoding] (manager : Manager) (groups : List Group) :
    manager.update groups = (do
      Session.record (manager.updateEvent groups)
      let acquired ← manager.tokens.acquire
      manager.proceed groups acquired) := by
  rw [update, Synchronization.run]
  rfl

theorem proceed_alike [BodyDecoding] (manager otherManager : Manager)
    (sameEndpoint : otherManager.endpoint = manager.endpoint)
    (sameProfiles : otherManager.profiles = manager.profiles)
    (valid : Header.isValue token.authorization = Header.isValue other.authorization)
    (groups : List Group) :
    (manager.proceed groups (.ok token)).Alike (otherManager.proceed groups (.ok other)) fun _ =>
      List.Forall₂ (Effect.Like (Request.DifferInToken token.value other.value)) := by
  rw [proceed, proceed, sameProfiles]
  refine .afterRecord (.bind (sendBatches_alike sameEndpoint valid _ _ _ _) ?_ ?_)
  · exact fun _ _ _ like => .cons (.logged _) like
  · intro result effects others like
    cases result with
    | error failure => exact .pure (.cons (.logged _) (by simpa using like))
    | ok summary =>
        refine .afterRecord (.pure (.cons (.logged _) ?_))
        exact List.rel_append like (.cons (.logged _) .nil)

/-- The same manager with another client secret. -/
def withSecret (manager : Manager) (secret : String) : Manager :=
  { manager with tokens := manager.tokens.withSecret secret }

/-- Asking for a token with another secret changes one request and nothing else. -/
theorem update_alike [BodyDecoding] (manager : Manager) (secret : String) (groups : List Group) :
    (manager.update groups).Alike ((manager.withSecret secret).update groups) fun _ =>
      DifferFirst (Request.DifferInSecret manager.tokens.clientSecret secret) := by
  rw [update_eq, update_eq]
  refine .afterRecord (.bind (manager.tokens.acquire_alike secret) ?_ ?_)
  · exact fun _ _ _ differ => differ.afterLogged _
  · intro acquired effects others differ
    have proceeds : (manager.proceed groups acquired).Alike
        ((manager.withSecret secret).proceed groups acquired) fun _ => Eq := by
      cases acquired with
      | error failure => exact .pure rfl
      | ok token =>
          refine (manager.proceed_alike (manager.withSecret secret) rfl rfl rfl groups).mono ?_
          intro _ later laterOthers like
          refine List.forall₂_eq_eq_eq ▸ like.imp fun effect other same => ?_
          exact (same.mono fun _ _ differ => differ.eq).eq
    refine proceeds.mono ?_
    rintro _ later _ rfl
    exact (differ.append later).afterLogged _

/-- Open a manager for a configuration and synchronize groups through it. -/
def openAndUpdate [BodyDecoding] (config : Config) (groups : List Group) :
    Session (Except RunFailure Summary) := do
  match ← openValid config with
  | .error failure => return .error (.failed failure)
  | .ok manager => manager.update groups

/-- The manager of a configuration, if the configuration is valid. -/
def ofValid (config : Config) : Except Failure Manager := do
  config.check
  ofConfig (.new .standard) config

/-- Opening a manager comes down to making it and recording an event. -/
theorem openAndUpdate_eq [BodyDecoding] (config : Config) (groups : List Group) :
    openAndUpdate config groups =
      match ofValid config with
      | .error failure => pure (.error (.failed failure))
      | .ok manager => Session.record (readyEvent config) >>= fun _ => manager.update groups := by
  rw [openAndUpdate, openValid, ofValid]
  cases config.check with
  | error failure => rfl
  | ok _ =>
      simp only [openWith, bind, Except.bind]
      cases ofConfig (.new .standard) config with
      | error failure => rfl
      | ok manager => rfl

variable {config : Config} {secret : String}

theorem ofValid_withSecret (present : Text.isBlankText config.clientSecret = false)
    (otherPresent : Text.isBlankText secret = false) :
    ofValid { config with clientSecret := secret } =
      (ofValid config).map fun manager => manager.withSecret secret := by
  have sameCheck : Config.check { config with clientSecret := secret } = config.check := by
    simp only [Config.check, Config.requireText, present, otherPresent]
  have sameText : Config.actionUrlText { config with clientSecret := secret } =
      config.actionUrlText := rfl
  simp only [ofValid, sameCheck, ofConfig, ActionEndpoint.ofConfig, Config.actionUrl, sameText]
  cases config.check with
  | error failure => rfl
  | ok _ => cases Url.read (String.ofList config.actionUrlText) <;> rfl

theorem clientSecret_of_ofValid {manager : Manager} (opened : ofValid config = .ok manager) :
    manager.tokens.clientSecret = config.clientSecret := by
  simp only [ofValid, ofConfig] at opened
  cases checked : config.check with
  | error failure =>
      rw [checked] at opened
      cases opened
  | ok _ =>
      cases built : ActionEndpoint.ofConfig (.new .standard) config with
      | error failure =>
          rw [checked, built] at opened
          cases opened
      | ok endpoint =>
          rw [checked, built] at opened
          cases opened
          rfl

/-- Opening a manager with another secret and updating groups through it changes one request and
nothing else. -/
theorem openAndUpdate_alike [BodyDecoding] (present : Text.isBlankText config.clientSecret = false)
    (otherPresent : Text.isBlankText secret = false) (groups : List Group) :
    (openAndUpdate config groups).Alike
      (openAndUpdate { config with clientSecret := secret } groups) fun _ =>
        DifferFirst (Request.DifferInSecret config.clientSecret secret) := by
  have sameEvent : readyEvent { config with clientSecret := secret } = readyEvent config := rfl
  rw [openAndUpdate_eq, openAndUpdate_eq, ofValid_withSecret present otherPresent, sameEvent]
  cases opened : ofValid config with
  | error failure => exact .pure (.inl rfl)
  | ok manager =>
      rw [← clientSecret_of_ofValid opened]
      exact .afterRecord ((manager.update_alike secret groups).mono fun _ _ _ differ =>
        differ.afterLogged _)

/-- Whatever reply comes next, an update either fails without receiving it or goes on with what it
comes to. -/
theorem run_update_replying [BodyDecoding] (manager : Manager) (groups : List Group)
    (world : World) :
    (∃ failure effects, ∀ reply, (manager.update groups).run (world.replying reply) =
        (.ok (.error (.failed failure)), { world.replying reply with
          trace := world.trace ++ .logged (manager.updateEvent groups) :: effects })) ∨
      ∃ request, ∀ reply, (manager.update groups).run (world.replying reply) =
        (manager.proceed groups (TokenSource.judgeReply reply)).run
          { world with trace := world.trace ++
            [.logged (manager.updateEvent groups), .exchanged request (.reply reply)] } := by
  have recorded : ∀ reply,
      (Session.record (manager.updateEvent groups)).run (world.replying reply) =
        (.ok (), (world.extend (.logged (manager.updateEvent groups))).replying reply) :=
    fun _ => rfl
  rcases manager.tokens.acquire_receives (world.extend (.logged (manager.updateEvent groups))) with
    ⟨failure, effects, fails⟩ | ⟨request, arrives⟩
  · refine .inl ⟨failure, effects, fun reply => ?_⟩
    rw [update_eq, Session.run_bind, recorded]
    dsimp only
    rw [Session.run_bind, fails, List.append_cons]
    rfl
  · refine .inr ⟨request, fun reply => ?_⟩
    rw [update_eq, Session.run_bind, recorded]
    dsimp only
    rw [Session.run_bind, arrives, List.append_cons]
    rfl

/-- Two runs of an update that begin with one event and then receive one reply or another, if they
get that far.  If the reply reports success, they end in the same way and differ in the headers that
present a token.  If it reports a failure, both of them end there, and in the same way unless each
of them quotes its reply. -/
structure ShowsToken [BodyDecoding] (world : World) (event : LogEvent) (value otherValue : String)
    (reply other : Reply) (first second : Except Breakdown (Except RunFailure Summary) × World)
    (receipt otherReceipt later laterOthers : List Effect) : Prop where
  trace : first.2.trace = world.trace ++ .logged event :: (receipt ++ later)
  otherTrace : second.2.trace = world.trace ++ .logged event :: (otherReceipt ++ laterOthers)
  received : receipt = otherReceipt ∨ ∃ request,
    receipt = [.exchanged request (.reply reply)] ∧
      otherReceipt = [.exchanged request (.reply other)]
  presented : Status.isSuccess reply.status = true → first.1 = second.1 ∧
    List.Forall₂ (Effect.Like (Request.DifferInToken value otherValue)) later laterOthers
  quoted : Status.isSuccess reply.status = false → later = [] ∧ laterOthers = [] ∧
    (first.1 = second.1 ∨ ∃ text otherText, reply.text = .ok text ∧ other.text = .ok otherText ∧
      first.1 = .ok (.error (.failed (TokenSource.refusal reply.status text))) ∧
      second.1 = .ok (.error (.failed (TokenSource.refusal reply.status otherText))))

theorem update_showsToken [BodyDecoding] (manager : Manager) (groups : List Group) (world : World)
    {value otherValue : String} {reply other : Reply}
    (differ : reply.DifferInToken value otherValue other) (valid : Header.isValue value = true)
    (otherValid : Header.isValue otherValue = true) :
    ∃ receipt otherReceipt later laterOthers,
      ShowsToken world (manager.updateEvent groups) value otherValue reply other
        ((manager.update groups).run (world.replying reply))
        ((manager.update groups).run (world.replying other))
        receipt otherReceipt later laterOthers := by
  rcases manager.run_update_replying groups world with
    ⟨failure, effects, fails⟩ | ⟨request, arrives⟩
  · rw [fails reply, fails other]
    have whole : world.trace ++ .logged (manager.updateEvent groups) :: effects =
        world.trace ++ .logged (manager.updateEvent groups) :: (effects ++ []) := by
      rw [List.append_nil]
    exact ⟨effects, effects, [], [], whole, whole, .inl rfl, fun _ => ⟨rfl, .nil⟩,
      fun _ => ⟨rfl, rfl, .inl rfl⟩⟩
  · rw [arrives reply, arrives other]
    refine ⟨[.exchanged request (.reply reply)], [.exchanged request (.reply other)], ?_⟩
    rcases TokenSource.judgeReply_of_differInToken differ with
      ⟨failure, judged, otherJudged⟩ |
      ⟨success, tokenType, lifetime, judged, otherJudged⟩ |
      ⟨refused, text, otherText, readable, otherReadable, judged, otherJudged⟩
    · rw [judged, otherJudged]
      exact ⟨[], [], rfl, rfl, .inr ⟨request, rfl, rfl⟩, fun _ => ⟨rfl, .nil⟩,
        fun _ => ⟨rfl, rfl, .inl rfl⟩⟩
    · rw [judged, otherJudged]
      have bothValid : Header.isValue (Token.authorization ⟨value, tokenType, lifetime⟩) =
          Header.isValue (Token.authorization ⟨otherValue, tokenType, lifetime⟩) := by
        rw [Token.isValue_authorization, Token.isValue_authorization, valid, otherValid]
      let received (reply : Reply) : World := { world with
        trace := world.trace ++
          [.logged (manager.updateEvent groups), .exchanged request (.reply reply)] }
      obtain ⟨later, laterOthers, trace, otherTrace, -, same, like⟩ :=
        manager.proceed_alike manager rfl rfl bothValid groups (received reply) (received other)
          ⟨rfl, rfl⟩
      refine ⟨later, laterOthers, ?_, ?_, .inr ⟨request, rfl, rfl⟩, fun _ => ⟨same, like⟩, ?_⟩
      · rw [trace, List.append_assoc]
        rfl
      · rw [otherTrace, List.append_assoc]
        rfl
      · rw [success]
        exact nofun
    · rw [judged, otherJudged]
      refine ⟨[], [], rfl, rfl, .inr ⟨request, rfl, rfl⟩, ?_, fun _ => ⟨rfl, rfl, .inr ?_⟩⟩
      · rw [refused]
        exact nofun
      · exact ⟨text, otherText, readable, otherReadable, rfl, rfl⟩

/-- Secrets show where they are presented and nowhere else.  Another client secret changes the field
of the form that asks for a token, and no other effect, result, document or diagnostic.  Another
token in the reply that comes next changes the headers that present it, unless the reply reports a
failure: then no further request is made, and the failure quotes the reply. -/
theorem update_keepsSecrets [BodyDecoding] (groups : List Group) (world : World) :
    (∀ (config : Config) (secret : String), Text.isBlankText config.clientSecret = false →
      Text.isBlankText secret = false →
        let other : Config := { config with clientSecret := secret }
        let first := (openAndUpdate config groups).run world
        let second := (openAndUpdate other groups).run world
        other.render = config.render ∧ other.diagnostic = config.diagnostic ∧
          first.1 = second.1 ∧ ∃ effects others,
            first.2.trace = world.trace ++ effects ∧ second.2.trace = world.trace ++ others ∧
              DifferFirst (Request.DifferInSecret config.clientSecret secret) effects others) ∧
    ∀ (manager : Manager) (value otherValue : String) (reply other : Reply),
      reply.DifferInToken value otherValue other → Header.isValue value = true →
        Header.isValue otherValue = true →
          (∀ text otherText, reply.text = .ok text → other.text = .ok otherText →
            (Token.read text).map Token.diagnostic =
              (Token.read otherText).map Token.diagnostic) ∧
          ∃ receipt otherReceipt later laterOthers,
            ShowsToken world (manager.updateEvent groups) value otherValue reply other
              ((manager.update groups).run (world.replying reply))
              ((manager.update groups).run (world.replying other))
              receipt otherReceipt later laterOthers := by
  refine ⟨fun config secret present otherPresent => ?_, ?_⟩
  · obtain ⟨effects, others, trace, otherTrace, -, same, differ⟩ :=
      openAndUpdate_alike present otherPresent groups world world ⟨rfl, rfl⟩
    exact ⟨rfl, rfl, same, effects, others, trace, otherTrace, differ⟩
  · intro manager value otherValue reply other differ valid otherValid
    exact ⟨fun text otherText => Token.map_diagnostic_read differ,
      manager.update_showsToken groups world differ valid otherValid⟩

/-- Neither another secret nor another token changes how a run ends. -/
theorem update_keepsSecrets_granted :
    let _ : BodyDecoding := .utf8
    let config := Config.new "12345@AdobeOrg" "id" "secret"
    let url : Url :=
      ⟨"http".toList, some ⟨[], none, some (.domain "umapi.test".toList), none⟩, .segments [[]],
        none, none⟩
    let manager : Manager :=
      ⟨⟨.new .standard, "http://ims.test/token", "id", "secret", "openid"⟩,
        ⟨.new .standard, url, "id"⟩, .empty, "12345@AdobeOrg", false⟩
    let reply (value : String) : Reply :=
      ⟨200, [], Text.utf8Bytes (Json.chars (.ofMembers [("access_token", .string value)])), true⟩
    let groups : List Group := [⟨"authors", none, .empty⟩]
    let world : World := .fresh ⟨["http"], [], .closed⟩ []
    Text.isBlankText "secret" = false ∧ Text.isBlankText "hidden" = false ∧
      ((openAndUpdate config groups).run world).1 =
        ((openAndUpdate { config with clientSecret := "hidden" } groups).run world).1 ∧
      (reply "abc").DifferInToken "abc" "xyz" (reply "xyz") ∧ Header.isValue "abc" = true ∧
      Header.isValue "xyz" = true ∧
      ((manager.update groups).run (world.replying (reply "abc"))).1 =
        ((manager.update groups).run (world.replying (reply "xyz"))).1 := by
  intro decoding config url manager reply groups world
  have plain : ∀ member ∈ ([] : List (String × Node)) ++ [], member.2.IsPlain := by simp
  have differ : (reply "abc").DifferInToken "abc" "xyz" (reply "xyz") :=
    Reply.differInToken_of_render rfl rfl plain (by decide +kernel) (by decide +kernel)
  obtain ⟨secretKept, tokenKept⟩ := update_keepsSecrets groups world
  obtain ⟨-, -, sameEnd, -⟩ := secretKept config "hidden" (by decide) (by decide)
  obtain ⟨-, receipt, otherReceipt, later, laterOthers, shows⟩ :=
    tokenKept manager "abc" "xyz" (reply "abc") (reply "xyz") differ (by decide) (by decide)
  exact ⟨by decide, by decide, sameEnd, differ, by decide, by decide, (shows.presented rfl).1⟩

/-- A token that comes with a failing status shows in the failure. -/
theorem update_quotesToken :
    let _ : BodyDecoding := .utf8
    let url : Url :=
      ⟨"http".toList, some ⟨[], none, some (.domain "umapi.test".toList), none⟩, .segments [[]],
        none, none⟩
    let manager : Manager :=
      ⟨⟨.new .standard, "http://ims.test/token", "id", "secret", "openid"⟩,
        ⟨.new .standard, url, "id"⟩, .empty, "12345@AdobeOrg", false⟩
    let reply (value : String) : Reply :=
      ⟨400, [], Text.utf8Bytes (Json.chars (.ofMembers [("access_token", .string value)])), true⟩
    let world : World := .fresh ⟨["http"], [], .closed⟩ []
    let result (value : String) := ((manager.update []).run (world.replying (reply value))).1
    (reply "abc").DifferInToken "abc" "xyz" (reply "xyz") ∧ Header.isValue "abc" = true ∧
      Header.isValue "xyz" = true ∧
      result "abc" = .ok (.error (.failed (.auth
        "IMS returned HTTP 400 Bad Request, body: \x7b\"access_token\":\"abc\"\x7d"))) ∧
      result "abc" ≠ result "xyz" := by
  intro decoding url manager reply world result
  have plain : ∀ member ∈ ([] : List (String × Node)) ++ [], member.2.IsPlain := by simp
  have differ : (reply "abc").DifferInToken "abc" "xyz" (reply "xyz") :=
    Reply.differInToken_of_render rfl rfl plain (by decide +kernel) (by decide +kernel)
  exact ⟨differ, by decide, by decide, by decide +kernel, by decide +kernel⟩

end Manager

end GroupSync
