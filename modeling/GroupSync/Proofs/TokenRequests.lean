import GroupSync.Proofs.FormRoundTrip
import GroupSync.Proofs.Gathering
import GroupSync.Proofs.IntegerLiterals
import GroupSync.Proofs.JsonGrammar
import GroupSync.Proofs.ResponseClasses

/-!
# Asking for a token

A token is asked for once, with the credentials in a form, and whatever does not bring a token is a
failure of authentication.  The form keeps the credentials apart: whatever characters they are made
of, they are read back from it, so no part of one of them can pass for another field.
-/

namespace GroupSync

open Document Fallible Http

namespace Document.Node

theorem asString_eq_ok_iff {node : Node} {text : String} :
    node.asString = .ok text ↔ node = .string text := by
  cases node <;> simp [asString, refuse]

end Document.Node

namespace Document.RecordShape

variable {α : Type} {shape : RecordShape} {members : List (Node × Node)} {name : String}
  {value : Node} {ask : Node → Decoded α}

theorem mem_kept_iff : (name, value) ∈ shape.kept members ↔
    (.string name, value) ∈ members ∧ (shape.field? name).isSome = true := by
  rw [kept, List.mem_filterMap]
  constructor
  · rintro ⟨⟨key, node⟩, listed, found⟩
    cases key <;> simp only [kept?, reduceCtorEq] at found
    split at found
    · rename_i known
      cases found
      exact ⟨listed, known⟩
    · cases found
  · rintro ⟨listed, known⟩
    exact ⟨_, listed, by simp [kept?, known]⟩

/-- What is found under a known key is the value of the member with this key, if there is one. -/
theorem Accepts.find?_kept_eq_some_iff (accepts : shape.Accepts members)
    (known : (shape.field? name).isSome = true) :
    (shape.kept members).find? name = some value ↔ (.string name, value) ∈ members := by
  rw [Gathered.find?_eq_some_iff accepts.distinct, mem_kept_iff, and_iff_left known]

theorem Accepts.exists_member_of_required (accepts : shape.Accepts members)
    (known : (shape.field? name).isSome = true) {found : α}
    (got : (shape.kept members).required name ask = .ok found) :
    ∃ value, (.string name, value) ∈ members ∧ ask value = .ok found := by
  rw [Gathered.required] at got
  cases held : (shape.kept members).find? name with
  | none =>
      rw [held] at got
      cases got
  | some value =>
      rw [held] at got
      exact ⟨value, (accepts.find?_kept_eq_some_iff known).mp held, got⟩

/-- What is found for a field that may be left out is asked of the member with its key, or is the
standard if no member has this key. -/
theorem Accepts.exists_member_or_absent (accepts : shape.Accepts members)
    (known : (shape.field? name).isSome = true) {standard found : α}
    (got : (shape.kept members).getD name ask standard = .ok found) :
    (∃ value, (.string name, value) ∈ members ∧ ask value = .ok found) ∨
      (∀ value, (.string name, value) ∉ members) ∧ found = standard := by
  rw [Gathered.getD] at got
  cases held : (shape.kept members).find? name with
  | none =>
      rw [held] at got
      cases got
      refine .inr ⟨fun value listed => ?_, rfl⟩
      rw [(accepts.find?_kept_eq_some_iff known).mpr listed] at held
      cases held
  | some value =>
      rw [held] at got
      exact .inl ⟨value, (accepts.find?_kept_eq_some_iff known).mp held, got⟩

end Document.RecordShape

namespace Token

/-- The members of an object say the fields of a token; an absent type is empty, and an absent
lifetime is zero. -/
structure IsStatedIn (token : Token) (members : List (Node × Node)) : Prop where
  value : (.string "access_token", .string token.value) ∈ members
  tokenType : (.string "token_type", .string token.tokenType) ∈ members ∨
    (∀ value, (.string "token_type", value) ∉ members) ∧ token.tokenType = ""
  lifetimeSeconds : (.string "expires_in", .integer token.lifetimeSeconds) ∈ members ∨
    (∀ value, (.string "expires_in", value) ∉ members) ∧ token.lifetimeSeconds = 0

/-- A token that is read from an object is the one that its members state. -/
theorem isStatedIn_of_ofNode {token : Token} {members : List (Node × Node)}
    (read : ofNode (.object members none) = .ok token) : token.IsStatedIn members := by
  obtain ⟨gathered, made, read⟩ := bind_eq_ok_iff.mp read
  obtain ⟨accepts, rfl⟩ := RecordShape.gather_object_eq_ok_iff.mp made
  obtain ⟨value, gotValue, read⟩ := bind_eq_ok_iff.mp read
  obtain ⟨tokenType, gotType, read⟩ := bind_eq_ok_iff.mp read
  obtain ⟨lifetimeSeconds, gotLifetime, ⟨⟩⟩ := bind_eq_ok_iff.mp read
  constructor
  · obtain ⟨node, listed, asked⟩ := accepts.exists_member_of_required rfl gotValue
    exact Node.asString_eq_ok_iff.mp asked ▸ listed
  · refine (accepts.exists_member_or_absent rfl gotType).imp_left ?_
    rintro ⟨node, listed, asked⟩
    exact Node.asString_eq_ok_iff.mp asked ▸ listed
  · refine (accepts.exists_member_or_absent rfl gotLifetime).imp_left ?_
    rintro ⟨node, listed, asked⟩
    exact (Node.asInt64_eq_ok_iff.mp asked).1 ▸ listed

end Token

namespace TokenSource

/-- What asking for a token makes of what arrives. -/
def answerTo [BodyDecoding] (url : Url) (arrival : Arrival) : Except Failure Token :=
  match arrival.outcome url with
  | .error error => .error (.auth ("token request failed: " ++ error.message))
  | .ok reply => judgeReply reply

theorem answerTo_eq_ok_iff [BodyDecoding] {url : Url} {arrival : Arrival} {token : Token} :
    answerTo url arrival = .ok token ↔ arrival.Grants token := by
  rw [answerTo]
  cases reached : arrival.outcome url with
  | error error =>
      have noReply := Arrival.ne_reply_of_outcome_eq_error reached
      simp [Arrival.Grants, noReply]
  | ok reply =>
      obtain rfl := Arrival.outcome_eq_ok_iff.mp reached
      exact judgeReply_eq_ok_iff

/-- Whatever arrives brings a token or a failure of authentication. -/
theorem answerTo_eq_ok_or_auth [BodyDecoding] (url : Url) (arrival : Arrival) :
    (∃ token, answerTo url arrival = .ok token) ∨
      ∃ text, answerTo url arrival = .error (.auth text) := by
  rw [answerTo]
  split
  · exact .inr ⟨_, rfl⟩
  · rw [judgeReply]
    split
    · exact .inr ⟨_, rfl⟩
    · rw [judge]
      split
      · exact .inr ⟨_, rfl⟩
      · split
        · exact .inr ⟨_, rfl⟩
        · split
          · exact .inl ⟨_, rfl⟩
          · exact .inr ⟨_, rfl⟩

/-- A token can be asked for exactly if the endpoint is a URL that can be requested. -/
theorem isSendable_draft_iff {source : TokenSource} :
    source.draft.IsSendable ↔ (Draft.ofText "POST" source.endpoint).IsSendable := by
  have name : Header.isName "content-type" = true := by decide
  have value : Header.isValue "application/x-www-form-urlencoded" = true := by decide
  rw [draft, Draft.form, Draft.isSendable_body_iff, Draft.isSendable_header_iff, name, value]
  simp

/-- Asking for a token does nothing but send its request, if it can be sent, and judge what
arrives. -/
theorem acquire_effects [BodyDecoding] (source : TokenSource) :
    source.acquire.Adds fun result effects =>
      ¬ source.draft.IsSendable ∧ effects = [] ∧ (∃ text, result = .ok (.error (.auth text))) ∨
        ∃ request arrival, source.draft = .ok request ∧ request.isSendable = true ∧
          effects = [.exchanged (source.client.introduce request) arrival] ∧
          result = .ok (answerTo request.url arrival) := by
  rw [acquire]
  refine .bind (source.client.exchange_effects source.draft) ?_ ?_
  · rintro breakdown effects (⟨-, -, failure, ended⟩ | ⟨request, arrival, -, -, -, ended⟩)
    · cases ended
    · cases ended
  · rintro answered effects
      (⟨unsendable, rfl, failure, ended⟩ | ⟨request, arrival, drafted, sendable, rfl, ended⟩)
    · cases ended
      exact .pure (.inl ⟨unsendable, rfl, _, rfl⟩)
    · cases ended
      cases reached : arrival.outcome request.url with
      | error failure =>
          exact .pure (.inr ⟨request, arrival, drafted, sendable, rfl, by rw [answerTo, reached]⟩)
      | ok reply =>
          exact .pure (.inr ⟨request, arrival, drafted, sendable, rfl, by rw [answerTo, reached]⟩)

/-- What asking for a token comes to: the exchanges that are made, and the answer. -/
structure Concludes [BodyDecoding] (source : TokenSource) (exchanges : List Exchange)
    (answer : Except Failure Token) : Prop where
  /-- A request is made, and only one, exactly if the endpoint is a URL that can be requested. -/
  asked : exchanges.length = if (Draft.ofText "POST" source.endpoint).IsSendable then 1 else 0
  /-- A token comes of exactly the replies that hand it out. -/
  granted : ∀ token, answer = .ok token ↔ ∃ exchange ∈ exchanges, exchange.2.Grants token
  /-- The token of an object is the one that its members state. -/
  stated : ∀ token, answer = .ok token → ∀ exchange ∈ exchanges, ∀ reply body members,
    exchange.2 = .reply reply → reply.text = .ok body → Json.Spells body (.object members none) →
      token.IsStatedIn members
  /-- All else is a failure of authentication. -/
  denied : (∀ token, ¬ ∃ exchange ∈ exchanges, exchange.2.Grants token) →
    ∃ text, answer = .error (.auth text)

theorem concludes_nil [BodyDecoding] {source : TokenSource} {text : String}
    (unsendable : ¬ source.draft.IsSendable) : source.Concludes [] (.error (.auth text)) where
  asked := by
    rw [if_neg fun usable => unsendable (isSendable_draft_iff.mpr usable), List.length_nil]
  granted := by simp
  stated := by simp
  denied := fun _ => ⟨text, rfl⟩

theorem concludes_singleton [BodyDecoding] {source : TokenSource} {request : Request} {url : Url}
    {arrival : Arrival} (sendable : source.draft.IsSendable) :
    source.Concludes [(request, arrival)] (answerTo url arrival) where
  asked := by rw [if_pos (isSendable_draft_iff.mp sendable), List.length_singleton]
  granted := by simp [answerTo_eq_ok_iff]
  stated := by
    intro token handed exchange member reply body members replied readable spells
    obtain rfl := List.mem_singleton.mp member
    obtain ⟨_, _, arrived, -, read, -, understood⟩ := answerTo_eq_ok_iff.mp handed
    obtain rfl := Arrival.reply.inj (replied.symm.trans arrived)
    obtain rfl := Except.ok.inj (readable.symm.trans read)
    rw [Token.read, Json.decode_of_spells _ spells] at understood
    exact Token.isStatedIn_of_ofNode understood
  denied := by
    intro nothing
    refine (answerTo_eq_ok_or_auth url arrival).resolve_left ?_
    rintro ⟨token, handed⟩
    exact nothing token ⟨_, List.mem_singleton_self _, answerTo_eq_ok_iff.mp handed⟩

/-- Whatever the server does, asking for a token makes at most one request, waits for nothing, and
ends with the token that is handed out or with a failure of authentication. -/
theorem acquire_concludes [BodyDecoding] (source : TokenSource) (world : World) :
    let ended := source.acquire.run world
    ∃ (exchanges : List Exchange) (answer : Except Failure Token),
      ended.1 = .ok answer ∧
        ended.2.trace =
          world.trace ++ exchanges.map (fun exchange => .exchanged exchange.1 exchange.2) ∧
        source.Concludes exchanges answer := by
  intro ended
  obtain ⟨effects, trace, ⟨unsendable, rfl, text, failed⟩ |
    ⟨request, arrival, drafted, sendable, rfl, answered⟩⟩ := source.acquire_effects world
  · exact ⟨[], _, failed, trace, concludes_nil unsendable⟩
  · exact ⟨[(source.client.introduce request, arrival)], _, answered, trace,
      concludes_singleton ⟨request, drafted, sendable⟩⟩

/-- A request that is sent, in some world, when a token is asked for. -/
def Sends [BodyDecoding] (source : TokenSource) (request : Request) : Prop :=
  ∃ world arrival,
    (source.acquire.run world).2.trace = world.trace ++ [.exchanged request arrival]

/-- The body of the request is the form of its fields. -/
theorem Sends.body_eq [BodyDecoding] {source : TokenSource} {request : Request}
    (sends : source.Sends request) :
    request.body = String.ofList (Url.Form.encode source.fields) := by
  obtain ⟨world, arrival, sent⟩ := sends
  obtain ⟨effects, trace, ⟨-, rfl, -⟩ | ⟨drafted, _, known, -, rfl, -⟩⟩ :=
    source.acquire_effects world
  · simp [trace] at sent
  · rw [trace, List.append_cancel_left_eq] at sent
    cases sent
    rw [Client.introduce_body]
    exact Draft.body_eq_of_body known

/-- The form in which a token is asked for is read as exactly four fields, with the credentials and
the joined scopes as they are configured.  So two forms are equal exactly if these are. -/
theorem sends_keepsFieldsApart [BodyDecoding] {client other : Client} {first second : Config}
    {request further : Request} (sends : (ofConfig client first).Sends request)
    (sendsFurther : (ofConfig other second).Sends further) :
    Url.Form.decode request.body.toList =
        [("client_id".toList, first.clientId.toList),
          ("client_secret".toList, first.clientSecret.toList),
          ("grant_type".toList, "client_credentials".toList),
          ("scope".toList, (",".intercalate first.scopes).toList)] ∧
      (request.body = further.body ↔
        first.clientId = second.clientId ∧ first.clientSecret = second.clientSecret ∧
          ",".intercalate first.scopes = ",".intercalate second.scopes) := by
  rw [sends.body_eq, sendsFurther.body_eq]
  constructor
  · rw [String.toList_ofList, Url.Form.decode_encode]
    rfl
  · rw [String.ofList_inj, Url.Form.encode_injective.eq_iff]
    simp only [fields, ofConfig, Config.scopeText, List.cons.injEq, Prod.mk.injEq,
      String.toList_inj, true_and, and_true]

/-- A client that is named like a form with two fields, and another one. -/
theorem sends_keepsFieldsApart_ampersand :
    let _ : BodyDecoding := .utf8
    let client := Client.new .standard
    let plain := Config.new "12345@AdobeOrg" "id" "secret"
    let crafted := { plain with clientId := "id&scope=a", clientSecret := "5% +é" }
    let url : Url :=
      ⟨"https".toList, some ⟨[], none, some (.domain "ims-na1.adobelogin.com".toList), none⟩,
        .segments ["ims".toList, "token".toList, "v3".toList], none, none⟩
    let request (body : String) : Request :=
      ⟨"POST", url, [⟨"content-type", "application/x-www-form-urlencoded"⟩,
        ⟨"user-agent", "umsync/0.1.0"⟩], body⟩
    let body := "client_id=id%26scope%3Da&client_secret=5%25+%2B%C3%A9&" ++
      "grant_type=client_credentials&scope=openid%2CAdobeID%2Cuser_management_sdk"
    let plainBody := "client_id=id&client_secret=secret&" ++
      "grant_type=client_credentials&scope=openid%2CAdobeID%2Cuser_management_sdk"
    (ofConfig client crafted).Sends (request body) ∧
      (ofConfig client plain).Sends (request plainBody) ∧
      Url.Form.decode body.toList =
        [("client_id".toList, "id&scope=a".toList), ("client_secret".toList, "5% +é".toList),
          ("grant_type".toList, "client_credentials".toList),
          ("scope".toList, "openid,AdobeID,user_management_sdk".toList)] ∧
      body ≠ plainBody := by
  intro decoding client plain crafted url request body plainBody
  have sends : (ofConfig client crafted).Sends (request body) :=
    ⟨.fresh ⟨["https"], [], .closed⟩ [], .closed, by decide +kernel⟩
  have sendsPlain : (ofConfig client plain).Sends (request plainBody) :=
    ⟨.fresh ⟨["https"], [], .closed⟩ [], .closed, by decide +kernel⟩
  obtain ⟨fields, same_iff⟩ := sends_keepsFieldsApart sends sendsPlain
  refine ⟨sends, sendsPlain, fields, fun same => ?_⟩
  exact absurd (same_iff.mp same).1 (by decide)

end TokenSource

end GroupSync
