import GroupSync.Proofs.QueryFlag
import GroupSync.Proofs.Rounds

/-!
# Commands that are only checked

The flag that keeps commands from being carried out is appended to two settings, the endpoint and
the organization, and the whole is read as a URL.  The flag is the query of every request for a
batch exactly if neither setting holds a number sign or a question mark, unless the settings spell
the same query themselves.
-/

namespace GroupSync

open Http

namespace Config

/-- What stands before the flag in the text of the action URL. -/
def actionPlace (config : Config) : List Char :=
  config.actionBase.toList ++
    (if config.actionBase.toList.getLast? = some '/' then [] else ['/']) ++
    config.organizationId.toList

theorem actionUrlText_of_testOnly {config : Config} (testOnly : config.testOnly = true) :
    config.actionUrlText = config.actionPlace ++ '?' :: testOnlyQuery.toList := by
  rw [actionUrlText, if_pos testOnly]
  rfl

theorem isSteady_testOnlyQuery : Url.IsSteady testOnlyQuery.toList where
  visible := by
    have all : testOnlyQuery.toList.all (fun character => 0x20 < character.toNat) = true := by
      decide
    intro character member
    exact of_decide_eq_true (List.all_eq_true.mp all character member)
  numberFree := by decide
  percentFree := by decide
  encoded := by
    intro kind
    cases kind with
    | file => decide
    | special => decide
    | general => decide

/-- The settings leave the query of the action URL to the flag. -/
def LeavesQuery (config : Config) : Prop :=
  Url.MakesWay (Url.unbroken config.actionPlace) testOnlyQuery.toList

theorem query_actionUrl_iff {config : Config} (testOnly : config.testOnly = true) {url : Url}
    (built : config.actionUrl = .ok url) :
    url.query = some testOnlyQuery.toList ↔ config.LeavesQuery := by
  rw [actionUrl, actionUrlText_of_testOnly testOnly] at built
  cases read : Url.read (String.ofList (config.actionPlace ++ '?' :: testOnlyQuery.toList)) with
  | error fault =>
      rw [read] at built
      cases built
  | ok known =>
      rw [read] at built
      cases built
      exact Url.query_eq_some_iff isSteady_testOnlyQuery read

end Config

namespace ActionEndpoint

theorem ofConfig_of_actionUrl (client : Client) {config : Config} {url : Url}
    (built : config.actionUrl = .ok url) :
    ofConfig client config = .ok ⟨client, url, config.clientId⟩ := by
  rw [ofConfig, built]
  rfl

/-- The endpoint of a configuration sends to its action URL. -/
theorem actionUrl_of_ofConfig {client : Client} {config : Config} {endpoint : ActionEndpoint}
    (opened : ofConfig client config = .ok endpoint) : config.actionUrl = .ok endpoint.url := by
  cases built : config.actionUrl with
  | error failure =>
      rw [ofConfig, built] at opened
      cases opened
  | ok url =>
      rw [ofConfig_of_actionUrl client built] at opened
      cases opened
      rfl

/-- Of commands that are to be checked only, each batch that can be sent is sent, and its requests
say so in their query exactly if the settings leave the query to the flag. -/
theorem send_testOnly_iff [BodyDecoding] {client : Client} {config : Config}
    {endpoint : ActionEndpoint}
    (testOnly : config.testOnly = true) (opened : ofConfig client config = .ok endpoint)
    (batch : Batch) (token : Token) (world : World) :
    ∃ round, ((endpoint.send batch token).run world).2.exchanges = world.exchanges ++ round ∧
      ((endpoint.draft batch token).IsSendable → round ≠ []) ∧
      ∀ exchange ∈ round,
        exchange.1.url.query = some Config.testOnlyQuery.toList ↔ config.LeavesQuery := by
  obtain ⟨effects, trace, sent, -⟩ := endpoint.send_adds batch token world
  have appended : ((endpoint.send batch token).run world).2.exchanges =
      world.exchanges ++ exchangesOf effects := by
    rw [World.exchanges, trace, exchangesOf_append]
    rfl
  refine ⟨exchangesOf effects, appended, ?_, ?_⟩
  · intro sendable
    rcases sent with ⟨unsendable, -⟩ | posts
    · exact absurd sendable unsendable
    · exact posts.made
  · intro exchange member
    rcases sent with ⟨-, silent⟩ | posts
    · rw [silent] at member
      cases member
    · rw [(posts.posted exchange member).1.query]
      exact Config.query_actionUrl_iff testOnly (actionUrl_of_ofConfig opened)

/-- Standard settings leave the query to the flag. -/
theorem send_testOnly_standard :
    let _ : BodyDecoding := .utf8
    let config : Config := { Config.new "12345@AdobeOrg" "id" "secret" with testOnly := true }
    let world : World := .fresh ⟨["https"], [], .closed⟩ []
    config.testOnly = true ∧ ∃ endpoint, ofConfig (.new .standard) config = .ok endpoint ∧
      ∃ round, ((endpoint.send ⟨[]⟩ (.bearer "t")).run world).2.exchanges =
          world.exchanges ++ round ∧ round ≠ [] ∧
        ∀ exchange ∈ round, exchange.1.url.query = some Config.testOnlyQuery.toList := by
  intro decoding config world
  have built : config.actionUrl = .ok {
      scheme := "https".toList
      authority := some ⟨[], none, some (.domain "usermanagement.adobe.io".toList), none⟩
      path := .segments
        ["v2".toList, "usermanagement".toList, "action".toList, "12345@AdobeOrg".toList]
      query := some "testOnly=true".toList
      fragment := none } := by decide +kernel
  have opened := ofConfig_of_actionUrl (.new .standard) built
  obtain ⟨round, sent, made, flagged⟩ :=
    send_testOnly_iff rfl opened ⟨[]⟩ (.bearer "t") world
  have leaves : config.LeavesQuery := .inl (by decide +kernel)
  refine ⟨rfl, _, opened, round, sent, made (by decide +kernel), ?_⟩
  exact fun exchange member => (flagged exchange member).mpr leaves

/-- An organization with a number sign puts the flag into the fragment, which is never sent, so
the commands of a batch that is to be checked only are carried out. -/
theorem send_loses_testOnly :
    let _ : BodyDecoding := .utf8
    let config : Config :=
      { Config.new "12345@AdobeOrg#staging" "id" "secret" with testOnly := true }
    let world : World := .fresh ⟨["https"], [], .closed⟩ []
    config.testOnly = true ∧ config.check = .ok () ∧
      ∃ endpoint, ofConfig (.new .standard) config = .ok endpoint ∧
        ((endpoint.send ⟨[]⟩ (.bearer "t")).run world).2.exchanges.map (·.1.url.query) =
          [none] := by
  intro decoding config world
  have built : config.actionUrl = .ok {
      scheme := "https".toList
      authority := some ⟨[], none, some (.domain "usermanagement.adobe.io".toList), none⟩
      path := .segments
        ["v2".toList, "usermanagement".toList, "action".toList, "12345@AdobeOrg".toList]
      query := none
      fragment := some "staging?testOnly=true".toList } := by decide +kernel
  have opened := ofConfig_of_actionUrl (.new .standard) built
  exact ⟨rfl, by decide +kernel, _, opened, by decide +kernel⟩

end ActionEndpoint

end GroupSync
