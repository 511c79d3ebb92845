import GroupSync.Config
import GroupSync.Group
import GroupSync.Proofs.JsonRoundTrip
import GroupSync.Proofs.OpenRecords
import GroupSync.Response
import GroupSync.Token

/-!
# Records of the wire

Token replies, responses, group definitions and configurations are records that are open to other
members: the fields of each with their standard values, and the texts that are read alike.
-/

namespace GroupSync

open Document RecordShape

namespace Token

def forms : List (Form Schema) :=
  [⟨"access_token", .leaf, none⟩,
    ⟨"token_type", .leaf, some (.string "")⟩,
    ⟨"expires_in", .leaf, some (.integer 0)⟩]

theorem follows_shape : shape.Follows forms where
  takes :=
    .cons (Field.takes_mandatory (conforms_leaf _)) <|
    .cons (Field.takes_withDefault (conforms_leaf _) rfl) <|
    .cons (Field.takes_withDefault (conforms_leaf _) rfl) .nil
  distinct := by decide

theorem conforms_ofNode : Conforms (.record forms) ofNode := by
  refine conforms_record follows_shape ?_
  refine .required 0 rfl (conforms_leaf _) fun value => ?_
  refine .getD 1 rfl (conforms_leaf _) rfl fun tokenType => ?_
  refine .getD 2 rfl (conforms_leaf _) rfl fun lifetimeSeconds => ?_
  exact assembles_pure _

end Token

namespace Response

/-- The fields of an issue; a message or code that is null is empty. -/
def issueForms : List (Form Schema) :=
  [⟨"requestID", .leaf, some .null⟩,
    ⟨"index", .leaf, some (.integer 0)⟩,
    ⟨"step", .leaf, some (.integer 0)⟩,
    ⟨"message", .leaf, some .null⟩,
    ⟨"user", .leaf, some .null⟩,
    ⟨"warningCode", .leaf, some .null⟩]

theorem follows_issueShape : issueShape.Follows issueForms where
  takes :=
    .cons (Field.takes_withDefault (conforms_leaf _) rfl) <|
    .cons (Field.takes_withDefault (conforms_leaf _) rfl) <|
    .cons (Field.takes_withDefault (conforms_leaf _) rfl) <|
    .cons (Field.takes_withDefault (conforms_leaf _) rfl) <|
    .cons (Field.takes_withDefault (conforms_leaf _) rfl) <|
    .cons (Field.takes_withDefault (conforms_leaf _) rfl) .nil
  distinct := by decide

theorem conforms_warningOfNode : Conforms (.record issueForms) warningOfNode := by
  refine conforms_record follows_issueShape ?_
  refine .getD 0 rfl (conforms_leaf _) rfl fun requestId => ?_
  refine .getD 1 rfl (conforms_leaf _) rfl fun index => ?_
  refine .getD 2 rfl (conforms_leaf _) rfl fun step => ?_
  refine .getD 3 rfl (conforms_leaf _) rfl fun message => ?_
  refine .getD 4 rfl (conforms_leaf _) rfl fun user => ?_
  refine .getD 5 rfl (conforms_leaf _) rfl fun code => ?_
  exact assembles_pure _

def forms : List (Form Schema) :=
  [⟨"completed", .leaf, some (.integer 0)⟩,
    ⟨"notCompleted", .leaf, some (.integer 0)⟩,
    ⟨"completedInTestMode", .leaf, some (.integer 0)⟩,
    ⟨"errors", .listOf (.record issueForms), some (.list [] none)⟩,
    ⟨"warnings", .listOf (.record issueForms), some (.list [] none)⟩]

theorem follows_shape : shape.Follows forms where
  takes :=
    .cons (Field.takes_withDefault (conforms_leaf _) rfl) <|
    .cons (Field.takes_withDefault (conforms_leaf _) rfl) <|
    .cons (Field.takes_withDefault (conforms_leaf _) rfl) <|
    .cons (Field.takes_withDefault conforms_warningOfNode.listOf rfl) <|
    .cons (Field.takes_withDefault conforms_warningOfNode.listOf rfl) .nil
  distinct := by decide

theorem conforms_ofNode : Conforms (.record forms) ofNode := by
  refine conforms_record follows_shape ?_
  refine .getD 0 rfl (conforms_leaf _) rfl fun completed => ?_
  refine .getD 1 rfl (conforms_leaf _) rfl fun notCompleted => ?_
  refine .getD 2 rfl (conforms_leaf _) rfl fun completedInTestMode => ?_
  refine .getD 3 rfl conforms_warningOfNode.listOf rfl fun errors => ?_
  refine .getD 4 rfl conforms_warningOfNode.listOf rfl fun warnings => ?_
  exact assembles_pure _

end Response

namespace Group

def forms : List (Form Schema) :=
  [⟨"id", .leaf, none⟩,
    ⟨"description", .leaf, some .null⟩,
    ⟨"productProfileIds", .leaf, some (.list [] none)⟩]

theorem follows_shape : shape.Follows forms where
  takes :=
    .cons (Field.takes_mandatory (conforms_leaf _)) <|
    .cons (Field.takes_withDefault (conforms_leaf _) rfl) <|
    .cons (Field.takes_withDefault (conforms_leaf _) rfl) .nil
  distinct := by decide

theorem conforms_ofNode : Conforms (.record forms) ofNode := by
  refine conforms_record follows_shape ?_
  refine .required 0 rfl (conforms_leaf _) fun id => ?_
  refine .getD 1 rfl (conforms_leaf _) rfl fun description => ?_
  refine .getD 2 rfl (conforms_leaf _) rfl fun profiles => ?_
  exact assembles_pure _

end Group

namespace Config

def forms : List (Form Schema) :=
  [⟨"umapi_base_url", .leaf, some (.string standardActionBase)⟩,
    ⟨"organization_id", .leaf, none⟩,
    ⟨"test_only", .leaf, some (.boolean false)⟩,
    ⟨"ims_token_endpoint_url", .leaf, some (.string standardTokenEndpoint)⟩,
    ⟨"client_id", .leaf, none⟩,
    ⟨"client_secret", .leaf, none⟩,
    ⟨"scopes", .leaf, some (.list (standardScopes.map .string) none)⟩,
    ⟨"connect_timeout_ms", .leaf, some (.integer standardConnectMilliseconds)⟩,
    ⟨"socket_timeout_ms", .leaf, some (.integer standardReadMilliseconds)⟩,
    ⟨"product_profiles", .leaf, some (.list [] none)⟩]

theorem follows_shape : shape.Follows forms where
  takes :=
    .cons (Field.takes_withDefault (conforms_leaf _) rfl) <|
    .cons (Field.takes_mandatory (conforms_leaf _)) <|
    .cons (Field.takes_withDefault (conforms_leaf _) rfl) <|
    .cons (Field.takes_withDefault (conforms_leaf _) rfl) <|
    .cons (Field.takes_mandatory (conforms_leaf _)) <|
    .cons (Field.takes_mandatory (conforms_leaf _)) <|
    .cons (Field.takes_withDefault (conforms_leaf _) rfl) <|
    .cons (Field.takes_withDefault (conforms_leaf _) rfl) <|
    .cons (Field.takes_withDefault (conforms_leaf _) rfl) <|
    .cons (Field.takes_withDefault (conforms_leaf _) rfl) .nil
  distinct := by decide

theorem conforms_ofNode : Conforms (.record forms) ofNode := by
  refine conforms_record follows_shape ?_
  refine .getD 0 rfl (conforms_leaf _) rfl fun actionBase => ?_
  refine .required 1 rfl (conforms_leaf _) fun organizationId => ?_
  refine .getD 2 rfl (conforms_leaf _) rfl fun testOnly => ?_
  refine .getD 3 rfl (conforms_leaf _) rfl fun tokenEndpoint => ?_
  refine .required 4 rfl (conforms_leaf _) fun clientId => ?_
  refine .required 5 rfl (conforms_leaf _) fun clientSecret => ?_
  refine .getD 6 rfl (conforms_leaf _) rfl fun scopes => ?_
  refine .getD 7 rfl (conforms_leaf _) rfl fun connectMilliseconds => ?_
  refine .getD 8 rfl (conforms_leaf _) rfl fun readMilliseconds => ?_
  refine .getD 9 rfl (conforms_leaf _) rfl fun productProfiles => ?_
  exact assembles_pure _

end Config

/-- Token replies, responses, groups, lists of groups and configurations ignore the order of members
and members under other keys, they supply what is left out, and they refuse a key that occurs twice
or is not a text. -/
theorem records_readOpenly :
    ReadsOpenly (.record Token.forms) Token.read ∧
      ReadsOpenly (.record Response.forms) Response.read ∧
      ReadsOpenly (.record Group.forms) (Json.decode Group.ofNode) ∧
      ReadsOpenly (.listOf (.record Group.forms)) Group.readList ∧
      ReadsOpenly (.record Config.forms) (Json.decode Config.ofNode) :=
  ⟨Token.conforms_ofNode.readsOpenly, Response.conforms_ofNode.readsOpenly,
    Group.conforms_ofNode.readsOpenly, Group.conforms_ofNode.listOf.readsOpenly,
    Config.conforms_ofNode.readsOpenly⟩

/-- A token is found behind a list under an unknown key. -/
theorem records_readOpenly_nested_hint :
    Token.read "\x7b\"hint\":[[]],\"access_token\":\"t\"\x7d" = .ok ⟨"t", "", 0⟩ := by
  have hint : (Node.ofList [.ofList []]).IsPlain := .list _ (by simpa using .list [] nofun)
  have token : (Node.string "t").IsPlain := .string "t"
  have bare := Json.spells_render <|
    Node.IsPlain.object [("access_token", .string "t")] (by simpa using token)
  have hinted := Json.spells_render <|
    Node.IsPlain.object [("hint", .ofList [.ofList []]), ("access_token", .string "t")]
      (by simpa using ⟨hint, token⟩)
  have unknown : "hint" ∉ Token.forms.map Form.name := by decide
  have alike : Schema.Alike (.record Token.forms) _ _ :=
    .rel _ _ <| .foreign unknown (Json.writes_chars hint) <|
      Json.keyed [("access_token", .string "t")]
  have read : Token.read (Json.render (.ofMembers [("access_token", .string "t")])) =
      .ok ⟨"t", "", 0⟩ := Json.decode_of_spells _ bare
  exact (records_readOpenly.1.agree bare hinted alike _).mp read

/-- The unpaired half of a surrogate pair is allowed in a key by the grammar, but a token reply with
such a key is refused. -/
theorem read_refuses_unpairedKey :
    Json.Spells "\x7b\"access_token\":\"t\"\x7d"
        (.object [(.string "access_token", .string "t")] none) ∧
      Json.Spells "\x7b\"\\ud800\":0,\"access_token\":\"t\"\x7d"
        (.object [(.flawed (.whenDecoded .unpairedEscapeEnds), .integer 0),
          (.string "access_token", .string "t")] none) ∧
      Token.read "\x7b\"access_token\":\"t\"\x7d" = .ok ⟨"t", "", 0⟩ ∧
      Token.read "\x7b\"\\ud800\":0,\"access_token\":\"t\"\x7d" =
        .error (.fault .unpairedEscapeEnds) := by
  have bare : Json.Spells "\x7b\"access_token\":\"t\"\x7d"
      (.object [(.string "access_token", .string "t")] none) :=
    Json.spells_render <|
      Node.IsPlain.object [("access_token", .string "t")] (by simpa using .string "t")
  have half : JsonString.IsMark ['\\', 'u', 'd', '8', '0', '0'] := .unit (by decide)
  have odd : Json.Spells "\x7b\"\\ud800\":0,\"access_token\":\"t\"\x7d"
      (.object [(.flawed (.whenDecoded .unpairedEscapeEnds), .integer 0),
        (.string "access_token", .string "t")] none) := by
    have zero := Json.writes_chars (.integer 0 rfl)
    have token := Json.writes_chars (.string "t")
    have written := Json.Writes.object Json.noSpace
      [⟨Json.noSpace, ⟨[['\\', 'u', 'd', '8', '0', '0']], by simpa using half⟩, Json.noSpace,
          Json.itemOf (.integer 0)⟩,
        Json.memberOf ("access_token", .string "t")]
      (List.forall_mem_cons.mpr ⟨zero, List.forall_mem_singleton.mpr token⟩)
    exact ⟨⟨Json.noSpace, _, _, Json.noSpace⟩, rfl, written, by rfl⟩
  refine ⟨bare, odd, ?_, ?_⟩
  · exact Json.decode_of_spells _ bare
  · exact Json.decode_of_spells _ odd

end GroupSync
