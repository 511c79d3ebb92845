import GroupSync.Document.Json
import GroupSync.Document.JsonText
import GroupSync.Duration
import GroupSync.Failure
import GroupSync.Text.Blank
import GroupSync.Text.Quoted
import GroupSync.Url.Reader

/-!
# Configurations

The settings of a synchronization: where to send commands and where to ask for tokens, the
credentials, the timeouts and the profiles that every group joins.  The client secret is read
but never written, neither into documents nor into diagnostics.
-/

namespace GroupSync

open Document

/-- The settings of a synchronization. -/
structure Config where
  /-- The action endpoint without the organization. -/
  actionBase : String
  organizationId : String
  testOnly : Bool
  tokenEndpoint : String
  /-- The name of the client, which serves as its key as well. -/
  clientId : String
  clientSecret : String
  scopes : List String
  /-- Milliseconds to wait for a connection. -/
  connectMilliseconds : Nat
  readMilliseconds : Nat
  /-- The profiles that every group joins. -/
  productProfiles : List String
deriving DecidableEq

namespace Config

def standardActionBase : String :=
  "https://usermanagement.adobe.io/v2/usermanagement/action/"

def standardTokenEndpoint : String :=
  "https://ims-na1.adobelogin.com/ims/token/v3"

def standardScopes : List String :=
  ["openid", "AdobeID", "user_management_sdk"]

def standardConnectMilliseconds : Nat := 2000

def standardReadMilliseconds : Nat := 10000

/-- The settings with nothing but the credentials given. -/
def new (organizationId clientId clientSecret : String) : Config where
  actionBase := standardActionBase
  organizationId := organizationId
  testOnly := false
  tokenEndpoint := standardTokenEndpoint
  clientId := clientId
  clientSecret := clientSecret
  scopes := standardScopes
  connectMilliseconds := standardConnectMilliseconds
  readMilliseconds := standardReadMilliseconds
  productProfiles := []

def connectTimeout (config : Config) : Duration :=
  .ofMilliseconds config.connectMilliseconds

def readTimeout (config : Config) : Duration :=
  .ofMilliseconds config.readMilliseconds

/-- The settings as fields of a document, in the order of writing. -/
def shape : RecordShape :=
  ⟨"UmapiConfig",
    [.withDefault "umapi_base_url" Node.asString,
      .mandatory "organization_id" Node.asString,
      .withDefault "test_only" Node.asBoolean,
      .withDefault "ims_token_endpoint_url" Node.asString,
      .mandatory "client_id" Node.asString,
      .mandatory "client_secret" Node.asString,
      .withDefault "scopes" (Node.asListOf Node.asString),
      .withDefault "connect_timeout_ms" Node.asUInt64,
      .withDefault "socket_timeout_ms" Node.asUInt64,
      .withDefault "product_profiles" (Node.asListOf Node.asString)]⟩

def ofNode (node : Node) : Decoded Config := do
  let gathered ← shape.gather node
  let actionBase ← gathered.getD "umapi_base_url" Node.asString standardActionBase
  let organizationId ← gathered.required "organization_id" Node.asString
  let testOnly ← gathered.getD "test_only" Node.asBoolean false
  let tokenEndpoint ← gathered.getD "ims_token_endpoint_url" Node.asString standardTokenEndpoint
  let clientId ← gathered.required "client_id" Node.asString
  let clientSecret ← gathered.required "client_secret" Node.asString
  let scopes ← gathered.getD "scopes" (Node.asListOf Node.asString) standardScopes
  let connectMilliseconds ←
    gathered.getD "connect_timeout_ms" Node.asUInt64 standardConnectMilliseconds
  let readMilliseconds ←
    gathered.getD "socket_timeout_ms" Node.asUInt64 standardReadMilliseconds
  let productProfiles ← gathered.getD "product_profiles" (Node.asListOf Node.asString) []
  return {
    actionBase := actionBase
    organizationId := organizationId
    testOnly := testOnly
    tokenEndpoint := tokenEndpoint
    clientId := clientId
    clientSecret := clientSecret
    scopes := scopes
    connectMilliseconds := connectMilliseconds
    readMilliseconds := readMilliseconds
    productProfiles := productProfiles }

/-- The document form of the settings, without the secret. -/
def toNode (config : Config) : Node :=
  .ofMembers
    [("umapi_base_url", .string config.actionBase),
      ("organization_id", .string config.organizationId),
      ("test_only", .boolean config.testOnly),
      ("ims_token_endpoint_url", .string config.tokenEndpoint),
      ("client_id", .string config.clientId),
      ("scopes", .ofStrings config.scopes),
      ("connect_timeout_ms", .integer config.connectMilliseconds),
      ("socket_timeout_ms", .integer config.readMilliseconds),
      ("product_profiles", .ofStrings config.productProfiles)]

def render (config : Config) : String :=
  Json.render config.toNode

def diagnostic (config : Config) : String :=
  "UmapiConfig \x7b umapi_base_url: " ++ Text.quoted config.actionBase ++
    ", organization_id: " ++ Text.quoted config.organizationId ++
    ", test_only: " ++ toString config.testOnly ++
    ", ims_token_endpoint_url: " ++ Text.quoted config.tokenEndpoint ++
    ", client_id: " ++ Text.quoted config.clientId ++
    ", client_secret: \"<redacted>\"" ++
    ", scopes: " ++ Text.quotedList config.scopes ++
    ", connect_timeout_ms: " ++ toString config.connectMilliseconds ++
    ", socket_timeout_ms: " ++ toString config.readMilliseconds ++
    ", product_profiles: " ++ Text.quotedList config.productProfiles ++ " \x7d"

def requireText (name value : String) : Except Failure Unit :=
  if Text.isBlankText value then .error (.config (name ++ " must not be empty")) else .ok ()

def requireUrl (name value : String) : Except Failure Unit :=
  match Url.read value with
  | .ok _ => .ok ()
  | .error fault =>
      .error (.config ("invalid " ++ name ++ " '" ++ value ++ "': " ++ fault.message))

/-- Refuse settings under which no synchronization can succeed; the first offending setting is
named. -/
def check (config : Config) : Except Failure Unit := do
  requireText "organization_id" config.organizationId
  requireText "client_id" config.clientId
  requireText "client_secret" config.clientSecret
  if config.connectMilliseconds = 0 ∨ config.readMilliseconds = 0 then
    .error (.config "timeouts must be greater than zero")
  else
    requireUrl "umapi_base_url" config.actionBase
    requireUrl "ims_token_endpoint_url" config.tokenEndpoint

/-- The query that keeps commands from being carried out. -/
def testOnlyQuery : String :=
  "testOnly=true"

/-- The text of the action URL: the endpoint, a slash unless it ends in one, the organization
and, if commands are only checked, the query that says so. -/
def actionUrlText (config : Config) : List Char :=
  config.actionBase.toList ++
    (if config.actionBase.toList.getLast? = some '/' then [] else ['/']) ++
    config.organizationId.toList ++
    (if config.testOnly then '?' :: testOnlyQuery.toList else [])

def actionUrl (config : Config) : Except Failure Url :=
  match Url.read (String.ofList config.actionUrlText) with
  | .ok url => .ok url
  | .error fault => .error (.config ("invalid URL: " ++ fault.message))

/-- The scopes as they are sent. -/
def scopeText (config : Config) : String :=
  ",".intercalate config.scopes

end Config

end GroupSync
