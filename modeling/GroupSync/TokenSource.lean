import GroupSync.Config
import GroupSync.Http.Delivery
import GroupSync.Token

/-!
# Acquiring tokens

A token is asked for with the credentials of the client, in a form that is sent once.  Whatever
goes wrong is a failure of authentication.
-/

namespace GroupSync

/-- What a token is asked for with. -/
structure TokenSource where
  client : Http.Client
  endpoint : String
  clientId : String
  clientSecret : String
  scope : String

namespace TokenSource

def ofConfig (client : Http.Client) (config : Config) : TokenSource where
  client := client
  endpoint := config.tokenEndpoint
  clientId := config.clientId
  clientSecret := config.clientSecret
  scope := config.scopeText

def fields (source : TokenSource) : List (List Char × List Char) :=
  [("client_id".toList, source.clientId.toList),
    ("client_secret".toList, source.clientSecret.toList),
    ("grant_type".toList, "client_credentials".toList),
    ("scope".toList, source.scope.toList)]

def draft (source : TokenSource) : Http.Draft :=
  (Http.Draft.ofText "POST" source.endpoint).form source.fields

/-- The token of a reply whose body could be read. -/
def judge (status : Nat) (body : String) : Except Failure Token :=
  if !Http.Status.isSuccess status then
    .error (.auth ("IMS returned HTTP " ++ Http.Status.render status ++ ", body: " ++ body))
  else if Text.isBlankText body then
    .error (.auth "IMS returned an empty token response")
  else
    match Token.read body with
    | .ok token => .ok token
    | .error error => .error (.auth ("malformed token response: " ++ error.message))

variable [Http.BodyDecoding]

def judgeReply (reply : Http.Reply) : Except Failure Token :=
  match reply.text with
  | .error cause => .error (.auth ("failed to read token response: " ++ cause))
  | .ok body => judge reply.status body

def acquire (source : TokenSource) : Http.Session (Except Failure Token) := do
  match ← source.client.exchange source.draft with
  | .error error => return .error (.auth ("token request failed: " ++ error.message))
  | .ok reply => return judgeReply reply

end TokenSource

end GroupSync
