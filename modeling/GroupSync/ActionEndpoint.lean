import GroupSync.Command
import GroupSync.Config
import GroupSync.Http.Delivery
import GroupSync.Token

/-!
# Sending batches

A batch is posted to the action URL under a token.  The reply's body is read before its status
is looked at; a failing status, a blank body and a body that cannot be understood are failures
that name the request.
-/

namespace GroupSync

/-- Where batches are sent. -/
structure ActionEndpoint where
  client : Http.Client
  url : Url
  apiKey : String

namespace ActionEndpoint

/-- The header that carries the key of the client. -/
def apiKeyHeader : String :=
  "X-Api-Key"

def ofConfig (client : Http.Client) (config : Config) : Except Failure ActionEndpoint := do
  let url ← config.actionUrl
  return ⟨client, url, config.clientId⟩

def draft (endpoint : ActionEndpoint) (batch : Batch) (token : Token) : Http.Draft :=
  ((Http.Draft.ofUrl "POST" endpoint.url).addHeaders
    [("authorization", token.authorization), (apiKeyHeader, endpoint.apiKey),
      ("content-type", "application/json")]).body batch.payload

/-- The request for a batch as diagnostics show it. -/
def context (endpoint : ActionEndpoint) (batch : Batch) : AnsweredRequest :=
  .post endpoint.url.render batch.payload

/-- The response that a reply with a readable body holds. -/
def judge (context : AnsweredRequest) (status : Nat) (body : String) :
    Except Failure Response :=
  if Http.Status.isFailing status then
    .error (.transport status ((Http.Status.reason? status).getD "") body context)
  else if Text.isBlankText body then
    .error (.protocol ("No response body from UMAPI for request " ++ context.render))
  else
    match Response.read body with
    | .ok response => .ok (response.withRequest context)
    | .error error =>
        .error (.protocol ("Malformed UMAPI response (" ++ error.message ++ ") for request " ++
          context.render))

variable [Http.BodyDecoding]

def judgeReply (context : AnsweredRequest) (reply : Http.Reply) : Except Failure Response :=
  match reply.text with
  | .error cause =>
      .error (.network ("failed to read response body from <unknown>: " ++ cause))
  | .ok body => judge context reply.status body

def send (endpoint : ActionEndpoint) (batch : Batch) (token : Token) :
    Http.Session (Except Failure Response) := do
  match ← endpoint.client.deliver (endpoint.draft batch token) with
  | .error error => return .error error
  | .ok reply => return judgeReply (endpoint.context batch) reply

end ActionEndpoint

end GroupSync
