import GroupSync.Http.Session

/-!
# The client

Sends requests.  A request is sent once, or again and again while the reply says that there are
too many requests and the policy allows a further attempt.  Every other reply, and every failure
to get one, is final.  Redirections are never followed.
-/

namespace GroupSync

namespace Http

structure Client where
  /-- When to send again. -/
  policy : RetryPolicy
  userAgent : String

namespace Client

def standardUserAgent : String :=
  "umsync/0.1.0"

def new (policy : RetryPolicy) : Client :=
  ⟨policy, standardUserAgent⟩

/-- A client with a name that must be fit for a header. -/
def withUserAgent (policy : RetryPolicy) (userAgent : String) : Except Failure Client :=
  if Header.isValue userAgent then .ok ⟨policy, userAgent⟩
  else .error BuildFault.malformed.toError

def logTarget : String :=
  "umsync_infra::http::client"

def event (level : LogLevel) (message : String) (fields : List (String × LogValue)) :
    LogEvent :=
  ⟨level, logTarget, message, fields⟩

/-- A request as a client sends it. -/
def introduce (client : Client) (request : Request) : Request :=
  request.withStandardHeader ⟨"user-agent", client.userAgent⟩

theorem introduce_url (client : Client) (request : Request) :
    (client.introduce request).url = request.url := by
  rw [introduce, Request.withStandardHeader]
  split <;> rfl

def attempt (client : Client) (request : Request) : Session (Except Failure Reply) := do
  if request.isSendable then
    let arrival ← Session.exchange (client.introduce request)
    return arrival.outcome request.url
  else return .error (BuildFault.unusable request.url).toError

def exchange (client : Client) (draft : Draft) : Session (Except Failure Reply) :=
  match draft with
  | .error fault => return .error fault.toError
  | .ok request => client.attempt request

/-- The failure of a draft that is to be sent repeatedly and is no request. -/
def notRepeatable : Failure :=
  .internal "request body cannot be cloned; buffer the body to enable retries"

def valueChars (value : String) : List Char :=
  (Text.utf8Bytes value.toList).flatMap fun byte =>
    if byte == 0x22 then ['\\', '"']
    else if byte == 0x09 || (0x20 ≤ byte && byte < 0x7F) then [Char.ofNat byte.toNat]
    else '\\' :: 'x' :: Nat.toDigits 16 byte.toNat

def shownValue (value : String) : String :=
  String.ofList ('"' :: valueChars value ++ ['"'])

/-- A header value is a text for those who ask for one. -/
def isVisible (value : String) : Bool :=
  value.toList.all fun character =>
    character == '\t' || (0x20 ≤ character.toNat && character.toNat < 0x7F)

def adviceOf (value : String) : Option Duration :=
  if isVisible value then readRetryAfter? value else none

/-- The event of a header value that advises nothing that is understood. -/
def ignoredAdviceEvent (value : String) : LogEvent :=
  event .warn "Ignoring unparsable Retry-After header" [("value", .text (shownValue value))]

def clampedAdviceEvent (policy : RetryPolicy) (delay : Duration) : LogEvent :=
  event .warn "Retry-After exceeds ceiling, clamping"
    [("retry_after_secs", .number delay.seconds),
      ("ceiling_secs", .number policy.maxRetryAfter.seconds)]

/-- The delay that a reply advises and the events that this gives rise to. -/
def advice (policy : RetryPolicy) (reply : Reply) : Option Duration × List LogEvent :=
  match reply.header? "retry-after" with
  | none => (none, [])
  | some value =>
      match adviceOf value with
      | none => (none, [ignoredAdviceEvent value])
      | some delay =>
          (some delay,
            if policy.maxRetryAfter < delay then [clampedAdviceEvent policy delay] else [])

/-- The event of a wait before attempt number `attempt` is repeated. -/
def retryEvent (policy : RetryPolicy) (url : Url) (attempt : Nat) (delay jitter : Duration) :
    LogEvent :=
  event .info "Rate limited, retrying"
    [("retry", .number attempt), ("max_retries", .number policy.maxRetries.toNat),
      ("delay_ms", .number delay.millisecondsCapped),
      ("jitter_ms", .number jitter.millisecondsCapped), ("url", .text url.render)]

def exhaustedEvent (url : Url) (attempt : Nat) : LogEvent :=
  event .warn "Rate limited, retries exhausted"
    [("attempts", .number attempt), ("url", .text url.render)]

/-- Send a request from attempt number `attempt` on.  `left` counts the attempts that the counter
of attempts still holds. -/
def deliverFrom (client : Client) (request : Request) :
    Nat → Nat → Session (Except Failure Reply)
  | 0, _ => throw .counterOverflow
  | left + 1, attempt => do
      match ← client.attempt request with
      | .error error => return .error error
      | .ok reply =>
          if reply.status ≠ RetryPolicy.retryableStatus then return .ok reply
          else
            let (advised, events) := advice client.policy reply
            Session.recordAll events
            let jitter := client.policy.jitter (← Session.draw)
            match client.policy.verdict reply.status attempt advised jitter with
            | .final =>
                Session.record (exhaustedEvent request.url attempt)
                return .ok reply
            | .again delay jitter =>
                Session.record (retryEvent client.policy request.url attempt delay jitter)
                Session.sleep delay
                client.deliverFrom request left (attempt + 1)

def deliver (client : Client) (draft : Draft) : Session (Except Failure Reply) :=
  match draft with
  | .error _ => return .error notRepeatable
  | .ok request => client.deliverFrom request RetryPolicy.greatestAttempt 1

end Client

end Http

end GroupSync
