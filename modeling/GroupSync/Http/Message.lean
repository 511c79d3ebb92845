import GroupSync.Http.BodyText
import GroupSync.Http.Status
import GroupSync.Failure
import GroupSync.Text.Base64
import GroupSync.Url.Form
import GroupSync.Url.Reader

/-!
# Requests and replies

A request is drafted from texts and may turn out not to be one; the flaw of a draft is kept until
somebody wants to send it.  User name and password of a URL become a header.
-/

namespace GroupSync

namespace Http

/-- A header of a request or reply, with its name in small letters. -/
structure Header where
  name : String
  value : String
deriving DecidableEq

namespace Header

def isNameChar (character : Char) : Bool :=
  character.isAlphanum ||
    ['!', '#', '$', '%', '&', '\'', '*', '+', '-', '.', '^', '_', '\x60', '|', '~'].contains
      character

def isName (text : String) : Bool :=
  !text.isEmpty && text.toList.all isNameChar

/-- A text that may be a value: it holds no control character but the tab. -/
def isValue (text : String) : Bool :=
  text.toList.all fun character =>
    character == '\t' || (0x20 ≤ character.toNat && character.toNat != 0x7F)

end Header

structure Request where
  method : String
  /-- The URL, without a user name and password that became a header. -/
  url : Url
  /-- The headers in the order in which they were added. -/
  headers : List Header
  body : String
deriving DecidableEq

inductive BuildFault where
  /-- The URL cannot be read, or a header is none. -/
  | malformed
  /-- The URL names no host, or one that cannot be asked. -/
  | unusable (url : Url)
deriving DecidableEq

namespace BuildFault

def message : BuildFault → String
  | malformed => "builder error"
  | unusable url => "builder error for url (" ++ url.render ++ ")"

def toError (fault : BuildFault) : Failure :=
  .internal ("invalid HTTP request: " ++ fault.message)

end BuildFault

/-- A request that may not be one. -/
abbrev Draft := Except BuildFault Request

/-- The text of a user name or password, if its bytes are one. -/
def credentialText? (encoded : List Char) : Option (List Char) :=
  Text.decodeUtf8? (Url.percentDecode (Text.utf8Bytes encoded))

def basicAuthorization (username : List Char) (password : Option (List Char)) : Header :=
  ⟨"authorization",
    "Basic " ++ String.ofList
      (Text.Base64.encode (Text.utf8Bytes (username ++ ':' :: password.getD [])))⟩

/-- Take user name and password out of a URL and make them a header.  A user name that is no
text stays where it is. -/
def extractCredentials (url : Url) : Url × List Header :=
  match url.authority with
  | none => (url, [])
  | some authority =>
      match credentialText? authority.username with
      | none => (url, [])
      | some username =>
          let password := authority.password.bind credentialText?
          if username.isEmpty && password.isNone then (url, [])
          else (url.withoutCredentials, [basicAuthorization username password])

namespace Draft

def ofUrl (method : String) (url : Url) : Draft :=
  if url.host?.isSome then
    let (url, headers) := extractCredentials url
    .ok ⟨method, url, headers, ""⟩
  else .error (.unusable url)

def ofText (method url : String) : Draft :=
  match Url.read url with
  | .ok url => ofUrl method url
  | .error _ => .error .malformed

def header (draft : Draft) (name value : String) : Draft := do
  let request ← draft
  if Header.isName name && Header.isValue value then
    return { request with headers := request.headers ++ [⟨Text.lowerAscii name, value⟩] }
  else .error .malformed

def addHeaders (draft : Draft) (headers : List (String × String)) : Draft :=
  headers.foldl (fun draft entry => draft.header entry.1 entry.2) draft

def body (draft : Draft) (body : String) : Draft := do
  let request ← draft
  return { request with body := body }

def form (draft : Draft) (pairs : List (List Char × List Char)) : Draft :=
  (draft.header "content-type" "application/x-www-form-urlencoded").body
    (String.ofList (Url.Form.encode pairs))

end Draft

namespace Request

/-- The schemes in which a request can be sent. -/
def schemes : List String :=
  ["http", "https"]

def greatestUrlLength : Nat := 65534

/-- Characters of a host that cannot be sent. -/
def unsendable : List Char :=
  ['"', '\x60', '\x7b', '\x7d']

/-- A request can be sent: its scheme is a supported one and its URL is not too long and has a
host that can be written into a request. -/
def isSendable (request : Request) : Bool :=
  schemes.contains (String.ofList request.url.scheme) &&
    Text.utf8Length request.url.render.toList ≤ greatestUrlLength &&
    request.url.host?.all fun host =>
      host.render.all fun character => !unsendable.contains character

/-- A request with a header unless it has one of that name. -/
def withStandardHeader (request : Request) (header : Header) : Request :=
  if request.headers.any fun present => present.name == header.name then request
  else { request with headers := request.headers ++ [header] }

end Request

structure Reply where
  status : Nat
  headers : List Header
  /-- The bytes of the body that arrive. -/
  body : List UInt8
  /-- The body arrives to its end. -/
  complete : Bool
deriving DecidableEq

namespace Reply

/-- The first header of a name. -/
def header? (reply : Reply) (name : String) : Option String :=
  (reply.headers.find? fun header => header.name == name).map Header.value

def text [BodyDecoding] (reply : Reply) : Except String String :=
  if reply.complete then .ok (BodyDecoding.textOf (reply.header? "content-type") reply.body)
  else .error "error decoding response body"

end Reply

/-- What comes of a request that was sent. -/
inductive Arrival where
  | reply (reply : Reply)
  /-- The connection is closed without a reply. -/
  | closed
  /-- Nothing, until the time to wait is over. -/
  | silence
  | unreachable
deriving DecidableEq

namespace Arrival

/-- The failure that an arrival without a reply leads to. -/
def outcome (url : Url) : Arrival → Except Failure Reply
  | reply received => .ok received
  | closed => .error (.network ("error sending request for url (" ++ url.render ++ ")"))
  | silence => .error (.network ("request to " ++ url.render ++ " timed out"))
  | unreachable =>
      .error (.network ("failed to connect to " ++ url.render ++
        ": error sending request for url (" ++ url.render ++ ")"))

end Arrival

end Http

end GroupSync
