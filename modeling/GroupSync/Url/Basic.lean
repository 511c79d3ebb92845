import GroupSync.Url.Address

/-!
# URLs

A URL in its normal form: every part is kept as it is written, that is with its reserved
characters in encoded form, and a port that its scheme implies is absent.
-/

namespace GroupSync

namespace Url

inductive Host where
  | domain (name : List Char)
  | ipv4 (address : Nat)
  | ipv6 (pieces : List Nat)
deriving DecidableEq

def Host.render : Host → List Char
  | domain name => name
  | ipv4 address => (Ipv4.render address).toList
  | ipv6 pieces => '[' :: (Ipv6.render pieces).toList ++ [']']

/-- The part of a URL that names its server. -/
structure Authority where
  /-- The user name; empty if there is none. -/
  username : List Char
  password : Option (List Char)
  host : Option Host
  /-- The port, unless the scheme implies it. -/
  port : Option Nat
deriving DecidableEq

namespace Authority

def hasCredentials (authority : Authority) : Bool :=
  !authority.username.isEmpty || authority.password.isSome

/-- The text of the user name and password, with the sign that ends it. -/
def renderCredentials (authority : Authority) : List Char :=
  if authority.hasCredentials then
    authority.username ++
      (match authority.password with
        | some password => ':' :: password
        | none => []) ++ ['@']
  else []

def render (authority : Authority) : List Char :=
  authority.renderCredentials ++
    (match authority.host with
      | some host => host.render
      | none => []) ++
    (match authority.port with
      | some port => ':' :: (toString port).toList
      | none => [])

def withoutCredentials (authority : Authority) : Authority :=
  { authority with username := [], password := none }

end Authority

/-- The path of a URL. -/
inductive Path where
  /-- Segments, each of them behind a slash. -/
  | segments (list : List (List Char))
  /-- A text that has no structure and does not begin with a slash. -/
  | rootless (text : List Char)
deriving DecidableEq

def Path.render : Path → List Char
  | segments list => list.flatMap fun segment => '/' :: segment
  | rootless text => text

/-- A path whose text begins with two slashes. -/
def Path.looksLikeAuthority : Path → Bool
  | segments ([] :: _ :: _) => true
  | _ => false

end Url

structure Url where
  /-- The scheme, in small letters. -/
  scheme : List Char
  authority : Option Url.Authority
  path : Url.Path
  /-- The query, without its question mark. -/
  query : Option (List Char)
  fragment : Option (List Char)
deriving DecidableEq

namespace Url

/-- An optional part behind the sign that opens it. -/
def renderPart (sign : Char) (part : Option (List Char)) : List Char :=
  match part with
  | some text => sign :: text
  | none => []

/-- The server and the path of a URL.  A path that would be taken for a server is kept apart
by a dot. -/
def renderPlace (url : Url) : List Char :=
  match url.authority with
  | some authority => ['/', '/'] ++ authority.render ++ url.path.render
  | none =>
      if url.path.looksLikeAuthority then ['/', '.'] ++ url.path.render else url.path.render

def render (url : Url) : String :=
  String.ofList
    (url.scheme ++ ':' :: url.renderPlace ++ renderPart '?' url.query ++
      renderPart '#' url.fragment)

def host? (url : Url) : Option Host :=
  url.authority.bind Authority.host

def withoutCredentials (url : Url) : Url :=
  { url with authority := url.authority.map Authority.withoutCredentials }

/-- The URL that a request names: without user name, password and fragment. -/
def requested (url : Url) : Url :=
  { url.withoutCredentials with fragment := none }

end Url

end GroupSync
