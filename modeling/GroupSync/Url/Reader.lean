import GroupSync.Text.Blank
import GroupSync.Url.Basic
import GroupSync.Url.Domain

/-!
# Reading URLs

The normal form of a URL that is given as a text.  Blanks and controls at the ends and line
breaks anywhere are dropped.  What follows the scheme is cut at its first number sign and then
at its first question mark, so the query and the fragment depend on nothing before them; the
rest is read by the rules of the scheme.  Five schemes are special: a server follows them
however many slashes there are, and a backslash is a slash to them.  Files have rules of their
own for drive letters.
-/

namespace GroupSync

namespace Url

inductive Fault where
  | relative
  | emptyHost
  | invalidPort
  | invalidIpv4
  | invalidIpv6
  | invalidDomain
  | invalidDomainCharacter
deriving DecidableEq, Repr

def Fault.message : Fault → String
  | relative => "relative URL without a base"
  | emptyHost => "empty host"
  | invalidPort => "invalid port number"
  | invalidIpv4 => "invalid IPv4 address"
  | invalidIpv6 => "invalid IPv6 address"
  | invalidDomain => "invalid international domain name"
  | invalidDomainCharacter => "invalid domain character"

/-- The kinds of schemes that are read by different rules. -/
inductive SchemeKind where
  | file
  | special
  | general
deriving DecidableEq

/-- The special schemes other than that of files, with the ports that they imply. -/
def impliedPorts : List (String × Nat) :=
  [("http", 80), ("https", 443), ("ws", 80), ("wss", 443), ("ftp", 21)]

def impliedPort? (scheme : List Char) : Option Nat :=
  (impliedPorts.find? fun entry => entry.1.toList == scheme).map Prod.snd

def SchemeKind.of (scheme : List Char) : SchemeKind :=
  if scheme = "file".toList then .file
  else if (impliedPort? scheme).isSome then .special
  else .general

/-- A character that separates segments of a path. -/
def SchemeKind.isSlash (kind : SchemeKind) (character : Char) : Bool :=
  character == '/' || (character == '\\' && kind != .general)

/-- Drop blanks and controls at the ends and tabs and line breaks everywhere. -/
def tidy (text : List Char) : List Char :=
  (Text.stripChars (fun character => character.toNat ≤ 0x20) text).filter fun character =>
    character != '\t' && character != '\n' && character != '\r'

def isSchemeChar (character : Char) : Bool :=
  character.isAlphanum || character == '+' || character == '-' || character == '.'

/-- The scheme at the head of a text and what follows its colon. -/
def splitScheme? (text : List Char) : Option (List Char × List Char) :=
  let scheme := text.takeWhile isSchemeChar
  match scheme, text.dropWhile isSchemeChar with
  | first :: _, ':' :: rest =>
      if first.isAlpha then some (scheme.map Char.toLower, rest) else none
  | _, _ => none

/-- The text before the first occurrence of a sign, and the text behind it if it occurs. -/
def cut (sign : Char) (text : List Char) : List Char × Option (List Char) :=
  (text.takeWhile (· != sign),
    match text.dropWhile (· != sign) with
    | [] => none
    | _ :: rest => some rest)

/-- Read a host in brackets, behind the opening one. -/
def readBracketed (text : List Char) : Except Fault Host :=
  match text.reverse with
  | ']' :: inner =>
      match Ipv6.read? inner.reverse with
      | some pieces => .ok (.ipv6 pieces)
      | none => .error .invalidIpv6
  | _ => .error .invalidIpv6

/-- Read the host of a special scheme: an address or a domain name. -/
def readSpecialHost (text : List Char) : Except Fault Host :=
  match text with
  | '[' :: rest => readBracketed rest
  | _ =>
      match Domain.ofHost? text with
      | none => .error .invalidDomain
      | some [] => .error .emptyHost
      | some name =>
          if Ipv4.endsInNumber name then
            match Ipv4.read? name with
            | some address => .ok (.ipv4 address)
            | none => .error .invalidIpv4
          else .ok (.domain name)

def isForbiddenHostChar (character : Char) : Bool :=
  ['\x00', '\t', '\n', '\r', ' ', '#', '/', ':', '<', '>', '?', '@', '[', '\\', ']', '^',
    '|'].contains character

/-- Read the host of a general scheme, which is kept as it stands and may be empty. -/
def readGeneralHost (text : List Char) : Except Fault (Option Host) :=
  match text with
  | [] => .ok none
  | '[' :: rest => (readBracketed rest).map some
  | _ =>
      if text.any isForbiddenHostChar then .error .invalidDomainCharacter
      else .ok (some (.domain (percentEncode controlSet text)))

def readHost (kind : SchemeKind) (text : List Char) : Except Fault (Option Host) :=
  match kind with
  | .general => readGeneralHost text
  | _ => if text.isEmpty then .error .emptyHost else (readSpecialHost text).map some

/-- Split a text at its first colon outside brackets; the colon stays with the second part. -/
def splitPort : Bool → List Char → List Char × List Char
  | _, [] => ([], [])
  | bracketed, character :: rest =>
      if character == ':' && !bracketed then ([], character :: rest)
      else
        let inside := character == '[' || (bracketed && character != ']')
        let (host, port) := splitPort inside rest
        (character :: host, port)

/-- Read the digits of a port.  A backslash, which only occurs in general schemes, ends them;
the port is absent if there are no digits.  What is left belongs to the path. -/
def readPortDigits : List Char → Option Nat → Except Fault (Option Nat × List Char)
  | [], port => .ok (port, [])
  | character :: rest, port =>
      if character.isDigit then
        let port := port.getD 0 * 10 + (character.toNat - '0'.toNat)
        if 65535 < port then .error .invalidPort else readPortDigits rest (some port)
      else if character == '\\' then .ok (port, character :: rest)
      else .error .invalidPort

/-- Read what stands behind a host: nothing, or a colon and a port. -/
def readPort (scheme : List Char) (text : List Char) : Except Fault (Option Nat × List Char) :=
  match text with
  | ':' :: digits => do
      let (port, rest) ← readPortDigits digits none
      return (if port = impliedPort? scheme then none else port, rest)
  | rest => .ok (none, rest)

/-- The text before the last sign that ends a user name, if it occurs, and the host behind. -/
def splitCredentials (text : List Char) : Option (List Char) × List Char :=
  let behind := (text.reverse.takeWhile (· != '@')).reverse
  match (text.reverse.dropWhile (· != '@')).reverse with
  | [] => (none, behind)
  | before => (some before.dropLast, behind)

/-- Read a user name and password; an empty password is none. -/
def readCredentials (text : List Char) : List Char × Option (List Char) :=
  let (username, password) := cut ':' text
  (percentEncode userinfoSet username,
    (password.filter fun password => !password.isEmpty).map (percentEncode userinfoSet))

/-- Read an authority.  `followed` tells that the URL goes on behind it.  The second result is
what belongs to the path. -/
def readAuthority (kind : SchemeKind) (scheme : List Char) (followed : Bool)
    (text : List Char) : Except Fault (Authority × List Char) := do
  let (credentials, place) := splitCredentials text
  if credentials = some [] && place.isEmpty && followed then .error .emptyHost
  else
    let (username, password) := readCredentials (credentials.getD [])
    let (hostText, portText) := splitPort false place
    let host ← readHost kind hostText
    if host.isNone && portText.head? = some ':' then .error .emptyHost
    else
      let (port, rest) ← readPort scheme portText
      let authority : Authority := ⟨username, password, host, port⟩
      if host.isNone && authority.hasCredentials then .error .emptyHost
      else return (authority, rest)

def isDriveLetter (segment : List Char) : Bool :=
  match segment with
  | [letter, sign] => letter.isAlpha && (sign == ':' || sign == '|')
  | _ => false

/-- A segment that stands for its own level. -/
def isDot (segment : List Char) : Bool :=
  [['.'], "%2e".toList].contains (segment.map Char.toLower)

/-- A segment that stands for the level above. -/
def isDoubleDot (segment : List Char) : Bool :=
  [['.', '.'], ".%2e".toList, "%2e.".toList, "%2e%2e".toList].contains
    (segment.map Char.toLower)

/-- Leave the last of the levels, which are given last first; a drive letter stays. -/
def leave : List (List Char) → List (List Char)
  | [] => []
  | last :: levels => if isDriveLetter last then last :: levels else levels

/-- A segment as it enters the path: the drive letter of a file is written with a colon. -/
def settle (kind : SchemeKind) (levels : List (List Char)) (segment : List Char) : List Char :=
  if kind = .file && levels.isEmpty && isDriveLetter segment then
    segment.take 1 ++ [':']
  else segment

/-- Resolve the dots in a list of segments; `levels` holds the levels so far, last first.  Dots
at the end leave an empty segment there. -/
def resolve (kind : SchemeKind) : List (List Char) → List (List Char) → List (List Char)
  | [], levels => levels.reverse
  | segment :: rest, levels =>
      let ended := if rest.isEmpty then [[]] else []
      if isDoubleDot segment then resolve kind rest (ended ++ leave levels)
      else if isDot segment then resolve kind rest (ended ++ levels)
      else resolve kind rest (settle kind levels segment :: levels)

def readSegments (kind : SchemeKind) (text : List Char) : List (List Char) :=
  let unified := text.map fun character => if kind.isSlash character then '/' else character
  resolve kind ((unified.splitOn '/').map (percentEncode pathSet)) []

def dropSlash (kind : SchemeKind) (text : List Char) : List Char :=
  match text with
  | character :: rest => if kind.isSlash character then rest else character :: rest
  | [] => []

abbrev Place := Option Authority × Path

def readSpecialPlace (scheme : List Char) (followed : Bool) (text : List Char) :
    Except Fault Place := do
  let text := text.dropWhile SchemeKind.special.isSlash
  let server := text.takeWhile fun character => !SchemeKind.special.isSlash character
  let path := text.dropWhile fun character => !SchemeKind.special.isSlash character
  let (authority, _) ← readAuthority .special scheme (followed || !path.isEmpty) server
  return (some authority, .segments (readSegments .special (dropSlash .special path)))

def readGeneralPlace (scheme : List Char) (followed : Bool) (text : List Char) :
    Except Fault Place :=
  match text with
  | '/' :: '/' :: text => do
      let server := text.takeWhile (· != '/')
      let path := text.dropWhile (· != '/')
      let (authority, rest) ←
        readAuthority .general scheme (followed || !path.isEmpty) server
      let path := rest ++ path
      return (some authority,
        .segments (if path.isEmpty then [] else readSegments .general (dropSlash .general path)))
  | '/' :: path => .ok (none, .segments (readSegments .general path))
  | text => .ok (none, .rootless (percentEncode controlSet text))

/-- Read the host of a file: none if it is empty or the local one. -/
def readFileHost (text : List Char) : Except Fault (Option Host) :=
  if text.isEmpty then .ok none
  else do
    let host ← readSpecialHost text
    return if host = .domain "localhost".toList then none else some host

/-- The segments of a file's path: empty ones at its head are dropped. -/
def fileSegments (text : List Char) : List (List Char) :=
  match (readSegments .file (dropSlash .file text)).dropWhile List.isEmpty with
  | [] => [[]]
  | segments => segments

def hasDrive (segments : List (List Char)) : Bool :=
  segments.head?.any isDriveLetter

/-- Read the server and the path of a file.  A file on a drive has no host. -/
def readFilePlace (text : List Char) : Except Fault Place := do
  match text with
  | first :: second :: rest =>
      if SchemeKind.file.isSlash first && SchemeKind.file.isSlash second then
        let hostText := rest.takeWhile fun character => !SchemeKind.file.isSlash character
        if isDriveLetter hostText then
          return (some ⟨[], none, none, none⟩, .segments (fileSegments rest))
        else
          let host ← readFileHost hostText
          let segments := fileSegments (rest.drop hostText.length)
          let host := if hasDrive segments then none else host
          return (some ⟨[], none, host, none⟩, .segments segments)
      else return (some ⟨[], none, none, none⟩, .segments (fileSegments text))
  | _ => return (some ⟨[], none, none, none⟩, .segments (fileSegments text))

def readPlace (kind : SchemeKind) (scheme : List Char) (followed : Bool) (text : List Char) :
    Except Fault Place :=
  match kind with
  | .file => readFilePlace text
  | .special => readSpecialPlace scheme followed text
  | .general => readGeneralPlace scheme followed text

def SchemeKind.querySet : SchemeKind → EncodeSet
  | .general => Url.querySet
  | _ => specialQuerySet

def readTidy (text : List Char) : Except Fault Url := do
  match splitScheme? text with
  | none => .error .relative
  | some (scheme, rest) =>
      let kind := SchemeKind.of scheme
      let (upToFragment, fragment) := cut '#' rest
      let (place, query) := cut '?' upToFragment
      let (authority, path) ←
        readPlace kind scheme (query.isSome || fragment.isSome) place
      return {
        scheme := scheme
        authority := authority
        path := path
        query := query.map (percentEncode kind.querySet)
        fragment := fragment.map (percentEncode fragmentSet) }

def read (text : String) : Except Fault Url :=
  readTidy (tidy text.toList)

end Url

end GroupSync
