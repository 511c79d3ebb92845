import GroupSync.Document.TomlScalar
import GroupSync.Document.TomlString
import GroupSync.Document.TomlTable

/-!
# Reading TOML texts

The tree of a TOML text: lines that are blank, assign a value to a key, or open a table.  A text
is refused as a whole if any of its lines is malformed, gives a key twice or nests lists and
tables too deeply.  The number of its characters bounds the recursion.
-/

namespace GroupSync

namespace Document

namespace Toml

def isBareKeyChar (character : Char) : Bool :=
  character.isAlphanum || character == '-' || character == '_'

def skipSpace (text : List Char) : List Char :=
  text.dropWhile TomlString.isSpace

/-- Pass over a comment, if there is one; `none` if it holds a control character. -/
def skipComment? (text : List Char) : Option (List Char) :=
  match text with
  | '#' :: rest =>
      let isEnd := fun character : Char => character == '\n' || character == '\r'
      let comment := rest.takeWhile fun character => !isEnd character
      if comment.any TomlString.isControl then none
      else some (rest.dropWhile fun character => !isEnd character)
  | rest => some rest

/-- Pass over what may end a line: blanks, a comment, and a line break or the end. -/
def endLine? (text : List Char) : Option (List Char) := do
  let rest ← skipComment? (skipSpace text)
  match rest with
  | [] => some []
  | '\n' :: rest => some rest
  | '\r' :: '\n' :: rest => some rest
  | _ => none

/-- Pass over blanks, comments and line breaks. -/
def skipLines? : Nat → List Char → Option (List Char)
  | 0, text => some text
  | fuel + 1, text => do
      let rest ← skipComment? (skipSpace text)
      match rest with
      | '\n' :: rest => skipLines? fuel rest
      | '\r' :: '\n' :: rest => skipLines? fuel rest
      | rest => some rest

def readKeyPart? (text : List Char) : Option (String × List Char) :=
  match TomlString.readShort? text with
  | some (key, rest) => some (String.ofList key, rest)
  | none =>
      let key := text.takeWhile isBareKeyChar
      if key.isEmpty then none
      else some (String.ofList key, text.dropWhile isBareKeyChar)

/-- Read a key: parts separated by dots. -/
def readKey? : Nat → List Char → Option (List String × List Char)
  | 0, _ => none
  | fuel + 1, text => do
      let (part, rest) ← readKeyPart? (skipSpace text)
      match skipSpace rest with
      | '.' :: rest =>
          let (parts, rest) ← readKey? fuel rest
          return (part :: parts, rest)
      | rest => return ([part], rest)

/-- The characters that end a simple value wherever they stand in it. -/
def endsScalar (character : Char) : Bool :=
  [' ', '\t', '\n', '\r', ',', ']', '\x7d', '#', '='].contains character

/-- The text of a simple value and what follows it.  A blank after a date belongs to the value
if a time follows. -/
def splitScalar (text : List Char) : List Char × List Char :=
  let word := text.takeWhile fun character => !endsScalar character
  let rest := text.dropWhile fun character => !endsScalar character
  match rest with
  | ' ' :: next :: _ =>
      if next.isDigit && TomlScalar.afterDate? word = some [] then
        let behind := rest.drop 1
        (word ++ ' ' :: (behind.takeWhile fun character => !endsScalar character),
          behind.dropWhile fun character => !endsScalar character)
      else (word, rest)
  | rest => (word, rest)

/-- Lists and tables in braces may be nested so deeply. -/
def greatestNesting : Nat := 80

mutual

/-- Read a value; `depth` lists or tables may still be opened around each other. -/
def readValue? : Nat → Nat → List Char → Option (Value × List Char)
  | 0, _, _ => none
  | fuel + 1, depth, text =>
      match text with
      | '[' :: rest =>
          match depth with
          | 0 => none
          | depth + 1 => do
              let (items, rest) ← readItems? fuel depth rest
              return (.list items, rest)
      | '\x7b' :: rest =>
          match depth with
          | 0 => none
          | depth + 1 => do
              let (members, rest) ← readMembers? fuel depth rest []
              return (.table .braced members, rest)
      | text =>
          if text.head? = some '"' || text.head? = some '\'' then do
            let (string, rest) ← TomlString.read? text
            return (.leaf (.string (String.ofList string)), rest)
          else do
            let (word, rest) := splitScalar text
            let node ← TomlScalar.read? word
            return (.leaf node, rest)

def readItems? : Nat → Nat → List Char → Option (List Value × List Char)
  | 0, _, _ => none
  | fuel + 1, depth, text => do
      let text ← skipLines? text.length text
      match text with
      | ']' :: rest => return ([], rest)
      | text =>
          let (item, rest) ← readValue? fuel depth text
          let rest ← skipLines? rest.length rest
          match rest with
          | ',' :: rest =>
              let (items, rest) ← readItems? fuel depth rest
              return (item :: items, rest)
          | ']' :: rest => return ([item], rest)
          | _ => none

def readMembers? : Nat → Nat → List Char → Members → Option (Members × List Char)
  | 0, _, _, _ => none
  | fuel + 1, depth, text, members => do
      let text ← skipLines? text.length text
      match text with
      | '\x7d' :: rest => return (members, rest)
      | text =>
          let (path, value, rest) ← readPair? fuel depth text
          let members ← addUnder path value members
          let rest ← skipLines? rest.length rest
          match rest with
          | ',' :: rest => readMembers? fuel depth rest members
          | '\x7d' :: rest => return (members, rest)
          | _ => none

def readPair? : Nat → Nat → List Char → Option (List String × Value × List Char)
  | 0, _, _ => none
  | fuel + 1, depth, text => do
      let (path, rest) ← readKey? text.length text
      let '=' :: rest := rest | none
      let (value, rest) ← readValue? fuel depth (skipSpace rest)
      return (path, value, rest)

end

/-- The state of reading: the tree so far and the path of the header in force. -/
structure State where
  members : Members
  header : List String

/-- Follow a header and open its table with a given action. -/
def State.openHeader? (state : State) (path : List String)
    (action : String → Members → Option Members) : Option State := do
  let key ← path.getLast?
  let members ← change .header (action key) path.dropLast state.members
  return ⟨members, path⟩

def readHeader? (state : State) (text : List Char) : Option (State × List Char) := do
  match text with
  | '[' :: text =>
      let (path, rest) ← readKey? text.length text
      let ']' :: ']' :: rest := rest | none
      let state ← state.openHeader? path openFurther
      return (state, rest)
  | text =>
      let (path, rest) ← readKey? text.length text
      let ']' :: rest := rest | none
      let state ← state.openHeader? path openTable
      return (state, rest)

def readAssignment? (state : State) (text : List Char) : Option (State × List Char) := do
  let (path, value, rest) ← readPair? (3 * text.length + 3) greatestNesting text
  let members ← change .inForce (addUnder path value) state.header state.members
  return (⟨members, state.header⟩, rest)

def readLines? : Nat → State → List Char → Option State
  | 0, state, _ => some state
  | fuel + 1, state, text =>
      match skipSpace text with
      | [] => some state
      | '[' :: rest => do
          let (state, rest) ← readHeader? state rest
          let rest ← endLine? rest
          readLines? fuel state rest
      | first :: rest =>
          if first == '#' || first == '\n' || first == '\r' then do
            let rest ← endLine? (first :: rest)
            readLines? fuel state rest
          else do
            let (state, rest) ← readAssignment? state (first :: rest)
            let rest ← endLine? rest
            readLines? fuel state rest

def dropByteOrderMark (text : List Char) : List Char :=
  match text with
  | first :: rest => if first.toNat == 0xFEFF then rest else first :: rest
  | [] => []

/-- Read a TOML text as the tree of its outermost table. -/
def read? (text : String) : Option Node := do
  let text := dropByteOrderMark text.toList
  let state ← readLines? (text.length + 1) ⟨[], []⟩ text
  return (Value.table .stated state.members).toNode

end Toml

end Document

end GroupSync
