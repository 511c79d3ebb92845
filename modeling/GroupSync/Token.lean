import GroupSync.Document.Json
import GroupSync.Text.Quoted

/-!
# Access tokens

The bearer token under which commands are sent.  Its value never shows in diagnostics.
-/

namespace GroupSync

open Document

structure Token where
  value : String
  tokenType : String
  /-- Seconds until the token expires; zero if unknown. -/
  lifetimeSeconds : Int
deriving DecidableEq

namespace Token

/-- A bearer token of unknown lifetime. -/
def bearer (value : String) : Token :=
  ⟨value, "bearer", 0⟩

/-- The fields of the token endpoint's answer. -/
def shape : RecordShape :=
  ⟨"WireToken",
    [.mandatory "access_token" Node.asString,
      .withDefault "token_type" Node.asString,
      .withDefault "expires_in" Node.asInt64]⟩

def ofNode (node : Node) : Decoded Token := do
  let gathered ← shape.gather node
  let value ← gathered.required "access_token" Node.asString
  let tokenType ← gathered.getD "token_type" Node.asString ""
  let lifetimeSeconds ← gathered.getD "expires_in" Node.asInt64 0
  return ⟨value, tokenType, lifetimeSeconds⟩

def read (body : String) : Decoded Token :=
  Json.decode ofNode body

/-- The value of the header that presents the token. -/
def authorization (token : Token) : String :=
  "Bearer " ++ token.value

def diagnostic (token : Token) : String :=
  "AccessToken \x7b value: \"<redacted>\", token_type: " ++ Text.quoted token.tokenType ++
    ", lifetime_seconds: " ++ toString token.lifetimeSeconds ++ " \x7d"

end Token

end GroupSync
