import GroupSync.Text.Utf8

/-!
# Texts of reply bodies

A body is a byte sequence, and which text it stands for is for the library to say that makes the
exchanges: it knows the encodings, and whether the content type or the body itself names one.
Nothing is assumed about it here but that the same body under the same content type is always the
same text.
-/

namespace GroupSync

namespace Http

/-- The way in which bodies are read as texts. -/
class BodyDecoding where
  /-- The text of a body, by the content type of the reply, if it has one. -/
  textOf : Option String → List UInt8 → String

/-- Every body is read in UTF-8; bytes that spell no character become U+FFFD. -/
@[reducible]
def BodyDecoding.utf8 : BodyDecoding where
  textOf _ body := String.ofList (Text.decodeUtf8Lossy body)

end Http

end GroupSync
