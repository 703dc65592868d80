import PageCheck.Text.Basic
import PageCheck.Unicode.CodePoints

/-!
# Percent encoding

A character that a part of a URL cannot hold is written as its UTF-8 bytes, each
as a percent sign with two hexadecimal digits.  Which characters are written so
depends on the part.
-/

namespace PageCheck
namespace Url

/-- The characters that every part encodes. -/
def escapesControl (c : Char) : Bool :=
  c.toNat < 0x20 || 0x7F ≤ c.toNat

/-- The characters that a fragment encodes. -/
def escapesInFragment (c : Char) : Bool :=
  escapesControl c || c == ' ' || c == '\"' || c == '<' || c == '>' || c == '\x60'

/-- The characters that a path encodes. -/
def escapesInPath (c : Char) : Bool :=
  escapesInFragment c || c == '#' || c == '?' || c == '\x7b' || c == '\x7d'

/-- The characters that user names and passwords encode. -/
def escapesInUser (c : Char) : Bool :=
  escapesInPath c || ("/:;=@[\\]^|" : Text).contains c

/-- The characters that a query encodes. -/
def escapesInQuery (isSpecial : Bool) (c : Char) : Bool :=
  escapesControl c || c == ' ' || c == '\"' || c == '#' || c == '<' || c == '>' ||
    (isSpecial && c == '\'')

/-- The hexadecimal digit of a value below sixteen, in upper case. -/
def upperHexDigit (value : Nat) : Char :=
  if value < 10 then Char.ofNat (48 + value) else Char.ofNat (55 + value)

/-- The encoded form of a byte. -/
def encodeByte (byte : UInt8) : Text :=
  ['%', upperHexDigit (byte.toNat / 16), upperHexDigit (byte.toNat % 16)]

/-- The encoded form of a character. -/
def encodeChar (escapes : Char → Bool) (c : Char) : Text :=
  if escapes c then (String.utf8EncodeChar c).flatMap encodeByte else [c]

/-- The encoded form of a text. -/
def percentEncode (escapes : Char → Bool) (text : Text) : Text :=
  text.flatMap (encodeChar escapes)

/-- The bytes that a text stands for once its percent signs are decoded. -/
def percentDecode : Text → List UInt8
  | [] => []
  | '%' :: high :: low :: rest =>
      match Unicode.hexValue? high, Unicode.hexValue? low with
      | some first, some second =>
          UInt8.ofNat (16 * first + second) :: percentDecode rest
      | _, _ => String.utf8EncodeChar '%' ++ percentDecode (high :: low :: rest)
  | c :: rest => String.utf8EncodeChar c ++ percentDecode rest

/-- The text that bytes in UTF-8 stand for. -/
def ofUtf8? (bytes : List UInt8) : Option Text :=
  (String.fromUTF8? ⟨bytes.toArray⟩).map String.toList

end Url
end PageCheck
