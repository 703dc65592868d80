import PageCheck.Text.Basic
import PageCheck.Unicode.CaseTable
import PageCheck.Unicode.Property

/-!
# Lowercase

Lowercasing replaces each character by its full Unicode lowercase mapping.  The
mapping of a character does not depend on its neighbours, with one exception: a
capital sigma at the end of a word becomes a final sigma.
-/

namespace PageCheck
namespace Text

/-- The set of the property `Cased` beyond ASCII. -/
def casedBeyondAscii : Unicode.CodePoints := Unicode.propertyNamed "cased"

/-- The set of the property `Case_Ignorable` beyond ASCII. -/
def ignorableBeyondAscii : Unicode.CodePoints := Unicode.propertyNamed "caseignorable"

/-- Whether a character has the Unicode property `Cased`. -/
def isCased (c : Char) : Bool :=
  if c.toNat < 0x80 then c.isAlpha else casedBeyondAscii.hasChar c

/-- Whether a character has the Unicode property `Case_Ignorable`. -/
def isCaseIgnorable (c : Char) : Bool :=
  if c.toNat < 0x80 then
    c == '\'' || c == '.' || c == ':' || c == '^' || c == '\x60'
  else
    ignorableBeyondAscii.hasChar c

/-- The lowercase mapping of a character other than a capital sigma. -/
def lowerChar (c : Char) : Text :=
  if c.toNat < 0x80 then
    [c.toLower]
  else if c.toNat = 0x130 then
    ['i', '\u0307']
  else
    match Unicode.CaseRun.apply? Unicode.lowercaseRuns c.toNat with
    | some code => [Char.ofNat code]
    | none => [c]

/-- Whether the first character that is not ignorable is cased. -/
def meetsCased (text : Text) : Bool :=
  match text.dropWhile isCaseIgnorable with
  | [] => false
  | c :: _ => isCased c

/-- The lowercase form of a capital sigma between two texts, the one before it
being given backwards. -/
def lowerSigma (before after : Text) : Char :=
  if meetsCased before && !meetsCased after then 'ς' else 'σ'

/-- Lowercases a text that stands behind another one, given backwards. -/
def lowercaseAfter (before : Text) : Text → Text
  | [] => []
  | c :: rest =>
      (if c = 'Σ' then [lowerSigma before rest] else lowerChar c) ++
        lowercaseAfter (c :: before) rest

/-- The lowercase form of a text. -/
def lowercase (text : Text) : Text :=
  lowercaseAfter [] text

end Text
end PageCheck
