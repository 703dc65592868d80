import PageCheck.Url.Address
import PageCheck.Url.Domain
import PageCheck.Url.Percent

/-!
# Hosts

A host in brackets is an address of the sixth version.  The host of a special
scheme is otherwise a domain name, or an address of the fourth version if its
last part is a number.  Other schemes take the host as it is written.
-/

namespace PageCheck
namespace Url

/-- The text between the brackets of a host that starts with one. -/
def bracketed (text : Text) : Except Error Text :=
  if text.getLast? = some ']' then .ok (text.drop 1).dropLast else .error .invalidIpv6

/-- Reads an address in brackets. -/
def readBracketedHost (text : Text) : Except Error Text := do
  let inner <- bracketed text
  let pieces <- readIpv6 inner
  return '[' :: showIpv6 pieces ++ [']']

/-- Reads the host of a special scheme. -/
def readSpecialHost (text : Text) : Except Error Text :=
  if text.head? = some '[' then
    readBracketedHost text
  else
    match (ofUtf8? (percentDecode text)).bind Domain.toAscii? with
    | none => .error .invalidDomain
    | some [] => .error .emptyHost
    | some domain =>
        if endsInNumber domain then
          (readIpv4 domain).map showIpv4
        else
          .ok domain

/-- Whether a character may not stand in the host of a scheme that is not
special. -/
def isForbiddenInHost (c : Char) : Bool :=
  ("\x00\t\n\r #/:<>?@[\\]^|" : Text).contains c

/-- Reads the host of a scheme that is not special. -/
def readPlainHost (text : Text) : Except Error Text :=
  if text.head? = some '[' then
    readBracketedHost text
  else if text.any isForbiddenInHost then
    .error .invalidHostCharacter
  else
    .ok (percentEncode escapesControl text)

end Url
end PageCheck
