import PageCheck.Pattern.Occurrence
import PageCheck.Script.Token
import PageCheck.Script.Variables

/-!
# Values

The value of a token is found by taking its quotes away and putting the values of
variables in the place of references, which are names in braces.  References are the
occurrences of a pattern; the pieces of the text between them are copied, and what has
been put in is not looked at again.
-/

namespace PageCheck

/-- Why a token has no value. -/
inductive ValueError
  | missingVariable (name : Text)
  | token (error : TokenError)
deriving DecidableEq, Repr

/-- The wording of a failure to find a value. -/
def ValueError.message : ValueError → Text
  | .missingVariable name => "Variable " ++ name ++ " is not defined."
  | .token error => error.message

namespace Value

/-! ## Quotes -/

/-- Resolves the two escapes of double quotes.  Any other backslash is kept. -/
def unescape : Text → Text
  | [] => []
  | '\\' :: c :: rest =>
      if c = '\"' ∨ c = '\\' then c :: unescape rest else '\\' :: unescape (c :: rest)
  | c :: rest => c :: unescape rest

/-- Takes the quotes of a text away, if it is in quotes. -/
def unquote (text : Text) : Except TokenError Text :=
  match text with
  | [] => .ok []
  | c :: rest =>
      if c = '\"' then
        match Token.closeDouble? rest with
        | some (inner, []) => .ok (unescape inner)
        | _ => .error (.unterminatedQuote text)
      else if c = '\'' then
        match Token.closeSingle? rest with
        | some (inner, []) => .ok inner
        | _ => .error (.unterminatedQuote text)
      else
        .ok text

/-! ## References -/

open Unicode (CodePoints)

/-- What references look like, as a pattern: a name in braces. -/
def referencePattern : Text := "\\\x7b([A-Za-z_][A-Za-z0-9_]*)\\\x7d"

/-- The characters that can start a name. -/
def nameStarts : CodePoints := ⟨[(0x41, 0x5A), (0x5F, 0x5F), (0x61, 0x7A)]⟩

/-- The characters that can be part of a name. -/
def nameChars : CodePoints :=
  ⟨[(0x30, 0x39), (0x41, 0x5A), (0x5F, 0x5F), (0x61, 0x7A)]⟩

/-- The expression for names. -/
def nameExpr : Pattern.Expr := .seq (.chars nameStarts) (.repeated (.chars nameChars) 0 none)

/-- The expression for references, with a group around the name: that of their pattern. -/
def referenceExpr : Pattern.Expr :=
  .sequence [.chars (.singleton '\x7b'), .capture nameExpr, .chars (.singleton '\x7d')]

/-- Goes through references with the result so far and the end of the last reference.  For
each of them, the piece of the text in front of it and the value of its variable are added,
and behind the last one what is left of the text. -/
def splice (scope : Variables) (text : Text) :
    List Pattern.Occurrence → Text → Nat → Except ValueError Text
  | [], result, last => .ok (result ++ text.drop last)
  | found :: rest, result, last =>
      match found.group with
      | none => splice scope text rest result last
      | some (start, stop) =>
          let name := text.extract start stop
          match scope.get? name with
          | some value =>
              splice scope text rest (result ++ text.extract last found.start ++ value)
                found.stop
          | none => .error (.missingVariable name)

/-- Puts the values of variables in the place of their references. -/
def substitute (scope : Variables) (text : Text) : Except ValueError Text :=
  splice scope text (referenceExpr.occurrences text) [] 0

/-- The value of the raw text of a token. -/
def resolve (scope : Variables) (raw : Text) : Except ValueError Text :=
  match unquote (Text.trim raw) with
  | .ok text => substitute scope text
  | .error error => .error (.token error)

end Value
end PageCheck
