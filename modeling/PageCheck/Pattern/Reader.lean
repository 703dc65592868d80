import PageCheck.Pattern.Syntax
import PageCheck.Text.Blank
import PageCheck.Unicode.Property

/-!
# Reading patterns

A pattern is read from left to right.  Groups and brackets that are still open
wait on a stack.  In the mode that ignores blanks, blanks and comments may stand
between any two parts of a pattern; a comment ends at a line feed, and reading
also tells whether the end of the pattern cut a comment short.
-/

namespace PageCheck
namespace Pattern

/-! ## Blanks and comments -/

/-- Skips blanks and comments, and tells whether a comment met the end. -/
def skipLayout (inComment : Bool) : Text → Text × Bool
  | [] => ([], inComment)
  | c :: rest =>
      if inComment then
        skipLayout (c != '\n') rest
      else if Text.isBlank c then
        skipLayout false rest
      else if c = '#' then
        skipLayout true rest
      else
        (c :: rest, false)

/-- The rest of a pattern behind blanks and comments, if these are ignored. -/
def skip (ignoring : Bool) (text : Text) : Text :=
  if ignoring then (skipLayout false text).1 else text

/-- The character that decides whether a minus sign starts a range. -/
def peekPastBlanks (ignoring : Bool) (text : Text) : Option Char :=
  if ignoring then
    match text.dropWhile Text.isBlank with
    | '#' :: rest =>
        match rest.dropWhile Text.isBlank with
        | [] => text.head?
        | c :: _ => some c
    | [] => text.head?
    | c :: _ => some c
  else
    text.head?

/-! ## Numbers -/

/-- Reads decimal digits, and skips layout behind each of them. -/
def readDigits (ignoring : Bool) : Nat → Text → Text × Text
  | 0, text => ([], text)
  | fuel + 1, text =>
      match text with
      | c :: rest =>
          if '0' ≤ c ∧ c ≤ '9' then
            let (digits, after) := readDigits ignoring fuel (skip ignoring rest)
            (c :: digits, after)
          else
            ([], text)
      | [] => ([], [])

/-- The value of digits in a base, or none when it needs more than 32 bits. -/
def valueBelow (base : Nat) (digits : Text) : Option Nat :=
  let value := digits.foldl (fun sum c => sum * base + (Unicode.hexValue? c).getD 0) 0
  if value < Nat.pow 2 32 then some value else none

/-- Reads a repetition count: none of the digits may be missing. -/
def readCount (ignoring : Bool) (text : Text) : Option (Option Nat × Text) :=
  let start := text.dropWhile Text.isBlank
  let (digits, after) := readDigits ignoring start.length start
  let rest := skip ignoring (after.dropWhile Text.isBlank)
  if digits.isEmpty then
    some (none, rest)
  else
    (valueBelow 10 digits).map fun value => (some value, rest)

/-! ## Escapes -/

/-- What an escape stands for. -/
inductive Escape
  | literal (literal : Literal)
  | oneOf (members : ClassSet)
  | place (place : Place)

/-- The characters with a meaning of their own in patterns. -/
def isMeta (c : Char) : Bool :=
  ("\\.+*?()|[]\x7b\x7d^$#&-~" : Text).contains c

/-- The characters that a backslash may stand before without changing them. -/
def isEscapable (c : Char) : Bool :=
  isMeta c ||
    (c.toNat < 0x80 && !c.isAlphanum && c != '<' && c != '>')

/-- The character with a hexadecimal code. -/
def charOfHex? (digits : Text) : Option Char :=
  match valueBelow 16 digits with
  | some value => if value.isValidChar then some (Char.ofNat value) else none
  | none => none

/-- Reads a code of a fixed number of hexadecimal digits. -/
def readFixedHex (ignoring : Bool) : Nat → Text → Option (Text × Text)
  | 0, text => some ([], text)
  | count + 1, text =>
      match text with
      | [] => none
      | c :: rest =>
          if (Unicode.hexValue? c).isSome then
            let next := if count = 0 then rest else skip ignoring rest
            (readFixedHex ignoring count next).map fun read => (c :: read.1, read.2)
          else
            none

/-- Reads text up to a closing brace, skipping layout between characters. -/
def readBraced (ignoring : Bool) : Nat → Text → Option (Text × Text)
  | 0, _ => none
  | fuel + 1, text =>
      match skip ignoring text with
      | [] => none
      | c :: rest =>
          if c = '\x7d' then
            some ([], rest)
          else
            (readBraced ignoring fuel rest).map fun read => (c :: read.1, read.2)

/-- Reads a hexadecimal code behind the letter of its escape. -/
def readHex (ignoring : Bool) (width : Nat) (text : Text) : Option (Literal × Text) :=
  match skip ignoring text with
  | [] => none
  | c :: rest =>
      if c = '\x7b' then
        match readBraced ignoring (rest.length + 1) rest with
        | some (digits, after) =>
            if !digits.isEmpty && digits.all fun d => (Unicode.hexValue? d).isSome then
              (charOfHex? digits).map fun char => (⟨char, false⟩, after)
            else
              none
        | none => none
      else
        match readFixedHex ignoring width (c :: rest) with
        | some (digits, after) =>
            (charOfHex? digits).map fun char => (⟨char, width == 2⟩, after)
        | none => none

/-- Splits a property name at the first operator of the sharpest kind. -/
def queryOf (name : Text) : PropertyQuery :=
  let rec splitUnequal : Text → Option (Text × Text)
    | '!' :: '=' :: rest => some ([], rest)
    | c :: rest => (splitUnequal rest).map fun parts => (c :: parts.1, parts.2)
    | [] => none
  match splitUnequal name with
  | some (left, right) => .withValue left right
  | none =>
      match (Text.splitFirst? ':' name).or (Text.splitFirst? '=' name) with
      | some (left, right) => .withValue left right
      | none => .name name

/-- Reads the name of a property behind the letter of its escape. -/
def readProperty (ignoring negated : Bool) (text : Text) : Option (ClassSet × Text) :=
  match skip ignoring text with
  | [] => none
  | c :: rest =>
      if c = '\x7b' then
        (readBraced ignoring (rest.length + 1) rest).map fun read =>
          (.property (queryOf read.1) negated, read.2)
      else if c = '\\' then
        none
      else
        some (.property (.name [c]) negated, rest)

/-- Whether a character can be part of the name of a word edge. -/
def isEdgeLetter (c : Char) : Bool :=
  c.isAlpha || c == '-'

/-- Reads the letters of the name of a word edge. -/
def readEdgeName (ignoring : Bool) : Nat → Text → Text × Text
  | 0, text => ([], text)
  | fuel + 1, text =>
      match text with
      | c :: rest =>
          if isEdgeLetter c then
            let (name, after) := readEdgeName ignoring fuel (skip ignoring rest)
            (c :: name, after)
          else
            ([], text)
      | [] => ([], [])

/-- Reads what may follow the escape of a word edge: a name in braces picks one
kind of edge, and braces without a name belong to a repetition. -/
def readEdge (ignoring : Bool) (text : Text) : Option (Place × Text) :=
  match text with
  | '\x7b' :: rest =>
      match skip ignoring rest with
      | [] => none
      | c :: inner =>
          if isEdgeLetter c then
            match readEdgeName ignoring (inner.length + 1) (c :: inner) with
            | (name, '\x7d' :: after) =>
                match String.ofList name with
                | "start" => some (.wordStart, after)
                | "end" => some (.wordEnd, after)
                | "start-half" => some (.wordStartHalf, after)
                | "end-half" => some (.wordEndHalf, after)
                | _ => none
            | _ => none
          else
            some (.wordEdge, text)
  | _ => some (.wordEdge, text)

/-- Reads what follows a backslash. -/
def readEscape (ignoring : Bool) : Text → Option (Escape × Text)
  | [] => none
  | c :: rest =>
      let plain (char : Char) : Option (Escape × Text) :=
        some (.literal ⟨char, false⟩, rest)
      let letter (kind : LetterClass) (negated : Bool) : Option (Escape × Text) :=
        some (.oneOf (.letter kind negated), rest)
      let place (place : Place) : Option (Escape × Text) := some (.place place, rest)
      match c with
      | 'x' => (readHex ignoring 2 rest).map fun read => (.literal read.1, read.2)
      | 'u' => (readHex ignoring 4 rest).map fun read => (.literal read.1, read.2)
      | 'U' => (readHex ignoring 8 rest).map fun read => (.literal read.1, read.2)
      | 'p' => (readProperty ignoring false rest).map fun read => (.oneOf read.1, read.2)
      | 'P' => (readProperty ignoring true rest).map fun read => (.oneOf read.1, read.2)
      | 'd' => letter .digit false
      | 'D' => letter .digit true
      | 's' => letter .blank false
      | 'S' => letter .blank true
      | 'w' => letter .word false
      | 'W' => letter .word true
      | 'a' => plain '\x07'
      | 'f' => plain '\x0c'
      | 't' => plain '\t'
      | 'n' => plain '\n'
      | 'r' => plain '\r'
      | 'v' => plain '\x0b'
      | 'A' => place .textStart
      | 'z' => place .textEnd
      | 'b' => (readEdge ignoring rest).map fun read => (.place read.1, read.2)
      | 'B' => place .notWordEdge
      | '<' => place .wordStart
      | '>' => place .wordEnd
      | _ => if isEscapable c then plain c else none

/-! ## Brackets -/

/-- What waits for the end of a bracket: an enclosing bracket with its items so
far, or an operator with its left operand. -/
inductive SetFrame
  | opened (outer : List ClassSet) (negated : Bool)
  | operator (operator : SetOperator) (left : ClassSet)

/-- Gives a finished operand to the operator that waits for it. -/
def closeOperator (operand : ClassSet) : List SetFrame → ClassSet × List SetFrame
  | .operator operator left :: stack => (.binary operator left operand, stack)
  | stack => (operand, stack)

/-- The ASCII class of a name. -/
def asciiClass? (name : Text) : Option AsciiClass :=
  match String.ofList name with
  | "alnum" => some .alnum
  | "alpha" => some .alpha
  | "ascii" => some .ascii
  | "blank" => some .blank
  | "cntrl" => some .cntrl
  | "digit" => some .digit
  | "graph" => some .graph
  | "lower" => some .lower
  | "print" => some .print
  | "punct" => some .punct
  | "space" => some .space
  | "upper" => some .upper
  | "word" => some .word
  | "xdigit" => some .xdigit
  | _ => none

/-- Reads a named ASCII class behind its opening bracket. -/
def readAsciiClass (text : Text) : Option (ClassSet × Text) :=
  match text with
  | ':' :: rest =>
      let (negated, named) := match rest with
        | '^' :: after => (true, after)
        | _ => (false, rest)
      let name := named.takeWhile (· != ':')
      match named.dropWhile (· != ':') with
      | ':' :: ']' :: after => (asciiClass? name).map fun kind => (.ascii kind negated, after)
      | _ => none
  | _ => none

/-- Reads the literal minus signs at the start of a bracket. -/
def readMinuses (ignoring : Bool) : Nat → Text → List ClassSet × Text
  | 0, text => ([], text)
  | fuel + 1, text =>
      match text with
      | '-' :: rest =>
          let (items, after) := readMinuses ignoring fuel (skip ignoring rest)
          (.literal ⟨'-', false⟩ :: items, after)
      | _ => ([], text)

/-- Reads the start of a bracket behind its opening character: the negation, and
literal minus signs or one literal closing bracket. -/
def openBracket (ignoring : Bool) (text : Text) : Option (Bool × List ClassSet × Text) :=
  let start := skip ignoring text
  let (negated, body) := match start with
    | '^' :: rest => (true, skip ignoring rest)
    | _ => (false, start)
  let (minuses, after) := readMinuses ignoring body.length body
  match minuses, after with
  | _, [] => none
  | [], ']' :: rest =>
      match skip ignoring rest with
      | [] => none
      | further => some (negated, [.literal ⟨']', false⟩], further)
  | _, _ => some (negated, minuses.reverse, after)

/-- Reads one member of a bracket: a character or an escape. -/
def readMember (ignoring : Bool) : Text → Option (Escape × Text)
  | [] => none
  | '\\' :: rest => readEscape ignoring rest
  | c :: rest => some (.literal ⟨c, false⟩, rest)

/-- Reads one item of a bracket: a range, a character or a class. -/
def readItem (ignoring : Bool) (text : Text) : Option (ClassSet × Text) :=
  match readMember ignoring text with
  | none => none
  | some (member, after) =>
      let alone : Option (ClassSet × Text) :=
        match member with
        | .literal literal => some (.literal literal, after)
        | .oneOf members => some (members, after)
        | .place _ => none
      match skip ignoring after with
      | [] => none
      | '-' :: rest =>
          let next := peekPastBlanks ignoring rest
          if next = some ']' ∨ next = some '-' then
            alone
          else
            match skip ignoring rest with
            | [] => none
            | more =>
                match member, readMember ignoring more with
                | .literal first, some (.literal last, further) =>
                    if first.char ≤ last.char then
                      some (.range first last, further)
                    else
                      none
                | _, _ => none
      | _ => alone

/-- Reads a bracketed class.  The items read so far are kept backwards. -/
def readBracket (ignoring : Bool) :
    Nat → List SetFrame → List ClassSet → Text → Option (ClassSet × Text)
  | 0, _, _, _ => none
  | fuel + 1, stack, items, text =>
      let combine (operator : SetOperator) (rest : Text) : Option (ClassSet × Text) :=
        let (operand, below) := closeOperator (ClassSet.ofItems items.reverse) stack
        readBracket ignoring fuel (.operator operator operand :: below) [] rest
      match skip ignoring text with
      | [] => none
      | '[' :: rest =>
          let nested : Option (ClassSet × Text) :=
            match openBracket ignoring rest with
            | some (negated, start, after) =>
                readBracket ignoring fuel (.opened items negated :: stack) start after
            | none => none
          if stack.isEmpty then
            nested
          else
            match readAsciiClass rest with
            | some (named, after) => readBracket ignoring fuel stack (named :: items) after
            | none => nested
      | ']' :: rest =>
          match closeOperator (ClassSet.ofItems items.reverse) stack with
          | (body, .opened outer negated :: below) =>
              let closed := ClassSet.bracketed negated body
              if below.isEmpty then
                some (closed, rest)
              else
                readBracket ignoring fuel below (closed :: outer) rest
          | _ => none
      | '&' :: '&' :: rest => combine .inter rest
      | '-' :: '-' :: rest => combine .diff rest
      | '~' :: '~' :: rest => combine .symmDiff rest
      | more =>
          match readItem ignoring more with
          | some (item, after) => readBracket ignoring fuel stack (item :: items) after
          | none => none

/-! ## Repetitions -/

/-- Reads a counted repetition behind its opening brace. -/
def readRepetition (ignoring : Bool) (text : Text) : Option (Nat × Option Nat × Text) :=
  let close (least : Nat) (most : Option Nat) (rest : Text) :
      Option (Nat × Option Nat × Text) :=
    match rest with
    | '\x7d' :: after =>
        let further := match skip ignoring after with
          | '?' :: lazily => lazily
          | _ => after
        if most.all fun most => least ≤ most then some (least, most, further) else none
    | _ => none
  match readCount ignoring (skip ignoring text) with
  | some (some least, ',' :: rest) =>
      match skip ignoring rest with
      | '\x7d' :: after => close least none ('\x7d' :: after)
      | more =>
          match readCount ignoring more with
          | some (some most, after) => close least (some most) after
          | _ => none
  | some (some least, rest) => close least (some least) rest
  | _ => none

/-! ## Groups -/

/-- The flag of a letter. -/
def flag? : Char → Option Flag
  | 'i' => some .caseInsensitive
  | 'm' => some .multiLine
  | 's' => some .dotMatchesLineFeed
  | 'U' => some .swapGreed
  | 'u' => some .unicode
  | 'R' => some .carriageReturn
  | 'x' => some .ignoreBlanks
  | _ => none

/-- Reads flags up to a colon or a closing parenthesis.  No flag and no minus
sign may be repeated, and a flag has to follow the minus sign. -/
def readFlags (seen : Settings) (negative dangling : Bool) :
    Text → Option (Settings × Char × Text)
  | [] => none
  | c :: rest =>
      if c = ':' ∨ c = ')' then
        if dangling then none else some (seen, c, rest)
      else if c = '-' then
        if negative then none else readFlags seen true true rest
      else
        match flag? c with
        | none => none
        | some flag =>
            if seen.any fun item => item.1 = flag then
              none
            else
              readFlags (seen ++ [(flag, !negative)]) negative false rest

/-- Whether a character can be part of the name of a group. -/
def isNameChar (first : Bool) (c : Char) : Bool :=
  c == '_' || Unicode.alphabetic.hasChar c ||
    (!first && (c == '.' || c == '[' || c == ']' || Unicode.numeric.hasChar c))

/-- Reads the name of a group up to its closing angle bracket. -/
def readGroupName (name : Text) : Text → Option (Text × Text)
  | [] => none
  | c :: rest =>
      if c = '>' then
        if name.isEmpty then none else some (name, rest)
      else if isNameChar name.isEmpty c then
        readGroupName (name ++ [c]) rest
      else
        none

/-- What an opening parenthesis turns out to start. -/
inductive Opening
  | settings (settings : Settings)
  | group (captures : Bool) (settings : Settings)
  | named (name : Text)

/-- Reads what follows an opening parenthesis. -/
def readOpening (ignoring : Bool) (text : Text) : Option (Opening × Text) :=
  match skip ignoring text with
  | '?' :: '=' :: _ => none
  | '?' :: '!' :: _ => none
  | '?' :: '<' :: '=' :: _ => none
  | '?' :: '<' :: '!' :: _ => none
  | '?' :: 'P' :: '<' :: rest =>
      (readGroupName [] rest).map fun read => (.named read.1, read.2)
  | '?' :: '<' :: rest =>
      (readGroupName [] rest).map fun read => (.named read.1, read.2)
  | '?' :: rest =>
      match readFlags [] false false rest with
      | some (settings, ')', after) =>
          if settings.isEmpty then none else some (.settings settings, after)
      | some (settings, _, after) => some (.group false settings, after)
      | none => none
  | more => some (.group true [], more)

/-! ## Whole patterns -/

/-- A group that waits for its end, with what was read around it. -/
structure GroupFrame where
  branches : List Node
  items : List Node
  captures : Bool
  settings : Settings
  ignoring : Bool

/-- What has been read of a pattern.  Branches and items are kept backwards. -/
structure ReaderState where
  stack : List GroupFrame := []
  branches : List Node := []
  items : List Node := []
  ignoring : Bool := false
  names : List Text := []

namespace ReaderState

/-- The tree of the innermost group. -/
def body (state : ReaderState) : Node :=
  Node.ofBranches (Node.ofItems state.items.reverse :: state.branches).reverse

/-- Adds an item to the innermost group. -/
def push (state : ReaderState) (item : Node) : ReaderState :=
  { state with items := item :: state.items }

/-- Opens a group. -/
def openGroup (state : ReaderState) (captures : Bool) (settings : Settings) :
    ReaderState :=
  { state with
    stack := ⟨state.branches, state.items, captures, settings, state.ignoring⟩ :: state.stack
    branches := []
    items := []
    ignoring := (settings.state? .ignoreBlanks).getD state.ignoring }

/-- Closes the innermost group. -/
def closeGroup? (state : ReaderState) : Option ReaderState :=
  match state.stack with
  | [] => none
  | frame :: stack =>
      some { state with
        stack
        branches := frame.branches
        items := .group frame.captures frame.settings state.body :: frame.items
        ignoring := frame.ignoring }

/-- Repeats the last item. -/
def repeatLast? (state : ReaderState) (least : Nat) (most : Option Nat) :
    Option ReaderState :=
  match state.items with
  | [] => none
  | item :: items =>
      if item.isRepeatable then
        some { state with items := .repeated item least most :: items }
      else
        none

end ReaderState

/-- A pattern that was read, and whether its end cut a comment short. -/
structure Reading where
  tree : Node
  endsInComment : Bool

/-- The rest behind a question mark, which asks for a lazy repetition. -/
def dropLazy : Text → Text
  | '?' :: rest => rest
  | text => text

/-- Reads the next part of a pattern, which is not at its end. -/
def readPart (state : ReaderState) : Text → Option (ReaderState × Text)
  | [] => none
  | '(' :: rest =>
      match readOpening state.ignoring rest with
      | some (.settings settings, after) =>
          some ({ state.push (.settings settings) with
            ignoring := (settings.state? .ignoreBlanks).getD state.ignoring }, after)
      | some (.group captures settings, after) =>
          some (state.openGroup captures settings, after)
      | some (.named name, after) =>
          if state.names.contains name then
            none
          else
            some ({ state.openGroup true [] with names := name :: state.names }, after)
      | none => none
  | ')' :: rest => state.closeGroup?.map fun closed => (closed, rest)
  | '|' :: rest =>
      some ({ state with
        branches := Node.ofItems state.items.reverse :: state.branches
        items := [] }, rest)
  | '[' :: rest =>
      (readBracket state.ignoring (2 * rest.length + 2) [] [] ('[' :: rest)).map fun read =>
        (state.push (.oneOf read.1), read.2)
  | '?' :: rest => (state.repeatLast? 0 (some 1)).map fun next => (next, dropLazy rest)
  | '*' :: rest => (state.repeatLast? 0 none).map fun next => (next, dropLazy rest)
  | '+' :: rest => (state.repeatLast? 1 none).map fun next => (next, dropLazy rest)
  | '\x7b' :: rest =>
      match readRepetition state.ignoring rest with
      | some (least, most, after) =>
          (state.repeatLast? least most).map fun next => (next, after)
      | none => none
  | '\\' :: rest =>
      match readEscape state.ignoring rest with
      | some (.literal literal, after) => some (state.push (.literal literal), after)
      | some (.oneOf members, after) => some (state.push (.oneOf members), after)
      | some (.place place, after) => some (state.push (.place place), after)
      | none => none
  | '.' :: rest => some (state.push .anyChar, rest)
  | '^' :: rest => some (state.push (.place .lineStart), rest)
  | '$' :: rest => some (state.push (.place .lineEnd), rest)
  | c :: rest => some (state.push (.literal ⟨c, false⟩), rest)

/-- Reads parts until the pattern ends with all groups closed. -/
def readParts : Nat → ReaderState → Text → Option Reading
  | 0, _, _ => none
  | fuel + 1, state, text =>
      let (rest, cut) := if state.ignoring then skipLayout false text else (text, false)
      match rest with
      | [] => if state.stack.isEmpty then some ⟨state.body, cut⟩ else none
      | _ =>
          match readPart state rest with
          | some (next, after) => readParts fuel next after
          | none => none

/-- Reads a pattern. -/
def read? (text : Text) : Option Reading :=
  readParts (text.length + 1) {} text

end Pattern
end PageCheck
