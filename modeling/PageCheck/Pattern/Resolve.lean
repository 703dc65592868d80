import PageCheck.Pattern.Expr
import PageCheck.Pattern.Syntax
import PageCheck.Unicode.CaseFold

/-!
# Resolving flags, names and classes

The tree of a pattern is resolved into an expression from left to right.  A
setting of flags holds from its place to the end of the innermost group.
Without the flag for Unicode, only what stays within ASCII can be resolved.
-/

namespace PageCheck
namespace Pattern

open Unicode (CodePoints)

/-- The flags that hold at a place of a pattern. -/
structure Flags where
  caseInsensitive : Bool := false
  multiLine : Bool := false
  dotMatchesLineFeed : Bool := false
  unicode : Bool := true
  carriageReturn : Bool := false
deriving DecidableEq, Repr

/-- The flags behind a setting. -/
def Flags.apply (flags : Flags) (settings : Settings) : Flags :=
  { caseInsensitive := (settings.state? .caseInsensitive).getD flags.caseInsensitive
    multiLine := (settings.state? .multiLine).getD flags.multiLine
    dotMatchesLineFeed :=
      (settings.state? .dotMatchesLineFeed).getD flags.dotMatchesLineFeed
    unicode := (settings.state? .unicode).getD flags.unicode
    carriageReturn := (settings.state? .carriageReturn).getD flags.carriageReturn }

/-! ## Classes -/

/-- The set with the case variants that the flags ask for. -/
def Flags.fold (flags : Flags) (set : CodePoints) : CodePoints :=
  if flags.caseInsensitive then
    if flags.unicode then set.closeUnderCase else set.closeUnderAsciiCase
  else
    set

/-- The set or its complement.  Complements leave ASCII, and so they need the
flag for Unicode. -/
def Flags.negate? (flags : Flags) (negated : Bool) (set : CodePoints) :
    Option CodePoints :=
  if negated then
    if flags.unicode then some set.complement else none
  else
    some set

/-- The character of a literal inside brackets. -/
def Flags.member? (flags : Flags) (literal : Literal) : Option Nat :=
  if flags.unicode || literal.char.toNat < 0x80 then some literal.char.toNat else none

/-- The set of a class with a letter of its own. -/
def LetterClass.members (unicode : Bool) : LetterClass → CodePoints
  | .digit => if unicode then Unicode.digits else ⟨[(0x30, 0x39)]⟩
  | .blank => if unicode then Unicode.blanks else ⟨[(0x09, 0x0D), (0x20, 0x20)]⟩
  | .word =>
      if unicode then
        Unicode.wordCharacters
      else
        ⟨[(0x30, 0x39), (0x41, 0x5A), (0x5F, 0x5F), (0x61, 0x7A)]⟩

/-- The set of a named ASCII class. -/
def AsciiClass.members : AsciiClass → CodePoints
  | .alnum => ⟨[(0x30, 0x39), (0x41, 0x5A), (0x61, 0x7A)]⟩
  | .alpha => ⟨[(0x41, 0x5A), (0x61, 0x7A)]⟩
  | .ascii => ⟨[(0x00, 0x7F)]⟩
  | .blank => ⟨[(0x09, 0x09), (0x20, 0x20)]⟩
  | .cntrl => ⟨[(0x00, 0x1F), (0x7F, 0x7F)]⟩
  | .digit => ⟨[(0x30, 0x39)]⟩
  | .graph => ⟨[(0x21, 0x7E)]⟩
  | .lower => ⟨[(0x61, 0x7A)]⟩
  | .print => ⟨[(0x20, 0x7E)]⟩
  | .punct => ⟨[(0x21, 0x2F), (0x3A, 0x40), (0x5B, 0x60), (0x7B, 0x7E)]⟩
  | .space => ⟨[(0x09, 0x0D), (0x20, 0x20)]⟩
  | .upper => ⟨[(0x41, 0x5A)]⟩
  | .word => ⟨[(0x30, 0x39), (0x41, 0x5A), (0x5F, 0x5F), (0x61, 0x7A)]⟩
  | .xdigit => ⟨[(0x30, 0x39), (0x41, 0x46), (0x61, 0x66)]⟩

/-- The set that a property query stands for. -/
def PropertyQuery.members? : PropertyQuery → Option CodePoints
  | .name text => Unicode.named? text
  | .withValue text value => Unicode.withValue? text value

/-- The operation of a set operator. -/
def SetOperator.apply : SetOperator → CodePoints → CodePoints → CodePoints
  | .inter => CodePoints.inter
  | .diff => CodePoints.diff
  | .symmDiff => CodePoints.symmDiff

mutual

/-- The set that a set expression stands for, if there is one. -/
def ClassSet.resolve? (flags : Flags) : ClassSet → Option CodePoints
  | .nothing => some CodePoints.empty
  | .literal written =>
      (flags.member? written).map fun code => ⟨[(code, code)]⟩
  | .range first last =>
      match flags.member? first, flags.member? last with
      | some low, some high => some ⟨[(low, high)]⟩
      | _, _ => none
  | .letter kind negated => flags.negate? negated (kind.members flags.unicode)
  | .ascii kind negated => flags.negate? negated (flags.fold kind.members)
  | .property query negated =>
      if flags.unicode then
        match query.members? with
        | some set => flags.negate? negated (flags.fold set)
        | none => none
      else
        none
  | .bracketed negated body =>
      match ClassSet.resolve? flags body with
      | some set => flags.negate? negated (flags.fold set)
      | none => none
  | .union items => (ClassSet.resolveAll? flags items).map CodePoints.unions
  | .binary operator left right =>
      match ClassSet.resolve? flags left, ClassSet.resolve? flags right with
      | some first, some second =>
          some (operator.apply (flags.fold first) (flags.fold second))
      | _, _ => none

/-- The sets that set expressions stand for, if all of them do. -/
def ClassSet.resolveAll? (flags : Flags) : List ClassSet → Option (List CodePoints)
  | [] => some []
  | item :: rest =>
      match ClassSet.resolve? flags item, ClassSet.resolveAll? flags rest with
      | some set, some sets => some (set :: sets)
      | _, _ => none

end

/-! ## Trees -/

/-- The expression of a literal outside brackets. -/
def Flags.literal? (flags : Flags) (literal : Literal) : Option Expr :=
  let set := CodePoints.singleton literal.char
  if flags.unicode || literal.char.toNat < 0x80 then
    some (.chars (flags.fold set))
  else if literal.isByteCode then
    none
  else
    some (.chars set)

/-- The expression of the dot. -/
def Flags.anyChar? (flags : Flags) : Option Expr :=
  if flags.unicode then
    some <| .chars <|
      if flags.dotMatchesLineFeed then
        CodePoints.all
      else if flags.carriageReturn then
        CodePoints.complement ⟨[(0x0A, 0x0A), (0x0D, 0x0D)]⟩
      else
        CodePoints.complement ⟨[(0x0A, 0x0A)]⟩
  else
    none

/-- The condition of a place. -/
def Flags.look (flags : Flags) : Place → Look
  | .lineStart =>
      if flags.multiLine then
        if flags.carriageReturn then .lineStartReturn else .lineStart
      else
        .start
  | .lineEnd =>
      if flags.multiLine then
        if flags.carriageReturn then .lineEndReturn else .lineEnd
      else
        .stop
  | .textStart => .start
  | .textEnd => .stop
  | .wordEdge => .wordEdge flags.unicode
  | .notWordEdge => .notWordEdge flags.unicode
  | .wordStart => .wordStart flags.unicode
  | .wordEnd => .wordEnd flags.unicode
  | .wordStartHalf => .wordStartHalf flags.unicode
  | .wordEndHalf => .wordEndHalf flags.unicode

mutual

/-- The expression of a tree and the flags behind it, if everything in the tree
can be resolved. -/
def Node.resolve? : Node → Flags → Option (Expr × Flags)
  | .empty, flags => some (.empty, flags)
  | .settings changes, flags => some (.empty, flags.apply changes)
  | .literal written, flags => (flags.literal? written).map fun expr => (expr, flags)
  | .anyChar, flags => flags.anyChar?.map fun expr => (expr, flags)
  | .place kind, flags => some (.look (flags.look kind), flags)
  | .oneOf members, flags => (members.resolve? flags).map fun set => (.chars set, flags)
  | .repeated body least most, flags =>
      (body.resolve? flags).map fun resolved =>
        (.repeated resolved.1 least most, resolved.2)
  | .group captures changes body, flags =>
      (body.resolve? (flags.apply changes)).map fun resolved =>
        (if captures then .capture resolved.1 else resolved.1, flags)
  | .alternatives branches, flags =>
      (Node.resolveAll? branches flags).map fun resolved =>
        (Expr.alternatives resolved.1, resolved.2)
  | .sequence items, flags =>
      (Node.resolveAll? items flags).map fun resolved =>
        (Expr.sequence resolved.1, resolved.2)

/-- The expressions of trees, the flags being handed from one to the next. -/
def Node.resolveAll? : List Node → Flags → Option (List Expr × Flags)
  | [], flags => some ([], flags)
  | node :: rest, flags =>
      match node.resolve? flags with
      | some (expr, next) =>
          (Node.resolveAll? rest next).map fun resolved =>
            (expr :: resolved.1, resolved.2)
      | none => none

end
end Pattern
end PageCheck
