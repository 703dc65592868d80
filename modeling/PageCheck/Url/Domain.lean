import PageCheck.Unicode.CaseTable
import PageCheck.Unicode.Composition
import PageCheck.Unicode.DirectionTable
import PageCheck.Unicode.Property
import PageCheck.Url.DomainTable
import PageCheck.Url.Punycode

/-!
# Domain names

A domain name is brought into ASCII: its characters are mapped and composed, its
labels are checked, and a label with characters beyond ASCII is written in
Punycode.  Labels that are already in Punycode have to stand for a label that
passes the same checks.
-/

namespace PageCheck
namespace Url
namespace Domain

open Unicode (CodePoints NamedSet CaseRun)

/-! ## Mapping -/

/-- The characters that no domain name may contain once it is mapped. -/
def isForbidden (c : Char) : Bool :=
  c.toNat ≤ 0x20 || c.toNat == 0x7F || ("%#/:<>?@[\\]^|" : Text).contains c

/-- The refused code points. -/
def refused : CodePoints := CodePoints.ofRuns refusedRuns

/-- The dropped code points. -/
def dropped : CodePoints := CodePoints.ofRuns droppedRuns

/-- The replacements of one code point by one other. -/
def replacements : List CaseRun :=
  (replacedRuns.flatMap Unicode.tableWords).filterMap fun word =>
    match word with
    | [first, target] => some ⟨first, first, 1, target⟩
    | [first, target, more, step] => some ⟨first, first + more * step, step, target⟩
    | _ => none

/-- The replacements of one code point by several others. -/
def expansions : List (Nat × List Nat) :=
  (expandedCodes.flatMap Unicode.tableWords).filterMap fun word =>
    match word with
    | code :: codes => some (code, codes)
    | [] => none

/-- What a character of a domain name is mapped to, if it is not refused. -/
def mapChar? (c : Char) : Option (List Nat) :=
  let code := c.toNat
  if code < 0x80 then
    some [c.toLower.toNat]
  else if refused.contains code then
    none
  else if dropped.contains code then
    some []
  else
    match CaseRun.apply? replacements code with
    | some target => some [target]
    | none =>
        match expansions.find? fun row => row.1 = code with
        | some row => some row.2
        | none => some [code]

/-- The mapped and composed form of a domain name. -/
def normalize? (name : Text) : Option Text :=
  (name.mapM mapChar?).map fun mapped => (Unicode.compose mapped.flatten).map Char.ofNat

/-! ## Labels -/

/-- The sets of the directional classes. -/
def directions : List (String × CodePoints) :=
  ("L", CodePoints.ofRuns Unicode.leftToRightRuns) ::
    Unicode.directionRuns.map fun row => (row.1, CodePoints.ofRuns row.2)

/-- The directional class of a character. -/
def direction (c : Char) : String :=
  ((directions.find? fun row => row.2.hasChar c).map fun row => row.1).getD "none"

/-- The sets of the joining types. -/
def joinings : List (String × CodePoints) :=
  Unicode.joiningRuns.map fun row => (row.1, CodePoints.ofRuns row.2)

/-- Whether a character has one of some joining types. -/
def joins (types : List String) (c : Char) : Bool :=
  joinings.any fun row => types.contains row.1 && row.2.hasChar c

/-- Whether every joiner of a label stands where it may.  The part of the label
before is given backwards. -/
def joinersFit (before : Text) : Text → Bool
  | [] => true
  | c :: rest =>
      let behindVirama := before.head?.any fun d => Unicode.combiningClass d.toNat == 9
      let joinsAcross :=
        ((before.dropWhile (joins ["T"])).head?.any (joins ["L", "D"])) &&
          ((rest.dropWhile (joins ["T"])).head?.any (joins ["R", "D"]))
      let fits :=
        if c.toNat = 0x200D then behindVirama
        else if c.toNat = 0x200C then behindVirama || joinsAcross
        else true
      fits && joinersFit (c :: before) rest

/-- Whether a label beyond ASCII is in its final form and may be used. -/
def isUsable (label : Text) : Bool :=
  !label.head?.any Unicode.marks.hasChar &&
    label.all (fun c => mapChar? c == some [c.toNat] && !isForbidden c) &&
    Unicode.compose (label.map Char.toNat) == label.map Char.toNat &&
    joinersFit [] label

/-- Whether a text has ASCII characters only. -/
def isAscii (text : Text) : Bool :=
  text.all fun c => c.toNat < 0x80

/-- The start of a label in Punycode. -/
def punycodeMark : Text := "xn--"

/-- The label that a mapped label stands for, if it passes the checks. -/
def decodeLabel? (label : Text) : Option Text :=
  if punycodeMark.isPrefixOf label then
    match Punycode.decode? (label.drop 4) with
    | some codes =>
        let decoded := codes.map Char.ofNat
        if isUsable decoded && !isAscii decoded && Punycode.encode decoded == label.drop 4 then
          some decoded
        else
          none
    | none => none
  else if isAscii label || isUsable label then
    some label
  else
    none

/-- The ASCII form of a label that passed the checks. -/
def encodeLabel (label : Text) : Text :=
  if isAscii label then label else punycodeMark ++ Punycode.encode label

/-! ## Directions -/

/-- Whether a label is written from right to left in part. -/
def isRightToLeft (label : Text) : Bool :=
  label.any fun c => ["R", "AL", "AN"].contains (direction c)

/-- Whether a label of a domain name with right-to-left parts keeps one
direction. -/
def keepsDirection (label : Text) : Bool :=
  let classes := label.map direction
  let lastStrong := (classes.reverse.dropWhile (· == "NSM")).head?
  match classes with
  | [] => true
  | first :: _ =>
      if first == "L" then
        classes.all (["L", "EN", "ES", "CS", "ET", "ON", "BN", "NSM"].contains ·) &&
          lastStrong.any (["L", "EN"].contains ·)
      else if first == "R" || first == "AL" then
        classes.all (["R", "AL", "AN", "EN", "ES", "CS", "ET", "ON", "BN", "NSM"].contains ·) &&
          lastStrong.any (["R", "AL", "EN", "AN"].contains ·) &&
          !(classes.contains "EN" && classes.contains "AN")
      else
        false

/-! ## Whole names -/

/-- The ASCII form of a domain name, if the name may be used. -/
def toAscii? (name : Text) : Option Text :=
  match normalize? name with
  | none => none
  | some mapped =>
      if mapped.any isForbidden then
        none
      else
        match (Text.splitAll '.' mapped).mapM decodeLabel? with
        | none => none
        | some labels =>
            if labels.any isRightToLeft && !labels.all keepsDirection then
              none
            else
              some (Text.joinWith ['.'] (labels.map encodeLabel))

end Domain
end Url
end PageCheck
