import PageCheck.Text.Basic
import PageCheck.Unicode.CodePoints
import PageCheck.Url.Error

/-!
# Numeric addresses

An address of the fourth version has up to four numbers, each in base 8, 10 or
16, of which the last one fills all the bytes that are left.  An address of the
sixth version has eight numbers of sixteen bits in base 16; two colons stand for
a run of zeros, and the last two numbers can be written as four bytes.
-/

namespace PageCheck
namespace Url

/-! ## Version 4 -/

/-- The value of digits that all belong to a base. -/
def digitsValue? (base : Nat) (digits : Text) : Option Nat :=
  digits.foldlM (fun value c =>
    match Unicode.hexValue? c with
    | some digit => if digit < base then some (value * base + digit) else none
    | none => none) 0

/-- The value of one number of an address, if the text is a number at all. -/
def ipv4Number? (text : Text) : Option Nat :=
  match text with
  | [] => none
  | '0' :: 'x' :: digits => digitsValue? 16 digits
  | '0' :: 'X' :: digits => digitsValue? 16 digits
  | '0' :: c :: digits => digitsValue? 8 (c :: digits)
  | digits => digitsValue? 10 digits

/-- Whether the last part of a host is a number, so that the host has to be an
address. -/
def endsInNumber (host : Text) : Bool :=
  let parts := (Text.splitAll '.' host).reverse
  let judge (part : Text) : Bool :=
    (!part.isEmpty && part.all Char.isDigit) || (ipv4Number? part).isSome
  match parts with
  | [] :: part :: _ => judge part
  | [] :: [] => false
  | part :: _ => judge part
  | [] => false

/-- Reads an address of the fourth version as one number. -/
def readIpv4 (host : Text) : Except Error Nat :=
  let split := Text.splitAll '.' host
  let parts := if split.getLast? = some [] then split.dropLast else split
  if 4 < parts.length then
    .error .invalidIpv4
  else
    match parts.mapM ipv4Number? with
    | none => .error .invalidIpv4
    | some numbers =>
        let front := numbers.dropLast
        let last := numbers.getLastD 0
        if front.any (255 < ·) || Nat.pow 2 (8 * (4 - front.length)) ≤ last then
          .error .invalidIpv4
        else
          .ok (front.zipIdx.foldl (fun sum part => sum + part.1 * Nat.pow 256 (3 - part.2)) last)

/-- The four bytes of an address with points between them. -/
def showIpv4 (address : Nat) : Text :=
  Text.joinWith ['.'] <| [3, 2, 1, 0].map fun place =>
    Text.ofNat (address / Nat.pow 256 place % 256)

/-! ## Version 6 -/

/-- Reads the number of one byte: decimal, at most 255, without leading zeros. -/
def readByte? (digits : Text) : Option Nat :=
  match digits with
  | [] => none
  | '0' :: _ :: _ => none
  | _ =>
      if digits.all Char.isDigit && digits.length ≤ 3 then
        (digitsValue? 10 digits).bind fun value => if value < 256 then some value else none
      else
        none

/-- Reads four bytes with points between them as two numbers. -/
def readBytes? (text : Text) : Option (List Nat) :=
  match (Text.splitAll '.' text).mapM readByte? with
  | some [a, b, c, d] => some [a * 256 + b, c * 256 + d]
  | _ => none

/-- Splits off up to four hexadecimal digits. -/
def takeHexDigits : Nat → Text → Text × Text
  | 0, text => ([], text)
  | _ + 1, [] => ([], [])
  | count + 1, c :: rest =>
      if (Unicode.hexValue? c).isSome then
        let (digits, after) := takeHexDigits count rest
        (c :: digits, after)
      else
        ([], c :: rest)

/-- Reads the numbers of an address from left to right, with the place of the run
of zeros if one has been met. -/
def readPieces : Nat → List Nat → Option Nat → Text → Option (List Nat × Option Nat)
  | 0, _, _, _ => none
  | fuel + 1, pieces, zeros, text =>
      match text with
      | [] => some (pieces, zeros)
      | c :: rest =>
          if pieces.length = 8 then
            none
          else if c = ':' then
            if zeros.isSome then
              none
            else
              readPieces fuel (pieces ++ [0]) (some (pieces.length + 1)) rest
          else
            let (digits, after) := takeHexDigits 4 (c :: rest)
            let value := (digitsValue? 16 digits).getD 0
            match after with
            | [] => some (pieces ++ [value], zeros)
            | '.' :: _ =>
                if digits.isEmpty || 6 < pieces.length then
                  none
                else
                  (readBytes? (c :: rest)).map fun last => (pieces ++ last, zeros)
            | ':' :: more =>
                if more.isEmpty then
                  none
                else
                  readPieces fuel (pieces ++ [value]) zeros more
            | _ => none

/-- Reads an address of the sixth version as eight numbers. -/
def readIpv6 (text : Text) : Except Error (List Nat) :=
  let read := match text with
    | ':' :: ':' :: rest => readPieces (rest.length + 1) [0] (some 1) rest
    | ':' :: _ => none
    | _ :: _ :: _ => readPieces (text.length + 1) [] none text
    | _ => none
  match read with
  | none => .error .invalidIpv6
  | some (pieces, some zeros) =>
      .ok (pieces.take zeros ++ List.replicate (8 - pieces.length) 0 ++ pieces.drop zeros)
  | some (pieces, none) =>
      if pieces.length = 8 then .ok pieces else .error .invalidIpv6

/-- The length of the run of zeros at the start of a list. -/
def zeroRun (pieces : List Nat) : Nat :=
  (pieces.takeWhile (· == 0)).length

/-- The first of the longest runs of at least two zeros: its place and length. -/
def longestZeroRun (pieces : List Nat) : Option (Nat × Nat) :=
  let runs := (List.range pieces.length).map fun place => (place, zeroRun (pieces.drop place))
  (runs.filter fun run => 2 ≤ run.2).foldl (fun best run =>
    match best with
    | some found => if found.2 < run.2 then some run else some found
    | none => some run) none

/-- A number with hexadecimal digits in lower case. -/
def showHex (value : Nat) : Text :=
  Nat.toDigits 16 value

/-- The written form of an address of the sixth version. -/
def showIpv6 (pieces : List Nat) : Text :=
  let join (part : List Nat) : Text := Text.joinWith [':'] (part.map showHex)
  match longestZeroRun pieces with
  | some (place, length) =>
      join (pieces.take place) ++ [':', ':'] ++ join (pieces.drop (place + length))
  | none => join pieces

end Url
end PageCheck
