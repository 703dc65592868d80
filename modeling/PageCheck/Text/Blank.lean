import PageCheck.Text.Basic

/-!
# Blank characters

The blank characters are those with the Unicode property `White_Space`.
They separate words, and trimming removes them from the ends of a text.
-/

namespace PageCheck
namespace Text

/-- Whether a character has the Unicode property `White_Space`. -/
def isBlank (c : Char) : Bool :=
  let code := c.toNat
  (9 ≤ code && code ≤ 13) || code == 0x20 || code == 0x85 || code == 0xA0 ||
    code == 0x1680 || (0x2000 ≤ code && code ≤ 0x200A) || code == 0x2028 ||
    code == 0x2029 || code == 0x202F || code == 0x205F || code == 0x3000

/-- A text without its leading blanks. -/
def trimStart (text : Text) : Text :=
  text.dropWhile isBlank

/-- A text without its trailing blanks. -/
def trimEnd (text : Text) : Text :=
  (text.reverse.dropWhile isBlank).reverse

/-- A text without the blanks at its two ends. -/
def trim (text : Text) : Text :=
  trimEnd (trimStart text)

/-- The leading characters of a text that are not blank. -/
def firstWord (text : Text) : Text :=
  text.takeWhile fun c => !isBlank c

/-- What follows the first word of a text. -/
def afterFirstWord (text : Text) : Text :=
  text.dropWhile fun c => !isBlank c

@[simp] theorem firstWord_append_afterFirstWord (text : Text) :
    firstWord text ++ afterFirstWord text = text :=
  List.takeWhile_append_dropWhile

/-- Trimming the start never lengthens a text. -/
theorem length_trimStart_le (text : Text) :
    (trimStart text).length ≤ text.length :=
  (List.dropWhile_suffix isBlank).length_le

/-- A text without leading blanks is left alone by trimming its start. -/
theorem trimStart_of_head_not_blank {c : Char} {rest : Text}
    (visible : isBlank c = false) :
    trimStart (c :: rest) = c :: rest := by
  simp [trimStart, visible]

@[simp] theorem trimStart_nil : trimStart [] = [] := rfl

@[simp] theorem trim_nil : trim [] = [] := rfl

end Text
end PageCheck
