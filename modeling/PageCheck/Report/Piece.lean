import PageCheck.Text.Basic

/-!
# Pieces of output

A report is written in pieces: texts, changes of colour and returns to the
normal look.  A plain terminal shows the texts only; a colouring one is sent
control sequences for the rest.  Every change of colour starts from the normal
look, so that no earlier change shows through.
-/

namespace PageCheck

/-- The colours of reports. -/
inductive Color
  | green
  | red
deriving DecidableEq, Repr

/-- A piece of output. -/
inductive Piece
  | text (content : Text)
  | color (color : Color) (bold : Bool)
  | reset
deriving DecidableEq, Repr

namespace Piece

/-! ## Control sequences -/

/-- The control sequence with a number. -/
def control (number : Text) : Text :=
  "\x1b[" ++ number ++ ['m']

/-- The number of the control sequence of a colour. -/
def colorNumber : Color → Text
  | .green => "32"
  | .red => "31"

/-! ## Rendering -/

/-- What a plain terminal is sent for a piece. -/
def plain : Piece → Text
  | .text content => content
  | .color _ _ => []
  | .reset => []

/-- What a colouring terminal is sent for a piece. -/
def colored : Piece → Text
  | .text content => content
  | .color wanted bold =>
      control "0" ++ (if bold then control "1" else []) ++ control (colorNumber wanted)
  | .reset => control "0"

/-- What a terminal of either kind is sent for pieces. -/
def render (hasColor : Bool) (pieces : List Piece) : Text :=
  pieces.flatMap (if hasColor then colored else plain)

@[simp] theorem render_nil (hasColor : Bool) : render hasColor [] = [] := by
  cases hasColor <;> rfl

@[simp] theorem render_append (hasColor : Bool) (front back : List Piece) :
    render hasColor (front ++ back) = render hasColor front ++ render hasColor back := by
  cases hasColor <;> simp [render]

/-- A text in a colour, with the normal look behind it. -/
def painted (color : Color) (bold : Bool) (content : Text) : List Piece :=
  [.color color bold, .text content, .reset]

end Piece
end PageCheck
