import ChordSheet.Terminal
import ChordSheet.Text.Pieces

/-!
# Messages

What the program says is made of pieces of text, some in a color. A message is the same whether
colors are shown or not; `Message.render` writes it, with the control sequences of a terminal if
they are. A sequence that switches all styles off inside a piece is followed by the sequence of
the piece, so that the rest of the piece keeps its color.

A *report* is a message about the command line. It switches styles on one by one and leaves the
text of its pieces alone; without colors it is cleaned of all control sequences, those in the
text of its pieces too.

* `render_append` : messages are written one after the other.
* `render_plain` : text without style is written as it is.
* `renderReport_plain` : so is a report without style and control characters.
-/

set_option autoImplicit false

namespace ChordSheet

/-- A color of the terminal. -/
inductive Color where
  | red | green | yellow | cyan | brightBlack | brightRed | brightGreen | brightYellow
  | brightMagenta | brightCyan
  deriving DecidableEq, Repr

namespace Color

/-- The number of a color in a control sequence. -/
def code : Color → String
  | red => "31"
  | green => "32"
  | yellow => "33"
  | cyan => "36"
  | brightBlack => "90"
  | brightRed => "91"
  | brightGreen => "92"
  | brightYellow => "93"
  | brightMagenta => "95"
  | brightCyan => "96"

end Color

/-- How a piece of text is shown. -/
structure Style where
  /-- In bold type. -/
  bold : Bool
  /-- In a color. -/
  color : Option Color
  deriving DecidableEq, Repr

namespace Style

/-- Neither bold nor in a color. -/
def plain : Style := ⟨false, none⟩

/-- The numbers of a style in a control sequence. -/
def codes (s : Style) : List String :=
  (if s.bold then ["1"] else []) ++ (s.color.map Color.code).toList

/-- The sequence that switches a style on. -/
def opening (s : Style) : List Char :=
  '\x1b' :: '[' :: ((";".intercalate s.codes).toList ++ ['m'])

/-- The sequence that switches all styles off. -/
def closing : List Char := ['\x1b', '[', '0', 'm']

/-- The text with the style switched on again after each sequence that switches it off. -/
def reopen (s : Style) : List Char → List Char
  | '\x1b' :: '[' :: '0' :: 'm' :: cs => closing ++ s.opening ++ s.reopen cs
  | c :: cs => c :: s.reopen cs
  | [] => []

/-- The text shown in a style. -/
def paint (s : Style) (text : List Char) : List Char :=
  if s = plain then text else s.opening ++ s.reopen text ++ closing

/-- The sequences that switch a style on one by one. -/
def switches (s : Style) : List Char :=
  s.codes.flatMap fun code => '\x1b' :: '[' :: (code.toList ++ ['m'])

/-- The text between the sequences that switch a style on and all styles off. -/
def enclose (s : Style) (text : List Char) : List Char :=
  if s = plain then text else s.switches ++ text ++ closing

end Style

/-- A piece of text in one style. -/
structure Piece where
  /-- How it is shown. -/
  style : Style
  /-- What is shown. -/
  text : String
  deriving DecidableEq, Repr

/-- Pieces of text in order. -/
abbrev Message := List Piece

namespace Message

/-- Text without style. -/
def plain (text : String) : Message := [⟨.plain, text⟩]

/-- Text in a color. -/
def colored (color : Color) (text : String) : Message := [⟨⟨false, some color⟩, text⟩]

/-- Text in bold type. -/
def bold (text : String) : Message := [⟨⟨true, none⟩, text⟩]

/-- Text in bold type and a color. -/
def boldColored (color : Color) (text : String) : Message := [⟨⟨true, some color⟩, text⟩]

/-- The text of a message without any style. -/
def text (m : Message) : String := String.join (m.map Piece.text)

/-- The characters of a message, with control sequences if colors are shown. -/
def characters (colors : Bool) (m : Message) : List Char :=
  m.flatMap fun p => if colors then p.style.paint p.text.toList else p.text.toList

/-- The text of a message, with control sequences if colors are shown. -/
def render (colors : Bool) (m : Message) : String := String.ofList (characters colors m)

/-- The text of a message as a report, with control sequences only if colors are shown. -/
def renderReport (colors : Bool) (m : Message) : String :=
  let marked := m.flatMap fun p => p.style.enclose p.text.toList
  String.ofList (if colors then marked else Terminal.visible marked)

/-- The lines that a message fills on the screen; a carriage return does not end one. -/
def screenLines (colors : Bool) (m : Message) : List String :=
  (Text.pieces '\n' (characters colors m)).map String.ofList

theorem characters_append (colors : Bool) (m n : Message) :
    characters colors (m ++ n) = characters colors m ++ characters colors n := by
  simp [characters]

theorem render_append (colors : Bool) (m n : Message) :
    render colors (m ++ n) = render colors m ++ render colors n := by
  simp [render, characters_append]

theorem render_plain (colors : Bool) (text : String) : render colors (plain text) = text := by
  cases colors <;> simp [render, characters, plain, Style.paint]

theorem render_false_colored (color : Color) (text : String) :
    render false (colored color text) = text := by
  simp [render, characters, colored]

theorem renderReport_plain {text : String} (h : ∀ c ∈ text.toList, Terminal.isShown c = true)
    (colors : Bool) : renderReport colors (plain text) = text := by
  cases colors <;> simp [renderReport, plain, Style.enclose, Terminal.visible_eq_self h]

end Message

end ChordSheet
