/-!
Coloured text for a terminal. A line is a list of spans, and the same line can be written with its
colours or without them.
-/
namespace CloudRehearsal

/-- A colour of the palette. -/
inductive Colour where
  /-- Success. -/
  | green
  /-- Failure. -/
  | red
  /-- Warnings and steps that are left out. -/
  | yellow
  /-- Headings and progress. -/
  | blue
  deriving DecidableEq, Repr

namespace Colour

/-- The sequence that switches a terminal to a colour. -/
def code : Colour → String
  | green => "\x1b[38;2;158;206;106m"
  | red => "\x1b[38;2;247;118;142m"
  | yellow => "\x1b[38;2;224;175;104m"
  | blue => "\x1b[38;2;122;162;247m"

/-- The sequence that switches a terminal back. -/
def reset : String := "\x1b[0m"

/-- A text in a colour. -/
def paint (c : Colour) (text : String) : String := c.code ++ text ++ reset

end Colour

/-- A piece of a line, perhaps in a colour. -/
structure Span where
  colour : Option Colour
  text : String
  deriving DecidableEq, Repr

namespace Span

def plain (text : String) : Span := ⟨none, text⟩

def green (text : String) : Span := ⟨some .green, text⟩

def red (text : String) : Span := ⟨some .red, text⟩

def yellow (text : String) : Span := ⟨some .yellow, text⟩

def blue (text : String) : Span := ⟨some .blue, text⟩

/-- The text of a span, in its colour when colours are wanted. -/
def render (coloured : Bool) (s : Span) : String :=
  match coloured, s.colour with
  | true, some c => c.paint s.text
  | _, _ => s.text

end Span

/-- The text of a line. -/
def renderLine (coloured : Bool) (line : List Span) : String :=
  String.join (line.map (Span.render coloured)) ++ "\n"

end CloudRehearsal
