/-!
# Palettes

A report is text in several styles. A `Palette` gives the code which begins each
style: the codes of a terminal with colours, or nothing at all.
-/

namespace Astrogation.Report

/-- A style of text, or the end of all styles. -/
inductive Style where
  | reset
  | here
  | next
  | stop
  | goal
  | title
  | dim
  | mission
  | station
  deriving DecidableEq, Repr

/-- The code which begins each style. -/
abbrev Palette := Style → String

/-- The code with these parameters. -/
def escape (parameters : String) : String := "\x1b[" ++ parameters ++ "m"

/-- The codes of a terminal with colours. -/
def coloured : Palette
  | .reset => escape "0"
  | .here => escape "1;7;32"
  | .next => escape "1;7;33"
  | .stop => escape "1;7;36"
  | .goal => escape "1;7;35"
  | .title => escape "1;97"
  | .dim => escape "90"
  | .mission => escape "32"
  | .station => escape "38;5;208"

/-- No codes. -/
def plain : Palette := fun _ => ""

/-- A piece of a report. -/
inductive Piece where
  | text (content : String)
  | style (style : Style)

/-- A piece as a palette shows it. -/
def Piece.show (palette : Palette) : Piece → String
  | text content => content
  | style s => palette s

/-- Pieces as a palette shows them. -/
def showPieces (palette : Palette) (pieces : List Piece) : String :=
  String.join (pieces.map (·.show palette))

/-- A text in a style. -/
def styled (style : Style) (content : String) : List Piece :=
  [.style style, .text content, .style .reset]

end Astrogation.Report
