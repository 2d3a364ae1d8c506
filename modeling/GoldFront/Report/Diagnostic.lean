import GoldFront.Text.Basic
import GoldFront.Token.Cursor

/-!
A diagnostic tells a reader what is wrong with a source text and where, and may say how to mend it.
A renderer is told what the report about it is to say (`Sheet`). What it draws is its own affair:
rows of pieces of text, some of them in a colour.
-/

namespace GoldFront

namespace Report

inductive Hue where
  | red | yellow | cyan
  | frame
  /-- The margin of lines without a number. -/
  | margin
  /-- Source text outside of the label. -/
  | unmarked
  /-- The heading of a note. -/
  | note
deriving DecidableEq, Repr

/-- A piece of text, in a colour or in none. -/
structure Piece where
  hue : Option Hue
  text : List Char
deriving DecidableEq, Repr

/-- A piece without its colour. -/
def Piece.undyed (piece : Piece) : Piece := ⟨none, piece.text⟩

/-- A line of a report. -/
abbrev Row := List Piece

/-- What a report says: a title, a message about a range of the source, and a note. -/
structure Sheet where
  file : List Char
  /-- The character that the report is about, by its offset. -/
  place : Nat
  title : List Char
  range : CharRange
  message : List Char
  /-- The colour of the message and its range. -/
  hue : Hue
  note : Option (List Char)
deriving DecidableEq, Repr

/-- What reports are drawn with. -/
structure Renderer where
  /-- Text in a colour, as it is written. -/
  dye : Hue → List Char → List Char
  /-- The lines of a source. -/
  lines : List Char → List (List Char)
  /-- The columns that a character takes. -/
  width : Char → Nat
  /-- What is drawn, with colours or without, of a sheet about a source. -/
  rows : Bool → Sheet → List Char → List Row

namespace Renderer

def ink (renderer : Renderer) (piece : Piece) : List Char :=
  match piece.hue with
  | some hue => renderer.dye hue piece.text
  | none => piece.text

/-- Rows as they are written, each with its end. -/
def write (renderer : Renderer) (rows : List Row) : List Char :=
  rows.flatMap fun row => row.flatMap renderer.ink ++ ['\n']

def draw (renderer : Renderer) (color : Bool) (sheet : Sheet) (source : List Char) : List Char :=
  renderer.write (renderer.rows color sheet source)

end Renderer

end Report

inductive Diagnostic.Category where
  | illegalCharacter
  | unterminatedString
deriving DecidableEq, Repr

/-- What is wrong, where, and what to do about it. -/
structure Diagnostic where
  category : Diagnostic.Category
  span : Span
  message : String
  help : Option String
deriving DecidableEq, Repr

namespace Diagnostic

open Report (Hue Renderer Sheet)

def Category.name : Category → String
  | illegalCharacter => "IllegalCharacter"
  | unterminatedString => "UnterminatedString"

/-- The category that has a name. -/
def Category.ofName? (name : String) : Option Category :=
  [illegalCharacter, unterminatedString].find? fun category => category.name == name

/-- The colour that a category is marked with. -/
def Category.hue : Category → Hue
  | illegalCharacter => .red
  | unterminatedString => .yellow

/-- A character that starts no token. -/
def illegalCharacter (character : Char) (span : Span) : Diagnostic :=
  ⟨.illegalCharacter, span, "Unexpected character: '" ++ character.toString ++ "'", none⟩

/-- A string without a closing quote. -/
def unterminatedString (span : Span) : Diagnostic :=
  ⟨.unterminatedString, span, "Unterminated string",
    some "String literals must be closed with '\"' before the end of input."⟩

/-- The name of a source that no file holds. -/
def unnamed : String := "<repl>"

/-- What the report about a diagnostic says. The words that it starts its title and its help text
    with are in colours whether or not the reader has asked for them. -/
def sheet (diagnostic : Diagnostic) (renderer : Renderer) (source : List Char)
    (file : Option String) : Sheet where
  file := (file.getD unnamed).toList
  place := (diagnostic.span.charRange source).start
  title := renderer.dye diagnostic.category.hue "Lexical Error".toList ++
    ':' :: ' ' :: diagnostic.message.toList
  range := diagnostic.span.charRange source
  message := diagnostic.message.toList
  hue := diagnostic.category.hue
  note := diagnostic.help.map fun help =>
    renderer.dye .cyan "help".toList ++ ':' :: ' ' :: help.toList

/-- The report about a diagnostic of a source, from a named file or none, with colours or without. -/
def renderBy (diagnostic : Diagnostic) (renderer : Renderer) (source : String)
    (file : Option String) (color : Bool) : String :=
  String.ofList
    (renderer.draw color (diagnostic.sheet renderer source.toList file) source.toList)

/-- What is said where a label would end before it starts. -/
def reversed : String := "Label start is after its end"

/-- The report about a diagnostic whose label does not end before it starts. -/
def renderBy? (diagnostic : Diagnostic) (renderer : Renderer) (source : String)
    (file : Option String) (color : Bool) : Except String String :=
  let range := diagnostic.span.charRange source.toList
  if range.stop < range.start then .error reversed
  else .ok (diagnostic.renderBy renderer source file color)

end Diagnostic

/-- What a reader is told about a fault. -/
def Fault.diagnostic (fault : Fault) : Diagnostic :=
  match fault.cause with
  | .illegalCharacter character => .illegalCharacter character fault.span
  | .unterminatedString => .unterminatedString fault.span

end GoldFront
