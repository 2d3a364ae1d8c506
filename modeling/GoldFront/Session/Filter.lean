import GoldFront.Pattern.Piece
import GoldFront.Text.Alphanumeric
import GoldFront.Text.Basic

/-!
A filter decides which events are written to the log. It is a list of directives, and among those
that cover an event the one that fits it most closely gives the level. A directive is written as
`path[span{field=value}]=level`, and most of its parts may be missing. A text that cannot be read as
a directive is left out of the filter, and a line says why.
-/

namespace GoldFront

/-- How much is written to the log. -/
inductive Level where
  | off | error | warn | info | debug | trace
deriving DecidableEq, Repr

/-- A field that a directive asks for. -/
structure FieldDemand where
  name : List Char
  valued : Bool
deriving DecidableEq, Repr

/-- A level for some of the events. -/
structure Directive where
  /-- How the paths of their parts of the program start. -/
  path : Option (List Char)
  /-- The span that they happen in. -/
  span : Option (List Char)
  /-- A field that they have. -/
  field : Option FieldDemand
  level : Level
deriving DecidableEq, Repr

/-- Why a text is no directive. -/
inductive Refusal where
  | malformed
  | noLevel
  /-- The value of a field is neither a number nor a pattern that can be used. -/
  | value (obstacle : Pattern.Obstacle)
deriving DecidableEq, Repr

/-- What is written to the log. -/
abbrev Filter := List Directive

namespace Level

/-- The number that digits stand for, with or without a plus sign. -/
def number? (text : List Char) : Option Nat :=
  let digits := match text with
    | '+' :: rest => rest
    | _ => text
  if digits.isEmpty || !digits.all Char.isDigit then none
  else some (digits.foldl (fun sum digit => 10 * sum + (digit.toNat - '0'.toNat)) 0)

/-- The levels in order. -/
def ofNumber? : Nat → Option Level
  | 0 => some off
  | 1 => some error
  | 2 => some warn
  | 3 => some info
  | 4 => some debug
  | 5 => some trace
  | _ => none

/-- The level of a name, in letters of either case. -/
def ofName? (text : List Char) : Option Level :=
  match String.ofList (text.map Char.toLower) with
  | "off" => some off
  | "error" => some error
  | "warn" => some warn
  | "info" => some info
  | "debug" => some debug
  | "trace" => some trace
  | _ => none

/-- The level of a number or a name. -/
def ofText? (text : List Char) : Option Level := ((number? text).bind ofNumber?).or (ofName? text)

/-- The level after an equals sign; where nothing follows, everything is asked for. -/
def ofPart (part : List Char) : Except Refusal Level :=
  if part.isEmpty then .ok trace
  else
    match ofText? part with
    | some level => .ok level
    | none => .error .noLevel

def showsDebug : Level → Bool
  | debug => true
  | trace => true
  | _ => false

end Level

/-- What is said about the value of a field that is no pattern. -/
def Pattern.Obstacle.message : Pattern.Obstacle → String
  | .noAutomaton => "error building NFA"
  | .wordEdges =>
    "unsupported regex feature for DFAs: cannot build DFAs for regexes with Unicode word " ++
      "boundaries; switch to ASCII word boundaries, or heuristically enable Unicode word " ++
      "boundaries or use a different regex engine"

/-- What is said about a text that is no directive. -/
def Refusal.message : Refusal → String
  | malformed => "invalid filter directive"
  | noLevel =>
    "error parsing level filter: expected one of \"off\", \"error\", \"warn\", \"info\", " ++
      "\"debug\", \"trace\", or a number 0-5"
  | value obstacle => "invalid field filter: " ++ obstacle.message

namespace FieldDemand

/-- What stands against a text as the value of a field. A number is compared, even where its sign
    would be no pattern. -/
def obstacle? (value : List Char) : Option Pattern.Obstacle :=
  if Text.isNumeral value then none else Pattern.obstacle? value

/-- The demand for a field: its name, and a value after an equals sign. What follows a further
    equals sign does not count. -/
def ofText (text : List Char) : Except Refusal FieldDemand :=
  let name := text.takeWhile (· ≠ '=')
  match text.dropWhile (· ≠ '=') with
  | [] => .ok ⟨name, false⟩
  | _ :: rest =>
    match obstacle? (rest.takeWhile (· ≠ '=')) with
    | none => .ok ⟨name, true⟩
    | some obstacle => .error (.value obstacle)

end FieldDemand

namespace Directive

/-- Whether a character may start a directive that starts with a path or a level. -/
def opensPath (c : Char) : Bool := Text.isAlphanumeric c || c = '-' || c = ':' || c = '_'

/-- What stands in a text from a place on. Places are counted in bytes. -/
def piece (text : List Char) (start : Nat) : List Char := text.drop (Text.charOffset text start)

/-- What stands in a text from one place up to another. -/
def pieceUpTo (text : List Char) (start stop : Nat) : List Char :=
  piece (text.take (Text.charOffset text stop)) start

/-- The directive of a text without equals sign and brackets: a level, or a path for which
    everything is asked for. -/
def ofWord (text : List Char) : Directive :=
  match Level.ofText? text with
  | some level => ⟨none, none, none, level⟩
  | none => ⟨some text, none, none, .trace⟩

/-- The level of a directive that has been read up to a place, with what is left after it. -/
def levelAt (text : List Char) (place : Nat) : List Char → Except Refusal Level
  | [] => .ok .trace
  | '=' :: _ => Level.ofPart (piece text (place + 1))
  | _ => .error .malformed

/-- The directive with a path and a span whose field starts at a place, with what is left after the
    brace in front of it. A field is looked at as soon as it ends. -/
def ofField (text : List Char) (path span : Option (List Char)) (place : Nat) (rest : List Char) :
    Except Refusal Directive :=
  let field := rest.takeWhile fun c => c ≠ '}'
  let after := place + Text.byteSize field
  match rest.drop field.length with
  | [] => .error .malformed
  | _ :: rest =>
    if field.isEmpty then .error .malformed
    else do
      let demand ← FieldDemand.ofText (pieceUpTo text place after)
      match rest with
      | ']' :: rest =>
        let level ← levelAt text (after + 2) rest
        .ok ⟨path, span, some demand, level⟩
      | _ => .error .malformed

/-- The directive whose opening bracket stands before a place, with what is left after it. -/
def ofBracket (text : List Char) (path : Option (List Char)) (place : Nat) (rest : List Char) :
    Except Refusal Directive :=
  let span := rest.takeWhile fun c => c ≠ ']' && c ≠ '{'
  let after := place + Text.byteSize span
  match rest.drop span.length with
  | [] => .error .malformed
  | ']' :: rest => do
    let level ← levelAt text (after + 1) rest
    .ok ⟨path, some (pieceUpTo text place after), none, level⟩
  | _ :: rest =>
    let span := if span.isEmpty then none else some (pieceUpTo text place after)
    ofField text path span (after + 1) rest

/-- The directive that a text stands for. Its parts are found where they stand without the blanks
    around it, and are cut out of the text at these places with the blanks. -/
def ofText (text : List Char) : Except Refusal Directive :=
  let body := Text.trim text
  let name := body.takeWhile fun c => c ≠ '=' && c ≠ '['
  let after := Text.byteSize name
  let path := pieceUpTo text 0 after
  match name, body.drop name.length with
  | [], '[' :: rest => ofBracket text none 1 rest
  | [], _ => .error .malformed
  | first :: _, rest =>
    if !opensPath first then .error .malformed
    else
      match rest with
      | [] => .ok (ofWord text)
      | '[' :: rest => ofBracket text (some path) (after + 1) rest
      | _ => do
        let level ← Level.ofPart (piece text (after + 1))
        .ok ⟨some path, none, none, level⟩

/-- How closely a directive fits events from a path by its own path: the more of it the closer. -/
def pathRank? (directive : Directive) (path : List Char) : Option Nat :=
  match directive.path with
  | none => some 0
  | some start => if start.isPrefixOf path then some (start.length + 1) else none

/-- How closely a directive fits events with the given fields by its own: any field is closer than
    none, and of two fields the one listed later. -/
def fieldRank? (directive : Directive) (fields : List (List Char)) : Option Nat :=
  match directive.field with
  | none => some 0
  | some demand => if demand.valued then none else (fields.idxOf? demand.name).map (· + 1)

/-- How closely a directive fits the events with a path and fields, if it covers them. No event here
    happens in a span, and only spans are asked for the values of their fields. -/
def rank? (directive : Directive) (path : List Char) (fields : List (List Char)) :
    Option (Nat × Nat) :=
  match directive.span, directive.pathRank? path, directive.fieldRank? fields with
  | none, some byPath, some byField => some (byPath, byField)
  | _, _, _ => none

end Directive

namespace Filter

/-- The filter that writes nothing. -/
def silent : Filter := []

def splitCommas : List Char → List (List Char)
  | [] => [[]]
  | c :: rest =>
    if c = ',' then [] :: splitCommas rest
    else
      match splitCommas rest with
      | [] => [[c]]
      | part :: parts => (c :: part) :: parts

/-- The texts in a filter that are to be read as directives. -/
def parts (text : String) : List (List Char) :=
  (splitCommas text.toList).filter fun part => !part.isEmpty

def ofText (text : String) : Filter :=
  (parts text).filterMap fun part => (Directive.ofText part).toOption

/-- What is said about one part of a filter: nothing if it is a directive. -/
def complaint (part : List Char) : String :=
  match Directive.ofText part with
  | .ok _ => ""
  | .error refusal => "ignoring `" ++ String.ofList part ++ "`: " ++ refusal.message ++ "\n"

def complaints (text : String) : String := String.join ((parts text).map complaint)

/-- Whether one rank is closer than another: the path comes first. -/
def closer (rank other : Nat × Nat) : Bool :=
  other.1 < rank.1 || (other.1 == rank.1 && other.2 < rank.2)

/-- The closest rank so far with its level, after one more directive. Of two directives that are
    equally close the later one counts. -/
def choose (path : List Char) (fields : List (List Char)) (best : Option ((Nat × Nat) × Level))
    (directive : Directive) : Option ((Nat × Nat) × Level) :=
  match directive.rank? path fields, best with
  | none, _ => best
  | some rank, none => some (rank, directive.level)
  | some rank, some (other, level) =>
    if closer other rank then some (other, level) else some (rank, directive.level)

/-- Whether events for debugging with a path and fields are written. -/
def shows (filter : Filter) (path : List Char) (fields : List (List Char)) : Bool :=
  match filter.foldl (choose path fields) none with
  | some (_, level) => level.showsDebug
  | none => false

end Filter

end GoldFront
