import GoldFront.Report.Layout
import GoldFront.Session.Filter
import GoldFront.Text.Basic
import GoldFront.Text.Quoted
import GoldFront.Token.Cursor

namespace GoldFront

/-- Something worth a line in the log. -/
inductive Event where
  | illegalCharacter (character : Char) (start : Nat)
  | unterminatedString (start : Nat)
  | tokenized (file : String) (faults : Nat)
  | registryReady (count : Nat)
deriving DecidableEq, Repr

namespace Event

/-- The part of the program that an event comes from. -/
def path : Event → String
  | illegalCharacter _ _ => "gold::lexer"
  | unterminatedString _ => "gold::lexer"
  | tokenized _ _ => "gold::runner"
  | registryReady _ => "gold::builtins"

/-- The names of what an event tells, its text among them, in alphabetical order. -/
def fields : Event → List String
  | illegalCharacter _ _ => ["character", "message", "start"]
  | unterminatedString _ => ["message", "start"]
  | tokenized _ _ => ["diagnostics", "file", "message"]
  | registryReady _ => ["count", "message"]

def message : Event → String
  | illegalCharacter character start =>
    "illegal character character=" ++ character.toString ++ " start=" ++ toString start
  | unterminatedString start => "unterminated string literal start=" ++ toString start
  | tokenized file faults =>
    "tokenized file=" ++ Text.quoted file ++ " diagnostics=" ++ toString faults
  | registryReady count => "builtin registry initialised count=" ++ toString count

end Event

def Fault.event (fault : Fault) : Event :=
  match fault.cause with
  | .illegalCharacter character => .illegalCharacter character fault.span.start
  | .unterminatedString => .unterminatedString fault.span.start

/-- What the text of a filter asks for. -/
structure Selection where
  /-- What is said about the parts that cannot be read. -/
  complaints : String
  /-- Whether an event is written to the log. -/
  shows : Event → Bool

def Selection.ofText (text : String) : Selection where
  complaints := Filter.complaints text
  shows event := (Filter.ofText text).shows event.path.toList (event.fields.map String.toList)

/-- How users are told of faults and events: what reports are drawn with, and what is written to the
    log. -/
structure Console where
  renderer : Report.Renderer
  /-- Whether an event is written to the log. -/
  logs : Event → Bool
  /-- What each line of the log starts with: the time. -/
  stamp : String

namespace Console

/-- The console without a log. -/
def unlogged (renderer : Report.Renderer) : Console := ⟨renderer, fun _ => false, ""⟩

def silent : Console := unlogged .framed

/-- What is written for an event: a line, or nothing. -/
def line (console : Console) (event : Event) : String :=
  if console.logs event then
    console.stamp ++ " DEBUG " ++ event.path ++ ": " ++ event.message ++ "\n"
  else ""

end Console

/-- What is written to the two output streams. -/
structure Output where
  stdout : String
  stderr : String
deriving DecidableEq, Repr

namespace Output

def empty : Output := ⟨"", ""⟩

/-- One output after the other. -/
instance : Append Output where
  append first second := ⟨first.stdout ++ second.stdout, first.stderr ++ second.stderr⟩

def out (text : String) : Output := ⟨text, ""⟩

def err (text : String) : Output := ⟨"", text⟩

end Output

structure Dump where
  /-- Whether the source has no fault. -/
  clean : Bool
  output : Output
deriving DecidableEq, Repr

namespace Dump

/-- The lines of the tokens. -/
def lines (tokens : List Token) : String :=
  String.join (tokens.map fun token => token.render ++ "\n")

/-- The reports about the faults, in colour. -/
def reports (renderer : Report.Renderer) (faults : List Fault) (source : String)
    (file : Option String) : String :=
  String.join (faults.map fun fault => fault.diagnostic.renderBy renderer source file true)

/-- The dump of a source from a named file or none. The log hears of the faults as they are met, and
    of the end of the source. -/
def ofSource (console : Console) (source : String) (file : Option String) : Dump :=
  let (tokens, last) := (Cursor.ofSource source).readToEnd
  let faults := last.faults.toList
  let events := String.join (faults.map fun fault => console.line fault.event)
  let ending := console.line (.tokenized (file.getD Diagnostic.unnamed) faults.length)
  ⟨faults.isEmpty,
    ⟨lines tokens, events ++ reports console.renderer faults source file ++ ending⟩⟩

end Dump

namespace Prompt

/-- What is written when a session starts. -/
def banner : String := "Gold tokenizer v0.1.0\nType 'exit' or press Ctrl+D to quit\n\n"

/-- What asks for a line. -/
def sign : String := ">> "

/-- What is said about bytes that are no text. -/
def notText : String := "stream did not contain valid UTF-8"

inductive Request where
  | broken
  /-- There is nothing on the line. -/
  | nothing
  /-- The session is to end. -/
  | farewell
  | dump (line : String)
deriving DecidableEq, Repr

/-- What a line asks for. -/
def Request.ofLine (bytes : List UInt8) : Request :=
  match Text.decode? bytes with
  | none => broken
  | some text =>
    let line := String.ofList (Text.trim text.toList)
    if line = "" then nothing
    else if line = "exit" || line = "quit" then farewell
    else dump line

/-- Whether the session goes on after a request. -/
def Request.goesOn : Request → Bool
  | broken => false
  | nothing => true
  | farewell => false
  | dump _ => true

def Request.answer (console : Console) : Request → Output
  | broken => .err ("Error reading input: " ++ notText ++ "\n")
  | nothing => .empty
  | farewell => .out "Goodbye!\n"
  | dump line => (Dump.ofSource console line none).output

/-- One turn at the prompt: what is written for a line or for the end of the input, and whether the
    session goes on. -/
def turn (console : Console) : Option (List UInt8) → Output × Bool
  | none => (.out "\n", false)
  | some line =>
    let request := Request.ofLine line
    (request.answer console, request.goesOn)

/-- What is written for the lines of an input, from the first prompt on. -/
def converse (console : Console) : List (List UInt8) → Output
  | [] => .out sign ++ (turn console none).1
  | line :: lines =>
    let (told, goesOn) := turn console (some line)
    .out sign ++ told ++ if goesOn then converse console lines else .empty

def session (console : Console) (input : List UInt8) : Output :=
  .out banner ++ converse console (Text.byteLines input)

end Prompt

end GoldFront
