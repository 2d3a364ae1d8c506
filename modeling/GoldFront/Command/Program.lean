import GoldFront.Command.Arguments
import GoldFront.Contract.Registry
import GoldFront.Session.Prompt

/-!
The program lists the builtins, lists the keywords, dumps a file or prompts for lines, whichever its
command line asks for first in this order. What reads the command line and the filter for the log,
and what draws the reports, is handed to it (`Toolkit`).
-/

namespace GoldFront.Command

inductive Found where
  | missing
  | directory
  | unreadable (reason : String)
  | file (bytes : List UInt8)
deriving DecidableEq, Repr

/-- Files and directories with their paths; a directory is also there where a longer path goes
    through it. -/
abbrev FileTree := List (List String × Found)

namespace FileTree

/-- The names in a path, without the empty ones. -/
def names (path : String) : List String := (path.splitOn "/").filter (· ≠ "")

/-- What stands at a place in the tree. -/
def at? (tree : FileTree) (place : List String) : Found :=
  match tree.lookup place with
  | some found => found
  | none =>
    if place.isEmpty || tree.any fun row => place.isPrefixOf row.1 then .directory else .missing

/-- Walks along the names of a path, which may lead back up, as far as directories go. At the top of
    the tree the way up leads to the top again, or else to what is known of the places above it. -/
def walk (tree : FileTree) (above : Option (List String → Found)) (place : List String) :
    List String → Found
  | [] => tree.at? place
  | name :: rest =>
    match tree.at? place with
    | .directory =>
      if name = "." then walk tree above place rest
      else if name = ".." then
        match place, above with
        | [], some outside => outside rest
        | place, _ => walk tree above place.dropLast rest
      else walk tree above (place ++ [name]) rest
    | _ => .missing

/-- What every system has at its root, as far as a path is to find it: directories, a file without
    bytes, and the standard input under two names. -/
def system (input : List UInt8) : FileTree :=
  let files := [(["dev", "null"], .file []), (["dev", "stdin"], .file input),
    (["dev", "fd", "0"], .file input)]
  let names := ["bin", "etc", "home", "lib", "mnt", "opt", "proc", "root", "run", "sbin", "srv",
    "sys", "tmp", "usr", "var"]
  files ++ names.map fun name => ([name], .directory)

/-- Walks along the names of a path from a directory that is a number of levels below the root of
    the system, where only the way up is known. -/
def walkOutside (input : List UInt8) (levels : Nat) : List String → Found
  | [] => .directory
  | name :: rest =>
    if name = "." then walkOutside input levels rest
    else if name = ".." then
      if levels ≤ 1 then (system input).walk none [] rest
      else walkOutside input (levels - 1) rest
    else .missing

/-- How many levels the top of a tree is below the root of the system: it is a directory among those
    for files of short life. -/
def levels : Nat := 2

/-- The bytes that are too many for a path. -/
def tooLong : Nat := 4096

/-- What a path leads to, given the standard input: from the root of the system if it starts with a
    slash, and else from the top of the tree. Only a directory may be followed by a slash. -/
def find (tree : FileTree) (input : List UInt8) (path : String) : Found :=
  if path = "" || tooLong ≤ path.utf8ByteSize then .missing
  else
    let found :=
      if path.startsWith "/" then (system input).walk none [] (names path)
      else tree.walk (some (walkOutside input (levels - 1))) [] (names path)
    match found with
    | .file bytes => if path.endsWith "/" then .missing else .file bytes
    | found => found

/-- The tree of paths with what they lead to. -/
def ofList (rows : List (String × Found)) : FileTree :=
  rows.map fun (path, found) => (names path, found)

end FileTree

inductive Task where
  | listBuiltins
  | listKeywords
  | dumpFile (path : String)
  | prompt
deriving DecidableEq, Repr

/-- What a run of the program leaves: an exit code, and what was written. -/
structure Outcome where
  code : UInt32
  output : Output
deriving DecidableEq, Repr

/-- What the program finds around it. -/
structure Surroundings where
  /-- What a path leads to. -/
  find : String → Found
  input : List UInt8
  /-- The filter for the log where the command line gives none. -/
  level : Option String
  /-- What each line of the log starts with. -/
  stamp : String

def Choices.task (choices : Choices) : Task :=
  if .builtins ∈ choices.flags then .listBuiltins
  else if .keywords ∈ choices.flags then .listKeywords
  else
    match choices.file with
    | some path => .dumpFile path
    | none => .prompt

def builtinLines : String :=
  String.join (Standard.registry.entries.map fun entry => entry.signature ++ "\n")

/-- The reserved spellings in a column of eight, each with the name of its kind. -/
def keywordLines : String :=
  String.join (Keyword.table.map fun (word, keyword) =>
    word ++ String.ofList (List.replicate (8 - word.length) ' ') ++ " " ++ keyword.name ++ "\n")

/-- What is said about a file that cannot be read. -/
def unreadable (path reason : String) : Outcome :=
  ⟨1, .err ("Error reading file '" ++ path ++ "': " ++ reason ++ "\n")⟩

def dumpFile (console : Console) (path : String) : Found → Outcome
  | .missing => ⟨1, .err ("Error: File '" ++ path ++ "' not found\n")⟩
  | .directory => unreadable path "Is a directory (os error 21)"
  | .unreadable reason => unreadable path reason
  | .file bytes =>
    match Text.decode? bytes with
    | some source =>
      let dump := Dump.ofSource console source (some path)
      ⟨if dump.clean then 0 else 1, dump.output⟩
    | none => unreadable path Prompt.notText

def Task.run (console : Console) (surroundings : Surroundings) : Task → Outcome
  | listBuiltins => ⟨0, ⟨builtinLines, console.line (.registryReady Standard.registry.size)⟩⟩
  | listKeywords => ⟨0, .out keywordLines⟩
  | dumpFile path => Command.dumpFile console path (surroundings.find path)
  | prompt => ⟨0, Prompt.session console surroundings.input⟩

/-- What is written where the command line is not carried out. -/
def Stop.outcome : Stop → Outcome
  | help => ⟨0, .out helpText⟩
  | complaint reason => ⟨2, .err reason.text⟩

/-- What the program is built with. -/
structure Toolkit where
  /-- What a command line asks for, or what is written where it is not carried out. -/
  read : List String → Except Outcome Choices
  /-- What the text of a filter for the log asks for. -/
  select : String → Selection
  renderer : Report.Renderer

/-- What a run sets out to do. -/
structure Plan where
  console : Console
  /-- What is said about the filter for the log, before anything else. -/
  complaints : String
  task : Task

namespace Toolkit

def standard : Toolkit where
  read words := (Choices.ofWords words).mapError Stop.outcome
  select := Selection.ofText
  renderer := .framed

/-- The plan for a command line. The filter that it gives for the log counts before the one of the
    surroundings; without either nothing is written to the log. -/
def plan (toolkit : Toolkit) (words : List String) (level : Option String) (stamp : String) :
    Except Outcome Plan :=
  match toolkit.read words with
  | .error outcome => .error outcome
  | .ok choices =>
    match choices.level.or level with
    | some text =>
      let selection := toolkit.select text
      .ok ⟨⟨toolkit.renderer, selection.shows, stamp⟩, selection.complaints, choices.task⟩
    | none => .ok ⟨.unlogged toolkit.renderer, "", choices.task⟩

def run (toolkit : Toolkit) (words : List String) (surroundings : Surroundings) : Outcome :=
  match toolkit.plan words surroundings.level surroundings.stamp with
  | .error outcome => outcome
  | .ok plan =>
    let outcome := plan.task.run plan.console surroundings
    ⟨outcome.code, .err plan.complaints ++ outcome.output⟩

end Toolkit

/-- Runs the program as it is built. -/
def run (words : List String) (surroundings : Surroundings) : Outcome :=
  Toolkit.standard.run words surroundings

end GoldFront.Command
