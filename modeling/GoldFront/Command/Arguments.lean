/-!
Arguments are read from left to right. Words with two hyphens name a flag or the option that takes a
value, words with one hyphen hold flags of one letter, and all other words, or all words after two
lone hyphens, are values. Reading stops at the first thing that is wrong, or where help is asked
for; what the user is told then repeats only the readable part of what was typed.
-/

namespace GoldFront

namespace Text

/-- The similarity of two words as a fraction between zero and one: the mean of the shares of
    characters in either word that the other has at nearly the same place, and of the share of these
    that keep their order. -/
structure Similarity where
  numerator : Nat
  denominator : Nat
deriving DecidableEq, Repr

namespace Similarity

/-- Marks the first place from `least` to `most` that holds the character and is not marked yet. The
    places carry their index and mark. -/
def markFirst (c : Char) (least most : Nat) :
    List (Char × Nat × Bool) → Option (List (Char × Nat × Bool))
  | [] => none
  | (d, index, marked) :: rest =>
    if least ≤ index && index ≤ most && c = d && !marked then some ((d, index, true) :: rest)
    else (markFirst c least most rest).map ((d, index, marked) :: ·)

/-- The characters of the first word that have a partner in the second, and the second word with its
    partners marked. -/
def pair (reach : Nat) (index : Nat) :
    List Char → List (Char × Nat × Bool) → List Char × List (Char × Nat × Bool)
  | [], places => ([], places)
  | c :: rest, places =>
    match markFirst c (index - reach) (index + reach) places with
    | some marked =>
      let (found, last) := pair reach (index + 1) rest marked
      (c :: found, last)
    | none => pair reach (index + 1) rest places

def ofWords (a b : List Char) : Similarity :=
  if a.isEmpty && b.isEmpty then ⟨1, 1⟩
  else
    let reach := max a.length b.length / 2 - 1
    let places := b.zipIdx.map fun (c, index) => (c, index, false)
    let (found, marked) := pair reach 0 a places
    let partners := (marked.filter (·.2.2)).map (·.1)
    let swapped := ((found.zip partners).filter fun (c, d) => c != d).length / 2
    let common := found.length
    if common = 0 then ⟨0, 1⟩
    else
      ⟨common * common * b.length + common * common * a.length +
          (common - swapped) * a.length * b.length,
        3 * a.length * b.length * common⟩

def isHigh (s : Similarity) : Bool := 7 * s.denominator ≤ 10 * s.numerator

def atLeast (s t : Similarity) : Bool := t.numerator * s.denominator ≤ s.numerator * t.denominator

end Similarity

/-- The word that is most similar to a given one, the later of two that are equally so, if any is
    similar enough to be meant. -/
def mostSimilar? (word : List Char) (candidates : List (List Char)) : Option (List Char) :=
  (candidates.foldl
    (fun best candidate =>
      let similarity := Similarity.ofWords word candidate
      if !similarity.isHigh then best
      else
        match best with
        | some (other, highest) =>
          if similarity.atLeast highest then some (candidate, similarity)
          else some (other, highest)
        | none => some (candidate, similarity))
    none).map (·.1)

/-- Where a text stands among control sequences. An escape character starts one, which runs to the
    character that ends a sequence of its kind. -/
inductive Control where
  | ground
  | escape
  /-- In an escape sequence with intermediate characters. -/
  | intermediate
  /-- In a control sequence with parameters, which a letter ends. -/
  | parameters
  /-- In a command to the system, which the bell ends. -/
  | command
  | device
  /-- In the parameters of a device control string. -/
  | deviceParameters
  /-- After intermediate characters of a device control string. -/
  | deviceIntermediate
  /-- In a string that only its terminator ends. -/
  | string
deriving DecidableEq, Repr

namespace Control

/-- Whether the bytes of a character hold the one that terminates strings. -/
def holdsTerminator (c : Char) : Bool := (String.utf8EncodeChar c).any (· == 0x9c)

/-- The controls that move the place of writing as blanks do. -/
def isMove (c : Char) : Bool := c = '\t' || c = '\n' || c = '\x0c' || c = '\r'

/-- Whether a character shows. Moves show in the middle of a sequence too, unless it is a string. -/
def shows : Control → Char → Bool
  | ground, c => isMove c || (' ' ≤ c && c ≠ '\x7f')
  | escape, c => isMove c
  | intermediate, c => isMove c
  | parameters, c => isMove c
  | _, _ => false

/-- Where a text stands after the character that follows the escape character. -/
def opened (c : Char) : Control :=
  if c = '[' then parameters
  else if c = ']' then command
  else if c = 'P' then device
  else if c = 'X' || c = '^' || c = '_' then string
  else if ' ' ≤ c && c ≤ '/' then intermediate
  else if '0' ≤ c && c ≤ '~' then ground
  else escape

/-- Where a text stands after a character that does not show. -/
def next (place : Control) (c : Char) : Control :=
  if c = '\x1b' then escape
  else if c = '\x18' || c = '\x1a' then ground
  else
    match place with
    | ground => ground
    | escape => opened c
    | intermediate => if '0' ≤ c && c ≤ '~' then ground else intermediate
    | parameters => if '@' ≤ c && c ≤ '~' then ground else parameters
    | command => if c = '\x07' then ground else command
    | device =>
      if ' ' ≤ c && c ≤ '/' then deviceIntermediate
      else if '0' ≤ c && c ≤ '?' then deviceParameters
      else if '@' ≤ c && c ≤ '~' then string
      else device
    | deviceParameters =>
      if ' ' ≤ c && c ≤ '/' then deviceIntermediate
      else if '<' ≤ c && c ≤ '~' then string
      else deviceParameters
    | deviceIntermediate => if '0' ≤ c && c ≤ '~' then string else deviceIntermediate
    | string => if holdsTerminator c then ground else string

end Control

/-- The readable part of a text from a place on. While characters show they are taken as outside of
    all sequences; the sequence that a blank has interrupted goes on at the next one that does not
    show, unless a character beyond ASCII has ended it. -/
def readableFrom (place : Control) (showing : Bool) : List Char → List Char
  | [] => []
  | c :: rest =>
    if (if showing then Control.ground else place).shows c then
      c :: readableFrom (if c.toNat < 0x80 then place else .ground) true rest
    else readableFrom (place.next c) false rest

def readable (text : String) : String := String.ofList (readableFrom .ground false text.toList)

end Text

namespace Command

inductive Item where
  | file | interactive | builtins | keywords | logLevel | help
deriving DecidableEq, Repr

/-- What is proposed to the user. -/
inductive Tip where
  | similar (item : Item)
  | asValue
deriving DecidableEq, Repr

/-- What is wrong with a command line. Where the usage is to be shown for what has been given, the
    items given are named, in the order they were given in. -/
inductive Complaint where
  | conflict (given other : Item) (used : List Item)
  | repeated (item : Item)
  | unexpected (word : String) (tip : Option Tip) (used : List Item)
  | missingValue
  | unwantedValue (value : String) (item : Item) (used : List Item)
deriving DecidableEq, Repr

/-- Why reading stops. -/
inductive Stop where
  | help
  | complaint (complaint : Complaint)
deriving DecidableEq, Repr

/-- An item that has been read and is taken up only when another one follows, or at the end. -/
inductive Pending where
  /-- The option for the log, which waits for its value. -/
  | levelWanted
  | level (value : String)
  | file (word : String)
deriving DecidableEq, Repr

/-- What has been read of a command line. -/
structure Reading where
  /-- The items taken up, in the order they were given in. -/
  used : List Item
  file : Option String
  level : Option String
  /-- The last item, if it has not been taken up. -/
  pending : Option Pending
deriving DecidableEq, Repr

structure Choices where
  flags : List Item
  file : Option String
  level : Option String
deriving DecidableEq, Repr

namespace Item

/-- The word for an item without its hyphens. -/
def word? : Item → Option String
  | file => none
  | interactive => some "interactive"
  | builtins => some "builtins"
  | keywords => some "keywords"
  | logLevel => some "log-level"
  | help => some "help"

/-- The items that have a word. -/
def named : List Item := [interactive, builtins, keywords, logLevel, help]

def ofWord? (word : String) : Option Item := named.find? fun item => item.word? == some word

/-- The flag of a letter. -/
def ofLetter? : Char → Option Item
  | 'i' => some interactive
  | 'h' => some help
  | _ => none

/-- The item that may have been meant by a word. -/
def similar? (word : String) : Option Item :=
  (Text.mostSimilar? word.toList (named.filterMap fun item => item.word?.map String.toList)).bind
    fun found => ofWord? (String.ofList found)

def text : Item → String
  | file => "[FILE]"
  | interactive => "--interactive"
  | builtins => "--builtins"
  | keywords => "--keywords"
  | logLevel => "--log-level <LEVEL>"
  | help => "--help"

end Item

namespace Reading

def start : Reading := ⟨[], none, none, none⟩

/-- Stops with a complaint. -/
private def complain {α : Type} (complaint : Complaint) : Except Stop α :=
  .error (.complaint complaint)

/-- Takes up the item that is pending. -/
def settle (reading : Reading) : Except Stop Reading :=
  match reading.pending with
  | none => .ok reading
  | some .levelWanted => complain .missingValue
  | some (.level value) =>
    if .logLevel ∈ reading.used then complain (.repeated .logLevel)
    else .ok ⟨reading.used ++ [.logLevel], reading.file, some value, none⟩
  | some (.file word) => .ok ⟨reading.used ++ [.file], some word, reading.level, none⟩

def hasFile (reading : Reading) : Bool :=
  match reading.pending with
  | some (.file _) => true
  | _ => .file ∈ reading.used

/-- The items that count as given where a word has no meaning: the pending item counts if it can be
    taken up, and the option for the log does not if it is given twice. -/
def settledItems (reading : Reading) : List Item :=
  match reading.settle with
  | .ok after => after.used
  | .error (.complaint (.repeated item)) => reading.used.filter (· ≠ item)
  | .error _ => reading.used

def addFlag (reading : Reading) (flag : Item) : Except Stop Reading := do
  let reading ← reading.settle
  if flag = .help then .error .help
  else if flag ∈ reading.used then complain (.repeated flag)
  else .ok { reading with used := reading.used ++ [flag] }

/-- Takes up a value that no option waits for. -/
def addFile (reading : Reading) (word : String) : Except Stop Reading :=
  if reading.hasFile then complain (.unexpected word none [])
  else do
    let reading ← reading.settle
    .ok { reading with pending := some (.file word) }

/-- Takes up a word with two hyphens, without them: a name, and what stands after the first equals
    sign. Where a flag is given a value, a pending item does not count as given. -/
def addNamed (reading : Reading) (name : String) (value : Option String) : Except Stop Reading :=
  match Item.ofWord? name, value with
  | none, _ =>
    let used := reading.settledItems
    match Item.similar? name with
    | some item =>
      complain (.unexpected ("--" ++ name) (some (.similar item))
        (if item ∈ used then used else used ++ [item]))
    | none => complain (.unexpected ("--" ++ name) (some .asValue) used)
  | some .logLevel, some text => do
    let reading ← reading.settle
    settle { reading with pending := some (.level text) }
  | some .logLevel, none => do
    let reading ← reading.settle
    .ok { reading with pending := some .levelWanted }
  | some flag, some text =>
    complain (.unwantedValue text flag
      (if flag ∈ reading.used then reading.used else reading.used ++ [flag]))
  | some flag, none => reading.addFlag flag

/-- Takes up the letters after one hyphen. -/
def addLetters (reading : Reading) : List Char → Except Stop Reading
  | [] => .ok reading
  | letter :: letters =>
    match Item.ofLetter? letter with
    | some flag => do
      let reading ← reading.addFlag flag
      reading.addLetters letters
    | none => complain (.unexpected (String.ofList ['-', letter]) (some .asValue) [])

/-- Takes up a value: the option for the log may wait for it. -/
def addValue (reading : Reading) (word : String) : Except Stop Reading :=
  match reading.pending with
  | some .levelWanted => .ok { reading with pending := some (.level word) }
  | _ => reading.addFile word

/-- Takes up a word that may be an option. -/
def add (reading : Reading) (word : String) : Except Stop Reading :=
  match word.toList with
  | '-' :: '-' :: rest =>
    let value := match rest.dropWhile (· != '=') with
      | [] => none
      | _ :: text => some (String.ofList text)
    reading.addNamed (String.ofList (rest.takeWhile (· != '='))) value
  | '-' :: letter :: letters => reading.addLetters (letter :: letters)
  | _ => reading.addValue word

def addAll (reading : Reading) : List String → Except Stop Reading
  | [] => reading.settle
  | word :: words =>
    if word = "--" then do
      let reading ← words.foldlM addFile reading
      reading.settle
    else do
      let reading ← reading.add word
      reading.addAll words

/-- What the items given ask for. A file does not go with a prompt. -/
def choices (reading : Reading) : Except Stop Choices :=
  match reading.used.filter fun item => item = .file || item = .interactive with
  | [given, other] => complain (.conflict given other (reading.used.filter (· ≠ other)))
  | _ => .ok ⟨reading.used.filter (· ≠ .file), reading.file, reading.level⟩

end Reading

def Choices.ofWords (words : List String) : Except Stop Choices := do
  let reading ← Reading.start.addAll words
  reading.choices

def helpText : String :=
  "Tokenizer and builtin inspector for the Gold language\n" ++
  "\n" ++
  "Usage: gold [OPTIONS] [FILE]\n" ++
  "\n" ++
  "Arguments:\n" ++
  "  [FILE]  The script file to tokenize\n" ++
  "\n" ++
  "Options:\n" ++
  "  -i, --interactive        Start in interactive REPL mode\n" ++
  "      --builtins           List the builtin functions and their signatures\n" ++
  "      --keywords           List the reserved words and the token kinds they map to\n" ++
  "      --log-level <LEVEL>  Tracing filter, e.g. 'debug' (defaults to RUST_LOG)\n" ++
  "  -h, --help               Print help\n"

/-- How the program is called with the items given, or in general where none is given. -/
def usage (used : List Item) : String :=
  if used.isEmpty then "gold [OPTIONS] [FILE]"
  else
    let options := (used.filter (· ≠ .file)).map fun item => " " ++ item.text
    "gold" ++ String.join options ++ if .file ∈ used then " <FILE>" else " [FILE]"

namespace Complaint

def message : Complaint → String
  | conflict given other _ =>
    "the argument '" ++ given.text ++ "' cannot be used with '" ++ other.text ++ "'"
  | repeated item => "the argument '" ++ item.text ++ "' cannot be used multiple times"
  | unexpected word _ _ => "unexpected argument '" ++ Text.readable word ++ "' found"
  | missingValue =>
    "a value is required for '" ++ Item.logLevel.text ++ "' but none was supplied"
  | unwantedValue value item _ =>
    "unexpected value '" ++ Text.readable value ++ "' for '" ++ item.text ++
      "' found; no more were expected"

def tip? : Complaint → Option String
  | unexpected _ (some (.similar item)) _ =>
    item.word?.map fun word => "a similar argument exists: '--" ++ word ++ "'"
  | unexpected word (some .asValue) _ =>
    let shown := Text.readable word
    some ("to pass '" ++ shown ++ "' as a value, use '-- " ++ shown ++ "'")
  | _ => none

/-- The items that the usage is shown for. -/
def used? : Complaint → Option (List Item)
  | conflict _ _ used => some used
  | repeated _ => some []
  | unexpected _ _ used => some used
  | missingValue => none
  | unwantedValue _ _ used => some used

/-- All that a user is told. -/
def text (complaint : Complaint) : String :=
  let tip := match complaint.tip? with
    | some tip => "  tip: " ++ tip ++ "\n\n"
    | none => ""
  let call := match complaint.used? with
    | some used => "Usage: " ++ usage used ++ "\n\n"
    | none => ""
  "error: " ++ complaint.message ++ "\n\n" ++ tip ++ call ++
    "For more information, try '--help'.\n"

end Complaint

end Command

end GoldFront
