import GoldFront.Text.Basic
import GoldFront.Text.Quoted

/-!
A lexeme is a stretch of source text with the kind of token it makes. A cursor stands at a place in
a source text, reads lexemes off it and remembers the faults it has met. `next` reads one token, and
at the end of the source one more end token at each call. `pull` gives every token up to the first
end token it reads itself, and nothing after that. `drain` pulls all that is left, and `readToEnd`
reads with `next` up to an end token.
-/

namespace GoldFront

inductive Symbol where
  | assign | plus | minus | bang | asterisk | slash
  | lt | gt | le | ge | eq | notEq | inc | dec
  | comma | semicolon | colon
  | lparen | rparen | lbrace | rbrace | lbracket | rbracket
deriving DecidableEq, Repr

inductive Keyword where
  | fn | let_ | may | true_ | false_ | if_ | else_ | return_ | while_ | null
  | mint | lint | mstr | lstr | marr | larr | mdct | ldct | any
deriving DecidableEq, Repr

/-- What a token is. -/
inductive Kind where
  | ident | int | float | string
  | symbol (symbol : Symbol)
  | keyword (keyword : Keyword)
  | illegal
  | eof
deriving DecidableEq, Repr

namespace Symbol

/-- The name of the kind of token that a symbol makes. -/
def name : Symbol → String
  | assign => "ASSIGN"
  | plus => "PLUS"
  | minus => "MINUS"
  | bang => "BANG"
  | asterisk => "ASTERISK"
  | slash => "SLASH"
  | lt => "LT"
  | gt => "GT"
  | le => "LE"
  | ge => "GE"
  | eq => "EQ"
  | notEq => "NOT_EQ"
  | inc => "INC"
  | dec => "DEC"
  | comma => "COMMA"
  | semicolon => "SEMICOLON"
  | colon => "COLON"
  | lparen => "LPAREN"
  | rparen => "RPAREN"
  | lbrace => "LBRACE"
  | rbrace => "RBRACE"
  | lbracket => "LBRACKET"
  | rbracket => "RBRACKET"

def all : List Symbol :=
  [assign, plus, minus, bang, asterisk, slash, lt, gt, le, ge, eq, notEq, inc, dec,
    comma, semicolon, colon, lparen, rparen, lbrace, rbrace, lbracket, rbracket]

/-- The one spelling of a symbol. -/
def spelling : Symbol → List Char
  | assign => ['=']
  | plus => ['+']
  | minus => ['-']
  | bang => ['!']
  | asterisk => ['*']
  | slash => ['/']
  | lt => ['<']
  | gt => ['>']
  | le => ['<', '=']
  | ge => ['>', '=']
  | eq => ['=', '=']
  | notEq => ['!', '=']
  | inc => ['+', '+']
  | dec => ['-', '-']
  | comma => [',']
  | semicolon => [';']
  | colon => [':']
  | lparen => ['(']
  | rparen => [')']
  | lbrace => ['\x7b']
  | rbrace => ['\x7d']
  | lbracket => ['[']
  | rbracket => [']']

/-- The symbol spelled by one character. -/
def ofChar? (c : Char) : Option Symbol := all.find? fun symbol => symbol.spelling == [c]

/-- The symbol spelled by two characters. -/
def ofPair? (c d : Char) : Option Symbol := all.find? fun symbol => symbol.spelling == [c, d]

end Symbol

namespace Keyword

/-- The name of the kind of token that a keyword makes. -/
def name : Keyword → String
  | fn => "FUNCTION"
  | let_ => "LET"
  | may => "MAY"
  | true_ => "TRUE"
  | false_ => "FALSE"
  | if_ => "IF"
  | else_ => "ELSE"
  | return_ => "RETURN"
  | while_ => "WHILE"
  | null => "NULL"
  | mint => "MINT"
  | lint => "LINT"
  | mstr => "MSTR"
  | lstr => "LSTR"
  | marr => "MARR"
  | larr => "LARR"
  | mdct => "MDCT"
  | ldct => "LDCT"
  | any => "ANY"

def all : List Keyword :=
  [fn, let_, may, true_, false_, if_, else_, return_, while_, null,
    mint, lint, mstr, lstr, marr, larr, mdct, ldct, any]

/-- The reserved spellings and the keywords they stand for; `larr` has a longer spelling too. -/
def table : List (String × Keyword) := [
  ("let", let_), ("fn", fn), ("true", true_), ("false", false_), ("if", if_), ("else", else_),
  ("return", return_), ("while", while_), ("may", may), ("null", null),
  ("mint", mint), ("lint", lint), ("mstr", mstr), ("lstr", lstr), ("marr", marr),
  ("larr", larr), ("larry", larr), ("mdct", mdct), ("ldct", ldct), ("any", any)]

end Keyword

namespace Kind

/-- The name that a kind is shown by. -/
def name : Kind → String
  | ident => "IDENT"
  | int => "INT"
  | float => "FLOAT"
  | string => "STRING"
  | symbol s => s.name
  | keyword k => k.name
  | illegal => "ILLEGAL"
  | eof => "EOF"

def all : List Kind :=
  [ident, int, float, string] ++ Symbol.all.map symbol ++ Keyword.all.map keyword ++ [illegal, eof]

/-- The kind that has a name. -/
def ofName? (name : String) : Option Kind := all.find? fun kind => kind.name == name

/-- The kind of a word: a keyword if the whole word is a reserved spelling, else an identifier. -/
def ofWord (word : String) : Kind :=
  match Keyword.table.lookup word with
  | some k => keyword k
  | none => ident

end Kind

/-- A token of the source. -/
structure Token where
  kind : Kind
  /-- The text that the token stands for. -/
  literal : String
  span : Span
deriving DecidableEq, Repr

namespace Token

/-- Tokens are compared by kind and literal. -/
instance : BEq Token where
  beq a b := a.kind = b.kind && a.literal = b.literal

/-- The token at the end of a source of the given size. -/
def eof (offset : Nat) : Token := ⟨.eof, "", .empty offset⟩

/-- The token on one line: its kind, and its literal quoted in parentheses. -/
def render (token : Token) : String :=
  token.kind.name ++ "(" ++ Text.quoted token.literal ++ ")"

end Token

/-- Characters that separate tokens. -/
def isGap (c : Char) : Bool := c = ' ' || c = '\t' || c = '\n' || c = '\r'

/-- Characters that a word may start with. -/
def isLetter (c : Char) : Bool := c.isAlpha || c = '_'

/-- Characters that a word may go on with. -/
def isWordChar (c : Char) : Bool := isLetter c || c.isDigit

/-- A stretch of source text and the kind of token it makes. -/
structure Lexeme where
  kind : Kind
  /-- The source text, quotes included. -/
  text : List Char
deriving DecidableEq, Repr

namespace Lexeme

/-- What a token keeps of the text: all of it, but of a string what stands between the quotes. -/
def literal (lexeme : Lexeme) : List Char :=
  if lexeme.kind = .string then (lexeme.text.drop 1).takeWhile (· != '"') else lexeme.text

/-- Whether this is a string that no second quote closes. -/
def isOpen (lexeme : Lexeme) : Bool :=
  lexeme.kind = .string && !(lexeme.text.drop 1).contains '"'

/-- Reads a symbol that starts with a given one-character symbol, and takes the two-character one if
    the next character completes it. -/
def readSymbol (c : Char) (single : Symbol) (rest : List Char) : Lexeme × List Char :=
  match rest with
  | [] => (⟨.symbol single, [c]⟩, [])
  | d :: after =>
    match Symbol.ofPair? c d with
    | some double => (⟨.symbol double, [c, d]⟩, after)
    | none => (⟨.symbol single, [c]⟩, rest)

def readWord (c : Char) (rest : List Char) : Lexeme × List Char :=
  let word := c :: rest.takeWhile isWordChar
  (⟨.ofWord (String.ofList word), word⟩, rest.dropWhile isWordChar)

/-- Reads a number: digits, and if a point follows, the point and the digits after it. -/
def readNumber (c : Char) (rest : List Char) : Lexeme × List Char :=
  let whole := c :: rest.takeWhile Char.isDigit
  match rest.dropWhile Char.isDigit with
  | '.' :: after =>
    (⟨.float, whole ++ '.' :: after.takeWhile Char.isDigit⟩, after.dropWhile Char.isDigit)
  | after => (⟨.int, whole⟩, after)

/-- Reads a string after its first quote: up to the next quote, or to the end of the source. -/
def readString (rest : List Char) : Lexeme × List Char :=
  let content := rest.takeWhile (· != '"')
  match rest.dropWhile (· != '"') with
  | [] => (⟨.string, '"' :: content⟩, [])
  | close :: after => (⟨.string, '"' :: (content ++ [close])⟩, after)

/-- Reads the lexeme that starts with a character that is no gap. -/
def read (c : Char) (rest : List Char) : Lexeme × List Char :=
  match Symbol.ofChar? c with
  | some single => readSymbol c single rest
  | none =>
    if c = '"' then readString rest
    else if isLetter c then readWord c rest
    else if c.isDigit then readNumber c rest
    else (⟨.illegal, [c]⟩, rest)

private theorem readSymbol_append (c : Char) (single : Symbol) (rest : List Char) :
    (readSymbol c single rest).1.text ++ (readSymbol c single rest).2 = c :: rest := by
  unfold readSymbol
  split
  · rfl
  · split <;> rfl

private theorem readWord_append (c : Char) (rest : List Char) :
    (readWord c rest).1.text ++ (readWord c rest).2 = c :: rest := by
  simp [readWord, List.takeWhile_append_dropWhile]

private theorem readNumber_append (c : Char) (rest : List Char) :
    (readNumber c rest).1.text ++ (readNumber c rest).2 = c :: rest := by
  have whole := @List.takeWhile_append_dropWhile _ Char.isDigit rest
  simp only [readNumber]
  split
  · next after found =>
    rw [found] at whole
    simp [List.takeWhile_append_dropWhile, whole]
  · simp [whole]

private theorem readString_append (rest : List Char) :
    (readString rest).1.text ++ (readString rest).2 = '"' :: rest := by
  have whole := @List.takeWhile_append_dropWhile _ (· != '"') rest
  simp only [readString]
  split
  · next found => rw [found] at whole; simpa using whole
  · next close after found => rw [found] at whole; simpa using whole

/-- The text of a lexeme and what is left after it are the text it was read from. -/
theorem read_append (c : Char) (rest : List Char) :
    (read c rest).1.text ++ (read c rest).2 = c :: rest := by
  unfold read
  split
  · exact readSymbol_append ..
  · split
    · next quoted => subst quoted; exact readString_append rest
    · split
      · exact readWord_append ..
      · split
        · exact readNumber_append ..
        · rfl

theorem read_text_ne_nil (c : Char) (rest : List Char) : (read c rest).1.text ≠ [] := by
  unfold read
  split
  · unfold readSymbol
    split
    · simp
    · split <;> simp
  · split
    · simp only [readString]
      split <;> simp
    · split
      · simp [readWord]
      · split
        · simp only [readNumber]
          split <;> simp
        · simp

theorem length_read_lt (c : Char) (rest : List Char) :
    (read c rest).2.length < (c :: rest).length := by
  have lengths := congrArg List.length (read_append c rest)
  have := List.length_pos_iff.2 (read_text_ne_nil c rest)
  simp only [List.length_append] at lengths
  omega

end Lexeme

inductive Fault.Cause where
  /-- A character that starts no token. -/
  | illegalCharacter (character : Char)
  /-- A string that runs to the end of the source. -/
  | unterminatedString
deriving DecidableEq, Repr

/-- Something wrong, and where. -/
structure Fault where
  cause : Fault.Cause
  /-- The text of the token concerned. -/
  span : Span
deriving DecidableEq, Repr

/-- What is wrong with a lexeme. -/
def Lexeme.cause? (lexeme : Lexeme) : Option Fault.Cause :=
  match lexeme.kind, lexeme.text with
  | .illegal, c :: _ => some (.illegalCharacter c)
  | .string, _ => if lexeme.isOpen then some .unterminatedString else none
  | _, _ => none

/-- A place in a source text. -/
structure Cursor where
  rest : List Char
  offset : Nat
  faults : Array Fault
  /-- Whether `pull` has given an end token. -/
  finished : Bool
deriving DecidableEq, Repr

namespace Cursor

/-- The cursor at the start of a source text. -/
def ofSource (source : String) : Cursor := ⟨source.toList, 0, #[], false⟩

/-- Passes over a lexeme and remembers what is wrong with it. -/
def take (cursor : Cursor) (start : Nat) (lexeme : Lexeme) (after : List Char) : Token × Cursor :=
  let span : Span := ⟨start, start + Text.byteSize lexeme.text⟩
  let faults := match lexeme.cause? with
    | some cause => cursor.faults.push ⟨cause, span⟩
    | none => cursor.faults
  (⟨lexeme.kind, String.ofList lexeme.literal, span⟩,
    { cursor with rest := after, offset := span.stop, faults := faults })

/-- Reads the next token, after any gap. -/
def next (cursor : Cursor) : Token × Cursor :=
  let start := cursor.offset + Text.byteSize (cursor.rest.takeWhile isGap)
  match cursor.rest.dropWhile isGap with
  | [] => (.eof start, { cursor with rest := [], offset := start })
  | c :: rest =>
    let (lexeme, after) := Lexeme.read c rest
    cursor.take start lexeme after

/-- The next token, unless an end token has been given. -/
def pull (cursor : Cursor) : Option (Token × Cursor) :=
  if cursor.finished then none
  else
    let (token, after) := cursor.next
    some (token, { after with finished := token.kind = .eof })

/-- A token that is no end token was read from characters that are no longer left. -/
theorem length_next_lt {cursor : Cursor} (more : cursor.next.1.kind ≠ .eof) :
    cursor.next.2.rest.length < cursor.rest.length := by
  revert more
  unfold next
  split
  · simp [Token.eof]
  · next c rest found =>
    intro _
    have shorter := Lexeme.length_read_lt c rest
    have whole := congrArg List.length (@List.takeWhile_append_dropWhile _ isGap cursor.rest)
    rw [found] at whole
    simp only [List.length_append] at whole
    simp only [take]
    omega

/-- The steps that `pull` can still make, at most. -/
private def fuel (cursor : Cursor) : Nat :=
  if cursor.finished then 0 else cursor.rest.length + 1

private theorem fuel_pull {cursor after : Cursor} {token : Token}
    (pulled : cursor.pull = some (token, after)) : after.fuel < cursor.fuel := by
  unfold pull at pulled
  split at pulled
  · simp at pulled
  · next unfinished =>
    simp only [Option.some.injEq, Prod.mk.injEq] at pulled
    obtain ⟨rfl, rfl⟩ := pulled
    unfold fuel
    by_cases ended : cursor.next.1.kind = .eof
    · simp [ended, unfinished]
    · have := length_next_lt ended
      simp only [ended, decide_false, unfinished]
      simpa using this

/-- The tokens that `pull` gives from here on, and the cursor after them. -/
def drain (cursor : Cursor) : List Token × Cursor :=
  match _pulled : cursor.pull with
  | none => ([], cursor)
  | some (token, after) =>
    let (tokens, last) := after.drain
    (token :: tokens, last)
termination_by cursor.fuel
decreasing_by exact fuel_pull _pulled

/-- The tokens that `next` gives up to the first end token, and the cursor after them. -/
def readToEnd (cursor : Cursor) : List Token × Cursor :=
  match _read : cursor.next with
  | (token, after) =>
    if _more : token.kind = .eof then ([token], after)
    else
      let (tokens, last) := after.readToEnd
      (token :: tokens, last)
termination_by cursor.rest.length
decreasing_by
  have more : cursor.next.1.kind ≠ .eof := by rw [_read]; exact _more
  have := length_next_lt more
  rwa [_read] at this

end Cursor

def tokenize (source : String) : List Token := (Cursor.ofSource source).drain.1

/-- The faults of a source text, in the order of the tokens concerned. -/
def faults (source : String) : List Fault := (Cursor.ofSource source).drain.2.faults.toList

end GoldFront
