import GoldFront.Proofs.Binary64.Decimal
import GoldFront.Proofs.Token.Concatenation
import GoldFront.Proofs.Token.Grammar
import GoldFront.Proofs.Value.Dictionary
import GoldFront.Value.Dictionary

namespace GoldFront

def integerLiteral (number : Int) : List (Kind × String) :=
  if number < 0 then [Symbol.minus.kindAndLiteral, (.int, number.natAbs.repr)]
  else [(.int, number.repr)]

def truthLiteral (truth : Bool) : List (Kind × String) :=
  if truth then [(.keyword .true_, "true")] else [(.keyword .false_, "false")]

/-- The sign bit makes the minus, also of a zero. -/
def Binary64.literal (x : Binary64) : List (Kind × String) :=
  if x.isNegative then [Symbol.minus.kindAndLiteral, (.float, String.ofList x.abs.text)]
  else [(.float, String.ofList x.text)]

def Key.literal : Key → List (Kind × String)
  | integer number => integerLiteral number.toInt
  | boolean truth => truthLiteral truth
  | string text => [(.string, text)]

namespace Value

mutual

/-- The tokens that a value is written by, kinds and literals. -/
def literal : Value → List (Kind × String)
  | integer number => integerLiteral number.toInt
  | float number => number.literal
  | boolean truth => truthLiteral truth
  | null => [(.keyword .null, "null")]
  | array elements =>
    Symbol.lbracket.kindAndLiteral ::
      (List.intercalate [Symbol.comma.kindAndLiteral] (elementLiterals elements) ++
        [Symbol.rbracket.kindAndLiteral])
  | dictionary entries =>
    Symbol.lbrace.kindAndLiteral ::
      (List.intercalate [Symbol.comma.kindAndLiteral] (entryLiterals entries) ++
        [Symbol.rbrace.kindAndLiteral])
  | _ => []

def elementLiterals : List Value → List (List (Kind × String))
  | [] => []
  | element :: rest => element.literal :: elementLiterals rest

def entryLiterals : List (Key × Value) → List (List (Kind × String))
  | [] => []
  | (key, value) :: rest =>
    (key.literal ++ Symbol.colon.kindAndLiteral :: value.literal) :: entryLiterals rest

end

end Value

/-- A key that can be written: no quote stands in it. -/
def Key.IsLiteral : Key → Prop
  | string text => '"' ∉ text.toList
  | _ => True

/-- The values that can be written. -/
inductive Value.IsLiteral : Value → Prop
  | integer (number : Int64) : IsLiteral (.integer number)
  | float {number : Binary64} : number.isFinite → IsLiteral (.float number)
  | boolean (truth : Bool) : IsLiteral (.boolean truth)
  | null : IsLiteral .null
  | array {elements : List Value} : (∀ element ∈ elements, IsLiteral element) →
      IsLiteral (.array elements)
  | dictionary {entries : List (Key × Value)} : (∀ entry ∈ entries, entry.1.IsLiteral) →
      (∀ entry ∈ entries, IsLiteral entry.2) → IsLiteral (.dictionary entries)

namespace ReadsAs

variable {text : List Char} {items : List (Kind × String)}

/-- A minus is read by itself in front of a digit. -/
theorem minus {c : Char} (digit : c.isDigit) (reads : ReadsAs (c :: text) items) :
    ReadsAs ('-' :: c :: text) (Symbol.minus.kindAndLiteral :: items) := by
  refine reads.symbol rfl fun after d first => ?_
  cases first
  cases pair : Symbol.ofPair? '-' c with
  | none => rfl
  | some symbol =>
    have spelled := Symbol.ofPair?_eq_some_iff.1 pair
    cases symbol <;> cases spelled
    exact absurd digit (by decide)

theorem nat (number : Nat) : ∃ first run, number.repr.toList = first :: run ∧ first.isDigit ∧
    ReadsAs (first :: run) [(.int, number.repr)] := by
  have digits : ∀ c ∈ Nat.toDigits 10 number, c.isDigit :=
    fun c member => Nat.isDigit_of_mem_toDigits (by decide) (by decide) member
  obtain ⟨first, run, written⟩ := List.exists_cons_of_ne_nil (@Nat.toDigits_ne_nil number 10)
  have text : number.repr.toList = first :: run := Nat.toList_repr.trans written
  rw [written] at digits
  have digit := digits first List.mem_cons_self
  have whole := int digit fun c member => digits c (List.mem_cons_of_mem _ member)
  rw [← text, String.ofList_toList, text] at whole
  exact ⟨first, run, text, digit, whole⟩

theorem integer (number : Int) : ReadsAs number.repr.toList (integerLiteral number) := by
  obtain ⟨first, run, text, digit, reads⟩ := nat number.natAbs
  rw [integerLiteral, Int.repr_eq_if]
  by_cases negative : number < 0
  · have magnitude : (-number).toNat = number.natAbs := by omega
    rw [if_pos negative, if_neg (by omega), magnitude, String.toList_append, text]
    exact minus digit reads
  · have magnitude : number.toNat = number.natAbs := by omega
    rw [if_neg negative, if_pos (by omega), magnitude, text]
    exact reads

theorem truth (truth : Bool) : ReadsAs (truthText truth) (truthLiteral truth) := by
  cases truth with
  | true => exact word (by decide) (List.all_eq_true.1 (by decide))
  | false => exact word (by decide) (List.all_eq_true.1 (by decide))

theorem binary64 {x : Binary64} (finite : x.isFinite) : ReadsAs x.text x.literal := by
  obtain ⟨first, run, part, digits, digit, inside, behind⟩ :=
    Binary64.exists_positional x.decimal.1 x.decimal.2
  rw [← Binary64.text_abs finite] at digits
  have reads := float digit inside behind
  rw [Binary64.literal, Binary64.text_eq finite, digits]
  by_cases negative : x.isNegative
  · rw [if_pos negative, if_pos negative]
    exact minus digit reads
  · rw [if_neg negative, if_neg negative]
    exact reads

theorem key {key : Key} (literal : key.IsLiteral) : ReadsAs key.text key.literal := by
  cases key with
  | integer number => exact integer number.toInt
  | boolean b => exact truth b
  | string text =>
    have reads := string literal
    rw [String.ofList_toList] at reads
    exact reads

/-- A comma and a space go on to what is read behind them. -/
theorem comma (reads : ReadsAs text items) :
    ReadsAs (',' :: ' ' :: text) (Symbol.comma.kindAndLiteral :: items) :=
  (reads.gap rfl).bracket rfl fun _ => rfl

/-- Parts that are read alike everywhere are so with commas between them. -/
theorem commaSeparated {α : Type} {textOf : α → List Char} {itemsOf : α → List (Kind × String)}
    {parts : List α} (reads : ∀ part ∈ parts, ReadsAs (textOf part) (itemsOf part)) :
    ReadsAs (GoldFront.commaSeparated (parts.map textOf))
      (List.intercalate [Symbol.comma.kindAndLiteral] (parts.map itemsOf)) := by
  induction parts with
  | nil => exact nil
  | cons part parts ih =>
    obtain ⟨first, later⟩ := List.forall_mem_cons.1 reads
    cases parts with
    | nil => simpa [GoldFront.commaSeparated] using first
    | cons next parts =>
      have whole := first.append (ih later).comma (apart_of_spelling .comma rfl)
      simpa only [GoldFront.commaSeparated, List.map_cons, List.intercalate_cons_cons,
        List.append_assoc, List.cons_append, List.nil_append] using whole

/-- Parts between two brackets, with commas between them. -/
theorem enclosed {α : Type} {textOf : α → List Char} {itemsOf : α → List (Kind × String)}
    {parts : List α} {opening closing : Symbol} {left right : Char}
    (opens : opening.spelling = [left]) (closes : closing.spelling = [right])
    (leftAlone : ∀ d, Symbol.ofPair? left d = none) (rightAlone : ∀ d, Symbol.ofPair? right d = none)
    (reads : ∀ part ∈ parts, ReadsAs (textOf part) (itemsOf part)) :
    ReadsAs (left :: (GoldFront.commaSeparated (parts.map textOf) ++ [right]))
      (opening.kindAndLiteral :: (List.intercalate [Symbol.comma.kindAndLiteral]
        (parts.map itemsOf) ++ [closing.kindAndLiteral])) := by
  have last : ReadsAs [right] [closing.kindAndLiteral] := nil.bracket closes rightAlone
  have inner := (commaSeparated reads).append last (apart_of_spelling closing closes)
  exact inner.bracket opens leftAlone

end ReadsAs

namespace Value

private theorem eq_map {α β : Type} {whole : List α → List β} {part : α → β} (nil : whole [] = [])
    (cons : ∀ item items, whole (item :: items) = part item :: whole items) (items : List α) :
    whole items = items.map part := by
  induction items with
  | nil => exact nil
  | cons item items ih => rw [cons, ih, List.map_cons]

theorem text_array (elements : List Value) :
    (array elements).text = '[' :: (commaSeparated (elements.map text) ++ [']']) := by
  rw [← @eq_map _ _ elementTexts text rfl (fun _ _ => rfl)]
  rfl

theorem literal_array (elements : List Value) : (array elements).literal =
    Symbol.lbracket.kindAndLiteral :: (List.intercalate [Symbol.comma.kindAndLiteral]
      (elements.map literal) ++ [Symbol.rbracket.kindAndLiteral]) := by
  rw [← @eq_map _ _ elementLiterals literal rfl (fun _ _ => rfl)]
  rfl

def entryText (entry : Key × Value) : List Char := entry.1.text ++ ':' :: ' ' :: entry.2.text

def entryLiteral (entry : Key × Value) : List (Kind × String) :=
  entry.1.literal ++ Symbol.colon.kindAndLiteral :: entry.2.literal

theorem text_dictionary (entries : List (Key × Value)) :
    (dictionary entries).text = '\x7b' :: (commaSeparated (entries.map entryText) ++ ['\x7d']) := by
  rw [← @eq_map _ _ entryTexts entryText rfl (fun _ _ => rfl)]
  rfl

theorem literal_dictionary (entries : List (Key × Value)) : (dictionary entries).literal =
    Symbol.lbrace.kindAndLiteral :: (List.intercalate [Symbol.comma.kindAndLiteral]
      (entries.map entryLiteral) ++ [Symbol.rbrace.kindAndLiteral]) := by
  rw [← @eq_map _ _ entryLiterals entryLiteral rfl (fun _ _ => rfl)]
  rfl

/-- The text of a value that can be written is read as its literal, whatever stands apart behind
    it. -/
theorem IsLiteral.readsAs_text {value : Value} (writable : value.IsLiteral) :
    ReadsAs value.text value.literal := by
  induction writable with
  | integer number => exact .integer number.toInt
  | float finite => exact .binary64 finite
  | boolean truth => exact .truth truth
  | null => exact .word (by decide) (List.all_eq_true.1 (by decide))
  | @array elements _ ih =>
    rw [text_array, literal_array]
    exact ReadsAs.enclosed rfl rfl (fun _ => rfl) (fun _ => rfl) ih
  | @dictionary entries keys _ ih =>
    -- The colon keeps a key apart from its value, as the comma keeps entries apart.
    have parts : ∀ entry ∈ entries, ReadsAs (entryText entry) (entryLiteral entry) := by
      intro entry member
      have value : ReadsAs (':' :: ' ' :: entry.2.text)
          (Symbol.colon.kindAndLiteral :: entry.2.literal) :=
        ((ih entry member).gap rfl).bracket rfl fun _ => rfl
      exact (ReadsAs.key (keys entry member)).append value (apart_of_spelling .colon rfl)
    rw [text_dictionary, literal_dictionary]
    exact ReadsAs.enclosed rfl rfl (fun _ => rfl) (fun _ => rfl) parts

/-- The text of a value that can be written is read as its literal, without a fault; and the entries
    that it goes through stand in the order of their keys in every dictionary built from pairs. -/
theorem tokenize_inspect {value : Value} (writable : value.IsLiteral) :
    (tokenize value.inspect).map Token.kindAndLiteral = value.literal ++ [(.eof, "")] ∧
      faults value.inspect = [] ∧
      ∀ pairs entries, ofPairs pairs = .dictionary entries → Entries.Ordered entries := by
  have reads : ReadsAs value.inspect.toList value.literal := by
    rw [inspect, String.toList_ofList]
    exact writable.readsAs_text
  obtain ⟨tokens, noFault⟩ := reads.tokenize_eq
  exact ⟨tokens, noFault, fun _ _ builds => ordered_ofPairs builds⟩

theorem tokenize_inspect_nested :
    let value : Value := .dictionary
      [(.integer (-1), .array [.float ⟨0x8000000000000000⟩, .null]), (.string "]\n", .boolean true)]
    value.IsLiteral ∧
      value.literal =
        [(.symbol .lbrace, "\x7b"), (.symbol .minus, "-"), (.int, "1"), (.symbol .colon, ":"),
          (.symbol .lbracket, "["), (.symbol .minus, "-"), (.float, "0.0"), (.symbol .comma, ","),
          (.keyword .null, "null"), (.symbol .rbracket, "]"), (.symbol .comma, ","),
          (.string, "]\n"), (.symbol .colon, ":"), (.keyword .true_, "true"),
          (.symbol .rbrace, "\x7d")] ∧
      (tokenize value.inspect).map Token.kindAndLiteral = value.literal ++ [(.eof, "")] ∧
      faults value.inspect = [] ∧
      ∀ pairs entries, ofPairs pairs = .dictionary entries → Entries.Ordered entries := by
  intro value
  have elements : ∀ element ∈ [Value.float ⟨0x8000000000000000⟩, .null], element.IsLiteral :=
    List.forall_mem_cons.2 ⟨.float (by decide), List.forall_mem_singleton.2 .null⟩
  have noQuote : '"' ∉ "]\n".toList := by decide
  have writable : value.IsLiteral :=
    .dictionary (List.forall_mem_cons.2 ⟨trivial, List.forall_mem_singleton.2 noQuote⟩)
      (List.forall_mem_cons.2 ⟨.array elements, List.forall_mem_singleton.2 (.boolean true)⟩)
  exact ⟨writable, by decide +kernel, tokenize_inspect writable⟩

end Value

/-- A parameter that can be written: its name is a word that is not reserved, and some type keyword
    declares its binding. -/
structure Parameter.Declarable (parameter : Parameter) : Prop where
  word : ∃ c run, parameter.name.toList = c :: run ∧ Grammar.Letter c ∧
    ∀ d ∈ run, Grammar.Letter d ∨ Grammar.Digit d
  unreserved : ∀ keyword, (parameter.name, keyword) ∉ Keyword.table
  declared : ∃ keyword : Keyword, keyword.binding? = some parameter.binding

/-- The tokens that a parameter is declared by: the keyword of its binding, and its name. -/
def Parameter.literal (parameter : Parameter) : List (Kind × String) :=
  [(.ofWord parameter.binding.keyword, parameter.binding.keyword), (.ident, parameter.name)]

/-- A text starts like a word and goes on as one. -/
def isWordText : List Char → Bool
  | [] => false
  | c :: run => isLetter c && run.all isWordChar

theorem ReadsAs.wordText {word : String} (whole : isWordText word.toList) :
    ReadsAs word.toList [(.ofWord word, word)] := by
  cases text : word.toList with
  | nil =>
    rw [text] at whole
    cases whole
  | cons c run =>
    rw [text] at whole
    obtain ⟨letter, inside⟩ := Bool.and_eq_true_iff.1 whole
    have reads := ReadsAs.word letter (List.all_eq_true.1 inside)
    rwa [← text, String.ofList_toList, text] at reads

theorem isWordText_keyword (binding : Binding) : isWordText binding.keyword.toList := by
  obtain ⟨type, mutable⟩ := binding
  cases type <;> cases mutable <;> decide +kernel

theorem Parameter.Declarable.isWordText_name {parameter : Parameter}
    (declarable : parameter.Declarable) : isWordText parameter.name.toList := by
  obtain ⟨c, run, text, letter, inside⟩ := declarable.word
  rw [text, isWordText, Bool.and_eq_true, List.all_eq_true]
  refine ⟨isLetter_iff.2 letter, fun d member => ?_⟩
  exact Grammar.isWordChar_iff.2 (inside d member)

theorem Parameter.Declarable.ofWord_name {parameter : Parameter}
    (declarable : parameter.Declarable) : Kind.ofWord parameter.name = .ident :=
  (Grammar.wordKind_iff.1 (.ident declarable.unreserved)).symm

/-- A space stands apart from the keyword before it and from nothing behind it. -/
theorem ReadsAs.parameter {parameter : Parameter} (declarable : parameter.Declarable) :
    ReadsAs parameter.text parameter.literal := by
  have keyword := ReadsAs.wordText (isWordText_keyword parameter.binding)
  have name := ReadsAs.wordText declarable.isWordText_name
  rw [declarable.ofWord_name] at name
  have apart : Apart (' ' :: parameter.name.toList) := by
    rintro d ⟨⟩
    decide
  exact keyword.append (name.gap rfl) apart

namespace Value

/-- The text of a function up to the brace before its body. -/
def declarationHead (parameters : List Parameter) : List Char :=
  ['f', 'n'] ++ ('(' :: (commaSeparated (parameters.map Parameter.text) ++ [')']) ++ [' ', '\x7b'])

theorem text_function (parameters : List Parameter) (body : String) :
    (function parameters body).inspect =
      String.ofList (declarationHead parameters) ++ "\n" ++ (body ++ "\n" ++ "\x7d") := by
  rw [← String.toList_inj, inspect, String.toList_ofList]
  change ['f', 'n', '('] ++ commaSeparated (parameters.map Parameter.text) ++
    [')', ' ', '\x7b', '\n'] ++ body.toList ++ ['\n', '\x7d'] = _
  simp [declarationHead]

/-- The tokens of a function up to the brace before its body. -/
def headLiteral (parameters : List Parameter) : List (Kind × String) :=
  (.keyword .fn, "fn") :: (Symbol.lparen.kindAndLiteral ::
    (List.intercalate [Symbol.comma.kindAndLiteral] (parameters.map Parameter.literal) ++
      [Symbol.rparen.kindAndLiteral]) ++ [Symbol.lbrace.kindAndLiteral])

theorem readsAs_declarationHead {parameters : List Parameter}
    (declarable : ∀ parameter ∈ parameters, parameter.Declarable) :
    ReadsAs (declarationHead parameters) (headLiteral parameters) := by
  have fn : ReadsAs ['f', 'n'] [(.keyword .fn, "fn")] :=
    ReadsAs.word (by decide) (List.all_eq_true.1 (by decide))
  have list : ReadsAs ('(' :: (commaSeparated (parameters.map Parameter.text) ++ [')']))
      (Symbol.lparen.kindAndLiteral ::
        (List.intercalate [Symbol.comma.kindAndLiteral] (parameters.map Parameter.literal) ++
          [Symbol.rparen.kindAndLiteral])) :=
    ReadsAs.enclosed rfl rfl (fun _ => rfl) (fun _ => rfl)
      fun parameter member => .parameter (declarable parameter member)
  have brace : ReadsAs [' ', '\x7b'] [Symbol.lbrace.kindAndLiteral] :=
    (ReadsAs.nil.bracket rfl fun _ => rfl).gap rfl
  have apart : Apart [' ', '\x7b'] := by
    rintro d ⟨⟩
    decide
  exact fn.append (list.append brace apart) (apart_of_spelling .lparen rfl)

/-- Nothing that a body without an open string holds reaches over the line ends around it. -/
theorem tokenize_body {head body : String} {items : List (Kind × String)}
    (reads : ReadsAs head.toList items)
    (closed : ∀ fault ∈ faults body, fault.cause ≠ .unterminatedString) :
    (tokenize (head ++ "\n" ++ (body ++ "\n" ++ "\x7d"))).map Token.kindAndLiteral =
        items ++ (tokenize body).dropLast.map Token.kindAndLiteral ++
          [Symbol.rbrace.kindAndLiteral, (.eof, "")] ∧
      faults (head ++ "\n" ++ (body ++ "\n" ++ "\x7d")) =
        (faults body).map (·.shift (head ++ "\n").utf8ByteSize) := by
  have same : ∀ (tokens : List Token) (by_ : Nat),
      (tokens.map (·.shift by_)).map Token.kindAndLiteral = tokens.map Token.kindAndLiteral := by
    intro tokens by_
    rw [List.map_map]
    rfl
  have brace : (tokenize "\x7d").map Token.kindAndLiteral =
      [Symbol.rbrace.kindAndLiteral, (.eof, "")] ∧ faults "\x7d" = [] := by decide +kernel
  have lineEnd : "\n" ≠ "" := by decide
  have gap : ∀ c ∈ "\n".toList, isGap c := by simp [isGap]
  obtain ⟨headTokens, headFaults⟩ := reads.tokenize_eq
  have headClosed : ∀ fault ∈ faults head, fault.cause ≠ .unterminatedString := by
    simp [headFaults]
  obtain ⟨bodyTokens, bodyFaults⟩ := tokenize_append_of_closed "\x7d" closed lineEnd gap
  obtain ⟨tokens, found⟩ :=
    tokenize_append_of_closed (body ++ "\n" ++ "\x7d") headClosed lineEnd gap
  constructor
  · rw [tokens, List.map_append, same, bodyTokens, List.map_append, same, brace.1,
      List.map_dropLast, headTokens, List.dropLast_concat, List.append_assoc]
  · rw [found, headFaults, bodyFaults, brace.2, List.map_nil, List.append_nil, List.nil_append]

/-- The text of a function that can be declared is read as its declaration, each type keyword as
    that of its parameter's binding; and what is wrong is what is wrong with the body. -/
theorem tokenize_inspect_function {parameters : List Parameter} {body : String}
    (declarable : ∀ parameter ∈ parameters, parameter.Declarable)
    (closed : ∀ fault ∈ faults body, fault.cause ≠ .unterminatedString) :
    (tokenize (function parameters body).inspect).map Token.kindAndLiteral =
      headLiteral parameters ++ (tokenize body).dropLast.map Token.kindAndLiteral ++
        [Symbol.rbrace.kindAndLiteral, (.eof, "")] ∧
    (∀ parameter ∈ parameters,
      (Kind.ofWord parameter.binding.keyword).binding? = some parameter.binding) ∧
    ∃ before, (function parameters body).inspect = before ++ body ++ "\n\x7d" ∧
      (faults (function parameters body).inspect).map Fault.diagnostic =
        ((faults body).map Fault.diagnostic).map (·.shift before.utf8ByteSize) := by
  have head : ReadsAs (String.ofList (declarationHead parameters)).toList (headLiteral parameters) := by
    rw [String.toList_ofList]
    exact readsAs_declarationHead declarable
  obtain ⟨tokens, found⟩ := tokenize_body head closed
  rw [← text_function] at tokens found
  refine ⟨tokens, fun parameter member => ?_,
    String.ofList (declarationHead parameters) ++ "\n", ?_, ?_⟩
  · obtain ⟨keyword, declared⟩ := (declarable parameter member).declared
    exact Keyword.binding?_keyword keyword parameter.binding declared
  · rw [text_function]
    simp only [String.append_assoc]
    rfl
  · rw [found, List.map_map, List.map_map]
    exact List.map_congr_left fun fault _ => diagnostic_shift fault _

/-- A brace in a string of the body ends nothing, and an illegal character of the body stays one. -/
theorem tokenize_inspect_function_brace :
    let parameters : List Parameter := [⟨"x", ⟨.integer, true⟩⟩, ⟨"y1", ⟨.any, true⟩⟩]
    let body := "é \"\x7d\""
    (∀ parameter ∈ parameters, parameter.Declarable) ∧
    (∀ fault ∈ faults body, fault.cause ≠ .unterminatedString) ∧
    (tokenize (function parameters body).inspect).map Token.kindAndLiteral =
      [(.keyword .fn, "fn"), (.symbol .lparen, "("), (.keyword .mint, "mint"), (.ident, "x"),
        (.symbol .comma, ","), (.keyword .any, "any"), (.ident, "y1"), (.symbol .rparen, ")"),
        (.symbol .lbrace, "\x7b"), (.illegal, "é"), (.string, "\x7d"), (.symbol .rbrace, "\x7d"),
        (.eof, "")] ∧
    (∀ parameter ∈ parameters,
      (Kind.ofWord parameter.binding.keyword).binding? = some parameter.binding) ∧
    ∃ before, (function parameters body).inspect = before ++ body ++ "\n\x7d" ∧
      (faults (function parameters body).inspect).map Fault.diagnostic =
        ((faults body).map Fault.diagnostic).map (·.shift before.utf8ByteSize) := by
  intro parameters body
  have lower : ∀ {c : Char}, 'a' ≤ c → c ≤ 'z' → Grammar.Letter c := fun a z => .inr (.inl ⟨a, z⟩)
  have free : ∀ {word : String}, Keyword.table.lookup word = none →
      ∀ keyword, (word, keyword) ∉ Keyword.table := by
    intro word missing keyword member
    rw [Grammar.mem_table_iff, missing] at member
    cases member
  have first : Parameter.Declarable ⟨"x", ⟨.integer, true⟩⟩ :=
    ⟨⟨'x', [], by decide, lower (by decide) (by decide), by simp⟩, free (by decide), .mint, rfl⟩
  have digit : Grammar.Digit '1' := ⟨by decide, by decide⟩
  have second : Parameter.Declarable ⟨"y1", ⟨.any, true⟩⟩ :=
    ⟨⟨'y', ['1'], by decide, lower (by decide) (by decide),
      List.forall_mem_singleton.2 (.inr digit)⟩, free (by decide), .any, rfl⟩
  have declarable : ∀ parameter ∈ parameters, parameter.Declarable :=
    List.forall_mem_cons.2 ⟨first, List.forall_mem_singleton.2 second⟩
  have wrong : faults body = [⟨.illegalCharacter 'é', ⟨0, 2⟩⟩] := by decide +kernel
  have closed : ∀ fault ∈ faults body, fault.cause ≠ .unterminatedString := by simp [wrong]
  obtain ⟨tokens, bindings, found⟩ := tokenize_inspect_function declarable closed
  exact ⟨declarable, closed, tokens.trans (by decide +kernel), bindings, found⟩

end Value

end GoldFront
