import GoldFront.Text.Basic

/-!
The parts of a regular expression. Patterns are matched without tables of letters, digits and blanks
of all scripts and without tables of cases, and a match never ends within a character. What would
need a table, or would match a part of a character, cannot be used.
-/

namespace GoldFront.Pattern

/-- What the flags say at a place in a pattern. -/
structure Mode where
  /-- The flag `i`: a letter stands for itself in either case. -/
  caseless : Bool
  /-- The flag `u`: characters of all scripts are matched, and not bytes. -/
  unicode : Bool
  /-- The flag `x`: blanks and comments stand for nothing. -/
  spaced : Bool
deriving DecidableEq, Repr

namespace Mode

def initial : Mode := ⟨false, true, false⟩

/-- The letters of the flags. -/
def letters : List Char := ['i', 'm', 's', 'U', 'u', 'R', 'x']

/-- Whether a text lists flags: each letter at most once, and at most one minus, with a letter after
    it. -/
def listsFlags (flags : List Char) : Bool :=
  flags.all (fun c => c = '-' || letters.contains c) && decide flags.Nodup &&
    flags.getLast? ≠ some '-'

/-- Whether a flag is set after a list of flags; the minus clears those after it, and a flag that is
    not listed stays as it was. -/
def isSetAfter (flags : List Char) (flag : Char) (before : Bool) : Bool :=
  if (flags.takeWhile (· ≠ '-')).contains flag then true
  else if flags.contains flag then false
  else before

/-- The mode after a list of flags. -/
def change (mode : Mode) (flags : List Char) : Mode :=
  ⟨isSetAfter flags 'i' mode.caseless, isSetAfter flags 'u' mode.unicode,
    isSetAfter flags 'x' mode.spaced⟩

/-- What follows the blanks and comments at the start of a text, which may start within a comment. A
    comment goes from a number sign to the end of the line. -/
def skipLayout (commented : Bool) : List Char → List Char
  | [] => []
  | c :: rest =>
    if commented then skipLayout (c ≠ '\n') rest
    else if c = '#' then skipLayout true rest
    else if Text.isBlank c then skipLayout false rest
    else c :: rest

/-- The text from the next character that counts. -/
def skip (mode : Mode) (text : List Char) : List Char :=
  if mode.spaced then skipLayout false text else text

/-- The first character that is neither a blank nor the first number sign. -/
def glimpseLayout (commented : Bool) : List Char → Option Char
  | [] => none
  | c :: rest =>
    if Text.isBlank c then glimpseLayout commented rest
    else if c = '#' && !commented then glimpseLayout true rest
    else some c

/-- The character that a look ahead finds. Of a comment it passes over the number sign alone. -/
def glimpse (mode : Mode) (text : List Char) : Option Char :=
  if mode.spaced then glimpseLayout false text else text.head?

/-- Passing over layout gives an end of the text. -/
theorem skipLayout_suffix (commented : Bool) (text : List Char) :
    skipLayout commented text <:+ text := by
  induction text generalizing commented with
  | nil => exact List.suffix_refl _
  | cons c rest ih =>
    unfold skipLayout
    split
    · exact (ih _).trans (List.suffix_cons c rest)
    · split
      · exact (ih _).trans (List.suffix_cons c rest)
      · split
        · exact (ih _).trans (List.suffix_cons c rest)
        · exact List.suffix_refl _

/-- The text from the next character that counts is an end of the text. -/
theorem skip_suffix (mode : Mode) (text : List Char) : mode.skip text <:+ text := by
  unfold skip
  split
  · exact skipLayout_suffix false text
  · exact List.suffix_refl _

theorem length_skip_le (mode : Mode) (text : List Char) :
    (mode.skip text).length ≤ text.length := (mode.skip_suffix text).length_le

end Mode

inductive Atom where
  /-- A character, which may be written as a byte. -/
  | literal (c : Char) (byte : Bool)
  | any
  /-- The digits, the blanks or the characters of words, or all other characters. -/
  | named (negated : Bool)
  /-- The start or the end of a text or a line. -/
  | anchor
  /-- A place between two characters, found by whether they belong to words. -/
  | wordEdge
deriving DecidableEq, Repr

/-- Whether characters can be matched: their other cases are known for ASCII alone. -/
def Mode.knowsCases (mode : Mode) : Bool := !(mode.unicode && mode.caseless)

/-- Whether an atom can be used where it stands. -/
def Mode.admits (mode : Mode) : Atom → Bool
  | .literal c byte => mode.knowsCases && (mode.unicode || !byte || c.toNat < 0x80)
  | .any => mode.unicode
  | .named negated => !mode.unicode && !negated
  | .anchor => true
  | .wordEdge => true

/-- Whether an atom can be used as a member of a set. -/
def Mode.admitsMember (mode : Mode) : Atom → Bool
  | .literal c _ => mode.knowsCases && (mode.unicode || c.toNat < 0x80)
  | .named negated => !mode.unicode && !negated
  | .any => false
  | .anchor => false
  | .wordEdge => false

namespace Atom

def hexDigit? (c : Char) : Option Nat :=
  if c.isDigit then some (c.toNat - '0'.toNat)
  else if 'a' ≤ c && c ≤ 'f' then some (c.toNat - 'a'.toNat + 10)
  else if 'A' ≤ c && c ≤ 'F' then some (c.toNat - 'A'.toNat + 10)
  else none

/-- Reads hexadecimal digits of a number whose value so far is given. -/
def readHex? (mode : Mode) : Nat → Nat → List Char → Option (Nat × List Char)
  | 0, value, text => some (value, text)
  | digits + 1, value, text =>
    match mode.skip text with
    | [] => none
    | c :: rest =>
      match hexDigit? c with
      | none => none
      | some digit => readHex? mode digits (16 * value + digit) rest

/-- Reads the code point of a character in a number of digits; two digits make a byte. -/
def readCode? (mode : Mode) (digits : Nat) (text : List Char) : Option (Atom × List Char) :=
  match readHex? mode digits 0 text with
  | none => none
  | some (value, rest) =>
    if value.isValidChar then some (.literal (Char.ofNat value) (digits = 2), rest) else none

/-- The characters that a backslash and a letter stand for. -/
def controls : List (Char × Char) :=
  [('a', '\x07'), ('f', '\x0c'), ('t', '\t'), ('n', '\n'), ('r', '\r'), ('v', '\x0b')]

/-- The atom of a backslash and one character. Most signs of ASCII stand for themselves; letters and
    digits that have no meaning, and all characters beyond ASCII, may not follow a backslash. -/
def ofEscaped? (c : Char) : Option Atom :=
  if ['d', 's', 'w'].contains c then some (.named false)
  else if ['D', 'S', 'W'].contains c then some (.named true)
  else if ['A', 'z'].contains c then some .anchor
  else if ['b', 'B', '<', '>'].contains c then some .wordEdge
  else
    match controls.lookup c with
    | some control => some (.literal control false)
    | none => if c.isAlphanum || 0x80 ≤ c.toNat then none else some (.literal c false)

/-- Reads the atom of a backslash from what stands after it. -/
def read? (mode : Mode) : List Char → Option (Atom × List Char)
  | [] => none
  | c :: rest =>
    if c = 'x' then readCode? mode 2 rest
    else if c = 'u' then readCode? mode 4 rest
    else if c = 'U' then readCode? mode 8 rest
    else (ofEscaped? c).map (·, rest)

theorem length_readHex?_le {mode : Mode} {digits value result : Nat} {text rest : List Char}
    (found : readHex? mode digits value text = some (result, rest)) :
    rest.length ≤ text.length := by
  induction digits generalizing value text with
  | zero =>
    simp only [readHex?, Option.some.injEq, Prod.mk.injEq] at found
    exact found.2 ▸ Nat.le_refl _
  | succ digits ih =>
    have shorter := mode.length_skip_le text
    unfold readHex? at found
    split at found
    · contradiction
    · next c after start =>
      rw [start, List.length_cons] at shorter
      split at found
      · contradiction
      · have := ih found
        omega

theorem length_read?_lt {mode : Mode} {atom : Atom} {text rest : List Char}
    (found : read? mode text = some (atom, rest)) : rest.length < text.length := by
  have code {digits : Nat} {text rest : List Char}
      (found : readCode? mode digits text = some (atom, rest)) : rest.length ≤ text.length := by
    unfold readCode? at found
    split at found
    · contradiction
    · next digitsFound =>
      split at found
      · simp only [Option.some.injEq, Prod.mk.injEq] at found
        exact found.2 ▸ length_readHex?_le digitsFound
      · contradiction
  unfold read? at found
  split at found
  · contradiction
  · rw [List.length_cons, Nat.lt_succ_iff]
    split at found
    · exact code found
    · split at found
      · exact code found
      · split at found
        · exact code found
        · obtain ⟨_, _, same⟩ := Option.map_eq_some_iff.1 found
          simp only [Prod.mk.injEq] at same
          exact same.2 ▸ Nat.le_refl _

end Atom

/-- The depth of parts that stand side by side: more than one make a list, which adds to it. -/
def joinDepths : List Nat → Nat
  | [] => 0
  | [depth] => depth
  | depths => depths.foldl max 0 + 1

/-- A set in brackets that has been read in part. -/
structure Bracket where
  /-- The depth of what stands before the last operator. -/
  left : Option Nat
  /-- The depths of the members after it. -/
  members : List Nat
deriving DecidableEq, Repr

/-- What is read of a set at a time. -/
inductive Mark where
  /-- The start of a set, with members that can stand only there. -/
  | opening (members : Nat)
  | closing
  | operator
  | member
deriving DecidableEq, Repr

namespace Mark

/-- The names of sets that may be given between colons. -/
def names : List String :=
  ["alnum", "alpha", "ascii", "blank", "cntrl", "digit", "graph", "lower", "print", "punct",
    "space", "upper", "word", "xdigit"]

/-- Reads a name up to a colon and a bracket. -/
def readName? (negated : Bool) (text : List Char) : Option (Bool × List Char) :=
  match text.dropWhile (· ≠ ':') with
  | ':' :: ']' :: rest =>
    if names.contains (String.ofList (text.takeWhile (· ≠ ':'))) then some (negated, rest) else none
  | _ => none

/-- Reads a named set from what stands after its opening bracket, and whether it is negated. -/
def readNamed? : List Char → Option (Bool × List Char)
  | ':' :: '^' :: rest => readName? true rest
  | ':' :: rest => readName? false rest
  | _ => none

/-- Counts the dashes that a set starts with. -/
def readDashes (mode : Mode) (count : Nat) (text : List Char) : Nat × List Char :=
  match start : mode.skip text with
  | '-' :: rest => readDashes mode (count + 1) rest
  | _ => (count, mode.skip text)
termination_by text.length
decreasing_by
  have := mode.length_skip_le text
  rw [start, List.length_cons] at this
  omega

/-- Reads the members that stand at the start of a set: dashes, or else a closing bracket. -/
def readLeading? (mode : Mode) (text : List Char) : Option (Mark × List Char) :=
  let (members, rest) := match readDashes mode 0 text with
    | (0, ']' :: rest) => (1, rest)
    | found => found
  if members = 0 || mode.knowsCases then some (.opening members, rest) else none

/-- Reads the start of a set from what stands after its opening bracket. Where bytes are matched a
    set may not be negated, as then it would hold bytes that are only parts of characters. -/
def readOpening? (mode : Mode) (text : List Char) : Option (Mark × List Char) :=
  match mode.skip text with
  | '^' :: rest => if mode.unicode then readLeading? mode rest else none
  | rest => readLeading? mode rest

def readAtom? (mode : Mode) : List Char → Option (Atom × List Char)
  | [] => none
  | '\\' :: rest => Atom.read? mode rest
  | c :: rest => some (.literal c false, rest)

/-- Whether a dash that stands before a text joins two ends of a range. -/
def joins (mode : Mode) (text : List Char) : Bool :=
  match mode.glimpse text with
  | some ']' => false
  | some '-' => false
  | _ => true

/-- Whether two atoms are the ends of a range. -/
def isRange (mode : Mode) (first last : Atom) : Bool :=
  match first, last with
  | .literal low _, .literal high _ =>
    low.toNat ≤ high.toNat && mode.admitsMember first && mode.admitsMember last
  | _, _ => false

def readMember? (mode : Mode) (text : List Char) : Option (Mark × List Char) :=
  match readAtom? mode text with
  | none => none
  | some (first, after) =>
    match mode.skip after with
    | '-' :: rest =>
      if joins mode rest then
        match readAtom? mode (mode.skip rest) with
        | none => none
        | some (last, rest) => if isRange mode first last then some (.member, rest) else none
      else if mode.admitsMember first then some (.member, after)
      else none
    | _ => if mode.admitsMember first then some (.member, after) else none

/-- Whether a character and the start of a text make an operator. -/
def isOperator (c : Char) (rest : List Char) : Bool :=
  ['&', '-', '~'].contains c && rest.head? = some c

/-- Reads the next mark within a set. -/
def read? (mode : Mode) (text : List Char) : Option (Mark × List Char) :=
  match mode.skip text with
  | [] => none
  | c :: rest =>
    if c = '[' then
      match readNamed? rest with
      | some (negated, after) =>
        if mode.knowsCases && (mode.unicode || !negated) then some (.member, after) else none
      | none => readOpening? mode rest
    else if c = ']' then some (.closing, rest)
    else if isOperator c rest then some (.operator, rest.drop 1)
    else readMember? mode (c :: rest)

private theorem length_readDashes_le (mode : Mode) (count : Nat) (text : List Char) :
    (readDashes mode count text).2.length ≤ text.length := by
  fun_induction readDashes mode count text with
  | case1 count text rest start ih =>
    have := mode.length_skip_le text
    rw [start, List.length_cons] at this
    omega
  | case2 count text => exact mode.length_skip_le text

theorem length_readOpening?_le {mode : Mode} {mark : Mark} {text rest : List Char}
    (found : readOpening? mode text = some (mark, rest)) : rest.length ≤ text.length := by
  have leading {text : List Char} (found : readLeading? mode text = some (mark, rest)) :
      rest.length ≤ text.length := by
    have dashes := length_readDashes_le mode 0 text
    unfold readLeading? at found
    split at found
    next members after start =>
      split at found
      · simp only [Option.some.injEq, Prod.mk.injEq] at found
        rw [← found.2]
        split at start
        · next same =>
          rw [same] at dashes
          simp only [Prod.mk.injEq, List.length_cons] at start dashes
          rw [← start.2]
          omega
        · rw [start] at dashes
          exact dashes
      · contradiction
  have skipped := mode.length_skip_le text
  unfold readOpening? at found
  split at found
  · next start =>
    rw [start, List.length_cons] at skipped
    split at found
    · have := leading found
      omega
    · contradiction
  · exact Nat.le_trans (leading found) skipped

private theorem length_readAtom?_lt {mode : Mode} {atom : Atom} {text rest : List Char}
    (found : readAtom? mode text = some (atom, rest)) : rest.length < text.length := by
  unfold readAtom? at found
  split at found
  · contradiction
  · have := Atom.length_read?_lt found
    rw [List.length_cons]
    omega
  · simp only [Option.some.injEq, Prod.mk.injEq] at found
    rw [← found.2, List.length_cons]
    omega

private theorem length_readMember?_lt {mode : Mode} {mark : Mark} {text rest : List Char}
    (found : readMember? mode text = some (mark, rest)) : rest.length < text.length := by
  unfold readMember? at found
  split at found
  · contradiction
  · next first after read =>
    have shorter := length_readAtom?_lt read
    have skipped := mode.length_skip_le after
    split at found
    · next more start =>
      rw [start, List.length_cons] at skipped
      split at found
      · split at found
        · contradiction
        · next last behind readLast =>
          have := length_readAtom?_lt readLast
          have := mode.length_skip_le more
          split at found
          · simp only [Option.some.injEq, Prod.mk.injEq] at found
            rw [← found.2]
            omega
          · contradiction
      · split at found
        · simp only [Option.some.injEq, Prod.mk.injEq] at found
          exact found.2 ▸ shorter
        · contradiction
    · split at found
      · simp only [Option.some.injEq, Prod.mk.injEq] at found
        exact found.2 ▸ shorter
      · contradiction

private theorem length_readNamed?_le {negated : Bool} {text rest : List Char}
    (found : readNamed? text = some (negated, rest)) : rest.length ≤ text.length := by
  have name {sign : Bool} {text : List Char} (found : readName? sign text = some (negated, rest)) :
      rest.length ≤ text.length := by
    have shorter := (@List.dropWhile_suffix _ text (· ≠ ':')).length_le
    unfold readName? at found
    split at found
    · next after start =>
      rw [start] at shorter
      simp only [List.length_cons] at shorter
      split at found
      · simp only [Option.some.injEq, Prod.mk.injEq] at found
        rw [← found.2]
        omega
      · contradiction
    · contradiction
  unfold readNamed? at found
  split at found
  · have := name found
    simp only [List.length_cons]
    omega
  · have := name found
    simp only [List.length_cons]
    omega
  · contradiction

theorem length_read?_lt {mode : Mode} {mark : Mark} {text rest : List Char}
    (found : read? mode text = some (mark, rest)) : rest.length < text.length := by
  have skipped := mode.length_skip_le text
  unfold read? at found
  split at found
  · contradiction
  · next c after start =>
    rw [start, List.length_cons] at skipped
    split at found
    · split at found
      · next named =>
        have := length_readNamed?_le named
        split at found
        · simp only [Option.some.injEq, Prod.mk.injEq] at found
          rw [← found.2]
          omega
        · contradiction
      · have := length_readOpening?_le found
        omega
    · split at found
      · simp only [Option.some.injEq, Prod.mk.injEq] at found
        rw [← found.2]
        omega
      · split at found
        · simp only [Option.some.injEq, Prod.mk.injEq] at found
          rw [← found.2, List.length_drop]
          omega
        · have := length_readMember?_lt found
          rw [List.length_cons] at this
          omega

end Mark

namespace Bracket

/-- A set of which a number of members has been read. -/
def ofMembers (members : Nat) : Bracket := ⟨none, List.replicate members 0⟩

def add (bracket : Bracket) (depth : Nat) : Bracket :=
  { bracket with members := depth :: bracket.members }

def innerDepth (bracket : Bracket) : Nat :=
  match bracket.left with
  | none => joinDepths bracket.members
  | some left => max left (joinDepths bracket.members) + 1

def depth (bracket : Bracket) : Nat := bracket.innerDepth + 1

/-- The set after an operator; operators of any kind apply from left to right. -/
def operate (bracket : Bracket) : Bracket := ⟨some bracket.innerDepth, []⟩

/-- Reads the rest of the innermost set and of those around it, and gives the depth of the outermost
    one. -/
def read? (mode : Mode) (inner : Bracket) (outer : List Bracket) (text : List Char) :
    Option (Nat × List Char) :=
  match _ : Mark.read? mode text with
  | none => none
  | some (.opening members, rest) => read? mode (ofMembers members) (inner :: outer) rest
  | some (.closing, rest) =>
    match outer with
    | [] => some (inner.depth, rest)
    | around :: outer => read? mode (around.add inner.depth) outer rest
  | some (.operator, rest) => read? mode inner.operate outer rest
  | some (.member, rest) => read? mode (inner.add 0) outer rest
termination_by text.length
decreasing_by all_goals exact Mark.length_read?_lt ‹_›

/-- Reads a set from what stands after its opening bracket, and gives its depth. -/
def ofText? (mode : Mode) (text : List Char) : Option (Nat × List Char) :=
  match Mark.readOpening? mode text with
  | some (.opening members, rest) => read? mode (ofMembers members) [] rest
  | _ => none

private theorem length_readRest?_le {mode : Mode} {inner : Bracket} {outer : List Bracket}
    {text rest : List Char} {depth : Nat}
    (found : read? mode inner outer text = some (depth, rest)) : rest.length ≤ text.length := by
  fun_induction read? mode inner outer text with
  | case1 => contradiction
  | case2 inner outer text members after mark ih =>
    exact Nat.le_trans (ih found) (Nat.le_of_lt (Mark.length_read?_lt mark))
  | case3 inner text after mark =>
    simp only [Option.some.injEq, Prod.mk.injEq] at found
    exact found.2 ▸ Nat.le_of_lt (Mark.length_read?_lt mark)
  | case4 inner text after mark around outer ih =>
    exact Nat.le_trans (ih found) (Nat.le_of_lt (Mark.length_read?_lt mark))
  | case5 inner outer text after mark ih =>
    exact Nat.le_trans (ih found) (Nat.le_of_lt (Mark.length_read?_lt mark))
  | case6 inner outer text after mark ih =>
    exact Nat.le_trans (ih found) (Nat.le_of_lt (Mark.length_read?_lt mark))

theorem length_ofText?_le {mode : Mode} {text rest : List Char} {depth : Nat}
    (found : ofText? mode text = some (depth, rest)) : rest.length ≤ text.length := by
  unfold ofText? at found
  split at found
  · next opened =>
    exact Nat.le_trans (length_readRest?_le found) (Mark.length_readOpening?_le opened)
  · contradiction

end Bracket

end GoldFront.Pattern
