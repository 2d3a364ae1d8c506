import GoldFront.Pattern.Bracket
import GoldFront.Text.Alphanumeric

namespace GoldFront.Pattern

/-- What is read of a pattern at a time. -/
inductive Piece where
  /-- A part that is matched, with its depth. -/
  | part (depth : Nat)
  | wordEdge
  /-- Flags for the rest of a group, with the mode after them. -/
  | setting (mode : Mode)
  /-- The start of a group, with the mode in it, and the name if it has one. -/
  | opening (mode : Mode) (name : Option (List Char))
  | closing
  | bar
  /-- A sign that the part before it may be repeated or left out. -/
  | repetition
deriving DecidableEq, Repr

namespace Piece

/-- Whether a text may name a group. -/
def isName : List Char → Bool
  | [] => false
  | first :: others =>
    (first = '_' || Text.isAlphabetic first) &&
      others.all fun c => ['_', '.', '[', ']'].contains c || Text.isAlphanumeric c

/-- Reads the name of a group up to the angle that ends it. -/
def readName? (mode : Mode) (text : List Char) : Option (Piece × List Char) :=
  let name := text.takeWhile (· ≠ '>')
  match text.dropWhile (· ≠ '>') with
  | [] => none
  | _ :: rest => if isName name then some (.opening mode (some name), rest) else none

/-- Reads flags up to a colon, which starts a group, or to a closing bracket. Only for a group the
    list of flags may be empty. -/
def readFlags? (mode : Mode) (text : List Char) : Option (Piece × List Char) :=
  let flags := text.takeWhile fun c => c ≠ ':' && c ≠ ')'
  match text.dropWhile fun c => c ≠ ':' && c ≠ ')' with
  | [] => none
  | c :: rest =>
    if !Mode.listsFlags flags then none
    else if c = ':' then some (.opening (mode.change flags) none, rest)
    else if flags.isEmpty then none
    else some (.setting (mode.change flags), rest)

/-- Reads what stands after the opening bracket of a group up to its first part. A group cannot ask
    for what stands before or after it in the text. -/
def readOpening? (mode : Mode) (text : List Char) : Option (Piece × List Char) :=
  match mode.skip text with
  | '?' :: 'P' :: '<' :: rest => readName? mode rest
  | '?' :: '<' :: rest => readName? mode rest
  | '?' :: rest => readFlags? mode rest
  | rest => some (.opening mode none, rest)

/-- The piece of an atom, if it can be used. Only the words of all scripts need more than bytes. -/
def ofAtom? (mode : Mode) (atom : Atom) : Option Piece :=
  if !mode.admits atom then none
  else if atom = .wordEdge && mode.unicode then some .wordEdge
  else some (.part 0)

/-- The atom of a character that stands for itself, or for a place or any character. -/
def atomOf (c : Char) : Atom :=
  if c = '.' then .any
  else if c = '^' || c = '$' then .anchor
  else .literal c false

/-- Reads the piece that starts with a character. Repetitions are not counted, so an opening brace
    stands for nothing. -/
def read? (mode : Mode) (c : Char) (rest : List Char) : Option (Piece × List Char) :=
  if c = '(' then readOpening? mode rest
  else if c = ')' then some (.closing, rest)
  else if c = '|' then some (.bar, rest)
  else if c = '{' then none
  else if c = '[' then (Bracket.ofText? mode rest).map fun (depth, after) => (.part depth, after)
  else if ['?', '*', '+'].contains c then
    some (.repetition, if rest.head? = some '?' then rest.drop 1 else rest)
  else if c = '\\' then
    match Atom.read? mode rest with
    | none => none
    | some (atom, after) => (ofAtom? mode atom).map (·, after)
  else (ofAtom? mode (atomOf c)).map (·, rest)

private theorem length_readOpening?_le {mode : Mode} {piece : Piece} {text rest : List Char}
    (found : readOpening? mode text = some (piece, rest)) : rest.length ≤ text.length := by
  have name {text : List Char} (found : readName? mode text = some (piece, rest)) :
      rest.length ≤ text.length := by
    have shorter := (@List.dropWhile_suffix _ text (· ≠ '>')).length_le
    simp only [readName?] at found
    split at found
    · contradiction
    · next start =>
      rw [start, List.length_cons] at shorter
      split at found
      · simp only [Option.some.injEq, Prod.mk.injEq] at found
        rw [← found.2]
        omega
      · contradiction
  have flags {text : List Char} (found : readFlags? mode text = some (piece, rest)) :
      rest.length ≤ text.length := by
    have shorter :=
      (@List.dropWhile_suffix _ text (fun c => c ≠ ':' && c ≠ ')')).length_le
    simp only [readFlags?] at found
    split at found
    · contradiction
    · next start =>
      rw [start, List.length_cons] at shorter
      split at found
      · contradiction
      · split at found
        · simp only [Option.some.injEq, Prod.mk.injEq] at found
          rw [← found.2]
          omega
        · split at found
          · contradiction
          · simp only [Option.some.injEq, Prod.mk.injEq] at found
            rw [← found.2]
            omega
  have skipped := mode.length_skip_le text
  unfold readOpening? at found
  split at found
  · next start =>
    have := name found
    simp only [start, List.length_cons] at skipped
    omega
  · next start =>
    have := name found
    simp only [start, List.length_cons] at skipped
    omega
  · next start =>
    have := flags found
    simp only [start, List.length_cons] at skipped
    omega
  · simp only [Option.some.injEq, Prod.mk.injEq] at found
    exact found.2 ▸ skipped

/-- A piece is read from its first character and those that are no longer left. -/
theorem length_read?_le {mode : Mode} {c : Char} {piece : Piece} {text rest : List Char}
    (found : read? mode c text = some (piece, rest)) : rest.length ≤ text.length := by
  unfold read? at found
  split at found
  · exact length_readOpening?_le found
  · split at found
    · simp only [Option.some.injEq, Prod.mk.injEq] at found
      exact found.2 ▸ Nat.le_refl _
    · split at found
      · simp only [Option.some.injEq, Prod.mk.injEq] at found
        exact found.2 ▸ Nat.le_refl _
      · split at found
        · contradiction
        · split at found
          · obtain ⟨⟨depth, after⟩, read, same⟩ := Option.map_eq_some_iff.1 found
            simp only [Prod.mk.injEq] at same
            exact same.2 ▸ Bracket.length_ofText?_le read
          · split at found
            · simp only [Option.some.injEq, Prod.mk.injEq] at found
              rw [← found.2]
              split
              · rw [List.length_drop]; omega
              · exact Nat.le_refl _
            · split at found
              · split at found
                · contradiction
                · next read =>
                  obtain ⟨_, _, same⟩ := Option.map_eq_some_iff.1 found
                  simp only [Prod.mk.injEq] at same
                  exact same.2 ▸ Nat.le_of_lt (Atom.length_read?_lt read)
              · obtain ⟨_, _, same⟩ := Option.map_eq_some_iff.1 found
                simp only [Prod.mk.injEq] at same
                exact same.2 ▸ Nat.le_refl _

end Piece

/-- Why a pattern cannot be used. -/
inductive Obstacle where
  /-- It is not well formed, or has a part that cannot be matched. -/
  | noAutomaton
  /-- It asks for the edges of words of all scripts. -/
  | wordEdges
deriving DecidableEq, Repr

/-- A group that is open, or the whole pattern. -/
structure Group where
  mode : Mode
  /-- The depths of the branches before the last bar. -/
  branches : List Nat
  /-- The depths of the parts of the last branch, the last one first; flags count as a part. -/
  parts : List Nat
  /-- Whether there is a last part that may be repeated. -/
  repeatable : Bool
deriving DecidableEq, Repr

structure Progress where
  inner : Group
  outer : List Group
  names : List (List Char)
  wordEdges : Bool
deriving DecidableEq, Repr

namespace Group

/-- A group of which nothing has been read. -/
def ofMode (mode : Mode) : Group := ⟨mode, [], [], false⟩

def add (group : Group) (depth : Nat) : Group :=
  { group with parts := depth :: group.parts, repeatable := true }

/-- The group after flags, which hold for it up to its end. -/
def set (group : Group) (mode : Mode) : Group :=
  { group with mode := mode, parts := 0 :: group.parts, repeatable := false }

/-- The group after a bar. -/
def split (group : Group) : Group :=
  { group with
    branches := joinDepths group.parts :: group.branches
    parts := []
    repeatable := false }

/-- The group with its last part repeated. -/
def repeat? (group : Group) : Option Group :=
  match group.parts with
  | depth :: parts =>
    if group.repeatable then some { group with parts := (depth + 1) :: parts } else none
  | [] => none

/-- The depth of what stands in the group. -/
def innerDepth (group : Group) : Nat := joinDepths (joinDepths group.parts :: group.branches)

end Group

namespace Progress

def start : Progress := ⟨.ofMode .initial, [], [], false⟩

def add (progress : Progress) (depth : Nat) : Progress :=
  { progress with inner := progress.inner.add depth }

/-- Opens a group. No two groups have one name. -/
def open? (progress : Progress) (mode : Mode) (name : Option (List Char)) : Option Progress :=
  if name.any progress.names.contains then none
  else
    some { progress with
      inner := .ofMode mode
      outer := progress.inner :: progress.outer
      names := name.toList ++ progress.names }

/-- Closes the innermost group, which is then a part of the one around it. -/
def close? (progress : Progress) : Option Progress :=
  match progress.outer with
  | [] => none
  | around :: outer =>
    some { progress with inner := around.add (progress.inner.innerDepth + 1), outer := outer }

/-- Goes on by one piece. -/
def next? (progress : Progress) : Piece → Option Progress
  | .part depth => some (progress.add depth)
  | .wordEdge => some { progress.add 0 with wordEdges := true }
  | .setting mode => some { progress with inner := progress.inner.set mode }
  | .opening mode name => progress.open? mode name
  | .closing => progress.close?
  | .bar => some { progress with inner := progress.inner.split }
  | .repetition => progress.inner.repeat?.map fun inner => { progress with inner := inner }

/-- The greatest depth of a pattern. -/
def maxDepth : Nat := 250

/-- What stands against the use of a pattern that ends here. -/
def obstacle? (progress : Progress) : Option Obstacle :=
  if !progress.outer.isEmpty || maxDepth < progress.inner.innerDepth then some .noAutomaton
  else if progress.wordEdges then some .wordEdges
  else none

/-- What stands against the use of a pattern that goes on with a text. -/
def obstacleIn? (progress : Progress) (text : List Char) : Option Obstacle :=
  match _ : progress.inner.mode.skip text with
  | [] => progress.obstacle?
  | c :: rest =>
    match _ : Piece.read? progress.inner.mode c rest with
    | none => some .noAutomaton
    | some (piece, after) =>
      match progress.next? piece with
      | none => some .noAutomaton
      | some further => further.obstacleIn? after
termination_by text.length
decreasing_by
  have skipped := progress.inner.mode.length_skip_le text
  rw [‹progress.inner.mode.skip text = _›, List.length_cons] at skipped
  have := Piece.length_read?_le ‹_›
  omega

end Progress

/-- What stands against the use of a text as a pattern. -/
def obstacle? (text : List Char) : Option Obstacle := Progress.start.obstacleIn? text

end GoldFront.Pattern
