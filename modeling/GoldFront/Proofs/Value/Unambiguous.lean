import GoldFront.Proofs.Binary64.Decimal
import GoldFront.Proofs.Text.Quoted
import GoldFront.Proofs.Value.Literal

namespace GoldFront

/-- A text is read as one list of items. -/
theorem ReadsAs.items_eq {text : List Char} {items others : List (Kind × String)}
    (reads : ReadsAs text items) (also : ReadsAs text others) : items = others := by
  rw [← @String.toList_ofList text] at reads also
  have same := reads.tokenize_eq.1.symm.trans also.tokenize_eq.1
  exact List.append_cancel_right same

variable {behind beyond : List (Kind × String)}

/-- The kind of the first token but for a minus. -/
def leadingKind : List (Kind × String) → Option Kind
  | (.symbol .minus, _) :: rest => rest.head?.map Prod.fst
  | items => items.head?.map Prod.fst

/-- Digits behind a minus, or without one. -/
def signedLiteral (negative : Bool) (kind : Kind) (digits : String) : List (Kind × String) :=
  if negative then [Symbol.minus.kindAndLiteral, (kind, digits)] else [(kind, digits)]

theorem signedLiteral_inj {negative other : Bool} {kind : Kind} {digits run : String}
    (plain : kind ≠ .symbol .minus)
    (same : signedLiteral negative kind digits ++ behind = signedLiteral other kind run ++ beyond) :
    negative = other ∧ digits = run := by
  cases negative with
  | true =>
    cases other with
    | true =>
      have digits := (List.cons_eq_cons.1 (List.cons_eq_cons.1 same).2).1
      exact ⟨rfl, (Prod.mk.inj digits).2⟩
    | false => exact absurd (Prod.mk.inj (List.cons_eq_cons.1 same).1).1.symm plain
  | false =>
    cases other with
    | true => exact absurd (Prod.mk.inj (List.cons_eq_cons.1 same).1).1 plain
    | false => exact ⟨rfl, (Prod.mk.inj (List.cons_eq_cons.1 same).1).2⟩

theorem integerLiteral_eq (number : Int) :
    integerLiteral number = signedLiteral (decide (number < 0)) .int number.natAbs.repr := by
  by_cases negative : number < 0
  · simp [integerLiteral, signedLiteral, negative]
  · have magnitude : number.toNat = number.natAbs := by omega
    have written : number.repr = number.natAbs.repr := by
      rw [Int.repr_eq_if, if_pos (by omega), magnitude]
    simp [integerLiteral, signedLiteral, negative, written]

theorem eq_of_repr {m n : Nat} (same : m.repr = n.repr) : m = n :=
  calc
    m = Nat.ofDigitChars 10 (Nat.toDigits 10 m) 0 := Nat.ofDigitChars_ten_toDigits.symm
    _ = Nat.ofDigitChars 10 (Nat.toDigits 10 n) 0 := by
      rw [← Nat.toList_repr, same, Nat.toList_repr]
    _ = n := Nat.ofDigitChars_ten_toDigits

theorem integerLiteral_inj {m n : Int}
    (same : integerLiteral m ++ behind = integerLiteral n ++ beyond) : m = n := by
  rw [integerLiteral_eq, integerLiteral_eq] at same
  obtain ⟨sign, digits⟩ := signedLiteral_inj Kind.noConfusion same
  have magnitude := eq_of_repr digits
  rw [decide_eq_decide] at sign
  omega

theorem Binary64.literal_eq {x : Binary64} (finite : x.isFinite) :
    x.literal = signedLiteral x.isNegative .float (String.ofList x.abs.text) := by
  rw [literal, text_eq finite, signedLiteral]
  split
  · rfl
  · rfl

theorem Binary64.literal_inj {x y : Binary64} (finite : x.isFinite) (otherFinite : y.isFinite)
    (same : x.literal ++ behind = y.literal ++ beyond) : x = y := by
  rw [literal_eq finite, literal_eq otherFinite] at same
  obtain ⟨sign, text⟩ := signedLiteral_inj Kind.noConfusion same
  refine eq_of_abs sign (eq_of_text ?_ ?_ (String.ofList_inj.1 text))
  · rwa [isFinite_abs]
  · rwa [isFinite_abs]

theorem leadingKind_int (number : Int) :
    leadingKind (integerLiteral number ++ behind) = some .int := by
  rw [integerLiteral_eq, signedLiteral]
  split
  · rfl
  · rfl

theorem leadingKind_float (x : Binary64) : leadingKind (x.literal ++ behind) = some .float := by
  rw [Binary64.literal]
  split
  · rfl
  · rfl

/-- The word that a truth is written by. -/
def truthKeyword (truth : Bool) : Keyword := if truth then .true_ else .false_

theorem truthKeyword_inj {truth other : Bool} (same : truthKeyword truth = truthKeyword other) :
    truth = other := by
  revert truth other
  decide

theorem leadingKind_truth (truth : Bool) :
    leadingKind (truthLiteral truth ++ behind) = some (.keyword (truthKeyword truth)) := by
  cases truth with
  | true => rfl
  | false => rfl

namespace Key

variable {k l : Key}

/-- What the literal of a key starts with behind its minus. -/
def leading : Key → Kind
  | integer _ => .int
  | boolean truth => .keyword (truthKeyword truth)
  | string _ => .string

theorem leadingKind_literal (k : Key) : leadingKind (k.literal ++ behind) = some k.leading := by
  cases k with
  | integer number => exact leadingKind_int number.toInt
  | boolean truth => exact leadingKind_truth truth
  | string text => rfl

theorem eq_of_literal (same : k.literal ++ behind = l.literal ++ beyond) : k = l := by
  have lead : some k.leading = some l.leading := by
    rw [← leadingKind_literal, same, leadingKind_literal]
  rw [Option.some_inj] at lead
  cases k with
  | integer m =>
    cases l with
    | integer n => exact congrArg integer (Int64.toInt_inj.1 (integerLiteral_inj same))
    | _ => cases lead
  | boolean truth =>
    cases l with
    | boolean other => exact congrArg boolean (truthKeyword_inj (Kind.keyword.inj lead))
    | _ => cases lead
  | string text =>
    cases l with
    | string other => exact congrArg string (Prod.mk.inj (List.cons_eq_cons.1 same).1).2
    | _ => cases lead

theorem eq_of_text (writable : k.IsLiteral) (otherWritable : l.IsLiteral) (same : k.text = l.text) :
    k = l := by
  have reads := ReadsAs.key writable
  rw [same] at reads
  have literal := reads.items_eq (ReadsAs.key otherWritable)
  exact eq_of_literal (congrArg (· ++ []) literal)

end Key

namespace Value

variable {a b : Value}

/-- What the literal of a value starts with behind its minus. -/
def leading : Value → Option Kind
  | integer _ => some .int
  | float _ => some .float
  | boolean truth => some (.keyword (truthKeyword truth))
  | null => some (.keyword .null)
  | array _ => some (.symbol .lbracket)
  | dictionary _ => some (.symbol .lbrace)
  | _ => none

theorem IsLiteral.leadingKind_literal (writable : a.IsLiteral) :
    leadingKind (a.literal ++ behind) = a.leading := by
  cases writable with
  | integer number => exact leadingKind_int number.toInt
  | float _ => exact leadingKind_float _
  | boolean truth => exact leadingKind_truth truth
  | null => rfl
  | array _ =>
    rw [literal_array]
    rfl
  | dictionary _ _ =>
    rw [literal_dictionary]
    rfl

theorem IsLiteral.leading_eq (writable : a.IsLiteral) (other : b.IsLiteral)
    (same : a.literal ++ behind = b.literal ++ beyond) : a.leading = b.leading := by
  rw [← writable.leadingKind_literal, same, other.leadingKind_literal]

/-- No literal starts with the bracket that closes an array. -/
theorem IsLiteral.append_ne_rbracket (writable : a.IsLiteral) :
    a.literal ++ behind ≠ Symbol.rbracket.kindAndLiteral :: beyond := by
  intro same
  have lead : a.leading = some (.symbol .rbracket) := by
    rw [← writable.leadingKind_literal, same]
    rfl
  cases writable <;> cases lead

/-- No entry starts with the brace that closes a dictionary. -/
theorem entryLiteral_append_ne_rbrace (entry : Key × Value) :
    entryLiteral entry ++ behind ≠ Symbol.rbrace.kindAndLiteral :: beyond := by
  intro same
  obtain ⟨key, value⟩ := entry
  rw [entryLiteral, List.append_assoc] at same
  have lead : some key.leading = some (.symbol .rbrace) := by
    rw [← Key.leadingKind_literal, same]
    rfl
  cases key <;> cases lead

/-- An entry ends itself where its value does. -/
theorem endsItself_entryLiteral {entry : Key × Value}
    (ends : EndsItself literal IsLiteral entry.2) :
    EndsItself entryLiteral (fun other => other.2.IsLiteral) entry := by
  intro other writable behind beyond same
  rw [entryLiteral, entryLiteral, List.append_assoc, List.append_assoc] at same
  have key := Key.eq_of_literal same
  rw [key] at same
  have value := (List.cons_eq_cons.1 (List.append_cancel_left same)).2
  exact Prod.ext key (ends writable value)

theorem elements_eq {elements others : List Value}
    (ends : ∀ element ∈ elements, EndsItself literal IsLiteral element)
    (writable : ∀ element ∈ elements, element.IsLiteral)
    (otherWritable : ∀ other ∈ others, other.IsLiteral)
    (same : (array elements).literal ++ behind = (array others).literal ++ beyond) :
    elements = others := by
  rw [literal_array, literal_array, List.cons_append, List.cons_append, List.append_assoc,
    List.append_assoc] at same
  exact eq_of_intercalate (by decide) (fun _ writable _ _ => writable.append_ne_rbracket) ends
    writable otherWritable (List.cons_eq_cons.1 same).2

theorem entries_eq {entries others : List (Key × Value)}
    (ends : ∀ entry ∈ entries, EndsItself literal IsLiteral entry.2)
    (writable : ∀ entry ∈ entries, entry.2.IsLiteral)
    (otherWritable : ∀ other ∈ others, other.2.IsLiteral)
    (same : (dictionary entries).literal ++ behind = (dictionary others).literal ++ beyond) :
    entries = others := by
  rw [literal_dictionary, literal_dictionary, List.cons_append, List.cons_append,
    List.append_assoc, List.append_assoc] at same
  exact eq_of_intercalate (by decide) (fun entry _ _ _ => entryLiteral_append_ne_rbrace entry)
    (fun entry member => endsItself_entryLiteral (ends entry member)) writable otherWritable
    (List.cons_eq_cons.1 same).2

theorem IsLiteral.endsItself (writable : a.IsLiteral) : EndsItself literal IsLiteral a := by
  -- Only values of one constructor have the same leading kind, and truths only if they are the same.
  induction writable with
  | integer m =>
    intro b other behind beyond same
    have lead := (IsLiteral.integer m).leading_eq other same
    cases other with
    | integer n => exact congrArg Value.integer (Int64.toInt_inj.1 (integerLiteral_inj same))
    | _ => cases lead
  | @float x finite =>
    intro b other behind beyond same
    have lead := (IsLiteral.float finite).leading_eq other same
    cases other with
    | float otherFinite =>
      exact congrArg Value.float (Binary64.literal_inj finite otherFinite same)
    | _ => cases lead
  | boolean truth =>
    intro b other behind beyond same
    have lead := (IsLiteral.boolean truth).leading_eq other same
    cases other with
    | boolean other =>
      exact congrArg Value.boolean (truthKeyword_inj (Kind.keyword.inj (Option.some.inj lead)))
    | null => cases truth <;> cases lead
    | _ => cases lead
  | null =>
    intro b other behind beyond same
    have lead := IsLiteral.null.leading_eq other same
    cases other with
    | boolean truth => cases truth <;> cases lead
    | null => rfl
    | _ => cases lead
  | @array elements writables ih =>
    intro b other behind beyond same
    have lead := (IsLiteral.array writables).leading_eq other same
    cases other with
    | @array others otherWritables =>
      exact congrArg Value.array (elements_eq ih writables otherWritables same)
    | _ => cases lead
  | @dictionary entries keys writables ih =>
    intro b other behind beyond same
    have lead := (IsLiteral.dictionary keys writables).leading_eq other same
    cases other with
    | @dictionary others otherKeys otherWritables =>
      exact congrArg Value.dictionary (entries_eq ih writables otherWritables same)
    | _ => cases lead

theorem IsLiteral.eq_of_inspect (writable : a.IsLiteral) (otherWritable : b.IsLiteral)
    (same : a.inspect = b.inspect) : a = b := by
  have text : a.text = b.text := String.ofList_inj.1 same
  have reads := writable.readsAs_text
  rw [text] at reads
  have literal := reads.items_eq otherWritable.readsAs_text
  exact writable.endsItself otherWritable (congrArg (· ++ []) literal)

/-- Values that can be written have the same text only if they are the same value, down to the bits
    of a floating point number. The same holds of keys; and a whole number is never written as a
    floating point number is. -/
theorem inspect_inj (writable : a.IsLiteral) (otherWritable : b.IsLiteral) :
    (a.inspect = b.inspect ↔ a = b) ∧
      (∀ k l : Key, k.IsLiteral → l.IsLiteral → (k.text = l.text ↔ k = l)) ∧
      ∀ (n : Int64) (x : Binary64), x.isFinite → (integer n).inspect ≠ (float x).inspect := by
  refine ⟨⟨writable.eq_of_inspect otherWritable, congrArg inspect⟩, fun k l first second => ?_, ?_⟩
  · exact ⟨Key.eq_of_text first second, congrArg Key.text⟩
  · intro n x finite same
    cases IsLiteral.eq_of_inspect (.integer n) (.float finite) same

theorem inspect_inj_nested :
    let a : Value := .dictionary
      [(.integer 1, .array [.integer 1, .null]), (.string ", 1: ", .boolean true)]
    let b : Value := .dictionary
      [(.string "1", .array [.float ⟨0x3ff0000000000000⟩]), (.boolean true, .array [])]
    a.IsLiteral ∧ b.IsLiteral ∧ (a.inspect = b.inspect ↔ a = b) ∧
      (∀ k l : Key, k.IsLiteral → l.IsLiteral → (k.text = l.text ↔ k = l)) ∧
      ∀ (n : Int64) (x : Binary64), x.isFinite → (integer n).inspect ≠ (float x).inspect := by
  intro a b
  have noQuote : '"' ∉ ", 1: ".toList := by decide
  have otherNoQuote : '"' ∉ "1".toList := by decide
  have elements : ∀ element ∈ [Value.integer 1, .null], element.IsLiteral :=
    List.forall_mem_cons.2 ⟨.integer 1, List.forall_mem_singleton.2 .null⟩
  have others : ∀ element ∈ [Value.float ⟨0x3ff0000000000000⟩], element.IsLiteral :=
    List.forall_mem_singleton.2 (.float (by decide))
  have writable : a.IsLiteral :=
    .dictionary (List.forall_mem_cons.2 ⟨trivial, List.forall_mem_singleton.2 noQuote⟩)
      (List.forall_mem_cons.2 ⟨.array elements, List.forall_mem_singleton.2 (.boolean true)⟩)
  have otherWritable : b.IsLiteral :=
    .dictionary (List.forall_mem_cons.2 ⟨otherNoQuote, List.forall_mem_singleton.2 trivial⟩)
      (List.forall_mem_cons.2
        ⟨.array others, List.forall_mem_singleton.2 (.array (List.forall_mem_nil _))⟩)
  exact ⟨writable, otherWritable, inspect_inj writable otherWritable⟩

end Value

end GoldFront
