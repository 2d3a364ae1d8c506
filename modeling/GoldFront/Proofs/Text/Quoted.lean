import Mathlib.Data.List.Basic
import Mathlib.Data.List.Nodup
import GoldFront.Report.Layout
import GoldFront.Text.Quoted

namespace GoldFront

namespace Text

variable {d : Char} {front other behind beyond : List Char}

/-- The first place of a character splits a text in one way. -/
theorem append_cons_inj (first : d ∉ front) (second : d ∉ other) :
    front ++ d :: behind = other ++ d :: beyond ↔ front = other ∧ behind = beyond := by
  refine ⟨fun same => ?_, by rintro ⟨rfl, rfl⟩; rfl⟩
  induction front generalizing other with
  | nil =>
    cases other with
    | nil => exact ⟨rfl, (List.cons_eq_cons.1 same).2⟩
    | cons c other =>
      obtain ⟨rfl, _⟩ := List.cons_eq_cons.1 same
      exact absurd List.mem_cons_self second
  | cons c front ih =>
    cases other with
    | nil =>
      obtain ⟨rfl, _⟩ := List.cons_eq_cons.1 same
      exact absurd List.mem_cons_self first
    | cons e other =>
      obtain ⟨rfl, later⟩ := List.cons_eq_cons.1 same
      obtain ⟨rfl, rfl⟩ := ih (List.not_mem_of_not_mem_cons first)
        (List.not_mem_of_not_mem_cons second) later
      exact ⟨rfl, rfl⟩

/-- The last place of a character does so too. -/
theorem append_cons_inj_last (first : d ∉ behind) (second : d ∉ beyond) :
    front ++ d :: behind = other ++ d :: beyond ↔ front = other ∧ behind = beyond := by
  have backwards : ∀ ahead after : List Char,
      (ahead ++ d :: after).reverse = after.reverse ++ d :: ahead.reverse := by simp
  rw [← List.reverse_inj, backwards, backwards,
    append_cons_inj (mt List.mem_reverse.1 first) (mt List.mem_reverse.1 second),
    List.reverse_inj, List.reverse_inj, and_comm]

end Text

section Parts

variable {α β : Type} {itemsOf : α → List β} {P : α → Prop} {sep closing : β} {gap : List β}
  {parts others : List α} {behind beyond : List β}

theorem intercalate_cons (sep : List β) (part : List β) (parts : List (List β)) :
    sep.intercalate (part :: parts) = part ++ parts.flatMap (sep ++ ·) := by
  induction parts generalizing part with
  | nil => simp
  | cons next parts ih =>
    rw [List.intercalate_cons_cons, ih, List.flatMap_cons, List.append_assoc, List.append_assoc]

theorem mem_of_mem_intercalate {sep : List β} {parts : List (List β)} {item : β}
    (member : item ∈ sep.intercalate parts) : item ∈ sep ∨ ∃ part ∈ parts, item ∈ part := by
  cases parts with
  | nil => simp at member
  | cons part parts =>
    rw [intercalate_cons, List.mem_append, List.mem_flatMap] at member
    rcases member with first | ⟨later, among, inside⟩
    · exact .inr ⟨part, List.mem_cons_self, first⟩
    · rcases List.mem_append.1 inside with between | inside
      · exact .inl between
      · exact .inr ⟨later, List.mem_cons_of_mem part among, inside⟩

/-- Whatever stands behind the items of a part, they are not those of another one. -/
def EndsItself (itemsOf : α → List β) (P : α → Prop) (part : α) : Prop :=
  ∀ {other : α}, P other → ∀ {behind beyond : List β},
    itemsOf part ++ behind = itemsOf other ++ beyond → part = other

theorem eq_of_separated (apart : sep ≠ closing) (ends : ∀ part ∈ parts, EndsItself itemsOf P part)
    (allowed : ∀ other ∈ others, P other)
    (same : (parts.map itemsOf).flatMap (sep :: gap ++ ·) ++ closing :: behind =
      (others.map itemsOf).flatMap (sep :: gap ++ ·) ++ closing :: beyond) :
    parts = others := by
  induction parts generalizing others with
  | nil =>
    cases others with
    | nil => rfl
    | cons other others => exact absurd (List.cons_eq_cons.1 same).1.symm apart
  | cons part parts ih =>
    cases others with
    | nil => exact absurd (List.cons_eq_cons.1 same).1 apart
    | cons other others =>
      obtain ⟨first, later⟩ := List.forall_mem_cons.1 ends
      obtain ⟨firstAllowed, laterAllowed⟩ := List.forall_mem_cons.1 allowed
      simp only [List.map_cons, List.flatMap_cons, List.append_assoc, List.cons_append,
        List.cons.injEq, true_and] at same
      have ahead := List.append_cancel_left same
      obtain rfl := first firstAllowed ahead
      rw [ih later laterAllowed (List.append_cancel_left ahead)]

/-- Parts between separators, in front of what closes them. -/
theorem eq_of_intercalate (apart : sep ≠ closing)
    (opens : ∀ part, P part → ∀ behind beyond, itemsOf part ++ behind ≠ closing :: beyond)
    (ends : ∀ part ∈ parts, EndsItself itemsOf P part) (allowed : ∀ part ∈ parts, P part)
    (otherAllowed : ∀ other ∈ others, P other)
    (same : (sep :: gap).intercalate (parts.map itemsOf) ++ closing :: behind =
      (sep :: gap).intercalate (others.map itemsOf) ++ closing :: beyond) :
    parts = others := by
  cases parts with
  | nil =>
    cases others with
    | nil => rfl
    | cons other others =>
      rw [List.map_cons, intercalate_cons, List.append_assoc] at same
      exact absurd same.symm (opens other (otherAllowed _ List.mem_cons_self) _ _)
  | cons part parts =>
    cases others with
    | nil =>
      rw [List.map_cons, intercalate_cons, List.append_assoc] at same
      exact absurd same (opens part (allowed _ List.mem_cons_self) _ _)
    | cons other others =>
      obtain ⟨first, later⟩ := List.forall_mem_cons.1 ends
      obtain ⟨firstAllowed, laterAllowed⟩ := List.forall_mem_cons.1 otherAllowed
      rw [List.map_cons, List.map_cons, intercalate_cons, intercalate_cons, List.append_assoc,
        List.append_assoc] at same
      obtain rfl := first firstAllowed same
      rw [eq_of_separated apart later laterAllowed (List.append_cancel_left same)]

end Parts

namespace Text

variable {d : Char} {gap text other : List Char} {texts others : List (List Char)}

theorem intercalate_cons_inj (apart : d ∉ gap) (free : ∀ part ∈ text :: texts, d ∉ part)
    (otherFree : ∀ part ∈ other :: others, d ∉ part)
    (same : (d :: gap).intercalate (text :: texts) = (d :: gap).intercalate (other :: others)) :
    text = other ∧ texts = others := by
  -- The rest of a separator is taken for the start of the part behind it.
  have narrow : ∀ first (parts : List (List Char)), (d :: gap).intercalate (first :: parts) =
      [d].intercalate (first :: parts.map (gap ++ ·)) := by
    intro first parts
    rw [intercalate_cons, intercalate_cons, List.flatMap_map]
    rfl
  have split : ∀ {first} {parts : List (List Char)}, (∀ part ∈ first :: parts, d ∉ part) →
      ([d].intercalate (first :: parts.map (gap ++ ·))).splitOn d =
        first :: parts.map (gap ++ ·) := by
    intro first parts free
    refine List.splitOn_intercalate d ?_ (List.cons_ne_nil _ _)
    simpa [apart] using free
  rw [narrow, narrow] at same
  have parts := congrArg (List.splitOn d) same
  rw [split free, split otherFree, List.cons.injEq] at parts
  exact ⟨parts.1, List.map_injective_iff.2 (List.append_right_injective gap) parts.2⟩

theorem intercalate_inj (apart : d ∉ gap) (free : ∀ part ∈ texts, part ≠ [] ∧ d ∉ part)
    (otherFree : ∀ part ∈ others, part ≠ [] ∧ d ∉ part) :
    (d :: gap).intercalate texts = (d :: gap).intercalate others ↔ texts = others := by
  refine ⟨fun same => ?_, congrArg _⟩
  have nonempty : ∀ {first} {parts : List (List Char)}, first ≠ [] →
      (d :: gap).intercalate (first :: parts) ≠ [] := by
    intro first parts shown
    rw [intercalate_cons]
    exact List.append_ne_nil_of_left_ne_nil shown _
  cases texts with
  | nil =>
    cases others with
    | nil => rfl
    | cons other others => exact absurd same.symm (nonempty (otherFree other List.mem_cons_self).1)
  | cons text texts =>
    cases others with
    | nil => exact absurd same (nonempty (free text List.mem_cons_self).1)
    | cons other others =>
      obtain ⟨rfl, rfl⟩ := intercalate_cons_inj apart (fun part member => (free part member).2)
        (fun part member => (otherFree part member).2) same
      rfl

open Report (isLineEnd)

theorem digitChar_inj {m n : Nat} (hm : m < 16) (hn : n < 16) (same : m.digitChar = n.digitChar) :
    m = n := by
  have all : ∀ a b : Fin 16, a.val.digitChar = b.val.digitChar → a = b := by decide
  exact congrArg Fin.val (all ⟨m, hm⟩ ⟨n, hn⟩ same)

theorem toDigits_lt_sixteen_iff {n : Nat} : (Nat.toDigits 16 n).length ≤ 1 ↔ n < 16 :=
  Nat.length_toDigits_le_iff (by decide) (by decide)

theorem toDigits_inj {m n : Nat} (same : Nat.toDigits 16 m = Nat.toDigits 16 n) : m = n := by
  induction m using Nat.strongRecOn generalizing n with
  | ind m ih =>
    have sameLength : m < 16 ↔ n < 16 := by
      rw [← toDigits_lt_sixteen_iff, same, toDigits_lt_sixteen_iff]
    by_cases small : m < 16
    · have otherSmall := sameLength.1 small
      rw [Nat.toDigits_of_lt_base small, Nat.toDigits_of_lt_base otherSmall] at same
      exact digitChar_inj small otherSmall (List.cons_eq_cons.1 same).1
    · have large : 16 ≤ m := by omega
      have otherLarge : 16 ≤ n := by omega
      rw [Nat.toDigits_of_base_le (by decide) large,
        Nat.toDigits_of_base_le (by decide) otherLarge] at same
      obtain ⟨front, last⟩ := List.append_inj' same rfl
      have quotient := ih (m / 16) (by omega) front
      have remainder := digitChar_inj (by omega) (by omega) (List.cons_eq_cons.1 last).1
      omega

theorem isAlphanum_of_mem_toDigits {n : Nat} {c : Char} (member : c ∈ Nat.toDigits 16 n) :
    c.isAlphanum := by
  induction n using Nat.strongRecOn with
  | ind n ih =>
    have digit : ∀ a : Fin 16, a.val.digitChar.isAlphanum := by decide
    by_cases small : n < 16
    · rw [Nat.toDigits_of_lt_base small, List.mem_singleton] at member
      exact member ▸ digit ⟨n, small⟩
    · rw [Nat.toDigits_of_base_le (by decide) (by omega)] at member
      rcases List.mem_append.1 member with front | last
      · exact ih (n / 16) (by omega) front
      · exact List.mem_singleton.1 last ▸ digit ⟨n % 16, by omega⟩

/-- The characters that are written with a backslash and one more character. -/
def marks : List (Char × Char) :=
  [('\x00', '0'), ('\t', 't'), ('\r', 'r'), ('\n', 'n'), ('"', '"'), ('\\', '\\')]

/-- How a character may be written. -/
inductive Escapes (c : Char) : List Char → Prop
  | mark {mark : Char} : (c, mark) ∈ marks → Escapes c ['\\', mark]
  | point : Escapes c (codePoint c)
  | plain : c ≠ '"' → c ≠ '\\' → isHidden c = false → Escapes c [c]

theorem escape_of_mem_marks {c mark : Char} (member : (c, mark) ∈ marks) :
    escape c = ['\\', mark] := by
  simp only [marks, List.mem_cons, Prod.mk.injEq, List.not_mem_nil, or_false] at member
  rcases member with ⟨rfl, rfl⟩ | ⟨rfl, rfl⟩ | ⟨rfl, rfl⟩ | ⟨rfl, rfl⟩ | ⟨rfl, rfl⟩ | ⟨rfl, rfl⟩ <;> rfl

theorem escapes (c : Char) : Escapes c (escape c) := by
  by_cases marked : c ∈ marks.map Prod.fst
  · obtain ⟨⟨_, mark⟩, member, rfl⟩ := List.mem_map.1 marked
    rw [escape_of_mem_marks member]
    exact .mark member
  · have others : c ≠ '\x00' ∧ c ≠ '\t' ∧ c ≠ '\r' ∧ c ≠ '\n' ∧ c ≠ '"' ∧ c ≠ '\\' := by
      simpa [marks] using marked
    obtain ⟨noNul, noTab, noReturn, noFeed, noQuote, noBackslash⟩ := others
    simp only [escape, noNul, noTab, noReturn, noFeed, noQuote, noBackslash, if_false]
    by_cases unseen : isExtending c || isHidden c
    · rw [if_pos unseen]
      exact .point
    · rw [if_neg unseen]
      refine .plain noQuote noBackslash ?_
      simp only [Bool.or_eq_true, not_or, Bool.not_eq_true] at unseen
      exact unseen.2

theorem marks_inj {c d mark : Char} (first : (c, mark) ∈ marks) (second : (d, mark) ∈ marks) :
    c = d := by
  have distinct : (marks.map Prod.snd).Nodup := by decide
  exact congrArg Prod.fst (List.inj_on_of_nodup_map distinct first second rfl)

theorem not_mem_marks_u (c : Char) : (c, 'u') ∉ marks := by
  simp [marks]

theorem codePoint_append (c : Char) (behind : List Char) :
    codePoint c ++ behind =
      '\\' :: 'u' :: '\x7b' :: (Nat.toDigits 16 c.toNat ++ '\x7d' :: behind) := by
  simp [codePoint]

theorem codePoint_append_inj {c d : Char} {behind beyond : List Char}
    (same : codePoint c ++ behind = codePoint d ++ beyond) : c = d := by
  have noBrace : ∀ n, '\x7d' ∉ Nat.toDigits 16 n := fun n member =>
    absurd (isAlphanum_of_mem_toDigits member) (by decide)
  simp only [codePoint_append, List.cons.injEq, true_and] at same
  exact Char.toNat_inj.1 (toDigits_inj ((append_cons_inj (noBrace _) (noBrace _)).1 same).1)

/-- No two characters are written alike, nor one like the start of another. -/
theorem Escapes.inj {c d : Char} {text other behind beyond : List Char} (first : Escapes c text)
    (second : Escapes d other) (same : text ++ behind = other ++ beyond) : c = d := by
  cases first with
  | @mark mark member =>
    cases second with
    | @mark otherMark otherMember =>
      obtain ⟨rfl, _⟩ : mark = otherMark ∧ _ := by simpa using same
      exact marks_inj member otherMember
    | point =>
      obtain ⟨rfl, _⟩ : mark = 'u' ∧ _ := by simpa [codePoint_append] using same
      exact absurd member (not_mem_marks_u c)
    | plain _ noBackslash =>
      exact absurd (List.cons_eq_cons.1 same).1.symm noBackslash
  | point =>
    cases second with
    | @mark mark otherMember =>
      obtain ⟨rfl, _⟩ : 'u' = mark ∧ _ := by simpa [codePoint_append] using same
      exact absurd otherMember (not_mem_marks_u d)
    | point => exact codePoint_append_inj same
    | plain _ noBackslash =>
      rw [codePoint_append] at same
      exact absurd (List.cons_eq_cons.1 same).1.symm noBackslash
  | plain _ noBackslash =>
    cases second with
    | mark _ => exact absurd (List.cons_eq_cons.1 same).1 noBackslash
    | point =>
      rw [codePoint_append] at same
      exact absurd (List.cons_eq_cons.1 same).1 noBackslash
    | plain _ _ => exact (List.cons_eq_cons.1 same).1

theorem Escapes.head?_ne {c : Char} {text : List Char} (written : Escapes c text)
    (behind : List Char) :
    (text ++ behind).head? ≠ some '"' := by
  cases written with
  | mark _ => simp
  | point => simp [codePoint_append]
  | plain noQuote _ => simpa using noQuote

/-- A quoted text ends itself: the text and what comes behind it can be read off both together. -/
theorem quote_append_inj {text other behind beyond : List Char} :
    quote text ++ behind = quote other ++ beyond ↔ text = other ∧ behind = beyond := by
  refine ⟨fun same => ?_, by rintro ⟨rfl, rfl⟩; rfl⟩
  have inside : text.flatMap escape ++ '"' :: behind = other.flatMap escape ++ '"' :: beyond := by
    simpa [quote] using same
  clear same
  induction text generalizing other with
  | nil =>
    cases other with
    | nil => simpa using inside
    | cons d other =>
      have noQuote := (escapes d).head?_ne (other.flatMap escape ++ '"' :: beyond)
      rw [List.flatMap_cons, List.append_assoc] at inside
      exact absurd (congrArg List.head? inside).symm noQuote
  | cons c text ih =>
    cases other with
    | nil =>
      have noQuote := (escapes c).head?_ne (text.flatMap escape ++ '"' :: behind)
      rw [List.flatMap_cons, List.append_assoc] at inside
      exact absurd (congrArg List.head? inside) noQuote
    | cons d other =>
      rw [List.flatMap_cons, List.flatMap_cons, List.append_assoc, List.append_assoc] at inside
      obtain rfl := (escapes c).inj (escapes d) inside
      obtain ⟨rfl, rfl⟩ := ih (List.append_cancel_left inside)
      exact ⟨rfl, rfl⟩

theorem isHidden_of_isLineEnd {c : Char} (ends : isLineEnd c) : isHidden c := by
  simp only [isLineEnd, Bool.or_eq_true, decide_eq_true_eq] at ends
  rcases ends with (((((rfl | rfl) | rfl) | rfl) | rfl) | rfl) | rfl <;> decide +kernel

theorem not_isAlphanum_of_isLineEnd {c : Char} (ends : isLineEnd c) : c.isAlphanum = false := by
  simp only [isLineEnd, Bool.or_eq_true, decide_eq_true_eq] at ends
  rcases ends with (((((rfl | rfl) | rfl) | rfl) | rfl) | rfl) | rfl <;> decide

theorem Escapes.not_isLineEnd {c : Char} {text : List Char} (written : Escapes c text) :
    ∀ d ∈ text, ¬ isLineEnd d := by
  intro d member ends
  cases written with
  | @mark mark marked =>
    have harmless : ∀ pair ∈ marks, ¬ isLineEnd pair.2 := by decide
    rcases List.mem_pair.1 member with rfl | rfl
    · exact absurd ends (by decide)
    · exact harmless _ marked ends
  | point =>
    simp only [codePoint, List.mem_append, List.mem_cons, List.not_mem_nil, or_false] at member
    rcases member with ((rfl | rfl | rfl) | digit) | rfl
    · exact absurd ends (by decide)
    · exact absurd ends (by decide)
    · exact absurd ends (by decide)
    · exact absurd (isAlphanum_of_mem_toDigits digit) (by simp [not_isAlphanum_of_isLineEnd ends])
    · exact absurd ends (by decide)
  | plain _ _ shown =>
    obtain rfl := List.mem_singleton.1 member
    exact absurd (isHidden_of_isLineEnd ends) (by simp [shown])

theorem not_isLineEnd_of_mem_quote {text : List Char} : ∀ d ∈ quote text, ¬ isLineEnd d := by
  intro d member
  simp only [quote, List.mem_cons, List.mem_append, List.mem_flatMap, List.not_mem_nil,
    or_false] at member
  rcases member with rfl | ⟨c, _, inside⟩ | rfl
  · decide
  · exact (escapes c).not_isLineEnd d inside
  · decide

end Text

end GoldFront
