import GoldFront.Proofs.Contract.Standard
import GoldFront.Proofs.Report.Layout
import GoldFront.Proofs.Token.Diagnostics
import GoldFront.Report.Diagnostic

namespace GoldFront

open Text (byteSize charsBefore? charOffset)

namespace Text

variable {text : List Char} {offset other : Nat}

theorem charOffset_append (before after : List Char) :
    charOffset (before ++ after) (byteSize before) = before.length := by
  rw [charOffset, charsBefore?_append, Option.getD_some]

/-- A character takes a byte at least. -/
theorem charOffset_le (text : List Char) (offset : Nat) : charOffset text offset ≤ offset := by
  cases counted : charsBefore? text offset with
  | none => rw [charOffset, counted, Option.getD_none]
  | some count =>
    obtain ⟨before, after, rfl, rfl, rfl⟩ := charsBefore?_eq_some_iff.1 counted
    rw [charOffset_append]
    exact length_le_byteSize before

/-- Of two starts of a text, the one with fewer bytes has no more characters. -/
theorem length_le_of_byteSize_le {before after first rest : List Char}
    (same : before ++ after = first ++ rest) (le : byteSize before ≤ byteSize first) :
    before.length ≤ first.length := by
  obtain ⟨part, rfl, _⟩ | ⟨part, rfl, _⟩ := List.append_eq_append_iff.1 same
  · simp
  · rw [byteSize_append] at le
    have none : part = [] := eq_nil_of_byteSize (by omega)
    simp [none]

theorem charOffset_mono (le : offset ≤ other)
    (boundary : (charsBefore? text offset).isSome ∨ byteSize text < offset) :
    charOffset text offset ≤ charOffset text other := by
  cases counted : charsBefore? text other with
  | none =>
    -- The second offset is left as it is, and characters are no more than bytes.
    have kept : charOffset text other = other := by rw [charOffset, counted, Option.getD_none]
    rw [kept]
    exact Nat.le_trans (charOffset_le text offset) le
  | some count =>
    obtain ⟨first, rest, rfl, rfl, rfl⟩ := charsBefore?_eq_some_iff.1 counted
    rcases boundary with between | beyond
    · obtain ⟨_, found⟩ := Option.isSome_iff_exists.1 between
      obtain ⟨before, after, same, rfl, rfl⟩ := charsBefore?_eq_some_iff.1 found
      rw [charOffset_append, same, charOffset_append]
      exact length_le_of_byteSize_le same.symm le
    · rw [byteSize_append] at beyond
      omega

end Text

/-- A span of a text covers the characters between its offsets. -/
theorem Span.charRange_append (before text after : List Char) :
    charRange ⟨byteSize before, byteSize before + byteSize text⟩ (before ++ (text ++ after)) =
      ⟨before.length, before.length + text.length⟩ := by
  have stop := Text.charOffset_append (before ++ text) after
  rw [List.append_assoc, Text.byteSize_append, List.length_append] at stop
  simp only [charRange, Text.charOffset_append, stop]

theorem Lexeme.Fits.length_text {lexeme : Lexeme} {after : List Char} (fits : lexeme.Fits after)
    (string : lexeme.kind = .string) : lexeme.text.length =
      lexeme.literal.length + if lexeme.cause? = some .unterminatedString then 1 else 2 := by
  rcases fits.cause?_cases with ⟨noCause, _, closed⟩ | ⟨c, rfl, _⟩ | ⟨_, text, _, cause⟩
  · rw [closed string, noCause, if_neg (by simp)]
    simp
  · simp at string
  · rw [text, cause, if_pos rfl]
    simp

/-- A fault is met at a lexeme of the text. -/
theorem Reading.exists_lexeme_of_fault {offset : Nat} {text : List Char} {tokens : List Token}
    {faults : List Fault} (reading : Reading offset text tokens faults) {fault : Fault}
    (member : fault ∈ faults) : ∃ before lexeme after, text = before ++ (lexeme.text ++ after) ∧
      Lexeme.Fits lexeme after ∧ lexeme.cause? = some fault.cause ∧
        fault.span = lexeme.span (offset + byteSize before) := by
  induction reading with
  | ending => simp at member
  | @lexeme offset gap after lexeme tokens faults gaps fits _ ih =>
    rcases List.mem_append.1 member with first | later
    · obtain ⟨cause, found, rfl⟩ := Lexeme.mem_fault?_iff.1 first
      exact ⟨gap, lexeme, after, rfl, fits, found, rfl⟩
    · obtain ⟨before, other, rest, rfl, otherFits, found, span⟩ := ih later
      refine ⟨gap ++ (lexeme.text ++ before), other, rest, by simp, otherFits, found, ?_⟩
      rw [span, Text.byteSize_append, Text.byteSize_append, Nat.add_assoc, Nat.add_assoc]

theorem exists_charRange {source : String} {token : Token} (member : token ∈ tokenize source) :
    ∃ before text after, source.toList = before ++ (text ++ after) ∧
      token.span = ⟨byteSize before, byteSize before + byteSize text⟩ ∧
      (token.kind = .illegal → text.length = 1) ∧
      (token.kind = .string → text.length =
        token.literal.length + if token.IsOpen source.toList then 1 else 2) := by
  rcases (reading_source source).eof_or_lexeme member with
    rfl | ⟨before, lexeme, after, whole, fits, rfl⟩
  · exact ⟨source.toList, [], [], by simp, by simp [Token.eof, Span.empty], by simp [Token.eof],
      by simp [Token.eof]⟩
  · rw [Nat.zero_add, whole]
    refine ⟨before, lexeme.text, after, rfl, rfl, fun illegal => ?_, fun string => ?_⟩
    · rcases fits.cause?_cases with ⟨_, noIllegal, _⟩ | ⟨c, rfl, _⟩ | ⟨string, _⟩
      · exact absurd illegal noIllegal
      · rfl
      · cases string.symm.trans illegal
    · rw [fits.length_text string, Lexeme.token, String.length_ofList]
      congr 1
      exact if_congr (fits.isOpen_token_iff before).symm rfl rfl

/-- A fault covers characters of its source. -/
theorem exists_charRange_of_fault {source : String} {fault : Fault} (member : fault ∈ faults source) :
    ∃ before text after, source.toList = before ++ (text ++ after) ∧ text ≠ [] ∧
      fault.span = ⟨byteSize before, byteSize before + byteSize text⟩ ∧
      fault.diagnostic.span.charRange source.toList =
        ⟨before.length, before.length + text.length⟩ := by
  obtain ⟨before, lexeme, after, whole, fits, _, span⟩ :=
    (reading_source source).exists_lexeme_of_fault member
  rw [Nat.zero_add] at span
  refine ⟨before, lexeme.text, after, whole, fits.text_ne_nil, span, ?_⟩
  rw [span_diagnostic, span, whole]
  exact Span.charRange_append before lexeme.text after

/-- No label of a report about a fault ends before it starts. -/
theorem renderBy?_fault {source : String} {fault : Fault} (member : fault ∈ faults source)
    (renderer : Report.Renderer) (file : Option String) (color : Bool) :
    fault.diagnostic.renderBy? renderer source file color =
      .ok (fault.diagnostic.renderBy renderer source file color) := by
  obtain ⟨before, text, after, _, _, _, range⟩ := exists_charRange_of_fault member
  rw [Diagnostic.renderBy?, range]
  exact if_neg (by simp)

/-- The span of a token covers the token's characters, a span that starts between characters or
    beyond the text covers characters in order, and so there is a report about every fault. -/
theorem charRange_tokenize (source : String) :
    (∀ token ∈ tokenize source, ∃ before text after, source.toList = before ++ (text ++ after) ∧
      token.span = ⟨byteSize before, byteSize before + byteSize text⟩ ∧
      token.span.charRange source.toList = ⟨before.length, before.length + text.length⟩ ∧
      before.length + text.length ≤ source.length ∧
      (token.kind = .illegal → text.length = 1) ∧
      (token.kind = .string →
        text.length = token.literal.length + (if token.IsOpen source.toList then 1 else 2) ∧
        ∃ length : Int64, Standard.answer? "len" [.string token.literal] = some (.integer length) ∧
          (token.literal.length < 2 ^ 63 → length.toInt = token.literal.length))) ∧
    (∀ span : Span, span.start ≤ span.stop →
      (String.Pos.Raw.mk span.start).IsValid source ∨ source.utf8ByteSize < span.start →
      (span.charRange source.toList).start ≤ (span.charRange source.toList).stop) ∧
    ∀ fault ∈ faults source, ∀ renderer file color,
      fault.diagnostic.renderBy? renderer source file color =
        .ok (fault.diagnostic.renderBy renderer source file color) := by
  refine ⟨fun token member => ?_, fun span ordered boundary => ?_, fun fault => renderBy?_fault⟩
  · obtain ⟨before, text, after, whole, span, illegal, string⟩ := exists_charRange member
    refine ⟨before, text, after, whole, span, ?_, ?_, illegal, fun isString => ?_⟩
    · rw [span, whole, Span.charRange_append]
    · rw [← String.length_toList, whole]
      simp only [List.length_append]
      omega
    · exact ⟨string isString, _, Standard.answer?_len_string _, Int64.toInt_ofNat_of_lt⟩
  · rw [← Text.isSome_charsBefore?_iff, ← Text.byteSize_toList] at boundary
    exact Text.charOffset_mono ordered boundary

open Report Text

end GoldFront
