import GoldFront.Command.Program
import GoldFront.Proofs.Session.Prompt
import GoldFront.Proofs.Text.Slice

namespace GoldFront

/-- No event is written to a log. -/
def Console.Quiet (console : Console) : Prop := ∀ event, console.line event = ""

theorem Console.quiet_of_logs {console : Console} (logs : ∀ event, console.logs event = false) :
    console.Quiet := fun event => by
  rw [line, logs event]
  rfl

theorem Console.quiet_unlogged (renderer : Report.Renderer) : (unlogged renderer).Quiet :=
  quiet_of_logs fun _ => rfl

theorem Console.Quiet.join_lines {console : Console} (quiet : console.Quiet) {α : Type}
    (event : α → Event) (members : List α) :
    String.join (members.map fun member => console.line (event member)) = "" := by
  rw [← String.toList_inj, String.toList_join]
  simp [quiet _]

theorem Dump.ofSource_of_quiet {console : Console} (quiet : console.Quiet) (source : String)
    (file : Option String) :
    ofSource console source file = ⟨(faults source).isEmpty,
      ⟨lines (tokenize source), reports console.renderer (faults source) source file⟩⟩ := by
  obtain ⟨tokens, met⟩ := readToEnd_ofSource source
  simp only [ofSource, tokens, met, quiet.join_lines Fault.event, quiet (.tokenized _ _)]
  rw [String.empty_append, String.append_empty]

theorem Dump.reports_eq (renderer : Report.Renderer) (faults : List Fault) (source : String)
    (file : Option String) :
    reports renderer faults source file = String.join ((faults.map Fault.diagnostic).map fun told =>
      told.renderBy renderer source file true) := by
  rw [List.map_map]
  rfl

namespace Command

namespace Toolkit

variable {toolkit : Toolkit}

/-- A command line of one word without a dash in front asks for a file and for nothing else. -/
def TakesFiles (toolkit : Toolkit) : Prop :=
  ∀ path : String, path.toList.head? ≠ some '-' → toolkit.read [path] = .ok ⟨[], some path, none⟩

/-- Nothing is said about the filter for the log, and nothing is written to the log. -/
def Unlogged (toolkit : Toolkit) (level : Option String) : Prop :=
  ∀ text ∈ level, (toolkit.select text).complaints = "" ∧
    ∀ event, (toolkit.select text).shows event = false

theorem unlogged_none : toolkit.Unlogged none := by simp [Unlogged]

theorem takesFiles_standard : standard.TakesFiles := fun path value => by
  have noDashes : path ≠ "--" := by
    rintro rfl
    exact value rfl
  have added : Reading.start.add path = .ok ⟨[], none, none, some (.file path)⟩ := by
    unfold Reading.add
    split
    · next text => simp [text] at value
    · next text => simp [text] at value
    · rfl
  have read : Choices.ofWords [path] = .ok ⟨[], some path, none⟩ := by
    rw [Choices.ofWords, Reading.addAll, if_neg noDashes, added]
    rfl
  exact congrArg (Except.mapError Stop.outcome) read

/-- A file that is the whole command line is dumped, and nothing is said besides. -/
theorem TakesFiles.exists_console (takes : toolkit.TakesFiles) {path : String}
    {surroundings : Surroundings} (value : path.toList.head? ≠ some '-')
    (unlogged : toolkit.Unlogged surroundings.level) : ∃ console : Console,
      console.Quiet ∧ console.renderer = toolkit.renderer ∧
        toolkit.run [path] surroundings = dumpFile console path (surroundings.find path) := by
  have task : (Choices.mk [] (some path) none).task = .dumpFile path := rfl
  cases given : surroundings.level with
  | none =>
    refine ⟨.unlogged toolkit.renderer, Console.quiet_unlogged _, rfl, ?_⟩
    simp only [run, plan, takes path value, given, Option.or_none, task, Task.run]
    exact congrArg (Outcome.mk _) (Output.empty_append _)
  | some text =>
    obtain ⟨noComplaint, shows⟩ := unlogged text given
    refine ⟨⟨toolkit.renderer, (toolkit.select text).shows, surroundings.stamp⟩,
      Console.quiet_of_logs shows, rfl, ?_⟩
    simp only [run, plan, takes path value, given, Option.none_or, task, Task.run, noComplaint]
    exact congrArg (Outcome.mk _) (Output.empty_append _)

end Toolkit

theorem dumpFile_text (console : Console) (path source : String) :
    dumpFile console path (.file (Text.encode source)) =
      ⟨if (Dump.ofSource console source (some path)).clean then 0 else 1,
        (Dump.ofSource console source (some path)).output⟩ := by
  have read : Text.decode? (Text.encode source) = some source := Text.decode?_eq_some_iff.2 rfl
  rw [dumpFile, read]

theorem dumpFile_noText (console : Console) (path : String) {bytes : List UInt8}
    (noText : ∀ source, bytes ≠ Text.encode source) :
    dumpFile console path (.file bytes) = unreadable path Prompt.notText := by
  have unread : Text.decode? bytes = none := Text.decode?_eq_none_iff.2 noText
  rw [dumpFile, unread]

theorem code_dumpFile_eq_zero_iff (console : Console) (path : String) (bytes : List UInt8) :
    (dumpFile console path (.file bytes)).code = 0 ↔
      ∃ source, bytes = Text.encode source ∧ faults source = [] := by
  by_cases noText : ∀ source, bytes ≠ Text.encode source
  · rw [dumpFile_noText console path noText]
    refine iff_of_false (by simp [unreadable]) ?_
    rintro ⟨source, encoded, _⟩
    exact noText source encoded
  · obtain ⟨source, rfl⟩ := not_forall_not.1 noText
    have zero : (dumpFile console path (.file (Text.encode source))).code = 0 ↔ faults source = [] := by
      rw [dumpFile_text, ← clean_iff_faults console source (some path)]
      by_cases clean : (Dump.ofSource console source (some path)).clean
      · simp [clean]
      · simp [clean]
    rw [zero]
    constructor
    · intro clean
      exact ⟨source, rfl, clean⟩
    · rintro ⟨other, same, clean⟩
      rwa [Text.encode_inj.1 same]

/-- A dump shows the tokens of a source, one on a line and the end token last, and reports its
    faults; and a file that is the whole command line is dumped if it is a text. -/
theorem run_file :
    (∀ (console : Console) (source : String) (file : Option String),
      (Dump.ofSource console source file).output.stdout =
          String.join ((tokenize source).map fun token => token.render ++ "\n") ∧
        (∃ body, tokenize source = body ++ [.eof source.utf8ByteSize] ∧
          ∀ token ∈ body, token.kind ≠ .eof) ∧
        (console.Quiet → (Dump.ofSource console source file).output.stderr =
          String.join (((faults source).map Fault.diagnostic).map fun told =>
            told.renderBy console.renderer source file true)) ∧
        ((Dump.ofSource console source file).clean ↔ (faults source).map Fault.diagnostic = [])) ∧
    ∀ (toolkit : Toolkit) (path : String) (bytes : List UInt8) (surroundings : Surroundings),
      toolkit.TakesFiles → path.toList.head? ≠ some '-' → surroundings.find path = .file bytes →
      toolkit.Unlogged surroundings.level →
        ((toolkit.run [path] surroundings).code = 0 ↔
          ∃ source, bytes = Text.encode source ∧ (faults source).map Fault.diagnostic = []) ∧
        (∀ source, bytes = Text.encode source → (toolkit.run [path] surroundings).output =
          (Dump.ofSource (.unlogged toolkit.renderer) source (some path)).output) ∧
        ((∀ source, bytes ≠ Text.encode source) → (toolkit.run [path] surroundings).output =
          ⟨"", "Error reading file '" ++ path ++ "': stream did not contain valid UTF-8\n"⟩) := by
  refine ⟨fun console source file => ⟨Dump.stdout_ofSource console source file, ?_, ?_, ?_⟩, ?_⟩
  · obtain ⟨body, whole, others⟩ := (reading_source source).exists_body
    rw [Nat.zero_add, Text.byteSize_toList] at whole
    exact ⟨body, whole, others⟩
  · intro quiet
    rw [Dump.ofSource_of_quiet quiet, Dump.reports_eq]
  · rw [clean_iff_faults, List.map_eq_nil_iff]
  · intro toolkit path bytes surroundings takes value found unlogged
    obtain ⟨console, quiet, renderer, ran⟩ := takes.exists_console value unlogged
    rw [ran, found]
    simp only [List.map_eq_nil_iff]
    refine ⟨code_dumpFile_eq_zero_iff _ path bytes, ?_, ?_⟩
    · rintro source rfl
      rw [dumpFile_text, Dump.ofSource_of_quiet quiet,
        Dump.ofSource_of_quiet (Console.quiet_unlogged toolkit.renderer), renderer]
      rfl
    · intro noText
      rw [dumpFile_noText _ path noText]
      simp only [unreadable, Output.err, Prompt.notText, String.append_assoc]
      rfl

theorem run_file_digit_quote_stray :
    let holding := fun bytes => Surroundings.mk (fun _ => .file bytes) [] none ""
    run ["a"] (holding [0x31]) = ⟨0, .out "INT(\"1\")\nEOF(\"\")\n"⟩ ∧
      (run ["a"] (holding [0x22])).code ≠ 0 ∧
      (run ["a"] (holding [0xff])).code ≠ 0 ∧ (run ["a"] (holding [0xff])).output =
        .err "Error reading file 'a': stream did not contain valid UTF-8\n" := by
  intro holding
  have ran := fun bytes => run_file.2 .standard "a" bytes (holding bytes)
    Toolkit.takesFiles_standard (by decide) rfl Toolkit.unlogged_none
  have tokens : tokenize "1" = [⟨.int, "1", ⟨0, 1⟩⟩, .eof 1] := by decide +kernel
  have digit : faults "1" = [] := by decide +kernel
  have quote : faults "\"" = [⟨.unterminatedString, ⟨0, 1⟩⟩] := by decide +kernel
  have stray : ∀ source, [0xff] ≠ Text.encode source :=
    Text.decode?_eq_none_iff.1 (by decide +kernel)
  refine ⟨?_, ?_, ?_, (ran [0xff]).2.2 stray⟩
  · have code := (ran [0x31]).1.2 ⟨"1", rfl, by rw [digit]; rfl⟩
    have output := (ran [0x31]).2.1 "1" rfl
    rw [Dump.ofSource_of_quiet (Console.quiet_unlogged _), digit, tokens] at output
    calc run ["a"] (holding [0x31])
        = ⟨(Toolkit.standard.run ["a"] (holding [0x31])).code,
            (Toolkit.standard.run ["a"] (holding [0x31])).output⟩ := rfl
      _ = ⟨0, .out "INT(\"1\")\nEOF(\"\")\n"⟩ := by
        rw [code, output]
        decide +kernel
  · intro zero
    obtain ⟨source, encoded, clean⟩ := (ran [0x22]).1.1 zero
    obtain rfl : "\"" = source := Text.encode_inj.1 encoded
    simp [quote] at clean
  · intro zero
    obtain ⟨source, encoded, _⟩ := (ran [0xff]).1.1 zero
    exact stray source encoded

end Command

end GoldFront
