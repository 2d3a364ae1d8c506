import GoldFront.Command.Program

namespace GoldFront.Command

/-- What a path leads to on disk. -/
def findOnDisk (path : String) : IO Found := do
  try
    return .file (← IO.FS.readBinFile path).toList
  catch
    | .noFileOrDirectory .. => return .missing
    | .inappropriateType _ 21 _ => return .directory
    | .inappropriateType .. => return .missing
    | .permissionDenied _ code details =>
      return .unreadable (details ++ " (os error " ++ toString code ++ ")")
    | other => return .unreadable (toString other)

/-- Writes to both output streams. -/
def write (output : Output) : IO Unit := do
  (← IO.getStderr).putStr output.stderr
  (← IO.getStdout).putStr output.stdout
  (← IO.getStdout).flush

/-- The bytes up to the end of a line, or of the input. -/
partial def readLine (input : IO.FS.Stream) (line : ByteArray) : IO ByteArray := do
  let next ← input.read 1
  if next.isEmpty then return line
  else if next[0]? == some 10 then return line ++ next
  else readLine input (line ++ next)

/-- Prompts for lines and answers them. -/
partial def prompting (console : Console) (input : IO.FS.Stream) : IO Unit := do
  write (.out Prompt.sign)
  let line ← readLine input .empty
  let (told, goesOn) := Prompt.turn console (if line.isEmpty then none else some line.toList)
  write told
  if goesOn then prompting console input

/-- What a task finds around it. The prompt reads its input by itself. -/
def lookAround (task : Task) (level : Option String) (stamp : String) : IO Surroundings := do
  let found ← match task with
    | .dumpFile path => findOnDisk path
    | _ => pure .missing
  return ⟨fun _ => found, [], level, stamp⟩

def finish (outcome : Outcome) : IO UInt32 := do
  write outcome.output
  return outcome.code

/-- Runs the program on a command line. The log counts milliseconds. -/
def runHere (words : List String) : IO UInt32 := do
  let level ← IO.getEnv "RUST_LOG"
  let stamp := toString (← IO.monoMsNow)
  match Toolkit.standard.plan words level stamp with
  | .error outcome => finish outcome
  | .ok plan =>
    write (.err plan.complaints)
    match plan.task with
    | .prompt =>
      write (.out Prompt.banner)
      prompting plan.console (← IO.getStdin)
      return 0
    | task => finish (task.run plan.console (← lookAround task level stamp))

end GoldFront.Command

def main (words : List String) : IO UInt32 := GoldFront.Command.runHere words
