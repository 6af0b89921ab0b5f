import Masquerade.Prompt

/-!
# The program

`masquerade rounds …` plays rounds without a player and reports the results; without that first word
the program is the interactive prompt, played with the content file that the first argument names.
-/

namespace Masquerade

/-- Reads the one file that a run needs. A refusal with the path in it came when the file was opened,
one without it when a folder was read. -/
def readFiles (path : String) : IO Files := do
  try
    let text ← IO.FS.readFile path
    return fun _ => .ok text
  catch
    | .noFileOrDirectory .. => return fun _ => .error .missing
    | .inappropriateType (some _) .. => return fun _ => .error .notDirectory
    | .invalidArgument .. => return fun _ => .error .nameTooLong
    | _ => return fun _ => .error .isDirectory

/-- Answers lines of the input until the player leaves. -/
partial def converse (s : Session) : IO Unit := do
  let out ← IO.getStdout
  out.putStr (Prompt.ready s)
  out.flush
  let line ← (← IO.getStdin).getLine
  let reply := if line.isEmpty then none else Prompt.answer s line
  match reply with
  | none => out.putStr (Prompt.farewell s)
  | some (text, s) =>
    out.putStr text
    converse s

/-- The runner. -/
def runRounds (arguments : List String) : IO UInt32 := do
  let path :=
    match Runner.Request.ofArguments arguments with
    | .play o => o.content
    | _ => ""
  let files ← readFiles path
  let seed ← IO.rand 0 (UInt64.size - 1)
  let output := Runner.run "masquerade rounds" files (UInt64.ofNat seed) arguments
  (← IO.getStdout).putStr output.stdout
  (← IO.getStderr).putStr output.stderr
  return output.exit

/-- The interactive prompt. -/
def runPrompt (arguments : List String) : IO UInt32 := do
  let path := Prompt.contentPath arguments
  match Prompt.begin? (← readFiles path) path with
  | .error e =>
    (← IO.getStderr).putStrLn e.message
    return 1
  | .ok s =>
    (← IO.getStdout).putStr Prompt.banner
    converse s
    return 0

end Masquerade

/-- The program. -/
def main (arguments : List String) : IO UInt32 :=
  match arguments with
  | "rounds" :: rest => Masquerade.runRounds rest
  | _ => Masquerade.runPrompt arguments
