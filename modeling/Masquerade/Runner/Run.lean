import Masquerade.Runner.FileTree
import Masquerade.Runner.Report

/-!
# Running from the command line

The whole run of the runner as a function of its arguments, the files it can read and a seed for the
case that none is given.
-/

namespace Masquerade

/-- What a program leaves behind. -/
structure Output where
  exit : UInt32
  stdout : String
  stderr : String

/-- The content in a file. -/
def Content.load (files : Files) (path : String) : Except GameError Content :=
  match files path with
  | .error e => .error (.file e)
  | .ok text => Content.parse text

namespace Runner

/-- A run that fails with a message. -/
def failure (message : String) : Output := ⟨1, "", message ++ "\n"⟩

/-- The run that the options ask for. -/
def runOptions (files : Files) (fallbackSeed : UInt64) (o : Options) : Output :=
  match Content.load files o.content with
  | .error e => failure s!"Failed to load {o.content}: {e.message}"
  | .ok content =>
    let seed := o.seed.getD fallbackSeed
    let content := { content with ruleset := { content.ruleset with seed := seed } }
    match Session.new content with
    | .error e => failure s!"Failed to start session: {e.message}"
    | .ok s =>
      match playRounds o.enemy o.keepGoing o.rounds.toNat 1 s with
      | .error e => failure e.message
      | .ok (rounds, s) => ⟨0, Result.render ⟨seed, o.enemy, rounds, s.record.actual⟩ o.format, ""⟩

/-- The run of a program, called by the name `program`, for a list of arguments. A command line that
cannot be read ends the run at once. -/
def run (program : String) (files : Files) (fallbackSeed : UInt64) (arguments : List String) :
    Output :=
  match Request.ofArguments arguments with
  | .play o => runOptions files fallbackSeed o
  | .help => ⟨0, helpText program, ""⟩
  | .refused => ⟨2, "", ""⟩

end Runner

end Masquerade
