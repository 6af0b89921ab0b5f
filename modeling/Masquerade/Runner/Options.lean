import Masquerade.Text.Numeral

/-!
# Options of the runner

The command line of the runner, which plays rounds without a player. Options have long names and take
their value from the next argument or after an equals sign; no option may be given twice. Arguments
are taken one after the other, and the first fault or the first request for help decides.
-/

namespace Masquerade.Runner

/-- What the runner is asked to do. -/
structure Options where
  content : String := "data/content.toml"
  /-- The enemy of every round; without it the enemies take turns. -/
  enemy : Option String := none
  rounds : UInt32 := 3
  keepGoing : Bool := false
  seed : Option UInt64 := none
  format : String := "json"
  verbose : Bool := false

/-- The outcome of reading a command line. -/
inductive Request where
  | play (options : Options)
  | help
  | refused

/-- An option that takes a value. -/
inductive ValueOption where
  | content
  | enemy
  | rounds
  | seed
  | format
  deriving DecidableEq

/-- An option that takes none. -/
inductive FlagOption where
  | keepGoing
  | verbose
  | help
  deriving DecidableEq

/-- The option with a long name that takes a value. -/
def ValueOption.ofName? : String → Option ValueOption
  | "content" => some content
  | "enemy" => some enemy
  | "rounds" => some rounds
  | "seed" => some seed
  | "format" => some format
  | _ => none

/-- The option with a long name that takes no value. -/
def FlagOption.ofName? : String → Option FlagOption
  | "keep-going" => some keepGoing
  | "verbose" => some verbose
  | "help" => some help
  | _ => none

/-- The option with a name of one letter. -/
def FlagOption.ofLetter? : Char → Option FlagOption
  | 'v' => some verbose
  | 'h' => some help
  | _ => none

/-- What has been read so far: the options and which of them were given. -/
structure Reading where
  options : Options := {}
  values : List ValueOption := []
  flags : List FlagOption := []

/-- Why reading stops early. -/
inductive Stop where
  | help
  | refused

namespace Reading

/-- The options with a value set, if the option can have that value. -/
def setValue (o : Options) (option : ValueOption) (text : String) : Option Options :=
  match option with
  | .content => if text.isEmpty then none else some { o with content := text }
  | .enemy => some { o with enemy := some text }
  | .rounds => do
    let n ← Text.integer? text
    if 0 ≤ n ∧ n < UInt32.size then some { o with rounds := UInt32.ofNat n.toNat } else none
  | .seed => do
    let n ← Text.natural? text
    if n < UInt64.size then some { o with seed := some (UInt64.ofNat n) } else none
  | .format => some { o with format := text }

/-- Takes in an option with its value. -/
def giveValue (r : Reading) (option : ValueOption) (text : String) : Except Stop Reading :=
  if option ∈ r.values then
    .error .refused
  else
    match setValue r.options option text with
    | some o => .ok { r with options := o, values := option :: r.values }
    | none => .error .refused

/-- Takes in an option without a value. -/
def giveFlag (r : Reading) (option : FlagOption) : Except Stop Reading :=
  if option = .help then
    .error .help
  else if option ∈ r.flags then
    .error .refused
  else
    let o :=
      match option with
      | .keepGoing => { r.options with keepGoing := true }
      | .verbose => { r.options with verbose := true }
      | .help => r.options
    .ok { r with options := o, flags := option :: r.flags }

/-- Takes in the letters after a single dash. -/
def giveLetters (r : Reading) (letters : List Char) : Except Stop Reading :=
  letters.foldlM (fun r c =>
    match FlagOption.ofLetter? c with
    | some option => r.giveFlag option
    | none => .error .refused) r

end Reading

/-- The name of a long option and the value after its equals sign, if there is one. -/
def splitLong (cs : List Char) : String × Option String :=
  let name := cs.takeWhile (· != '=')
  let value := if name.length < cs.length then some (String.ofList (cs.drop (name.length + 1))) else none
  (String.ofList name, value)

/-- Whether an argument can be the value of the option before it: it must not look like an option. -/
def isValue (argument : String) : Bool :=
  match argument.toList with
  | '-' :: _ :: _ => false
  | _ => true

/-- Takes in the arguments one after the other. -/
def readArguments (r : Reading) : List String → Except Stop Reading
  | [] => .ok r
  | argument :: rest =>
    match argument.toList with
    | ['-', '-'] => if rest.isEmpty then .ok r else .error .refused
    | '-' :: '-' :: cs =>
      let (name, value) := splitLong cs
      match ValueOption.ofName? name, FlagOption.ofName? name, value, rest with
      | some option, _, some text, rest => do readArguments (← r.giveValue option text) rest
      | some option, _, none, text :: rest =>
        if isValue text then do readArguments (← r.giveValue option text) rest
        else .error .refused
      | none, some option, none, rest => do readArguments (← r.giveFlag option) rest
      | _, _, _, _ => .error .refused
    | '-' :: c :: cs => do readArguments (← r.giveLetters (c :: cs)) rest
    | _ => .error .refused

/-- Reads a command line. -/
def Request.ofArguments (arguments : List String) : Request :=
  match readArguments {} arguments with
  | .ok r => .play r.options
  | .error .help => .help
  | .error .refused => .refused

/-- The answer to a request for help from a program that was called by the name `program`. -/
def helpText (program : String) : String :=
  "Play automatic mask-and-battle rounds and report the results\n" ++
  "\n" ++
  "Usage: " ++ program ++ " [OPTIONS]\n" ++
  "\n" ++
  "Options:\n" ++
  "      --content <CONTENT>  Content file to load [default: data/content.toml]\n" ++
  "      --enemy <ENEMY>      Enemy to fight every round (defaults to the content's enemies in order)\n" ++
  "      --rounds <ROUNDS>    Number of rounds to play [default: 3]\n" ++
  "      --keep-going         Keep playing after a defeat\n" ++
  "      --seed <SEED>        Random seed for deterministic runs\n" ++
  "      --format <FORMAT>    Output format: json or text [default: json]\n" ++
  "  -v, --verbose            Log every battle event\n" ++
  "  -h, --help               Print help\n"

end Masquerade.Runner
