import Masquerade.Runner.Run
import Masquerade.Text.Blank

/-!
# The interactive prompt

The player's commands, one to a line. `Prompt.answer` says what a line does to a session and what is
written in answer; `Prompt.transcript` is everything written in answer to a list of lines.
-/

namespace Masquerade.Prompt

open Decimal (fixed)

/-- What is written at the beginning. -/
def banner : String :=
  "\n=== MASK FORGE ===\n" ++
  "\n" ++
  "Commands:\n" ++
  "  mask <name>      - Start crafting a new mask\n" ++
  "  inv / i          - List the material inventory\n" ++
  "  bind <n>         - Bind inventory item n into the current mask\n" ++
  "  auto             - Bind everything affordable, expiring first\n" ++
  "  end              - End the make phase (shelf life ticks down)\n" ++
  "  fight [enemy]    - Fight the next enemy (or a named one) and settle\n" ++
  "  describe <id>    - Show a material's logic\n" ++
  "  library / l      - List finished masks\n" ++
  "  status / s       - Show player stats\n" ++
  "  quit / q         - Exit\n" ++
  "\n"

/-- What is written before a line is read. -/
def ready (s : Session) : String := s!"[round {s.round.toNat}] > "

/-- What is written at the end. -/
def farewell (s : Session) : String := s!"\nFarewell. {s.library.length} mask(s) in the library.\n"

/-! ## Listings -/

/-- The player's stats and the mask in the making. -/
def status (s : Session) : String :=
  let stats := s.record.actual
  let hp := fixed 0 stats.maxHp
  let attack := fixed 1 stats.attack
  let defense := fixed 1 stats.defense
  let crit := fixed 0 (stats.critChance * 100)
  let multiplier := fixed 2 stats.critMultiplier
  let speed := stats.speedRate.toInt
  let luck := stats.luck.toInt
  let mask :=
    match s.current with
    | some m =>
      let mana := s!"mana {m.mana.current.toNat}/{m.mana.base.toNat}"
      s!"  Crafting '{m.name}' ({m.pieces.length} materials, {mana})\n"
    | none => "  No mask in progress\n"
  s!"\n--- {s.record.name} | Round {s.round.toNat} ---\n" ++
    s!"  HP {hp}  ATK {attack}  DEF {defense}  CRIT {crit}% x{multiplier}  SPD {speed}" ++
    s!"  LUCK {luck}\n" ++ mask ++ "\n"

/-- One line of the inventory. -/
def inventoryLine (place : Nat) (p : Piece) : String :=
  let left := s!"{p.remaining.toNat} turn(s) left"
  s!"  [{place}] {p.name} - cost {p.manaCost.toNat}, {p.quality.label}, {left}\n"

/-- The pieces in stock with the numbers by which they are bound. -/
def inventory (s : Session) : String :=
  if s.inventory.items.isEmpty then
    "Inventory is empty.\n"
  else
    String.join (s.inventory.items.mapIdx inventoryLine)

/-- The finished masks. -/
def library (s : Session) : String :=
  if s.library.isEmpty then "The library is empty.\n" else String.join (s.library.map Mask.describe)

/-! ## Commands -/

/-- Starts a mask. -/
def mask (s : Session) (argument : String) : String × Session :=
  let name := if argument.isEmpty then "Nameless" else argument
  match s.startMask name with
  | (.ok (), s) => (s!"Started mask '{name}'.\n", s)
  | (.error e, s) => (e.message ++ "\n", s)

/-- Binds the piece at a place of the inventory. -/
def bind (s : Session) (argument : String) : String × Session :=
  match (Text.natural? argument).bind fun n => s.inventory.items[n]? with
  | none => ("Usage: bind <inventory index>\n", s)
  | some piece =>
    match s.bindPiece piece.id with
    | (.ok (), s) => (s!"Bound {piece.name}.\n", s)
    | (.error e, s) => (e.message ++ "\n", s)

/-- Binds what the mana covers. -/
def auto (s : Session) : String × Session :=
  match s.autoBind with
  | (.ok bound, s) => (s!"Bound {bound.length} material(s).\n", s)
  | (.error e, s) => (e.message ++ "\n", s)

/-- Ends the make phase. -/
def endMakePhase (s : Session) : String × Session :=
  let (expired, s) := s.endMakePhase
  let lines := expired.map fun p => s!"{p.name} crumbled away.\n"
  (String.join lines ++ "Make phase over.\n", s)

/-- What is written after a round. -/
def roundText (player : String) (r : RoundSummary) : String :=
  let secs := fixed 1 r.report.elapsedSecs
  let head := s!"{player} vs {r.enemy}: {r.report.outcomeText}"
  let rewards := r.settlement.rewards.map fun name => s!"Reward: {name}\n"
  s!"{head} after {r.report.counters.actions.toNat} actions ({secs}s)\n" ++
    s!"Growth: {r.settlement.growth.growthText}\n" ++ String.join rewards

/-- Fights a named enemy, or the one whose turn it is, and settles the round. -/
def fight (s : Session) (argument : String) : String × Session :=
  let asked := if argument.isEmpty then none else some argument
  match Runner.enemyOf asked s with
  | (none, s) => ("No enemies in this content.\n", s)
  | (some enemy, s) =>
    match s.playRound enemy with
    | (.ok summary, s) => (roundText s.record.name summary, s)
    | (.error e, s) => (e.message ++ "\n", s)

/-- Shows a material of the catalog. -/
def describe (s : Session) (argument : String) : String :=
  match s.catalog.get? argument with
  | some m => m.describe
  | none => s!"Unknown material '{argument}'\n"

/-- What a line does: the text written in answer and the session afterwards, or nothing when the player
leaves. -/
def answer (s : Session) (line : String) : Option (String × Session) :=
  let (command, rest) := Text.splitAt ' ' (Text.trim line)
  let argument := Text.trim rest
  match command with
  | "" => some ("", s)
  | "quit" | "q" => none
  | "status" | "s" => some (status s, s)
  | "inv" | "i" => some (inventory s, s)
  | "library" | "l" => some (library s, s)
  | "mask" => some (mask s argument)
  | "bind" => some (bind s argument)
  | "auto" => some (auto s)
  | "end" => some (endMakePhase s)
  | "fight" => some (fight s argument)
  | "describe" => some (describe s argument, s)
  | _ =>
    some ("Unknown command. Try: mask, inv, bind, auto, end, fight, describe, status, quit\n", s)

/-- Everything written from a point of the session on, in answer to the lines that follow. -/
def replies (s : Session) : List String → String
  | [] => ready s ++ farewell s
  | line :: rest =>
    match answer s line with
    | none => ready s ++ farewell s
    | some (text, s') => ready s ++ text ++ replies s' rest

/-- The session that begins with a content file. -/
def begin? (files : Files) (path : String) : Except GameError Session := do
  Session.new (← Content.load files path)

/-- The file to play with: the first argument, or a place where it is usually found. -/
def contentPath (arguments : List String) : String := arguments.head?.getD "data/content.toml"

/-- Everything written in answer to a list of lines, at the end of which the player leaves. -/
def transcript (files : Files) (arguments lines : List String) : Output :=
  match begin? files (contentPath arguments) with
  | .error e => ⟨1, "", e.message ++ "\n"⟩
  | .ok s => ⟨0, banner ++ replies s lines, ""⟩

end Masquerade.Prompt
