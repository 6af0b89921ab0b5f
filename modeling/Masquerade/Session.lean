import Masquerade.Battle.Growth
import Masquerade.Content
import Masquerade.Inventory
import Masquerade.Mask

/-!
# Sessions

A session goes through rounds. In a round the player starts a mask, binds pieces from the inventory
to it, ends the make phase, in which shelf life runs down, and fights one enemy. Settling the round
files the mask in the library, collects growth from the forests of all masks, and stocks the rewards
of a victory. An operation that is refused answers with the refusal and with the session as the
refusal leaves it.
-/

namespace Masquerade

open RandomWords (Stream)

/-- What settling a battle brought. -/
structure Settlement where
  round : UInt32
  growth : Stats
  /-- The names of the materials stocked as rewards. -/
  rewards : List String

/-- A round that was fought and settled. -/
structure RoundSummary where
  enemy : String
  report : BattleReport
  settlement : Settlement

/-- The state of a game between operations. -/
structure Session where
  ruleset : Ruleset
  record : PlayerRecord
  catalog : Catalog
  foes : List Foe
  /-- The finished masks, in the order of finishing. -/
  library : List Mask
  /-- The mask in the making. -/
  current : Option Mask
  inventory : Inventory
  commit : Commit
  rng : Stream
  /-- The number of the round, counted from one. -/
  round : UInt32
  /-- The enemy of the last fight, until the round is settled. -/
  lastFoe : Option String
  /-- The place of the enemy whose turn is next. -/
  nextFoe : Nat
  /-- How many pieces the session has issued. -/
  issued : Nat

namespace Session

/-- The answer of an operation, and the session after it. -/
abbrev Reply (α : Type) := Except GameError α × Session

/-- All masks: the library and then the mask in the making. -/
def masks (s : Session) : List Mask := s.library ++ s.current.toList

/-- How many masks contribute to the next battle. -/
def maskCount (s : Session) : UInt32 :=
  UInt32.ofNat s.library.length + (if s.current.isSome then 1 else 0)

/-- Starts a mask. -/
def startMask (s : Session) (name : String) : Reply Unit :=
  if s.current.isSome then
    (.error .maskInProgress, s)
  else
    (.ok (), { s with current := some (.new name s.ruleset.baseMaskMana) })

/-! ## Stocking and binding -/

/-- Issues a piece of a material and stocks it. -/
def stock (s : Session) (material : String) : Reply Piece :=
  match s.catalog.instantiate material (.issued s.issued) with
  | .error e => (.error e, s)
  | .ok piece => (.ok piece, { s with inventory := s.inventory.add piece, issued := s.issued + 1 })

/-- Stocks pieces of several materials, up to the first that is refused. -/
def stockAll : List String → Session → Reply (List Piece)
  | [], s => (.ok [], s)
  | material :: rest, s =>
    match s.stock material with
    | (.error e, s) => (.error e, s)
    | (.ok piece, s) =>
      match stockAll rest s with
      | (.error e, s) => (.error e, s)
      | (.ok pieces, s) => (.ok (piece :: pieces), s)

/-- Moves a piece from the inventory into the mask in the making. A piece that the mask's mana does not
cover goes back to the end of the inventory. -/
def bindPiece (s : Session) (id : InstanceId) : Reply Unit :=
  match s.current with
  | none => (.error .noActiveMask, s)
  | some mask =>
    match s.inventory.find? id with
    | none => (.error (.materialNotFound id), s)
    | some piece =>
      let taken := s.inventory.erase id
      match mask.bind piece s.rng with
      | .ok (mask, rng) => (.ok (), { s with current := some mask, inventory := taken, rng := rng })
      | .error refusal =>
        (.error (.notEnoughMana refusal.needed refusal.available),
          { s with inventory := taken.putBack refusal.piece })

/-- Binds each of the pieces that the mana covers, and answers those. -/
def bindAffordable : List InstanceId → Session → Reply (List InstanceId)
  | [], s => (.ok [], s)
  | id :: rest, s =>
    match s.bindPiece id with
    | (.ok (), s) =>
      match bindAffordable rest s with
      | (.ok bound, s) => (.ok (id :: bound), s)
      | (.error e, s) => (.error e, s)
    | (.error (.notEnoughMana _ _), s) => bindAffordable rest s
    | (.error e, s) => (.error e, s)

/-- Binds whatever the mana covers, beginning with the pieces that expire first. -/
def autoBind (s : Session) : Reply (List InstanceId) :=
  bindAffordable s.inventory.idsByExpiry s

/-- Ends the make phase: the pieces that have expired, and the session without them. -/
def endMakePhase (s : Session) : List Piece × Session :=
  let (expired, inventory) := s.inventory.endMakePhase
  (expired, { s with inventory := inventory })

/-! ## Fighting -/

/-- The first enemy with the given name. -/
def foe? (s : Session) (name : String) : Option Foe :=
  s.foes.find? fun f => f.profile.name == name

/-- The name of the enemy whose turn it is, and the session with the turn passed on. After the last
enemy comes the first again. -/
def nextEnemy (s : Session) : Option String × Session :=
  match s.foes[s.nextFoe % s.foes.length]? with
  | none => (none, s)
  | some f =>
    let following := (s.nextFoe % s.foes.length + 1) % s.foes.length
    (some f.profile.name, { s with nextFoe := following })

/-- Plays a fight for at most `ticks` ticks and stops it if it is still going on then. -/
def playOut {σ : Type} (dt : Float32) : Nat → Battle σ → Battle σ
  | 0, b => b.stop
  | ticks + 1, b => if b.isFinished then b else playOut dt ticks (b.tick dt).2

/-- What a fight against an enemy with the given numbers starts from. -/
def battleSetup (s : Session) (enemy : Profile) : BattleSetup where
  player := .ofRecord s.record
  enemy := some enemy
  forests := masksForests s.masks
  maskCount := s.maskCount

/-- The tuning of this round's battles: every round has a seed of its own. -/
def battleRuleset (s : Session) : Ruleset :=
  { s.ruleset with seed := s.ruleset.seed + s.round.toUInt64 }

/-- The session with the forests of all masks as a fight has left them. -/
def withForests (s : Session) (forests : List Forest) : Session :=
  let (library, rest) := masksTakeForests s.library forests
  { s with library := library, current := s.current.map fun mask => (mask.takeForests rest).1 }

/-- Fights an enemy by name until a side has fallen or the time is up. -/
def fight (s : Session) (name : String) : Reply BattleReport :=
  match s.foe? name with
  | none => (.error (.unknownEnemy name), s)
  | some f =>
    match (Battle.new s.battleRuleset ()).start (s.battleSetup f.profile) with
    | .error e => (.error e, s)
    | .ok (_, b) =>
      let b := playOut s.ruleset.tickSecs s.ruleset.maxTicks.toNat b
      let forests := (b.stage.fight?.map (·.forests)).getD []
      (.ok b.report, { s.withForests forests with lastFoe := some name })

/-! ## Settling -/

/-- The session with the mask in the making filed in the library. -/
def fileMask (s : Session) : Session := { s with library := s.masks, current := none }

/-- Collects the growth that the forests of the library give after a battle, and adds it to the
record. -/
def collect (s : Session) (report : BattleReport) : Stats × Session :=
  let count := UInt32.ofNat s.library.length
  let (growth, forests, rng) :=
    collectGrowth s.record.actual (some report) count (masksForests s.library) s.rng
  (growth, { s with
    library := (masksTakeForests s.library forests).1
    record := s.commit.apply s.record growth
    rng := rng })

/-- The rewards of a victory over the enemy of the last fight. -/
def rewardIds (s : Session) : List String :=
  match s.lastFoe.bind s.foe? with
  | some f => f.rewards
  | none => []

/-- Settles the round after a battle. -/
def settle (s : Session) (report : BattleReport) : Reply Settlement :=
  let rewards := if report.outcome = some .victory then s.rewardIds else []
  let (growth, s) := s.fileMask.collect report
  match stockAll rewards { s with lastFoe := none } with
  | (.error e, s) => (.error e, s)
  | (.ok pieces, s) =>
    (.ok ⟨s.round, growth, pieces.map (·.name)⟩, { s with round := s.round + 1 })

/-- Fights an enemy and settles the round. -/
def playRound (s : Session) (enemy : String) : Reply RoundSummary :=
  match s.fight enemy with
  | (.error e, s) => (.error e, s)
  | (.ok report, s) =>
    match s.settle report with
    | (.error e, s) => (.error e, s)
    | (.ok settlement, s) => (.ok ⟨enemy, report, settlement⟩, s)

/-! ## Beginning -/

/-- A session before anything is in stock. -/
def unstocked (c : Content) : Session where
  ruleset := c.ruleset
  record := c.player
  catalog := c.catalog
  foes := c.foes
  library := []
  current := none
  inventory := .empty
  commit := .direct
  rng := .ofSeed c.ruleset.seed
  round := 1
  lastFoe := none
  nextFoe := 0
  issued := 0

/-- A session with the starting materials in stock. -/
def new (c : Content) : Except GameError Session :=
  match stockAll c.startingMaterials (unstocked c) with
  | (.error e, _) => .error e
  | (.ok _, s) => .ok s

end Session

end Masquerade
