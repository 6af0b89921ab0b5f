import Masquerade.Runner.Options
import Masquerade.Session

/-!
# Rounds without a player

In every round the runner starts a mask, binds what the mana covers, ends the make phase, and fights
and settles. It goes on until the rounds are played or, unless it is told to keep going, until a
round is not won.
-/

namespace Masquerade.Runner

/-- Why the rounds cannot go on. -/
inductive RoundsError where
  | noEnemy
  | failed (round : Nat) (error : GameError)
  deriving DecidableEq

/-- The reason in words. -/
def RoundsError.message : RoundsError → String
  | noEnemy => "No enemy to fight"
  | failed round error => s!"Round {round} failed: {error.message}"

/-- Plays one round against an enemy. -/
def playOne (s : Session) (round : Nat) (enemy : String) :
    Except GameError (RoundSummary × Session) :=
  match s.startMask s!"Mask {round}" with
  | (.error e, _) => .error e
  | (.ok (), s) =>
    match s.autoBind with
    | (.error e, _) => .error e
    | (.ok _, s) =>
      match s.endMakePhase.2.playRound enemy with
      | (.error e, _) => .error e
      | (.ok summary, s) => .ok (summary, s)

/-- The enemy of a round: the one that is asked for, or the one whose turn it is. -/
def enemyOf (enemy : Option String) (s : Session) : Option String × Session :=
  match enemy with
  | some name => (some name, s)
  | none => s.nextEnemy

/-- Plays at most `left` more rounds, the first of them with number `round`. -/
def playRounds (enemy : Option String) (keepGoing : Bool) :
    (left round : Nat) → Session → Except RoundsError (List RoundSummary × Session)
  | 0, _, s => .ok ([], s)
  | left + 1, round, s =>
    match enemyOf enemy s with
    | (none, _) => .error .noEnemy
    | (some name, s) =>
      match playOne s round name with
      | .error e => .error (.failed round e)
      | .ok (summary, s) =>
        if summary.report.outcome = some .victory || keepGoing then
          match playRounds enemy keepGoing left (round + 1) s with
          | .error e => .error e
          | .ok (later, s) => .ok (summary :: later, s)
        else
          .ok ([summary], s)

/-- What the runner has to report. -/
structure Result where
  seed : UInt64
  enemy : Option String
  rounds : List RoundSummary
  finalStats : Stats

end Masquerade.Runner
