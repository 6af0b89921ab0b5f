import Masquerade.Battle

/-!
# Growth after a battle

After a battle the forests of all masks are walked once more, in the phase of growth. Persistent
effects add to a growth delta, which starts from zero; effects may read the permanent stats and the
combatants as the battle left them. The combatants are a copy: whatever effects do to them, the
report of the battle stays as it is.
-/

namespace Masquerade

open RandomWords (Stream)

/-- The moment at which growth is settled. -/
def growthMoment (report : Option BattleReport) (maskCount : UInt32) : Moment where
  phase := .persistentGrowth
  actionNumber := (report.map (·.counters.actions)).getD 0
  maskCount := maskCount

/-- Collects the growth that the forests give: the delta, the forests with their new counters and the
random words that are left. -/
def collectGrowth (record : Stats) (report : Option BattleReport) (maskCount : UInt32)
    (forests : List Forest) (rng : Stream) : Stats × List Forest × Stream :=
  let targets : Targets := {
    combatants := report.bind (·.combatants)
    growth := some .zero
    record := some record }
  let (forests, targets, rng) :=
    Forest.runAll forests (growthMoment report maskCount) targets rng
  (targets.growth.getD .zero, forests, rng)

end Masquerade
