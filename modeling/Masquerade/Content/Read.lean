import Masquerade.Content.Draft
import Masquerade.Content.Shape

/-!
# Reading content

The shapes of everything in a content file: tuning, stats, enemies, materials and their logic. A file
may leave out nearly everything; what it says has to have the right shape.
-/

namespace Masquerade

/-- An enemy and the ids of the materials that a victory over it yields. -/
structure Foe where
  profile : Profile
  rewards : List String

/-- A content file as it is written. -/
structure ContentDraft where
  ruleset : Ruleset
  playerName : String
  playerStats : Stats
  /-- The ids of the materials in stock at the beginning. -/
  startingMaterials : List String
  foes : List Foe
  materials : List MaterialDraft

namespace Content

open Toml (Value Entries)

/-! ## Logic -/

/-- A gate. -/
def gateDraft? (v : Value) : Option GateDraft := do
  let (kind, s) ← tagged? v
  let count (make : UInt32 → GateDraft) : Option GateDraft :=
    if s.fits 1 then (s.required 0 "n" word?).map make else none
  let bare (g : GateDraft) : Option GateDraft := if s.fits 0 then some g else none
  match kind with
  | "phase" =>
    if s.fits 1 then (s.required 0 "phase" (choice? Phase false)).map .phase else none
  | "nth_action" => count .nthAction
  | "nth_attack" => count .nthAttack
  | "first_actions" => count .firstActions
  | "first_attacks" => count .firstAttacks
  | "every_actions" => count .everyActions
  | "wait_every" => count .waitEvery
  | "max_triggers" => count .maxTriggers
  | "chance" => if s.fits 1 then (s.required 0 "chance" quantity?).map .chance else none
  | "after_hits" => do
    if !s.fits 2 then none
    let target ← s.required 0 "target" (choice? Side false)
    let hits ← s.required 1 "hits" word?
    return .afterHits target hits
  | "battle_start" => bare .battleStart
  | "battle_end" => bare .battleEnd
  | _ => none

/-- Signed changes by stat, in the order of the stats. -/
def deltas? (v : Value) : Option (List (Stat × Float32)) := do
  let read ← (← entries? v).mapM fun e => do
    let stat ← Named.find? Stat e.1
    let amount ← quantity? e.2
    return (stat, amount)
  return Stat.all.filterMap fun stat => (read.lookup stat).map fun amount => (stat, amount)

/-- An effect. -/
def effectDraft? (v : Value) : Option EffectDraft := do
  let (kind, s) ← tagged? v
  let limited (count : Nat) (e : Option EffectDraft) : Option EffectDraft :=
    if s.fits count then e else none
  match kind with
  | "attack_field" => limited 2 do
    let field ← s.required 0 "field" (choice? AttackField false)
    let amount ← s.required 1 "amount" quantity?
    return .attackField field amount
  | "mask_count_scale" => limited 2 do
    let field ← s.required 0 "field" (choice? AttackField false)
    let perMask ← s.required 1 "per_mask" quantity?
    return .maskCountScale field perMask
  | "add_stats" => limited 4 do
    let target ← s.required 0 "target" (choice? Side false)
    let deltas ← s.required 1 "stats" deltas?
    let heal ← s.withDefault 2 "heal_on_max_hp" flag? false
    let persistent ← s.withDefault 3 "persistent" flag? false
    return .addStats target deltas heal persistent
  | "percent_attach" => limited 7 do
    let source ← s.required 0 "source" (choice? StatSource false)
    let sourceStat ← s.required 1 "source_stat" (choice? Stat false)
    let target ← s.required 2 "target" (choice? Side false)
    let targetStat ← s.required 3 "target_stat" (choice? Stat false)
    let percent ← s.required 4 "percent" quantity?
    let heal ← s.withDefault 5 "heal_on_max_hp" flag? false
    let persistent ← s.withDefault 6 "persistent" flag? false
    return .percentAttach source sourceStat target targetStat percent heal persistent
  | "restore_mana" => limited 1 do
    let amount ← s.required 0 "amount" word?
    return .restoreMana amount
  | "adjust_hp" => limited 2 do
    let target ← s.required 0 "target" (choice? HpTarget false)
    let amount ← s.required 1 "amount" quantity?
    return .adjustHp target amount
  | "adjust_hp_percent" => limited 2 do
    let target ← s.required 0 "target" (choice? HpTarget false)
    let percent ← s.required 1 "percent" quantity?
    return .adjustHpPercent target percent
  | _ => none

/-- A shared behavior. -/
def sharedDraft? (v : Value) : Option SharedDraft := do
  let s ← Shape.of? v
  let gate ← s.optional 0 "gate" gateDraft?
  let effect ← s.optional 1 "effect" effectDraft?
  let invert ← s.withDefault 2 "invert" flag? false
  return ⟨gate, effect, invert⟩

/-- Shared behaviors by name, in the order of the names. -/
def sharedDrafts? (v : Value) : Option (List (String × SharedDraft)) := do
  let read ← (← entries? v).mapM fun e => do return (e.1, ← sharedDraft? e.2)
  return read.mergeSort fun a b => a.1 ≤ b.1

/-- The items of a field lie deeper than the record that has the field. -/
theorem sizeOf_items_lt {v : Value} {s : Shape} {place : Nat} {name : String} {items : List Value}
    (hs : Shape.of? v = some s) (hf : s.field? place name = some (.array items)) :
    sizeOf items < sizeOf v := by
  have lookup_lt {es : Entries} (h : es.lookup name = some (.array items)) :
      sizeOf items < sizeOf es := by
    induction es with
    | nil => simp at h
    | cons e rest ih =>
      obtain ⟨k, x⟩ := e
      rw [List.lookup_cons] at h
      split at h
      · simp only [Option.some.injEq] at h
        subst h
        simp only [List.cons.sizeOf_spec, Prod.mk.sizeOf_spec, Toml.Value.array.sizeOf_spec]
        omega
      · have := ih h
        simp only [List.cons.sizeOf_spec]
        omega
  cases v with
  | array all =>
    simp only [Shape.of?, Option.some.injEq] at hs
    subst hs
    have := List.sizeOf_lt_of_mem (List.mem_of_getElem? hf)
    simp only [Toml.Value.array.sizeOf_spec] at this ⊢
    omega
  | table entries =>
    simp only [Shape.of?, entries?, Option.map_some, Option.some.injEq] at hs
    subst hs
    have := lookup_lt hf
    simp only [Toml.Value.table.sizeOf_spec]
    omega
  | dateTime text =>
    simp only [Shape.of?, entries?, Option.map_some, Option.some.injEq] at hs
    subst hs
    rw [Shape.field?, List.lookup_cons] at hf
    split at hf <;> simp at hf
  | _ => simp [Shape.of?, entries?] at hs

/-- A node and everything below it. -/
def nodeDraft? (v : Value) : Option NodeDraft :=
  match _hs : Shape.of? v with
  | none => none
  | some s => do
    let title ← s.optional 0 "title" text?
    let side ← s.withDefault 1 "side" (choice? SideFilter true) .both
    let gate ← s.optional 2 "gate" gateDraft?
    let effect ← s.optional 3 "effect" effectDraft?
    let shared ← s.optional 4 "use" text?
    let invert ← s.withDefault 5 "invert" flag? false
    let children ←
      match _hc : s.field? 6 "children" with
      | none => some []
      | some (.array items) => items.attach.mapM fun item => nodeDraft? item.1
      | some _ => none
    return .mk title side gate effect shared invert children
termination_by sizeOf v
decreasing_by
  have h₁ := sizeOf_items_lt _hs _hc
  have h₂ := List.sizeOf_lt_of_mem item.2
  omega

/-- A material. -/
def materialDraft? (v : Value) : Option MaterialDraft := do
  let s ← Shape.of? v
  let id ← s.required 0 "id" text?
  let name ← s.required 1 "name" text?
  let manaCost ← s.withDefault 2 "mana_cost" word? 0
  let quality ← s.withDefault 3 "quality" (choice? Quality true) .common
  let shelfLifeTurns ← s.withDefault 4 "shelf_life_turns" word? 1
  let shared ← s.withDefault 5 "shared" sharedDrafts? []
  let nodes ← s.withDefault 6 "nodes" (list? nodeDraft?) []
  return { id, name, manaCost, quality, shelfLifeTurns, shared, nodes }

/-! ## Tuning, player and enemies -/

/-- The tuning numbers. -/
def ruleset? (v : Value) : Option Ruleset := do
  let s ← Shape.of? v
  let d : Ruleset := {}
  return {
    arenaSpeedThreshold := ← s.withDefault 0 "arena_speed_threshold" word? d.arenaSpeedThreshold
    attackIntervalSecs := ← s.withDefault 1 "attack_interval_secs" quantity? d.attackIntervalSecs
    defenseReduction := ← s.withDefault 2 "defense_reduction" flag? d.defenseReduction
    critEnabled := ← s.withDefault 3 "crit_enabled" flag? d.critEnabled
    tickSecs := ← s.withDefault 4 "tick_secs" quantity? d.tickSecs
    maxTicks := ← s.withDefault 5 "max_ticks" word? d.maxTicks
    baseMaskMana := ← s.withDefault 6 "base_mask_mana" word? d.baseMaskMana
    seed := ← s.withDefault 7 "seed" longWord? d.seed }

/-- The name and the starting stats of the player, side by side in one table. -/
def player? (v : Value) : Option (String × Stats) := do
  let s := Shape.named (← entries? v)
  let d := Stats.starting
  let quantity (stat : Stat) (x : Float32) := s.withDefault 0 stat.name quantity? x
  let whole (stat : Stat) (n : Int32) := s.withDefault 0 stat.name signedWord? n
  let name ← s.withDefault 0 "name" text? "Masked One"
  return (name, {
    maxHp := ← quantity .maxHp d.maxHp
    attack := ← quantity .attack d.attack
    defense := ← quantity .defense d.defense
    critChance := ← quantity .critChance d.critChance
    critMultiplier := ← quantity .critMultiplier d.critMultiplier
    speedRate := ← whole .speedRate d.speedRate
    luck := ← whole .luck d.luck
    penetrationFlat := ← quantity .penetrationFlat d.penetrationFlat
    penetrationPercent := ← quantity .penetrationPercent d.penetrationPercent })

/-- An enemy: its numbers and its rewards, side by side in one table. -/
def foe? (v : Value) : Option Foe := do
  let s := Shape.named (← entries? v)
  let d : Profile := {}
  let quantity (stat : Stat) (x : Float32) := s.withDefault 0 stat.name quantity? x
  let profile : Profile := {
    name := ← s.withDefault 0 "name" text? d.name
    maxHp := ← quantity .maxHp d.maxHp
    attack := ← quantity .attack d.attack
    defense := ← quantity .defense d.defense
    critChance := ← quantity .critChance d.critChance
    critMultiplier := ← quantity .critMultiplier d.critMultiplier
    speedRate := ← s.withDefault 0 Stat.speedRate.name signedWord? d.speedRate
    penetrationFlat := ← quantity .penetrationFlat d.penetrationFlat
    penetrationPercent := ← quantity .penetrationPercent d.penetrationPercent }
  let rewards ← s.withDefault 0 "rewards" (list? text?) []
  return ⟨profile, rewards⟩

/-- A whole content file. -/
def draft? (document : Entries) : Option ContentDraft := do
  let s := Shape.named document
  let ruleset ← s.withDefault 0 "battle" ruleset? {}
  let (playerName, playerStats) ← s.withDefault 0 "player" player? ("Masked One", .starting)
  let startingMaterials ← s.withDefault 0 "starting_materials" (list? text?) []
  let foes ← s.withDefault 0 "enemy" (list? foe?) []
  let materials ← s.withDefault 0 "material" (list? materialDraft?) []
  return { ruleset, playerName, playerStats, startingMaterials, foes, materials }

end Content

end Masquerade
