import Masquerade.Proofs.Session.Expiry

/-!
# The aftermath of a battle

A battle is set up from the library and the mask in the making, and a round is settled after the mask has
been filed. The pieces take back the forests as the battle has left them (`masksForests_taken`), in the order
in which these went to the battle, and the mask that is filed is counted where it stood
(`Session.masks_withForests`). So the walk for growth finds the battle as it ended (`Session.growthPass`),
and the rewards are those of the enemy that was fought (`Session.round_settles_battle`).
-/

namespace Masquerade

open RandomWords (Stream)

/-! ## Forests of masks -/

/-- A mask that is given a forest for every piece has just these. -/
theorem Mask.forests_takeForests {mask : Mask} {forests : List Forest}
    (enough : mask.pieces.length ≤ forests.length) :
    (mask.takeForests forests).1.forests = forests.take mask.pieces.length := by
  obtain ⟨name, mana, pieces⟩ := mask
  have none : pieces.drop forests.length = [] := List.drop_eq_nil_of_le enough
  simp only [takeForests, Mask.forests, none, List.append_nil]
  induction pieces generalizing forests with
  | nil => rfl
  | cons p pieces ih =>
    cases forests with
    | nil => simp at enough
    | cons F forests =>
      have fewer : pieces.length ≤ forests.length := Nat.le_of_succ_le_succ enough
      exact congrArg (F :: ·) (ih fewer (List.drop_eq_nil_of_le fewer))

/-- Masks that are given a forest for every piece list just these, in the same order. -/
theorem masksForests_taken {masks : List Mask} {forests : List Forest}
    (enough : (masksForests masks).length ≤ forests.length) :
    masksForests (masksTakeForests masks forests).1 = forests.take (masksForests masks).length := by
  induction masks generalizing forests with
  | nil => rfl
  | cons mask masks ih =>
    have length := length_masksForests_cons mask masks
    have fewer : (masksForests masks).length ≤ (forests.drop mask.pieces.length).length := by
      rw [List.length_drop]
      omega
    calc masksForests (masksTakeForests (mask :: masks) forests).1
      _ = (mask.takeForests forests).1.forests ++
          masksForests (masksTakeForests masks (forests.drop mask.pieces.length)).1 := rfl
      _ = forests.take mask.pieces.length ++
          (forests.drop mask.pieces.length).take (masksForests masks).length := by
        rw [Mask.forests_takeForests (by omega), ih fewer]
      _ = forests.take (masksForests (mask :: masks)).length := by rw [length, List.take_add]

theorem masksForests_taken_all {masks : List Mask} {forests : List Forest}
    (same : forests.map Forest.reset = (masksForests masks).map Forest.reset) :
    masksForests (masksTakeForests masks forests).1 = forests := by
  have length : (masksForests masks).length = forests.length := by
    simpa using (congrArg List.length same).symm
  rw [masksForests_taken (Nat.le_of_eq length), length, List.take_length]

theorem masksTakeForests_append (masks more : List Mask) (forests : List Forest) :
    (masksTakeForests (masks ++ more) forests).1 =
      (masksTakeForests masks forests).1 ++
        (masksTakeForests more (masksTakeForests masks forests).2).1 := by
  induction masks generalizing forests with
  | nil => rfl
  | cons mask masks ih => exact congrArg (_ :: ·) (ih _)

namespace Session

/-- The mask in the making takes back its forests where the last mask would. -/
theorem masks_withForests (s : Session) (forests : List Forest) :
    (s.withForests forests).masks = (masksTakeForests s.masks forests).1 := by
  rw [masks, masks, masksTakeForests_append]
  show _ ++ (s.current.map _).toList = _
  cases s.current <;> rfl

/-- A mask counts for the battle whether it is in the library or in the making. -/
theorem maskCount_eq (s : Session) : s.maskCount = UInt32.ofNat s.masks.length := by
  rw [maskCount, masks, List.length_append]
  cases s.current with
  | none => exact UInt32.add_zero _
  | some mask => exact (UInt32.ofNat_add ..).symm

/-- Masks that take back forests of the logic that they had list just these, and change in nothing else. -/
theorem withForests_taken {s : Session} {forests : List Forest}
    (same : forests.map Forest.reset = (masksForests s.masks).map Forest.reset) :
    masksForests (s.withForests forests).masks = forests ∧
      (s.withForests forests).masks.map Mask.uncounted = s.masks.map Mask.uncounted ∧
      (s.withForests forests).maskCount = s.maskCount := by
  have kept : (s.withForests forests).masks.map Mask.uncounted = s.masks.map Mask.uncounted := by
    rw [← unfought_masks, unfought_withForests same, unfought_masks]
  have number : (s.withForests forests).masks.length = s.masks.length := by
    simpa using congrArg List.length kept
  refine ⟨?_, kept, ?_⟩
  · rw [masks_withForests, masksForests_taken_all same]
  · rw [maskCount_eq, maskCount_eq, number]

/-! ## What settling finds -/

/-- The battle against an enemy, played out within the time limit. -/
def playedOut (s : Session) (enemy : Profile) : Battle Unit :=
  playOut s.ruleset.tickSecs s.ruleset.maxTicks.toNat (s.bout enemy)

/-- A fight against a known enemy is played out with the forests and the number of the masks, and the masks
take back the forests as its end has left them. -/
theorem exists_fought {s : Session} {name : String} {foe : Foe} (known : s.foe? name = some foe) :
    ∃ f, (s.playedOut foe.profile).stage.fight? = some f ∧
      f.forests.map Forest.reset = (masksForests s.masks).map Forest.reset ∧
      f.maskCount = s.maskCount ∧
      s.fight name =
        (.ok (s.playedOut foe.profile).report, { s.withForests f.forests with lastFoe := some name }) := by
  obtain ⟨f, ended, logic, count⟩ := playOut_logic s.ruleset.tickSecs s.ruleset.maxTicks.toNat
    (b := s.bout foe.profile) rfl
  have begun : (s.lineUp foe.profile).logic = (masksForests s.masks).map Forest.reset := by
    simp [Fight.logic, lineUp, Fight.unopened]
  refine ⟨f, ended, ?_, count, ?_⟩
  · rw [← begun, ← (s.lineUp foe.profile).traverse_logic _ none]
    exact logic
  · rw [fight, known]
    dsimp only
    rw [start_bout]
    dsimp only
    rw [ended]
    rfl

/-- The walk for growth after a fight: through the forests that the fight had in play, with its numbers of
masks and attacks and with the combatants as its end has left them. -/
def growthPass (s : Session) (f : Fight Unit) : List Forest × Targets × Stream :=
  Forest.runAll f.forests
    { phase := .persistentGrowth, actionNumber := f.counters.actions, maskCount := f.maskCount }
    { combatants := some f.combatants, growth := some .zero, record := some s.record.actual } s.rng

/-- What settling collects after a fight, once the masks have taken back its forests, is what the walk for
growth gives. -/
theorem collectGrowth_fought {s : Session} {b : Battle Unit} {f : Fight Unit}
    (ended : b.stage.fight? = some f) (forests : masksForests s.masks = f.forests)
    (count : f.maskCount = s.maskCount) :
    collectGrowth s.record.actual (some b.report) (.ofNat s.masks.length) (masksForests s.masks) s.rng =
      ((s.growthPass f).2.1.growth.getD .zero, (s.growthPass f).1, (s.growthPass f).2.2) := by
  have counters : b.report.counters = f.counters := by
    rw [Battle.report, Battle.counters, ended]
    rfl
  have combatants : b.report.combatants = some f.combatants := by
    rw [Battle.report, ended]
    rfl
  rw [← maskCount_eq, ← count, forests, collectGrowth, growthMoment]
  simp only [Option.bind_some, Option.map_some, Option.getD_some, counters, combatants]
  rfl

/-- Stocking changes nothing but the inventory and the number of pieces that were issued. -/
theorem stockAll_unchanged (materials : List String) (s : Session) :
    ∃ inventory issued,
      (stockAll materials s).2 = { s with inventory := inventory, issued := issued } := by
  refine stockAll_keeps (P := fun t => ∃ inventory issued,
    t = { s with inventory := inventory, issued := issued }) (fun t material h => ?_) materials
    ⟨s.inventory, s.issued, rfl⟩
  obtain ⟨inventory, issued, rfl⟩ := h
  rw [stock]
  split
  · exact ⟨inventory, issued, rfl⟩
  · exact ⟨_, _, rfl⟩

/-- A settled session is the one in the middle of settling, in the next round and with the rewards. -/
theorem exists_settling {s t : Session} {report : BattleReport} {settlement : Settlement}
    (settled : s.settle report = (.ok settlement, t)) :
    settlement.growth = (s.fileMask.collect report).1 ∧ ∃ inventory issued,
      t = { s.settling report with
        inventory := inventory, issued := issued, round := s.round + 1 } := by
  obtain ⟨inventory, issued, same⟩ := stockAll_unchanged (s.rewardsDue report) (s.settling report)
  rw [settle_eq] at settled
  split at settled
  · cases settled
  · next pieces u stocked =>
    rw [stocked] at same
    cases settled
    subst same
    exact ⟨rfl, inventory, issued, rfl⟩

/-- Once the masks have taken back the forests of a fight, settling it collects growth by the walk for growth.
The masks are all filed, and keep the forests as this walk leaves them. -/
theorem settle_fought {s t : Session} {b : Battle Unit} {f : Fight Unit} {settlement : Settlement}
    (ended : b.stage.fight? = some f) (forests : masksForests s.masks = f.forests)
    (count : f.maskCount = s.maskCount) (settled : s.settle b.report = (.ok settlement, t)) :
    let pass := s.growthPass f
    settlement.growth = pass.2.1.growth.getD .zero ∧
      t.record = s.commit.apply s.record settlement.growth ∧
      masksForests t.library = pass.1 ∧ t.rng = pass.2.2 ∧
      t.library.map Mask.uncounted = s.masks.map Mask.uncounted ∧ t.current = none := by
  intro pass
  have collected : collectGrowth s.fileMask.record.actual (some b.report)
      (.ofNat s.fileMask.library.length) (masksForests s.fileMask.library) s.fileMask.rng =
      (pass.2.1.growth.getD .zero, pass.1, pass.2.2) := collectGrowth_fought ended forests count
  have logic : pass.1.map Forest.reset = (masksForests s.masks).map Forest.reset := by
    rw [forests]
    exact Forest.runAll_reset ..
  obtain ⟨growth, inventory, issued, rfl⟩ := exists_settling settled
  rw [collect, collected] at growth
  have record : (s.settling b.report).record = s.commit.apply s.record settlement.growth := by
    rw [growth, settling, collect, collected]
    rfl
  have library : (s.settling b.report).library = (masksTakeForests s.masks pass.1).1 := by
    rw [settling, collect, collected]
    rfl
  have rng : (s.settling b.report).rng = pass.2.2 := by
    rw [settling, collect, collected]
  refine ⟨growth, record, ?_, rng, ?_, rfl⟩
  · show masksForests (s.settling b.report).library = _
    rw [library, masksForests_taken_all logic]
  · show (s.settling b.report).library.map _ = _
    rw [library]
    rw [← List.append_nil ((masksForests s.masks).map Forest.reset)] at logic
    exact (uncounted_masksTakeForests logic).1

/-- The rewards of a settlement are copies as they are made. -/
theorem Reachable.settles_made {text : String} {c : Content} {s t : Session} (reached : Reachable c s)
    (parsed : Content.parse text = .ok c) {report : BattleReport} {settlement : Settlement}
    (settled : s.settle report = (.ok settlement, t)) :
    ∃ pieces, t.inventory.items = s.inventory.items ++ pieces ∧
      pieces.map (·.materialId) = s.rewardsDue report ∧ settlement.rewards = pieces.map (·.name) ∧
      ∀ p ∈ pieces, s.catalog.Makes p := by
  obtain ⟨_, _, books⟩ := reached.balanced
  obtain ⟨settlement', t', pieces, settled', rewards, names, items⟩ := reached.settles parsed report
  obtain ⟨rfl, rfl⟩ : settlement' = settlement ∧ t' = t := by
    simpa using settled'.symm.trans settled
  obtain ⟨made, stocked, -, copies, -⟩ :=
    stockAll_stocks (s.rewardsDue report) (books.step (s.settling_carries report))
  have inventory : t'.inventory = (stockAll (s.rewardsDue report) (s.settling report)).2.inventory := by
    rw [settle_eq] at settled
    split at settled
    · cases settled
    · next stocked =>
      cases settled
      rw [stocked]
  rw [← inventory, items] at stocked
  obtain rfl : pieces = made := List.append_cancel_left stocked
  exact ⟨pieces, items, rewards, names, copies⟩

/-- A round that is played is a fight and the settlement of its report. -/
theorem exists_settled {s t : Session} {enemy : String} {summary : RoundSummary}
    (played : s.playRound enemy = (.ok summary, t)) :
    ∃ report u, s.fight enemy = (.ok report, u) ∧ u.settle report = (.ok summary.settlement, t) ∧
      summary.enemy = enemy ∧ summary.report = report := by
  rw [playRound] at played
  split at played
  · cases played
  · next report u fought =>
    split at played
    · cases played
    · next settlement v settled =>
      cases played
      exact ⟨report, u, fought, settled, rfl, rfl⟩

theorem exists_foe_of_fight {s t : Session} {enemy : String} {report : BattleReport}
    (fought : s.fight enemy = (.ok report, t)) : ∃ foe, s.foe? enemy = some foe := by
  cases known : s.foe? enemy with
  | none => simp [fight, known] at fought
  | some foe => exact ⟨foe, rfl⟩

/-- In a game that was read from a text, a round is settled as its battle has ended. The battle is fought
against the first enemy of the name, with the logic and the number of the masks, and is reported. Growth is
collected by one walk through the forests that the battle had in play, in the order in which it had them, with
the battle's numbers of masks and attacks. The masks, which are now all filed, keep the forests as this walk
leaves them, and change in nothing else. After a victory copies of exactly the rewards of this enemy, with
full shelf life, come to stand at the end of the inventory in their order, and the settlement names them.
Otherwise the inventory stays as it is, and the settlement names no rewards. -/
theorem round_settles_battle {text : String} {c : Content} {s t : Session}
    (parsed : Content.parse text = .ok c) (reached : Reachable c s) {enemy : String}
    {summary : RoundSummary} (played : s.playRound enemy = (.ok summary, t)) :
    ∃ foe f, s.foe? enemy = some foe ∧
      let b := s.playedOut foe.profile
      let pass := s.growthPass f
      b.stage.fight? = some f ∧ summary.enemy = enemy ∧ summary.report = b.report ∧
      f.forests.map Forest.reset = (masksForests s.masks).map Forest.reset ∧
      f.maskCount = s.maskCount ∧
      summary.settlement.growth = pass.2.1.growth.getD .zero ∧
      t.record = s.commit.apply s.record summary.settlement.growth ∧
      masksForests t.library = pass.1 ∧ t.rng = pass.2.2 ∧
      t.library.map Mask.uncounted = s.masks.map Mask.uncounted ∧ t.current = none ∧
      (summary.report.outcome = some .victory →
        ∃ pieces, t.inventory.items = s.inventory.items ++ pieces ∧
          pieces.map (·.materialId) = foe.rewards ∧
          (∀ p ∈ pieces, ∃ m, s.catalog.get? p.materialId = some m ∧ p = m.instantiate p.id ∧
            p.remaining.toNat = max 1 m.shelfLifeTurns.toNat) ∧
          summary.settlement.rewards = pieces.map (·.name)) ∧
      (summary.report.outcome ≠ some .victory →
        t.inventory = s.inventory ∧ summary.settlement.rewards = []) := by
  obtain ⟨report, u, fought, settled, against, reported⟩ := exists_settled played
  obtain ⟨foe, known⟩ := exists_foe_of_fight fought
  have after : Reachable c u := by
    have fights := reached.operate (.fight enemy)
    rwa [operate, fought] at fights
  obtain ⟨f, ended, logic, count, same⟩ := exists_fought known
  obtain ⟨rfl, rfl⟩ : report = (s.playedOut foe.profile).report ∧
      u = { s.withForests f.forests with lastFoe := some enemy } := by
    simpa using fought.symm.trans same
  obtain ⟨taken, kept, counted⟩ := withForests_taken logic
  obtain ⟨growth, record, library, rng, filed, current⟩ :=
    settle_fought (s := { s.withForests f.forests with lastFoe := some enemy }) ended taken
      (count.trans counted.symm) settled
  obtain ⟨pieces, items, rewards, names, made⟩ := after.settles_made parsed settled
  refine ⟨foe, f, known, ended, against, reported, logic, count, growth, record, library, rng,
    filed.trans kept, current, fun victory => ?_, fun other => ?_⟩
  · rw [reported] at victory
    have due := rewards.trans (rewardsDue_of_victory rfl known victory)
    refine ⟨pieces, items, due, fun p hp => ?_, names⟩
    obtain ⟨m, listed, copy⟩ := made p hp
    exact ⟨m, listed, copy, Material.remaining_of_copy copy⟩
  · rw [reported] at other
    rw [rewardsDue, if_neg other, List.map_eq_nil_iff] at rewards
    rw [rewards, List.append_nil] at items
    exact ⟨congrArg Inventory.mk items, names.trans (congrArg _ rewards)⟩

end Session

/-- A game with a material that strengthens the player after every battle, and an enemy that gives two
rewards. -/
def spoilsText : String :=
  "starting_materials = [\"heart\", \"fang\"]\n[battle]\ntick_secs = 1.0\n" ++
  "[[material]]\nid = \"heart\"\nname = \"Heart\"\nnodes = [\x7b effect = \x7b kind = \"add_stats\", " ++
  "target = \"player\", stats = \x7b attack = 2 \x7d, persistent = true \x7d \x7d]\n" ++
  "[[material]]\nid = \"fang\"\nname = \"Fang\"\n" ++
  "[[enemy]]\nname = \"Slime\"\nmax_hp = 5\nrewards = [\"heart\", \"fang\"]\n"

/-- What is seen of a round. -/
structure Session.Round where
  outcome : Option Outcome
  actions : UInt32
  growth : Float32
  rewards : List String
  deriving DecidableEq

def Session.round? (s : Session) (enemy : String) : Option Session.Round :=
  (s.playRound enemy).1.toOption.map fun summary =>
    ⟨summary.report.outcome, summary.report.counters.actions, summary.settlement.growth.attack,
      summary.settlement.rewards⟩

/-- The heart of the mask in the making gives growth after one attack, and the rewards stand behind the fang
that was in stock. -/
theorem spoils_in_stock :
    ∃ c s summary t, Content.parse spoilsText = .ok c ∧ Session.Reachable c s ∧
      s.playRound "Slime" = (.ok summary, t) ∧ s.current.isSome = true ∧ t.current = none ∧
      s.inventory.items.map (·.materialId) = ["fang"] ∧
      summary.report.outcome = some .victory ∧ summary.report.counters.actions = 1 ∧
      summary.settlement.growth.attack = 2 ∧ summary.settlement.rewards = ["Heart", "Fang"] ∧
      t.inventory.items.map (·.materialId) = ["fang", "heart", "fang"] := by
  let ready (s : Session) := s.operateAll [.startMask "Fox", .bindPiece (.issued 0)]
  obtain ⟨c, s, parsed, begun, same⟩ := Session.exists_of_text spoilsText
    (fun s => ((ready s).round? "Slime", (ready s).inventory.items.map (·.materialId),
      (ready s).current.isSome, s.foes.map (·.rewards)))
    (some ⟨some .victory, 1, 2, ["Heart", "Fang"]⟩, ["fang"], true, [["heart", "fang"]])
    (by decide +kernel)
  simp only [Prod.mk.injEq] at same
  obtain ⟨seen, stock, making, rewards⟩ := same
  have reached : Session.Reachable c (ready s) := (Session.Reachable.new begun).operateAll _
  rcases played : (ready s).playRound "Slime" with ⟨e | summary, t⟩
  · simp [Session.round?, played, Except.toOption] at seen
  · simp only [Session.round?, played, Except.toOption, Option.map_some, Option.some.injEq,
      Session.Round.mk.injEq] at seen
    obtain ⟨won, once, growth, named⟩ := seen
    obtain ⟨foe, f, known, -, -, -, -, -, -, -, -, -, -, filed, victory, -⟩ :=
      Session.round_settles_battle parsed reached played
    obtain ⟨pieces, items, gained, -⟩ := victory won
    have due : foe.rewards = ["heart", "fang"] := by
      have there : foe ∈ (ready s).foes := List.mem_of_find?_eq_some known
      rw [reached.foes_eq, ← (Session.Reachable.new begun).foes_eq] at there
      have listed := List.mem_map_of_mem (f := (·.rewards)) there
      rw [rewards] at listed
      simpa using listed
    refine ⟨c, ready s, summary, t, parsed, reached, played, making, filed, stock, won, once, growth,
      named, ?_⟩
    rw [items, List.map_append, stock, gained, due]
    rfl

end Masquerade
