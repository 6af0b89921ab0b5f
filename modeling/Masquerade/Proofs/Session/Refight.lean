import Masquerade.Proofs.Battle.Kept
import Masquerade.Session

/-!
# Fighting again

A fight of a session leaves two things behind: what the gates of the masks have counted, and whom it was
against. `Session.unfought` takes both away. No fight changes anything else (`Session.unfought_fight`),
and the next fight starts from neither (`Session.fight_congr`), so that of several fights before a
round is settled only the last one matters (`Session.fightAll_concat`).
-/

namespace Masquerade

open RandomWords (Stream)

/-! ## Pieces and masks without counted numbers -/

/-- The piece with every counter of its forest at zero. -/
def Piece.uncounted (p : Piece) : Piece := { p with forest := p.forest.reset }

/-- The mask with every counter of its forests at zero. -/
def Mask.uncounted (mask : Mask) : Mask := { mask with pieces := mask.pieces.map Piece.uncounted }

namespace Mask

theorem forests_uncounted (mask : Mask) :
    mask.uncounted.forests = mask.forests.map Forest.reset := by
  simp [forests, uncounted, Piece.uncounted]

/-- Forests that are given to a mask replace those of its pieces, whatever these had counted. -/
theorem takeForests_uncounted {mask : Mask} (forests : List Forest)
    (enough : mask.pieces.length ≤ forests.length) :
    mask.uncounted.takeForests forests = mask.takeForests forests := by
  have none : mask.pieces.drop forests.length = [] := List.drop_eq_nil_of_le enough
  simp [takeForests, uncounted, List.zipWith_map_left, Piece.uncounted, none, ← List.map_drop]

/-- Forests of the same logic as a mask's own change nothing of it but what is counted. -/
theorem uncounted_takeForests {mask : Mask} {forests rest : List Forest}
    (same : forests.map Forest.reset = mask.forests.map Forest.reset ++ rest) :
    (mask.takeForests forests).1.uncounted = mask.uncounted ∧
      (mask.takeForests forests).2.map Forest.reset = rest := by
  obtain ⟨name, mana, pieces⟩ := mask
  simp only [uncounted, takeForests, Mask.forests, mk.injEq, true_and] at same ⊢
  induction pieces generalizing forests with
  | nil => exact ⟨by simp, same⟩
  | cons p pieces ih =>
    cases forests with
    | nil => simp at same
    | cons F forests =>
      obtain ⟨first, later⟩ := List.cons.inj same
      obtain ⟨taken, left⟩ := ih later
      refine ⟨congrArg₂ List.cons ?_ taken, left⟩
      rw [Piece.uncounted, Piece.uncounted, first]

end Mask

theorem masksForests_append (masks more : List Mask) :
    masksForests (masks ++ more) = masksForests masks ++ masksForests more :=
  List.flatMap_append

theorem masksForests_uncounted (masks : List Mask) :
    masksForests (masks.map Mask.uncounted) = (masksForests masks).map Forest.reset := by
  simp only [masksForests, List.flatMap_map, List.map_flatMap, Mask.forests_uncounted]

theorem length_masksForests_cons (mask : Mask) (masks : List Mask) :
    (masksForests (mask :: masks)).length = mask.pieces.length + (masksForests masks).length := by
  simp [masksForests, Mask.forests]

theorem masksTakeForests_left (masks : List Mask) (forests : List Forest) :
    (masksTakeForests masks forests).2 = forests.drop (masksForests masks).length := by
  induction masks generalizing forests with
  | nil => rfl
  | cons mask masks ih =>
    show (masksTakeForests masks (forests.drop mask.pieces.length)).2 = _
    rw [ih, List.drop_drop, length_masksForests_cons]

theorem masksTakeForests_uncounted {masks : List Mask} {forests : List Forest}
    (enough : (masksForests masks).length ≤ forests.length) :
    masksTakeForests (masks.map Mask.uncounted) forests = masksTakeForests masks forests := by
  induction masks generalizing forests with
  | nil => rfl
  | cons mask masks ih =>
    rw [length_masksForests_cons] at enough
    have first := mask.takeForests_uncounted forests (by omega)
    have left : (mask.takeForests forests).2.length = forests.length - mask.pieces.length :=
      List.length_drop
    rw [List.map_cons, masksTakeForests, masksTakeForests, first]
    dsimp only
    rw [ih (by omega)]

theorem uncounted_masksTakeForests {masks : List Mask} {forests rest : List Forest}
    (same : forests.map Forest.reset = (masksForests masks).map Forest.reset ++ rest) :
    (masksTakeForests masks forests).1.map Mask.uncounted = masks.map Mask.uncounted ∧
      (masksTakeForests masks forests).2.map Forest.reset = rest := by
  induction masks generalizing forests with
  | nil => exact ⟨rfl, same⟩
  | cons mask masks ih =>
    have split : forests.map Forest.reset =
        mask.forests.map Forest.reset ++ ((masksForests masks).map Forest.reset ++ rest) := by
      simpa [masksForests] using same
    obtain ⟨first, left⟩ := Mask.uncounted_takeForests split
    obtain ⟨later, left⟩ := ih left
    exact ⟨congrArg₂ List.cons first later, left⟩

/-! ## Sessions without a fight since the last round -/

namespace Session

/-- The session with every counter of its masks at zero, and without an enemy of the last fight. -/
def unfought (s : Session) : Session :=
  { s with
    library := s.library.map Mask.uncounted
    current := s.current.map Mask.uncounted
    lastFoe := none }

theorem unfought_masks (s : Session) : s.unfought.masks = s.masks.map Mask.uncounted := by
  have current : (s.current.map Mask.uncounted).toList = s.current.toList.map Mask.uncounted := by
    cases s.current <;> rfl
  rw [masks, masks, List.map_append, ← current]
  rfl

/-- Taking back forests of the logic that the masks had changes counted numbers at most. -/
theorem unfought_withForests {s : Session} {forests : List Forest}
    (same : forests.map Forest.reset = (masksForests s.masks).map Forest.reset) :
    (s.withForests forests).unfought = s.unfought := by
  rw [masks, masksForests_append, List.map_append] at same
  obtain ⟨library, left⟩ := uncounted_masksTakeForests same
  have current : (s.current.map fun mask =>
      (mask.takeForests (masksTakeForests s.library forests).2).1).map Mask.uncounted =
      s.current.map Mask.uncounted := by
    cases hc : s.current with
    | none => rfl
    | some mask =>
      rw [hc] at left
      have own : (masksTakeForests s.library forests).2.map Forest.reset =
          mask.forests.map Forest.reset ++ [] := by
        simpa [masksForests] using left
      exact congrArg some (Mask.uncounted_takeForests own).1
  simp only [unfought, withForests, library, current]

/-- Taking back a forest for every piece leaves nothing of what had been counted. -/
theorem withForests_unfought {s : Session} {forests : List Forest}
    (enough : (masksForests s.masks).length ≤ forests.length) :
    s.unfought.withForests forests = { s.withForests forests with lastFoe := none } := by
  rw [masks, masksForests_append, List.length_append] at enough
  have library : masksTakeForests (s.library.map Mask.uncounted) forests =
      masksTakeForests s.library forests := masksTakeForests_uncounted (by omega)
  have left := congrArg List.length (masksTakeForests_left s.library forests)
  rw [List.length_drop] at left
  have current : (s.current.map Mask.uncounted).map (fun mask =>
      (mask.takeForests (masksTakeForests s.library forests).2).1) =
      s.current.map fun mask => (mask.takeForests (masksTakeForests s.library forests).2).1 := by
    cases hc : s.current with
    | none => rfl
    | some mask =>
      have own : mask.pieces.length = (masksForests s.current.toList).length := by
        simp [hc, masksForests, Mask.forests]
      have taken := mask.takeForests_uncounted (masksTakeForests s.library forests).2
        (by omega)
      exact congrArg (fun m => some m.1) taken
  simp only [unfought, withForests, library, current]

/-! ## Fights -/

/-- What a fight keeps holds of it when it is played out. -/
theorem playOut_kept {σ : Type} {r : Ruleset} {P : Fight σ → List Event → Prop} (kept : Fight.Kept r P)
    (dt : Float32) (ticks : Nat) {b : Battle σ} (hr : b.arena.ruleset = r) {f : Fight σ}
    (hb : b.stage.fight? = some f) (log : List Event) (hf : P f log) :
    ∃ f' log', (playOut dt ticks b).stage.fight? = some f' ∧ P f' log' := by
  induction ticks generalizing b f log with
  | zero =>
    refine ⟨f, log, ?_, hf⟩
    show b.stop.stage.fight? = some f
    rw [Battle.stop]
    cases hs : b.stage <;> simp_all [Stage.fight?]
  | succ ticks ih =>
    rw [playOut]
    split
    · exact ⟨f, log, hb, hf⟩
    · cases hs : b.stage with
      | idle => simp [hs, Stage.fight?] at hb
      | fighting g =>
        obtain rfl : g = f := by simpa [hs, Stage.fight?] using hb
        obtain ⟨g', ticked, hg'⟩ := kept.tick hr hs hf dt
        exact ih ((congrArg Arena.ruleset (b.tick_arena dt)).trans hr) ticked _ hg'
      | ended => simp_all [Battle.isFinished]

/-- A fight changes neither the logic in play nor the number of masks. -/
theorem kept_logic {σ : Type} (r : Ruleset) (f : Fight σ) :
    Fight.Kept r fun (g : Fight σ) _ => g.logic = f.logic ∧ g.maskCount = f.maskCount where
  advance _ h := h
  attack _ _ h := ⟨(Blow.resolved_logic _).trans h.1, h.2⟩
  close h := ⟨(Fight.closed_logic _).trans h.1, h.2⟩

/-- A fight that is played out has the logic in play that it had when it began, and the same number of
masks. -/
theorem playOut_logic {σ : Type} (dt : Float32) (ticks : Nat) {b : Battle σ} {f : Fight σ}
    (hb : b.stage.fight? = some f) :
    ∃ f', (playOut dt ticks b).stage.fight? = some f' ∧ f'.logic = f.logic ∧
      f'.maskCount = f.maskCount := by
  obtain ⟨f', -, played, same⟩ :=
    playOut_kept (kept_logic b.arena.ruleset f) dt ticks rfl hb [] ⟨rfl, rfl⟩
  exact ⟨f', played, same⟩

theorem battleSetup_sameLogic {s t : Session} (same : t.unfought = s.unfought)
    (enemy : Profile) : (t.battleSetup enemy).SameLogic (s.battleSetup enemy) := by
  have masks : t.masks.map Mask.uncounted = s.masks.map Mask.uncounted := by
    rw [← unfought_masks, same, unfought_masks]
  have count : t.unfought.maskCount = s.unfought.maskCount := by rw [same]
  have record : t.record = s.record := (congrArg Session.record same :)
  refine ⟨congrArg Profile.ofRecord record, rfl, Forest.forall₂_sameLogic_iff.2 ?_, ?_⟩
  · show (masksForests t.masks).map Forest.reset = (masksForests s.masks).map Forest.reset
    rw [← masksForests_uncounted, masks, masksForests_uncounted]
  · show t.maskCount = s.maskCount
    simpa [maskCount, unfought] using count

/-- A fight against a known enemy gives a report, and leaves forests of the logic that the masks had.
Sessions that differ in counted numbers and the enemy of the last fight only have this fight in
common. -/
theorem fight_known {s : Session} {name : String} (known : (s.foe? name).isSome = true) :
    ∃ report forests, forests.map Forest.reset = (masksForests s.masks).map Forest.reset ∧
      ∀ t : Session, t.unfought = s.unfought →
        t.fight name = (.ok report, { t.withForests forests with lastFoe := some name }) := by
  obtain ⟨foe, hfoe⟩ := Option.isSome_iff_exists.1 known
  obtain ⟨out, accepted⟩ := Battle.exists_start (b := Battle.new s.battleRuleset ())
    (s := s.battleSetup foe.profile) rfl rfl
  obtain ⟨f, stage, logic, -⟩ := Battle.fresh_of_start accepted
  obtain ⟨f', played, logic', -⟩ := playOut_logic s.ruleset.tickSecs s.ruleset.maxTicks.toNat
    (congrArg Stage.fight? stage)
  refine ⟨(playOut s.ruleset.tickSecs s.ruleset.maxTicks.toNat out.2).report, f'.forests,
    logic'.trans logic, fun t same => ?_⟩
  -- a fight reads nothing of a session that taking counted numbers away would change
  have foes : t.foes = s.foes := (congrArg Session.foes same :)
  have ruleset : t.ruleset = s.ruleset := (congrArg Session.ruleset same :)
  have round : t.round = s.round := (congrArg Session.round same :)
  have started : (Battle.new t.battleRuleset ()).start (t.battleSetup foe.profile) = .ok out := by
    rw [← accepted, battleRuleset, battleRuleset, ruleset, round]
    exact Battle.start_congr rfl rfl rfl rfl rfl (battleSetup_sameLogic same foe.profile)
  rw [fight, foe?, foes, ← foe?, hfoe]
  dsimp only
  rw [started]
  dsimp only
  rw [ruleset, played]
  rfl

/-- A fight changes nothing but counted numbers and the enemy of the last fight. -/
theorem unfought_fight (s : Session) (name : String) : (s.fight name).2.unfought = s.unfought := by
  cases hfoe : s.foe? name with
  | none => rw [fight, hfoe]
  | some foe =>
    obtain ⟨report, forests, logic, fought⟩ := fight_known (Option.isSome_iff_exists.2 ⟨foe, hfoe⟩)
    rw [fought s rfl]
    exact unfought_withForests logic

theorem fight_inventory (s : Session) (name : String) : (s.fight name).2.inventory = s.inventory :=
  (congrArg Session.inventory (s.unfought_fight name) :)

/-- A fight starts neither from counted numbers nor from the enemy of the last fight. -/
theorem fight_congr {s t : Session} (same : t.unfought = s.unfought) {name : String}
    (known : (s.foe? name).isSome = true) : t.fight name = s.fight name := by
  obtain ⟨report, forests, logic, fought⟩ := fight_known known
  -- there is a forest for every piece, so that no counter of before is left
  have enough : ∀ u : Session, u.unfought = s.unfought →
      (masksForests u.masks).length ≤ forests.length := by
    intro u hu
    have masks := congrArg (fun v => (masksForests v.masks).length) hu
    have length := congrArg List.length logic
    simp only [unfought_masks, masksForests_uncounted, List.length_map] at masks length
    omega
  have taken : { t.withForests forests with lastFoe := none } =
      { s.withForests forests with lastFoe := none } := by
    rw [← withForests_unfought (enough t same), ← withForests_unfought (enough s rfl), same]
  rw [fought t same, fought s rfl]
  exact congrArg (fun u : Session => (Except.ok report, { u with lastFoe := some name })) taken

/-- Fights several enemies one after the other: the answer of each fight, and the session in the end. -/
def fightAll (s : Session) : List String → List (Except GameError BattleReport) × Session
  | [] => ([], s)
  | name :: rest =>
    let (reply, s) := s.fight name
    let (replies, s) := s.fightAll rest
    (reply :: replies, s)

theorem unfought_fightAll (s : Session) (names : List String) :
    (s.fightAll names).2.unfought = s.unfought := by
  induction names generalizing s with
  | nil => rfl
  | cons name rest ih => exact (ih (s.fight name).2).trans (s.unfought_fight name)

/-- Fights against known enemies all give a report. -/
theorem fightAll_replies {s t : Session} (same : t.unfought = s.unfought) {names : List String}
    (known : ∀ name ∈ names, (s.foe? name).isSome = true) :
    ∀ reply ∈ (t.fightAll names).1, reply.toBool = true := by
  induction names generalizing t with
  | nil => simp [fightAll]
  | cons name rest ih =>
    obtain ⟨report, forests, -, fought⟩ := fight_known (known name List.mem_cons_self)
    have first : (t.fight name).1.toBool = true := by rw [fought t same]; rfl
    have later := ih ((t.unfought_fight name).trans same)
      fun other h => known other (List.mem_cons_of_mem name h)
    intro reply hreply
    rcases List.mem_cons.1 hreply with rfl | hreply
    · exact first
    · exact later reply hreply

theorem mana_of_unfought {s t : Session} (same : t.unfought = s.unfought) :
    t.masks.map (·.mana) = s.masks.map (·.mana) := by
  have drop (u : Session) : u.unfought.masks.map (·.mana) = u.masks.map (·.mana) := by
    rw [unfought_masks, List.map_map]
    rfl
  rw [← drop t, same, drop s]

theorem fightAll_append (s : Session) (names more : List String) :
    s.fightAll (names ++ more) =
      ((s.fightAll names).1 ++ ((s.fightAll names).2.fightAll more).1,
        ((s.fightAll names).2.fightAll more).2) := by
  induction names generalizing s with
  | nil => rfl
  | cons name rest ih =>
    have later := ih (s.fight name).2
    rw [List.cons_append, fightAll]
    dsimp only
    rw [later]
    rfl

/-- Fighting is repeatable until the round is settled. After any fights, a fight against a known enemy
gives the report that it would have given alone, and leaves the session that it would have left alone,
so that settling gives the same as well. A fight touches neither the record nor the inventory, the
mana of the masks, the session's random words, the round or the turns of the enemies. -/
theorem fightAll_concat (s : Session) (names : List String) (last : String)
    (known : ∀ name ∈ names ++ [last], (s.foe? name).isSome = true) :
    let alone := s.fight last
    let all := s.fightAll (names ++ [last])
    (∃ report, alone.1 = .ok report) ∧ all.1.getLast? = some alone.1 ∧ all.2 = alone.2 ∧
    (∀ reply ∈ all.1, reply.toBool = true) ∧
    (∀ report, all.2.settle report = alone.2.settle report) ∧
    ∀ (t : Session) (name : String),
      (t.fight name).2.record = t.record ∧ (t.fight name).2.inventory = t.inventory ∧
      (t.fight name).2.masks.map (·.mana) = t.masks.map (·.mana) ∧
      (t.fight name).2.rng = t.rng ∧ (t.fight name).2.round = t.round ∧
      (t.fight name).2.nextFoe = t.nextFoe := by
  intro alone all
  have again : (s.fightAll names).2.fight last = alone :=
    fight_congr (s.unfought_fightAll names) (known last (by simp))
  have split : all = ((s.fightAll names).1 ++ [alone.1], alone.2) := by
    show s.fightAll (names ++ [last]) = _
    rw [fightAll_append, fightAll, again]
    rfl
  have after : all.2 = alone.2 := by rw [split]
  obtain ⟨report, forests, -, fought⟩ := fight_known (known last (by simp))
  refine ⟨⟨report, congrArg Prod.fst (fought s rfl)⟩, by rw [split]; simp, after,
    fightAll_replies rfl known, fun report => by rw [after], fun t name => ?_⟩
  have same := t.unfought_fight name
  exact ⟨(congrArg Session.record same :), (congrArg Session.inventory same :),
    mana_of_unfought same, (congrArg Session.rng same :), (congrArg Session.round same :),
    (congrArg Session.nextFoe same :)⟩

end Session

/-- A session in which a mask with a drum meets two enemies. -/
def parade : Session :=
  let content : Content := {
    ruleset := { critEnabled := false, tickSecs := 1, maxTicks := 3 }
    player := .new "Hero" { Stats.starting with speedRate := 10 }
    catalog := .empty
    foes := [⟨{ name := "Ogre", maxHp := 20, speedRate := 0 }, []⟩,
      ⟨{ name := "Slime", maxHp := 5, speedRate := 0 }, []⟩]
    startingMaterials := [] }
  let piece := Material.instantiate ⟨"drum", "Drum", 1, .common, 3, drum⟩ (.issued 0)
  { Session.unstocked content with current := some ⟨"Parade", .full 10, [piece]⟩ }

/-- The drum of the parade remembers the last fight, and nothing of the one before. -/
theorem parade_remembers_last :
    (∀ name ∈ ["Ogre", "Slime"], (parade.foe? name).isSome = true) ∧
      (parade.fightAll ["Ogre", "Slime"]).2 = (parade.fight "Slime").2 ∧
      (masksForests (parade.fight "Ogre").2.masks).map (·.counter 0) = [2] ∧
      (masksForests (parade.fight "Slime").2.masks).map (·.counter 0) = [0] := by
  have known : ∀ name ∈ ["Ogre"] ++ ["Slime"], (parade.foe? name).isSome = true := by decide +kernel
  obtain ⟨-, -, last, -⟩ := parade.fightAll_concat ["Ogre"] "Slime" known
  exact ⟨known, last, by decide +kernel, by decide +kernel⟩

end Masquerade
