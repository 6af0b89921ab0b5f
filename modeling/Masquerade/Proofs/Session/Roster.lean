import Masquerade.Proofs.Session.Refusal

/-!
# The roster of enemies

The enemies have their turns in the order in which the content lists them, after the last one the first
again, and nothing but passing on the turn moves it (`Session.operateAll_nextFoe`). A fight and the
rewards for it look the enemy up by its name, so the enemy that is fought is the first with the name of
the one whose turn it is (`Session.nextEnemy_fought`).
-/

namespace Masquerade

open RandomWords (Stream)

/-- Whether the operation passes the turn of the enemies on. -/
def Operation.passesTurn : Operation → Bool
  | .nextEnemy => true
  | _ => false

/-- An enemy is found by its name if no enemy before it has the same name. -/
theorem Content.first_of_unique {c : Content} {place : Nat} {entry : Foe}
    (here : c.foes[place]? = some entry)
    (unique : ∀ other ∈ c.foes.take place, other.profile.name ≠ entry.profile.name) :
    c.foe entry.profile.name = some entry := by
  obtain ⟨bound, same⟩ := List.getElem?_eq_some_iff.1 here
  have split : c.foes = c.foes.take place ++ entry :: c.foes.drop (place + 1) := by
    rw [← same, ← List.drop_eq_getElem_cons bound, List.take_append_drop]
  refine List.find?_eq_some_iff_append.2 ⟨by simp, _, _, split, fun other h => ?_⟩
  simpa using unique other h

namespace Session

/-- Operations one after the other. -/
def operateAll (s : Session) (ops : List Operation) : Session := ops.foldl operate s

variable {c : Content} {s : Session}

theorem Reachable.foes_eq (reached : Reachable c s) : s.foes = c.foes :=
  congrArg (·.2.2) reached.game_eq

theorem Reachable.catalog_eq (reached : Reachable c s) : s.catalog = c.catalog :=
  congrArg (·.2.1) reached.game_eq

theorem Reachable.operateAll (reached : Reachable c s) (ops : List Operation) :
    Reachable c (s.operateAll ops) := by
  induction ops generalizing s with
  | nil => exact reached
  | cons op rest ih => exact ih (reached.operate op)

/-! ## Turns -/

/-- The enemy whose turn it is. -/
theorem nextEnemy_eq {f : Foe} (turn : s.foes[s.nextFoe % s.foes.length]? = some f) :
    s.nextEnemy = (some f.profile.name,
      { s with nextFoe := (s.nextFoe % s.foes.length + 1) % s.foes.length }) := by
  rw [nextEnemy, turn]

theorem exists_turn (manned : s.foes ≠ []) (k : Nat) :
    ∃ f, s.foes[k % s.foes.length]? = some f :=
  ⟨_, List.getElem?_eq_getElem (Nat.mod_lt k (List.length_pos_iff.2 manned))⟩

theorem operate_nextFoe (manned : s.foes ≠ []) (op : Operation) :
    (s.operate op).nextFoe % s.foes.length =
      (s.nextFoe + if op.passesTurn then 1 else 0) % s.foes.length := by
  by_cases turns : op = .nextEnemy
  · obtain ⟨f, turn⟩ := exists_turn manned s.nextFoe
    rw [turns, operate, nextEnemy_eq turn]
    show (s.nextFoe % s.foes.length + 1) % s.foes.length % s.foes.length =
      (s.nextFoe + 1) % s.foes.length
    rw [Nat.mod_mod, Nat.mod_add_mod]
  · have same : (s.operate op).nextFoe = s.nextFoe :=
      congrArg Prod.snd (s.operate_steady_game turns)
    have stays : op.passesTurn = false := by
      cases op with
      | nextEnemy => exact absurd rfl turns
      | _ => rfl
    rw [same, stays]
    rfl

theorem operate_foes (s : Session) (op : Operation) : (s.operate op).foes = s.foes :=
  congrArg (·.2.2) (s.operate_game op)

/-- After any operations it is the turn of the enemy to which the turn was passed on so many times. -/
theorem operateAll_nextFoe (manned : s.foes ≠ []) (ops : List Operation) :
    (s.operateAll ops).nextFoe % s.foes.length =
      (s.nextFoe + ops.countP (·.passesTurn)) % s.foes.length := by
  induction ops generalizing s with
  | nil => rfl
  | cons op rest ih =>
    have foes := s.operate_foes op
    have later := ih (s := s.operate op) (by rwa [foes])
    have step := operate_nextFoe manned op
    rw [foes] at later
    show ((s.operate op).operateAll rest).nextFoe % s.foes.length = _
    rw [later, List.countP_cons, Nat.add_mod, step, ← Nat.add_mod]
    congr 1
    omega

/-! ## Fights by name -/

/-- The fight of a session against an enemy with the given numbers, before the effects of its start have
run. -/
def lineUp (s : Session) (enemy : Profile) : Fight Unit :=
  .unopened (.ofRecord s.record) enemy (masksForests s.masks) s.maskCount
    (.ofSeed s.battleRuleset.seed) ()

/-- The battle of a session against an enemy, once the effects of its start have run. -/
def bout (s : Session) (enemy : Profile) : Battle Unit where
  arena :=
    let builtIn := (FinalDamage.ofRuleset s.battleRuleset).step Unit
    ⟨s.battleRuleset, .both (Pipeline.empty.ensureFinalizer builtIn)⟩
  stage := .fighting ((s.lineUp enemy).traverse ((s.lineUp enemy).moment .battleStart 0) none).1

theorem start_bout (s : Session) (enemy : Profile) :
    (Battle.new s.battleRuleset ()).start (s.battleSetup enemy) =
      .ok ([.entered s.record.name enemy.name, .started], s.bout enemy) := by
  rfl

/-- A fight plays out the battle against the first enemy of the name. -/
theorem fight_first {name : String} {f : Foe} (known : s.foe? name = some f) :
    (s.fight name).1 =
        .ok (playOut s.ruleset.tickSecs s.ruleset.maxTicks.toNat (s.bout f.profile)).report ∧
      (s.fight name).2.lastFoe = some name := by
  rw [fight, known]
  dsimp only
  rw [start_bout]
  exact ⟨rfl, rfl⟩

/-! ## The enemy that is fought -/

/-- A victory earns the rewards of the enemy of the last fight. -/
theorem rewardsDue_of_victory {name : String} {foe : Foe} {report : BattleReport}
    (last : s.lastFoe = some name) (known : s.foe? name = some foe)
    (victory : report.outcome = some .victory) : s.rewardsDue report = foe.rewards := by
  rw [rewardsDue, if_pos victory, rewardIds, last, Option.bind_some, known]

/-- In a game that was read from a text, after any operations, it is the turn of the enemy to which the
turn was passed on so many times. The fight against its name is fought against the first enemy of this
name, and a victory that is settled then brings the rewards of that one. It is the enemy whose turn it
was if no enemy before it has the same name. -/
theorem nextEnemy_fought {text : String} (parsed : Content.parse text = .ok c)
    (begun : Session.new c = .ok s) (manned : c.foes ≠ []) (ops : List Operation) :
    let t := s.operateAll ops
    let u := t.nextEnemy.2
    let place := ops.countP (·.passesTurn) % c.foes.length
    ∃ entry foe, c.foes[place]? = some entry ∧ t.nextEnemy.1 = some entry.profile.name ∧
      c.foe entry.profile.name = some foe ∧
      ((∀ other ∈ c.foes.take place, other.profile.name ≠ entry.profile.name) → foe = entry) ∧
      (u.lineUp foe.profile).combatants.enemy = .ofProfile foe.profile ∧
      (u.fight entry.profile.name).1 =
        .ok (playOut u.ruleset.tickSecs u.ruleset.maxTicks.toNat (u.bout foe.profile)).report ∧
      ∀ won : BattleReport, won.outcome = some .victory →
        ∃ settlement v pieces, (u.fight entry.profile.name).2.settle won = (.ok settlement, v) ∧
          pieces.map (·.materialId) = foe.rewards ∧ settlement.rewards = pieces.map (·.name) ∧
          v.inventory.items = u.inventory.items ++ pieces := by
  intro t u place
  have reached : Reachable c t := Reachable.operateAll (.new begun) ops
  obtain ⟨-, first⟩ := new_game begun
  have foesNew : s.foes = c.foes := (Reachable.new begun).foes_eq
  have foes : t.foes = c.foes := reached.foes_eq
  have turn : t.nextFoe % c.foes.length = place := by
    have turns := operateAll_nextFoe (s := s) (by rwa [foesNew]) ops
    rwa [foesNew, first, Nat.zero_add] at turns
  obtain ⟨entry, hentry⟩ : ∃ f, c.foes[place]? = some f :=
    ⟨_, List.getElem?_eq_getElem (Nat.mod_lt _ (List.length_pos_iff.2 manned))⟩
  have named : t.nextEnemy.1 = some entry.profile.name := by
    rw [nextEnemy_eq (f := entry) (by rw [foes, turn, hentry])]
  obtain ⟨foe, hfoe⟩ : ∃ foe, c.foe entry.profile.name = some foe := by
    rw [← Option.isSome_iff_exists, Content.foe, List.find?_isSome]
    exact ⟨entry, List.mem_of_getElem? hentry, by simp⟩
  -- the session that fights has the enemies of the content, and so has the one that settles
  have passed : Reachable c u := reached.operate .nextEnemy
  have fought : Reachable c (u.fight entry.profile.name).2 := passed.operate (.fight _)
  have known : ∀ v : Session, Reachable c v → v.foe? entry.profile.name = some foe := by
    intro v hv
    rw [foe?, hv.foes_eq]
    exact hfoe
  obtain ⟨report, last⟩ := fight_first (known u passed)
  refine ⟨entry, foe, hentry, named, hfoe, fun unique => ?_, rfl, report, fun won victory => ?_⟩
  · rw [Content.first_of_unique hentry unique] at hfoe
    exact (Option.some.inj hfoe).symm
  · obtain ⟨settlement, v, pieces, settled, rewards, names, items⟩ := fought.settles parsed won
    have due : (u.fight entry.profile.name).2.rewardsDue won = foe.rewards :=
      rewardsDue_of_victory last (known _ fought) victory
    have inventory : (u.fight entry.profile.name).2.inventory = u.inventory :=
      (congrArg Session.inventory (u.unfought_fight _) :)
    exact ⟨settlement, v, pieces, settled, rewards.trans due, names, by rw [items, inventory]⟩

end Session

/-- A game with two enemies of one name. -/
def twinsText : String :=
  "[battle]\ntick_secs = 1.0\ncrit_enabled = false\n" ++
  "[[material]]\nid = \"fang\"\nname = \"Fang\"\n" ++
  "[[material]]\nid = \"pearl\"\nname = \"Pearl\"\n" ++
  "[[enemy]]\nname = \"Slime\"\nmax_hp = 5\nrewards = [\"fang\"]\n" ++
  "[[enemy]]\nname = \"Slime\"\nmax_hp = 8\nrewards = [\"pearl\"]\n"

/-- What is seen of the fight on the second turn. -/
structure SecondTurn where
  name : Option String
  outcome : Option Outcome
  enemyMaxHp : Option Float32
  rewards : List String
  deriving DecidableEq

/-- The fight on the second turn and the rewards for it. -/
def Session.secondTurn (s : Session) : SecondTurn :=
  let t := s.operateAll [.nextEnemy]
  match t.nextEnemy.2.fight (t.nextEnemy.1.getD "") with
  | (.error _, _) => ⟨t.nextEnemy.1, none, none, []⟩
  | (.ok report, u) =>
    ⟨t.nextEnemy.1, report.outcome, report.combatants.map (·.enemy.maxHp),
      (u.settle report).2.inventory.items.map (·.materialId)⟩

/-- On the second turn the first of the twins is fought, and brings its reward. -/
theorem exists_twins :
    ∃ c s first second, Content.parse twinsText = .ok c ∧ Session.new c = .ok s ∧
      c.foes = [first, second] ∧ first.profile.name = "Slime" ∧ second.profile.name = "Slime" ∧
      first.profile.maxHp = 5 ∧ second.profile.maxHp = 8 ∧ first.rewards = ["fang"] ∧
      second.rewards = ["pearl"] ∧ s.secondTurn = ⟨some "Slime", some .victory, some 5, ["fang"]⟩ := by
  obtain ⟨c, s, parsed, begun, same⟩ := Session.exists_of_text twinsText
    (fun s => (s.foes.map fun f => (f.profile.name, f.profile.maxHp, f.rewards), s.secondTurn))
    ([("Slime", 5, ["fang"]), ("Slime", 8, ["pearl"])],
      ⟨some "Slime", some .victory, some 5, ["fang"]⟩) (by decide +kernel)
  obtain ⟨foes, seen⟩ := Prod.mk.inj same
  rw [(Session.Reachable.new begun).foes_eq] at foes
  obtain ⟨first, rest, all, firstHas, more⟩ := List.map_eq_cons_iff.1 foes
  obtain ⟨second, rfl, secondHas⟩ := List.map_eq_singleton_iff.1 more
  simp only [Prod.mk.injEq] at firstHas secondHas
  exact ⟨c, s, first, second, parsed, begun, all, firstHas.1, secondHas.1, firstHas.2.1,
    secondHas.2.1, firstHas.2.2, secondHas.2.2, seen⟩

/-- It is the turn of the second twin, and the first is fought and brings its reward. -/
theorem second_twin_unfought :
    ∃ c s entry, Content.parse twinsText = .ok c ∧ Session.new c = .ok s ∧ c.foes.length = 2 ∧
      c.foes[1 % 2]? = some entry ∧ entry.profile.maxHp = 8 ∧ entry.rewards = ["pearl"] ∧
      let t := s.operateAll [.nextEnemy]
      t.nextEnemy.1 = some entry.profile.name ∧
      ∃ report u, t.nextEnemy.2.fight entry.profile.name = (.ok report, u) ∧
        report.outcome = some .victory ∧ report.combatants.map (·.enemy.maxHp) = some 5 ∧
        (u.settle report).2.inventory.items.map (·.materialId) = ["fang"] := by
  obtain ⟨c, s, first, second, parsed, begun, foes, -, name, -, hp, -, rewards, seen⟩ := exists_twins
  refine ⟨c, s, second, parsed, begun, by rw [foes]; rfl, by rw [foes]; rfl, hp, rewards, ?_⟩
  intro t
  rw [Session.secondTurn] at seen
  have named : t.nextEnemy.1 = some "Slime" := by
    split at seen <;> exact congrArg SecondTurn.name seen
  have turn : (s.operateAll [.nextEnemy]).nextEnemy.1 = some "Slime" := named
  rw [turn, Option.getD_some] at seen
  rw [name]
  refine ⟨named, ?_⟩
  rcases fought : t.nextEnemy.2.fight "Slime" with ⟨e | report, u⟩
  · rw [fought] at seen
    cases seen
  · rw [fought] at seen
    simp only [SecondTurn.mk.injEq] at seen
    exact ⟨report, u, rfl, seen.2⟩

/-- The fight on the second turn is played out against the first twin. -/
theorem twins_share_a_fight :
    ∃ c s first second, Content.parse twinsText = .ok c ∧ Session.new c = .ok s ∧
      c.foes = [first, second] ∧ first.rewards = ["fang"] ∧ second.rewards = ["pearl"] ∧
      let u := (s.operateAll [.nextEnemy]).nextEnemy.2
      (s.operateAll [.nextEnemy]).nextEnemy.1 = some second.profile.name ∧
      (u.lineUp first.profile).combatants.enemy = .ofProfile first.profile ∧
      (u.fight second.profile.name).1 =
        .ok (Session.playOut u.ruleset.tickSecs u.ruleset.maxTicks.toNat
          (u.bout first.profile)).report := by
  obtain ⟨c, s, first, second, parsed, begun, foes, firstName, name, -, -, fang, pearl, -⟩ :=
    exists_twins
  obtain ⟨entry, foe, here, turn, known, -, lineUp, fought, -⟩ :=
    Session.nextEnemy_fought parsed begun (by simp [foes]) [.nextEnemy]
  obtain rfl : second = entry := by simpa [foes, Operation.passesTurn] using here
  obtain rfl : first = foe := by simpa [Content.foe, foes, firstName, name] using known
  exact ⟨c, s, first, second, parsed, begun, foes, fang, pearl, turn, lineUp, fought⟩

end Masquerade
