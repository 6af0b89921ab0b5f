import Masquerade.Proofs.Session.Grounds
import Masquerade.Proofs.Session.History
import Masquerade.Runner.Run

/-!
# Rounds without a player

Between two rounds of the runner no mask is in the making, and the library, the record and the number of
the round are what the rounds so far have made of them (`Runner.Progress`). From there no operation of
the next round can be refused, and the same holds after it (`Runner.Progress.step`). So the rounds come
to an end only where they are told to (`Runner.Ends`, `Runner.playRounds_progress`), and the runner
reports them with exit code zero (`Runner.rounds_played`).
-/

namespace Masquerade

theorem names_masksTakeForests (masks : List Mask) (forests : List Forest) :
    (masksTakeForests masks forests).1.map (·.name) = masks.map (·.name) := by
  induction masks generalizing forests with
  | nil => rfl
  | cons mask masks ih => exact congrArg (mask.name :: ·) (ih _)

namespace Session

/-- The names of all masks. -/
def maskNames (s : Session) : List String := s.masks.map (·.name)

variable {c : Content} {s t : Session}

/-! ## The parts of a round -/

theorem bindPiece_maskNames (s : Session) (id : InstanceId) :
    (s.bindPiece id).2.maskNames = s.maskNames := by
  have binding := s.bindPiece_binding id
  generalize s.bindPiece id = reply at binding ⊢
  cases binding with
  | maskless | absent | unpaid => rfl
  | bound making => simp [maskNames, masks, making]

theorem fight_maskNames (s : Session) (enemy : String) :
    (s.fight enemy).2.maskNames = s.maskNames := by
  have drop (u : Session) : u.unfought.maskNames = u.maskNames := by
    rw [maskNames, unfought_masks, List.map_map]
    rfl
  rw [← drop, unfought_fight, drop]

/-- What is settled is the round that the session is in, and then all masks are in the library. -/
theorem settle_filed {report : BattleReport} {settlement : Settlement}
    (settled : s.settle report = (.ok settlement, t)) :
    settlement.round = s.round ∧ t.current = none ∧ t.library.map (·.name) = s.maskNames := by
  have filed : (s.settling report).library.map (·.name) = s.maskNames :=
    names_masksTakeForests s.masks _
  have kept := stockAll_keeps
    (P := fun u => u.round = s.round ∧ u.current = none ∧ u.library.map (·.name) = s.maskNames)
    (fun u material h => by rw [stock]; split <;> exact h)
    (s.rewardsDue report) (s := s.settling report) ⟨rfl, rfl, filed⟩
  rw [settle_eq] at settled
  split at settled
  · cases settled
  · next pieces u stocked =>
    rw [stocked] at kept
    cases settled
    exact kept

/-- Where no mask is in the making, one can be started, and whatever the mana covers can be bound to
it. -/
theorem exists_makePhase (reached : Reachable c s) (idle : s.current = none) (name : String) :
    ∃ t bound u, s.startMask name = (.ok (), t) ∧ t.autoBind = (.ok bound, u) ∧
      u.maskNames = s.maskNames ++ [name] ∧ u.standing = s.standing := by
  let t : Session := { s with current := some (.new name s.ruleset.baseMaskMana) }
  have started : s.startMask name = (.ok (), t) := by simp [startMask, idle, t]
  have names : t.maskNames = s.maskNames ++ [name] := by simp [t, maskNames, masks, idle, Mask.new]
  have making : Reachable c t := by
    have after := reached.operate (.startMask name)
    rwa [operate, started] at after
  obtain ⟨stocked, expired, books⟩ := making.balanced
  have kept := bindAffordable_keeps
    (P := fun u => u.maskNames = t.maskNames ∧ u.standing = t.standing)
    (fun u id h => ⟨(u.bindPiece_maskNames id).trans h.1, (u.bindPiece_standing id).trans h.2⟩)
    t.inventory.idsByExpiry ⟨rfl, rfl⟩
  obtain ⟨bound, u, done, -⟩ | ⟨maskless, -⟩ := autoBind_moved books.nodup_inventory
  · rw [autoBind] at done
    rw [done, names] at kept
    exact ⟨t, bound, u, started, done, kept⟩
  · cases maskless

/-- Where every reward is in the catalog, a round against an enemy of the game can be played. -/
theorem exists_playRound (reached : Reachable c s) (supplied : c.Supplied) {enemy : String}
    (there : (s.foe? enemy).isSome = true) :
    ∃ summary t, s.playRound enemy = (.ok summary, t) ∧ summary.enemy = enemy ∧
      summary.settlement.round = s.round ∧ t.current = none ∧
      t.library.map (·.name) = s.maskNames ∧
      t.standing = s.standing.settled summary.settlement := by
  obtain ⟨f, hf⟩ := Option.isSome_iff_exists.1 there
  obtain ⟨answered, -⟩ := fight_first hf
  have after : Reachable c (s.fight enemy).2 := reached.operate (.fight enemy)
  have names := s.fight_maskNames enemy
  have stands := s.fight_standing enemy
  rcases fought : s.fight enemy with ⟨e | report, u⟩
  · rw [fought] at answered
    cases answered
  · rw [fought] at after names stands
    obtain ⟨settlement, t, -, settled, -⟩ := after.settles_of_supplied supplied report
    obtain ⟨round, idle, filed⟩ := settle_filed settled
    have same : u.round = s.round := congrArg Standing.round stands
    refine ⟨⟨enemy, report, settlement⟩, t, ?_, rfl, round.trans same, idle, filed.trans names, ?_⟩
    · rw [playRound, fought]
      dsimp only
      rw [settled]
    · rw [settle_standing settled]
      exact congrArg (Standing.settled · settlement) stands

end Session

/-! ## Opponents -/

namespace Content

/-- The content with a seed of its own for a run. -/
def seeded (c : Content) (seed : UInt64) : Content :=
  { c with ruleset := { c.ruleset with seed := seed } }

/-- Whether there is somebody to fight: the enemy that is asked for, or any at all if none is. -/
def CanFight (c : Content) : Option String → Prop
  | some name => ∃ f ∈ c.foes, f.profile.name = name
  | none => c.foes ≠ []

/-- The name of the enemy of a round, when rounds are counted from zero. -/
def opponent? (c : Content) (asked : Option String) (round : Nat) : Option String :=
  match asked with
  | some name => some name
  | none => c.foes[round % c.foes.length]?.map (·.profile.name)

end Content

namespace Runner

open Session (Standing)

variable {c : Content} {asked : Option String} {keepGoing : Bool} {s : Session}

/-! ## One round -/

/-- What is done to a session in a round. -/
def roundOperations (round : Nat) (enemy : String) : List Operation :=
  [.startMask s!"Mask {round}", .autoBind, .endMakePhase, .playRound enemy]

/-- How far the rounds have come: what they have brought, and the session between two of them. -/
structure Progress (c : Content) (asked : Option String) (played : List RoundSummary)
    (s : Session) : Prop where
  reached : Session.Reachable c s
  idle : s.current = none
  turn : asked = none → s.nextFoe % c.foes.length = played.length % c.foes.length
  enemies : played.map (some ·.enemy) = (List.range played.length).map (c.opponent? asked)
  numbers : played.map (·.settlement.round) = (List.range' 1 played.length).map UInt32.ofNat
  masks : s.library.map (·.name) = (List.range' 1 played.length).map fun i => s!"Mask {i}"
  standing : s.standing = (played.map (·.settlement)).foldl Standing.settled ⟨c.player, 1, .direct⟩

/-- A round can be played wherever no mask is in the making. -/
theorem exists_playOne (reached : Session.Reachable c s) (supplied : c.Supplied)
    (idle : s.current = none) {enemy : String} (there : (s.foe? enemy).isSome = true) (round : Nat) :
    ∃ summary t, playOne s round enemy = .ok (summary, t) ∧
      t = s.operateAll (roundOperations round enemy) ∧ summary.enemy = enemy ∧
      summary.settlement.round = s.round ∧ t.current = none ∧
      t.library.map (·.name) = s.library.map (·.name) ++ [s!"Mask {round}"] ∧
      t.standing = s.standing.settled summary.settlement := by
  obtain ⟨t, bound, u, started, done, names, stands⟩ :=
    Session.exists_makePhase reached idle s!"Mask {round}"
  have ready : u.endMakePhase.2 =
      s.operateAll [.startMask s!"Mask {round}", .autoBind, .endMakePhase] := by
    show _ = (s.startMask s!"Mask {round}").2.autoBind.2.endMakePhase.2
    rw [started, done]
  have made : Session.Reachable c u.endMakePhase.2 := by
    rw [ready]
    exact reached.operateAll _
  have manned : (u.endMakePhase.2.foe? enemy).isSome = true := by
    rwa [Session.foe?, made.foes_eq, ← reached.foes_eq]
  obtain ⟨summary, v, played, fought, number, settled, library, standing⟩ :=
    Session.exists_playRound made supplied manned
  have before : s.maskNames = s.library.map (·.name) := by simp [Session.maskNames, Session.masks, idle]
  have same : u.endMakePhase.2.standing = s.standing := stands
  refine ⟨summary, v, ?_, ?_, fought, number.trans (congrArg Standing.round stands), settled, ?_, ?_⟩
  · rw [playOne, started]
    dsimp only
    rw [done]
    dsimp only
    rw [played]
  · have last := congrArg Prod.snd played
    rw [ready] at last
    exact last.symm
  · rw [library, ← before]
    exact names
  · rw [standing, same]

namespace Progress

variable {played : List RoundSummary}

theorem begin (begun : Session.new c = .ok s) : Progress c asked [] s := by
  obtain ⟨idle, bare⟩ : s.current = none ∧ s.library.map (·.name) = [] :=
    Session.new_keeps (P := fun t => t.current = none ∧ t.library.map (·.name) = [])
      (fun t material h => by rw [Session.stock]; split <;> exact h) begun ⟨rfl, rfl⟩
  have first : s.nextFoe = 0 := (Session.new_game begun).2
  exact ⟨.new begun, idle, fun _ => by rw [first]; rfl, rfl, rfl, bare, Session.new_standing begun⟩

theorem round_eq (h : Progress c asked played s) : s.round = .ofNat (1 + played.length) := by
  have round := congrArg Standing.round h.standing
  rw [Session.foldl_settled_direct, List.length_map] at round
  rw [UInt32.ofNat_add]
  exact round

/-- As many rounds as a number can count have their numbers exactly. -/
theorem exact_numbers (h : Progress c asked played s) {rounds : UInt32}
    (atMost : played.length ≤ rounds.toNat) :
    played.map (·.settlement.round.toNat) = List.range' 1 played.length := by
  have numbers := congrArg (List.map UInt32.toNat) h.numbers
  rw [List.map_map, List.map_map] at numbers
  have same : ∀ i ∈ List.range' 1 played.length, (UInt32.toNat ∘ UInt32.ofNat) i = id i := by
    intro i hi
    have small : rounds.toNat < UInt32.size := rounds.toNat_lt
    rw [List.mem_range'_1] at hi
    exact UInt32.toNat_ofNat_of_lt' (by omega)
  rw [List.map_congr_left same, List.map_id] at numbers
  exact numbers

/-- The growth of every round has landed on the stats of the player. -/
theorem actual_eq (h : Progress c asked played s) :
    s.record.actual =
      played.foldl (fun stats e => stats.grown e.settlement.growth) c.player.actual := by
  have stands := h.standing
  rw [Session.foldl_settled_direct, List.foldl_map] at stands
  exact congrArg (·.record.actual) stands

/-- There is an enemy for the next round. -/
theorem exists_enemy (h : Progress c asked played s) (manned : c.CanFight asked) :
    ∃ name u, enemyOf asked s = (some name, u) ∧ (u.foe? name).isSome = true ∧
      c.opponent? asked played.length = some name ∧ Session.Reachable c u ∧ u.current = none ∧
      u.library = s.library ∧ u.standing = s.standing ∧
      (asked = none → u.nextFoe % c.foes.length = (played.length + 1) % c.foes.length) := by
  have foes := h.reached.foes_eq
  cases asked with
  | some name =>
    obtain ⟨f, hf, named⟩ := manned
    refine ⟨name, s, rfl, ?_, rfl, h.reached, h.idle, rfl, rfl, fun none => by cases none⟩
    rw [Session.foe?, foes, List.find?_isSome]
    exact ⟨f, hf, by simp [named]⟩
  | none =>
    have turn := h.turn rfl
    obtain ⟨f, hf⟩ := Session.exists_turn (s := s) (foes ▸ manned) s.nextFoe
    have next := Session.nextEnemy_eq hf
    have passed := h.reached.operate .nextEnemy
    rw [Session.operate, next] at passed
    refine ⟨_, _, next, ?_, ?_, passed, h.idle, rfl, rfl, fun _ => ?_⟩
    · rw [Session.foe?, List.find?_isSome]
      exact ⟨f, List.mem_of_getElem? hf, by simp⟩
    · rw [foes, turn] at hf
      rw [Content.opponent?, hf]
      rfl
    · show (s.nextFoe % s.foes.length + 1) % s.foes.length % c.foes.length = _
      rw [foes, Nat.mod_mod, turn, Nat.mod_add_mod]

/-- Once there is an enemy for it, the next round is played and the rounds have come one further. -/
theorem step (h : Progress c asked played s) (supplied : c.Supplied) (manned : c.CanFight asked) :
    ∃ name u summary t, enemyOf asked s = (some name, u) ∧
      playOne u (played.length + 1) name = .ok (summary, t) ∧
      Progress c asked (played ++ [summary]) t := by
  obtain ⟨name, u, chosen, there, opponent, reached, idle, library, stands, turn⟩ :=
    h.exists_enemy manned
  obtain ⟨summary, t, done, all, fought, number, settled, masks, standing⟩ :=
    exists_playOne reached supplied idle there (played.length + 1)
  refine ⟨name, u, summary, t, chosen, done, ?_, settled, fun none => ?_, ?_, ?_, ?_, ?_⟩
  · rw [all]
    exact reached.operateAll _
  · -- the turn was passed on before the round, and in a round it is not
    have foes := reached.foes_eq
    have kept := Session.operateAll_nextFoe (s := u) (by rw [foes]; subst none; exact manned)
      (roundOperations (played.length + 1) name)
    rw [foes] at kept
    rw [all, kept, List.length_append]
    exact turn none
  · rw [List.map_append, h.enemies, List.length_append, List.length_singleton, List.range_succ,
      List.map_append, List.map_singleton, List.map_singleton, fought, opponent]
  · have round : u.round = s.round := congrArg Standing.round stands
    rw [List.map_append, h.numbers, List.length_append, List.length_singleton, List.range'_1_concat,
      List.map_append, List.map_singleton, List.map_singleton, number, round, h.round_eq]
  · rw [masks, library, h.masks, List.length_append, List.length_singleton, List.range'_1_concat,
      List.map_append, Nat.add_comm 1]
    rfl
  · rw [standing, stands, h.standing, List.map_append, List.foldl_append]
    rfl

end Progress

/-! ## Rounds until an end -/

/-- Where the rounds come to an end: after the number that is asked for, or before that after one that
is not won, unless they keep going. -/
structure Ends (keepGoing : Bool) (rounds : Nat) (entries : List RoundSummary) : Prop where
  atMost : entries.length ≤ rounds
  won : keepGoing = false → ∀ e ∈ entries.dropLast, e.report.outcome = some .victory
  unwon : keepGoing = false → entries.length < rounds →
    ∃ e, entries.getLast? = some e ∧ e.report.outcome ≠ some .victory
  all : keepGoing = true → entries.length = rounds

theorem Ends.cons {rounds : Nat} {entries : List RoundSummary} {summary : RoundSummary}
    (h : Ends keepGoing rounds entries)
    (on : summary.report.outcome = some .victory ∨ keepGoing = true) :
    Ends keepGoing (rounds + 1) (summary :: entries) where
  atMost := Nat.succ_le_succ h.atMost
  won stops e he := by
    have first : summary.report.outcome = some .victory := on.resolve_right (by simp [stops])
    cases entries with
    | nil => cases he
    | cons next rest =>
      rcases List.mem_cons.1 he with rfl | he
      · exact first
      · exact h.won stops e he
  unwon stops short := by
    obtain ⟨e, last, lost⟩ := h.unwon stops (Nat.lt_of_succ_lt_succ short)
    exact ⟨e, by rw [List.getLast?_cons, last]; rfl, lost⟩
  all goes := congrArg Nat.succ (h.all goes)

/-- The rounds are played until they come to their end. -/
theorem playRounds_progress (supplied : c.Supplied) (manned : c.CanFight asked) (left : Nat)
    {played : List RoundSummary} (h : Progress c asked played s) :
    ∃ entries t, playRounds asked keepGoing left (played.length + 1) s = .ok (entries, t) ∧
      Progress c asked (played ++ entries) t ∧ Ends keepGoing left entries := by
  induction left generalizing played s with
  | zero =>
    exact ⟨[], s, rfl, by rwa [List.append_nil], ⟨Nat.le_refl 0, by simp, by simp, fun _ => rfl⟩⟩
  | succ left ih =>
    obtain ⟨name, u, summary, t, chosen, done, further⟩ := h.step supplied manned
    rw [playRounds, chosen]
    dsimp only
    rw [done]
    dsimp only
    split
    · next on =>
      obtain ⟨entries, v, later, progress, ends⟩ := ih further
      rw [List.length_append] at later
      refine ⟨summary :: entries, v, ?_, ?_, ends.cons (by simpa using on)⟩
      · rw [List.length_singleton] at later
        rw [later]
      · rwa [List.append_assoc] at progress
    · next off =>
      obtain ⟨lost, stops⟩ : summary.report.outcome ≠ some .victory ∧ keepGoing = false := by
        simpa using off
      refine ⟨[summary], t, rfl, further, ⟨?_, ?_, ?_, ?_⟩⟩
      · simp
      · simp
      · exact fun _ _ => ⟨summary, rfl, lost⟩
      · simp [stops]

/-! ## The whole run -/

/-- The runner plays what it is asked for. Of a content that is accepted, with somebody to fight, no
round fails, whatever the seed and the number of rounds: the run ends with exit code zero and reports
entries, at most as many as the rounds that are asked for, whose rounds are one, two, three and so on,
each against the enemy that is asked for or whose turn it is. When told to keep going it plays them all;
otherwise every entry but the last is a victory, and the last is not if rounds are left over. The
library then holds a mask for each entry in order, and the stats in the end are the given ones, moved
into their domains, with the growth of one entry after the other added to them. -/
theorem rounds_played (files : Files) (o : Options) (fallback : UInt64) {text : String} {c : Content}
    (read : files o.content = .ok text) (accepted : Content.parse text = .ok c)
    (manned : c.CanFight o.enemy) :
    let seed := o.seed.getD fallback
    ∃ d begun entries s, (Toml.parse? text).bind Content.draft? = some d ∧
      Session.new (c.seeded seed) = .ok begun ∧
      playRounds o.enemy o.keepGoing o.rounds.toNat 1 begun = .ok (entries, s) ∧
      runOptions files fallback o =
        ⟨0, Result.render ⟨seed, o.enemy, entries, s.record.actual⟩ o.format, ""⟩ ∧
      entries.length ≤ o.rounds.toNat ∧
      entries.map (·.settlement.round.toNat) = List.range' 1 entries.length ∧
      entries.map (some ·.enemy) = (List.range entries.length).map (c.opponent? o.enemy) ∧
      (o.keepGoing = false →
        (∀ e ∈ entries.dropLast, e.report.outcome = some .victory) ∧
        (entries.length < o.rounds.toNat →
          ∃ e, entries.getLast? = some e ∧ e.report.outcome ≠ some .victory)) ∧
      (o.keepGoing = true → entries.length = o.rounds.toNat) ∧
      s.current = none ∧
      s.library.map (·.name) = (List.range' 1 entries.length).map (fun i => s!"Mask {i}") ∧
      s.record.actual =
        entries.foldl (fun stats e => stats.grown e.settlement.growth) d.playerStats.clamped := by
  intro seed
  -- the seed has no part in what the content refers to
  have supplied : (c.seeded seed).Supplied := fun id hid => Content.parse_supplied accepted id hid
  obtain ⟨begun, started⟩ : ∃ s, Session.new (c.seeded seed) = .ok s :=
    Session.exists_new fun id hid => Content.parse_known accepted id (List.mem_append_left _ hid)
  obtain ⟨entries, s, played, progress, ends⟩ : ∃ entries s,
      playRounds o.enemy o.keepGoing o.rounds.toNat 1 begun = .ok (entries, s) ∧
      Progress (c.seeded seed) o.enemy entries s ∧ Ends o.keepGoing o.rounds.toNat entries :=
    playRounds_progress supplied manned _ (.begin started)
  have answer : runOptions files fallback o =
      ⟨0, Result.render ⟨seed, o.enemy, entries, s.record.actual⟩ o.format, ""⟩ := by
    have begins : Session.new { c with ruleset := { c.ruleset with seed := o.seed.getD fallback } } =
      .ok begun := started
    simp only [runOptions, Content.load, read, accepted]
    rw [begins]
    dsimp only
    rw [played]
  obtain ⟨d, written, drafted⟩ := Content.exists_written accepted
  obtain ⟨catalog, -, rfl⟩ := Content.exists_catalog drafted
  exact ⟨d, begun, entries, s, written, started, played, answer, ends.atMost,
    progress.exact_numbers ends.atMost, progress.enemies,
    fun stops => ⟨ends.won stops, ends.unwon stops⟩, ends.all, progress.idle, progress.masks,
    progress.actual_eq⟩

end Runner

/-- A game whose second enemy is too strong. -/
def trailText : String :=
  "starting_materials = [\"fang\"]\n" ++
  "[battle]\ntick_secs = 1.0\ncrit_enabled = false\n" ++
  "[[material]]\nid = \"fang\"\nname = \"Fang\"\n" ++
  "[[enemy]]\nname = \"Slime\"\nmax_hp = 5\nrewards = [\"fang\"]\n" ++
  "[[enemy]]\nname = \"Ogre\"\nmax_hp = 900\nattack = 900\n"

/-- Of five rounds along the trail, the second is lost and ends the run. -/
theorem trail_ends :
    ∃ c begun entries s, Content.parse trailText = .ok c ∧ c.CanFight none ∧
      Session.new (c.seeded 7) = .ok begun ∧
      Runner.playRounds none false 5 1 begun = .ok (entries, s) ∧
      entries.map (·.report.outcome) = [some .victory, some .defeat] ∧
      entries.map (some ·.enemy) = [c.opponent? none 0, c.opponent? none 1] ∧
      entries.map (·.settlement.round.toNat) = [1, 2] ∧
      s.library.map (·.name) = ["Mask 1", "Mask 2"] ∧
      (Runner.runOptions (fun _ => .ok trailText) 7 { rounds := 5 }).exit = 0 := by
  let outcomes (s : Session) := (Runner.playRounds none false 5 1 s).toOption.map
    fun run : List RoundSummary × Session => run.1.map (·.report.outcome)
  obtain ⟨c, begun, accepted, started, seen⟩ := Session.exists_of_text_with trailText
    (Content.seeded · 7) (fun s => (s.foes.length, outcomes s))
    (2, some [some .victory, some .defeat]) (by decide +kernel)
  obtain ⟨foes, fought⟩ := Prod.mk.inj seen
  have manned : c.foes ≠ [] := by
    rw [(Session.Reachable.new started).foes_eq] at foes
    rintro none
    simp [Content.seeded, none] at foes
  obtain ⟨-, begun', entries, s, -, started', played, answer, -, numbers, enemies, -, -, -, library,
      -⟩ := Runner.rounds_played (fun _ => .ok trailText) { rounds := 5 } 7 rfl accepted manned
  obtain rfl : begun = begun' := Except.ok.inj (started.symm.trans started')
  change Runner.playRounds none false 5 1 begun = _ at played
  simp only [outcomes, played, Except.toOption, Option.map_some, Option.some.injEq] at fought
  have two : entries.length = 2 := by simpa using congrArg List.length fought
  rw [two] at numbers enemies library
  exact ⟨c, begun, entries, s, accepted, manned, started, played, fought, enemies, numbers,
    library.trans (by decide), by rw [answer]⟩

end Masquerade
