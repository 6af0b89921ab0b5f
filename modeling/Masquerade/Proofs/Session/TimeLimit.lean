import Mathlib.Logic.Function.Iterate
import Masquerade.Proofs.Battle.Fallen
import Masquerade.Proofs.Battle.Lifecycle
import Masquerade.Proofs.Session.Roster

/-!
# The time limit of fights

A fight of a session is a start and then tick after tick, until the battle is finished or so many ticks
have passed as the tuning allows. Then it is stopped, which does nothing to a finished battle
(`Session.exists_playOut`). A tick that finds the battle decided finishes it at once, so the last tick that is
allowed still brings an outcome, and a fight without one has found nobody dead
(`Session.fight_within_limit`).
-/

namespace Masquerade

variable {σ : Type}

namespace Battle

/-- The battle after so many ticks. -/
def ticked (b : Battle σ) (dt : Float32) (n : Nat) : Battle σ := (fun b => (b.tick dt).2)^[n] b

variable {b : Battle σ} {dt : Float32}

theorem ticked_succ (b : Battle σ) (dt : Float32) (n : Nat) :
    b.ticked dt (n + 1) = ((b.ticked dt n).tick dt).2 :=
  Function.iterate_succ_apply' ..

/-- A tick of a fight finishes it if it finds it decided, and otherwise the fight goes on. -/
theorem tick_cases (fighting : b.isFighting = true) (dt : Float32) :
    (∃ g, b.decided? dt = some g ∧ (b.tick dt).2.stage = .ended g.closed (some g.closed.outcome)) ∨
      b.decided? dt = none ∧ (b.tick dt).2.isFighting = true := by
  obtain ⟨f, hf⟩ := exists_fight fighting
  rw [decided?_fighting hf, tick_fighting hf]
  by_cases decided : (f.tickEnd b.arena dt).combatants.isDecided = true
  · refine .inl ⟨_, if_pos decided, ?_⟩
    simp only [Fight.stage, if_pos decided]
  · refine .inr ⟨if_neg decided, ?_⟩
    simp only [isFighting, Fight.stage, if_neg decided]

theorem isFighting_of_ended {f : Fight σ} {outcome : Option Outcome} (h : b.stage = .ended f outcome) :
    b.isFighting = false := by
  rw [isFighting, h]

end Battle

/-! ## Tuning -/

theorem Ruleset.maxTicks_of_flaw? {r : Ruleset} (valid : r.flaw? = none) : 0 < r.maxTicks.toNat := by
  by_contra none
  have zero : r.maxTicks = 0 := UInt32.toNat_inj.1 (Nat.eq_zero_of_not_pos none)
  rw [flaw?, if_pos zero] at valid
  split_ifs at valid

/-- Battles can be fought with the tuning of a text that is accepted. -/
theorem Content.flaw?_of_parse {text : String} {c : Content} (parsed : parse text = .ok c) :
    c.ruleset.flaw? = none := by
  obtain ⟨d, accepted⟩ := exists_draft parsed
  obtain ⟨catalog, -, rfl⟩ := exists_catalog accepted
  rw [ofDraft] at accepted
  split at accepted
  · cases accepted
  · next valid => exact valid

namespace Session

/-! ## Fights that are played out -/

/-- A finished battle is played no further. -/
theorem playOut_of_ended {b : Battle σ} {f : Fight σ} {outcome : Option Outcome}
    (h : b.stage = .ended f outcome) (dt : Float32) (limit : Nat) : playOut dt limit b = b := by
  cases limit with
  | zero => exact Battle.stop_of_not_isFighting (Battle.isFighting_of_ended h)
  | succ limit =>
    have finished : b.isFinished = true := by rw [Battle.isFinished, h]
    rw [playOut, if_pos finished]

/-- A fight that is played out is a number of ticks and a stop. It is decided by the last of these ticks, or
goes on to the last tick that is allowed. -/
theorem exists_playOut {b : Battle σ} (fighting : b.isFighting = true) (dt : Float32) (limit : Nat) :
    ∃ n ≤ limit, playOut dt limit b = (b.ticked dt n).stop ∧
      (∀ m < n, (b.ticked dt m).isFighting = true) ∧
      ((∃ m g, n = m + 1 ∧ (b.ticked dt m).decided? dt = some g ∧
          (b.ticked dt n).stage = .ended g.closed (some g.closed.outcome)) ∨
        n = limit ∧ (b.ticked dt n).isFighting = true) := by
  induction limit generalizing b with
  | zero => exact ⟨0, le_rfl, rfl, by simp, .inr ⟨rfl, fighting⟩⟩
  | succ limit ih =>
    have unfinished : b.isFinished = false := by
      obtain ⟨f, hf⟩ := Battle.exists_fight fighting
      rw [Battle.isFinished, hf]
    rw [playOut, if_neg (Bool.eq_false_iff.1 unfinished)]
    rcases b.tick_cases fighting dt with ⟨g, decided, ended⟩ | ⟨-, goesOn⟩
    · refine ⟨1, by omega, ?_, fun m hm => ?_, .inl ⟨0, g, rfl, decided, ended⟩⟩
      · rw [playOut_of_ended ended]
        exact (Battle.stop_of_not_isFighting (Battle.isFighting_of_ended ended)).symm
      · obtain rfl : m = 0 := by omega
        exact fighting
    · obtain ⟨n, hn, played, before, last⟩ := ih goesOn
      refine ⟨n + 1, by omega, played, fun m hm => ?_, ?_⟩
      · cases m with
        | zero => exact fighting
        | succ m => exact before m (by omega)
      · rcases last with ⟨m, g, rfl, decided, ended⟩ | ⟨rfl, goesOn⟩
        · exact .inl ⟨m + 1, g, rfl, decided, ended⟩
        · exact .inr ⟨rfl, goesOn⟩

/-- While ticks leave the fight under way, none of them has found it decided. -/
theorem undecided_of_ticked {b : Battle σ} {dt : Float32} {m : Nat}
    (now : (b.ticked dt m).isFighting = true) (next : (b.ticked dt (m + 1)).isFighting = true) :
    (b.ticked dt m).decided? dt = none := by
  rcases Battle.tick_cases now dt with ⟨g, -, ended⟩ | ⟨undecided, -⟩
  · rw [Battle.ticked_succ, Battle.isFighting_of_ended ended] at next
    cases next
  · exact undecided

/-- The ticks of a fight are calls, and so are those of the battle that is played out. -/
theorem battle_calls_ticks (c : Course σ) (dt : Float32) (n : Nat) :
    (c.calls (List.replicate n (.tick dt))).battle = c.battle.ticked dt n := by
  induction n generalizing c with
  | zero => rfl
  | succ n ih => exact ih (c.call (.tick dt))

variable {text : String} {c : Content} {s : Session}

/-- In a game that was read from a text, a fight against a known enemy gives a report. It is the report of a
battle that is started, moved on by ticks and stopped, of not more ticks than the tuning allows, and of no
tick after the battle has finished. There is no outcome exactly if none of the ticks that are allowed finds
the battle decided. All of them have then passed, and nobody in the report is dead. Otherwise the last tick
found the battle decided, be it the last that is allowed, and the report shows the battle as its end has left
it. -/
theorem fight_within_limit (parsed : Content.parse text = .ok c) (reached : Reachable c s)
    {name : String} {foe : Foe} (known : s.foe? name = some foe) :
    let dt := s.ruleset.tickSecs
    let limit := s.ruleset.maxTicks.toNat
    let after (n : Nat) := ((Course.new s.battleRuleset ()).calls
      (.start (s.battleSetup foe.profile) :: List.replicate n (.tick dt))).battle
    0 < limit ∧ ∃ report n, (s.fight name).1 = .ok report ∧ report = (after n).stop.report ∧
      n ≤ limit ∧ (∀ m < n, (after m).isFighting = true) ∧
      (report.outcome = none ↔ ∀ m < limit, (after m).decided? dt = none) ∧
      (report.outcome = none → n = limit ∧ (after n).isFighting = true ∧
        ∃ cs, report.combatants = some cs ∧ ∀ side, (cs.get side).isDead = false) ∧
      ∀ outcome, report.outcome = some outcome → (after n).isFinished = true ∧
        ∃ m g, n = m + 1 ∧ (after m).decided? dt = some g ∧ outcome = g.closed.outcome ∧
          report.combatants = some g.closed.combatants := by
  intro dt limit after
  have ticks (n : Nat) : after n = (s.bout foe.profile).ticked dt n :=
    battle_calls_ticks ((Course.new s.battleRuleset ()).call (.start (s.battleSetup foe.profile))) dt n
  have positive : 0 < limit := by
    have ruleset : s.ruleset = c.ruleset := congrArg (·.1) reached.game_eq
    have valid := Ruleset.maxTicks_of_flaw? (Content.flaw?_of_parse parsed)
    rwa [← ruleset] at valid
  obtain ⟨n, within, played, before, last⟩ :=
    exists_playOut (b := s.bout foe.profile) rfl dt limit
  obtain ⟨fought, -⟩ := fight_first known
  rw [played] at fought
  simp only [← ticks] at fought before last
  refine ⟨positive, _, n, fought, rfl, within, before, ?_⟩
  rcases last with ⟨m, g, rfl, decided, ended⟩ | ⟨rfl, goesOn⟩
  · have still : (after (m + 1)).stop = after (m + 1) :=
      Battle.stop_of_not_isFighting (Battle.isFighting_of_ended ended)
    have outcome : (after (m + 1)).stop.report.outcome = some g.closed.outcome := by
      rw [still, Battle.report, ended, Stage.outcome?]
    have combatants : (after (m + 1)).stop.report.combatants = some g.closed.combatants := by
      rw [still, Battle.report, ended]
      rfl
    have finished : (after (m + 1)).isFinished = true := by rw [Battle.isFinished, ended]
    rw [outcome]
    refine ⟨⟨fun none => (by cases none), fun none => ?_⟩, fun none => (by cases none),
      fun o same => ⟨finished, m, g, rfl, decided, (Option.some.inj same).symm, combatants⟩⟩
    rw [none m (by omega)] at decided
    cases decided
  · -- the fight was still going on after the last tick, and was stopped there
    obtain ⟨f, hf⟩ := Battle.exists_fight goesOn
    have stopped : (after limit).stop.stage = .ended f none := by rw [Battle.stop, hf]
    have outcome : (after limit).stop.report.outcome = none := by
      rw [Battle.report, stopped, Stage.outcome?]
    have combatants : (after limit).stop.report.combatants = some f.combatants := by
      rw [Battle.report, stopped]
      rfl
    have living : f.combatants.isDecided = false := by
      obtain ⟨k, hk⟩ := Nat.exists_eq_succ_of_ne_zero positive.ne'
      rw [ticks, hk, Battle.ticked_succ] at hf
      exact Battle.undecided_of_tick hf
    have fighting (m : Nat) (hm : m ≤ limit) : (after m).isFighting = true :=
      hm.lt_or_eq.elim (before m) fun last => last ▸ goesOn
    rw [outcome]
    refine ⟨⟨fun _ m hm => ?_, fun _ => rfl⟩, fun _ => ⟨rfl, goesOn, f.combatants, combatants,
      (PerSide.isDecided_eq_false_iff _).1 living⟩, fun o some => (by cases some)⟩
    have now := fighting m hm.le
    have next := fighting (m + 1) hm
    rw [ticks] at now next ⊢
    exact undecided_of_ticked now next

end Session

/-- A game in which a fight has two ticks. The second brings the player's first blow, which fells one enemy
and not the other. -/
def twoTicksText : String :=
  "[battle]\ntick_secs = 1.0\nmax_ticks = 2\ncrit_enabled = false\n" ++
  "[[enemy]]\nname = \"Slime\"\nmax_hp = 10\nspeed_rate = 1\n" ++
  "[[enemy]]\nname = \"Ogre\"\nmax_hp = 50\nspeed_rate = 1\n"

/-- What is seen of the fight against an enemy of the game. -/
structure Session.Fought where
  known : Bool
  outcome : Option (Option Outcome)
  elapsedSecs : Option Float32
  deriving DecidableEq

def Session.fought (s : Session) (name : String) : Fought where
  known := (s.foe? name).isSome
  outcome := (s.fight name).1.toOption.map (·.outcome)
  elapsedSecs := (s.fight name).1.toOption.map (·.elapsedSecs)

/-- The victory of the last tick counts, and the fight that is still going on then has no outcome. -/
theorem last_tick_counts :
    ∃ c s slime ogre, Content.parse twoTicksText = .ok c ∧ Session.Reachable c s ∧
      s.foe? "Slime" = some slime ∧ s.foe? "Ogre" = some ogre ∧ s.ruleset.maxTicks = 2 ∧
      (∃ report, (s.fight "Slime").1 = .ok report ∧ report.outcome = some .victory ∧
        report.elapsedSecs = 2) ∧
      ∃ report cs, (s.fight "Ogre").1 = .ok report ∧ report.outcome = none ∧
        report.elapsedSecs = 2 ∧ report.combatants = some cs ∧
        ∀ side, (cs.get side).isDead = false := by
  obtain ⟨c, s, parsed, begun, same⟩ := Session.exists_of_text twoTicksText
    (fun s => (s.ruleset.maxTicks, s.fought "Slime", s.fought "Ogre"))
    (2, ⟨true, some (some .victory), some 2⟩, ⟨true, some none, some 2⟩) (by decide +kernel)
  simp only [Prod.mk.injEq, Session.fought, Session.Fought.mk.injEq] at same
  obtain ⟨limit, ⟨hslime, won, wonAt⟩, hogre, unfinished, stoppedAt⟩ := same
  obtain ⟨slime, hslime⟩ := Option.isSome_iff_exists.1 hslime
  obtain ⟨ogre, hogre⟩ := Option.isSome_iff_exists.1 hogre
  have reached := Session.Reachable.new begun
  obtain ⟨-, report, _, fought, -⟩ := Session.fight_within_limit parsed reached hslime
  obtain ⟨-, report', _, fought', -, -, -, -, stopped, -⟩ :=
    Session.fight_within_limit parsed reached hogre
  rw [fought] at won wonAt
  rw [fought'] at unfinished stoppedAt
  have outcome : report'.outcome = none := Option.some.inj unfinished
  obtain ⟨-, -, cs, combatants, living⟩ := stopped outcome
  exact ⟨c, s, slime, ogre, parsed, reached, hslime, hogre, limit,
    ⟨report, fought, Option.some.inj won, Option.some.inj wonAt⟩,
    report', cs, fought', outcome, Option.some.inj stoppedAt, combatants, living⟩

end Masquerade
