import Masquerade.Proofs.Battle.Kept
import Mathlib.Data.List.Chain

/-!
# Pauses between attacks

A side that has attacked waits. A `Timesheet` is a battle with all attacks since the last start that
succeeded, each with its tick and with what the battle clock showed then. Between two attacks of one side
lies another tick at least, and the clock does not show less than the time of the first and the pause
together (`Timesheet.strokes_apart`). How much the gauge has in store plays no part in it: the end of the
pause is set by the attack and moved by nothing else.
-/

namespace Masquerade

variable {σ : Type} {arena : Arena σ}

/-! ## Timesheets -/

/-- The side whose attack an event announces. -/
def Event.attacker? : Event → Option Side
  | .beforeAttack attacker _ _ => some attacker
  | _ => none

/-- Whether a call moves the time on. -/
def Call.isTick : Call σ → Bool
  | .tick _ => true
  | _ => false

/-- An attack as a timesheet lists it. -/
structure Stroke where
  side : Side
  /-- The number of the tick, counted from the start of the battle. -/
  tick : Nat
  /-- What the battle clock showed in that tick. -/
  clock : Float32

/-- A battle, and the ticks and attacks since the last start that succeeded. -/
structure Timesheet (σ : Type) where
  battle : Battle σ
  ticks : Nat
  strokes : List Stroke

namespace Timesheet

def new (ruleset : Ruleset) (memory : σ) : Timesheet σ := ⟨.new ruleset memory, 0, []⟩

/-- One more call. A start that succeeds begins a new timesheet. -/
def call (t : Timesheet σ) (x : Call σ) : Timesheet σ :=
  let (events, b) := t.battle.call x
  if t.battle.starts x then
    ⟨b, 0, []⟩
  else
    let ticks := if x.isTick then t.ticks + 1 else t.ticks
    ⟨b, ticks, t.strokes ++ (events.filterMap Event.attacker?).map (⟨·, ticks, b.elapsed⟩)⟩

def calls (t : Timesheet σ) (xs : List (Call σ)) : Timesheet σ := xs.foldl call t

end Timesheet

/-! ## The attacks of a tick -/

theorem Blow.attackers (b : Blow σ) : (b.events arena).filterMap Event.attacker? = [b.side] :=
  rfl

namespace Fight

theorem attackers_closing (f : Fight σ) : (f.closing.map (·.1)).filterMap Event.attacker? = [] := by
  rw [closing]
  split
  · cases f.closed.outcome <;> rfl
  · rfl

/-- The events of a tick announce the attacks that it makes. -/
theorem attackers_tick (arena : Arena σ) (f : Fight σ) (dt : Float32) :
    ((f.tickTold arena dt).map (·.1)).filterMap Event.attacker? =
      (f.tickBlows arena dt).map (·.side) := by
  have told : (f.tickTold arena dt).map (·.1) =
      (f.tickBlows arena dt).flatMap (·.events arena) ++ (f.tickEnd arena dt).closing.map (·.1) := by
    rw [tickTold, List.map_append, List.map_flatMap]
    rfl
  rw [told, List.filterMap_append, attackers_closing, List.append_nil]
  induction f.tickBlows arena dt with
  | nil => rfl
  | cons b rest ih =>
    rw [List.flatMap_cons, List.filterMap_append, Blow.attackers, ih]
    rfl

theorem after_clock {f : Fight σ} {blows : List (Blow σ)} (h : Exchange arena f blows) :
    (f.after arena blows).clock = f.clock := by
  induction h with
  | still f => rfl
  | blow undecided ready later ih => exact ih

end Fight

/-! ## Pauses -/

/-- The attacks of one side. -/
def strokesOf (side : Side) (strokes : List Stroke) : List Stroke :=
  strokes.filter (·.side = side)

theorem strokesOf_concat (side : Side) (strokes : List Stroke) (s : Stroke) :
    strokesOf side (strokes ++ [s]) =
      if s.side = side then strokesOf side strokes ++ [s] else strokesOf side strokes := by
  by_cases own : s.side = side <;> simp [strokesOf, List.filter_append, own]

/-- Two successive attacks of a side, with the pause between them. -/
def Stroke.Apart (pause : Float32) (a b : Stroke) : Prop :=
  a.tick < b.tick ∧ ¬ b.clock < a.clock + pause

/-- The attacks of each side lie apart, and its pause ends when the last one says. -/
structure Paced (r : Ruleset) (f : Fight σ) (strokes : List Stroke) : Prop where
  apart (side : Side) : (strokesOf side strokes).IsChain (Stroke.Apart r.attackIntervalSecs)
  next (side : Side) : ∀ last ∈ (strokesOf side strokes).getLast?,
    (f.gauges.get side).nextAttackAt = last.clock + r.attackIntervalSecs

namespace Paced

variable {r : Ruleset} {f : Fight σ} {strokes : List Stroke}

theorem fresh (r : Ruleset) (f : Fight σ) : Paced r f [] where
  apart _ := .nil
  next _ _ h := by cases h

theorem of_same (h : Paced r f strokes) {g : Fight σ}
    (same : ∀ side, (g.gauges.get side).nextAttackAt = (f.gauges.get side).nextAttackAt) :
    Paced r g strokes where
  apart := h.apart
  next side last hlast := (same side).trans (h.next side last hlast)

/-- An attack of a side that is ready lies apart from the attacks of this side in earlier ticks. -/
theorem blow (h : Paced r f strokes) (hr : arena.ruleset = r) {side : Side}
    (ready : f.isReady arena side = true) {tick : Nat}
    (earlier : ∀ s ∈ strokes, s.side = side → s.tick < tick) :
    Paced r (Blow.resolved arena ⟨side, f.spendGauge arena side⟩)
      (strokes ++ [⟨side, tick, f.clock⟩]) := by
  have gauges (other : Side) :
      ((Blow.resolved arena ⟨side, f.spendGauge arena side⟩).gauges.get other).nextAttackAt =
        if other = side then f.clock + r.attackIntervalSecs
        else (f.gauges.get other).nextAttackAt := by
    rw [← hr]
    cases side <;> cases other <;> rfl
  have rested : ¬ f.clock < (f.gauges.get side).nextAttackAt := (Fight.isReady_eq_true_iff.1 ready).2
  refine ⟨fun other => ?_, fun other last hlast => ?_⟩
  · rw [strokesOf_concat]
    split
    · next own =>
      subst own
      refine List.isChain_append.2 ⟨h.apart side, .singleton _, fun last hlast s hs => ?_⟩
      obtain rfl : ⟨side, tick, f.clock⟩ = s := by simpa using hs
      obtain ⟨mem, of⟩ := List.mem_filter.1 (List.mem_of_getLast? hlast)
      refine ⟨earlier last mem (by simpa using of), ?_⟩
      rw [← h.next side last hlast]
      exact rested
    · exact h.apart other
  · rw [strokesOf_concat] at hlast
    rw [gauges]
    split at hlast
    · next own =>
      obtain rfl : ⟨side, tick, f.clock⟩ = last := by simpa using hlast
      rw [if_pos own.symm]
    · next foreign =>
      rw [if_neg (Ne.symm foreign)]
      exact h.next other last hlast

/-- The attacks of a tick, in which each side attacks once at most. -/
theorem exchange (hr : arena.ruleset = r) {blows : List (Blow σ)} (e : Exchange arena f blows)
    (once : (blows.map (·.side)).Nodup) (h : Paced r f strokes) {tick : Nat}
    (earlier : ∀ s ∈ strokes, s.side ∈ blows.map (·.side) → s.tick < tick) :
    Paced r (f.after arena blows)
      (strokes ++ (blows.map (·.side)).map (⟨·, tick, f.clock⟩)) := by
  -- on the attacks; those before an attack are of earlier ticks or, in this one, of the other side
  induction e generalizing strokes with
  | still f => simpa using h
  | @blow f side rest undecided ready later ih =>
    rw [List.map_cons, List.nodup_cons] at once
    have first := h.blow hr ready fun s hs own => earlier s hs (by simp [own])
    rw [Fight.after_cons, List.map_cons, List.map_cons, List.append_cons]
    refine ih once.2 first fun s hs own => ?_
    rcases List.mem_append.1 hs with hs | hs
    · exact earlier s hs (List.mem_cons_of_mem _ own)
    · -- the side has attacked in this tick and does not do so again
      rw [List.mem_singleton.1 hs] at own
      exact absurd own once.1

theorem tick (h : Paced r f strokes) {b : Battle σ} (hr : b.arena.ruleset = r)
    (hb : b.stage = .fighting f) {ticks : Nat} (earlier : ∀ s ∈ strokes, s.tick ≤ ticks)
    (dt : Float32) :
    ∃ f', (b.tick dt).2.stage.fight? = some f' ∧
      Paced r f' (strokes ++ ((b.tick dt).1.filterMap Event.attacker?).map
        (⟨·, ticks + 1, (b.tick dt).2.elapsed⟩)) := by
  have start : Paced r (f.tickStart dt) strokes := by
    refine h.of_same fun side => ?_
    rw [Fight.tickStart]
    split
    · rfl
    · cases side <;> rfl
  have blows := f.tickBlows_exchange b.arena dt
  -- a tick asks each side once
  have once : ((f.tickBlows b.arena dt).map (·.side)).Nodup :=
    (f.tickBlows_sides b.arena dt).nodup (by decide)
  have paced := start.exchange hr blows once fun s hs _ => Nat.lt_succ_of_le (earlier s hs)
  have clock : (f.tickEnd b.arena dt).clock = (f.tickStart dt).clock := Fight.after_clock blows
  obtain ⟨f', stage, -, gauges, same⟩ := (f.tickEnd b.arena dt).exists_fight_stage
  rw [Battle.tick_fighting hb]
  have elapsed : Battle.elapsed { b with stage := (f.tickEnd b.arena dt).stage } =
      (f.tickStart dt).clock := by
    rw [Battle.elapsed_of_fight stage, same, clock]
  refine ⟨f', stage, ?_⟩
  -- the end of a battle, if the tick has reached it, does not touch the gauges
  rw [Fight.attackers_tick, elapsed]
  exact paced.of_same fun side => by rw [gauges]; rfl

end Paced

/-- A call that neither moves the time on nor starts a fight emits nothing and leaves the fight alone. -/
theorem Battle.call_still {b : Battle σ} {x : Call σ} (still : x.isTick = false)
    (refused : b.starts x = false) :
    (b.call x).1 = [] ∧ (b.call x).2.stage.fight? = b.stage.fight? := by
  cases x with
  | start setup =>
    rw [call_of_refused refused]
    exact ⟨rfl, rfl⟩
  | tick dt => cases still
  | stop =>
    cases hb : b.stage with
    | idle | fighting | ended => simp [call, stop, hb, Stage.fight?]
  | addStep side step => exact ⟨rfl, congrArg Stage.fight? (b.addStep?_getD_stage side step)⟩
  | setFinalizer side step => exact ⟨rfl, rfl⟩

namespace Timesheet

/-- Before the first start nothing is listed. From then on the listed attacks lie apart, in the ticks so
far, and set the pauses of the fight. -/
structure Regular (r : Ruleset) (t : Timesheet σ) : Prop where
  ruleset : t.battle.arena.ruleset = r
  past : ∀ s ∈ t.strokes, s.tick ≤ t.ticks
  unstarted : t.battle.stage.fight? = none → t.strokes = []
  paced : ∀ f, t.battle.stage.fight? = some f → Paced r f t.strokes

variable {r : Ruleset} {t : Timesheet σ}

theorem Regular.tick (h : Regular r t) (dt : Float32) : Regular r (t.call (.tick dt)) := by
  have past : ∀ s ∈ (t.call (.tick dt)).strokes, s.tick ≤ t.ticks + 1 := by
    intro s hs
    rcases List.mem_append.1 hs with hs | hs
    · exact Nat.le_succ_of_le (h.past s hs)
    · obtain ⟨side, -, rfl⟩ := List.mem_map.1 hs
      exact Nat.le_refl _
  cases fighting : t.battle.isFighting with
  | false =>
    have same : t.call (.tick dt) = { t with ticks := t.ticks + 1 } := by
      have silent : t.battle.call (.tick dt) = ([], t.battle) :=
        Battle.tick_of_not_isFighting fighting dt
      simp [call, silent, Battle.starts, Call.isTick]
    rw [same] at past ⊢
    exact ⟨h.ruleset, past, h.unstarted, h.paced⟩
  | true =>
    obtain ⟨f, hf⟩ := Battle.exists_fight fighting
    obtain ⟨f', stage, paced⟩ :=
      (h.paced f (by rw [hf]; rfl)).tick h.ruleset hf h.past dt
    refine ⟨(t.battle.call_ruleset (.tick dt)).trans h.ruleset, past, fun none => ?_, fun g hg => ?_⟩
    · cases none.symm.trans stage
    · obtain rfl : f' = g := Option.some.inj (stage.symm.trans hg)
      exact paced

theorem Regular.call (h : Regular r t) (x : Call σ) : Regular r (t.call x) := by
  have ruleset := (t.battle.call_ruleset x).trans h.ruleset
  cases accepted : t.battle.starts x with
  | true =>
    have begun : t.call x = ⟨(t.battle.call x).2, 0, []⟩ := by simp [Timesheet.call, accepted]
    rw [begun]
    exact ⟨ruleset, fun _ hs => absurd hs List.not_mem_nil, fun _ => rfl, fun f _ => .fresh r f⟩
  | false =>
    cases still : x.isTick with
    | true =>
      cases x with
      | tick dt => exact h.tick dt
      | start | stop | addStep | setFinalizer => cases still
    | false =>
      obtain ⟨silent, fight⟩ := Battle.call_still still accepted
      have rested : t.call x = ⟨(t.battle.call x).2, t.ticks, t.strokes⟩ := by
        simp [Timesheet.call, accepted, still, silent]
      rw [rested]
      exact ⟨ruleset, h.past, fun none => h.unstarted (fight.symm.trans none),
        fun f hf => h.paced f (fight.symm.trans hf)⟩

theorem calls_regular (r : Ruleset) (memory : σ) (xs : List (Call σ)) :
    Regular r ((new r memory).calls xs) := by
  suffices run : ∀ t : Timesheet σ, Regular r t → Regular r (t.calls xs) from
    run _ ⟨rfl, fun _ hs => absurd hs List.not_mem_nil, fun _ => rfl, fun _ hf => by cases hf⟩
  induction xs with
  | nil => exact fun _ h => h
  | cons x rest ih => exact fun _ h => ih _ (h.call x)

/-- Whatever calls have been made, two successive attacks of one side in a battle happen in different
ticks, and in the tick of the second the battle clock does not show less than what it showed in the tick of
the first and the pause together. -/
theorem strokes_apart (ruleset : Ruleset) (memory : σ) (calls : List (Call σ)) (side : Side) :
    (strokesOf side ((new ruleset memory).calls calls).strokes).IsChain fun a b =>
      a.tick < b.tick ∧ ¬ b.clock < a.clock + ruleset.attackIntervalSecs := by
  have regular := calls_regular ruleset memory calls
  cases stage : ((new ruleset memory).calls calls).battle.stage.fight? with
  | none =>
    rw [regular.unstarted stage]
    exact .nil
  | some f => exact (regular.paced f stage).apart side

/-- A side whose gauge never runs short attacks in every other second, if its pauses last two. -/
example :
    let t := (new { attackIntervalSecs := 2, critEnabled := false } ()).calls
      (.start ⟨{ speedRate := 100 }, some { speedRate := 0 }, [], 0⟩ :: List.replicate 5 (.tick 1))
    (strokesOf .player t.strokes).map (fun s => (s.tick, s.clock)) = [(1, 1), (3, 3), (5, 5)] := by
  decide +kernel

end Timesheet

end Masquerade
