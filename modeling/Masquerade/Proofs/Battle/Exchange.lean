import Masquerade.Battle
import Masquerade.Proofs.Battle.Blow

/-!
# Exchanges of blows

The attacks of a tick form an exchange: they follow one another, each is made by a side that is ready
in a fight that is not decided, and the fight that one leaves behind is the fight that the next finds
(`Exchange`). A tick is its exchange, and then the end of the fight if the exchange has decided it
(`tick_eq`).
-/

namespace Masquerade

variable {σ : Type} {arena : Arena σ}

/-- A list of attacks that follow one another from a fight on. -/
inductive Exchange (arena : Arena σ) : Fight σ → List (Blow σ) → Prop where
  | still (f : Fight σ) : Exchange arena f []
  | blow {f : Fight σ} {side : Side} {rest : List (Blow σ)}
      (undecided : f.combatants.isDecided = false) (ready : f.isReady arena side = true)
      (later : Exchange arena (Blow.resolved arena ⟨side, f.spendGauge arena side⟩) rest) :
      Exchange arena f (⟨side, f.spendGauge arena side⟩ :: rest)

namespace Fight

/-- The fight that a list of attacks leaves behind. -/
def after (arena : Arena σ) (f : Fight σ) (blows : List (Blow σ)) : Fight σ :=
  blows.foldl (fun _ b => b.resolved arena) f

@[simp] theorem after_nil (f : Fight σ) : f.after arena [] = f :=
  rfl

@[simp] theorem after_cons (f : Fight σ) (b : Blow σ) (rest : List (Blow σ)) :
    f.after arena (b :: rest) = (b.resolved arena).after arena rest :=
  rfl

/-! ## The end of a fight -/

def closed (f : Fight σ) : Fight σ :=
  (f.traverse (f.moment .battleEnd f.counters.actions) none).1

/-- The events with which a tick ends whose attacks have led to `f`, each with the fight in which it is
emitted. -/
def closing (f : Fight σ) : List (Event × Fight σ) :=
  if f.combatants.isDecided then
    [(.ended f.counters.actions, f.closed), (f.closed.outcome.event, f.closed)]
  else
    []

/-- The stage in which a tick ends whose attacks have led to `f`. -/
def stage (f : Fight σ) : Stage σ :=
  if f.combatants.isDecided then .ended f.closed (some f.closed.outcome) else .fighting f

theorem conclude_eq {f : Fight σ} (h : f.combatants.isDecided = true) :
    f.conclude = (f.closing.map (·.1), f.stage) := by
  rw [closing, stage, if_pos h, if_pos h]
  rfl

theorem closing_of_undecided {f : Fight σ} (h : f.combatants.isDecided = false) :
    f.closing = [] := by
  simp [closing, h]

theorem stage_of_undecided {f : Fight σ} (h : f.combatants.isDecided = false) :
    f.stage = .fighting f := by
  simp [stage, h]

/-! ## The sides in turn -/

/-- The attacks that the sides make in turn. -/
def blows (arena : Arena σ) (f : Fight σ) : List Side → List (Blow σ)
  | [] => []
  | side :: rest =>
    if f.isReady arena side then
      let b : Blow σ := ⟨side, f.spendGauge arena side⟩
      b :: if (b.resolved arena).combatants.isDecided then [] else blows arena (b.resolved arena) rest
    else
      blows arena f rest

/-- The attacks of the sides in turn are an exchange. -/
theorem blows_exchange {f : Fight σ} (h : f.combatants.isDecided = false) (sides : List Side) :
    Exchange arena f (f.blows arena sides) := by
  induction sides generalizing f with
  | nil => exact .still f
  | cons side rest ih =>
    rw [blows]
    split
    · next ready =>
      refine .blow h ready ?_
      split
      · exact .still _
      · next undecided => exact ih (Bool.eq_false_iff.2 undecided)
    · exact ih h

/-- Every side attacks at most once, in its turn. -/
theorem blows_sides (f : Fight σ) (sides : List Side) :
    ((f.blows arena sides).map (·.side)).Sublist sides := by
  induction sides generalizing f with
  | nil => exact .slnil
  | cons side rest ih =>
    rw [blows]
    split
    · refine List.Sublist.cons_cons side ?_
      split
      · exact List.nil_sublist rest
      · exact ih _
    · exact (ih f).cons side

/-- Letting the sides attack in turn is their exchange of blows and what comes of it. -/
theorem attackInTurn_eq {f : Fight σ} (h : f.combatants.isDecided = false) (sides : List Side) :
    f.attackInTurn arena sides =
      ((f.blows arena sides).flatMap (·.events arena) ++
          (f.after arena (f.blows arena sides)).closing.map (·.1),
        (f.after arena (f.blows arena sides)).stage) := by
  induction sides generalizing f with
  | nil =>
    rw [attackInTurn, blows, after_nil, closing_of_undecided h, stage_of_undecided h]
    rfl
  | cons side rest ih =>
    rw [attackInTurn, blows]
    by_cases ready : f.isReady arena side = true
    · simp only [ready, if_true, Blow.resolveAttack_eq]
      -- the fight after the attack is either concluded or goes on with the other sides
      by_cases decided : (Blow.resolved arena ⟨side, f.spendGauge arena side⟩).combatants.isDecided
      · simp [decided, conclude_eq decided]
      · rw [Bool.not_eq_true] at decided
        simp [decided, ih decided]
    · simp only [ready, if_false, Bool.false_eq_true]
      exact ih h

/-! ## Ticks -/

def tickStart (f : Fight σ) (dt : Float32) : Fight σ :=
  if f.combatants.isDecided then f else f.advance (timeStep dt)

/-- The attacks of a tick. -/
def tickBlows (arena : Arena σ) (f : Fight σ) (dt : Float32) : List (Blow σ) :=
  if f.combatants.isDecided then [] else (f.tickStart dt).blows arena Side.order

/-- The fight to which the attacks of a tick lead. -/
def tickEnd (arena : Arena σ) (f : Fight σ) (dt : Float32) : Fight σ :=
  (f.tickStart dt).after arena (f.tickBlows arena dt)

/-- The events of a tick, each with the fight in which it is emitted. -/
def tickTold (arena : Arena σ) (f : Fight σ) (dt : Float32) : List (Event × Fight σ) :=
  (f.tickBlows arena dt).flatMap (·.told arena) ++ (f.tickEnd arena dt).closing

@[simp] theorem tickStart_combatants (f : Fight σ) (dt : Float32) :
    (f.tickStart dt).combatants = f.combatants := by
  rw [tickStart]
  split <;> rfl

@[simp] theorem tickStart_counters (f : Fight σ) (dt : Float32) :
    (f.tickStart dt).counters = f.counters := by
  rw [tickStart]
  split <;> rfl

theorem tickBlows_exchange (arena : Arena σ) (f : Fight σ) (dt : Float32) :
    Exchange arena (f.tickStart dt) (f.tickBlows arena dt) := by
  rw [tickBlows]
  split
  · exact .still _
  · next undecided =>
    refine blows_exchange ?_ Side.order
    rw [tickStart_combatants]
    exact Bool.eq_false_iff.2 undecided

/-- In a tick every side attacks at most once, the player's side first. -/
theorem tickBlows_sides (arena : Arena σ) (f : Fight σ) (dt : Float32) :
    ((f.tickBlows arena dt).map (·.side)).Sublist Side.order := by
  rw [tickBlows]
  split
  · exact List.nil_sublist Side.order
  · exact blows_sides _ Side.order

/-- A tick is its exchange of blows and what comes of it. -/
theorem tick_eq (f : Fight σ) (dt : Float32) :
    f.tick arena dt = ((f.tickTold arena dt).map (·.1), (f.tickEnd arena dt).stage) := by
  by_cases decided : f.combatants.isDecided = true
  · -- there are no attacks, and the tick ends the fight as it finds it
    have still : f.tickEnd arena dt = f := by simp [tickEnd, tickBlows, tickStart, decided]
    rw [tick, if_pos decided, conclude_eq decided, tickTold, still]
    simp [tickBlows, decided]
  · have blows : f.tickBlows arena dt = (f.tickStart dt).blows arena Side.order := by
      rw [tickBlows, if_neg decided]
    have start : f.tickStart dt = f.advance (timeStep dt) := by rw [tickStart, if_neg decided]
    have undecided : (f.tickStart dt).combatants.isDecided = false := by
      rw [tickStart_combatants]
      exact Bool.eq_false_iff.2 decided
    rw [tick, if_neg decided, ← start, attackInTurn_eq undecided, tickTold, tickEnd, blows,
      List.map_append, List.map_flatMap]
    rfl

end Fight

namespace Battle

/-- The attacks that a battle makes in a tick. -/
def blows (b : Battle σ) (dt : Float32) : List (Blow σ) :=
  match b.stage with
  | .fighting f => f.tickBlows b.arena dt
  | _ => []

/-- The events of a tick of a battle, each with the fight in which it is emitted. -/
def told (b : Battle σ) (dt : Float32) : List (Event × Fight σ) :=
  match b.stage with
  | .fighting f => f.tickTold b.arena dt
  | _ => []

def isFighting (b : Battle σ) : Bool :=
  match b.stage with
  | .fighting _ => true
  | _ => false

theorem tick_fighting {b : Battle σ} {f : Fight σ} (h : b.stage = .fighting f) (dt : Float32) :
    b.tick dt =
      ((f.tickTold b.arena dt).map (·.1), { b with stage := (f.tickEnd b.arena dt).stage }) := by
  rw [tick, h]
  simp only [Fight.tick_eq]

/-- Outside a fight a tick does nothing. -/
theorem tick_of_not_isFighting {b : Battle σ} (h : b.isFighting = false) (dt : Float32) :
    b.tick dt = ([], b) := by
  cases hb : b.stage with
  | fighting f => simp [isFighting, hb] at h
  | idle | ended => simp only [tick, hb]

theorem exists_fight {b : Battle σ} (h : b.isFighting = true) : ∃ f, b.stage = .fighting f := by
  rw [isFighting] at h
  split at h
  · next f hstage => exact ⟨f, hstage⟩
  · cases h

theorem blows_fighting {b : Battle σ} {f : Fight σ} (h : b.stage = .fighting f) (dt : Float32) :
    b.blows dt = f.tickBlows b.arena dt := by
  rw [blows, h]

theorem told_fighting {b : Battle σ} {f : Fight σ} (h : b.stage = .fighting f) (dt : Float32) :
    b.told dt = f.tickTold b.arena dt := by
  rw [told, h]

theorem map_told (b : Battle σ) (dt : Float32) : (b.told dt).map (·.1) = (b.tick dt).1 := by
  cases h : b.stage with
  | fighting f => rw [told_fighting h, tick_fighting h]
  | idle | ended => simp [told, tick, h]

end Battle

end Masquerade
