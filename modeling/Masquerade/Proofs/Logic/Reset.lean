import Mathlib.Data.List.Forall2
import Masquerade.Proofs.Logic.Steps

/-!
# Resets

Between two battles a forest can differ from itself in what its gates have counted, and in nothing else
(`SameLogic`). A reset takes this difference away (`sameLogic_iff`), and no walk makes any other
(`runAll_reset`). The walk at a battle's start finds every counter at zero and leaves it there, also the
counters of gates that it does not reach (`Fresh.runAll`).
-/

namespace Masquerade

open RandomWords (Stream)

/-- At the start of a battle a gate that has counted nothing counts nothing. -/
theorem Gate.judge_battleStart_counter (g : Gate) {m : Moment} (h : m.phase = .battleStart)
    (rng : Stream) : (g.judge 0 m rng).counter = 0 := by
  have inert : m.phase ≠ .description := by simp [h]
  rw [judge, if_neg inert]
  cases g.condition with
  | waitEvery n | maxTriggers n =>
    simp only [if_pos h]
  | nthAction n | nthAttack n | firstActions n | firstAttacks n | everyActions n =>
    simp only [answerNumbered]
    split <;> rfl
  | afterHits target hits =>
    dsimp only
    split
    · rfl
    · cases m.hits <;> rfl
  | phase | chance | battleStart | battleEnd => rfl

namespace Forest

/-- Two forests that differ in what their gates have counted at most. -/
structure SameLogic (F G : Forest) : Prop where
  label : F.label = G.label
  behaviors : F.behaviors = G.behaviors
  nodes : F.nodes = G.nodes
  roots : F.roots = G.roots
  counters : F.counters.size = G.counters.size

/-- Two forests have the same logic exactly if a reset makes them equal. -/
theorem sameLogic_iff {F G : Forest} : F.SameLogic G ↔ F.reset = G.reset := by
  constructor
  · rintro ⟨label, behaviors, nodes, roots, counters⟩
    cases F
    cases G
    simp only at label behaviors nodes roots counters
    subst label behaviors nodes roots
    simp only [reset, mk.injEq, true_and]
    exact Array.ext (by simpa using counters) fun i _ _ => by simp
  · intro h
    have counters := congrArg (·.counters.size) h
    simp only [reset, Array.size_map] at counters
    exact ⟨congrArg (·.label) h, congrArg (·.behaviors) h, congrArg (·.nodes) h,
      congrArg (·.roots) h, counters⟩

theorem forall₂_sameLogic_iff {Fs Gs : List Forest} :
    List.Forall₂ SameLogic Fs Gs ↔ Fs.map reset = Gs.map reset := by
  rw [← List.forall₂_eq_eq_eq, List.forall₂_map_left_iff, List.forall₂_map_right_iff]
  exact ⟨fun h => h.imp fun _ _ => sameLogic_iff.1, fun h => h.imp fun _ _ => sameLogic_iff.2⟩

/-- A walk changes nothing of a forest but its counters. -/
theorem run_reset (F : Forest) (m : Moment) (targets : Targets) (rng : Stream) :
    (F.run m targets rng).1.reset = F.reset :=
  sameLogic_iff.1
    ⟨rfl, rfl, rfl, rfl, F.walk_counters_size m ⟨F.counters, targets, rng⟩⟩

theorem runAll_reset (forests : List Forest) (m : Moment) (targets : Targets) (rng : Stream) :
    (runAll forests m targets rng).1.map reset = forests.map reset := by
  induction forests generalizing targets rng with
  | nil => rfl
  | cons F rest ih => exact congrArg₂ List.cons (F.run_reset m targets rng) (ih _ _)

@[simp] theorem reset_reset (F : Forest) : F.reset.reset = F.reset :=
  sameLogic_iff.1 ⟨rfl, rfl, rfl, rfl, Array.size_map ..⟩

/-! ## Counters at zero -/

/-- No gate of the forest has counted anything. -/
def Fresh (F : Forest) : Prop := ∀ id, F.counter id = 0

theorem fresh_reset (F : Forest) : F.reset.Fresh := by
  intro id
  rw [counter, reset, Array.getElem?_map]
  cases F.counters[id]? <;> rfl

/-- The walk at a battle's start leaves counters at zero. -/
theorem Fresh.run {F : Forest} (h : F.Fresh) {m : Moment} (start : m.phase = .battleStart)
    (targets : Targets) (rng : Stream) : (F.run m targets rng).1.Fresh := by
  refine walk_rel (R := fun s t => (∀ id : Nat, s.counters[id]?.getD 0 = 0) →
      ∀ id : Nat, t.counters[id]?.getD 0 = 0)
    (fun _ h => h) (fun h₁ h₂ h => h₂ (h₁ h)) ?_ ⟨F.counters, targets, rng⟩ h
  intro id node _ s zero j
  rw [perform]
  split
  · next gate _ =>
    dsimp only
    rw [zero id, gate.judge_battleStart_counter start, Array.getElem?_setIfInBounds]
    split
    · split <;> rfl
    · exact zero j
  · exact zero j
  · exact zero j

theorem Fresh.runAll {forests : List Forest} (h : ∀ F ∈ forests, F.Fresh) {m : Moment}
    (start : m.phase = .battleStart) (targets : Targets) (rng : Stream) :
    ∀ F ∈ (Forest.runAll forests m targets rng).1, F.Fresh := by
  induction forests generalizing targets rng with
  | nil => simp [Forest.runAll]
  | cons F rest ih =>
    intro G hG
    rcases List.mem_cons.1 hG with rfl | hG
    · exact (h F List.mem_cons_self).run start targets rng
    · exact ih (fun K hK => h K (List.mem_cons_of_mem F hK)) _ _ G hG

end Forest

end Masquerade
