import Masquerade.Proofs.Logic.Steps

/-!
# Built forests

A forest is built by a sequence of operations (`Op`), any of which may be refused, and between them it
may be walked and reset. Every such sequence ends in a planted forest (`planted_build`).
-/

namespace Masquerade

open RandomWords (Stream)

namespace Forest

/-- An operation on a forest. Parents and nodes may be missing, and handles may name no behavior. -/
inductive Op where
  | addBehavior (b : Behavior)
  | addNode (parent behavior : Option Nat)
  | addGate (parent : Option Nat) (gate : Gate)
  | addEffect (parent : Option Nat) (effect : Effect)
  | addGroup (parent : Option Nat) (title : String)
  | setTitle (id : Nat) (title : String)
  | setSide (id : Nat) (side : SideFilter)
  | run (m : Moment) (targets : Targets) (rng : Stream)
  | reset

/-- The forest after an operation, refused or not. -/
def apply (F : Forest) : Op → Forest
  | .addBehavior b => (F.addBehavior b).2
  | .addNode parent behavior => (F.addNode parent behavior).2
  | .addGate parent gate => (F.addGate parent gate).2
  | .addEffect parent effect => (F.addEffect parent effect).2
  | .addGroup parent title => (F.addGroup parent title).2
  | .setTitle id title => (F.setTitle id title).2
  | .setSide id side => (F.setSide id side).2
  | .run m targets rng => (F.run m targets rng).1
  | .reset => F.reset

/-- The forest that a sequence of operations makes of an empty one. -/
def build (label : String) (ops : List Op) : Forest := ops.foldl apply (empty label)

theorem Planted.run {F : Forest} (h : F.Planted) (m : Moment) (targets : Targets) (rng : Stream) :
    (F.run m targets rng).1.Planted :=
  ⟨h.once, (F.walk_counters_size m ⟨F.counters, targets, rng⟩).trans h.counted⟩

/-- An operation keeps a forest planted, whether it is refused or not. -/
theorem Planted.apply {F : Forest} (h : F.Planted) (op : Op) : (F.apply op).Planted := by
  cases op with
  | addBehavior b => exact h.addBehavior b
  | addNode parent behavior => exact h.addNode parent behavior
  | addGate parent gate => exact (h.addBehavior (.gate gate)).addNode parent _
  | addEffect parent effect => exact (h.addBehavior (.effect effect)).addNode parent _
  | addGroup parent title => exact h.addGroup parent title
  | setTitle id title => exact h.modifyNode id _ _
  | setSide id side => exact h.modifyNode id _ _
  | run m targets rng => exact h.run m targets rng
  | reset => exact ⟨h.once, (Array.size_map ..).trans h.counted⟩

/-- Every built forest is planted. -/
theorem planted_build (label : String) (ops : List Op) : (build label ops).Planted := by
  suffices ∀ F : Forest, F.Planted → (ops.foldl apply F).Planted from
    this (empty label) (planted_empty label)
  induction ops with
  | nil => exact fun _ h => h
  | cons op rest ih => exact fun F h => ih (F.apply op) (h.apply op)

end Forest

end Masquerade
