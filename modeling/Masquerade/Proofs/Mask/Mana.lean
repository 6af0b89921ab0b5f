import Mathlib.Algebra.GroupWithZero.Nat
import Masquerade.Mask
import Masquerade.Proofs.Logic.Frame
import Masquerade.Proofs.Logic.Stops

/-!
# The mana of a mask

Binding spends the cost of a piece and then walks its forest, which may refill the pool. What comes back is
what stands at the stops of that walk (`Forest.restores`), so the mana of a mask is what it began with and what
came back, less the costs of its pieces (`Mask.offerAll_balance`). Only a refill that stops at the end of the
range brings less.
-/

theorem UInt32.toNat_addSaturating (a b : UInt32) :
    (a.addSaturating b).toNat =
      if a.toNat + b.toNat < UInt32.size then a.toNat + b.toNat else UInt32.size - 1 := by
  rw [UInt32.addSaturating]
  split
  · next fits => rw [UInt32.toNat_add, Nat.mod_eq_of_lt fits]
  · rfl

namespace Masquerade

open RandomWords (Stream)

/-! ## Refills -/

/-- A refill, and the mana that it finds. -/
structure Refill where
  found : UInt32
  amount : UInt32

/-- The refill stops at the end of the range. -/
def Refill.Saturates (r : Refill) : Prop := UInt32.size ≤ r.found.toNat + r.amount.toNat

instance (r : Refill) : Decidable r.Saturates := Nat.decLe _ _

/-- What refills add up to. -/
def Refill.total (refills : List Refill) : Nat := (refills.map (·.amount.toNat)).sum

theorem Refill.total_append (first later : List Refill) :
    total (first ++ later) = total first + total later := by
  rw [total, List.map_append, List.sum_append]
  rfl

open Refill (total total_append)

namespace ManaPool

/-- The pool after refills, one after the other. -/
def restoreAll (pool : ManaPool) (amounts : List UInt32) : ManaPool := amounts.foldl restore pool

/-- Refills of a pool, one after the other, each with the mana that it finds. -/
def refills (pool : ManaPool) : List UInt32 → List Refill
  | [] => []
  | amount :: rest => ⟨pool.current, amount⟩ :: (pool.restore amount).refills rest

/-- A pool gains at most what its refills add up to, and all of it exactly if none of them saturates. -/
theorem restoreAll_balance (pool : ManaPool) (amounts : List UInt32) :
    (pool.restoreAll amounts).current.toNat ≤ pool.current.toNat + total (pool.refills amounts) ∧
      ((pool.restoreAll amounts).current.toNat = pool.current.toNat + total (pool.refills amounts) ↔
        ∀ r ∈ pool.refills amounts, ¬ r.Saturates) := by
  induction amounts generalizing pool with
  | nil => simp [restoreAll, refills, total]
  | cons amount rest ih =>
    obtain ⟨bound, whole⟩ := ih (pool.restore amount)
    have first : (pool.restore amount).current.toNat =
        if pool.current.toNat + amount.toNat < UInt32.size then pool.current.toNat + amount.toNat
        else UInt32.size - 1 := UInt32.toNat_addSaturating _ _
    have saturates : Refill.Saturates ⟨pool.current, amount⟩ ↔
        UInt32.size ≤ pool.current.toNat + amount.toNat := .rfl
    have sum : total (pool.refills (amount :: rest)) =
        amount.toNat + total ((pool.restore amount).refills rest) := List.sum_cons
    have range : 0 < UInt32.size := by decide
    rw [sum, refills, List.forall_mem_cons, saturates, ← whole, restoreAll, List.foldl_cons, ← restoreAll]
    split at first <;> constructor <;> omega

end ManaPool

/-! ## What the walk of a piece restores -/

/-- What the effect restores to a pool, if that is what it does. -/
def Effect.restored? : Effect → Option UInt32
  | .restoreMana amount => some amount
  | _ => none

/-- An effect of another kind leaves the pool alone. -/
theorem Effect.write?_mana {e : Effect} {m : Moment} {t u : Targets} (other : e.restored? = none)
    (written : e.write? m t = some u) : u.mana = t.mana := by
  cases e with
  | attackField | maskCountScale =>
    obtain ⟨a, -, rfl⟩ := Option.map_eq_some_iff.1 written
    rfl
  | addStats target deltas heal persistent =>
    cases persistent <;> obtain ⟨_, -, rfl⟩ := Option.map_eq_some_iff.1 written <;> rfl
  | percentAttach source sourceStat target targetStat percent heal persistent =>
    obtain ⟨value, -, written⟩ := Option.bind_eq_some_iff.1 written
    cases persistent with
    | true =>
      obtain ⟨g, -, rfl⟩ := Option.map_eq_some_iff.1 written
      rfl
    | false =>
      obtain ⟨cs, -, written⟩ := Option.bind_eq_some_iff.1 written
      obtain ⟨c, -, rfl⟩ := Option.map_eq_some_iff.1 written
      rfl
  | restoreMana => cases other
  | adjustHp target adjust =>
    obtain ⟨side, -, written⟩ := Option.bind_eq_some_iff.1 written
    obtain ⟨cs, -, rfl⟩ := Option.map_eq_some_iff.1 written
    rfl

/-- In the phase of binding, an effect does to the pool what it restores. -/
theorem Effect.perform?_mana (e : Effect) {m : Moment} (binding : m.phase = .bind) (t : Targets) :
    ((e.perform? m t).getD t).mana = e.restored?.elim t.mana fun amount => t.mana.map (·.restore amount) := by
  cases restored : e.restored? with
  | none =>
    cases performed : e.perform? m t with
    | none => rfl
    | some u => exact write?_mana restored (write?_of_perform? performed).2
  | some amount =>
    obtain rfl : e = .restoreMana amount := by
      cases e <;> cases restored
      rfl
    cases mana : t.mana <;> simp [perform?, write?, isAttackEffect, binding, mana]

namespace Forest

variable {F : Forest} {m : Moment}

/-- What stands at a node that takes part in the moment and restores mana. -/
def restoredAt? (F : Forest) (m : Moment) (id : Nat) : Option UInt32 :=
  match F.nodes[id]? with
  | none => none
  | some node =>
    if node.side.admits m then
      match F.behaviorOf node with
      | some (.effect effect) => effect.restored?
      | _ => none
    else
      none

/-- The amounts of the refills of a binding walk, in the order in which the walk comes to them. -/
def restores (F : Forest) (pool : ManaPool) (rng : Stream) : List UInt32 :=
  (F.runStops { phase := .bind } { mana := some pool } rng).filterMap (F.restoredAt? { phase := .bind } ·.id)

theorem stepsAs_restores (F : Forest) (binding : m.phase = .bind) :
    F.StepsAs m (·.targets.mana) fun id mana =>
      (F.restoredAt? m id).elim mana fun amount => mana.map (·.restore amount) where
  admitted id node hn hside s := by
    rw [restoredAt?, perform, hn]
    cases hb : F.behaviorOf node with
    | none => simp [hb, hside]
    | some behavior =>
      cases behavior with
      | gate gate => simp [hb, hside]
      | effect effect =>
        simp only [hb, hside, if_true]
        exact effect.perform?_mana binding s.targets
  excluded id node hn hside mana := by
    simp [restoredAt?, hn, hside]

theorem foldl_restored {α : Type} (restored? : α → Option UInt32) (xs : List α) (pool : ManaPool) :
    xs.foldl (fun mana x => (restored? x).elim mana fun amount => mana.map (·.restore amount)) (some pool) =
      some (pool.restoreAll (xs.filterMap restored?)) := by
  induction xs generalizing pool with
  | nil => rfl
  | cons x rest ih =>
    rw [List.foldl_cons, List.filterMap_cons]
    cases restored? x with
    | none => exact ih pool
    | some amount => exact ih (pool.restore amount)

/-- A binding walk leaves the pool with the refills that it comes to, and with nothing else. -/
theorem run_restores (F : Forest) (pool : ManaPool) (rng : Stream) :
    (F.run { phase := .bind } { mana := some pool } rng).2.1.mana =
      some (pool.restoreAll (F.restores pool rng)) :=
  ((F.stepsAs_restores rfl).run _ rng).trans (foldl_restored _ _ pool)

end Forest

/-! ## Tries to bind -/

/-- A try to bind a piece, with the random words that are at hand for it. -/
structure Attempt where
  piece : Piece
  rng : Stream

namespace Mask

/-- A try to bind: the mask afterwards and the random words that are left. A refused piece leaves both. -/
def offer (mask : Mask) (a : Attempt) : Mask × Stream :=
  match mask.bind a.piece a.rng with
  | .ok bound => bound
  | .error _ => (mask, a.rng)

/-- Tries to bind one piece after the other. -/
def offerAll (mask : Mask) (attempts : List Attempt) : Mask :=
  attempts.foldl (fun mask a => (mask.offer a).1) mask

/-- What the pieces of a mask have cost. -/
def costs (mask : Mask) : Nat := (mask.pieces.map (·.manaCost.toNat)).sum

/-- The refills that a try to bind brings: those of the walk that follows if the mana covers the piece. -/
def refillsOf (mask : Mask) (a : Attempt) : List Refill :=
  match mask.mana.spend? a.piece.manaCost with
  | none => []
  | some pool => pool.refills (a.piece.forest.restores pool a.rng)

/-- The refills that tries to bind bring, one after the other. -/
def refills (mask : Mask) : List Attempt → List Refill
  | [] => []
  | a :: rest => mask.refillsOf a ++ (mask.offer a).1.refills rest

variable {mask : Mask}

/-! ## One try -/

/-- The pool after the cost of a piece that it covers. -/
def spent (mask : Mask) (piece : Piece) : ManaPool :=
  { mask.mana with current := mask.mana.current - piece.manaCost }

/-- The mask with a piece bound to it, walked with the given random words. -/
def bound (mask : Mask) (piece : Piece) (rng : Stream) : Mask :=
  { mask with
    mana := (mask.spent piece).restoreAll (piece.forest.restores (mask.spent piece) rng)
    pieces := mask.pieces ++ [{ piece with
      forest := (piece.forest.run { phase := .bind } { mana := some (mask.spent piece) } rng).1 }] }

variable {a : Attempt}

theorem spend?_covered {cost : UInt32} (covered : cost ≤ mask.mana.current) :
    mask.mana.spend? cost = some { mask.mana with current := mask.mana.current - cost } := by
  rw [ManaPool.spend?, ManaPool.affords, decide_eq_true covered]
  rfl

theorem spend?_short {cost : UInt32} (short : mask.mana.current < cost) : mask.mana.spend? cost = none := by
  rw [ManaPool.spend?, ManaPool.affords, decide_eq_false (UInt32.not_le.2 short)]
  rfl

theorem bind_covered (covered : a.piece.manaCost ≤ mask.mana.current) :
    mask.bind a.piece a.rng = .ok (mask.bound a.piece a.rng,
      (a.piece.forest.run { phase := .bind } { mana := some (mask.spent a.piece) } a.rng).2.2) := by
  have walked := a.piece.forest.run_restores (mask.spent a.piece) a.rng
  rw [spent] at walked
  rw [bind, spend?_covered covered]
  simp only [walked, Option.getD_some]
  rfl

theorem bind_short (short : mask.mana.current < a.piece.manaCost) :
    mask.bind a.piece a.rng = .error ⟨a.piece.manaCost, mask.mana.current, a.piece⟩ := by
  rw [bind, spend?_short short]

/-- What a try spends and brings in comes out in the mana of the mask, or less of it if a refill saturates. -/
theorem offer_balance (mask : Mask) (a : Attempt) :
    (mask.offer a).1.mana.current.toNat + (mask.offer a).1.costs ≤
        mask.mana.current.toNat + mask.costs + total (mask.refillsOf a) ∧
      ((mask.offer a).1.mana.current.toNat + (mask.offer a).1.costs =
          mask.mana.current.toNat + mask.costs + total (mask.refillsOf a) ↔
        ∀ r ∈ mask.refillsOf a, ¬ r.Saturates) := by
  by_cases covered : a.piece.manaCost ≤ mask.mana.current
  · let amounts := a.piece.forest.restores (mask.spent a.piece) a.rng
    have refills : mask.refillsOf a = (mask.spent a.piece).refills amounts := by
      rw [refillsOf, spend?_covered covered]
      rfl
    have made : (mask.offer a).1 = mask.bound a.piece a.rng := by rw [offer, bind_covered covered]
    have mana : (mask.bound a.piece a.rng).mana = (mask.spent a.piece).restoreAll amounts := rfl
    have costs : (mask.bound a.piece a.rng).costs = mask.costs + a.piece.manaCost.toNat := by
      simp [bound, Mask.costs]
    have rest : (mask.spent a.piece).current.toNat + a.piece.manaCost.toNat = mask.mana.current.toNat := by
      rw [spent, UInt32.toNat_sub_of_le _ _ covered]
      exact Nat.sub_add_cancel (UInt32.le_iff_toNat_le.1 covered)
    obtain ⟨atMost, whole⟩ := (mask.spent a.piece).restoreAll_balance amounts
    rw [made, mana, costs, refills, ← whole]
    constructor <;> omega
  · have short := UInt32.not_le.1 covered
    have refills : mask.refillsOf a = [] := by rw [refillsOf, spend?_short short]
    have kept : (mask.offer a).1 = mask := by rw [offer, bind_short short]
    rw [kept, refills]
    exact ⟨Nat.le_refl _, iff_of_true rfl (by simp)⟩

/-! ## All tries -/

theorem offerAll_balance (mask : Mask) (attempts : List Attempt) :
    (mask.offerAll attempts).mana.current.toNat + (mask.offerAll attempts).costs ≤
        mask.mana.current.toNat + mask.costs + total (mask.refills attempts) ∧
      ((mask.offerAll attempts).mana.current.toNat + (mask.offerAll attempts).costs =
          mask.mana.current.toNat + mask.costs + total (mask.refills attempts) ↔
        ∀ r ∈ mask.refills attempts, ¬ r.Saturates) := by
  induction attempts generalizing mask with
  | nil => exact ⟨Nat.le_refl _, iff_of_true rfl (by simp [refills])⟩
  | cons a rest ih =>
    obtain ⟨atMost, whole⟩ := mask.offer_balance a
    obtain ⟨atMost', whole'⟩ := ih (mask.offer a).1
    rw [refills, total_append, List.forall_mem_append, ← whole, ← whole', offerAll, List.foldl_cons,
      ← offerAll]
    constructor <;> omega

/-- Mana is conserved: what a mask has left and what its pieces have cost is what it began with and what the
refills of their binding walks add up to, as long as none of these saturates; otherwise it is less. A piece that is
bound costs no more than the mana before it. One that is refused costs more, is handed back as it was with its
cost and that mana, and leaves the mask and the random words. -/
theorem mana_conserved (name : String) (base : UInt32) (attempts : List Attempt) :
    let fresh := Mask.new name base
    let mask := fresh.offerAll attempts
    let refills := fresh.refills attempts
    mask.mana.current.toNat + mask.costs ≤ base.toNat + total refills ∧
      (mask.mana.current.toNat + mask.costs = base.toNat + total refills ↔ ∀ r ∈ refills, ¬ r.Saturates) ∧
      ∀ (before : List Attempt) (a : Attempt),
        let now := fresh.offerAll before
        (∀ bound rng, now.bind a.piece a.rng = .ok (bound, rng) →
          a.piece.manaCost ≤ now.mana.current ∧ now.offer a = (bound, rng) ∧
            ∃ forest, bound.pieces = now.pieces ++ [{ a.piece with forest := forest }]) ∧
        ∀ r, now.bind a.piece a.rng = .error r →
          now.mana.current < a.piece.manaCost ∧ r = ⟨a.piece.manaCost, now.mana.current, a.piece⟩ ∧
            now.offer a = (now, a.rng) := by
  intro fresh mask refills
  obtain ⟨atMost, whole⟩ := fresh.offerAll_balance attempts
  refine ⟨atMost, whole, fun before a => ?_⟩
  intro now
  by_cases covered : a.piece.manaCost ≤ now.mana.current
  · have made := bind_covered covered
    refine ⟨fun bound rng answer => ?_, fun r answer => ?_⟩
    · obtain ⟨rfl, rfl⟩ := Prod.mk.inj (Except.ok.inj (made.symm.trans answer))
      exact ⟨covered, by rw [offer, made], _, rfl⟩
    · rw [made] at answer
      cases answer
  · have short := UInt32.not_le.1 covered
    have refused := bind_short short
    refine ⟨fun bound rng answer => ?_, fun r answer => ?_⟩
    · rw [refused] at answer
      cases answer
    · obtain rfl := Except.error.inj (refused.symm.trans answer)
      exact ⟨short, rfl, by rw [offer, refused]⟩

end Mask

/-- A piece that restores ten when it is bound, and would restore a hundred at the start of a battle. -/
def wellspring : Piece where
  id := .issued 0
  materialId := "wellspring"
  name := "Wellspring"
  manaCost := 1
  quality := .common
  shelfLifeTurns := 1
  remaining := 1
  forest :=
    let F := ((Forest.empty "Wellspring").addEffect none (.restoreMana 10)).2
    let F := (F.addGate none ⟨.battleStart, false⟩).2
    (F.addEffect (some 1) (.restoreMana 100)).2

/-- A piece that costs five and does nothing. -/
def statue : Piece := { wellspring with id := .issued 1, manaCost := 5, forest := .empty "Statue" }

/-- A mask with three mana refuses the statue, gains from the spring, and then takes the statue. -/
theorem wellspring_pays :
    let attempts : List Attempt := [⟨statue, .ofSeed 0⟩, ⟨wellspring, .ofSeed 1⟩, ⟨statue, .ofSeed 2⟩]
    let fresh := Mask.new "Fox" 3
    let mask := fresh.offerAll attempts
    (∀ r ∈ fresh.refills attempts, ¬ r.Saturates) ∧
      mask.mana.current.toNat + mask.costs = 3 + total (fresh.refills attempts) ∧
      mask.mana.current = 7 ∧ mask.costs = 6 ∧ total (fresh.refills attempts) = 10 ∧
      ∃ r, fresh.bind statue (.ofSeed 0) = .error r ∧ r.needed = 5 ∧ r.available = 3 ∧
        fresh.offer ⟨statue, .ofSeed 0⟩ = (fresh, .ofSeed 0) := by
  intro attempts fresh mask
  obtain ⟨-, whole, tries⟩ := Mask.mana_conserved "Fox" 3 attempts
  have inside : ∀ r ∈ fresh.refills attempts, ¬ r.Saturates := by decide +kernel
  obtain ⟨-, -, kept⟩ := (tries [] ⟨statue, .ofSeed 0⟩).2 _ rfl
  exact ⟨inside, whole.2 inside, by decide +kernel, by decide +kernel, by decide +kernel, _, rfl, rfl, rfl,
    kept⟩

end Masquerade
