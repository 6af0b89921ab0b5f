import Masquerade.Proofs.Battle.Kept
import Masquerade.Proofs.Combatant.Domain

/-!
# Combatants in a fight

Effects reach a combatant by its own calls only (`Effect.write?_combatants`), and so does the damage of an
attack. What a fight makes of its combatants is therefore what some calls make of them
(`Fight.traverse_called`, `Blow.resolved_called`), and every number stays in its domain.
-/

namespace Masquerade

open RandomWords (Stream)

variable {σ : Type} {arena : Arena σ}

theorem PerSide.modify_eq_set {α : Type} (p : PerSide α) (side : Side) (f : α → α) :
    p.modify side f = p.set side (f (p.get side)) := by
  cases side <;> rfl

namespace Combatant

/-- The second combatant is what some calls have made of the first. -/
def Called (c c' : Combatant) : Prop := ∃ calls : List Call, c' = calls.foldl call c

variable {c c' c'' : Combatant}

theorem Called.refl (c : Combatant) : c.Called c := ⟨[], rfl⟩

theorem Called.trans (h : c.Called c') (h' : c'.Called c'') : c.Called c'' := by
  obtain ⟨calls, rfl⟩ := h
  obtain ⟨later, rfl⟩ := h'
  exact ⟨calls ++ later, (List.foldl_append ..).symm⟩

theorem Called.single (c : Combatant) (call : Call) : c.Called (c.call call) := ⟨[call], rfl⟩

theorem Called.addAll (c : Combatant) (amounts : List (Stat × Float32)) (heal : Bool) :
    c.Called (c.addAll amounts heal) := by
  refine ⟨amounts.map fun a => .byStat a.1 a.2 heal, ?_⟩
  rw [List.foldl_map]
  rfl

theorem Called.inDomain (h : c.Called c') (inDomain : c.InDomain) : c'.InDomain := by
  obtain ⟨calls, rfl⟩ := h
  exact foldl_call_inDomain inDomain calls

end Combatant

/-! ## Effects -/

/-- An effect leaves the combatants alone or makes calls to one of them. -/
theorem Effect.write?_combatants {e : Effect} {m : Moment} {s t : Targets}
    (h : e.write? m s = some t) :
    t.combatants = s.combatants ∨
      ∃ cs side c, s.combatants = some cs ∧ t.combatants = some (cs.set side c) ∧
        (cs.get side).Called c := by
  cases e with
  | attackField | maskCountScale =>
    obtain ⟨a, -, rfl⟩ := Option.map_eq_some_iff.1 h
    exact .inl rfl
  | addStats target deltas heal persistent =>
    cases persistent with
    | true =>
      obtain ⟨g, -, rfl⟩ := Option.map_eq_some_iff.1 h
      exact .inl rfl
    | false =>
      obtain ⟨cs, hcs, rfl⟩ := Option.map_eq_some_iff.1 h
      exact .inr ⟨cs, target, _, hcs, congrArg some (cs.modify_eq_set ..), .addAll _ deltas heal⟩
  | percentAttach source sourceStat target targetStat percent heal persistent =>
    obtain ⟨value, -, h⟩ := Option.bind_eq_some_iff.1 h
    cases persistent with
    | true =>
      obtain ⟨g, -, rfl⟩ := Option.map_eq_some_iff.1 h
      exact .inl rfl
    | false =>
      obtain ⟨cs, hcs, h⟩ := Option.bind_eq_some_iff.1 h
      obtain ⟨c, hc, rfl⟩ := Option.map_eq_some_iff.1 h
      refine .inr ⟨cs, target, c, hcs, rfl, ?_⟩
      have called : (cs.get target).call (.byStat targetStat (value * percent) heal) = c := by
        rw [Combatant.call, hc]
        rfl
      exact called ▸ .single _ _
  | restoreMana amount =>
    rw [write?] at h
    split at h
    · obtain ⟨pool, -, rfl⟩ := Option.map_eq_some_iff.1 h
      exact .inl rfl
    · cases h
  | adjustHp target adjust =>
    obtain ⟨side, -, h⟩ := Option.bind_eq_some_iff.1 h
    obtain ⟨cs, hcs, rfl⟩ := Option.map_eq_some_iff.1 h
    refine .inr ⟨cs, side, _, hcs, congrArg some (cs.modify_eq_set ..), ?_⟩
    cases adjust with
    | flat amount => exact .single _ (.direct (.currentHp amount))
    | fractionOfMax fraction =>
      exact .single _ (.direct (.currentHp ((cs.get side).maxHp * fraction)))

/-! ## Fights -/

/-- On both sides, the second combatant is what some calls have made of the first. -/
def PerSide.Called (cs cs' : PerSide Combatant) : Prop := ∀ side, (cs.get side).Called (cs'.get side)

namespace PerSide.Called

variable {cs cs' cs'' : PerSide Combatant}

theorem refl (cs : PerSide Combatant) : cs.Called cs := fun _ => .refl _

theorem trans (h : cs.Called cs') (h' : cs'.Called cs'') : cs.Called cs'' :=
  fun side => (h side).trans (h' side)

theorem set {side : Side} {c : Combatant} (h : (cs.get side).Called c) : cs.Called (cs.set side c) := by
  intro other
  cases side <;> cases other
  · exact h
  · exact .refl _
  · exact .refl _
  · exact h

end PerSide.Called

/-- The walks of a fight make calls to the combatants. -/
theorem Fight.traverse_called (f : Fight σ) (m : Moment) (a : Option Attack) :
    f.combatants.Called (f.traverse m a).1.combatants := by
  obtain ⟨cs, hcs, called⟩ := Forest.runAll_rel (m := m)
    (R := fun s t => ∀ cs, s.combatants = some cs → ∃ cs', t.combatants = some cs' ∧ cs.Called cs')
    (fun _ cs hcs => ⟨cs, hcs, .refl cs⟩)
    (fun h h' cs hcs => by
      obtain ⟨cs', hcs', called⟩ := h cs hcs
      obtain ⟨cs'', hcs'', later⟩ := h' cs' hcs'
      exact ⟨cs'', hcs'', called.trans later⟩)
    f.forests { attack := a, combatants := some f.combatants } f.rng
    (fun e _ s t performed cs hcs => by
      obtain same | ⟨cs', side, c, hcs', ht, called⟩ :=
        Effect.write?_combatants (Effect.write?_of_perform? performed).2
      · exact ⟨cs, same.trans hcs, .refl cs⟩
      · obtain rfl : cs = cs' := Option.some.inj (hcs.symm.trans hcs')
        exact ⟨_, ht, .set called⟩)
    f.combatants rfl
  show f.combatants.Called ((Forest.runAll f.forests m _ f.rng).2.1.combatants.getD f.combatants)
  rw [hcs]
  exact called

/-- An attack makes calls to the combatants. -/
theorem Blow.resolved_called (b : Blow σ) :
    b.fight.combatants.Called (b.resolved arena).combatants := by
  have announced : b.fight.combatants.Called b.announced.combatants := b.fight.traverse_called _ _
  have struck : b.announced.combatants.Called (b.struck arena).combatants := by
    show b.announced.combatants.Called (b.announced.combatants.modify b.side.opposite _)
    rw [PerSide.modify_eq_set]
    exact .set (.single _ (.direct (.damage (b.settled arena).damage)))
  exact (announced.trans struck).trans ((b.struck arena).traverse_called _ none)

/-- Both sides have their numbers in their domains. -/
def Fight.InDomain (f : Fight σ) : Prop := ∀ side, (f.combatants.get side).InDomain

theorem Fight.InDomain.called {f g : Fight σ} (h : f.InDomain) (called : f.combatants.Called g.combatants) :
    g.InDomain :=
  fun side => (called side).inDomain (h side)

theorem Fight.opening_inDomain (player enemy : Profile) (forests : List Forest) (maskCount : UInt32)
    (rng : Stream) (memory : σ) :
    (opening player enemy forests maskCount rng memory).InDomain := by
  have unopened : (Fight.unopened player enemy forests maskCount rng memory).InDomain := by
    intro side
    cases side with
    | player => exact Combatant.ofProfile_inDomain player
    | enemy => exact Combatant.ofProfile_inDomain enemy
  exact unopened.called (Fight.traverse_called _ _ none)

end Masquerade
