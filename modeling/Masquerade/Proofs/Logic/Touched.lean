import Masquerade.Proofs.Logic.Complement
import Masquerade.Proofs.Logic.Frame

/-!
# What a run may touch

An effect that works writes to one of its targets and to no other, and which one is decided by its kind
and by the phase (`Effect.Writes`). Of the forest a run changes the counters of nodes at which it stops
and whose gates count, and nothing else (`visit_counters`). Together this says what a run may touch in
each phase (`run_touches`).
-/

namespace Masquerade

open RandomWords (Stream)

/-! ## Effects -/

/-- The numbers of an attack that no effect changes. -/
def Attack.fixed (a : Attack) : Float32 × Float32 × Bool × Option Float32 :=
  (a.penetrationFlat, a.penetrationPercent, a.isCrit, a.finalDamage)

theorem Attack.fixed_add (a : Attack) (field : AttackField) (amount : Float32) :
    (a.add field amount).fixed = a.fixed := by
  cases field <;> rfl

namespace Effect

/-- Whether the effect adds to the growth delta. -/
def isPersistent : Effect → Bool
  | addStats _ _ _ persistent => persistent
  | percentAttach _ _ _ _ _ _ persistent => persistent
  | _ => false

/-- What an effect can make of the targets: the attack, the growth delta, the combatants or the mana is
replaced where it was at hand. -/
inductive Writes (e : Effect) (m : Moment) (t : Targets) : Targets → Prop
  | attack {a b : Attack} (kind : e.isAttackEffect = true) (here : t.attack = some a)
      (fixed : b.fixed = a.fixed) : Writes e m t { t with attack := some b }
  | growth {g : Stats} (h : Stats) (kind : e.isAttackEffect = false)
      (persistent : e.isPersistent = true) (here : t.growth = some g) :
      Writes e m t { t with growth := some h }
  | combatants {cs : PerSide Combatant} (ds : PerSide Combatant) (kind : e.isAttackEffect = false)
      (passing : e.isPersistent = false) (here : t.combatants = some cs) :
      Writes e m t { t with combatants := some ds }
  | mana {pool : ManaPool} (refilled : ManaPool) (kind : e.isAttackEffect = false)
      (passing : e.isPersistent = false) (binding : m.phase = .bind) (here : t.mana = some pool) :
      Writes e m t { t with mana := some refilled }

theorem write?_writes {e : Effect} {m : Moment} {t u : Targets} (h : e.write? m t = some u) :
    e.Writes m t u := by
  cases e with
  | attackField field amount =>
    obtain ⟨a, here, rfl⟩ := Option.map_eq_some_iff.1 h
    exact .attack rfl here (a.fixed_add field amount)
  | maskCountScale field perMask =>
    obtain ⟨a, here, rfl⟩ := Option.map_eq_some_iff.1 h
    exact .attack rfl here (a.fixed_add field _)
  | addStats target deltas heal persistent =>
    rw [write?] at h
    cases persistent with
    | true =>
      obtain ⟨g, here, rfl⟩ := Option.map_eq_some_iff.1 h
      exact .growth _ rfl rfl here
    | false =>
      obtain ⟨cs, here, rfl⟩ := Option.map_eq_some_iff.1 h
      exact .combatants _ rfl rfl here
  | percentAttach source sourceStat target targetStat percent heal persistent =>
    obtain ⟨value, -, h⟩ := Option.bind_eq_some_iff.1 h
    cases persistent with
    | true =>
      obtain ⟨g, here, rfl⟩ := Option.map_eq_some_iff.1 h
      exact .growth _ rfl rfl here
    | false =>
      obtain ⟨cs, here, h⟩ := Option.bind_eq_some_iff.1 h
      obtain ⟨c, -, rfl⟩ := Option.map_eq_some_iff.1 h
      exact .combatants _ rfl rfl here
  | restoreMana amount =>
    rw [write?] at h
    split at h
    · next binding =>
      obtain ⟨pool, here, rfl⟩ := Option.map_eq_some_iff.1 h
      exact .mana _ rfl rfl binding here
    · cases h
  | adjustHp target adjust =>
    obtain ⟨side, -, h⟩ := Option.bind_eq_some_iff.1 h
    obtain ⟨cs, here, rfl⟩ := Option.map_eq_some_iff.1 h
    exact .combatants _ rfl rfl here

/-- No effect works while a description is made. -/
theorem perform?_description (e : Effect) {m : Moment} (h : m.phase = .description) (t : Targets) :
    e.perform? m t = none := by
  rw [perform?, if_pos h]

/-- An effect on the growth delta changes nothing else. -/
theorem perform?_persistent {e : Effect} (he : e.isPersistent = true) {m : Moment} {t u : Targets}
    (h : e.perform? m t = some u) : u = { t with growth := u.growth } := by
  obtain ⟨-, h⟩ := write?_of_perform? h
  cases write?_writes h with
  | attack kind =>
    cases e with
    | attackField | maskCountScale => cases he
    | addStats | percentAttach | restoreMana | adjustHp => cases kind
  | growth => rfl
  | combatants _ _ passing => rw [passing] at he; cases he
  | mana _ _ passing => rw [passing] at he; cases he

end Effect

/-! ## Targets -/

/-- Which targets are at hand. -/
def Targets.present (t : Targets) : Bool × Bool × Bool × Bool × Bool :=
  (t.attack.isSome, t.combatants.isSome, t.growth.isSome, t.record.isSome, t.mana.isSome)

/-- The targets differ at most in what effects may change at a moment. -/
structure Targets.Within (m : Moment) (s t : Targets) : Prop where
  present : t.present = s.present
  record : t.record = s.record
  fixed : t.attack.map Attack.fixed = s.attack.map Attack.fixed
  attack : m.phase ≠ .attackModify → t.attack = s.attack
  combatants : m.phase = .attackModify → t.combatants = s.combatants
  growth : m.phase = .attackModify → t.growth = s.growth
  mana : m.phase ≠ .bind → t.mana = s.mana

namespace Targets.Within

variable {m : Moment} {s t u : Targets}

theorem refl (m : Moment) (t : Targets) : t.Within m t :=
  ⟨rfl, rfl, rfl, fun _ => rfl, fun _ => rfl, fun _ => rfl, fun _ => rfl⟩

theorem trans (h : s.Within m t) (h' : t.Within m u) : s.Within m u where
  present := h'.present.trans h.present
  record := h'.record.trans h.record
  fixed := h'.fixed.trans h.fixed
  attack away := (h'.attack away).trans (h.attack away)
  combatants here := (h'.combatants here).trans (h.combatants here)
  growth here := (h'.growth here).trans (h.growth here)
  mana away := (h'.mana away).trans (h.mana away)

theorem of_perform? {e : Effect} (h : e.perform? m s = some t) : s.Within m t := by
  obtain ⟨kind, h⟩ := Effect.write?_of_perform? h
  cases Effect.write?_writes h with
  | attack own here fixed =>
    have building : m.phase = .attackModify := by simpa [own] using kind
    refine ⟨by simp [Targets.present, here], rfl, by simp [here, fixed], fun away => absurd building away,
      fun _ => rfl, fun _ => rfl, fun _ => rfl⟩
  | growth _ own _ here =>
    have elsewhere : m.phase ≠ .attackModify := by simpa [own] using kind
    exact ⟨by simp [Targets.present, here], rfl, rfl, fun _ => rfl, fun _ => rfl,
      fun building => absurd building elsewhere, fun _ => rfl⟩
  | combatants _ own _ here =>
    have elsewhere : m.phase ≠ .attackModify := by simpa [own] using kind
    exact ⟨by simp [Targets.present, here], rfl, rfl, fun _ => rfl,
      fun building => absurd building elsewhere, fun _ => rfl, fun _ => rfl⟩
  | mana _ _ _ binding here =>
    exact ⟨by simp [Targets.present, here], rfl, rfl, fun _ => rfl, fun _ => rfl, fun _ => rfl,
      fun away => absurd binding away⟩

end Targets.Within

theorem Effect.perform?_growth {e : Effect} (he : e.isPersistent = false) {m : Moment}
    {t u : Targets} (h : e.perform? m t = some u) : u.growth = t.growth := by
  obtain ⟨-, h⟩ := write?_of_perform? h
  cases write?_writes h with
  | growth _ _ persistent => rw [persistent] at he; cases he
  | attack | combatants | mana => rfl

/-! ## Gates -/

/-- Whether the gate counts its calls or its passes. -/
def Gate.counts (g : Gate) : Bool :=
  match g.condition with
  | .waitEvery _ | .maxTriggers _ => true
  | _ => false

theorem Gate.judge_counter {g : Gate} (h : g.counts = false) (counter : UInt32) (m : Moment)
    (rng : Stream) : (g.judge counter m rng).counter = counter := by
  obtain ⟨condition, invert⟩ := g
  rw [judge]
  by_cases asleep : m.phase = .description
  · rw [if_pos asleep]
    rfl
  rw [if_neg asleep]
  cases condition with
  | waitEvery n | maxTriggers n => cases h
  | nthAction n | nthAttack n | firstActions n | firstAttacks n | everyActions n =>
    exact answerNumbered_counter _ counter rng
  | afterHits target hits =>
    dsimp only
    split
    · rfl
    · cases m.hits <;> rfl
  | phase | chance | battleStart | battleEnd => rfl

theorem Gate.judge_description (g : Gate) {m : Moment} (h : m.phase = .description)
    (counter : UInt32) (rng : Stream) : g.judge counter m rng = standAside counter rng := by
  rw [judge, if_pos h]

/-- Writing back what an array holds changes nothing. -/
theorem setIfInBounds_getD_self (xs : Array UInt32) (i : Nat) :
    xs.setIfInBounds i (xs[i]?.getD 0) = xs := by
  refine Array.ext_getElem? fun j => ?_
  rw [Array.getElem?_setIfInBounds]
  split
  · next same =>
    subst same
    split
    · next bound => simp [bound]
    · next out => simp [Nat.le_of_not_lt out]
  · rfl

namespace Forest

variable {F : Forest} {m : Moment}

/-- A node that takes part in the moment, with a gate that counts. -/
def CountsAt (F : Forest) (m : Moment) (id : Nat) : Prop :=
  ∃ node gate, F.nodes[id]? = some node ∧ node.side.admits m = true ∧
    F.behaviorOf node = some (.gate gate) ∧ gate.counts = true

theorem perform_counters {id : Nat} {node : Node} (hn : F.nodes[id]? = some node)
    (hside : node.side.admits m = true) (s : WalkState) (j : Nat) :
    (F.perform m id node s).2.counters[j]? = s.counters[j]? ∨ j = id ∧ F.CountsAt m id := by
  by_cases other : j = id
  · subst other
    rw [perform]
    cases hb : F.behaviorOf node with
    | none => exact .inl rfl
    | some behavior =>
      cases behavior with
      | effect effect => exact .inl rfl
      | gate gate =>
        cases hc : gate.counts with
        | true => exact .inr ⟨rfl, node, gate, hn, hside, hb, hc⟩
        | false =>
          left
          dsimp only
          rw [Gate.judge_counter hc, setIfInBounds_getD_self]
  · exact .inl (F.perform_counters_of_ne m other node s)

theorem visitAll_counters_of_visit {ids : List Nat} {j : Nat}
    (h : ∀ id ∈ ids, ∀ s, (F.visit m id s).counters[j]? = s.counters[j]? ∨
      F.CountsAt m j ∧ ∃ goesOn, ⟨j, goesOn⟩ ∈ F.stops m id s) (s : WalkState) :
    (F.visitAll m ids s).counters[j]? = s.counters[j]? ∨
      F.CountsAt m j ∧ ∃ goesOn, ⟨j, goesOn⟩ ∈ F.stopsAll m ids s := by
  induction ids generalizing s with
  | nil => exact .inl rfl
  | cons id rest ih =>
    rw [visitAll_cons, stopsAll_cons]
    have first := h id List.mem_cons_self s
    have later := ih (fun c hc => h c (List.mem_cons_of_mem id hc)) (F.visit m id s)
    rcases later with same | ⟨counts, goesOn, stop⟩
    · rw [same]
      rcases first with same | ⟨counts, goesOn, stop⟩
      · exact .inl same
      · exact .inr ⟨counts, goesOn, List.mem_append_left _ stop⟩
    · exact .inr ⟨counts, goesOn, List.mem_append_right _ stop⟩

/-- A walk changes a counter only where it stops, at a gate that counts. -/
theorem visit_counters (F : Forest) (m : Moment) (id : Nat) (s : WalkState) (j : Nat) :
    (F.visit m id s).counters[j]? = s.counters[j]? ∨
      F.CountsAt m j ∧ ∃ goesOn, ⟨j, goesOn⟩ ∈ F.stops m id s := by
  induction id using F.childrenInduction generalizing s with
  | step id ih =>
    cases hn : F.nodes[id]? with
    | none => exact .inl (by rw [visit_missing hn])
    | some node =>
      cases hside : node.side.admits m with
      | false => exact .inl (by rw [visit_excluded hn hside])
      | true =>
        have own := perform_counters hn hside s j
        rw [visit_admitted hn hside, stops_admitted hn hside]
        split
        · -- the gate of the node itself, or one further below
          have below := visitAll_counters_of_visit (fun c hc s => ih c hc s)
            (F.perform m id node s).2
          rcases below with same | ⟨counts, goesOn, stop⟩
          · rw [same]
            rcases own with same | ⟨rfl, counts⟩
            · exact .inl same
            · exact .inr ⟨counts, true, List.mem_cons_self⟩
          · exact .inr ⟨counts, goesOn, List.mem_cons_of_mem _ stop⟩
        · rcases own with same | ⟨rfl, counts⟩
          · exact .inl same
          · exact .inr ⟨counts, false, List.mem_singleton_self _⟩

theorem perform_description (h : m.phase = .description) (id : Nat) (node : Node) (s : WalkState) :
    (F.perform m id node s).2 = s := by
  rw [perform]
  cases F.behaviorOf node with
  | none => rfl
  | some behavior =>
    cases behavior with
    | gate gate =>
      dsimp only
      rw [gate.judge_description h]
      show { s with counters := s.counters.setIfInBounds id (s.counters[id]?.getD 0) } = s
      rw [setIfInBounds_getD_self]
    | effect effect =>
      dsimp only
      rw [effect.perform?_description h]
      rfl

/-- While a description is made, a run changes nothing at all. -/
theorem run_description (F : Forest) (h : m.phase = .description) (targets : Targets)
    (rng : Stream) : F.run m targets rng = (F, targets, rng) := by
  have still : F.walk m ⟨F.counters, targets, rng⟩ = ⟨F.counters, targets, rng⟩ :=
    walk_rel (R := fun s t => t = s) (fun _ => rfl) (fun h₁ h₂ => h₂.trans h₁)
      (fun id node _ s => perform_description h id node s) _
  rw [run, still]

/-- A run leaves all of the forest alone but the counters of nodes at which it stops, in which it is let
in by the side filter, and whose gates count. Of the targets it changes the attack only while it is
being built, and then nothing else and only the numbers that effects address; the mana only while a
piece is bound; the permanent stats never. The growth delta changes only through persistent effects,
which change nothing else. While a description is made nothing changes. -/
theorem run_touches (F : Forest) (m : Moment) (targets : Targets) (rng : Stream) :
    let G := (F.run m targets rng).1
    let after := (F.run m targets rng).2.1
    (G.label = F.label ∧ G.behaviors = F.behaviors ∧ G.nodes = F.nodes ∧ G.roots = F.roots ∧
      G.counters.size = F.counters.size) ∧
    (∀ id, G.counters[id]? ≠ F.counters[id]? →
      (∃ goesOn, ⟨id, goesOn⟩ ∈ F.runStops m targets rng) ∧
      ∃ node gate, F.nodes[id]? = some node ∧ node.side.admits m = true ∧
        F.behaviorOf node = some (.gate gate) ∧
        ∃ n, gate.condition = .waitEvery n ∨ gate.condition = .maxTriggers n) ∧
    (m.phase = .attackModify → after.combatants = targets.combatants ∧
      after.growth = targets.growth ∧ after.mana = targets.mana) ∧
    after.attack.map Attack.fixed = targets.attack.map Attack.fixed ∧
    (m.phase ≠ .attackModify → after.attack = targets.attack) ∧
    (m.phase ≠ .bind → after.mana = targets.mana) ∧
    after.record = targets.record ∧ after.present = targets.present ∧
    ((∀ e ∈ F.reached m targets rng, e.isPersistent = false) → after.growth = targets.growth) ∧
    (∀ (e : Effect) (t u : Targets), e.isPersistent = true → e.perform? m t = some u →
      u = { t with growth := u.growth }) ∧
    (m.phase = .description → F.run m targets rng = (F, targets, rng)) := by
  intro G after
  have within : targets.Within m after :=
    run_rel (Targets.Within.refl m) Targets.Within.trans targets rng
      fun e _ s t h => Targets.Within.of_perform? h
  refine ⟨⟨rfl, rfl, rfl, rfl, F.walk_counters_size m _⟩, ?_, ?_, within.fixed, within.attack,
    within.mana, within.record, within.present, ?_, fun e t u he => Effect.perform?_persistent he,
    fun h => F.run_description h targets rng⟩
  · intro id changed
    obtain same | ⟨⟨node, gate, hn, hside, hb, counts⟩, stop⟩ :=
      visitAll_counters_of_visit (fun root _ s => F.visit_counters m root s id)
        ⟨F.counters, targets, rng⟩
    · exact absurd same changed
    · refine ⟨stop, node, gate, hn, hside, hb, ?_⟩
      obtain ⟨condition, invert⟩ := gate
      cases condition with
      | waitEvery n => exact ⟨n, .inl rfl⟩
      | maxTriggers n => exact ⟨n, .inr rfl⟩
      | phase | nthAction | nthAttack | firstActions | firstAttacks | everyActions | chance
      | afterHits | battleStart | battleEnd => cases counts
  · intro building
    exact ⟨within.combatants building, within.growth building,
      within.mana (by simp [building])⟩
  · intro passing
    exact run_rel (R := fun s t => t.growth = s.growth) (fun _ => rfl)
      (fun h₁ h₂ => h₂.trans h₁) targets rng
      fun e he s t h => Effect.perform?_growth (passing e he) h

end Forest

end Masquerade
