import Masquerade.Proofs.Logic.Stops

/-!
# What a walk leaves alone

A walk changes its targets only through the effects to which it comes (`reached`). A relation between
targets that all of these respect, and that can be chained, is therefore respected by whole walks
(`run_rel`) and by walks of several forests (`runAll_rel`). Which targets an effect may change is decided by the
phase: while an attack is being built nothing but the attack is changed (`runAll_keeps_others`).
-/

namespace Masquerade

open RandomWords (Stream)

/-! ## Effects -/

/-- Two targets that differ in the attack in flight at most. -/
structure Targets.SameOthers (s t : Targets) : Prop where
  combatants : t.combatants = s.combatants
  growth : t.growth = s.growth
  record : t.record = s.record
  mana : t.mana = s.mana

namespace Targets.SameOthers

theorem refl (t : Targets) : t.SameOthers t := ⟨rfl, rfl, rfl, rfl⟩

theorem trans {s t u : Targets} (h₁ : s.SameOthers t) (h₂ : t.SameOthers u) : s.SameOthers u :=
  ⟨h₂.combatants.trans h₁.combatants, h₂.growth.trans h₁.growth, h₂.record.trans h₁.record,
    h₂.mana.trans h₁.mana⟩

end Targets.SameOthers

namespace Effect

/-- An attack effect writes to the attack only. -/
theorem write?_sameOthers {e : Effect} (he : e.isAttackEffect = true) {m : Moment} {s t : Targets}
    (h : e.write? m s = some t) : s.SameOthers t := by
  cases e with
  | attackField field amount =>
    obtain ⟨a, -, rfl⟩ := Option.map_eq_some_iff.1 h
    exact ⟨rfl, rfl, rfl, rfl⟩
  | maskCountScale field perMask =>
    obtain ⟨a, -, rfl⟩ := Option.map_eq_some_iff.1 h
    exact ⟨rfl, rfl, rfl, rfl⟩
  | addStats | percentAttach | restoreMana | adjustHp => simp [isAttackEffect] at he

/-- An effect that works is an attack effect exactly while an attack is being built. -/
theorem write?_of_perform? {e : Effect} {m : Moment} {s t : Targets}
    (h : e.perform? m s = some t) :
    e.isAttackEffect = decide (m.phase = .attackModify) ∧ e.write? m s = some t := by
  rw [perform?] at h
  split at h
  · cases h
  · split at h
    · next hkind => exact ⟨hkind, h⟩
    · cases h

end Effect

/-! ## Walks -/

namespace Forest

/-- The effect of the node at `id`, if it has one. -/
def effectAt? (F : Forest) (id : Nat) : Option Effect :=
  match F.nodes[id]?.bind F.behaviorOf with
  | some (.effect effect) => some effect
  | _ => none

/-- The effects that a run comes to, in their order. -/
def reached (F : Forest) (m : Moment) (targets : Targets) (rng : Stream) : List Effect :=
  (F.runStops m targets rng).filterMap fun x => if x.goesOn then F.effectAt? x.id else none

/-- The effects that the runs of several forests come to, one after the other. -/
def reachedAll : List Forest → Moment → Targets → Stream → List Effect
  | [], _, _, _ => []
  | F :: rest, m, targets, rng =>
    F.reached m targets rng ++
      reachedAll rest m (F.run m targets rng).2.1 (F.run m targets rng).2.2

variable {F : Forest} {m : Moment} {R : Targets → Targets → Prop}

/-- Every effect at one of the given stops respects a relation between targets. -/
def RespectedAt (F : Forest) (m : Moment) (R : Targets → Targets → Prop) (stops : List Stop) : Prop :=
  ∀ j, ⟨j, true⟩ ∈ stops → ∀ e, F.effectAt? j = some e → ∀ t u, e.perform? m t = some u → R t u

theorem perform_respects (refl : ∀ t, R t t) {id : Nat} {node : Node}
    (hn : F.nodes[id]? = some node) {s : WalkState}
    (step : (F.perform m id node s).1 = true → ∀ e, F.effectAt? id = some e →
      ∀ t u, e.perform? m t = some u → R t u) :
    R s.targets (F.perform m id node s).2.targets := by
  rw [perform] at step ⊢
  cases hb : F.behaviorOf node with
  | none => exact refl s.targets
  | some behavior =>
    cases behavior with
    | gate gate => exact refl s.targets
    | effect effect =>
      have here : F.effectAt? id = some effect := by simp [effectAt?, hn, hb]
      show R s.targets ((effect.perform? m s.targets).getD s.targets)
      cases h : effect.perform? m s.targets with
      | none => exact refl s.targets
      | some t => exact step (by rw [hb]) effect here s.targets t h

theorem visitAll_respects_of_visit (refl : ∀ t, R t t) (trans : ∀ {s t u}, R s t → R t u → R s u)
    (ids : List Nat)
    (h : ∀ id ∈ ids, ∀ s, F.RespectedAt m R (F.stops m id s) → R s.targets (F.visit m id s).targets)
    (s : WalkState) (step : F.RespectedAt m R (F.stopsAll m ids s)) :
    R s.targets (F.visitAll m ids s).targets := by
  induction ids generalizing s with
  | nil => exact refl s.targets
  | cons id rest ih =>
    rw [stopsAll_cons] at step
    have first := h id List.mem_cons_self s fun j hj => step j (List.mem_append_left _ hj)
    have later := ih (fun c hc => h c (List.mem_cons_of_mem id hc)) (F.visit m id s)
      fun j hj => step j (List.mem_append_right _ hj)
    exact trans first later

/-- The walk of a tree respects a relation between targets if the effects at its stops do. -/
theorem visit_respects (refl : ∀ t, R t t) (trans : ∀ {s t u}, R s t → R t u → R s u) (id : Nat)
    (s : WalkState) (step : F.RespectedAt m R (F.stops m id s)) :
    R s.targets (F.visit m id s).targets := by
  induction id using F.childrenInduction generalizing s with
  | step id ih =>
    cases hn : F.nodes[id]? with
    | none =>
      rw [visit_missing hn]
      exact refl s.targets
    | some node =>
      cases hside : node.side.admits m with
      | false =>
        rw [visit_excluded hn hside]
        exact refl s.targets
      | true =>
        rw [stops_admitted hn hside] at step
        rw [visit_admitted hn hside]
        split
        · next on =>
          rw [if_pos on] at step
          have first := perform_respects refl hn (s := s) fun _ => step id List.mem_cons_self
          exact trans first (visitAll_respects_of_visit refl trans _ ih _
            fun j hj => step j (List.mem_cons_of_mem _ hj))
        · next off => exact perform_respects refl hn fun on => absurd on off

/-- A relation between targets that every effect respects to which the run of a forest comes is
respected by the run. -/
theorem run_rel (refl : ∀ t, R t t) (trans : ∀ {s t u}, R s t → R t u → R s u) (targets : Targets)
    (rng : Stream)
    (step : ∀ e ∈ F.reached m targets rng, ∀ s t, e.perform? m s = some t → R s t) :
    R targets (F.run m targets rng).2.1 := by
  refine visitAll_respects_of_visit refl trans F.roots (fun id _ s => visit_respects refl trans id s)
    ⟨F.counters, targets, rng⟩ fun j hj e he => ?_
  exact step e (List.mem_filterMap.2 ⟨⟨j, true⟩, hj, he⟩)

/-- A relation between targets that every effect respects to which the runs of several forests come is
respected by these runs. -/
theorem runAll_rel (refl : ∀ t, R t t) (trans : ∀ {s t u}, R s t → R t u → R s u)
    (forests : List Forest) (targets : Targets) (rng : Stream)
    (step : ∀ e ∈ reachedAll forests m targets rng, ∀ s t, e.perform? m s = some t → R s t) :
    R targets (runAll forests m targets rng).2.1 := by
  induction forests generalizing targets rng with
  | nil => exact refl targets
  | cons F rest ih =>
    have first := run_rel refl trans targets rng fun e he => step e (List.mem_append_left _ he)
    exact trans first (ih _ _ fun e he => step e (List.mem_append_right _ he))

/-- While an attack is being built, nothing but the attack is changed. -/
theorem runAll_keeps_others (h : m.phase = .attackModify) (forests : List Forest)
    (targets : Targets) (rng : Stream) :
    targets.SameOthers (runAll forests m targets rng).2.1 := by
  refine runAll_rel Targets.SameOthers.refl Targets.SameOthers.trans forests targets rng ?_
  intro e _ s t hp
  obtain ⟨hkind, hw⟩ := Effect.write?_of_perform? hp
  exact Effect.write?_sameOthers (by simp [hkind, h]) hw

end Forest

end Masquerade
