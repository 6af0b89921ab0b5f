import Masquerade.Proofs.Session.Affordable
import Masquerade.Proofs.Session.Roster

/-!
# Grounds for refusal

In a game that was read from a text, whatever an operation is refused for can be seen in the session
beforehand (`Session.ground?`): a mask that is missing or already there, a piece that is not in stock or
that the mana does not cover, a name that no enemy has, and a material to be stocked that the catalog
does not list. `Session.Reachable.refusal?_eq` says so for every operation. Settling, ending a make phase
and passing on the turn are never refused, and nothing is ever put down to the content
(`Session.refusals_of_accepted`).
-/

namespace Masquerade

/-- Whether the refusal finds fault with the content. -/
def GameError.isConfiguration : GameError → Bool
  | .ruleset _ | .duplicateMaterial _ | .sharedBehavior .. | .nodeBehavior .. | .crowdedNode _ => true
  | _ => false

namespace Session

variable {text : String} {c : Content} {s : Session}

/-! ## What the session shows -/

/-- On what ground an operation is refused, if on any. -/
def ground? (s : Session) : Operation → Option GameError
  | .startMask _ => if s.current.isSome then some .maskInProgress else none
  | .stock material =>
    if (s.catalog.get? material).isSome then none else some (.unknownMaterial material)
  | .bindPiece id =>
    match s.current, s.inventory.find? id with
    | none, _ => some .noActiveMask
    | some _, none => some (.materialNotFound id)
    | some mask, some piece =>
      if mask.mana.affords piece.manaCost then none
      else some (.notEnoughMana piece.manaCost mask.mana.current)
  | .autoBind =>
    if s.current.isNone ∧ s.inventory.items ≠ [] then some .noActiveMask else none
  | .fight enemy | .playRound enemy =>
    if (s.foe? enemy).isSome then none else some (.unknownEnemy enemy)
  | .endMakePhase | .nextEnemy | .settle _ | .commitBy _ => none

theorem startMask_ground (s : Session) (name : String) :
    (s.startMask name).refusal? = s.ground? (.startMask name) := by
  rw [startMask, ground?]
  split <;> rfl

theorem stock_ground (s : Session) (material : String) :
    (s.stock material).refusal? = s.ground? (.stock material) := by
  rw [stock, Catalog.instantiate, ground?]
  cases s.catalog.get? material <;> rfl

theorem bindPiece_ground (s : Session) (id : InstanceId) :
    (s.bindPiece id).refusal? = s.ground? (.bindPiece id) := by
  rw [bindPiece, ground?]
  cases s.current with
  | none => rfl
  | some mask =>
    cases s.inventory.find? id with
    | none => rfl
    | some piece =>
      dsimp only
      rw [Mask.bind, ManaPool.spend?]
      by_cases covered : mask.mana.affords piece.manaCost
      · rw [if_pos covered, if_pos covered]
        rfl
      · rw [if_neg covered, if_neg covered]
        rfl

/-- Where every piece in stock is alive, binding all of them is refused exactly if there is no mask to
bind a first one to. -/
theorem autoBind_ground (nodup : s.inventory.ids.Nodup) (live : s.Live) :
    s.autoBind.refusal? = s.ground? .autoBind := by
  have listed : s.inventory.idsByExpiry.Perm s.inventory.ids := Inventory.idsByExpiry_perm live
  rw [ground?]
  by_cases masked : s.current.isNone
  · have none : s.current = none := Option.isNone_iff_eq_none.1 masked
    rw [autoBind]
    by_cases empty : s.inventory.items = []
    · have nothing : s.inventory.idsByExpiry = [] := by
        rw [Inventory.ids, empty] at listed
        exact listed.eq_nil
      rw [nothing, if_neg fun h => h.2 empty]
      rfl
    · obtain ⟨id, rest, split⟩ : ∃ id rest, s.inventory.idsByExpiry = id :: rest := by
        refine List.exists_cons_of_ne_nil fun nothing => empty ?_
        rw [nothing] at listed
        exact List.map_eq_nil_iff.1 listed.symm.eq_nil
      have refused : s.bindPiece id = (.error .noActiveMask, s) := by rw [bindPiece, none]
      rw [split, bindAffordable, refused, if_pos ⟨masked, empty⟩]
      rfl
  · obtain ⟨bound, t, done, -⟩ | ⟨none, -⟩ := autoBind_moved nodup
    · rw [done, if_neg fun h => masked h.1]
      rfl
    · exact absurd (Option.isNone_iff_eq_none.2 none) masked

theorem fight_ground (s : Session) (enemy : String) :
    (s.fight enemy).refusal? = s.ground? (.fight enemy) := by
  rw [ground?]
  by_cases known : (s.foe? enemy).isSome
  · obtain ⟨report, forests, -, fought⟩ := fight_known known
    rw [fought s rfl, if_pos known]
    rfl
  · have unknown : s.foe? enemy = none := by simpa using known
    rw [fight, unknown]
    rfl

/-- In a game that was read from a text an operation is refused exactly if there is a ground for it. -/
theorem Reachable.refusal?_eq (reached : Reachable c s) (parsed : Content.parse text = .ok c)
    (op : Operation) : s.refusal? op = s.ground? op := by
  obtain ⟨stocked, expired, books⟩ := reached.balanced
  cases op with
  | startMask name => exact s.startMask_ground name
  | stock material => exact s.stock_ground material
  | bindPiece id => exact s.bindPiece_ground id
  | autoBind => exact autoBind_ground books.nodup_inventory reached.live
  | fight enemy => exact s.fight_ground enemy
  | settle report =>
    obtain ⟨settlement, t, -, settled, -⟩ := reached.settles parsed report
    rw [refusal?, settled]
    rfl
  | playRound enemy =>
    have fought : (s.fight enemy).refusal? = s.ground? (.playRound enemy) := s.fight_ground enemy
    have after : Reachable c (s.fight enemy).2 := reached.operate (.fight enemy)
    rw [refusal?, playRound, ← fought]
    rcases hf : s.fight enemy with ⟨e | report, t⟩
    · rfl
    · -- what was fought is settled
      rw [hf] at after
      obtain ⟨settlement, u, -, settled, -⟩ := after.settles parsed report
      dsimp only
      rw [settled]
      rfl
  | endMakePhase | nextEnemy | commitBy => rfl

/-! ## The content is never at fault -/

/-- Where every material that a content refers to is in its catalog, a session can begin. -/
theorem exists_new (known : ∀ id ∈ c.startingMaterials, (c.catalog.get? id).isSome = true) :
    ∃ s, Session.new c = .ok s := by
  obtain ⟨pieces, s, stocked, -⟩ := stockAll_arrives (unstocked_balanced c) known
  exact ⟨s, by rw [Session.new, stocked]⟩

/-- Of the grounds for refusal only one finds fault with what the game lists: the ground for not stocking
a material. -/
theorem ground?_blameless {op : Operation} (unstocking : ∀ material, op ≠ .stock material)
    {e : GameError} (refused : s.ground? op = some e) :
    (∀ material, e ≠ .unknownMaterial material) ∧ e ≠ .missingEnemy ∧ e ≠ .battleInProgress ∧
      e.isConfiguration = false := by
  cases op with
  | stock material => exact absurd rfl (unstocking material)
  | bindPiece id =>
    rw [ground?] at refused
    split at refused
    · cases refused
      simp [GameError.isConfiguration]
    · cases refused
      simp [GameError.isConfiguration]
    · split at refused <;> cases refused
      simp [GameError.isConfiguration]
  | startMask | autoBind | fight | playRound =>
    rw [ground?] at refused
    split at refused <;> cases refused
    simp [GameError.isConfiguration]
  | endMakePhase | nextEnemy | settle | commitBy => cases refused

/-- A content that was accepted never fails later. A session begins with it; and whatever operations have
been done, settling is not refused, fights and rounds are refused only for a name that no enemy has,
binding whatever the mana covers is refused only where there is no mask in the making, and no operation
but stocking a material by hand is refused for an unknown material, for a missing enemy, for a battle
that is going on or for a fault of the content. -/
theorem refusals_of_accepted (parsed : Content.parse text = .ok c) :
    (∃ s, Session.new c = .ok s) ∧ ∀ s, Reachable c s →
      (∀ report, ∃ settlement, (s.settle report).1 = .ok settlement) ∧
      (∀ enemy e, (s.fight enemy).1 = .error e ∨ (s.playRound enemy).1 = .error e →
        e = .unknownEnemy enemy ∧ ∀ f ∈ c.foes, f.profile.name ≠ enemy) ∧
      (∀ e, s.autoBind.1 = .error e → e = .noActiveMask ∧ s.current = none) ∧
      ∀ op e, (∀ material, op ≠ .stock material) → s.refusal? op = some e →
        (∀ material, e ≠ .unknownMaterial material) ∧ e ≠ .missingEnemy ∧ e ≠ .battleInProgress ∧
          e.isConfiguration = false := by
  have known := Content.parse_known parsed
  refine ⟨exists_new fun id hid => known id (List.mem_append_left _ hid), fun s reached => ?_⟩
  have grounds := reached.refusal?_eq parsed
  refine ⟨fun report => ?_, fun enemy e refused => ?_, fun e refused => ?_,
    fun op e unstocking refused => ?_⟩
  · obtain ⟨settlement, t, -, settled, -⟩ := reached.settles parsed report
    exact ⟨settlement, congrArg Prod.fst settled⟩
  · have ground : s.ground? (.fight enemy) = some e := by
      rw [← Reply.refusal?_eq_some, ← Reply.refusal?_eq_some] at refused
      exact refused.elim ((grounds (.fight enemy)).symm.trans ·)
        ((grounds (.playRound enemy)).symm.trans ·)
    rw [ground?] at ground
    split at ground
    · cases ground
    · next unknown =>
      refine ⟨(Option.some.inj ground).symm, fun f hf same => unknown ?_⟩
      rw [foe?, reached.foes_eq, List.find?_isSome]
      exact ⟨f, hf, by simp [same]⟩
  · have ground : s.ground? .autoBind = some e :=
      (grounds .autoBind).symm.trans (Reply.refusal?_eq_some.2 refused)
    rw [ground?] at ground
    split at ground
    · next maskless =>
      exact ⟨(Option.some.inj ground).symm, Option.isNone_iff_eq_none.1 maskless.1⟩
    · cases ground
  · exact ground?_blameless unstocking ((grounds op).symm.trans refused)

end Session

/-- With a fang in stock and no mask in the making there is a ground against binding, and against a fight
with an enemy that the game does not have; what was fought with one that it has can be settled. -/
theorem twins_settle_any_fight :
    ∃ c s, Content.parse twinsText = .ok c ∧ Session.Reachable c s ∧
      s.autoBind.1 = .error .noActiveMask ∧ s.current = none ∧
      (s.fight "Ogre").1 = .error (.unknownEnemy "Ogre") ∧ (∀ f ∈ c.foes, f.profile.name ≠ "Ogre") ∧
      ∀ report, ∃ settlement, ((s.fight "Slime").2.settle report).1 = .ok settlement := by
  let stocked (s : Session) := s.operate (.stock "fang")
  let answers (s : Session) := (s.ground? .autoBind, s.refusal? (.fight "Ogre"))
  obtain ⟨c, s, parsed, begun, same⟩ := Session.exists_of_text twinsText (answers ∘ stocked)
    (some .noActiveMask, some (.unknownEnemy "Ogre")) (by decide +kernel)
  simp only [answers, Function.comp, Prod.mk.injEq] at same
  have reached : Session.Reachable c (stocked s) := .operate (.new begun) _
  obtain ⟨-, never⟩ := Session.refusals_of_accepted parsed
  obtain ⟨-, unknown, bare, -⟩ := never _ reached
  have fought := Session.Reply.refusal?_eq_some.1 same.2
  have bound := Session.Reply.refusal?_eq_some.1 ((reached.refusal?_eq parsed .autoBind).trans same.1)
  exact ⟨c, stocked s, parsed, reached, bound, (bare _ bound).2, fought,
    (unknown "Ogre" _ (.inl fought)).2, (never _ (reached.operate (.fight "Slime"))).1⟩

end Masquerade
