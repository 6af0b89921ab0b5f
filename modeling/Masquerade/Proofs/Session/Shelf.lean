import Mathlib.Data.List.Perm.Basic
import Masquerade.Proofs.Session.Operations

/-!
# From the shelf to the mask

Binding takes a piece out of the inventory (`Inventory.exists_split`) and puts it at the end of the mask
in the making. If the mana does not cover the piece, it goes back, to the end of the inventory
(`Inventory.exists_putBack`). Whatever is bound in one go is what has left the inventory
(`Session.Moved`, `Session.autoBind_moved`).
-/

namespace Masquerade

/-! ## Pieces by identity -/

def Inventory.ids (inv : Inventory) : List InstanceId := inv.items.map (·.id)

def Mask.ids (mask : Mask) : List InstanceId := mask.pieces.map (·.id)

namespace Inventory

/-- Erasing a piece that is found takes it out of its place and leaves the others in order. -/
theorem exists_split {inv : Inventory} {id : InstanceId} {p : Piece} (h : inv.find? id = some p) :
    p.id = id ∧ ∃ before after, inv.items = before ++ p :: after ∧
      (inv.erase id).items = before ++ after := by
  obtain ⟨here, before, after, split, others⟩ := List.find?_eq_some_iff_append.1 h
  refine ⟨of_decide_eq_true here, before, after, split, ?_⟩
  rw [erase, split]
  show List.eraseP _ (before ++ p :: after) = before ++ after
  rw [List.eraseP_append_right _ (by simpa using others)]
  simp [of_decide_eq_true here]

theorem ids_erase {inv : Inventory} {id : InstanceId} {p : Piece} (h : inv.find? id = some p) :
    inv.ids.Perm (id :: (inv.erase id).ids) := by
  obtain ⟨rfl, before, after, split, erased⟩ := exists_split h
  rw [ids, ids, split, erased, List.map_append, List.map_append, List.map_cons]
  exact List.perm_middle

theorem contains_iff (inv : Inventory) (id : InstanceId) : inv.contains id = true ↔ id ∈ inv.ids := by
  simp [contains, find?, ids, List.find?_isSome]

theorem exists_find? {inv : Inventory} {id : InstanceId} (h : id ∈ inv.ids) :
    ∃ p, inv.find? id = some p :=
  Option.isSome_iff_exists.1 ((inv.contains_iff id).2 h)

theorem putBack_of_absent {inv : Inventory} {p : Piece} (h : p.id ∉ inv.ids) :
    inv.putBack p = ⟨inv.items ++ [p]⟩ := by
  rw [putBack, if_neg]
  rwa [contains_iff]

/-- A piece that is found and put back comes to stand at the end. -/
theorem exists_putBack {inv : Inventory} (nodup : inv.ids.Nodup) {id : InstanceId} {p : Piece}
    (h : inv.find? id = some p) :
    ∃ before after, inv.items = before ++ p :: after ∧
      (inv.erase id).putBack p = ⟨before ++ after ++ [p]⟩ := by
  obtain ⟨rfl, before, after, split, erased⟩ := exists_split h
  have gone : p.id ∉ (inv.erase p.id).ids :=
    (List.nodup_cons.1 ((ids_erase h).nodup_iff.1 nodup)).1
  refine ⟨before, after, split, ?_⟩
  rw [putBack_of_absent gone, erased]

theorem ids_add {inv : Inventory} {p : Piece} (h : p.id ∉ inv.ids) :
    (inv.add p).ids = inv.ids ++ [p.id] := by
  rw [add, putBack_of_absent (p := p.fresh) h, ids, List.map_append]
  rfl

/-- A make phase divides the pieces into those that expire and those that stay. -/
theorem ids_endMakePhase (inv : Inventory) :
    inv.ids.Perm (inv.endMakePhase.1.map (·.id) ++ inv.endMakePhase.2.ids) := by
  have parts := (List.filter_append_perm Piece.isExpired (inv.items.map Piece.aged)).map (·.id)
  have same : (inv.items.map Piece.aged).map (·.id) = inv.ids := by
    rw [List.map_map]
    rfl
  rw [same, List.map_append] at parts
  rw [endMakePhase, List.partition_eq_filter_filter]
  exact parts.symm

/-- The order of expiry lists pieces that are in stock, each once. -/
theorem idsByExpiry_subperm (inv : Inventory) : inv.idsByExpiry.Subperm inv.ids := by
  have sorted := List.mergeSort_perm (inv.items.filter fun p => !p.isExpired)
    fun p q => decide (p.remaining ≤ q.remaining)
  have live := (List.filter_sublist (p := fun p : Piece => !p.isExpired) (l := inv.items)).map (·.id)
  exact (sorted.map (·.id)).subperm.trans live.subperm

end Inventory

/-! ## Pieces that move into the mask -/

namespace Session

/-- The identities of the pieces of the mask in the making. -/
def currentIds (s : Session) : List InstanceId := s.current.toList.flatMap Mask.ids

/-- From one session to another the given pieces have moved from the inventory to the end of the mask in
the making, and nothing else has come or gone. -/
structure Moved (s t : Session) (moved : List InstanceId) : Prop where
  inventory : s.inventory.ids.Perm (moved ++ t.inventory.ids)
  currentIds : t.currentIds = s.currentIds ++ moved
  making : t.current.isSome = s.current.isSome
  library : t.library = s.library
  issued : t.issued = s.issued

namespace Moved

variable {s t u : Session} {ids more : List InstanceId}

theorem refl (s : Session) : s.Moved s [] := ⟨.refl _, by simp, rfl, rfl, rfl⟩

theorem trans (h : s.Moved t ids) (h' : t.Moved u more) : s.Moved u (ids ++ more) where
  inventory := by
    rw [List.append_assoc]
    exact h.inventory.trans (h'.inventory.append_left ids)
  currentIds := by rw [h'.currentIds, h.currentIds, List.append_assoc]
  making := h'.making.trans h.making
  library := h'.library.trans h.library
  issued := h'.issued.trans h.issued

theorem mem_inventory (h : s.Moved t ids) {id : InstanceId} (hid : id ∈ s.inventory.ids)
    (unmoved : id ∉ ids) : id ∈ t.inventory.ids := by
  have here := h.inventory.mem_iff.1 hid
  exact (List.mem_append.1 here).resolve_left unmoved

theorem nodup_inventory (h : s.Moved t ids) (nodup : s.inventory.ids.Nodup) :
    t.inventory.ids.Nodup :=
  (List.nodup_append.1 (h.inventory.nodup_iff.1 nodup)).2.1

end Moved

/-- Binding a piece moves it or leaves it in the inventory. -/
theorem bindPiece_moved {s : Session} (nodup : s.inventory.ids.Nodup) (id : InstanceId) :
    s.Moved (s.bindPiece id).2 (if (s.bindPiece id).1.toBool then [id] else []) := by
  have binding := s.bindPiece_binding id
  generalize s.bindPiece id = reply at binding ⊢
  cases binding with
  | maskless | absent => exact .refl s
  | @bound mask piece making present mana forest rng =>
    refine ⟨Inventory.ids_erase present, ?_, ?_, rfl, rfl⟩
    · obtain ⟨same, -⟩ := Inventory.exists_split present
      simp [currentIds, making, Mask.ids, same, Except.toBool]
    · simp [making]
  | @unpaid mask piece making present =>
    obtain ⟨before, after, split, back⟩ := Inventory.exists_putBack nodup present
    have turned : (before ++ piece :: after).Perm (before ++ after ++ [piece]) :=
      List.perm_middle.trans (List.perm_append_singleton piece _).symm
    refine ⟨?_, by simp [Except.toBool, currentIds], rfl, rfl, rfl⟩
    rw [back, Inventory.ids, Inventory.ids, split]
    exact turned.map (·.id)

/-- Pieces that are in stock are bound one after the other without a refusal but for the mana. -/
theorem bindAffordable_moved {s : Session} (nodup : s.inventory.ids.Nodup)
    (making : s.current.isSome = true) {ids : List InstanceId} (once : ids.Nodup)
    (stocked : ∀ id ∈ ids, id ∈ s.inventory.ids) :
    ∃ bound t, bindAffordable ids s = (.ok bound, t) ∧ s.Moved t bound ∧ bound.Sublist ids := by
  induction ids generalizing s with
  | nil => exact ⟨[], s, rfl, .refl s, .slnil⟩
  | cons id rest ih =>
    have here := stocked id List.mem_cons_self
    have step := bindPiece_moved nodup id
    have binding := s.bindPiece_binding id
    rw [bindAffordable]
    generalize s.bindPiece id = reply at binding step ⊢
    -- the list is the one from before the first bind, but what comes later on it has not moved yet
    have later := ih (step.nodup_inventory nodup) (step.making.trans making) once.of_cons
    obtain ⟨fresh, -⟩ := List.nodup_cons.1 once
    cases binding with
    | maskless none => simp [none] at making
    | absent _ absent =>
      obtain ⟨p, present⟩ := Inventory.exists_find? here
      simp [present] at absent
    | bound _ present mana forest rng =>
      change s.Moved _ [id] at step
      have stocked' : ∀ other ∈ rest, other ≠ id := fun other h same => fresh (same ▸ h)
      obtain ⟨bound, t, done, moved, sub⟩ := later fun other h =>
        step.mem_inventory (stocked other (List.mem_cons_of_mem id h)) (by simpa using stocked' other h)
      refine ⟨id :: bound, t, ?_, step.trans moved, sub.cons_cons id⟩
      dsimp only
      rw [done]
    | unpaid _ present =>
      change s.Moved _ [] at step
      obtain ⟨bound, t, done, moved, sub⟩ := later fun other h =>
        step.mem_inventory (stocked other (List.mem_cons_of_mem id h)) (by simp)
      exact ⟨bound, t, done, step.trans moved, sub.cons id⟩

/-- Binding whatever the mana covers moves the pieces that it answers, in their order. It is refused only
where there is something to bind and no mask to bind it to, and then nothing has changed. -/
theorem autoBind_moved {s : Session} (nodup : s.inventory.ids.Nodup) :
    (∃ bound t, s.autoBind = (.ok bound, t) ∧ s.Moved t bound ∧ bound.Sublist s.inventory.idsByExpiry) ∨
      s.current = none ∧ s.autoBind = (.error .noActiveMask, s) := by
  have once : s.inventory.idsByExpiry.Nodup := by
    obtain ⟨listed, perm, sub⟩ := s.inventory.idsByExpiry_subperm
    exact perm.nodup_iff.1 (nodup.sublist sub)
  have stocked : ∀ id ∈ s.inventory.idsByExpiry, id ∈ s.inventory.ids :=
    fun id h => s.inventory.idsByExpiry_subperm.subset h
  cases hs : s.current with
  | some mask => exact .inl (bindAffordable_moved nodup (by simp [hs]) once stocked)
  | none =>
    rw [autoBind]
    cases s.inventory.idsByExpiry with
    | nil => exact .inl ⟨[], s, rfl, .refl s, .slnil⟩
    | cons id rest =>
      have refused : s.bindPiece id = (.error .noActiveMask, s) := by rw [bindPiece, hs]
      exact .inr ⟨rfl, by rw [bindAffordable, refused]⟩

end Session

end Masquerade
