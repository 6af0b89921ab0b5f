import Masquerade.Proofs.Session.Ledger

/-!
# What the mana covers

Binding whatever the mana covers offers every piece in stock to the mask once, in the order of expiry
(`Session.offer`). A piece is bound exactly if the mana covers it when its turn comes, and a piece that
was refused has no second turn. So when a piece that is bound later brings in more mana than it costs,
pieces can be left over that the mana now covers (`Session.autoBind_turns`).
-/

namespace Masquerade

theorem Piece.fresh_isExpired (p : Piece) : p.fresh.isExpired = false := by
  refine decide_eq_false fun spent => ?_
  change (if p.shelfLifeTurns ≤ 1 then 1 else p.shelfLifeTurns) = 0 at spent
  split at spent
  · cases spent
  · next long =>
    rw [spent] at long
    exact long (by decide)

namespace Inventory

variable {inv : Inventory}

theorem find?_of_mem (nodup : inv.ids.Nodup) {p : Piece} (hp : p ∈ inv.items) :
    inv.find? p.id = some p := by
  have here : p.id ∈ inv.ids := List.mem_map_of_mem hp
  obtain ⟨q, found⟩ := exists_find? here
  obtain ⟨same, -⟩ := exists_split found
  have hq : q ∈ inv.items := List.mem_of_find?_eq_some found
  rw [found, List.inj_on_of_nodup_map nodup hq hp same]

/-- Where no piece has expired, all are listed. -/
theorem idsByExpiry_of_live (live : ∀ p ∈ inv.items, p.isExpired = false) :
    inv.idsByExpiry =
      (inv.items.mergeSort fun p q => decide (p.remaining ≤ q.remaining)).map (·.id) := by
  have all : inv.items.filter (fun p => !p.isExpired) = inv.items :=
    List.filter_eq_self.2 fun p hp => by simp [live p hp]
  rw [idsByExpiry, all]

theorem idsByExpiry_perm (live : ∀ p ∈ inv.items, p.isExpired = false) :
    inv.idsByExpiry.Perm inv.ids := by
  rw [idsByExpiry_of_live live]
  exact (List.mergeSort_perm inv.items _).map (·.id)

/-- Pieces that stand in the order of expiry are listed as they stand. -/
theorem idsByExpiry_of_sorted (live : ∀ p ∈ inv.items, p.isExpired = false)
    (sorted : inv.items.Pairwise fun p q => p.remaining ≤ q.remaining) :
    inv.idsByExpiry = inv.ids := by
  rw [idsByExpiry_of_live live, List.mergeSort_of_pairwise (by simpa using sorted)]
  rfl

theorem putBack_subset (inv : Inventory) (p : Piece) :
    (inv.putBack p).items ⊆ inv.items ++ [p] := by
  rw [putBack]
  split
  · exact List.subset_append_left _ _
  · exact List.Subset.refl _

theorem subset_putBack (inv : Inventory) (p : Piece) : inv.items ⊆ (inv.putBack p).items := by
  rw [putBack]
  split
  · exact List.Subset.refl _
  · exact List.subset_append_left _ _

theorem erase_subset (inv : Inventory) (id : InstanceId) : (inv.erase id).items ⊆ inv.items :=
  List.eraseP_subset

theorem mem_erase_of_ne {p : Piece} (hp : p ∈ inv.items) {id : InstanceId} (ne : p.id ≠ id) :
    p ∈ (inv.erase id).items :=
  (List.mem_eraseP_of_neg (by simpa using ne)).2 hp

end Inventory

namespace Session

/-- The mana of the mask in the making. -/
def mana (s : Session) : UInt32 := (s.current.map (·.mana.current)).getD 0

/-- Offers pieces to the mask in the making one after the other, whatever becomes of each. -/
def offer (s : Session) (ids : List InstanceId) : Session :=
  ids.foldl (fun s id => (s.bindPiece id).2) s

variable {s t : Session} {id : InstanceId}

/-! ## One piece -/

theorem bindPiece_subset (s : Session) (id : InstanceId) :
    (s.bindPiece id).2.inventory.items ⊆ s.inventory.items := by
  have binding := s.bindPiece_binding id
  generalize s.bindPiece id = reply at binding ⊢
  cases binding with
  | maskless | absent => exact List.Subset.refl _
  | bound => exact s.inventory.erase_subset id
  | @unpaid mask piece making present =>
    refine List.Subset.trans ((s.inventory.erase id).putBack_subset piece) ?_
    exact List.append_subset.2 ⟨s.inventory.erase_subset id,
      by simpa using List.mem_of_find?_eq_some present⟩

theorem mem_bindPiece {p : Piece} (hp : p ∈ s.inventory.items) (ne : p.id ≠ id) :
    p ∈ (s.bindPiece id).2.inventory.items := by
  have binding := s.bindPiece_binding id
  generalize s.bindPiece id = reply at binding ⊢
  cases binding with
  | maskless | absent => exact hp
  | bound => exact Inventory.mem_erase_of_ne hp ne
  | unpaid => exact Inventory.subset_putBack _ _ (Inventory.mem_erase_of_ne hp ne)

theorem bindPiece_making (s : Session) (id : InstanceId) :
    (s.bindPiece id).2.current.isSome = s.current.isSome := by
  have binding := s.bindPiece_binding id
  generalize s.bindPiece id = reply at binding ⊢
  cases binding with
  | maskless | absent | unpaid => rfl
  | bound making => simp [making]

/-- A piece is bound exactly if the mana covers it. -/
theorem bindPiece_toBool {p : Piece} (making : s.current.isSome = true)
    (present : s.inventory.find? id = some p) :
    (s.bindPiece id).1.toBool = true ↔ p.manaCost ≤ s.mana := by
  obtain ⟨mask, making⟩ := Option.isSome_iff_exists.1 making
  have mana : s.mana = mask.mana.current := by rw [mana, making]; rfl
  simp only [bindPiece, making, present, Mask.bind, ManaPool.spend?, ManaPool.affords, mana]
  by_cases covered : p.manaCost ≤ mask.mana.current
  · simp [covered, Except.toBool]
  · simp [covered, Except.toBool]

/-- A piece that is refused changes nothing of the mana. -/
theorem mana_of_refused (refused : (s.bindPiece id).1.toBool = false) :
    (s.bindPiece id).2.mana = s.mana := by
  have binding := s.bindPiece_binding id
  generalize s.bindPiece id = reply at binding refused ⊢
  cases binding with
  | maskless | absent | unpaid => rfl
  | bound => cases refused

/-! ## One piece after the other -/

theorem offer_append (s : Session) (ids more : List InstanceId) :
    s.offer (ids ++ more) = (s.offer ids).offer more :=
  List.foldl_append

theorem offer_cons_append (s : Session) (early late : List InstanceId) (id : InstanceId) :
    s.offer (early ++ id :: late) = ((s.offer early).bindPiece id).2.offer late :=
  s.offer_append early (id :: late)

theorem offer_keeps {P : Session → Prop} (step : ∀ s id, P s → P (s.bindPiece id).2)
    (ids : List InstanceId) (h : P s) : P (s.offer ids) := by
  induction ids generalizing s with
  | nil => exact h
  | cons id rest ih => exact ih (step s id h)

theorem offer_making (s : Session) (ids : List InstanceId) :
    (s.offer ids).current.isSome = s.current.isSome :=
  offer_keeps (P := fun t => t.current.isSome = s.current.isSome)
    (fun t id h => (t.bindPiece_making id).trans h) ids rfl

theorem offer_subset (s : Session) (ids : List InstanceId) :
    (s.offer ids).inventory.items ⊆ s.inventory.items :=
  offer_keeps (P := fun t => t.inventory.items ⊆ s.inventory.items)
    (fun t id h => List.Subset.trans (t.bindPiece_subset id) h) ids (List.Subset.refl _)

theorem offer_nodup (nodup : s.inventory.ids.Nodup) (ids : List InstanceId) :
    (s.offer ids).inventory.ids.Nodup :=
  offer_keeps (P := fun t => t.inventory.ids.Nodup)
    (fun _ id h => (bindPiece_moved h id).nodup_inventory h) ids nodup

theorem mem_offer {p : Piece} {ids : List InstanceId} (hp : p ∈ s.inventory.items)
    (unoffered : p.id ∉ ids) : p ∈ (s.offer ids).inventory.items := by
  induction ids generalizing s with
  | nil => exact hp
  | cons id rest ih =>
    obtain ⟨ne, later⟩ := List.ne_and_not_mem_of_not_mem_cons unoffered
    exact ih (mem_bindPiece hp ne) later

/-- Where the mana has risen in the end, it has risen at some piece. -/
theorem exists_rise {ids : List InstanceId} (h : s.mana < (s.offer ids).mana) :
    ∃ early id late, ids = early ++ id :: late ∧
      (s.offer early).mana < ((s.offer early).bindPiece id).2.mana := by
  induction ids generalizing s with
  | nil => exact absurd h (by simp [offer])
  | cons id rest ih =>
    by_cases here : s.mana < (s.bindPiece id).2.mana
    · exact ⟨[], id, rest, rfl, here⟩
    · obtain ⟨early, other, late, rfl, rise⟩ :=
        ih (s := (s.bindPiece id).2) (UInt32.lt_of_le_of_lt (UInt32.not_lt.1 here) h)
      exact ⟨id :: early, other, late, rfl, rise⟩

/-- Where the mana has risen since a piece was refused, it has risen at a piece that was bound later. -/
theorem exists_rise_of_refused {early late : List InstanceId}
    (refused : ((s.offer early).bindPiece id).1.toBool = false)
    (h : (s.offer early).mana < (s.offer (early ++ id :: late)).mana) :
    ∃ before other after, late = before ++ other :: after ∧
      ((s.offer (early ++ id :: before)).bindPiece other).1.toBool = true ∧
      (s.offer (early ++ id :: before)).mana < (s.offer (early ++ id :: before ++ [other])).mana := by
  rw [offer_cons_append, ← mana_of_refused refused] at h
  obtain ⟨before, other, after, split, rise⟩ := exists_rise h
  refine ⟨before, other, after, split, ?_, ?_⟩
  · rw [offer_cons_append]
    by_contra refused'
    rw [mana_of_refused (Bool.eq_false_iff.2 refused')] at rise
    exact UInt32.lt_irrefl _ rise
  · have last : s.offer (early ++ id :: before ++ [other]) =
        ((s.offer (early ++ id :: before)).bindPiece other).2 := s.offer_append _ [other]
    rw [last, offer_cons_append]
    exact rise

/-- The bound ones of the pieces are those that are accepted when their turn comes. -/
def Accepts (s : Session) (ids bound : List InstanceId) : Prop :=
  ∀ early id late, ids = early ++ id :: late →
    (id ∈ bound ↔ ((s.offer early).bindPiece id).1.toBool = true)

theorem Accepts.cons {rest bound : List InstanceId}
    (here : id ∈ bound ↔ (s.bindPiece id).1.toBool = true)
    (later : (s.bindPiece id).2.Accepts rest bound) : s.Accepts (id :: rest) bound := by
  intro early other late split
  cases early with
  | nil =>
    obtain ⟨rfl, rfl⟩ := List.cons.inj split
    exact here
  | cons first early =>
    obtain ⟨rfl, rfl⟩ := List.cons.inj split
    exact later early other late rfl

/-- A piece that has no turn any more can be bound or not. -/
theorem Accepts.bound_cons {rest bound : List InstanceId} (fresh : id ∉ rest)
    (h : s.Accepts rest bound) : s.Accepts rest (id :: bound) := by
  intro early other late split
  have ne : other ≠ id := by
    rintro rfl
    exact fresh (by simp [split])
  rw [List.mem_cons, or_iff_right ne]
  exact h early other late split

theorem bindAffordable_turns {ids bound : List InstanceId} (once : ids.Nodup)
    (done : bindAffordable ids s = (.ok bound, t)) :
    t = s.offer ids ∧ bound.Sublist ids ∧ s.Accepts ids bound := by
  induction ids generalizing s bound with
  | nil =>
    cases done
    exact ⟨rfl, .slnil, fun early id late split => by simp at split⟩
  | cons id rest ih =>
    obtain ⟨fresh, once⟩ := List.nodup_cons.1 once
    rw [bindAffordable] at done
    rcases turn : s.bindPiece id with ⟨e | accepted, u⟩
    · -- only a piece that the mana does not cover is passed over
      obtain ⟨needed, available, rfl⟩ : ∃ needed available, e = .notEnoughMana needed available := by
        cases e <;> simp_all
      rw [turn] at done
      obtain ⟨rfl, sub, turns⟩ := ih once done
      obtain ⟨answer, rfl⟩ := Prod.ext_iff.1 turn
      have unbound : id ∉ bound := fun h => fresh (sub.subset h)
      have here : id ∈ bound ↔ (s.bindPiece id).1.toBool = true := by
        simp [unbound, answer, Except.toBool]
      exact ⟨rfl, sub.cons id, turns.cons here⟩
    · rw [turn] at done
      rcases rested : bindAffordable rest u with ⟨e | more, v⟩
      · simp [rested] at done
      · simp only [rested, Prod.mk.injEq, Except.ok.injEq] at done
        obtain ⟨rfl, rfl⟩ := done
        obtain ⟨rfl, sub, turns⟩ := ih once rested
        obtain ⟨answer, rfl⟩ := Prod.ext_iff.1 turn
        have here : id ∈ id :: more ↔ (s.bindPiece id).1.toBool = true := by
          simp [answer, Except.toBool]
        exact ⟨rfl, sub.cons_cons id, (turns.bound_cons fresh).cons here⟩

/-! ## No piece in stock has expired -/

/-- No piece in stock has expired. -/
def Live (s : Session) : Prop := ∀ p ∈ s.inventory.items, p.isExpired = false

theorem Live.of_subset (h : s.Live) (sub : t.inventory.items ⊆ s.inventory.items) : t.Live :=
  fun p hp => h p (sub hp)

theorem stock_live (h : s.Live) (material : String) : (s.stock material).2.Live := by
  rw [stock]
  split
  · exact h
  · next piece _ =>
    intro p hp
    rcases List.mem_append.1 (s.inventory.putBack_subset piece.fresh hp) with hp | hp
    · exact h p hp
    · rw [List.mem_singleton.1 hp]
      exact piece.fresh_isExpired

/-- What the end of a make phase leaves are pieces that it has aged and that have not expired. -/
theorem mem_endMakePhase {q : Piece} (hq : q ∈ s.endMakePhase.2.inventory.items) :
    ∃ p ∈ s.inventory.items, q = p.aged ∧ q.isExpired = false := by
  have kept : q ∈ (s.inventory.items.map Piece.aged).filter fun p => !p.isExpired := by
    simpa [endMakePhase, Inventory.endMakePhase, List.partition_eq_filter_filter] using hq
  obtain ⟨aged, live⟩ := List.mem_filter.1 kept
  obtain ⟨p, hp, rfl⟩ := List.mem_map.1 aged
  exact ⟨p, hp, rfl, by simpa using live⟩

theorem steady_live : Steady Live where
  startMask s name h := by
    rw [startMask]
    split <;> exact h
  stock _ material h := stock_live h material
  bindPiece s id h := h.of_subset (s.bindPiece_subset id)
  endMakePhase s _ p hp := by
    obtain ⟨_, _, _, live⟩ := mem_endMakePhase hp
    exact live
  fight s enemy h := by
    rw [Live, s.fight_inventory enemy]
    exact h
  settling _ _ h := h
  nextRound _ h := h
  commitBy _ _ h := h

theorem operate_live (h : s.Live) (op : Operation) : (s.operate op).Live := by
  by_cases other : op = .nextEnemy
  · rw [other, operate, nextEnemy]
    split <;> exact h
  · exact steady_live.operate h other

theorem Reachable.live {c : Content} (h : Reachable c s) : s.Live := by
  induction h with
  | new begun => exact new_keeps steady_live.stock begun fun p hp => by cases hp
  | operate before op ih => exact operate_live ih op

/-! ## Whatever the mana covers -/

/-- After a start there is a mask in the making, whether the start was refused or not. -/
theorem startMask_making (s : Session) (name : String) :
    (s.startMask name).2.current.isSome = true := by
  rw [startMask]
  split
  · next making => exact making
  · rfl

/-- Every piece in stock is offered to the mask once, in the order of expiry, and is bound exactly if the
mana covers it then. Nothing else leaves the inventory. A piece that is left over although the mana covers
it in the end had its turn before another piece that brought in more mana than it cost; so where no piece
does that, nothing is left over that the mana covers. -/
theorem autoBind_turns {c : Content} (reached : Reachable c s) (making : s.current.isSome = true) :
    let order := s.inventory.idsByExpiry
    ∃ bound t, s.autoBind = (.ok bound, t) ∧ t = s.offer order ∧ order.Perm s.inventory.ids ∧
      (∀ p ∈ s.inventory.items, p ∈ t.inventory.items ↔ p.id ∉ bound) ∧
      (∀ p ∈ s.inventory.items, ∀ early late, order = early ++ p.id :: late →
        (p.id ∈ bound ↔ p.manaCost ≤ (s.offer early).mana)) ∧
      (∀ p ∈ t.inventory.items, p.manaCost ≤ t.mana →
        ∃ early id late, order = early ++ id :: late ∧ p.id ∈ early ∧ id ∈ bound ∧
          (s.offer early).mana < (s.offer (early ++ [id])).mana) ∧
      ((∀ early id late, order = early ++ id :: late →
          (s.offer (early ++ [id])).mana ≤ (s.offer early).mana) →
        ∀ p ∈ t.inventory.items, t.mana < p.manaCost) := by
  intro order
  obtain ⟨stocked, expired, books⟩ := reached.balanced
  have nodup := books.nodup_inventory
  have listed : order.Perm s.inventory.ids := Inventory.idsByExpiry_perm reached.live
  have once : order.Nodup := listed.nodup_iff.2 nodup
  obtain ⟨bound, t, done, moved, -⟩ :=
    bindAffordable_moved nodup making once fun id h => listed.mem_iff.1 h
  obtain ⟨rfl, -, turns⟩ := bindAffordable_turns once done
  -- a piece that is left over has not moved
  have unmoved : ∀ p ∈ (s.offer order).inventory.items, p.id ∉ bound := by
    intro p left h
    have apart := (List.nodup_append.1 (moved.inventory.nodup_iff.1 nodup)).2.2
    exact apart p.id h p.id (List.mem_map_of_mem left) rfl
  have covered : ∀ p ∈ s.inventory.items, ∀ early late, order = early ++ p.id :: late →
      (p.id ∈ bound ↔ p.manaCost ≤ (s.offer early).mana) := by
    intro p hp early late split
    have unoffered : p.id ∉ early := by
      rw [split] at once
      exact fun h => (List.nodup_append.1 once).2.2 p.id h p.id List.mem_cons_self rfl
    rw [turns early p.id late split]
    exact bindPiece_toBool ((s.offer_making early).trans making)
      (Inventory.find?_of_mem (offer_nodup nodup early) (mem_offer hp unoffered))
  have rises : ∀ p ∈ (s.offer order).inventory.items, p.manaCost ≤ (s.offer order).mana →
      ∃ early id late, order = early ++ id :: late ∧ p.id ∈ early ∧ id ∈ bound ∧
        (s.offer early).mana < (s.offer (early ++ [id])).mana := by
    intro p left affordable
    have hp := s.offer_subset order left
    obtain ⟨early, late, split⟩ := List.append_of_mem (listed.mem_iff.2 (List.mem_map_of_mem hp))
    have unpaid : (s.offer early).mana < p.manaCost :=
      UInt32.not_le.1 fun h => unmoved p left ((covered p hp early late split).2 h)
    have refused : ((s.offer early).bindPiece p.id).1.toBool = false :=
      Bool.eq_false_iff.2 fun h => unmoved p left ((turns early p.id late split).2 h)
    rw [split] at affordable
    obtain ⟨before, id, after, rfl, accepted, rise⟩ :=
      exists_rise_of_refused refused (UInt32.lt_of_lt_of_le unpaid affordable)
    have split' : order = (early ++ p.id :: before) ++ id :: after := by rw [split]; simp
    exact ⟨_, id, after, split', by simp, (turns _ id after split').2 accepted, rise⟩
  refine ⟨bound, _, done, rfl, listed, fun p hp => ⟨unmoved p, fun unbound => ?_⟩, covered, rises, ?_⟩
  · have here := moved.mem_inventory (List.mem_map_of_mem hp) unbound
    obtain ⟨q, hq, same⟩ := List.mem_map.1 here
    rwa [List.inj_on_of_nodup_map nodup hp (s.offer_subset order hq) same.symm]
  · intro still p hp
    by_contra covered
    obtain ⟨early, id, late, split, -, -, rise⟩ := rises p hp (UInt32.not_lt.1 covered)
    exact UInt32.not_le.2 rise (still early id late split)

end Session

/-- A game with an idol and a spring in stock. The spring brings in more mana than it costs. -/
def springText : String :=
  "starting_materials = [\"idol\", \"spring\"]\n" ++
  "[battle]\nbase_mask_mana = 3\n" ++
  "[[material]]\nid = \"idol\"\nname = \"Idol\"\nmana_cost = 5\n" ++
  "[[material]]\nid = \"spring\"\nname = \"Spring\"\nmana_cost = 1\n" ++
  "[[material.nodes]]\n[material.nodes.effect]\nkind = \"restore_mana\"\namount = 10\n"

/-- The spring is bound after the idol was refused, and then the mana covers the idol. -/
theorem exists_spring :
    ∃ c s bound t p, Content.parse springText = .ok c ∧ Session.Reachable c s ∧
      s.current.isSome = true ∧ s.autoBind = (.ok bound, t) ∧ bound = [.issued 1] ∧ t.mana = 12 ∧
      t.inventory.items = [p] ∧ p.manaCost = 5 := by
  let start (s : Session) := s.operate (.startMask "Fox")
  let after (s : Session) := Session.bindAffordable [.issued 0, .issued 1] s
  let answers (s : Session) := (s.inventory.items.map fun p => (p.id, p.remaining),
    (after s).1.toOption, (after s).2.mana, (after s).2.inventory.items.map (·.manaCost))
  obtain ⟨c, s, parsed, begun, same⟩ := Session.exists_of_text springText (answers ∘ start)
    ([(.issued 0, 1), (.issued 1, 1)], some [.issued 1], 12, [5]) (by decide +kernel)
  simp only [answers, Function.comp, Prod.mk.injEq] at same
  obtain ⟨stock, bound, mana, left⟩ := same
  have reached : Session.Reachable c (start s) := .operate (.new begun) _
  have making : (start s).current.isSome = true := s.startMask_making "Fox"
  obtain ⟨p, items, cost⟩ := List.map_eq_singleton_iff.1 left
  have order : (start s).inventory.idsByExpiry = [.issued 0, .issued 1] := by
    obtain ⟨idol, rest, items, idolHas, more⟩ := List.map_eq_cons_iff.1 stock
    obtain ⟨spring, springItems, springHas⟩ := List.map_eq_singleton_iff.1 more
    simp only [Prod.mk.injEq] at idolHas springHas
    rw [Inventory.idsByExpiry_of_sorted reached.live, Inventory.ids, items, springItems]
    · simp [idolHas.1, springHas.1]
    · rw [items, springItems]
      simp [idolHas.2, springHas.2]
  rcases answered : after (start s) with ⟨e | ids, t⟩
  · simp [answered, Except.toOption] at bound
  · rw [answered] at bound mana items
    refine ⟨c, start s, ids, t, p, parsed, reached, making, ?_, Option.some.inj bound, mana, items, cost⟩
    rw [Session.autoBind, order]
    exact answered

/-- The idol is left over although the mana covers it. -/
theorem spring_leaves_affordable :
    ∃ c s bound t, Content.parse springText = .ok c ∧ Session.Reachable c s ∧
      s.current.isSome = true ∧ s.autoBind = (.ok bound, t) ∧
      ∃ p ∈ t.inventory.items, p.manaCost ≤ t.mana := by
  obtain ⟨c, s, bound, t, p, parsed, reached, making, done, -, mana, items, cost⟩ := exists_spring
  refine ⟨c, s, bound, t, parsed, reached, making, done, p, by simp [items], ?_⟩
  rw [cost, mana]
  decide

/-- The mana has risen at the spring, whose turn was after the idol's. -/
theorem spring_raises_mana :
    ∃ c s bound t p early late, Content.parse springText = .ok c ∧ Session.Reachable c s ∧
      s.current.isSome = true ∧ s.autoBind = (.ok bound, t) ∧ p ∈ t.inventory.items ∧
      p.manaCost ≤ t.mana ∧ s.inventory.idsByExpiry = early ++ .issued 1 :: late ∧ p.id ∈ early ∧
      (s.offer early).mana < (s.offer (early ++ [.issued 1])).mana := by
  obtain ⟨c, s, ids, u, p, parsed, reached, making, answered, spring, mana, items, cost⟩ :=
    exists_spring
  obtain ⟨bound, t, done, -, -, -, -, rises, -⟩ := Session.autoBind_turns reached making
  obtain ⟨rfl, rfl⟩ : ids = bound ∧ u = t := by simpa [answered] using done
  have here : p ∈ u.inventory.items := by simp [items]
  have covered : p.manaCost ≤ u.mana := by
    rw [cost, mana]
    decide
  obtain ⟨early, id, late, split, turn, hid, rise⟩ := rises p here covered
  rw [spring, List.mem_singleton] at hid
  subst hid
  exact ⟨c, s, ids, u, p, early, late, parsed, reached, making, done, here, covered, split, turn, rise⟩

end Masquerade
