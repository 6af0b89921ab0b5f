import Masquerade.Proofs.Session.Affordable
import Masquerade.Proofs.Session.Roster

/-!
# Shelf life

What comes into stock is a copy of a material with the full shelf life, and it stays in the inventory as
it is while it is not bound, but that every end of a make phase takes one turn from it
(`Session.items_operate`). How many turns are left to a piece is therefore told by the ends of make phases
since it was stocked (`Session.Ages`), and it expires at the end of the phase with its number
(`Session.shelf_life_exact`).
-/

namespace Masquerade

/-! ## Copies with full shelf life -/

/-- How many make phases a copy of the material keeps in the inventory. -/
def Material.shelfLife (m : Material) : Nat := max 1 m.shelfLifeTurns.toNat

theorem toNat_max (x y : UInt32) : (max x y).toNat = max x.toNat y.toNat := by
  show (if x ≤ y then y else x).toNat = _
  rw [Nat.max_def, apply_ite UInt32.toNat]
  simp only [UInt32.le_iff_toNat_le]

theorem Material.remaining_instantiate (m : Material) (id : InstanceId) :
    (m.instantiate id).remaining.toNat = m.shelfLife := by
  show (max (max m.shelfLifeTurns 1) 1).toNat = max 1 m.shelfLifeTurns.toNat
  rw [toNat_max, toNat_max]
  show max (max m.shelfLifeTurns.toNat 1) 1 = _
  omega

theorem Material.remaining_of_copy {m : Material} {p : Piece} (copy : p = m.instantiate p.id) :
    p.remaining.toNat = m.shelfLife := by
  rw [copy]
  exact m.remaining_instantiate p.id

/-- The end of a make phase takes one turn from a piece that has one. -/
theorem Piece.remaining_aged {p : Piece} (live : p.isExpired = false) :
    p.aged.remaining.toNat + 1 = p.remaining.toNat := by
  have some : p.remaining ≠ 0 := of_decide_eq_false live
  have positive : 1 ≤ p.remaining.toNat :=
    Nat.one_le_iff_ne_zero.2 fun none => some (UInt32.toNat_inj.1 none)
  have least : 1 ≤ p.remaining := UInt32.le_iff_toNat_le.2 positive
  rw [aged, if_neg some]
  show (p.remaining - 1).toNat + 1 = _
  rw [UInt32.toNat_sub_of_le _ _ least]
  exact Nat.sub_add_cancel positive

theorem Piece.isExpired_iff (p : Piece) : p.isExpired = true ↔ p.remaining.toNat = 0 := by
  rw [isExpired, decide_eq_true_iff, ← UInt32.toNat_inj]
  rfl

/-- The piece is a copy of a material that the catalog has, as it was made. -/
def Catalog.Makes (c : Catalog) (p : Piece) : Prop :=
  ∃ m, c.get? p.materialId = some m ∧ p = m.instantiate p.id

/-- The piece is a copy of a material that the catalog has, and has some of its shelf life left. -/
def Catalog.Shelved (c : Catalog) (p : Piece) : Prop :=
  ∃ m, c.get? p.materialId = some m ∧ 1 ≤ p.remaining.toNat ∧ p.remaining.toNat ≤ m.shelfLife

theorem Catalog.Makes.shelved {c : Catalog} {p : Piece} (h : c.Makes p) : c.Shelved p := by
  obtain ⟨m, known, copy⟩ := h
  have full : p.remaining.toNat = m.shelfLife := Material.remaining_of_copy copy
  exact ⟨m, known, full ▸ Nat.le_max_left .., Nat.le_of_eq full⟩

/-- Whether an operation takes a turn of shelf life. -/
def Operation.endsMakePhase : Operation → Bool
  | .endMakePhase => true
  | _ => false

namespace Session

variable {s t u : Session} {stocked expired : List InstanceId}

/-! ## What comes into stock -/

/-- From one session to another the given pieces have come into stock, and of the others some may have
left it. No piece has been changed. -/
structure Stocks (s t : Session) (pieces : List Piece) : Prop where
  items : t.inventory.items ⊆ s.inventory.items ++ pieces
  arrived : pieces ⊆ t.inventory.items
  made : ∀ p ∈ pieces, s.catalog.Makes p
  catalog : t.catalog = s.catalog

namespace Stocks

variable {pieces more : List Piece}

theorem of_subset (items : t.inventory.items ⊆ s.inventory.items) (catalog : t.catalog = s.catalog) :
    s.Stocks t [] :=
  ⟨by simpa using items, by simp, by simp, catalog⟩

/-- What comes into stock later comes into stock. -/
theorem of_later (inventory : t.inventory = s.inventory) (catalog : t.catalog = s.catalog)
    (later : t.Stocks u pieces) : s.Stocks u pieces where
  items := inventory ▸ later.items
  arrived := later.arrived
  made := catalog ▸ later.made
  catalog := later.catalog.trans catalog

end Stocks

theorem stockAll_singleton (s : Session) (material : String) :
    (stockAll [material] s).2 = (s.stock material).2 := by
  rw [stockAll]
  split <;> simp_all [stockAll]

theorem stock_stocks (books : s.Balanced stocked expired) {material : String} {piece : Piece}
    (accepted : s.stock material = (.ok piece, t)) :
    t.inventory.items = s.inventory.items ++ [piece] ∧ s.catalog.Makes piece ∧
      t.catalog = s.catalog := by
  rw [stock, Catalog.instantiate] at accepted
  cases known : s.catalog.get? material with
  | none => simp [known] at accepted
  | some m =>
    simp only [known, Prod.mk.injEq, Except.ok.injEq] at accepted
    obtain ⟨rfl, rfl⟩ := accepted
    have named : m.id = material := by simpa using List.find?_some known
    refine ⟨congrArg Inventory.items (books.add_instantiate m), ⟨m, ?_, rfl⟩, rfl⟩
    rw [← known, ← named]
    rfl

/-- Stocking several materials adds pieces at the end, up to the first refusal. -/
theorem stockAll_stocks (materials : List String) (books : s.Balanced stocked expired) :
    ∃ pieces, (stockAll materials s).2.inventory.items = s.inventory.items ++ pieces ∧
      pieces.map (·.id) = supplied materials s ∧ (∀ p ∈ pieces, s.catalog.Makes p) ∧
      (stockAll materials s).2.catalog = s.catalog := by
  induction materials generalizing s stocked expired with
  | nil => exact ⟨[], by simp [stockAll], rfl, by simp, rfl⟩
  | cons material rest ih =>
    rw [stockAll, supplied]
    rcases first : s.stock material with ⟨e | piece, t⟩
    · rw [stock_refused first]
      exact ⟨[], by simp, rfl, by simp, rfl⟩
    · obtain ⟨items, made, same⟩ := stock_stocks books first
      obtain ⟨pieces, all, ids, others, catalog⟩ := ih (books.step (stock_carries books first))
      refine ⟨piece :: pieces, ?_, congrArg (piece.id :: ·) ids, ?_, ?_⟩
      · rw [items, List.append_assoc] at all
        dsimp only
        split <;> simp_all
      · rw [same] at others
        exact List.forall_mem_cons.2 ⟨made, others⟩
      · dsimp only
        split <;> simp_all

theorem settle_stocks (report : BattleReport) (books : s.Balanced stocked expired) :
    ∃ pieces, pieces.map (·.id) = s.rewarded report ∧ s.Stocks (s.settle report).2 pieces := by
  obtain ⟨pieces, items, ids, made, catalog⟩ :=
    stockAll_stocks (s.rewardsDue report) (books.step (s.settling_carries report))
  have stocks : s.Stocks (stockAll (s.rewardsDue report) (s.settling report)).2 pieces :=
    ⟨items ▸ List.Subset.refl _, items ▸ List.subset_append_right _ _, made, catalog⟩
  refine ⟨pieces, ids, ?_⟩
  rw [settle_eq]
  split
  · next e t refused => rwa [refused] at stocks
  · next answer t accepted =>
    rw [accepted] at stocks
    exact ⟨stocks.items, stocks.arrived, stocks.made, stocks.catalog⟩

/-- No operation but the end of a make phase changes a piece in stock. What it brings into stock are
copies with full shelf life. -/
theorem items_operate (books : s.Balanced stocked expired) {op : Operation}
    (other : op ≠ .endMakePhase) :
    ∃ pieces, pieces.map (·.id) = s.stockedBy op ∧ s.Stocks (s.operate op) pieces := by
  have catalog (op : Operation) : (s.operate op).catalog = s.catalog :=
    congrArg (·.2.1) (s.operate_game op)
  cases op with
  | startMask name =>
    refine ⟨[], rfl, .of_subset ?_ (catalog _)⟩
    rw [operate, startMask]
    split <;> exact List.Subset.refl _
  | stock material =>
    obtain ⟨pieces, items, ids, made, -⟩ := stockAll_stocks [material] books
    rw [stockAll_singleton] at items
    exact ⟨pieces, ids, items ▸ List.Subset.refl _, items ▸ List.subset_append_right _ _, made,
      catalog (.stock material)⟩
  | bindPiece id => exact ⟨[], rfl, .of_subset (s.bindPiece_subset id) (catalog _)⟩
  | autoBind =>
    refine ⟨[], rfl, .of_subset ?_ (catalog _)⟩
    exact bindAffordable_keeps (P := fun t => t.inventory.items ⊆ s.inventory.items)
      (fun t id h => List.Subset.trans (t.bindPiece_subset id) h) _ (List.Subset.refl _)
  | endMakePhase => exact absurd rfl other
  | nextEnemy =>
    refine ⟨[], rfl, .of_subset ?_ (catalog _)⟩
    rw [operate, nextEnemy]
    split <;> exact List.Subset.refl _
  | fight enemy =>
    refine ⟨[], rfl, .of_subset ?_ (catalog _)⟩
    rw [operate, s.fight_inventory enemy]
    exact List.Subset.refl _
  | settle report => exact settle_stocks report books
  | playRound enemy =>
    have fought := s.fight_carries enemy
    have same := s.fight_inventory enemy
    have game : (s.fight enemy).2.catalog = s.catalog := catalog (.fight enemy)
    rw [operate, playRound_snd, stockedBy]
    generalize s.fight enemy = reply at fought same game ⊢
    rcases reply with ⟨e | report, t⟩
    · exact ⟨[], rfl, .of_subset (same ▸ List.Subset.refl _) game⟩
    · obtain ⟨pieces, ids, stocks⟩ := settle_stocks report (books.step fought)
      exact ⟨pieces, ids, .of_later same game stocks⟩
  | commitBy commit => exact ⟨[], rfl, .of_subset (List.Subset.refl _) rfl⟩

/-! ## The end of a make phase -/

theorem mem_expired {q : Piece} :
    q ∈ s.endMakePhase.1 ↔ ∃ p ∈ s.inventory.items, p.aged = q ∧ q.isExpired = true := by
  simp only [endMakePhase, Inventory.endMakePhase, List.partition_eq_filter_filter, List.mem_filter,
    List.mem_map]
  constructor
  · rintro ⟨⟨p, hp, same⟩, spent⟩
    exact ⟨p, hp, same, spent⟩
  · rintro ⟨p, hp, same, spent⟩
    exact ⟨⟨p, hp, same⟩, spent⟩

/-! ## Counting down -/

/-- The piece is in the mask in the making or in a mask of the library. -/
def Bound (s : Session) (id : InstanceId) : Prop := id ∈ s.currentIds ++ s.shelves.flatten

instance (s : Session) (id : InstanceId) : Decidable (s.Bound id) :=
  inferInstanceAs (Decidable (_ ∈ _))

/-- A piece that came into stock with `life` turns of shelf life, after `ends` ends of make phases.
While it is in the inventory each of them has taken a turn, and it can have expired only if they have
taken all. -/
structure Ages (s : Session) (stocked expired : List InstanceId) (id : InstanceId) (material : String)
    (life ends : Nat) : Prop where
  books : s.Balanced stocked expired
  live : s.Live
  known : id ∈ stocked
  left (p : Piece) (hp : p ∈ s.inventory.items) (same : p.id = id) :
    p.materialId = material ∧ p.remaining.toNat + ends = life
  used (h : id ∈ expired) : life ≤ ends

namespace Ages

variable {id : InstanceId} {material : String} {life ends : Nat}

theorem operate (h : s.Ages stocked expired id material life ends) {op : Operation}
    (other : op ≠ .endMakePhase) :
    (s.operate op).Ages (stocked ++ s.stockedBy op) expired id material life ends := by
  have none : s.expiredBy op = [] := by
    cases op with
    | endMakePhase => exact absurd rfl other
    | startMask | stock | bindPiece | autoBind | nextEnemy | fight | settle | playRound | commitBy => rfl
  have books := h.books.step (operate_carries op h.books)
  rw [none, List.append_nil] at books
  refine ⟨books, operate_live h.live op, List.mem_append_left _ h.known, fun p hp same => ?_, h.used⟩
  obtain ⟨pieces, ids, stocks⟩ := items_operate h.books other
  rcases List.mem_append.1 (stocks.items hp) with old | new
  · exact h.left p old same
  · -- what comes into stock now has a number that is not known yet
    have arriving : id ∈ s.stockedBy op := by
      rw [← ids, ← same]
      exact List.mem_map_of_mem new
    exact absurd rfl ((List.nodup_append.1 books.nodup_stocked).2.2 id h.known id arriving)

theorem endMakePhase (h : s.Ages stocked expired id material life ends) :
    s.endMakePhase.2.Ages stocked (expired ++ s.endMakePhase.1.map (·.id)) id material life
      (ends + 1) := by
  have books := h.books.step s.endMakePhase_carries
  rw [List.append_nil] at books
  refine ⟨books, operate_live h.live .endMakePhase, h.known, fun q hq same => ?_, fun gone => ?_⟩
  · obtain ⟨p, hp, rfl, -⟩ := mem_endMakePhase hq
    obtain ⟨of, turns⟩ := h.left p hp same
    have taken := Piece.remaining_aged (h.live p hp)
    exact ⟨of, by omega⟩
  · rcases List.mem_append.1 gone with before | now
    · exact Nat.le_succ_of_le (h.used before)
    · obtain ⟨q, hq, rfl⟩ := List.mem_map.1 now
      obtain ⟨p, hp, rfl, spent⟩ := mem_expired.1 hq
      obtain ⟨-, turns⟩ := h.left p hp rfl
      have taken := Piece.remaining_aged (h.live p hp)
      rw [Piece.isExpired_iff] at spent
      omega

/-- The piece is in one place, or it has expired. -/
theorem accounts (h : s.Ages stocked expired id material life ends) :
    s.inventory.ids.count id + (s.currentIds ++ s.shelves.flatten).count id + expired.count id = 1 := by
  have all := h.books.accounts id
  rw [List.count_eq_one_of_mem h.books.nodup_stocked h.known, copies] at all
  rw [List.count_append]
  omega

/-- While it is not bound, the piece is in the inventory exactly as long as it has shelf life. -/
theorem mem_inventory (h : s.Ages stocked expired id material life ends) (unbound : ¬ s.Bound id) :
    id ∈ s.inventory.ids ↔ ends < life := by
  have places := h.accounts
  rw [List.count_eq_zero_of_not_mem unbound, Nat.add_zero] at places
  constructor
  · intro here
    obtain ⟨p, hp, same⟩ := List.mem_map.1 here
    obtain ⟨-, turns⟩ := h.left p hp same
    have taken := Piece.remaining_aged (h.live p hp)
    omega
  · intro early
    have still : id ∉ expired := fun gone => Nat.not_le.2 early (h.used gone)
    rw [List.count_eq_zero_of_not_mem still, Nat.add_zero] at places
    exact List.count_pos_iff.1 (by omega)

/-- The end of the make phase that takes the last turn answers the piece as expired, and no other does.
-/
theorem count_expired (h : s.Ages stocked expired id material life ends) :
    (s.endMakePhase.1.map (·.id)).count id = if ¬ s.Bound id ∧ ends + 1 = life then 1 else 0 := by
  have before := h.accounts
  have after := h.endMakePhase.accounts
  have masks : s.endMakePhase.2.currentIds ++ s.endMakePhase.2.shelves.flatten =
      s.currentIds ++ s.shelves.flatten := rfl
  have gone : (expired ++ s.endMakePhase.1.map (·.id)).count id =
      expired.count id + (s.endMakePhase.1.map (·.id)).count id := List.count_append
  rw [masks, gone] at after
  by_cases bound : s.Bound id
  · have one : 0 < (s.currentIds ++ s.shelves.flatten).count id := List.count_pos_iff.2 bound
    rw [if_neg fun h => h.1 bound]
    omega
  · have zero : (s.currentIds ++ s.shelves.flatten).count id = 0 := List.count_eq_zero_of_not_mem bound
    have here := List.count_pos_iff.trans (h.mem_inventory bound)
    have there := List.count_pos_iff.trans (h.endMakePhase.mem_inventory bound)
    by_cases last : ends + 1 = life
    · rw [if_pos ⟨bound, last⟩]
      omega
    · rw [if_neg fun h => last h.2]
      omega

end Ages

/-! ## Arrivals -/

/-- The piece is in stock since the session began, or since the operation that led to it. -/
inductive Arrived (c : Content) : Session → InstanceId → Prop
  | begun {s : Session} {id : InstanceId} (new : Session.new c = .ok s) (here : id ∈ s.inventory.ids) :
      Arrived c s id
  | stocked {s : Session} {op : Operation} {id : InstanceId} (reached : Reachable c s)
      (arriving : id ∈ s.stockedBy op) : Arrived c (s.operate op) id

variable {c : Content} {id : InstanceId}

/-- A new session has copies with full shelf life in stock, and nothing else. -/
theorem new_made (new : Session.new c = .ok s) (p : Piece) (hp : p ∈ s.inventory.items) :
    c.catalog.Makes p := by
  obtain ⟨pieces, items, -, made, -⟩ := stockAll_stocks c.startingMaterials (unstocked_balanced c)
  rw [Session.new] at new
  split at new
  · cases new
  · next accepted =>
    cases new
    rw [accepted] at items
    rw [items] at hp
    exact made p (by simpa [unstocked, Inventory.empty] using hp)

theorem exists_ages_of_made {stocked expired : List InstanceId} (books : s.Balanced stocked expired)
    (live : s.Live) {p : Piece} (here : p ∈ s.inventory.items)
    (made : c.catalog.Makes p) :
    ∃ m, c.catalog.get? p.materialId = some m ∧
      s.Ages stocked expired p.id p.materialId m.shelfLife 0 := by
  obtain ⟨m, known, copy⟩ := made
  have ids : p.id ∈ s.inventory.ids := List.mem_map_of_mem here
  refine ⟨m, known, books, live, ?_, fun q hq same => ?_, fun gone => ?_⟩
  · exact books.perm.subset (by simp [ids])
  · obtain rfl := List.inj_on_of_nodup_map books.nodup_inventory hq here same
    exact ⟨rfl, Material.remaining_of_copy copy⟩
  · -- what is in the inventory has not expired
    have all := books.perm.nodup_iff.2 books.nodup_stocked
    simp only [List.append_assoc] at all
    exact absurd rfl ((List.nodup_append.1 all).2.2 p.id ids p.id (by simp [gone]))

/-- A piece that arrives has the full shelf life of its material. -/
theorem Arrived.exists_ages (h : Arrived c s id) :
    ∃ p ∈ s.inventory.items, p.id = id ∧ ∃ m stocked expired,
      c.catalog.get? p.materialId = some m ∧ s.Ages stocked expired id p.materialId m.shelfLife 0 := by
  cases h with
  | begun new here =>
    obtain ⟨p, hp, rfl⟩ := List.mem_map.1 here
    have reached : Reachable c s := .new new
    have books := new_balanced new
    obtain ⟨m, known, ages⟩ := exists_ages_of_made books reached.live hp (new_made new p hp)
    exact ⟨p, hp, rfl, m, _, _, known, ages⟩
  | @stocked s op id reached arriving =>
    obtain ⟨stocked, expired, books⟩ := reached.balanced
    have other : op ≠ .endMakePhase := by
      rintro rfl
      cases arriving
    obtain ⟨pieces, ids, stocks⟩ := items_operate books other
    rw [← ids] at arriving
    obtain ⟨p, hp, rfl⟩ := List.mem_map.1 arriving
    have made := stocks.made p hp
    rw [reached.catalog_eq] at made
    obtain ⟨m, known, ages⟩ := exists_ages_of_made (books.step (operate_carries op books))
      (reached.operate op).live (stocks.arrived hp) made
    exact ⟨p, stocks.arrived hp, rfl, m, _, _, known, ages⟩

/-- Operations one after the other take a turn at every end of a make phase. -/
theorem Ages.operateAll {material : String} {life ends : Nat}
    (h : s.Ages stocked expired id material life ends) (ops : List Operation) :
    ∃ stocked expired, (s.operateAll ops).Ages stocked expired id material life
      (ends + ops.countP Operation.endsMakePhase) := by
  induction ops generalizing s stocked expired ends with
  | nil => exact ⟨stocked, expired, h⟩
  | cons op rest ih =>
    by_cases other : op = .endMakePhase
    · subst other
      obtain ⟨stocked, expired, later⟩ := ih h.endMakePhase
      rw [List.countP_cons_of_pos rfl, Nat.add_comm (rest.countP _), ← Nat.add_assoc]
      exact ⟨stocked, expired, later⟩
    · obtain ⟨stocked, expired, later⟩ := ih (h.operate other)
      have silent : ¬ op.endsMakePhase = true := by
        cases op <;> simp_all [Operation.endsMakePhase]
      rw [List.countP_cons_of_neg silent]
      exact ⟨stocked, expired, later⟩

/-! ## Everything in stock -/

theorem Reachable.shelved (reached : Reachable c s) :
    ∀ p ∈ s.inventory.items, c.catalog.Shelved p := by
  induction reached with
  | new begun => exact fun p hp => (new_made begun p hp).shelved
  | @operate s before op ih =>
    obtain ⟨stocked, expired, books⟩ := before.balanced
    by_cases other : op = .endMakePhase
    · subst other
      intro q hq
      obtain ⟨p, hp, rfl, left⟩ := mem_endMakePhase hq
      obtain ⟨m, known, -, bound⟩ := ih p hp
      have taken := Piece.remaining_aged (before.live p hp)
      have some : ¬ p.aged.remaining.toNat = 0 := by
        rw [← Piece.isExpired_iff, left]
        exact Bool.false_ne_true
      exact ⟨m, known, by omega, by omega⟩
    · obtain ⟨pieces, -, stocks⟩ := items_operate books other
      intro p hp
      rcases List.mem_append.1 (stocks.items hp) with old | new
      · exact ih p old
      · have made := stocks.made p new
        rw [before.catalog_eq] at made
        exact made.shelved

/-- The pieces in stock are listed in the order in which they expire. -/
theorem exists_order (live : s.Live) :
    ∃ order : List Piece, order.Perm s.inventory.items ∧
      order.Pairwise (fun p q => p.remaining ≤ q.remaining) ∧
      s.inventory.idsByExpiry = order.map (·.id) := by
  let sooner (p q : Piece) : Bool := p.remaining ≤ q.remaining
  have sorted : (s.inventory.items.mergeSort sooner).Pairwise (sooner · ·) := by
    refine List.pairwise_mergeSort (fun p q r => ?_) (fun p q => ?_) s.inventory.items
    · simpa [sooner] using UInt32.le_trans
    · simpa [sooner] using UInt32.le_total p.remaining q.remaining
  exact ⟨_, List.mergeSort_perm s.inventory.items sooner, by simpa [sooner] using sorted,
    Inventory.idsByExpiry_of_live live⟩

/-- Shelf life is exact. A piece that has come into stock is a copy of some material, and whatever is
done from then on, while it is not bound it is in the inventory with the shelf life of the material less
the ends of make phases since then, until none is left; it is answered as expired by the end of the make
phase that takes the last turn, once, and by no other. No other operation changes a piece in stock.
Every piece in stock has at least one turn left and at most the shelf life of its material, so that each
is listed once in the order of expiry. -/
theorem shelf_life_exact (c : Content) :
    (∀ (s : Session) (id : InstanceId), Arrived c s id →
      ∃ p ∈ s.inventory.items, p.id = id ∧ ∃ m, c.catalog.get? p.materialId = some m ∧
      ∀ ops : List Operation,
        let life := max 1 m.shelfLifeTurns.toNat
        let t := s.operateAll ops
        let ends := ops.countP Operation.endsMakePhase
        (¬ t.Bound id →
          (ends < life → ∃ q ∈ t.inventory.items, q.id = id ∧ q.materialId = p.materialId ∧
            q.remaining.toNat = life - ends) ∧
          (life ≤ ends → id ∉ t.inventory.ids)) ∧
        (t.endMakePhase.1.map (·.id)).count id = if ¬ t.Bound id ∧ ends + 1 = life then 1 else 0) ∧
    ∀ s : Session, Reachable c s →
      (∀ op ≠ .endMakePhase, ∀ p ∈ (s.operate op).inventory.items,
        p ∈ s.inventory.items ∨ p.id ∈ s.stockedBy op) ∧
      (∀ p ∈ s.inventory.items, ∃ m, c.catalog.get? p.materialId = some m ∧
        1 ≤ p.remaining.toNat ∧ p.remaining.toNat ≤ max 1 m.shelfLifeTurns.toNat) ∧
      s.inventory.idsByExpiry.Nodup ∧
      ∃ order : List Piece, order.Perm s.inventory.items ∧
        order.Pairwise (fun p q => p.remaining ≤ q.remaining) ∧
        s.inventory.idsByExpiry = order.map (·.id) := by
  refine ⟨fun s id arrived => ?_, fun s reached => ⟨fun op other p hp => ?_, reached.shelved, ?_,
    exists_order reached.live⟩⟩
  · obtain ⟨p, hp, same, m, _, _, known, ages⟩ := arrived.exists_ages
    refine ⟨p, hp, same, m, known, fun ops => ?_⟩
    intro life t ends
    obtain ⟨_, _, later⟩ := ages.operateAll ops
    rw [Nat.zero_add] at later
    refine ⟨fun unbound => ⟨fun early => ?_, fun late here => ?_⟩, later.count_expired⟩
    · obtain ⟨q, hq, this⟩ := List.mem_map.1 ((later.mem_inventory unbound).2 early)
      obtain ⟨of, turns⟩ := later.left q hq this
      exact ⟨q, hq, this, of, Nat.eq_sub_of_add_eq turns⟩
    · exact Nat.not_le.2 ((later.mem_inventory unbound).1 here) late
  · obtain ⟨_, _, books⟩ := reached.balanced
    obtain ⟨pieces, ids, stocks⟩ := items_operate books other
    refine (List.mem_append.1 (stocks.items hp)).imp_right fun new => ?_
    rw [← ids]
    exact List.mem_map_of_mem new
  · obtain ⟨_, _, books⟩ := reached.balanced
    exact (Inventory.idsByExpiry_perm reached.live).nodup_iff.2 books.nodup_inventory

end Session

/-- After a round the pearl, which was refused to the mask, has one turn left, which the next make phase
takes. The fang that was bound never expires. -/
theorem larder_ages :
    ∃ s, Session.new larder = .ok s ∧
      Session.Arrived larder s (.issued 0) ∧ Session.Arrived larder s (.issued 1) ∧
      let t := s.operateAll larderRound
      ¬ t.Bound (.issued 0) ∧ t.Bound (.issued 1) ∧
      (∃ q ∈ t.inventory.items, q.id = .issued 0 ∧ q.materialId = "pearl" ∧ q.remaining.toNat = 1) ∧
      (t.endMakePhase.1.map (·.id)).count (.issued 0) = 1 ∧
      (t.endMakePhase.1.map (·.id)).count (.issued 1) = 0 ∧
      t.inventory.idsByExpiry.Nodup := by
  have read : (Session.new larder).toOption.map (fun s =>
      let t := s.operateAll larderRound
      (s.inventory.items.map (fun p => (p.id, p.materialId)), decide (t.Bound (.issued 0)),
        decide (t.Bound (.issued 1)), larderRound.countP Operation.endsMakePhase)) =
      some ([(.issued 0, "pearl"), (.issued 1, "fang"), (.issued 2, "fang")], false, true, 1) := by
    decide +kernel
  obtain ⟨s, begun⟩ : ∃ s, Session.new larder = .ok s := ⟨_, rfl⟩
  rw [begun] at read
  simp only [Except.toOption, Option.map_some, Option.some.injEq, Prod.mk.injEq,
    decide_eq_false_iff_not, decide_eq_true_iff] at read
  obtain ⟨items, pearlFree, fangBound, once⟩ := read
  have ids : s.inventory.ids = [.issued 0, .issued 1, .issued 2] := by
    have all := congrArg (List.map Prod.fst) items
    rwa [List.map_map] at all
  have pearlHere : Session.Arrived larder s (.issued 0) := .begun begun (by simp [ids])
  have fangHere : Session.Arrived larder s (.issued 1) := .begun begun (by simp [ids])
  obtain ⟨lives, always⟩ := Session.shelf_life_exact larder
  obtain ⟨p, hp, same, m, known, pearl⟩ := lives s (.issued 0) pearlHere
  obtain ⟨_, _, _, _, _, fang⟩ := lives s (.issued 1) fangHere
  have isPearl : p.materialId = "pearl" := by
    have here : (p.id, p.materialId) ∈ s.inventory.items.map fun p => (p.id, p.materialId) :=
      List.mem_map_of_mem hp
    rw [items, same] at here
    simpa using here
  have turns : m.shelfLifeTurns = 2 := by
    have listed : (larder.catalog.get? p.materialId).map (·.shelfLifeTurns) = some 2 := by
      rw [isPearl]
      rfl
    rw [known] at listed
    exact Option.some.inj listed
  obtain ⟨stays, expires⟩ := pearl larderRound
  rw [once, turns] at stays expires
  obtain ⟨q, hq, number, material, left⟩ := (stays pearlFree).1 (by decide)
  have reached : Session.Reachable larder (s.operateAll larderRound) :=
    (Session.Reachable.new begun).operateAll larderRound
  refine ⟨s, begun, pearlHere, fangHere, pearlFree, fangBound,
    ⟨q, hq, number, material.trans isPearl, left⟩, ?_, ?_, (always _ reached).2.2.1⟩
  · rw [expires, if_pos ⟨pearlFree, rfl⟩]
  · rw [(fang larderRound).2, if_neg fun h => h.1 fangBound]

end Masquerade
