import Masquerade.Proofs.Session.Shelf

/-!
# The ledger of pieces

A piece is in the inventory, in the mask in the making or in a mask of the library, or it has expired.
Every operation carries pieces from place to place: together with those that it stocks, the pieces held
before are those held after and those that expire (`Session.Carries`, with one lemma for each operation
and `Session.operate_carries` for all of them). Serial numbers make the pieces that come
in differ from all that were there before, so the books of a session balance after any operations
(`Ledger.balances`).
-/

namespace Masquerade

/-! ## Forests given back -/

namespace Mask

theorem ids_takeForests (mask : Mask) (forests : List Forest) :
    (mask.takeForests forests).1.ids = mask.ids := by
  obtain ⟨name, mana, pieces⟩ := mask
  simp only [ids, takeForests]
  induction pieces generalizing forests with
  | nil => simp
  | cons p pieces ih =>
    cases forests with
    | nil => simp
    | cons F forests => simpa using ih forests

theorem ids_uncounted (mask : Mask) : mask.uncounted.ids = mask.ids := by
  simp [ids, uncounted, Piece.uncounted]

end Mask

theorem ids_masksTakeForests (masks : List Mask) (forests : List Forest) :
    (masksTakeForests masks forests).1.map Mask.ids = masks.map Mask.ids := by
  induction masks generalizing forests with
  | nil => rfl
  | cons mask masks ih => exact congrArg₂ List.cons (mask.ids_takeForests forests) (ih _)

namespace Session

/-! ## What comes and goes -/

/-- The identities of the pieces that come into stock when several materials are stocked, up to the first
that is refused. -/
def supplied : List String → Session → List InstanceId
  | [], _ => []
  | material :: rest, s =>
    match s.stock material with
    | (.error _, _) => []
    | (.ok piece, s) => piece.id :: supplied rest s

/-- The identities of the rewards that settling a battle brings into stock. -/
def rewarded (s : Session) (report : BattleReport) : List InstanceId :=
  supplied (s.rewardsDue report) (s.settling report)

/-- The identities of the pieces that an operation brings into stock. -/
def stockedBy (s : Session) : Operation → List InstanceId
  | .stock material => supplied [material] s
  | .settle report => s.rewarded report
  | .playRound enemy =>
    match s.fight enemy with
    | (.error _, _) => []
    | (.ok report, t) => t.rewarded report
  | _ => []

/-- The identities of the pieces that an operation answers as expired. -/
def expiredBy (s : Session) : Operation → List InstanceId
  | .endMakePhase => s.endMakePhase.1.map (·.id)
  | _ => []

/-- The identities of the pieces in each mask of the library. -/
def shelves (s : Session) : List (List InstanceId) := s.library.map Mask.ids

/-- How many of the pieces that a session holds have the given identity. -/
def copies (s : Session) (id : InstanceId) : Nat :=
  s.inventory.ids.count id + s.currentIds.count id + s.shelves.flatten.count id

/-! ## Carrying pieces -/

/-- From one session to another pieces come in and go, no piece gets lost in between, and no piece comes
into or out of a mask of the library. What comes in has the serial numbers that are next. -/
structure Carries (s t : Session) (arrived gone : List InstanceId) : Prop where
  copies (id : InstanceId) : s.copies id + arrived.count id = t.copies id + gone.count id
  serials : arrived = (List.range' s.issued arrived.length).map .issued
  issued : t.issued = s.issued + arrived.length
  shelves : s.shelves <+: t.shelves

/-- The books of a session: what was ever stocked is what the session holds and what has expired, and
serial numbers were given in turn. -/
structure Balanced (s : Session) (stocked expired : List InstanceId) : Prop where
  accounts (id : InstanceId) : s.copies id + expired.count id = stocked.count id
  serials : stocked = (List.range s.issued).map .issued

section

variable {s t u : Session} {arrived gone stocked expired : List InstanceId}

namespace Balanced

theorem nodup_stocked (h : s.Balanced stocked expired) : stocked.Nodup := by
  rw [h.serials]
  exact List.nodup_range.map fun _ _ => InstanceId.issued.inj

theorem perm (h : s.Balanced stocked expired) :
    (s.inventory.ids ++ s.currentIds ++ s.shelves.flatten ++ expired).Perm stocked := by
  rw [List.perm_iff_count]
  intro id
  rw [List.count_append, List.count_append, List.count_append]
  exact h.accounts id

theorem nodup_inventory (h : s.Balanced stocked expired) : s.inventory.ids.Nodup := by
  have all := h.perm.nodup_iff.2 h.nodup_stocked
  simp only [List.append_assoc] at all
  exact (List.nodup_append.1 all).1

/-- The serial number that is next is on no piece yet. -/
theorem fresh (h : s.Balanced stocked expired) : .issued s.issued ∉ s.inventory.ids := by
  intro here
  have known : InstanceId.issued s.issued ∈ stocked := h.perm.subset (by simp [here])
  simp [h.serials] at known

/-- A copy of a material that is issued next comes to stand at the end of the inventory. -/
theorem add_instantiate (h : s.Balanced stocked expired) (m : Material) :
    s.inventory.add (m.instantiate (.issued s.issued)) =
      ⟨s.inventory.items ++ [m.instantiate (.issued s.issued)]⟩ :=
  Inventory.putBack_of_absent h.fresh

theorem step (h : s.Balanced stocked expired) (carried : s.Carries t arrived gone) :
    t.Balanced (stocked ++ arrived) (expired ++ gone) where
  accounts id := by
    have before := h.accounts id
    have between := carried.copies id
    rw [List.count_append, List.count_append]
    omega
  serials := by
    rw [carried.issued, List.range_add, List.map_append, ← h.serials, ← List.range'_eq_map_range,
      ← carried.serials]

end Balanced

namespace Carries

/-- Pieces may change their places without any coming or going. -/
theorem rearranged (copies : ∀ id, s.copies id = t.copies id) (issued : t.issued = s.issued)
    (shelves : s.shelves <+: t.shelves) : s.Carries t [] [] where
  copies := copies
  serials := rfl
  issued := issued
  shelves := shelves

theorem of_same (inventory : t.inventory = s.inventory) (current : t.currentIds = s.currentIds)
    (shelves : t.shelves = s.shelves) (issued : t.issued = s.issued) : s.Carries t [] [] := by
  refine .rearranged (fun id => ?_) issued (shelves ▸ List.prefix_rfl)
  rw [Session.copies, Session.copies, inventory, current, shelves]

theorem refl (s : Session) : s.Carries s [] [] := .of_same rfl rfl rfl rfl

theorem trans {more later : List InstanceId} (h : s.Carries t arrived gone)
    (h' : t.Carries u more later) : s.Carries u (arrived ++ more) (gone ++ later) where
  copies id := by
    have first := h.copies id
    have second := h'.copies id
    rw [List.count_append, List.count_append]
    omega
  serials := by
    rw [List.length_append, ← List.range'_append_1, List.map_append, ← h.serials, ← h.issued,
      ← h'.serials]
  issued := by rw [h'.issued, h.issued, List.length_append, Nat.add_assoc]
  shelves := h.shelves.trans h'.shelves

theorem trans_rearranged (h : s.Carries t arrived gone) (h' : t.Carries u [] []) :
    s.Carries u arrived gone := by
  have both := h.trans h'
  rwa [List.append_nil, List.append_nil] at both

end Carries

theorem Moved.carries {ids : List InstanceId} (h : s.Moved t ids) : s.Carries t [] [] := by
  have shelves : t.shelves = s.shelves := by rw [Session.shelves, Session.shelves, h.library]
  refine .rearranged (fun id => ?_) h.issued (shelves ▸ List.prefix_rfl)
  have moved := h.inventory.count_eq id
  rw [List.count_append] at moved
  rw [copies, copies, shelves, h.currentIds, List.count_append]
  omega

/-! ## Operations carry pieces -/

theorem stock_carries (books : s.Balanced stocked expired) {material : String} {piece : Piece}
    (accepted : s.stock material = (.ok piece, t)) : s.Carries t [piece.id] [] := by
  rw [stock, Catalog.instantiate] at accepted
  cases known : s.catalog.get? material with
  | none => simp [known] at accepted
  | some m =>
    simp only [known, Prod.mk.injEq, Except.ok.injEq] at accepted
    obtain ⟨rfl, rfl⟩ := accepted
    refine ⟨fun id => ?_, rfl, rfl, List.prefix_rfl⟩
    -- a piece whose number were in stock would be dropped
    have added := Inventory.ids_add (p := m.instantiate (.issued s.issued)) books.fresh
    rw [copies, copies, added, List.count_append]
    show _ = _ + s.currentIds.count id + s.shelves.flatten.count id
    omega

/-- Stocking several materials carries in what comes before the first refusal, and nothing else. -/
theorem stockAll_carries (materials : List String) (books : s.Balanced stocked expired) :
    s.Carries (stockAll materials s).2 (supplied materials s) [] := by
  induction materials generalizing s stocked expired with
  | nil => exact .refl s
  | cons material rest ih =>
    rw [stockAll, supplied]
    rcases first : s.stock material with ⟨e | piece, t⟩
    · rw [stock_refused first]
      exact .refl s
    · have arrival := stock_carries books first
      have later := arrival.trans (ih (books.step arrival))
      dsimp only
      split <;> simp_all

theorem endMakePhase_carries (s : Session) :
    s.Carries s.endMakePhase.2 [] (s.endMakePhase.1.map (·.id)) where
  copies id := by
    have divided := s.inventory.ids_endMakePhase.count_eq id
    rw [List.count_append] at divided
    show s.inventory.ids.count id + s.currentIds.count id + s.shelves.flatten.count id =
      s.inventory.endMakePhase.2.ids.count id + s.currentIds.count id + s.shelves.flatten.count id +
        (s.inventory.endMakePhase.1.map (·.id)).count id
    omega
  serials := rfl
  issued := rfl
  shelves := List.prefix_rfl

theorem currentIds_unfought (s : Session) : s.unfought.currentIds = s.currentIds := by
  cases hs : s.current <;> simp [currentIds, unfought, hs, Mask.ids_uncounted]

theorem shelves_unfought (s : Session) : s.unfought.shelves = s.shelves := by
  simp [shelves, unfought, Mask.ids_uncounted]

theorem fight_carries (s : Session) (enemy : String) : s.Carries (s.fight enemy).2 [] [] := by
  have same := s.unfought_fight enemy
  refine .of_same (congrArg Session.inventory same :) ?_ ?_ (congrArg Session.issued same :)
  · rw [← currentIds_unfought, same, currentIds_unfought]
  · rw [← shelves_unfought, same, shelves_unfought]

/-- Filing the mask in the making adds it to the library as it is. -/
theorem fileMask_carries (s : Session) : s.Carries s.fileMask [] [] := by
  have filed : s.fileMask.shelves = s.shelves ++ s.current.toList.map Mask.ids :=
    List.map_append
  refine .rearranged (fun id => ?_) rfl (filed ▸ List.prefix_append ..)
  rw [copies, copies, filed, List.flatten_append, List.count_append, ← List.flatMap_def]
  show _ = s.inventory.ids.count id + 0 + (_ + s.currentIds.count id)
  omega

theorem settling_carries (s : Session) (report : BattleReport) :
    s.Carries (s.settling report) [] [] :=
  s.fileMask_carries.trans <| .of_same rfl rfl (ids_masksTakeForests _ _) rfl

theorem settle_carries (report : BattleReport) (books : s.Balanced stocked expired) :
    s.Carries (s.settle report).2 (s.rewarded report) [] := by
  have settling := s.settling_carries report
  have stocking := stockAll_carries (s.rewardsDue report) (books.step settling)
  have all := settling.trans stocking
  rw [settle_eq]
  split
  · next e t refused => rwa [refused] at all
  · next pieces t accepted =>
    rw [accepted] at all
    exact all.trans_rearranged (.of_same rfl rfl rfl rfl)

/-- Every operation carries in what it stocks and carries out what it answers as expired. -/
theorem operate_carries (op : Operation) (books : s.Balanced stocked expired) :
    s.Carries (s.operate op) (s.stockedBy op) (s.expiredBy op) := by
  cases op with
  | startMask name =>
    rw [operate, startMask]
    split
    · exact .refl s
    · next free =>
      have none : s.current = none := by simpa using free
      exact .of_same rfl (by simp [currentIds, none, Mask.new, Mask.ids]) rfl rfl
  | stock material =>
    have stocking := stockAll_carries [material] books
    rw [operate]
    rw [stockAll] at stocking
    split at stocking <;> simp_all [stockAll, stockedBy, expiredBy]
  | bindPiece id => exact (bindPiece_moved books.nodup_inventory id).carries
  | autoBind =>
    rw [operate]
    obtain ⟨bound, t, done, moved, -⟩ | ⟨-, refused⟩ := autoBind_moved books.nodup_inventory
    · rw [done]
      exact moved.carries
    · rw [refused]
      exact .refl s
  | endMakePhase => exact s.endMakePhase_carries
  | nextEnemy =>
    rw [operate, nextEnemy]
    split <;> exact .of_same rfl rfl rfl rfl
  | fight enemy => exact s.fight_carries enemy
  | settle report => exact settle_carries report books
  | playRound enemy =>
    have fought := s.fight_carries enemy
    rw [operate, playRound_snd, stockedBy]
    generalize s.fight enemy = reply at fought ⊢
    rcases reply with ⟨e | report, t⟩
    · exact fought
    · exact fought.trans (settle_carries report (books.step fought))
  | commitBy commit => exact .of_same rfl rfl rfl rfl

end

/-! ## Balanced books -/

theorem unstocked_balanced (c : Content) : (unstocked c).Balanced [] [] :=
  ⟨fun _ => rfl, rfl⟩

theorem new_balanced {c : Content} {s : Session} (begun : Session.new c = .ok s) :
    s.Balanced (supplied c.startingMaterials (unstocked c)) [] := by
  have books := unstocked_balanced c
  have stocking := stockAll_carries c.startingMaterials books
  rw [Session.new] at begun
  split at begun
  · cases begun
  · next accepted =>
    cases begun
    rw [accepted] at stocking
    exact books.step stocking

theorem Reachable.balanced {c : Content} {s : Session} (h : Reachable c s) :
    ∃ stocked expired, s.Balanced stocked expired := by
  induction h with
  | new begun => exact ⟨_, _, new_balanced begun⟩
  | operate before op ih =>
    obtain ⟨stocked, expired, books⟩ := ih
    exact ⟨_, _, books.step (operate_carries op books)⟩

end Session

/-! ## Keeping a ledger -/

/-- A session with all pieces that were ever stocked in it and all that have expired. -/
structure Ledger where
  session : Session
  stocked : List InstanceId
  expired : List InstanceId

namespace Ledger

def opened (c : Content) (s : Session) : Ledger :=
  ⟨s, Session.supplied c.startingMaterials (Session.unstocked c), []⟩

/-- Writes down what an operation stocks and what it answers as expired. -/
def operate (l : Ledger) (op : Operation) : Ledger where
  session := l.session.operate op
  stocked := l.stocked ++ l.session.stockedBy op
  expired := l.expired ++ l.session.expiredBy op

def operateAll (l : Ledger) (ops : List Operation) : Ledger := ops.foldl operate l

theorem operateAll_balanced {l : Ledger} (books : l.session.Balanced l.stocked l.expired)
    (ops : List Operation) :
    (l.operateAll ops).session.Balanced (l.operateAll ops).stocked (l.operateAll ops).expired := by
  induction ops generalizing l with
  | nil => exact books
  | cons op ops ih => exact ih (books.step (Session.operate_carries op books))

/-- Pieces are neither lost nor doubled. After any operations on a new session, refused ones included, the
pieces in the inventory, in the mask in the making, in the masks of the library and among those that
have expired are all different, and they are the pieces that were ever stocked. Binding whatever the mana
covers then answers the pieces that move into the mask, in the order in which it has them, or it is
refused and nothing has changed; and no further operation changes the pieces of a mask in the library. -/
theorem balances {c : Content} {s : Session} (begun : Session.new c = .ok s)
    (ops : List Operation) :
    let l := (opened c s).operateAll ops
    let t := l.session
    let places := t.inventory.ids ++ t.currentIds ++ t.library.flatMap Mask.ids ++ l.expired
    places.Nodup ∧ places.Perm l.stocked ∧
      ((∃ bound u, t.autoBind = (.ok bound, u) ∧ t.Moved u bound) ∨
        ∃ e, t.autoBind = (.error e, t)) ∧
      ∀ op, t.library.map Mask.ids <+: (t.operate op).library.map Mask.ids := by
  intro l t places
  have books : t.Balanced l.stocked l.expired := operateAll_balanced (Session.new_balanced begun) ops
  refine ⟨books.perm.nodup_iff.2 books.nodup_stocked, books.perm, ?_, fun op => ?_⟩
  · obtain ⟨bound, u, done, moved, -⟩ | ⟨-, refused⟩ :=
      Session.autoBind_moved books.nodup_inventory
    · exact .inl ⟨bound, u, done, moved⟩
    · exact .inr ⟨_, refused⟩
  · exact (Session.operate_carries op books).shelves

end Ledger

/-- A game with two materials and an enemy that gives one of them. -/
def larder : Content where
  ruleset := { critEnabled := false, tickSecs := 1, maxTicks := 3, baseMaskMana := 3 }
  player := .new "Hero" { Stats.starting with speedRate := 10 }
  catalog := ⟨[⟨"pearl", "Pearl", 4, .rare, 2, .empty "Pearl"⟩,
    ⟨"fang", "Fang", 2, .common, 1, .empty "Fang"⟩]⟩
  foes := [⟨{ name := "Slime", maxHp := 5, speedRate := 0 }, ["pearl"]⟩]
  startingMaterials := ["pearl", "fang", "fang"]

/-- A round in which binding the pearl is refused. -/
def larderRound : List Operation :=
  [.startMask "Fox", .bindPiece (.issued 0), .bindPiece (.issued 1), .endMakePhase,
    .playRound "Slime", .stock "fang"]

/-- After the round one fang is in the library, the other has expired, and the pearl, the pearl that was
won and the new fang are in stock. -/
theorem larder_balances :
    ∃ s, Session.new larder = .ok s ∧
      let l := (Ledger.opened larder s).operateAll larderRound
      let t := l.session
      let places := t.inventory.ids ++ t.currentIds ++ t.library.flatMap Mask.ids ++ l.expired
      places.Nodup ∧ places.Perm l.stocked ∧
        l.stocked = [0, 1, 2, 3, 4].map .issued ∧ t.inventory.ids = [0, 3, 4].map .issued ∧
        t.library.map Mask.ids = [[.issued 1]] ∧ l.expired = [.issued 2] := by
  have start : ∃ s, Session.new larder = .ok s := ⟨_, rfl⟩
  obtain ⟨s, begun⟩ := start
  have books : (Session.new larder).toOption.map (fun s =>
      let l := (Ledger.opened larder s).operateAll larderRound
      (l.stocked, l.session.inventory.ids, l.session.library.map Mask.ids, l.expired)) =
      some ([0, 1, 2, 3, 4].map .issued, [0, 3, 4].map .issued, [[.issued 1]], [.issued 2]) := by
    decide +kernel
  rw [begun] at books
  simp only [Except.toOption, Option.map_some, Option.some.injEq, Prod.mk.injEq] at books
  obtain ⟨differ, all, -⟩ := Ledger.balances begun larderRound
  exact ⟨s, begun, differ, all, books⟩

end Masquerade
