import Masquerade.Proofs.Session.Ledger

/-!
# Refused operations

A content that was read from a text refers only to materials that it has (`Content.parse_known`), so that
no reward of its enemies can be refused and every battle can be settled (`Session.Reachable.settles`). The
other operations find out that they are refused before they change anything, but for binding: a piece
that the mana does not cover has been taken from the inventory, and goes back to the end of it
(`Session.refused_keeps`).
-/

namespace Masquerade

/-! ## Materials that are there -/

namespace Content

/-- Every reward of an enemy is in the catalog. -/
def Supplied (c : Content) : Prop :=
  ∀ id ∈ c.foes.flatMap (·.rewards), (c.catalog.get? id).isSome = true

variable {c : Content}

/-- What is accepted is the draft that the text says. -/
theorem exists_written {text : String} (parsed : Content.parse text = .ok c) :
    ∃ d, (Toml.parse? text).bind draft? = some d ∧ ofDraft d = .ok c := by
  rw [parse] at parsed
  split at parsed
  · cases parsed
  · next document read =>
    split at parsed
    · cases parsed
    · next d drafted => exact ⟨d, by rw [read, Option.bind_some, drafted], parsed⟩

theorem exists_draft {text : String} (parsed : Content.parse text = .ok c) :
    ∃ d, ofDraft d = .ok c :=
  (exists_written parsed).imp fun _ h => h.2

/-- What becomes of a draft that is accepted: the search for a material that it refers to and that is
missing has found none. -/
theorem exists_catalog {d : ContentDraft} (accepted : ofDraft d = .ok c) :
    ∃ catalog, (referred d).find? (fun id => (catalog.get? id).isNone) = none ∧
      c = ⟨d.ruleset, .new d.playerName d.playerStats, catalog, d.foes, d.startingMaterials⟩ := by
  rw [ofDraft] at accepted
  split at accepted
  · cases accepted
  · cases built : catalogOf d.materials with
    | error e => simp [built, bind, Except.bind] at accepted
    | ok catalog =>
      simp only [built, bind, Except.bind] at accepted
      split at accepted
      · cases accepted
      · next _ none =>
        cases accepted
        exact ⟨catalog, none, rfl⟩

/-- A content that was read has every material that it starts with or gives as a reward. -/
theorem parse_known {text : String} (parsed : Content.parse text = .ok c) :
    ∀ id ∈ c.startingMaterials ++ c.foes.flatMap (·.rewards), (c.catalog.get? id).isSome = true := by
  obtain ⟨d, accepted⟩ := exists_draft parsed
  obtain ⟨catalog, none, rfl⟩ := exists_catalog accepted
  intro id hid
  simpa [Option.isSome_iff_ne_none] using List.find?_eq_none.1 none id hid

theorem parse_supplied {text : String} (parsed : Content.parse text = .ok c) : c.Supplied :=
  fun id hid => parse_known parsed id (List.mem_append_right _ hid)

end Content

namespace Session

theorem stock_arrives {s : Session} {stocked expired : List InstanceId}
    (books : s.Balanced stocked expired) {material : String}
    (known : (s.catalog.get? material).isSome = true) :
    ∃ piece t, s.stock material = (.ok piece, t) ∧ piece.materialId = material ∧
      t.catalog = s.catalog ∧ t.inventory.items = s.inventory.items ++ [piece] := by
  obtain ⟨m, hm⟩ := Option.isSome_iff_exists.1 known
  have named : m.id = material := by simpa using List.find?_some hm
  rw [stock, Catalog.instantiate, hm]
  exact ⟨_, _, rfl, named, rfl, congrArg Inventory.items (books.add_instantiate m)⟩

/-- Materials that are known come into stock one after the other. -/
theorem stockAll_arrives {materials : List String} {s : Session} {stocked expired : List InstanceId}
    (books : s.Balanced stocked expired)
    (known : ∀ id ∈ materials, (s.catalog.get? id).isSome = true) :
    ∃ pieces t, stockAll materials s = (.ok pieces, t) ∧ pieces.map (·.materialId) = materials ∧
      t.inventory.items = s.inventory.items ++ pieces := by
  induction materials generalizing s stocked expired with
  | nil => exact ⟨[], s, rfl, rfl, (List.append_nil _).symm⟩
  | cons material rest ih =>
    obtain ⟨piece, t, first, named, same, items⟩ :=
      stock_arrives books (known material List.mem_cons_self)
    obtain ⟨pieces, u, later, rewards, all⟩ := ih (books.step (stock_carries books first))
      fun id hid => by
        rw [same]
        exact known id (List.mem_cons_of_mem material hid)
    refine ⟨piece :: pieces, u, ?_, congrArg₂ List.cons named rewards, ?_⟩
    · rw [stockAll, first]
      dsimp only
      rw [later]
    · rw [all, items, List.append_assoc]
      rfl

/-- The rewards that a battle earns are rewards of an enemy of the game. -/
theorem exists_foe_of_mem_rewardsDue {s : Session} {report : BattleReport} {id : String}
    (due : id ∈ s.rewardsDue report) : ∃ f ∈ s.foes, id ∈ f.rewards := by
  rw [rewardsDue] at due
  split at due
  · rw [rewardIds] at due
    split at due
    · next f found =>
      obtain ⟨name, -, found⟩ := Option.bind_eq_some_iff.1 found
      exact ⟨f, List.mem_of_find?_eq_some found, due⟩
    · cases due
  · cases due

/-! ## Refusals -/

section

variable {text : String} {c : Content} {s : Session}

/-- Where every reward of an enemy is in the catalog, every battle can be settled, and then its rewards
are in stock. -/
theorem Reachable.settles_of_supplied (reached : Reachable c s) (supplied : c.Supplied)
    (report : BattleReport) :
    ∃ settlement t pieces, s.settle report = (.ok settlement, t) ∧
      pieces.map (·.materialId) = s.rewardsDue report ∧ settlement.rewards = pieces.map (·.name) ∧
      t.inventory.items = s.inventory.items ++ pieces := by
  obtain ⟨stocked, expired, books⟩ := reached.balanced
  have game := reached.game_eq
  simp only [Session.game, Prod.mk.injEq] at game
  obtain ⟨-, catalog, foes⟩ := game
  have there : ∀ id ∈ s.rewardsDue report,
      ((s.settling report).catalog.get? id).isSome = true := by
    intro id due
    obtain ⟨f, hf, hid⟩ := exists_foe_of_mem_rewardsDue due
    have listed := supplied id (List.mem_flatMap.2 ⟨f, foes ▸ hf, hid⟩)
    rwa [← catalog] at listed
  obtain ⟨pieces, t, stocking, rewards, items⟩ :=
    stockAll_arrives (books.step (s.settling_carries report)) there
  rw [settle_eq, stocking]
  exact ⟨_, _, pieces, rfl, rewards, rfl, items⟩

/-- In a game that was read from a text every battle can be settled, and then its rewards are in
stock. -/
theorem Reachable.settles (reached : Reachable c s) (parsed : Content.parse text = .ok c)
    (report : BattleReport) :
    ∃ settlement t pieces, s.settle report = (.ok settlement, t) ∧
      pieces.map (·.materialId) = s.rewardsDue report ∧ settlement.rewards = pieces.map (·.name) ∧
      t.inventory.items = s.inventory.items ++ pieces :=
  reached.settles_of_supplied (Content.parse_supplied parsed) report

/-- A refused operation leaves the session as it was, but for a piece that is not bound for want of mana:
it comes to stand at the end of the inventory. -/
theorem refused_keeps (parsed : Content.parse text = .ok c) (reached : Reachable c s) {op : Operation}
    {e : GameError} (refused : s.refusal? op = some e) :
    match op, e with
    | .bindPiece id, .notEnoughMana _ _ =>
      ∃ before piece after, s.inventory.items = before ++ piece :: after ∧ piece.id = id ∧
        s.operate op = { s with inventory := ⟨before ++ after ++ [piece]⟩ }
    | _, _ => s.operate op = s := by
  obtain ⟨stocked, expired, books⟩ := reached.balanced
  cases op with
  | startMask name =>
    rw [refusal?, Reply.refusal?_eq_some] at refused
    exact startMask_refused (Prod.ext refused rfl)
  | stock material =>
    rw [refusal?, Reply.refusal?_eq_some] at refused
    exact stock_refused (Prod.ext refused rfl)
  | bindPiece id =>
    rw [refusal?, Reply.refusal?_eq_some] at refused
    rw [operate]
    have binding := s.bindPiece_binding id
    generalize s.bindPiece id = reply at binding refused ⊢
    cases binding with
    | maskless | absent =>
      cases refused
      rfl
    | bound => cases refused
    | unpaid making present =>
      cases refused
      obtain ⟨same, -⟩ := Inventory.exists_split present
      obtain ⟨before, after, split, back⟩ := Inventory.exists_putBack books.nodup_inventory present
      exact ⟨before, _, after, split, same, by rw [back]⟩
  | autoBind =>
    rw [refusal?, Reply.refusal?_eq_some] at refused
    obtain ⟨bound, t, done, -⟩ | ⟨-, unchanged⟩ := autoBind_moved books.nodup_inventory
    · simp [done] at refused
    · exact congrArg Prod.snd unchanged
  | fight enemy =>
    rw [refusal?, Reply.refusal?_eq_some] at refused
    exact fight_refused (Prod.ext refused rfl)
  | settle report =>
    obtain ⟨settlement, t, -, settled, -⟩ := reached.settles parsed report
    simp [refusal?, Reply.refusal?_eq_some, settled] at refused
  | playRound enemy =>
    have fought := reached.operate (.fight enemy)
    rw [operate] at fought
    rw [refusal?, Reply.refusal?_eq_some, playRound] at refused
    rw [operate, playRound_snd]
    rcases hf : s.fight enemy with ⟨e' | report, t⟩
    · exact fight_refused hf
    · -- a battle that was fought is settled
      rw [hf] at fought refused
      obtain ⟨settlement, u, -, settled, -⟩ := fought.settles parsed report
      simp [settled] at refused
  | endMakePhase | nextEnemy | commitBy => cases refused

end

end Session

/-- A game with two pearls in stock and little mana. -/
def shelfText : String :=
  "starting_materials = [\"pearl\", \"pearl\"]\n" ++
  "[battle]\nbase_mask_mana = 1\n" ++
  "[player]\n" ++
  "[[material]]\nid = \"pearl\"\nname = \"Pearl\"\nmana_cost = 4\n"

/-- With a mask in the making, neither a second mask nor a pearl is to be had. -/
theorem exists_shelf :
    ∃ c s, Content.parse shelfText = .ok c ∧ Session.Reachable c s ∧
      s.refusal? (.startMask "Owl") = some .maskInProgress ∧
      s.refusal? (.bindPiece (.issued 0)) = some (.notEnoughMana 4 1) ∧
      s.inventory.ids = [.issued 0, .issued 1] ∧
      (s.operate (.bindPiece (.issued 0))).inventory.ids = [.issued 1, .issued 0] := by
  let start (s : Session) := s.operate (.startMask "Fox")
  let answers (s : Session) := (s.refusal? (.startMask "Owl"),
    s.refusal? (.bindPiece (.issued 0)), s.inventory.ids,
    (s.operate (.bindPiece (.issued 0))).inventory.ids)
  obtain ⟨c, s, parsed, begun, same⟩ := Session.exists_of_text shelfText (answers ∘ start)
    (some .maskInProgress, some (.notEnoughMana 4 1), [.issued 0, .issued 1],
      [.issued 1, .issued 0]) (by decide +kernel)
  simp only [answers, Function.comp, Prod.mk.injEq] at same
  exact ⟨c, start s, parsed, .operate (.new begun) _, same⟩

/-- The second mask is refused and nothing has changed. -/
theorem shelf_keeps :
    ∃ c s, Content.parse shelfText = .ok c ∧ Session.Reachable c s ∧
      s.refusal? (.startMask "Owl") = some .maskInProgress ∧ s.operate (.startMask "Owl") = s := by
  obtain ⟨c, s, parsed, reached, refused, -⟩ := exists_shelf
  exact ⟨c, s, parsed, reached, refused, Session.refused_keeps parsed reached refused⟩

/-- The pearl is refused and comes to stand behind the other. -/
theorem shelf_turned :
    ∃ c s, Content.parse shelfText = .ok c ∧ Session.Reachable c s ∧
      s.refusal? (.bindPiece (.issued 0)) = some (.notEnoughMana 4 1) ∧
      s.inventory.ids = [.issued 0, .issued 1] ∧
      (s.operate (.bindPiece (.issued 0))).inventory.ids = [.issued 1, .issued 0] ∧
      s.operate (.bindPiece (.issued 0)) ≠ s := by
  obtain ⟨c, s, parsed, reached, -, refused, before, after⟩ := exists_shelf
  refine ⟨c, s, parsed, reached, refused, before, after, fun same => ?_⟩
  rw [same, before] at after
  simp at after

end Masquerade
