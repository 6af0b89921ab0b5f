import Masquerade.Proofs.Session.Refight

/-!
# Operations on sessions

From outside a session is used by operations. Each leads to a session, also when it is refused
(`Session.operate`, `Session.refusal?`), and the sessions of a content are those to which operations
lead from its new one (`Session.Reachable`). No operation changes the tuning, the catalog or the
enemies (`Session.operate_game`).
-/

namespace Masquerade

inductive Operation where
  | startMask (name : String)
  | stock (material : String)
  | bindPiece (id : InstanceId)
  | autoBind
  | endMakePhase
  | nextEnemy
  | fight (enemy : String)
  | settle (report : BattleReport)
  | playRound (enemy : String)
  /-- Installs another way of adding growth to the record. -/
  | commitBy (commit : Commit)

open RandomWords (Stream)

namespace Session

/-- The refusal that a reply brings, if it is one. -/
def Reply.refusal? {α : Type} (reply : Reply α) : Option GameError :=
  match reply.1 with
  | .ok _ => none
  | .error e => some e

/-- The session after an operation. -/
def operate (s : Session) : Operation → Session
  | .startMask name => (s.startMask name).2
  | .stock material => (s.stock material).2
  | .bindPiece id => (s.bindPiece id).2
  | .autoBind => s.autoBind.2
  | .endMakePhase => s.endMakePhase.2
  | .nextEnemy => s.nextEnemy.2
  | .fight enemy => (s.fight enemy).2
  | .settle report => (s.settle report).2
  | .playRound enemy => (s.playRound enemy).2
  | .commitBy commit => { s with commit := commit }

def refusal? (s : Session) : Operation → Option GameError
  | .startMask name => (s.startMask name).refusal?
  | .stock material => (s.stock material).refusal?
  | .bindPiece id => (s.bindPiece id).refusal?
  | .autoBind => s.autoBind.refusal?
  | .fight enemy => (s.fight enemy).refusal?
  | .settle report => (s.settle report).refusal?
  | .playRound enemy => (s.playRound enemy).refusal?
  | .endMakePhase | .nextEnemy | .commitBy _ => none

/-- The sessions of a content. -/
inductive Reachable (c : Content) : Session → Prop
  | new {s : Session} (begun : Session.new c = .ok s) : Reachable c s
  | operate {s : Session} (before : Reachable c s) (op : Operation) : Reachable c (s.operate op)

/-- Something read off the session of a text, whose content may be changed before it begins, shows that
there is one. -/
theorem exists_of_text_with {α : Type} (text : String) (change : Content → Content) (f : Session → α)
    (a : α) (read : (Content.parse text).toOption.bind
      (fun c => (Session.new (change c)).toOption.map f) = some a) :
    ∃ c s, Content.parse text = .ok c ∧ Session.new (change c) = .ok s ∧ f s = a := by
  cases parsed : Content.parse text with
  | error e => simp [parsed, Except.toOption] at read
  | ok c =>
    cases begun : Session.new (change c) with
    | error e => simp [parsed, begun, Except.toOption] at read
    | ok s =>
      simp only [parsed, begun, Except.toOption, Option.bind_some, Option.map_some,
        Option.some.injEq] at read
      exact ⟨c, s, rfl, begun, read⟩

/-- Something read off the session of a text shows that the text begins one. -/
theorem exists_of_text {α : Type} (text : String) (f : Session → α) (a : α)
    (read : (Content.parse text).toOption.bind (fun c => (Session.new c).toOption.map f) = some a) :
    ∃ c s, Content.parse text = .ok c ∧ Session.new c = .ok s ∧ f s = a :=
  exists_of_text_with text id f a read

/-! ## Parts of a round -/

def rewardsDue (s : Session) (report : BattleReport) : List String :=
  if report.outcome = some .victory then s.rewardIds else []

/-- The session in the middle of settling: the mask is filed and growth collected, and no rewards are in
stock yet. -/
def settling (s : Session) (report : BattleReport) : Session :=
  { (s.fileMask.collect report).2 with lastFoe := none }

theorem settle_eq (s : Session) (report : BattleReport) :
    s.settle report =
      match stockAll (s.rewardsDue report) (s.settling report) with
      | (.error e, t) => (.error e, t)
      | (.ok pieces, t) =>
        (.ok ⟨t.round, (s.fileMask.collect report).1, pieces.map (·.name)⟩,
          { t with round := t.round + 1 }) :=
  rfl

/-- A round that is played is settled after its fight, unless the fight is refused. -/
theorem playRound_snd (s : Session) (enemy : String) :
    (s.playRound enemy).2 =
      match s.fight enemy with
      | (.error _, t) => t
      | (.ok report, t) => (t.settle report).2 := by
  rw [playRound]
  rcases s.fight enemy with ⟨e | report, t⟩
  · rfl
  · dsimp only
    split <;> simp_all

/-! ## Refusals before any change -/

theorem Reply.refusal?_eq_some {α : Type} {reply : Reply α} {e : GameError} :
    reply.refusal? = some e ↔ reply.1 = .error e := by
  rw [refusal?]
  split <;> simp_all

section

variable {s t : Session} {e : GameError}

theorem startMask_refused {name : String} (refused : s.startMask name = (.error e, t)) : t = s := by
  rw [startMask] at refused
  split at refused <;> simp_all

theorem stock_refused {material : String} (refused : s.stock material = (.error e, t)) : t = s := by
  rw [stock] at refused
  split at refused <;> simp_all

theorem fight_refused {enemy : String} (refused : s.fight enemy = (.error e, t)) : t = s := by
  rw [fight] at refused
  split at refused
  · simp_all
  · split at refused <;> simp_all

end

/-! ## Binding a piece -/

/-- What binding a piece can come to. -/
inductive Binding (s : Session) (id : InstanceId) : Reply Unit → Prop
  | maskless (none : s.current = none) : Binding s id (.error .noActiveMask, s)
  | absent {mask : Mask} (making : s.current = some mask) (absent : s.inventory.find? id = none) :
      Binding s id (.error (.materialNotFound id), s)
  | bound {mask : Mask} {piece : Piece} (making : s.current = some mask)
      (present : s.inventory.find? id = some piece) (mana : ManaPool) (forest : Forest) (rng : Stream) :
      Binding s id (.ok (), { s with
        current := some { mask with
          mana := mana, pieces := mask.pieces ++ [{ piece with forest := forest }] }
        inventory := s.inventory.erase id
        rng := rng })
  | unpaid {mask : Mask} {piece : Piece} (making : s.current = some mask)
      (present : s.inventory.find? id = some piece) :
      Binding s id (.error (.notEnoughMana piece.manaCost mask.mana.current),
        { s with inventory := (s.inventory.erase id).putBack piece })

theorem bindPiece_binding (s : Session) (id : InstanceId) : s.Binding id (s.bindPiece id) := by
  rw [bindPiece]
  split
  · next none => exact .maskless none
  · next mask making =>
    split
    · next absent => exact .absent making absent
    · next piece present =>
      rw [Mask.bind]
      cases mask.mana.spend? piece.manaCost with
      | none => exact .unpaid making present
      | some mana => exact .bound making present _ _ _

/-! ## What sequences of steps keep -/

theorem stockAll_keeps {P : Session → Prop} (step : ∀ s material, P s → P (s.stock material).2)
    (materials : List String) {s : Session} (h : P s) : P (stockAll materials s).2 := by
  induction materials generalizing s with
  | nil => exact h
  | cons material rest ih =>
    have first := step s material h
    rw [stockAll]
    split
    · next e t stocked => rwa [stocked] at first
    · next piece t stocked =>
      rw [stocked] at first
      have later := ih first
      split <;> simp_all

theorem bindAffordable_keeps {P : Session → Prop} (step : ∀ s id, P s → P (s.bindPiece id).2)
    (ids : List InstanceId) {s : Session} (h : P s) : P (bindAffordable ids s).2 := by
  induction ids generalizing s with
  | nil => exact h
  | cons id rest ih =>
    have first := step s id h
    rw [bindAffordable]
    split
    · next t bound =>
      rw [bound] at first
      have later := ih first
      split <;> simp_all
    · next needed available t unpaid =>
      rw [unpaid] at first
      exact ih first
    · next e t _ refused => rwa [refused] at first

/-- A property that is kept by every step of which operations are made, other than passing on the turn
of the enemies. -/
structure Steady (P : Session → Prop) : Prop where
  startMask (s : Session) (name : String) : P s → P (s.startMask name).2
  stock (s : Session) (material : String) : P s → P (s.stock material).2
  bindPiece (s : Session) (id : InstanceId) : P s → P (s.bindPiece id).2
  endMakePhase (s : Session) : P s → P s.endMakePhase.2
  fight (s : Session) (enemy : String) : P s → P (s.fight enemy).2
  settling (s : Session) (report : BattleReport) : P s → P (s.settling report)
  nextRound (s : Session) : P s → P { s with round := s.round + 1 }
  commitBy (s : Session) (commit : Commit) : P s → P { s with commit := commit }

namespace Steady

variable {P : Session → Prop} {s : Session}

theorem settle (steady : Steady P) (h : P s) (report : BattleReport) : P (s.settle report).2 := by
  have stocked := stockAll_keeps steady.stock (s.rewardsDue report) (steady.settling s report h)
  rw [settle_eq]
  split
  · next e t refused => rwa [refused] at stocked
  · next pieces t accepted =>
    rw [accepted] at stocked
    exact steady.nextRound t stocked

theorem operate (steady : Steady P) (h : P s) {op : Operation} (other : op ≠ .nextEnemy) :
    P (s.operate op) := by
  cases op with
  | startMask name => exact steady.startMask s name h
  | stock material => exact steady.stock s material h
  | bindPiece id => exact steady.bindPiece s id h
  | autoBind => exact bindAffordable_keeps steady.bindPiece _ h
  | endMakePhase => exact steady.endMakePhase s h
  | nextEnemy => exact absurd rfl other
  | fight enemy => exact steady.fight s enemy h
  | settle report => exact steady.settle h report
  | playRound enemy =>
    have fought := steady.fight s enemy h
    rw [Session.operate, playRound_snd]
    split
    · next e t refused => rwa [refused] at fought
    · next report t accepted =>
      rw [accepted] at fought
      exact steady.settle fought report
  | commitBy commit => exact steady.commitBy s commit h

end Steady

/-! ## What no operation changes -/

def game (s : Session) : Ruleset × Catalog × List Foe := (s.ruleset, s.catalog, s.foes)

/-- The game does not change, and the turn is passed on by hand only. -/
theorem steady_game (g : (Ruleset × Catalog × List Foe) × Nat) :
    Steady fun s => (s.game, s.nextFoe) = g where
  startMask s name h := by
    rw [startMask]
    split <;> exact h
  stock s material h := by
    rw [stock]
    split <;> exact h
  bindPiece s id h := by
    have binding := s.bindPiece_binding id
    generalize s.bindPiece id = reply at binding ⊢
    cases binding <;> exact h
  endMakePhase _ h := h
  fight s enemy h := by
    have same := congrArg (fun t => (t.game, t.nextFoe)) (s.unfought_fight enemy)
    exact Eq.trans same h
  settling _ _ h := h
  nextRound _ h := h
  commitBy _ _ h := h

theorem operate_steady_game (s : Session) {op : Operation} (other : op ≠ .nextEnemy) :
    ((s.operate op).game, (s.operate op).nextFoe) = (s.game, s.nextFoe) :=
  (steady_game (s.game, s.nextFoe)).operate rfl other

/-- No operation changes the tuning, the catalog or the enemies. -/
theorem operate_game (s : Session) (op : Operation) : (s.operate op).game = s.game := by
  by_cases other : op = .nextEnemy
  · rw [other, operate, nextEnemy]
    split <;> rfl
  · exact congrArg Prod.fst (s.operate_steady_game other)

/-- What holds before anything is in stock, and is kept by stocking, holds of a new session. -/
theorem new_keeps {P : Session → Prop} (step : ∀ s material, P s → P (s.stock material).2)
    {c : Content} {s : Session} (begun : Session.new c = .ok s) (h : P (unstocked c)) : P s := by
  have stocked := stockAll_keeps step c.startingMaterials h
  rw [Session.new] at begun
  split at begun
  · cases begun
  · next accepted =>
    cases begun
    rwa [accepted] at stocked

theorem new_game {c : Content} {s : Session} (begun : Session.new c = .ok s) :
    s.game = (c.ruleset, c.catalog, c.foes) ∧ s.nextFoe = 0 :=
  Prod.mk.inj (new_keeps (steady_game ((c.ruleset, c.catalog, c.foes), 0)).stock begun rfl)

theorem Reachable.game_eq {c : Content} {s : Session} (h : Reachable c s) :
    s.game = (c.ruleset, c.catalog, c.foes) := by
  induction h with
  | new begun => exact (new_game begun).1
  | operate before op ih => exact (operate_game _ op).trans ih

end Session

end Masquerade
