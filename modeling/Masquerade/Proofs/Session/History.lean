import Mathlib.Algebra.Group.Nat.Defs
import Masquerade.Proofs.Session.Roster

/-!
# The history of the permanent record

Of what a session keeps for good, the record and the number of the round, only settling changes
anything, and it changes exactly what its settlement says: the growth lands on the record once, and the
next round begins (`Session.operate_standing`). So what stands after any operations is read off the
settlements that they brought (`Session.operateAll_standing`). While growth lands as collected, the
stats of now are those of the beginning with one growth after the other added to them
(`Session.record_settled`).
-/

namespace Masquerade

/-- Whether the operation settles a round. -/
def Operation.settles : Operation → Bool
  | .settle _ | .playRound _ => true
  | _ => false

namespace Session

/-- The settlement that an operation brings, unless it is refused or settles nothing. -/
def settlement? (s : Session) : Operation → Option Settlement
  | .settle report => (s.settle report).1.toOption
  | .playRound enemy => (s.playRound enemy).1.toOption.map (·.settlement)
  | _ => none

/-- The settlements that operations bring, one after the other. -/
def settlements (s : Session) : List Operation → List Settlement
  | [] => []
  | op :: rest => (s.settlement? op).toList ++ (s.operate op).settlements rest

/-! ## What stands between settlements -/

/-- What a session keeps for good: the record, the number of the round, and how growth lands on the
record. -/
structure Standing where
  record : PlayerRecord
  round : UInt32
  commit : Commit

def standing (s : Session) : Standing := ⟨s.record, s.round, s.commit⟩

/-- The standing once a round is settled. -/
def Standing.settled (st : Standing) (settlement : Settlement) : Standing :=
  { st with record := st.commit.apply st.record settlement.growth, round := st.round + 1 }

variable {s t : Session}

theorem stock_standing (s : Session) (material : String) :
    (s.stock material).2.standing = s.standing := by
  rw [stock]
  split <;> rfl

theorem bindPiece_standing (s : Session) (id : InstanceId) :
    (s.bindPiece id).2.standing = s.standing := by
  have binding := s.bindPiece_binding id
  generalize s.bindPiece id = reply at binding ⊢
  cases binding <;> rfl

theorem fight_standing (s : Session) (enemy : String) :
    (s.fight enemy).2.standing = s.standing :=
  (congrArg standing (s.unfought_fight enemy) :)

theorem settle_standing {report : BattleReport} {settlement : Settlement}
    (settled : s.settle report = (.ok settlement, t)) : t.standing = s.standing.settled settlement := by
  rw [settle_eq] at settled
  split at settled
  · cases settled
  · next pieces u stocked =>
    have kept := stockAll_keeps (P := fun v => v.standing = (s.settling report).standing)
      (fun v material h => (v.stock_standing material).trans h) (s.rewardsDue report) rfl
    rw [stocked] at kept
    -- growth has landed before the rewards come into stock
    have landed : u.record = s.commit.apply s.record (s.fileMask.collect report).1 :=
      congrArg Standing.record kept
    have round : u.round = s.round := congrArg Standing.round kept
    have commit : u.commit = s.commit := congrArg Standing.commit kept
    cases settled
    simp only [standing, Standing.settled, landed, round, commit]

/-! ## One operation -/

/-- An operation that settles nothing leaves everything that is kept for good as it is. -/
theorem operate_unsettling (s : Session) {op : Operation} (other : op.settles = false)
    (fixed : ∀ commit, op ≠ .commitBy commit) : (s.operate op).standing = s.standing := by
  cases op with
  | startMask name =>
    rw [operate, startMask]
    split <;> rfl
  | stock material => exact s.stock_standing material
  | bindPiece id => exact s.bindPiece_standing id
  | autoBind =>
    exact bindAffordable_keeps (P := fun u => u.standing = s.standing)
      (fun u id h => (u.bindPiece_standing id).trans h) _ rfl
  | endMakePhase => rfl
  | nextEnemy =>
    rw [operate, nextEnemy]
    split <;> rfl
  | fight enemy => exact s.fight_standing enemy
  | settle | playRound => cases other
  | commitBy commit => exact absurd rfl (fixed commit)

variable {text : String} {c : Content}

/-- In a game that was read from a text, an operation changes what is kept for good by the settlement
that it brings, and not at all if it brings none. -/
theorem operate_standing (reached : Reachable c s) (parsed : Content.parse text = .ok c)
    {op : Operation} (fixed : ∀ commit, op ≠ .commitBy commit) :
    (s.operate op).standing = (s.settlement? op).toList.foldl Standing.settled s.standing := by
  cases op with
  | settle report =>
    obtain ⟨settlement, t, -, settled, -⟩ := reached.settles parsed report
    rw [operate, settlement?, settled]
    exact settle_standing settled
  | playRound enemy =>
    have after : Reachable c (s.fight enemy).2 := reached.operate (.fight enemy)
    have kept : (s.fight enemy).2.standing = s.standing := s.fight_standing enemy
    rw [operate, settlement?, playRound]
    rcases fought : s.fight enemy with ⟨e | report, u⟩
    · rw [fought] at kept
      exact kept
    · -- what was fought is settled, so no growth lands without its settlement
      rw [fought] at after kept
      obtain ⟨settlement, v, -, settled, -⟩ := after.settles parsed report
      dsimp only
      rw [settled]
      show v.standing = s.standing.settled settlement
      rw [settle_standing settled, kept]
  | startMask | stock | bindPiece | autoBind | endMakePhase | nextEnemy | fight | commitBy =>
    exact s.operate_unsettling rfl fixed

/-! ## Any operations -/

/-- What is kept for good after any operations, from the settlements that they brought. -/
theorem operateAll_standing (reached : Reachable c s) (parsed : Content.parse text = .ok c)
    {ops : List Operation} (fixed : ∀ op ∈ ops, ∀ commit, op ≠ .commitBy commit) :
    (s.operateAll ops).standing = (s.settlements ops).foldl Standing.settled s.standing := by
  induction ops generalizing s with
  | nil => rfl
  | cons op rest ih =>
    have first := operate_standing reached parsed (fixed op List.mem_cons_self)
    have later := ih (reached.operate op) fun op' h => fixed op' (List.mem_cons_of_mem op h)
    show ((s.operate op).operateAll rest).standing = _
    rw [later, first, settlements, List.foldl_append]

/-- While growth lands as collected, settlements add their growths to the stats of now. -/
theorem foldl_settled_direct (r : PlayerRecord) (round : UInt32) (settled : List Settlement) :
    settled.foldl Standing.settled ⟨r, round, .direct⟩ =
      ⟨{ r with actual := settled.foldl (fun stats one => stats.grown one.growth) r.actual },
        round + .ofNat settled.length, .direct⟩ := by
  induction settled generalizing r round with
  | nil =>
    show Standing.mk r round .direct = ⟨r, round + 0, .direct⟩
    rw [UInt32.add_zero]
  | cons one rest ih =>
    have next : (⟨r, round, .direct⟩ : Standing).settled one =
        ⟨r.grown one.growth, round + 1, .direct⟩ := rfl
    have count : round + 1 + .ofNat rest.length = round + .ofNat (rest.length + 1) := by
      rw [UInt32.ofNat_add, UInt32.add_assoc, UInt32.add_comm 1]
      rfl
    rw [List.foldl_cons, next, ih, List.length_cons, count]
    rfl

theorem new_standing (begun : Session.new c = .ok s) : s.standing = ⟨c.player, 1, .direct⟩ :=
  new_keeps (P := fun t => t.standing = ⟨c.player, 1, .direct⟩)
    (fun t material h => (t.stock_standing material).trans h) begun rfl

end Session

theorem Content.parse_player {text : String} {c : Content} (parsed : Content.parse text = .ok c) :
    ∃ given, c.player = .new c.player.name given := by
  obtain ⟨d, accepted⟩ := exists_draft parsed
  obtain ⟨catalog, -, rfl⟩ := exists_catalog accepted
  exact ⟨d.playerStats, rfl⟩

namespace Session

variable {text : String} {c : Content} {s : Session}

/-- In a game that was read from a text, after any operations, with growth landing as collected: the
stats of the beginning are what they were, the given ones moved into their domains; the stats of now are
these with the growth of one settlement after the other added to them; the number of the round, a
32-bit number, is one more than that of the settlements. An operation that does not settle changes
neither the record nor the number of the round. -/
theorem record_settled (parsed : Content.parse text = .ok c) (begun : Session.new c = .ok s)
    (ops : List Operation) (fixed : ∀ op ∈ ops, ∀ commit, op ≠ .commitBy commit) :
    let t := s.operateAll ops
    let settled := s.settlements ops
    (∃ given, c.player.base = Stats.clamped given) ∧ t.record.base = c.player.base ∧
      t.record.actual = settled.foldl (fun stats one => stats.grown one.growth) c.player.base ∧
      t.round.toNat = (1 + settled.length) % 2 ^ 32 ∧
      ∀ op, op.settles = false → (t.operate op).record = t.record ∧ (t.operate op).round = t.round := by
  intro t settled
  obtain ⟨given, player⟩ := Content.parse_player parsed
  have base : c.player.base = given.clamped := by rw [player]; rfl
  have actual : c.player.actual = c.player.base := by rw [player]; rfl
  have stands : t.standing = _ := operateAll_standing (.new begun) parsed fixed
  rw [new_standing begun, foldl_settled_direct] at stands
  refine ⟨⟨given, base⟩, congrArg (·.record.base) stands, ?_, ?_, fun op other => ?_⟩
  · rw [← actual]
    exact congrArg (·.record.actual) stands
  · have round : t.round = 1 + .ofNat settled.length := congrArg Standing.round stands
    rw [round, UInt32.toNat_add, UInt32.toNat_ofNat']
    show (1 + settled.length % 2 ^ 32) % 2 ^ 32 = _
    rw [Nat.add_mod_mod]
  · by_cases fixed : ∀ commit, op ≠ .commitBy commit
    · have same := t.operate_unsettling other fixed
      exact ⟨congrArg Standing.record same, congrArg Standing.round same⟩
    · obtain ⟨commit, rfl⟩ := not_forall_not.1 fixed
      exact ⟨rfl, rfl⟩

end Session

/-- A game with a material that strengthens the player after every battle. -/
def heartText : String :=
  "starting_materials = [\"heart\"]\n" ++
  "[battle]\ntick_secs = 1.0\ncrit_enabled = false\n" ++
  "[[material]]\nid = \"heart\"\nname = \"Heart\"\n" ++
  "[[material.nodes]]\n[material.nodes.effect]\nkind = \"add_stats\"\ntarget = \"player\"\n" ++
  "stats = \x7b attack = 2 \x7d\npersistent = true\n" ++
  "[[enemy]]\nname = \"Slime\"\nmax_hp = 5\n"

/-- The heart is bound and gives growth in each of two rounds. -/
theorem heart_grows_twice :
    ∃ c s, Content.parse heartText = .ok c ∧ Session.new c = .ok s ∧
      let ops := [.startMask "Fox", .bindPiece (.issued 0), .playRound "Slime", .fight "Slime",
        .playRound "Slime"]
      let t := s.operateAll ops
      (s.settlements ops).map (·.growth.attack) = [2, 2] ∧ c.player.base.attack = 12 ∧
        t.record.actual.attack = 16 ∧ t.record.base = c.player.base ∧ t.round.toNat = 3 ∧
        t.record.actual =
          (s.settlements ops).foldl (fun stats one => stats.grown one.growth) c.player.base ∧
        (t.operate (.fight "Slime")).record = t.record := by
  let ops : List Operation := [.startMask "Fox", .bindPiece (.issued 0), .playRound "Slime",
    .fight "Slime", .playRound "Slime"]
  obtain ⟨c, s, parsed, begun, same⟩ := Session.exists_of_text heartText
    (fun s => ((s.settlements ops).map (·.growth.attack), s.record.base.attack,
      (s.operateAll ops).record.actual.attack))
    ([2, 2], 12, 16) (by decide +kernel)
  simp only [Prod.mk.injEq] at same
  obtain ⟨growths, given, grown⟩ := same
  obtain ⟨-, base, actual, round, idle⟩ := Session.record_settled parsed begun ops (by simp [ops])
  have two : (s.settlements ops).length = 2 := by simpa using congrArg List.length growths
  have first : s.record.base = c.player.base :=
    congrArg (·.record.base) (Session.new_standing begun)
  rw [two] at round
  rw [first] at given
  exact ⟨c, s, parsed, begun, growths, given, grown, base, round, actual, (idle _ rfl).1⟩

end Masquerade
