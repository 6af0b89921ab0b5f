import Masquerade.Logic.Gate

/-!
# Cadences

A gate that counts its calls and a gate that looks at the number of the attack can say the same, if the
one is asked exactly once in every attack that the other numbers. What the first has counted is then a
function of how many such attacks there were (`Condition.counted`), and both give the same answers
(`Gate.Matched.judge`).
-/

namespace Masquerade

open RandomWords (Stream)

/-- The number of an attack as a side filter counts it: among all attacks, or among the attacker's own. -/
def SideFilter.numberOf : SideFilter → Moment → UInt32
  | both, m => m.actionNumber
  | player, m | enemy, m => m.attackNumber

/-- A gate that counts its calls, and the gate on the number of the attack that it is matched with
behind a side filter. -/
inductive Gate.Matched : SideFilter → Gate → Gate → Prop
  | cadence (n : UInt32) (invert : Bool) :
      Matched .both ⟨.waitEvery n, invert⟩ ⟨.everyActions n, invert⟩
  | firstActions {n : UInt32} (positive : n ≠ 0) :
      Matched .both ⟨.maxTriggers n, false⟩ ⟨.firstActions n, false⟩
  | firstAttacks {side : SideFilter} (own : side ≠ .both) {n : UInt32} (positive : n ≠ 0) :
      Matched side ⟨.maxTriggers n, false⟩ ⟨.firstAttacks n, false⟩

/-- What a gate that counts its calls has counted after it was asked in `k` attacks. -/
def Condition.counted : Condition → Nat → UInt32
  | waitEvery n, k => if n = 0 then 0 else UInt32.ofNat (k % n.toNat)
  | maxTriggers limit, k => UInt32.ofNat (min k limit.toNat)
  | _, _ => 0

theorem Condition.counted_zero (c : Condition) : c.counted 0 = 0 := by
  cases c with
  | waitEvery n => simp [counted]
  | maxTriggers limit => simp [counted]
  | _ => rfl

/-- One call later, a count of calls up to `n` is one more, or has begun anew. -/
theorem succ_mod_eq (k : Nat) {n : Nat} (hn : 0 < n) :
    (k + 1) % n = if n ≤ k % n + 1 then 0 else k % n + 1 := by
  have below : k % n < n := Nat.mod_lt k hn
  rw [← Nat.mod_add_mod]
  split
  · rw [show k % n + 1 = n by omega, Nat.mod_self]
  · exact Nat.mod_eq_of_lt (by omega)

namespace Gate

variable {m : Moment} {k : Nat}

theorem judge_waitEvery (awake : m.phase ≠ .description) (later : m.phase ≠ .battleStart)
    {n : UInt32} (positive : n ≠ 0) (invert : Bool) (rng : Stream) :
    judge ⟨.waitEvery n, invert⟩ (Condition.counted (.waitEvery n) k) m rng =
      ⟨decide ((k + 1) % n.toNat = 0) == invert, Condition.counted (.waitEvery n) (k + 1), rng⟩ := by
  have pos : 0 < n.toNat := Nat.pos_of_ne_zero fun h => positive (UInt32.toNat_inj.1 h)
  have below : k % n.toNat < n.toNat := Nat.mod_lt k pos
  have small : n.toNat < UInt32.size := n.toNat_lt_size
  have next : UInt32.ofNat (k % n.toNat) + 1 = UInt32.ofNat (k % n.toNat + 1) := by
    rw [UInt32.ofNat_add]
    rfl
  have due : n ≤ UInt32.ofNat (k % n.toNat) + 1 ↔ n.toNat ≤ k % n.toNat + 1 := by
    rw [next, UInt32.le_iff_toNat_le, UInt32.toNat_ofNat_of_lt' (by omega)]
  simp only [judge, awake, later, if_false, positive, Condition.counted, due, succ_mod_eq k pos]
  split
  · rfl
  · rw [next]
    rfl

theorem judge_everyActions (attack : m.phase = .attackModify) {n : UInt32} (positive : n ≠ 0)
    (bound : k + 1 < UInt32.size) (number : m.actionNumber = UInt32.ofNat (k + 1)) (invert : Bool)
    (c : UInt32) (rng : Stream) :
    judge ⟨.everyActions n, invert⟩ c m rng =
      ⟨decide ((k + 1) % n.toNat = 0) == invert, c, rng⟩ := by
  have value : m.actionNumber.toNat = k + 1 := by rw [number, UInt32.toNat_ofNat_of_lt' bound]
  have judged : m.actionNumber ≠ 0 := fun h => by simp [h] at value
  have due : m.actionNumber % n = 0 ↔ (k + 1) % n.toNat = 0 := by
    rw [← UInt32.toNat_inj, UInt32.toNat_mod, value]
    rfl
  simp only [judge, attack, reduceCtorEq, if_false, answerNumbered, judged, positive, or_self, due]
  rfl

theorem judge_maxTriggers (awake : m.phase ≠ .description) (later : m.phase ≠ .battleStart)
    (n : UInt32) (rng : Stream) :
    judge ⟨.maxTriggers n, false⟩ (Condition.counted (.maxTriggers n) k) m rng =
      ⟨!decide (k + 1 ≤ n.toNat), Condition.counted (.maxTriggers n) (k + 1), rng⟩ := by
  have small : n.toNat < UInt32.size := n.toNat_lt_size
  have passes : UInt32.ofNat (min k n.toNat) < n ↔ k + 1 ≤ n.toNat := by
    rw [UInt32.lt_iff_toNat_lt, UInt32.toNat_ofNat_of_lt' (by omega)]
    omega
  simp only [judge, awake, later, if_false, Condition.counted, passes, Bool.bne_false]
  -- once the limit is reached the count stays there
  by_cases left : k + 1 ≤ n.toNat
  · have next : min (k + 1) n.toNat = min k n.toNat + 1 := by omega
    simp only [left, decide_true, if_true, next, UInt32.ofNat_add]
    rfl
  · have last : min (k + 1) n.toNat = min k n.toNat := by omega
    simp only [left, decide_false, last]
    rfl

/-- The answer of a gate on the first numbers. -/
theorem answerNumbered_le {n number : UInt32} (positive : n ≠ 0) (bound : k + 1 < UInt32.size)
    (hk : number = UInt32.ofNat (k + 1)) (condition : Condition) (c : UInt32) (rng : Stream) :
    answerNumbered ⟨condition, false⟩ number n (number ≤ n) c rng =
      ⟨!decide (k + 1 ≤ n.toNat), c, rng⟩ := by
  have value : number.toNat = k + 1 := by rw [hk, UInt32.toNat_ofNat_of_lt' bound]
  have judged : number ≠ 0 := fun h => by simp [h] at value
  have first : number ≤ n ↔ k + 1 ≤ n.toNat := by rw [UInt32.le_iff_toNat_le, value]
  simp only [answerNumbered, judged, positive, or_self, if_false, first, answer, beq_false]

/-- Matched gates give the same answer in the attack after `k` others that the side filter counts, if
the one that counts was asked in exactly these. -/
theorem Matched.judge {side : SideFilter} {counting numbered : Gate}
    (h : Matched side counting numbered) (attack : m.phase = .attackModify)
    (bound : k + 1 < UInt32.size) (number : side.numberOf m = UInt32.ofNat (k + 1)) (c : UInt32)
    (rng : Stream) :
    ∃ skips, counting.judge (counting.condition.counted k) m rng =
        ⟨skips, counting.condition.counted (k + 1), rng⟩ ∧
      numbered.judge c m rng = ⟨skips, c, rng⟩ := by
  have quiet : m.phase ≠ .description := by simp [attack]
  have later : m.phase ≠ .battleStart := by simp [attack]
  cases h with
  | cadence n invert =>
    by_cases positive : n = 0
    · -- a gate without a cadence stands aside, and so does its match
      refine ⟨false, ?_, ?_⟩
      · simp [Gate.judge, attack, positive, standAside, Condition.counted]
      · simp [Gate.judge, attack, positive, standAside, answerNumbered]
    · exact ⟨_, judge_waitEvery quiet later positive invert rng,
        judge_everyActions attack positive bound number invert c rng⟩
  | firstActions positive =>
    refine ⟨_, judge_maxTriggers quiet later _ rng, ?_⟩
    rw [Gate.judge, if_neg quiet]
    exact answerNumbered_le positive bound number _ c rng
  | firstAttacks own positive =>
    have number : m.attackNumber = UInt32.ofNat (k + 1) := by
      cases side with
      | both => exact absurd rfl own
      | player | enemy => exact number
    refine ⟨_, judge_maxTriggers quiet later _ rng, ?_⟩
    rw [Gate.judge, if_neg quiet]
    exact answerNumbered_le positive bound number _ c rng

end Gate

end Masquerade
