import Mathlib.Data.List.DropRight
import Masquerade.Proofs.Logic.Touched

/-!
# Counting gates

What a gate that counts has counted is decided by how many calls there were since it was last asked at a
battle's start (`Gate.counterAfter_eq`), whatever was asked in these calls. So it lets through every n-th
of them, or the first few (`Gate.counts_exactly`). The count stays in the range that the gate names, where
no sum of it overflows (`Gate.judge?_counterAfter`). One gate is out of this range: the inverted gate on no
triggers at all lets everything through and counts all of it.
-/

namespace UInt32

/-- The next number, if there is one. -/
def increment? (a : UInt32) : Option UInt32 :=
  if a.toNat + 1 < size then some (a + 1) else none

/-- What is left over by a division, if the divisor is not zero. -/
def remainder? (a n : UInt32) : Option UInt32 :=
  if n = 0 then none else some (a % n)

theorem increment?_eq {a : UInt32} (h : a.toNat + 1 < size) : a.increment? = some (a + 1) :=
  if_pos h

end UInt32

namespace Masquerade

open RandomWords (Stream)

/-! ## Calls since a battle's start -/

/-- The calls since the last one at a battle's start, or all calls if there was none. -/
def sinceStart (past : List (Moment × Stream)) : List (Moment × Stream) :=
  past.rtakeWhile fun call => call.1.phase ≠ .battleStart

/-- How many calls there were since a battle's start, those for a description left out. -/
def callsSinceStart (past : List (Moment × Stream)) : Nat :=
  (sinceStart past).countP fun call => call.1.phase ≠ .description

variable {past : List (Moment × Stream)} {call : Moment × Stream}

theorem callsSinceStart_start (start : call.1.phase = .battleStart) :
    callsSinceStart (past ++ [call]) = 0 := by
  simp [callsSinceStart, sinceStart, start]

theorem callsSinceStart_asleep (asleep : call.1.phase = .description) :
    callsSinceStart (past ++ [call]) = callsSinceStart past := by
  simp [callsSinceStart, sinceStart, asleep]

theorem callsSinceStart_concat (awake : call.1.phase ≠ .description)
    (later : call.1.phase ≠ .battleStart) :
    callsSinceStart (past ++ [call]) = callsSinceStart past + 1 := by
  simp [callsSinceStart, sinceStart, awake, later]

theorem callsSinceStart_replicate (awake : call.1.phase ≠ .description)
    (later : call.1.phase ≠ .battleStart) (k : Nat) :
    callsSinceStart (List.replicate k call) = k := by
  induction k with
  | zero => rfl
  | succ k ih => rw [List.replicate_succ', callsSinceStart_concat awake later, ih]

namespace Gate

/-- What a gate has counted after several calls, beginning at zero. -/
def counterAfter (g : Gate) (past : List (Moment × Stream)) : UInt32 :=
  past.foldl (fun counter call => (g.judge counter call.1 call.2).counter) 0

theorem counterAfter_concat (g : Gate) (past : List (Moment × Stream)) (call : Moment × Stream) :
    g.counterAfter (past ++ [call]) = (g.judge (g.counterAfter past) call.1 call.2).counter := by
  rw [counterAfter, List.foldl_concat]
  rfl

/-- What a gate has counted when it was asked `k` times since a battle's start. The inverted gate on a
number of triggers counts only if there are none of them. -/
def counted (g : Gate) (k : Nat) : UInt32 :=
  match g with
  | ⟨.maxTriggers limit, true⟩ => if limit = 0 then UInt32.ofNat k else 0
  | ⟨condition, _⟩ => condition.counted k

theorem counted_zero (g : Gate) : g.counted 0 = 0 := by
  unfold counted
  split
  · split <;> rfl
  · exact Condition.counted_zero _

variable {g : Gate} {m : Moment}

theorem counted_of_not_counts (h : g.counts = false) (k : Nat) : g.counted k = 0 := by
  obtain ⟨condition, invert⟩ := g
  cases condition with
  | waitEvery n | maxTriggers n => cases h
  | _ => rfl

/-! ## One call -/

/-- At a battle's start a gate that counts skips, and has counted nothing. -/
theorem judge_start (counts : g.counts = true) (start : m.phase = .battleStart) (counter : UInt32)
    (rng : Stream) : g.judge counter m rng = ⟨true, 0, rng⟩ := by
  obtain ⟨condition, invert⟩ := g
  cases condition with
  | waitEvery n | maxTriggers n => simp [judge, start]
  | _ => cases counts

theorem judge_maxTriggers_inverted (awake : m.phase ≠ .description) (later : m.phase ≠ .battleStart)
    (limit counter : UInt32) (rng : Stream) :
    judge ⟨.maxTriggers limit, true⟩ counter m rng =
      ⟨decide (counter < limit), if counter < limit then counter else counter + 1, rng⟩ := by
  simp only [judge, awake, later, if_false]
  by_cases open' : counter < limit <;> simp [open']

/-- One call after `k` others, a gate has counted one call more. -/
theorem judge_counted (awake : m.phase ≠ .description) (later : m.phase ≠ .battleStart) (g : Gate)
    (k : Nat) (rng : Stream) : (g.judge (g.counted k) m rng).counter = g.counted (k + 1) := by
  cases counts : g.counts with
  | false => rw [judge_counter counts, counted_of_not_counts counts, counted_of_not_counts counts]
  | true =>
    obtain ⟨condition, invert⟩ := g
    cases condition with
    | waitEvery n =>
      by_cases none : n = 0
      · simp [judge, awake, later, none, standAside, counted, Condition.counted]
      · exact congrArg Verdict.counter (judge_waitEvery awake later none invert rng)
    | maxTriggers limit =>
      cases invert with
      | false => exact congrArg Verdict.counter (judge_maxTriggers awake later limit rng)
      | true =>
        -- at count zero it lets a call through only if there is no trigger to be spent
        rw [judge_maxTriggers_inverted awake later]
        by_cases none : limit = 0
        · simp [counted, none, UInt32.ofNat_add]
        · simp [counted, none, UInt32.pos_iff_ne_zero]
    | _ => cases counts

/-! ## Several calls -/

/-- What a gate has counted depends on the number of calls since a battle's start alone. -/
theorem counterAfter_eq (g : Gate) (past : List (Moment × Stream)) :
    g.counterAfter past = g.counted (callsSinceStart past) := by
  induction past using List.reverseRecOn with
  | nil => exact g.counted_zero.symm
  | append_singleton past call ih =>
    -- a description counts for nothing, a battle's start begins anew, and any other call is one more
    rw [counterAfter_concat]
    by_cases asleep : call.1.phase = .description
    · rw [judge_description g asleep, callsSinceStart_asleep asleep, ← ih]
      rfl
    by_cases start : call.1.phase = .battleStart
    · rw [callsSinceStart_start start, counted_zero]
      cases counts : g.counts with
      | true => rw [judge_start counts start]
      | false => rw [judge_counter counts, ih, counted_of_not_counts counts]
    · rw [callsSinceStart_concat asleep start, ih, judge_counted asleep start]

/-! ## The range of the count -/

theorem counted_waitEvery_lt {n : UInt32} (positive : n ≠ 0) (invert : Bool) (k : Nat) :
    counted ⟨.waitEvery n, invert⟩ k < n := by
  have pos : 0 < n.toNat := Nat.pos_of_ne_zero fun h => positive (UInt32.toNat_inj.1 h)
  have below : k % n.toNat < n.toNat := Nat.mod_lt k pos
  have small : n.toNat < UInt32.size := n.toNat_lt_size
  have value : counted ⟨.waitEvery n, invert⟩ k = UInt32.ofNat (k % n.toNat) := by
    simp [counted, Condition.counted, positive]
  rwa [value, UInt32.lt_iff_toNat_lt, UInt32.toNat_ofNat_of_lt' (by omega)]

theorem counted_maxTriggers_le {limit : UInt32} {invert : Bool} (h : invert = false ∨ limit ≠ 0)
    (k : Nat) : counted ⟨.maxTriggers limit, invert⟩ k ≤ limit := by
  cases invert with
  | false =>
    have small : limit.toNat < UInt32.size := limit.toNat_lt_size
    show UInt32.ofNat (min k limit.toNat) ≤ limit
    rw [UInt32.le_iff_toNat_le, UInt32.toNat_ofNat_of_lt' (by omega)]
    exact Nat.min_le_right k limit.toNat
  | true =>
    have some : limit ≠ 0 := h.resolve_left Bool.noConfusion
    simp [counted, some]

/-- Asks the gate, if no sum on the way overflows and nothing is divided by zero. -/
def judge? (g : Gate) (counter : UInt32) (m : Moment) (rng : Stream) : Option Verdict :=
  if m.phase = .description then
    some (standAside counter rng)
  else
    match g.condition with
    | .everyActions n =>
      if m.actionNumber = 0 ∨ n = 0 then
        some (standAside counter rng)
      else
        (m.actionNumber.remainder? n).map fun rest => g.answer (rest = 0) counter rng
    | .waitEvery n =>
      if m.phase = .battleStart then
        some ⟨true, 0, rng⟩
      else if n = 0 then
        some (standAside counter rng)
      else
        counter.increment?.map fun next =>
          if n ≤ next then g.answer true 0 rng else g.answer false next rng
    | .maxTriggers limit =>
      if m.phase = .battleStart then
        some ⟨true, 0, rng⟩
      else
        let passes := decide (counter < limit) != g.invert
        (if passes then counter.increment? else some counter).map fun next => ⟨!passes, next, rng⟩
    | _ => some (g.judge counter m rng)

/-- Nothing overflows while a next number is left. Below its limit a gate always has one. -/
theorem judge?_eq {counter : UInt32}
    (fits : counter.toNat + 1 < UInt32.size ∨ ∃ limit, g = ⟨.maxTriggers limit, false⟩) (m : Moment)
    (rng : Stream) : g.judge? counter m rng = some (g.judge counter m rng) := by
  by_cases asleep : m.phase = .description
  · rw [judge?, judge, if_pos asleep, if_pos asleep]
  rw [judge?, judge, if_neg asleep, if_neg asleep]
  obtain ⟨condition, invert⟩ := g
  cases condition with
  | everyActions n =>
    simp only [answerNumbered]
    split
    · rfl
    · next judged =>
      rw [UInt32.remainder?, if_neg fun none => judged (.inr none)]
      rfl
  | waitEvery n =>
    have next : counter.toNat + 1 < UInt32.size := fits.resolve_right (by simp)
    simp only [UInt32.increment?_eq next, Option.map_some]
    split
    · rfl
    · split
      · rfl
      · rw [apply_ite some]
  | maxTriggers limit =>
    dsimp only
    split
    · rfl
    · split
      · next passes =>
        -- the plain gate counts only below its limit, and the limit is a number itself
        have next : counter.toNat + 1 < UInt32.size := by
          rcases fits with fits | ⟨_, own⟩
          · exact fits
          · obtain rfl : invert = false := congrArg Gate.invert own
            have below : counter.toNat < limit.toNat := by
              simpa [UInt32.lt_iff_toNat_lt] using passes
            have small : limit.toNat < UInt32.size := limit.toNat_lt_size
            omega
        rw [UInt32.increment?_eq next]
        rfl
      · rfl
  | _ => rfl

/-- Wherever a gate has got by counting, nothing overflows in its next call. -/
theorem judge?_counterAfter (h : g ≠ ⟨.maxTriggers 0, true⟩) (past : List (Moment × Stream))
    (m : Moment) (rng : Stream) :
    g.judge? (g.counterAfter past) m rng = some (g.judge (g.counterAfter past) m rng) := by
  rw [counterAfter_eq]
  refine judge?_eq ?_ m rng
  have first : (0 : UInt32).toNat + 1 < UInt32.size := by decide
  cases counts : g.counts with
  | false => exact .inl (by rwa [counted_of_not_counts counts])
  | true =>
    obtain ⟨condition, invert⟩ := g
    cases condition with
    | waitEvery n =>
      by_cases none : n = 0
      · have zero : counted ⟨.waitEvery n, invert⟩ (callsSinceStart past) = 0 := if_pos none
        exact .inl (by rwa [zero])
      · have below := counted_waitEvery_lt none invert (callsSinceStart past)
        have small : n.toNat < UInt32.size := n.toNat_lt_size
        rw [UInt32.lt_iff_toNat_lt] at below
        exact .inl (by omega)
    | maxTriggers limit =>
      cases invert with
      | false => exact .inr ⟨limit, rfl⟩
      | true =>
        have some : limit ≠ 0 := fun none => h (by rw [none])
        have zero : counted ⟨.maxTriggers limit, true⟩ (callsSinceStart past) = 0 := if_neg some
        exact .inl (by rwa [zero])
    | _ => cases counts

/-! ## Exact counts -/

theorem skips_waitEvery (awake : m.phase ≠ .description) (later : m.phase ≠ .battleStart) {n : UInt32}
    (positive : n ≠ 0) (invert : Bool) (past : List (Moment × Stream)) (rng : Stream) :
    (judge ⟨.waitEvery n, invert⟩ (counterAfter ⟨.waitEvery n, invert⟩ past) m rng).skips =
      (decide (n.toNat ∣ callsSinceStart past + 1) == invert) := by
  rw [counterAfter_eq]
  refine (congrArg Verdict.skips (judge_waitEvery awake later positive invert rng)).trans ?_
  simp only [Nat.dvd_iff_mod_eq_zero]

theorem skips_maxTriggers (awake : m.phase ≠ .description) (later : m.phase ≠ .battleStart)
    (limit : UInt32) (past : List (Moment × Stream)) (rng : Stream) :
    (judge ⟨.maxTriggers limit, false⟩ (counterAfter ⟨.maxTriggers limit, false⟩ past) m rng).skips =
      !decide (callsSinceStart past + 1 ≤ limit.toNat) := by
  rw [counterAfter_eq]
  exact congrArg Verdict.skips (judge_maxTriggers awake later limit rng)

/-- The inverted gate on no triggers lets every call through and counts it, until the count overflows. -/
theorem judge_noTriggers (awake : m.phase ≠ .description) (later : m.phase ≠ .battleStart)
    (past : List (Moment × Stream)) (rng : Stream) :
    let g : Gate := ⟨.maxTriggers 0, true⟩
    g.judge (g.counterAfter past) m rng = ⟨false, UInt32.ofNat (callsSinceStart past + 1), rng⟩ ∧
      (g.judge? (g.counterAfter past) m rng = none ↔ UInt32.size ∣ callsSinceStart past + 1) := by
  intro g
  have counter : g.counterAfter past = UInt32.ofNat (callsSinceStart past) := by
    rw [counterAfter_eq]
    rfl
  constructor
  · rw [judge_maxTriggers_inverted awake later, counter]
    simp [UInt32.ofNat_add]
  · have overflows : g.judge? (g.counterAfter past) m rng = none ↔
        UInt32.size ≤ (g.counterAfter past).toNat + 1 := by
      simp [judge?, g, awake, later, UInt32.increment?]
    rw [overflows, counter, UInt32.toNat_ofNat', show UInt32.size = 2 ^ 32 from rfl]
    omega

/-- A gate that counts, asked any number of times at any moments. Of its calls since a battle's start,
those for a description left out, the `k`-th is let through by `waitEvery n` exactly if `n` divides `k`,
by the inverted gate exactly if not, and by `maxTriggers limit` exactly if `k` is not above the limit. At a
battle's start it skips and its count is zero from then on, inverted or not, and a description it never
skips and never counts. The count stays below `n`, or up to the limit, so that no gate's sum overflows, and
none divides by zero. Only the inverted `maxTriggers 0` is excepted: it lets everything through and counts
all of it. -/
theorem counts_exactly (past : List (Moment × Stream)) (m : Moment) (rng : Stream) :
    let k := callsSinceStart past + 1
    let verdict (g : Gate) := g.judge (g.counterAfter past) m rng
    (m.phase ≠ .description → m.phase ≠ .battleStart →
      (∀ n : UInt32, 1 ≤ n →
        ((verdict ⟨.waitEvery n, false⟩).skips = false ↔ n.toNat ∣ k) ∧
        ((verdict ⟨.waitEvery n, true⟩).skips = false ↔ ¬ n.toNat ∣ k)) ∧
      ∀ limit : UInt32, (verdict ⟨.maxTriggers limit, false⟩).skips = false ↔ k ≤ limit.toNat) ∧
    (m.phase = .battleStart → ∀ g : Gate, g.counts = true → verdict g = ⟨true, 0, rng⟩) ∧
    (m.phase = .description → ∀ g : Gate, verdict g = ⟨false, g.counterAfter past, rng⟩) ∧
    (∀ n : UInt32, 1 ≤ n → ∀ invert, counterAfter ⟨.waitEvery n, invert⟩ past < n) ∧
    (∀ (limit : UInt32) (invert : Bool), invert = false ∨ limit ≠ 0 →
      counterAfter ⟨.maxTriggers limit, invert⟩ past ≤ limit) ∧
    (∀ g : Gate, g ≠ ⟨.maxTriggers 0, true⟩ →
      g.judge? (g.counterAfter past) m rng = some (verdict g)) ∧
    (m.phase ≠ .description → m.phase ≠ .battleStart →
      verdict ⟨.maxTriggers 0, true⟩ = ⟨false, UInt32.ofNat k, rng⟩ ∧
      (judge? ⟨.maxTriggers 0, true⟩ (counterAfter ⟨.maxTriggers 0, true⟩ past) m rng = none ↔
        UInt32.size ∣ k)) := by
  intro k verdict
  have nonzero {n : UInt32} (h : 1 ≤ n) : n ≠ 0 := by
    rintro rfl
    exact absurd h (by decide)
  refine ⟨fun awake later => ⟨fun n h => ⟨?_, ?_⟩, fun limit => ?_⟩,
    fun start g counts => judge_start counts start _ rng, fun asleep g => g.judge_description asleep _ rng,
    fun n h invert => ?_, fun limit invert h => ?_, fun g h => judge?_counterAfter h past m rng,
    fun awake later => judge_noTriggers awake later past rng⟩
  · rw [skips_waitEvery awake later (nonzero h) false past rng]
    simp [k]
  · rw [skips_waitEvery awake later (nonzero h) true past rng]
    simp [k]
  · rw [skips_maxTriggers awake later limit past rng]
    simp [k]
  · rw [counterAfter_eq]
    exact counted_waitEvery_lt (nonzero h) invert _
  · rw [counterAfter_eq]
    exact counted_maxTriggers_le h _

/-- The inverted gate on no triggers has counted one call after one call, which is more than none, and
after as many calls as a counter can hold it overflows. -/
theorem noTriggers_overcounted :
    let g : Gate := ⟨.maxTriggers 0, true⟩
    let call : Moment × Stream := ({ phase := .battleEnd }, .ofSeed 0)
    ¬ g.counterAfter [call] ≤ 0 ∧
      g.judge? (g.counterAfter (List.replicate (UInt32.size - 1) call)) call.1 call.2 = none := by
  intro g call
  have awake : call.1.phase ≠ .description := by decide
  have later : call.1.phase ≠ .battleStart := by decide
  have full : UInt32.size ∣ callsSinceStart (List.replicate (UInt32.size - 1) call) + 1 := by
    rw [callsSinceStart_replicate awake later]
    exact ⟨1, rfl⟩
  exact ⟨by decide, (judge_noTriggers awake later _ call.2).2.2 full⟩

end Gate

end Masquerade
