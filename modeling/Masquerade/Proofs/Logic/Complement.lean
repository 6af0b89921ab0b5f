import Masquerade.Proofs.Logic.Cadence

/-!
# Inverted gates

Where a gate has something to judge, inverting it turns its answer around (`judge_invert_skips`). Over
several calls this carries on as long as both gates count alike, and all conditions but one count
without a look at the answer (`judge_invert_counter`). `maxTriggers` counts what is let through: its
inverted gate lets nothing through, so it counts nothing and stays shut, also when the plain gate has
spent its triggers and is shut as well (`verdicts_complement`).
-/

namespace Masquerade

open RandomWords (Stream)

/-- Whether a moment gives the condition something to judge. Conditions on the number of an attack need
an attack, conditions on hits a battle, and the gates that count only begin anew at a battle's start. -/
def Condition.judges (c : Condition) (m : Moment) : Bool :=
  m.phase ≠ .description &&
    match c with
    | .nthAction n | .firstActions n | .everyActions n => m.actionNumber ≠ 0 && n ≠ 0
    | .nthAttack n | .firstAttacks n => m.attackNumber ≠ 0 && n ≠ 0
    | .waitEvery n | .maxTriggers n => m.phase ≠ .battleStart && n ≠ 0
    | .afterHits _ hits => m.hits.isSome && hits ≠ 0
    | .phase _ | .chance _ | .battleStart | .battleEnd => true

namespace Gate

/-- The verdicts of a gate in several calls, each at its moment and with the random words that are left
then. The counter goes on from call to call. -/
def verdicts (g : Gate) : UInt32 → List (Moment × Stream) → List Verdict
  | _, [] => []
  | counter, (m, rng) :: rest =>
    let verdict := g.judge counter m rng
    verdict :: g.verdicts verdict.counter rest

/-! ## One call -/

variable {c : Condition} {m : Moment} {number n : UInt32} {holds : Bool}

@[simp] theorem answer_counter (g : Gate) (counter : UInt32) (rng : Stream) :
    (g.answer holds counter rng).counter = counter :=
  rfl

@[simp] theorem answer_rng (g : Gate) (counter : UInt32) (rng : Stream) :
    (g.answer holds counter rng).rng = rng :=
  rfl

@[simp] theorem answerNumbered_counter (g : Gate) (counter : UInt32) (rng : Stream) :
    (g.answerNumbered number n holds counter rng).counter = counter := by
  rw [answerNumbered]
  split <;> rfl

@[simp] theorem answerNumbered_rng (g : Gate) (counter : UInt32) (rng : Stream) :
    (g.answerNumbered number n holds counter rng).rng = rng := by
  rw [answerNumbered]
  split <;> rfl

theorem answer_invert_skips (counter : UInt32) (rng : Stream) :
    (answer ⟨c, true⟩ holds counter rng).skips = !(answer ⟨c, false⟩ holds counter rng).skips := by
  cases holds <;> rfl

/-- In a single call the inverted gate answers the opposite. -/
theorem judge_invert_skips (judged : c.judges m = true) (counter : UInt32) (rng : Stream) :
    (judge ⟨c, true⟩ counter m rng).skips = !(judge ⟨c, false⟩ counter m rng).skips := by
  unfold Condition.judges at judged
  rw [Bool.and_eq_true] at judged
  obtain ⟨awake, something⟩ := judged
  have awake : m.phase ≠ .description := of_decide_eq_true awake
  rw [judge, judge, if_neg awake, if_neg awake]
  cases c with
  | phase | chance | battleStart | battleEnd => exact answer_invert_skips counter _
  | nthAction n | nthAttack n | firstActions n | firstAttacks n | everyActions n =>
    simp only [Bool.and_eq_true, decide_eq_true_eq] at something
    simp only [answerNumbered, something.1, something.2, or_self, if_false]
    exact answer_invert_skips counter rng
  | waitEvery n =>
    simp only [Bool.and_eq_true, decide_eq_true_eq] at something
    simp only [something.1, something.2, if_false]
    split <;> rfl
  | maxTriggers limit =>
    simp only [Bool.and_eq_true, decide_eq_true_eq] at something
    simp [something.1]
  | afterHits target hits =>
    simp only [Bool.and_eq_true, decide_eq_true_eq] at something
    obtain ⟨landed, known⟩ := Option.isSome_iff_exists.1 something.1
    simp only [something.2, known, if_false]
    exact answer_invert_skips counter rng

/-- Which random words a gate draws depends neither on its counter nor on its being inverted. -/
theorem judge_rng (c : Condition) (plain inverted : Bool) (i j : UInt32) (m : Moment) (rng : Stream) :
    (judge ⟨c, plain⟩ i m rng).rng = (judge ⟨c, inverted⟩ j m rng).rng := by
  by_cases asleep : m.phase = .description
  · rw [judge, judge, if_pos asleep, if_pos asleep]
    rfl
  rw [judge, judge, if_neg asleep, if_neg asleep]
  cases c with
  | phase | chance | battleStart | battleEnd => rfl
  | nthAction | nthAttack | firstActions | firstAttacks | everyActions => simp only [answerNumbered_rng]
  | waitEvery n => grind [answer_rng, standAside]
  | maxTriggers limit => grind
  | afterHits target hits => grind [answer_rng, standAside]

/-- Inverted or not, a gate counts the same, unless it counts what it lets through. -/
theorem judge_invert_counter (blind : ∀ limit, c ≠ .maxTriggers limit) (counter : UInt32)
    (m : Moment) (rng : Stream) :
    (judge ⟨c, true⟩ counter m rng).counter = (judge ⟨c, false⟩ counter m rng).counter := by
  by_cases asleep : m.phase = .description
  · rw [judge, judge, if_pos asleep, if_pos asleep]
  rw [judge, judge, if_neg asleep, if_neg asleep]
  cases c with
  | phase | chance | battleStart | battleEnd => rfl
  | nthAction | nthAttack | firstActions | firstAttacks | everyActions =>
    simp only [answerNumbered_counter]
  | waitEvery n => grind [answer_counter]
  | maxTriggers limit => exact absurd rfl (blind limit)
  | afterHits target hits => grind [answer_counter]

/-! ## Several calls -/

variable {calls : List (Moment × Stream)}

theorem verdicts_rng (c : Condition) (plain inverted : Bool) (i j : UInt32)
    (calls : List (Moment × Stream)) :
    (verdicts ⟨c, plain⟩ i calls).map (·.rng) = (verdicts ⟨c, inverted⟩ j calls).map (·.rng) := by
  induction calls generalizing i j with
  | nil => rfl
  | cons call rest ih =>
    obtain ⟨m, rng⟩ := call
    simp only [verdicts, List.map_cons, judge_rng c plain inverted i j m rng]
    rw [ih]

/-- The answers of two gates that count alike stay opposite from call to call. -/
theorem verdicts_invert_skips (blind : ∀ limit, c ≠ .maxTriggers limit)
    (judged : ∀ call ∈ calls, c.judges call.1 = true) (counter : UInt32) :
    (verdicts ⟨c, true⟩ counter calls).map (·.skips) =
      (verdicts ⟨c, false⟩ counter calls).map (!·.skips) := by
  induction calls generalizing counter with
  | nil => rfl
  | cons call rest ih =>
    obtain ⟨m, rng⟩ := call
    have first := judge_invert_skips (judged (m, rng) List.mem_cons_self) counter rng
    have alike := judge_invert_counter blind counter m rng
    have later := ih (fun other h => judged other (List.mem_cons_of_mem _ h))
      (judge ⟨c, false⟩ counter m rng).counter
    simp only [verdicts, List.map_cons, first, alike, later]

/-- A gate that lets the first calls through is shut from then on. -/
theorem verdicts_maxTriggers {limit : UInt32}
    (judged : ∀ call ∈ calls, (Condition.maxTriggers limit).judges call.1 = true) (k : Nat) :
    (verdicts ⟨.maxTriggers limit, false⟩ (Condition.counted (.maxTriggers limit) k) calls).map
      (·.skips) = (List.range' k calls.length).map fun i => decide (limit.toNat ≤ i) := by
  induction calls generalizing k with
  | nil => rfl
  | cons call rest ih =>
    obtain ⟨m, rng⟩ := call
    have here := judged (m, rng) List.mem_cons_self
    simp only [Condition.judges, Bool.and_eq_true, decide_eq_true_eq] at here
    have later := ih (fun other h => judged other (List.mem_cons_of_mem _ h)) (k + 1)
    have spent : (!decide (k + 1 ≤ limit.toNat)) = decide (limit.toNat ≤ k) :=
      decide_not.symm.trans (decide_eq_decide.2 (by omega))
    simp only [verdicts, judge_maxTriggers here.1 here.2.1, List.map_cons, later, spent]
    rfl

/-- The inverted gate never lets a call through, and so it never counts one. -/
theorem verdicts_maxTriggers_inverted {limit : UInt32}
    (judged : ∀ call ∈ calls, (Condition.maxTriggers limit).judges call.1 = true) :
    (verdicts ⟨.maxTriggers limit, true⟩ 0 calls).map (·.skips) =
      List.replicate calls.length true := by
  induction calls with
  | nil => rfl
  | cons call rest ih =>
    obtain ⟨m, rng⟩ := call
    have here := judged (m, rng) List.mem_cons_self
    simp only [Condition.judges, Bool.and_eq_true, decide_eq_true_eq] at here
    have positive : 0 < limit := UInt32.pos_iff_ne_zero.2 here.2.2
    have shut : judge ⟨.maxTriggers limit, true⟩ 0 m rng = ⟨true, 0, rng⟩ := by
      simp [judge, here.1, here.2.1, positive]
    have later := ih fun other h => judged other (List.mem_cons_of_mem _ h)
    simp only [verdicts, shut, List.map_cons, later]
    rfl

/-- A gate and the inverted gate, both asked from the counter zero on in the same calls with the same
random words, give opposite answers in every call and draw the same words, if every call gives the
condition something to judge and the condition is not `maxTriggers`. Inverting `maxTriggers` turns
around the answer of a single call, and so of the calls up to the limit; after those both gates skip. -/
theorem verdicts_complement (c : Condition) (calls : List (Moment × Stream))
    (judged : ∀ call ∈ calls, c.judges call.1 = true) :
    let plain := verdicts ⟨c, false⟩ 0 calls
    let inverted := verdicts ⟨c, true⟩ 0 calls
    ((∀ limit, c ≠ .maxTriggers limit) → inverted.map (·.skips) = plain.map (!·.skips)) ∧
    (∀ limit, c = .maxTriggers limit →
      plain.map (·.skips) = (List.range calls.length).map (fun i => decide (limit.toNat ≤ i)) ∧
      inverted.map (·.skips) = List.replicate calls.length true) ∧
    inverted.map (·.rng) = plain.map (·.rng) ∧
    ∀ call ∈ calls, ∀ counter,
      (judge ⟨c, true⟩ counter call.1 call.2).skips =
        !(judge ⟨c, false⟩ counter call.1 call.2).skips := by
  intro plain inverted
  refine ⟨fun blind => verdicts_invert_skips blind judged 0, ?_, verdicts_rng c true false 0 0 calls,
    fun call h counter => judge_invert_skips (judged call h) counter call.2⟩
  rintro limit rfl
  have spent := verdicts_maxTriggers judged 0
  rw [Condition.counted_zero, ← List.range_eq_range'] at spent
  exact ⟨spent, verdicts_maxTriggers_inverted judged⟩

def threeAttacks : List (Moment × Stream) :=
  [(.ofAttack .attackModify .player 1 1, .ofSeed 0), (.ofAttack .attackModify .player 2 2, .ofSeed 0),
    (.ofAttack .attackModify .player 3 3, .ofSeed 0)]

/-- A gate that opens in every second attack, and the inverted gate. -/
theorem offbeat_complements :
    (∀ call ∈ threeAttacks, (Condition.waitEvery 2).judges call.1 = true) ∧
      (verdicts ⟨.waitEvery 2, false⟩ 0 threeAttacks).map (·.skips) = [true, false, true] ∧
      (verdicts ⟨.waitEvery 2, true⟩ 0 threeAttacks).map (·.skips) = [false, true, false] := by
  have judged : ∀ call ∈ threeAttacks, (Condition.waitEvery 2).judges call.1 = true := by decide
  have plain : (verdicts ⟨.waitEvery 2, false⟩ 0 threeAttacks).map (·.skips) =
      [true, false, true] := by decide
  obtain ⟨opposite, -⟩ := verdicts_complement (.waitEvery 2) threeAttacks judged
  refine ⟨judged, plain, (opposite fun _ => by simp).trans ?_⟩
  exact congrArg (List.map not) plain

/-- Not every inverted gate stays the complement: one trigger is spent by the plain gate in the first
attack, and from then on both gates skip. -/
theorem spent_gates_both_skip :
    ¬ ∀ (c : Condition) (calls : List (Moment × Stream)),
      (∀ call ∈ calls, call.1.phase ≠ .battleStart ∧ c.judges call.1 = true) →
      (verdicts ⟨c, true⟩ 0 calls).map (·.skips) = (verdicts ⟨c, false⟩ 0 calls).map (!·.skips) := by
  intro complement
  have judged : ∀ call ∈ threeAttacks,
      call.1.phase ≠ .battleStart ∧ (Condition.maxTriggers 1).judges call.1 = true := by decide
  have plain : (verdicts ⟨.maxTriggers 1, false⟩ 0 threeAttacks).map (!·.skips) =
      [true, false, false] := by decide
  have inverted : (verdicts ⟨.maxTriggers 1, true⟩ 0 threeAttacks).map (·.skips) =
      [true, true, true] := by decide
  have same := complement (.maxTriggers 1) threeAttacks judged
  rw [plain, inverted] at same
  contradiction

end Gate

end Masquerade
