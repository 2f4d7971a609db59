import PredictionLeague.Proofs.Prize.Split
import PredictionLeague.Report

/-!
# Sums of money

A sum of amounts starts at a zero without places and gets two places with the first amount. As long
as the amounts have at most 28 digits in all, their sums and differences are exact.

* `Decimal.atMost_iff`: decimals compare as their integers at any scale that is fine enough, so the
  comparison is total and transitive;
* `Decimal.shown`: a zero without places, or an amount with two places once something was added;
* `shown_add`, `shown_sub`, `kept_shown`, `atMost_shown`: calculating with them;
* `Report.sum_eq_shown`: the sum of amounts that have at most 28 digits in all.
-/

namespace PredictionLeague

namespace Decimal

/-! ### Comparison -/

/-- At a scale that is finer by some places a decimal has as many more digits. -/
theorem units_scale {d : Decimal} {scale : Int} (h : scale ≤ d.exponent) (places : Nat) :
    d.units (scale - places) = d.units scale * tens places := by
  have hplaces : (d.exponent - (scale - places)).toNat = (d.exponent - scale).toNat + places := by
    omega
  rw [units, units, hplaces, tens_add, ← Nat.mul_assoc]
  split
  · rw [Int.natCast_mul, Int.neg_mul]
  · rw [Int.natCast_mul]

/-- Decimals compare as their integers at any scale that is fine enough for both. -/
theorem atMost_iff {a b : Decimal} {scale : Int} (ha : scale ≤ a.exponent)
    (hb : scale ≤ b.exponent) : a.atMost b = true ↔ a.units scale ≤ b.units scale := by
  obtain ⟨places, hplaces⟩ : ∃ places : Nat, scale = min a.exponent b.exponent - places :=
    ⟨(min a.exponent b.exponent - scale).toNat, by omega⟩
  have hpos : (0 : Int) < tens places := Int.natCast_pos.2 (tens_pos places)
  rw [hplaces, units_scale (Int.min_le_left ..), units_scale (Int.min_le_right ..), atMost,
    decide_eq_true_iff]
  exact (Int.mul_le_mul_right hpos).symm

theorem atMost_total (a b : Decimal) : a.atMost b = true ∨ b.atMost a = true := by
  rw [atMost_iff (Int.min_le_left a.exponent b.exponent) (Int.min_le_right ..),
    atMost_iff (Int.min_le_right a.exponent b.exponent) (Int.min_le_left ..)]
  exact Int.le_total ..

theorem atMost_trans {a b c : Decimal} (hab : a.atMost b = true) (hbc : b.atMost c = true) :
    a.atMost c = true := by
  have hscale : ∃ scale, scale ≤ a.exponent ∧ scale ≤ b.exponent ∧ scale ≤ c.exponent :=
    ⟨min a.exponent (min b.exponent c.exponent), by omega, by omega, by omega⟩
  obtain ⟨scale, ha, hb, hc⟩ := hscale
  rw [atMost_iff ha hb] at hab
  rw [atMost_iff hb hc] at hbc
  exact (atMost_iff ha hc).2 (Int.le_trans hab hbc)

/-! ### Amounts in calculations -/

theorem units_ofUnits (scale n : Int) (minusZero : Bool) :
    (ofUnits scale n minusZero).units scale = n := by
  rw [units, ofUnits, Int.sub_self, Int.toNat_zero, tens_zero, Nat.mul_one]
  dsimp only
  rcases Int.lt_trichotomy n 0 with hneg | rfl | hpos
  · rw [decide_eq_true hneg, Bool.true_or, if_pos rfl]
    omega
  · cases minusZero <;> rfl
  · rw [decide_eq_false (by omega), beq_eq_false_iff_ne.2 (by omega), Bool.false_and,
      Bool.or_false, if_neg Bool.false_ne_true]
    omega

/-- A sum has no sign of its own unless it is a zero of two negative parts. -/
theorem add_exact {a b : Decimal} {scale : Int} (hscale : min a.exponent b.exponent = scale)
    (hsign : a.negative = true → b.negative = true → a.units scale + b.units scale ≠ 0) :
    a + b = ofUnits scale (a.units scale + b.units scale) false := by
  subst hscale
  show ofUnits _ _ (a.negative && b.negative) = _
  cases ha : a.negative <;> cases hb : b.negative <;> try rfl
  simp [ofUnits, hsign ha hb]

theorem units_neg (scale : Int) (d : Decimal) : (-d).units scale = -d.units scale := by
  show (if !d.negative then _ else _) = -(if d.negative then _ else _)
  cases d.negative
  · rfl
  · exact (Int.neg_neg _).symm

theorem sub_exact {a b : Decimal} {scale : Int} (hscale : min a.exponent b.exponent = scale)
    (hsign : a.negative = true → b.negative = false → a.units scale - b.units scale ≠ 0) :
    a - b = ofUnits scale (a.units scale - b.units scale) false := by
  show a + -b = _
  rw [Int.sub_eq_add_neg, ← units_neg]
  refine add_exact hscale fun ha hb => ?_
  rw [units_neg, ← Int.sub_eq_add_neg]
  exact hsign ha ((Bool.not_eq_true' b.negative).mp hb)

/-- What a sum of amounts shows: a zero without places when there are none, and an amount with two
places otherwise. -/
def shown (some : Bool) (pennies : Int) : Decimal :=
  if some then .ofPennies pennies else .ofInt 0

section Shown

variable {p q : Bool} {m n : Int}

theorem exponent_shown (p : Bool) (n : Int) : (shown p n).exponent = if p then -2 else 0 := by
  cases p <;> rfl

theorem negative_shown (h : p = false → n = 0) : (shown p n).negative = true ↔ n < 0 := by
  cases p with
  | false => simp [shown, ofInt, ofUnits, h rfl]
  | true => simp [shown, ofPennies, ofUnits]

theorem units_shown (h : p = false → n = 0) : (shown p n).units (-2) = n := by
  cases p with
  | false => simp [shown, units, ofInt, ofUnits, h rfl]
  | true => exact units_ofUnits (-2) n false

theorem shown_add (hm : p = false → m = 0) (hn : q = false → n = 0) :
    shown p m + shown q n = shown (p || q) (m + n) := by
  by_cases hsome : p = false ∧ q = false
  · obtain ⟨rfl, rfl⟩ := hsome
    rfl
  · have hscale : min (shown p m).exponent (shown q n).exponent = -2 := by
      rw [exponent_shown, exponent_shown]
      cases p <;> cases q <;> simp_all
    rw [add_exact hscale, units_shown hm, units_shown hn]
    · cases p <;> cases q <;> first | rfl | simp at hsome
    · rw [negative_shown hm, negative_shown hn, units_shown hm, units_shown hn]
      omega

theorem shown_sub (hn : q = false → n = 0) (hqp : q = true → p = true) :
    shown p m - shown q n = shown p (m - n) := by
  cases p with
  | false =>
    obtain rfl : q = false := by simpa using hqp
    rfl
  | true =>
    have hscale : min (shown true m).exponent (shown q n).exponent = -2 := by
      rw [exponent_shown, exponent_shown]
      cases q <;> rfl
    have hm : true = false → m = 0 := fun h => absurd h (by decide)
    rw [sub_exact hscale, units_shown hm, units_shown hn]
    · rfl
    · rw [negative_shown hm, ← Bool.not_eq_true, negative_shown hn, units_shown hm, units_shown hn]
      omega

/-- An amount of at most 28 digits is kept as it is. -/
theorem kept_shown (p : Bool) (h : n.natAbs < tens digitLimit) :
    (shown p n).kept = shown p n := by
  have hfew : digitCount (shown p n).coefficient ≤ digitLimit := by
    rw [digitCount_le_iff (by decide)]
    cases p with
    | false => exact tens_pos digitLimit
    | true => exact h
  rw [kept, rounded, Nat.sub_eq_zero_of_le hfew]
  rfl

theorem atMost_shown (hm : p = false → m = 0) (hn : q = false → n = 0) :
    (shown p m).atMost (shown q n) = true ↔ m ≤ n := by
  have hscale (p : Bool) (n : Int) : -2 ≤ (shown p n).exponent := by
    rw [exponent_shown]
    split <;> decide
  rw [atMost_iff (hscale p m) (hscale q n), units_shown hm, units_shown hn]

end Shown

end Decimal

namespace Report

open Decimal

/-- A sum of amounts that have at most 28 digits in all is exact. -/
theorem sum_eq_shown {amounts : List Int}
    (h : (amounts.map Int.natAbs).sum < tens digitLimit) :
    sum amounts = shown (!amounts.isEmpty) amounts.sum := by
  -- The sum up to any amount is exact, for it has at most as many digits.
  have hfold (amounts : List Int) (p : Bool) (n : Int) (hn : p = false → n = 0)
      (h : n.natAbs + (amounts.map Int.natAbs).sum < tens digitLimit) :
      amounts.foldl (fun total amount => (total + .ofPennies amount).kept) (shown p n) =
        shown (p || !amounts.isEmpty) (n + amounts.sum) := by
    induction amounts generalizing p n with
    | nil => simp
    | cons amount amounts ih =>
      rw [List.map_cons, List.sum_cons] at h
      have hadd : shown p n + .ofPennies amount = shown true (n + amount) := by
        have hshown := shown_add (q := true) (n := amount) hn (by simp)
        rwa [Bool.or_true] at hshown
      rw [List.foldl_cons, hadd, kept_shown true (by omega), ih true _ (by simp) (by omega)]
      simp [Int.add_assoc]
  have hsum := hfold amounts false 0 (fun _ => rfl) (by simpa using h)
  rwa [Bool.false_or, Int.zero_add] at hsum

end Report

end PredictionLeague
