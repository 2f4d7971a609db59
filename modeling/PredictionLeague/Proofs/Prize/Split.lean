import Mathlib.Algebra.BigOperators.Group.List.Basic
import Mathlib.Tactic.Ring
import PredictionLeague.Prize.Split

/-!
# Splitting to the penny

A total below ten to the power 27 pennies is split among any number of winners as whole numbers
are: the rounding of the quotient to 28 digits never reaches the pennies.

* `Decimal.whole`: a number of pennies as a decimal;
* `nearest_div_tens`: rounding to the nearest does not carry into the pennies;
* `Prize.shares`: the shares in pennies, the larger ones first;
* `split_whole`, `sum_shares`: the split gives these shares, and they add up to the total.
-/

namespace PredictionLeague

namespace Decimal

/-- A number of pennies as a decimal with two places. -/
def whole (n : Nat) : Decimal := ⟨false, n, -2⟩

theorem ofPennies_eq_whole (n : Nat) : ofPennies n = whole n := by
  simp [ofPennies, ofUnits, whole]

theorem tens_pos (n : Nat) : 0 < tens n := Nat.pow_pos (by decide)

theorem tens_zero : tens 0 = 1 := rfl

theorem tens_add (m n : Nat) : tens (m + n) = tens m * tens n := Nat.pow_add 10 m n

theorem tens_le {m n : Nat} (h : m ≤ n) : tens m ≤ tens n := Nat.pow_le_pow_right (by decide) h

theorem digitCount_pos (n : Nat) : 0 < digitCount n := Nat.length_toDigits_pos

theorem digitCount_le_iff {n k : Nat} (hk : 0 < k) : digitCount n ≤ k ↔ n < tens k :=
  Nat.length_toDigits_le_iff (by decide) hk

theorem lt_tens_digitCount (n : Nat) : n < tens (digitCount n) :=
  (digitCount_le_iff (digitCount_pos n)).1 (Nat.le_refl _)

/-! ### Rounding to the nearest -/

theorem nearest_one (n : Nat) : nearest n 1 = n := by
  simp [nearest, Nat.mod_one]

theorem nearest_eq (n d : Nat) : nearest n d = n / d ∨ nearest n d = n / d + 1 := by
  simp only [nearest]
  split
  · exact .inr rfl
  · exact .inl rfl

/-- When the divisor has at most as many digits as are cut off, rounding a quotient up never reaches
the digits that stay. -/
theorem nearest_div_tens (t : Nat) {n k : Nat} (hn : 0 < n) (hk : n < tens k) :
    nearest (t * tens k) n / tens k = t / n := by
  have hfloor : t * tens k / n / tens k = t / n := by
    rw [Nat.div_div_eq_div_mul, Nat.mul_div_mul_right _ _ (tens_pos k)]
  rcases nearest_eq (t * tens k) n with h | h
  · rw [h, hfloor]
  rw [h]
  -- a carry would put the quotient within one unit below a multiple of the power of ten
  have hbelow : t * tens k / n + 1 < (t / n + 1) * tens k := by
    by_contra hcarry
    have hnext : (t + 1) * tens k ≤ n * (t / n + 1) * tens k :=
      Nat.mul_le_mul_right _ (Nat.lt_mul_div_succ t hn)
    have hquotient : n * ((t / n + 1) * tens k) ≤ n * (t * tens k / n + 1) :=
      Nat.mul_le_mul_left n (Nat.not_lt.1 hcarry)
    have hfloor : n * (t * tens k / n) ≤ t * tens k := Nat.mul_div_le _ _
    rw [Nat.mul_assoc] at hnext
    rw [Nat.mul_add, Nat.mul_one] at hquotient
    rw [Nat.add_mul, Nat.one_mul] at hnext
    omega
  refine Nat.le_antisymm (Nat.le_of_lt_succ ((Nat.div_lt_iff_lt_mul (tens_pos k)).2 hbelow)) ?_
  rw [← hfloor]
  exact Nat.div_le_div_right (Nat.le_succ _)

theorem kept_whole {n : Nat} (h : n < tens digitLimit) : (whole n).kept = whole n := by
  have hdigits : digitCount n ≤ digitLimit := (digitCount_le_iff (by decide)).2 h
  have hexcess : digitCount (whole n).coefficient - digitLimit = 0 := Nat.sub_eq_zero_of_le hdigits
  simp only [kept, rounded, hexcess, reduceIte]

/-- Cutting a decimal to pennies drops the digits behind them. -/
theorem truncated_places {c k : Nat} (hc : digitCount c ≤ digitLimit + k) :
    (⟨false, c, -2 - k⟩ : Decimal).truncated? digitLimit 2 = some (whole (c / tens k)) := by
  have hunfold : (⟨false, c, -2 - k⟩ : Decimal).truncated? digitLimit 2 =
      if c = 0 then some (whole 0)
      else if (digitLimit : Int) < digitCount c + (-2 - k) + (2 : Nat) then none
      else if digitCount c + (-2 - (k : Int)) + (2 : Nat) ≤ 0 then some (whole 0)
      else some (whole (c * tens (-2 - (k : Int) + (2 : Nat)).toNat /
        tens (-(-2 - (k : Int) + (2 : Nat))).toNat)) := rfl
  have hpos := digitCount_pos c
  rw [hunfold]
  split_ifs with hzero hmany hfew
  · rw [hzero, Nat.zero_div]
  · omega
  · have hbelow : c < tens k :=
      Nat.lt_of_lt_of_le (lt_tens_digitCount c) (tens_le (by omega))
    rw [Nat.div_eq_of_lt hbelow]
  · have hup : (-2 - (k : Int) + (2 : Nat)).toNat = 0 := by omega
    have hdown : (-(-2 - (k : Int) + (2 : Nat))).toNat = k := by omega
    rw [hup, hdown, tens_zero, Nat.mul_one]

theorem truncated_whole {n : Nat} (h : n < tens digitLimit) :
    (whole n).truncated? digitLimit 2 = some (whole n) := by
  have hfew : digitCount n ≤ digitLimit + 0 := (digitCount_le_iff (by decide)).2 h
  have hcut := truncated_places hfew
  rw [tens_zero, Nat.div_one] at hcut
  exact hcut

/-- A quotient of pennies is taken at a scale that cuts off at least the digits of the divisor. -/
theorem quotient_whole {t : Nat} (ht : t < tens 27) (n : Nat) :
    ∃ k : Nat, n < tens k ∧
      (whole t).quotient digitLimit n = ⟨false, nearest (t * tens k) n, -2 - k⟩ := by
  have hdigits : digitCount t ≤ 27 := (digitCount_le_iff (by decide)).2 ht
  let full : Int := (digitLimit : Nat) + digitCount n - digitCount t
  let scale : Int :=
    if digitCount (t * tens full.toNat / (n * tens (-full).toNat)) ≤ digitLimit then full
    else full - 1
  have hunfold : (whole t).quotient digitLimit n =
      ⟨false, nearest (t * tens scale.toNat) (n * tens (-scale).toNat), -2 - scale⟩ := rfl
  have hscale : (digitCount n : Int) ≤ scale := by
    have hlimit : (digitLimit : Nat) = 28 := rfl
    have hfull : full = (digitLimit : Nat) + digitCount n - digitCount t := rfl
    have hchoice : scale = full ∨ scale = full - 1 := ite_eq_or_eq ..
    omega
  obtain ⟨k, hk⟩ : ∃ k : Nat, scale = k := ⟨scale.toNat, by omega⟩
  have hdown : (-(k : Int)).toNat = 0 := by omega
  refine ⟨k, Nat.lt_of_lt_of_le (lt_tens_digitCount n) (tens_le (by omega)), ?_⟩
  rw [hunfold, hk, hdown, Int.toNat_natCast, tens_zero, Nat.mul_one]

/-- The quotient cut to pennies is the whole quotient. -/
theorem truncated_quotient {t n : Nat} (ht : t < tens 27) (hn : 0 < n) :
    ((whole t).quotient digitLimit n).truncated? digitLimit 2 = some (whole (t / n)) := by
  obtain ⟨k, hk, hquotient⟩ := quotient_whole ht n
  have hcut := nearest_div_tens t hn hk
  have hfew : digitCount (nearest (t * tens k) n) ≤ digitLimit + k := by
    refine (digitCount_le_iff (Nat.add_pos_left (by decide) k)).2 ?_
    rw [tens_add, ← Nat.div_lt_iff_lt_mul (tens_pos k), hcut]
    exact Nat.lt_of_le_of_lt (Nat.div_le_self t n) (Nat.lt_of_lt_of_le ht (tens_le (by decide)))
  rw [hquotient, truncated_places hfew, hcut]

/-! ### Sums and products of pennies -/

theorem whole_mul_ofInt (m n : Nat) : whole m * ofInt n = whole (m * n) := by
  show mul (whole m) (ofUnits 0 n false) = whole (m * n)
  simp [mul, whole, ofUnits]

theorem units_whole (n : Nat) : (whole n).units (-2) = n := by
  simp [units, whole, tens_zero]

theorem units_neg_whole (n : Nat) : (-whole n).units (-2) = -n := by
  show units (-2) ⟨true, n, -2⟩ = -n
  simp [units, tens_zero]

theorem whole_add (m n : Nat) : whole m + whole n = whole (m + n) := by
  show ofUnits (-2) ((whole m).units (-2) + (whole n).units (-2)) false = whole (m + n)
  rw [units_whole, units_whole, ← Int.natCast_add]
  exact ofPennies_eq_whole (m + n)

theorem whole_sub {m n : Nat} (h : n ≤ m) : whole m - whole n = whole (m - n) := by
  show ofUnits (-2) ((whole m).units (-2) + (-whole n).units (-2)) false = whole (m - n)
  rw [units_whole, units_neg_whole, ← Int.sub_eq_add_neg, ← Int.ofNat_sub h]
  exact ofPennies_eq_whole (m - n)

theorem pennies_whole (n : Nat) : (whole n).pennies = n := by
  show ((nearest (n * tens 0) (tens 0) : Nat) : Int) = n
  rw [tens_zero, Nat.mul_one, nearest_one]

end Decimal

namespace Prize

open Decimal

/-- The shares of `n` winners of a total of pennies: leftover pennies go one each to the first. -/
def shares (t n : Nat) : List Nat :=
  (List.range n).map fun i => if i < t % n then t / n + 1 else t / n

@[simp] theorem length_shares (t n : Nat) : (shares t n).length = n := by
  simp [shares]

theorem sum_range_larger (q r m : Nat) :
    ((List.range m).map fun i => if i < r then q + 1 else q).sum = m * q + min m r := by
  induction m with
  | zero => simp
  | succ m ih =>
    rw [List.range_succ, List.map_append, List.sum_append, ih, List.map_singleton,
      List.sum_singleton, Nat.succ_mul]
    split <;> omega

/-- The shares add up to the total. -/
theorem sum_shares (t : Nat) {n : Nat} (hn : 0 < n) : (shares t n).sum = t := by
  have hrem := Nat.mod_lt t hn
  rw [shares, sum_range_larger, Nat.min_eq_right (Nat.le_of_lt hrem)]
  exact Nat.div_add_mod t n

theorem share_le {t n share : Nat} (h : share ∈ shares t n) : share ≤ t := by
  obtain ⟨i, hi, rfl⟩ := List.mem_map.1 h
  have hn : 0 < n := Nat.lt_of_le_of_lt (Nat.zero_le i) (List.mem_range.1 hi)
  split
  · rename_i hlarger
    have hdiv : t / n * 1 ≤ t / n * n := Nat.mul_le_mul_left _ hn
    have hsum := Nat.div_add_mod' t n
    omega
  · exact Nat.div_le_self t n

/-- A total of pennies is split to the penny. -/
theorem split_whole {t n : Nat} (ht : t < tens 27) (hn : 0 < n) :
    split (whole t) n = .ok ((shares t n).map whole) := by
  have hlimit : tens 27 < tens digitLimit := by decide
  have hspent : t / n * n ≤ t := Nat.div_mul_le_self t n
  have hleft : t - t / n * n = t % n := by
    have := Nat.div_add_mod' t n
    omega
  have hshare : t / n ≤ t := Nat.div_le_self t n
  have hrest : t % n ≤ t := Nat.mod_le t n
  have hleftover :
      (((whole t) - (whole (t / n) * ofInt n).kept).kept.units (-2)) = (t % n : Nat) := by
    rw [whole_mul_ofInt, kept_whole (by omega), whole_sub hspent, hleft, kept_whole (by omega),
      units_whole]
  have hlarger : (whole (t / n) + penny).kept = whole (t / n + 1) := by
    show (whole (t / n) + whole 1).kept = _
    rw [whole_add, kept_whole (by omega)]
  have hunfold : split (whole t) n = .ok ((List.range n).map fun (i : Nat) =>
      if (i : Int) < ((whole t) - (whole (t / n) * ofInt n).kept).kept.units (-2) then
        (whole (t / n) + penny).kept else whole (t / n)) := by
    rw [split, if_neg (Nat.ne_of_gt hn), truncated_whole (by omega)]
    simp only [truncated_quotient ht hn]
  rw [hunfold, hleftover, hlarger, shares, List.map_map]
  refine congrArg _ (List.map_congr_left fun i _ => ?_)
  rw [Function.comp_apply, apply_ite whole]
  exact if_congr Int.ofNat_lt rfl rfl

/-- A decimal total is distributed by splitting it. -/
theorem distribute_finite (total : Decimal) (n : Nat) :
    distribute (.finite total) n = split total n := by
  rcases Nat.eq_zero_or_pos n with rfl | hn
  · rfl
  · rw [distribute, if_neg (by omega)]
    rfl

end Prize

end PredictionLeague
