import Mathlib.Algebra.BigOperators.Ring.Finset
import Mathlib.Data.Rat.Floor
import Mathlib.Tactic.NormNum
import PredictionLeague.Proofs.Prize.Split

/-!
# Even splits

A total with any number of places is cut to whole pennies and split evenly: the amounts differ by a
penny at most, the larger ones come first, and they add up to the pennies of the total. The quotient
is rounded to 28 digits on the way, and this never shows, however many winners there are.

* `Decimal.value`: the number that a decimal stands for;
* `Decimal.wholePennies`, `floor_value`: the pennies that are left when a total is cut;
* `Prize.SplitsEvenly`: amounts that split a number of pennies evenly;
* `split_eq`: the split of a total of any scale, a zero with a sign included;
* `distribute_splitsEvenly`: the split is even, and no rounding reaches it.
-/

namespace PredictionLeague

namespace Decimal

/-! ### The value of a decimal -/

/-- The number that a decimal stands for. -/
def value (d : Decimal) : ℚ :=
  (if d.negative then -1 else 1) * d.coefficient * (10 : ℚ) ^ d.exponent

/-- The whole pennies in the coefficient and scale of a decimal. -/
def wholePennies (d : Decimal) : Nat :=
  d.coefficient * tens (d.exponent + 2).toNat / tens (-(d.exponent + 2)).toNat

theorem cast_tens (n : Nat) : ((tens n : Nat) : ℚ) = 10 ^ n := by
  exact_mod_cast congrArg (Nat.cast (R := ℚ)) (show tens n = 10 ^ n from rfl)

/-- A decimal with two places stands for its coefficient of pennies. -/
theorem value_pennies (negative : Bool) (n : Nat) :
    value ⟨negative, n, -2⟩ = (if negative then -1 else 1) * n / 100 := by
  rw [value, show (10 : ℚ) ^ (-2 : ℤ) = 1 / 100 by norm_num]
  ring

/-- Pennies that have a sign only when there are none. -/
theorem value_pennies_of_sign {negative : Bool} {n : Nat} (h : negative = true → n = 0) :
    value ⟨negative, n, -2⟩ = n / 100 := by
  rw [value_pennies]
  cases hnegative : negative with
  | false => rw [if_neg Bool.false_ne_true, one_mul]
  | true => simp [h hnegative]

/-- A scale is finer than pennies by some places, or coarser. -/
theorem exponent_cases (e : ℤ) : (∃ k : Nat, e = -2 - k) ∨ ∃ k : Nat, e = -2 + k := by
  rcases Int.le_total e (-2) with h | h
  · exact .inl ⟨(-2 - e).toNat, by omega⟩
  · exact .inr ⟨(e + 2).toNat, by omega⟩

theorem wholePennies_finer (negative : Bool) (c k : Nat) :
    wholePennies ⟨negative, c, -2 - k⟩ = c / tens k := by
  have hup : (-2 - (k : ℤ) + 2).toNat = 0 := by omega
  have hdown : (-(-2 - (k : ℤ) + 2)).toNat = k := by omega
  rw [wholePennies, hup, hdown, tens_zero, Nat.mul_one]

theorem wholePennies_coarser (negative : Bool) (c k : Nat) :
    wholePennies ⟨negative, c, -2 + k⟩ = c * tens k := by
  have hup : (-2 + (k : ℤ) + 2).toNat = k := by omega
  have hdown : (-(-2 + (k : ℤ) + 2)).toNat = 0 := by omega
  rw [wholePennies, hup, hdown, tens_zero, Nat.div_one]

theorem wholePennies_zero (negative : Bool) (e : ℤ) : wholePennies ⟨negative, 0, e⟩ = 0 := by
  rw [wholePennies, Nat.zero_mul, Nat.zero_div]

/-- The whole pennies are the value in pennies, cut. -/
theorem floor_value (c : Nat) (e : ℤ) :
    ⌊value ⟨false, c, e⟩ * 100⌋ = (wholePennies ⟨false, c, e⟩ : ℤ) := by
  have hvalue : value ⟨false, c, e⟩ * 100 = c * (10 : ℚ) ^ (e + 2) := by
    rw [value, if_neg Bool.false_ne_true, zpow_add₀ (by norm_num)]
    norm_num
    ring
  rw [hvalue]
  rcases exponent_cases e with ⟨k, rfl⟩ | ⟨k, rfl⟩
  · have hquotient : (c : ℚ) * 10 ^ (-2 - (k : ℤ) + 2) = (c : ℚ) / (tens k : Nat) := by
      rw [show -2 - (k : ℤ) + 2 = -k by ring, zpow_neg, zpow_natCast, cast_tens, div_eq_mul_inv]
    rw [hquotient, wholePennies_finer]
    exact Rat.floor_natCast_div_natCast c (tens k)
  · have hproduct : (c : ℚ) * 10 ^ (-2 + (k : ℤ) + 2) = ((c * tens k : Nat) : ℚ) := by
      rw [show -2 + (k : ℤ) + 2 = k by ring, zpow_natCast, Nat.cast_mul, cast_tens]
    rw [hproduct, wholePennies_coarser]
    exact Int.floor_natCast _

/-- A decimal that is not below zero has no sign, or it is a zero. -/
theorem zero_or_plain {d : Decimal} (h : 0 ≤ d.value) :
    d.negative = false ∨ d.coefficient = 0 := by
  by_contra hnot
  rw [not_or, Bool.not_eq_false] at hnot
  have hcoefficient : (0 : ℚ) < d.coefficient := Nat.cast_pos.2 (Nat.pos_of_ne_zero hnot.2)
  have hneg : d.value < 0 := by
    rw [value, if_pos hnot.1, neg_one_mul, neg_mul, neg_lt_zero]
    exact mul_pos hcoefficient (zpow_pos (by norm_num) _)
  exact absurd h (not_le.2 hneg)

theorem floor_value_of_nonneg {d : Decimal} (h : 0 ≤ d.value) :
    ⌊d.value * 100⌋ = (d.wholePennies : ℤ) := by
  obtain ⟨negative, c, e⟩ := d
  rcases zero_or_plain h with rfl | rfl
  · exact floor_value c e
  · rw [wholePennies_zero]
    simp [value]

/-! ### Cutting to pennies -/

/-- A decimal with fewer places than pennies is an amount of pennies as it is. -/
theorem truncated_coarser {c k : Nat} (h : c * tens k < tens digitLimit) :
    (⟨false, c, -2 + k⟩ : Decimal).truncated? digitLimit 2 = some (whole (c * tens k)) := by
  have hunfold : (⟨false, c, -2 + k⟩ : Decimal).truncated? digitLimit 2 =
      if c = 0 then some (whole 0)
      else if (digitLimit : Int) < digitCount c + (-2 + k) + (2 : Nat) then none
      else if digitCount c + (-2 + (k : Int)) + (2 : Nat) ≤ 0 then some (whole 0)
      else some (whole (c * tens (-2 + (k : Int) + (2 : Nat)).toNat /
        tens (-(-2 + (k : Int) + (2 : Nat))).toNat)) := rfl
  have hpos := digitCount_pos c
  rw [hunfold]
  split_ifs with hzero hmany hfew
  · rw [hzero, Nat.zero_mul]
  · -- With too many digits the pennies would be too many as well.
    have hscale : k < digitLimit := by
      by_contra hlarge
      have hle : tens digitLimit * 1 ≤ tens k * c :=
        Nat.mul_le_mul (tens_le (Nat.not_lt.1 hlarge)) (Nat.pos_of_ne_zero hzero)
      rw [Nat.mul_one, Nat.mul_comm] at hle
      omega
    have hdigits : digitCount c ≤ digitLimit - k := by
      rw [digitCount_le_iff (by omega)]
      refine Nat.lt_of_mul_lt_mul_right (a := tens k) ?_
      rwa [← tens_add, Nat.sub_add_cancel (Nat.le_of_lt hscale)]
    omega
  · omega
  · have hup : (-2 + (k : Int) + (2 : Nat)).toNat = k := by omega
    have hdown : (-(-2 + (k : Int) + (2 : Nat))).toNat = 0 := by omega
    rw [hup, hdown, tens_zero, Nat.div_one]

/-- A total that is not below zero is cut to its whole pennies. -/
theorem truncated_eq {c : Nat} {e : ℤ}
    (h : wholePennies ⟨false, c, e⟩ < tens digitLimit) :
    (⟨false, c, e⟩ : Decimal).truncated? digitLimit 2 =
      some (whole (wholePennies ⟨false, c, e⟩)) := by
  rcases exponent_cases e with ⟨k, rfl⟩ | ⟨k, rfl⟩
  · rw [wholePennies_finer] at h ⊢
    refine truncated_places ((digitCount_le_iff (Nat.add_pos_left (by decide) k)).2 ?_)
    rwa [tens_add, ← Nat.div_lt_iff_lt_mul (tens_pos k)]
  · rw [wholePennies_coarser] at h ⊢
    exact truncated_coarser h

/-- The sign of a zero stays when it is cut. -/
theorem truncated_of_plain {d : Decimal} (hsign : d.negative = false ∨ d.coefficient = 0)
    (h : d.wholePennies < tens digitLimit) :
    d.truncated? digitLimit 2 = some ⟨d.negative, d.wholePennies, -2⟩ := by
  obtain ⟨negative, c, e⟩ := d
  rcases hsign with rfl | rfl
  · exact truncated_eq h
  · rw [wholePennies_zero]
    rfl

end Decimal

namespace Prize

open Decimal

/-! ### The shares -/

/-- The shares in pennies, one by one. -/
theorem getElem_shares {t n i : Nat} (h : i < (shares t n).length) :
    (shares t n)[i] = if i < t % n then t / n + 1 else t / n := by
  simp only [shares, List.getElem_map, List.getElem_range]

/-- Larger shares come first. -/
theorem pairwise_shares (t n : Nat) : (shares t n).Pairwise (· ≥ ·) := by
  refine List.pairwise_iff_getElem.2 fun i j hi hj hij => ?_
  rw [getElem_shares hi, getElem_shares hj]
  split_ifs <;> omega

/-- Shares differ by a penny at most. -/
theorem share_close {t n a b : Nat} (ha : a ∈ shares t n) (hb : b ∈ shares t n) : a ≤ b + 1 := by
  obtain ⟨i, -, rfl⟩ := List.mem_map.1 ha
  obtain ⟨j, -, rfl⟩ := List.mem_map.1 hb
  split_ifs <;> omega

/-- Amounts that split a number of pennies evenly among a number of winners. -/
structure SplitsEvenly (pennies count : ℤ) (amounts : List Decimal) : Prop where
  length : (amounts.length : ℤ) = count
  /-- Amounts have exactly two places. -/
  places : ∀ amount ∈ amounts, amount.exponent = -2
  /-- The pennies that are left over go one each to the first winners. -/
  share : ∀ (i : Nat) (h : i < amounts.length), amounts[i].value =
    ((pennies / count + if (i : ℤ) < pennies % count then 1 else 0 : ℤ) : ℚ) / 100
  descending : amounts.Pairwise fun a b => b.value ≤ a.value
  sum : (amounts.map Decimal.value).sum = (pennies : ℚ) / 100
  close : ∀ a ∈ amounts, ∀ b ∈ amounts, a.value ≤ b.value + 1 / 100

/-- The shares of a number of pennies, written with two places, split it evenly; a sign is only
written before zeros. -/
theorem splitsEvenly_shares {negative : Bool} {t n : Nat} (hn : 0 < n)
    (hsign : negative = true → t = 0) :
    SplitsEvenly t n ((shares t n).map fun share => ⟨negative, share, -2⟩) := by
  have hvalue : ∀ share ∈ shares t n, value ⟨negative, share, -2⟩ = (share : ℚ) / 100 :=
    fun share hshare => value_pennies_of_sign fun hnegative =>
      Nat.le_zero.1 (hsign hnegative ▸ share_le hshare)
  refine ⟨by simp, ?_, ?_, ?_, ?_, ?_⟩
  · intro amount hamount
    obtain ⟨share, -, rfl⟩ := List.mem_map.1 hamount
    rfl
  · intro i h
    rw [List.length_map] at h
    rw [List.getElem_map, hvalue _ (List.getElem_mem h), getElem_shares h]
    congr 1
    split_ifs <;> norm_cast <;> first | rfl | omega
  · refine List.pairwise_map.2 ((pairwise_shares t n).imp_of_mem fun ha hb hle => ?_)
    rw [hvalue _ ha, hvalue _ hb]
    exact div_le_div_of_nonneg_right (Nat.cast_le.2 hle) (by norm_num)
  · have hsum : ((shares t n).map fun share : Nat => (share : ℚ) / 100).sum = (t : ℚ) / 100 := by
      simp only [div_eq_mul_inv]
      rw [List.sum_map_mul_right, ← Nat.cast_list_sum, sum_shares t hn]
    rw [List.map_map, Int.cast_natCast, ← hsum]
    exact congrArg List.sum (List.map_congr_left hvalue)
  · intro a ha b hb
    obtain ⟨share, hshare, rfl⟩ := List.mem_map.1 ha
    obtain ⟨share', hshare', rfl⟩ := List.mem_map.1 hb
    rw [hvalue _ hshare, hvalue _ hshare', ← add_div]
    refine div_le_div_of_nonneg_right ?_ (by norm_num)
    exact_mod_cast share_close hshare hshare'

/-! ### The split -/

/-- The split of a total of any scale is that of its whole pennies. -/
theorem split_of_truncated {total : Decimal} {t n : Nat}
    (h : total.truncated? digitLimit 2 = some (whole t)) (ht : t < tens 27) (hn : 0 < n) :
    split total n = .ok ((shares t n).map whole) := by
  have hlimit : tens 27 < tens digitLimit := by decide
  have hsame : split total n = split (whole t) n := by
    rw [split, split, h, truncated_whole (by omega)]
  rw [hsame, split_whole ht hn]

/-- The quotient of a zero is a zero. -/
theorem truncated_quotient_zero (negative : Bool) (n : Nat) :
    (quotient digitLimit ⟨negative, 0, -2⟩ n).truncated? digitLimit 2 =
      some ⟨negative, 0, -2⟩ := by
  have hnearest (d : Nat) : nearest 0 d = 0 := by simp [nearest]
  have hzero : (quotient digitLimit ⟨negative, 0, -2⟩ n).coefficient = 0 := by
    simp only [quotient, Nat.zero_mul, hnearest]
  rw [truncated?, if_pos hzero]
  rfl

/-- A zero with a sign is split into zeros with a sign. -/
theorem split_minusZero (e : ℤ) (n : Nat) :
    split ⟨true, 0, e⟩ n = .ok ((shares 0 n).map fun share => ⟨true, share, -2⟩) := by
  rcases Nat.eq_zero_or_pos n with rfl | hn
  · rfl
  have hshares : shares 0 n = (List.range n).map fun _ => 0 := by
    refine List.map_congr_left fun i _ => ?_
    rw [Nat.zero_mod, if_neg (Nat.not_lt_zero i), Nat.zero_div]
  have htotal : truncated? digitLimit 2 ⟨true, 0, e⟩ = some ⟨true, 0, -2⟩ := rfl
  have hproduct : (⟨true, 0, -2⟩ * ofInt n : Decimal) = ⟨true, 0, -2⟩ := by
    show mul ⟨true, 0, -2⟩ (ofUnits 0 n false) = _
    simp [mul, ofUnits]
  have hleft :
      ((⟨true, 0, -2⟩ - ((⟨true, 0, -2⟩ * ofInt n : Decimal).kept)).kept.units (-2)) = 0 := by
    rw [hproduct]
    decide
  rw [split, if_neg (Nat.ne_of_gt hn), htotal]
  simp only [truncated_quotient_zero]
  rw [hleft, hshares, List.map_map]
  refine congrArg _ (List.map_congr_left fun i _ => ?_)
  rw [if_neg (by omega)]
  rfl

/-- A total of any scale is split to the penny. -/
theorem split_eq {total : Decimal} (h : total.negative = false ∨ total.coefficient = 0)
    (ht : total.wholePennies < tens 27) {n : Nat} (hn : 0 < n) :
    split total n = .ok ((shares total.wholePennies n).map fun share =>
      ⟨total.negative, share, -2⟩) := by
  have hlimit : tens 27 < tens digitLimit := by decide
  obtain ⟨negative, c, e⟩ := total
  cases negative with
  | false => exact split_of_truncated (truncated_eq (by omega)) ht hn
  | true =>
    obtain rfl : c = 0 := h.resolve_left (by simp)
    rw [wholePennies_zero]
    exact split_minusZero e n

/-- The quotient of the whole pennies of a total, rounded to 28 digits and cut to pennies, is the
exact quotient cut to pennies. -/
theorem value_truncated_quotient {negative : Bool} {t n : Nat} (ht : t < tens 27) (hn : 0 < n)
    (hsign : negative = true → t = 0) :
    ∃ share, (quotient digitLimit ⟨negative, t, -2⟩ n).truncated? digitLimit 2 = some share ∧
      share.value = (⌊value ⟨negative, t, -2⟩ / n * 100⌋ : ℚ) / 100 := by
  have hexact : value ⟨negative, t, -2⟩ / n * 100 = (t : ℚ) / n := by
    rw [value_pennies_of_sign hsign]
    ring
  have hshare : (quotient digitLimit ⟨negative, t, -2⟩ n).truncated? digitLimit 2 =
      some ⟨negative, t / n, -2⟩ := by
    cases hnegative : negative with
    | false => exact truncated_quotient ht hn
    | true =>
      obtain rfl : t = 0 := hsign hnegative
      rw [Nat.zero_div]
      exact truncated_quotient_zero true n
  have hnone : negative = true → t / n = 0 := fun hnegative => by
    rw [hsign hnegative, Nat.zero_div]
  refine ⟨_, hshare, ?_⟩
  rw [value_pennies_of_sign hnone, hexact, Rat.floor_natCast_div_natCast, ← Int.natCast_div,
    Int.cast_natCast]

/-- A total below ten to the power 25, of any number of places, is split evenly among any number of
winners. The total is cut to its whole pennies, and the share to the whole pennies of the exact
quotient: the rounding to 28 digits does not show in it. -/
theorem distribute_splitsEvenly {total : Decimal} {count : ℤ} (hnonneg : 0 ≤ total.value)
    (hbelow : total.value < 10 ^ 25) (hcount : 1 ≤ count) :
    (∃ amounts, distribute (.finite total) count = .ok amounts ∧
      SplitsEvenly ⌊total.value * 100⌋ count amounts) ∧
    ∃ cut share, total.truncated? digitLimit 2 = some cut ∧
      cut.value = (⌊total.value * 100⌋ : ℚ) / 100 ∧
      (cut.quotient digitLimit count.toNat).truncated? digitLimit 2 = some share ∧
      share.value = (⌊cut.value / count * 100⌋ : ℚ) / 100 := by
  obtain ⟨n, rfl⟩ : ∃ n : Nat, count = n := ⟨count.toNat, by omega⟩
  have hn : 0 < n := by omega
  have hsign := zero_or_plain hnonneg
  have hfloor : ⌊total.value * 100⌋ = (total.wholePennies : ℤ) := floor_value_of_nonneg hnonneg
  have hpennies : total.wholePennies < tens 27 := by
    have hfew : ⌊total.value * 100⌋ < (10 ^ 27 : ℤ) := by
      rw [Int.floor_lt]
      push_cast
      linarith
    rw [hfloor] at hfew
    exact_mod_cast hfew
  have hzero : total.negative = true → total.wholePennies = 0 := by
    obtain ⟨negative, c, e⟩ := total
    rintro rfl
    obtain rfl : c = 0 := hsign.resolve_left (by simp)
    exact wholePennies_zero true e
  have hlimit : tens 27 < tens digitLimit := by decide
  rw [hfloor]
  constructor
  · refine ⟨_, ?_, splitsEvenly_shares hn hzero⟩
    rw [distribute, if_neg (by omega)]
    exact split_eq hsign hpennies hn
  · obtain ⟨share, hshare, hvalue⟩ := value_truncated_quotient hpennies hn hzero
    exact ⟨_, share, truncated_of_plain hsign (by omega), value_pennies_of_sign hzero, hshare,
      hvalue⟩

/-- A total just below the bound, with four places, is cut to 27 digits of pennies, and seven
winners share them. -/
theorem splitsEvenly_among_seven :
    let total : Decimal := ⟨false, 99999999999999999999999999999, -4⟩
    0 ≤ total.value ∧ total.value < 10 ^ 25 ∧
      ∃ amounts, distribute (.finite total) 7 = .ok amounts ∧
        SplitsEvenly 999999999999999999999999999 7 amounts := by
  intro total
  have hvalue : total.value = 99999999999999999999999999999 / 10 ^ 4 := by
    norm_num [total, value]
  have hnonneg : 0 ≤ total.value := by
    rw [hvalue]
    norm_num
  have hbelow : total.value < 10 ^ 25 := by
    rw [hvalue]
    norm_num
  have hfloor : ⌊total.value * 100⌋ = 999999999999999999999999999 := floor_value _ _
  refine ⟨hnonneg, hbelow, ?_⟩
  rw [← hfloor]
  exact (distribute_splitsEvenly hnonneg hbelow (by decide)).1

end Prize

end PredictionLeague
