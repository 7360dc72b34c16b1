import Schemata.Proofs.Decimal.Reading

/-!
# The shortest decimal of a double

The decimals whose last digit counts a given power of ten form a grid. On each grid the two decimals
around the value decide whether any lies in the interval of a double: what lies between the value
and a number of the interval belongs to it. Grids are tried from the power of ten below the value
downwards, so the first on which a decimal is found has the fewest digits. On the seventeenth there
is always one, because the interval is wider than the grid.

## Main definitions

* `Digits.value`: the number that digits and an exponent stand for.
* `Digits.IsShortest`: a decimal that reads as a double, with as few digits as possible, and among
  those the nearest.

## Main statements

* `Interval.onGrid?_spec`: what is found on a grid.
* `Interval.decimalExponent_spec`: the power of ten below the value.
* `Double.isShortest_shortest`: the decimal that is found is shortest.
-/

namespace Schemata.Decimal

/-- The number that digits and an exponent stand for. -/
def Digits.value (d : Digits) : ℚ := Nat.ofDigitChars 10 d.digits 0 * 10 ^ d.exponent

/-! ## Grids -/

namespace Interval

variable {i : Interval} (h : i.Proper) (e : ℤ)

/-- The value in the middle of an interval. -/
def middle (i : Interval) : ℚ := i.value / i.den

/-- The last multiple of a power of ten that is not above the value. -/
def below (i : Interval) (e : ℤ) : ℕ :=
  i.value * Nat.pow 10 (-e).toNat / (i.den * Nat.pow 10 e.toNat)

theorem ratio_eq (n : ℕ) (e : ℤ) :
    ((n * Nat.pow 10 e.toNat : ℕ) : ℚ) / (Nat.pow 10 (-e).toNat : ℕ) = n * 10 ^ e := by
  rw [Nat.pow_eq, Nat.pow_eq, Nat.cast_mul, mul_div_assoc]
  push_cast
  rw [pow_toNat_div]

include h

/-- The distance from a point of a grid, as a difference of natural numbers over one denominator. -/
theorem middle_sub (n : ℕ) : i.middle - n * 10 ^ e
    = ((i.value * Nat.pow 10 (-e).toNat : ℕ) - (n * (i.den * Nat.pow 10 e.toNat) : ℕ) : ℚ)
      / (i.den * Nat.pow 10 (-e).toNat : ℕ) := by
  have hden : (i.den : ℚ) ≠ 0 := Nat.cast_ne_zero.2 h.den_pos.ne'
  have hdown : ((Nat.pow 10 (-e).toNat : ℕ) : ℚ) ≠ 0 := by
    rw [Nat.pow_eq]
    positivity
  rw [← ratio_eq, middle]
  push_cast
  field_simp

theorem scale_pos : (0 : ℚ) < (i.den * Nat.pow 10 (-e).toNat : ℕ) :=
  Nat.cast_pos.2 (Nat.mul_pos h.den_pos (Nat.pow_pos (by norm_num)))

/-- The value lies on or after one point of a grid. -/
theorem below_le : (i.below e : ℚ) * 10 ^ e ≤ i.middle := by
  refine sub_nonneg.1 ?_
  rw [middle_sub h]
  refine div_nonneg (sub_nonneg.2 (Nat.cast_le.2 ?_)) (scale_pos h e).le
  exact Nat.div_mul_le_self _ _

/-- The value lies before the next point of a grid. -/
theorem lt_below_add_one : i.middle < ((i.below e + 1 : ℕ) : ℚ) * 10 ^ e := by
  refine sub_neg.1 ?_
  rw [middle_sub h]
  refine div_neg_of_neg_of_pos (sub_neg.2 (Nat.cast_lt.2 ?_)) (scale_pos h e)
  have hup : 0 < i.den * Nat.pow 10 e.toNat := Nat.mul_pos h.den_pos (Nat.pow_pos (by norm_num))
  exact (Nat.div_lt_iff_lt_mul hup).1 (Nat.lt_succ_self _)

/-- A point of a grid in the interval has one of the two around the value in it as well, which is
not farther from the value. -/
theorem has_below_or {k : ℕ} (hk : i.Has (k * 10 ^ e)) :
    (i.Has (i.below e * 10 ^ e) ∧ i.middle - i.below e * 10 ^ e ≤ |k * 10 ^ e - i.middle|)
      ∨ (i.Has ((i.below e + 1 : ℕ) * 10 ^ e)
        ∧ (i.below e + 1 : ℕ) * 10 ^ e - i.middle ≤ |k * 10 ^ e - i.middle|) := by
  have hpow : (0 : ℚ) < 10 ^ e := zpow_pos (by norm_num) e
  have hbelow := below_le h e
  have habove := lt_below_add_one h e
  rcases Nat.lt_or_ge (i.below e) k with hlt | hle
  · have hmul : ((i.below e + 1 : ℕ) : ℚ) * 10 ^ e ≤ k * 10 ^ e :=
      mul_le_mul_of_nonneg_right (Nat.cast_le.2 hlt) hpow.le
    refine .inr ⟨hk.between h (.inl ⟨habove.le, hmul⟩), ?_⟩
    rw [abs_of_nonneg (sub_nonneg.2 (habove.le.trans hmul))]
    exact sub_le_sub_right hmul _
  · have hmul : (k : ℚ) * 10 ^ e ≤ i.below e * 10 ^ e :=
      mul_le_mul_of_nonneg_right (Nat.cast_le.2 hle) hpow.le
    refine .inl ⟨hk.between h (.inr ⟨hmul, hbelow⟩), ?_⟩
    rw [abs_sub_comm, abs_of_nonneg (sub_nonneg.2 (hmul.trans hbelow))]
    exact sub_le_sub_left hmul _

/-- What is found on a grid: one of the two points around the value, in the interval, and no other
point of the grid in the interval is nearer. -/
structure Found (i : Interval) (e : ℤ) (d : ℕ) : Prop where
  around : d = i.below e ∨ d = i.below e + 1
  has : i.Has (d * 10 ^ e)
  nearest : ∀ k : ℕ, i.Has (k * 10 ^ e) → |d * 10 ^ e - i.middle| ≤ |k * 10 ^ e - i.middle|

theorem distance_below : i.middle - i.below e * 10 ^ e
    = (i.value * Nat.pow 10 (-e).toNat - i.below e * (i.den * Nat.pow 10 e.toNat) : ℕ)
      / (i.den * Nat.pow 10 (-e).toNat : ℕ) := by
  have hfloor : i.below e * (i.den * Nat.pow 10 e.toNat) ≤ i.value * Nat.pow 10 (-e).toNat :=
    Nat.div_mul_le_self _ _
  rw [middle_sub h, Nat.cast_sub hfloor]

theorem distance_above : (i.below e + 1 : ℕ) * 10 ^ e - i.middle
    = ((i.below e + 1) * (i.den * Nat.pow 10 e.toNat) - i.value * Nat.pow 10 (-e).toNat : ℕ)
      / (i.den * Nat.pow 10 (-e).toNat : ℕ) := by
  have hup : 0 < i.den * Nat.pow 10 e.toNat := Nat.mul_pos h.den_pos (Nat.pow_pos (by norm_num))
  have hceil : i.value * Nat.pow 10 (-e).toNat < (i.below e + 1) * (i.den * Nat.pow 10 e.toNat) :=
    (Nat.div_lt_iff_lt_mul hup).1 (Nat.lt_succ_self _)
  rw [← neg_sub, middle_sub h, ← neg_div, neg_sub, Nat.cast_sub hceil.le]

/-- The point below the value is found where the one above is not nearer or not in the interval. -/
theorem found_below (hbelow : i.Has (i.below e * 10 ^ e))
    (habove : i.Has ((i.below e + 1 : ℕ) * 10 ^ e) →
      i.middle - i.below e * 10 ^ e ≤ (i.below e + 1 : ℕ) * 10 ^ e - i.middle) :
    Found i e (i.below e) := by
  refine ⟨.inl rfl, hbelow, fun k hk => ?_⟩
  rw [abs_sub_comm, abs_of_nonneg (sub_nonneg.2 (below_le h e))]
  rcases has_below_or h e hk with ⟨-, hle⟩ | ⟨hhas, hle⟩
  · exact hle
  · exact (habove hhas).trans hle

/-- The point above the value is found where the one below is not nearer or not in the interval. -/
theorem found_above (habove : i.Has ((i.below e + 1 : ℕ) * 10 ^ e))
    (hbelow : i.Has (i.below e * 10 ^ e) →
      (i.below e + 1 : ℕ) * 10 ^ e - i.middle ≤ i.middle - i.below e * 10 ^ e) :
    Found i e (i.below e + 1) := by
  refine ⟨.inr rfl, habove, fun k hk => ?_⟩
  rw [abs_of_nonneg (sub_nonneg.2 (lt_below_add_one h e).le)]
  rcases has_below_or h e hk with ⟨hhas, hle⟩ | ⟨-, hle⟩
  · exact (hbelow hhas).trans hle
  · exact hle

/-- Something is found on a grid exactly if a point of it lies in the interval. -/
theorem onGrid?_spec : (∃ d, i.onGrid? e = some d ∧ Found i e d)
    ∨ (i.onGrid? e = none ∧ ∀ k : ℕ, ¬ i.Has (k * 10 ^ e)) := by
  have hdown : 0 < Nat.pow 10 (-e).toNat := Nat.pow_pos (by norm_num)
  have hholds (n : ℕ) : i.holds (n * Nat.pow 10 e.toNat) (Nat.pow 10 (-e).toNat) = true
      ↔ i.Has (n * 10 ^ e) := by
    rw [holds_iff h hdown, ratio_eq]
  have hdef : i.onGrid? e =
      if i.holds (i.below e * Nat.pow 10 e.toNat) (Nat.pow 10 (-e).toNat)
          && i.holds ((i.below e + 1) * Nat.pow 10 e.toNat) (Nat.pow 10 (-e).toNat) then
        let toFloor := i.value * Nat.pow 10 (-e).toNat - i.below e * (i.den * Nat.pow 10 e.toNat)
        let toCeil :=
          (i.below e + 1) * (i.den * Nat.pow 10 e.toNat) - i.value * Nat.pow 10 (-e).toNat
        if toFloor < toCeil || (toFloor == toCeil && i.below e % 2 == 0) then some (i.below e)
        else some (i.below e + 1)
      else if i.holds (i.below e * Nat.pow 10 e.toNat) (Nat.pow 10 (-e).toNat) then some (i.below e)
      else if i.holds ((i.below e + 1) * Nat.pow 10 e.toNat) (Nat.pow 10 (-e).toNat) then
        some (i.below e + 1)
      else none := rfl
  rw [hdef]
  have hbelow := hholds (i.below e)
  have habove := hholds (i.below e + 1)
  generalize i.holds (i.below e * Nat.pow 10 e.toNat) (Nat.pow 10 (-e).toNat) = floorHolds
    at hbelow ⊢
  generalize i.holds ((i.below e + 1) * Nat.pow 10 e.toNat) (Nat.pow 10 (-e).toNat) = ceilHolds
    at habove ⊢
  cases floorHolds <;> cases ceilHolds
  · -- neither is in the interval, and so no other point is
    refine .inr ⟨rfl, fun k hk => ?_⟩
    rcases has_below_or h e hk with ⟨hhas, -⟩ | ⟨hhas, -⟩
    · exact Bool.false_ne_true (hbelow.2 hhas)
    · exact Bool.false_ne_true (habove.2 hhas)
  · exact .inl ⟨_, rfl, found_above h e (habove.1 rfl) fun hhas =>
      absurd (hbelow.2 hhas) Bool.false_ne_true⟩
  · exact .inl ⟨_, rfl, found_below h e (hbelow.1 rfl) fun hhas =>
      absurd (habove.2 hhas) Bool.false_ne_true⟩
  · simp only [Bool.and_self, if_true]
    split_ifs with hnearer
    · refine .inl ⟨_, rfl, found_below h e (hbelow.1 rfl) fun _ => ?_⟩
      rw [distance_below h, distance_above h, div_le_div_iff_of_pos_right (scale_pos h e),
        Nat.cast_le]
      simp only [Bool.or_eq_true, decide_eq_true_eq, Bool.and_eq_true, beq_iff_eq] at hnearer
      omega
    · refine .inl ⟨_, rfl, found_above h e (habove.1 rfl) fun _ => ?_⟩
      rw [distance_below h, distance_above h, div_le_div_iff_of_pos_right (scale_pos h e),
        Nat.cast_le]
      simp only [Bool.or_eq_true, decide_eq_true_eq, Bool.and_eq_true, beq_iff_eq] at hnearer
      omega

theorem found_of_onGrid? {d : ℕ} (hd : i.onGrid? e = some d) : Found i e d := by
  rcases onGrid?_spec h e with ⟨d', hd', hfound⟩ | ⟨hnone, -⟩
  · rwa [Option.some.inj (hd.symm.trans hd')]
  · rw [hnone] at hd
    cases hd

theorem not_has_of_onGrid? (hnone : i.onGrid? e = none) (k : ℕ) : ¬ i.Has (k * 10 ^ e) := by
  rcases onGrid?_spec h e with ⟨d, hd, -⟩ | ⟨-, hnot⟩
  · rw [hnone] at hd
    cases hd
  · exact hnot k

end Interval

/-! ## The power of ten below -/

theorem pow_digitCount_le {n : ℕ} (hn : 0 < n) :
    10 ^ (digitCount n - 1) ≤ n ∧ n < 10 ^ digitCount n ∧ 0 < digitCount n := by
  have hlength : 0 < digitCount n := Nat.length_toDigits_pos
  refine ⟨?_, (Nat.length_toDigits_le_iff (by norm_num) hlength).1 le_rfl, hlength⟩
  rcases Nat.eq_or_lt_of_le (Nat.succ_le_of_lt hlength) with hone | hmore
  · rw [← hone]
    exact hn
  · refine not_lt.1 fun hlt => ?_
    have hle := (Nat.length_toDigits_le_iff (b := 10) (by norm_num) (by omega)).2 hlt
    have hsame : (Nat.toDigits 10 n).length = digitCount n := rfl
    omega

namespace Interval

variable {i : Interval} (h : i.Proper)

include h

theorem floor_middle (k : ℕ) : (i.value * Nat.pow 10 k / i.den : ℕ) ≤ i.middle * 10 ^ k
    ∧ i.middle * 10 ^ k < (i.value * Nat.pow 10 k / i.den + 1 : ℕ) := by
  have hden : (0 : ℚ) < i.den := Nat.cast_pos.2 h.den_pos
  have hmiddle : i.middle * 10 ^ k = (i.value * Nat.pow 10 k : ℕ) / i.den := by
    rw [middle, Nat.pow_eq, Nat.cast_mul, Nat.cast_pow, Nat.cast_ofNat, div_mul_eq_mul_div]
  rw [hmiddle, le_div_iff₀ hden, div_lt_iff₀ hden, ← Nat.cast_mul, ← Nat.cast_mul, Nat.cast_le,
    Nat.cast_lt]
  exact ⟨Nat.div_mul_le_self _ _, (Nat.div_lt_iff_lt_mul h.den_pos).1 (Nat.lt_succ_self _)⟩

theorem pow_le_middle {k : ℕ} (hbig : i.den ≤ i.value * Nat.pow 10 k) {e : ℤ}
    (he : e + (k + 1 : ℕ) = digitCount (i.value * Nat.pow 10 k / i.den)) :
    (10 : ℚ) ^ e ≤ i.middle ∧ i.middle < (10 : ℚ) ^ (e + 1) := by
  obtain ⟨hle, hlt⟩ := floor_middle h k
  have hn : 0 < i.value * Nat.pow 10 k / i.den := Nat.div_pos hbig h.den_pos
  generalize i.value * Nat.pow 10 k / i.den = n at hle hlt he hn
  obtain ⟨hlow, hhigh, hcount⟩ := pow_digitCount_le hn
  have hten : (0 : ℚ) < 10 ^ k := pow_pos (by norm_num) k
  have hscale (j : ℕ) : (10 : ℚ) ^ ((j : ℤ) - k) * 10 ^ k = (10 ^ j : ℕ) := by
    rw [zpow_sub₀ (by norm_num), zpow_natCast, zpow_natCast, div_mul_cancel₀ _ hten.ne',
      Nat.cast_pow, Nat.cast_ofNat]
  have hbelow : e = ((digitCount n - 1 : ℕ) : ℤ) - k := by omega
  have habove : e + 1 = (digitCount n : ℤ) - k := by omega
  constructor
  · refine (mul_le_mul_iff_of_pos_right hten).1 ?_
    rw [hbelow, hscale]
    exact (Nat.cast_le.2 hlow).trans hle
  · refine (mul_lt_mul_iff_of_pos_right hten).1 ?_
    rw [habove, hscale]
    exact hlt.trans_le (Nat.cast_le.2 hhigh)

/-- The value has the power of ten that is computed below it, and the next one above. -/
theorem decimalExponent_spec (hbig : i.den ≤ i.value * Nat.pow 10 400) :
    (10 : ℚ) ^ i.decimalExponent ≤ i.middle ∧ i.middle < (10 : ℚ) ^ (i.decimalExponent + 1) :=
  pow_le_middle h hbig (Int.sub_add_cancel _ 401)

/-- The last point of a grid that is not above the value has as many digits as the grid is fine. -/
theorem below_lt (hbig : i.den ≤ i.value * Nat.pow 10 400) (n : ℕ) :
    i.below (i.decimalExponent - n) < 10 ^ (n + 1) := by
  have hpow : (10 : ℚ) ^ (i.decimalExponent + 1)
      = (10 ^ (n + 1) : ℕ) * 10 ^ (i.decimalExponent - n) := by
    rw [Nat.cast_pow, Nat.cast_ofNat, ← zpow_natCast, ← zpow_add₀ (by norm_num)]
    congr 1
    push_cast
    ring
  have hlt := (below_le h (i.decimalExponent - n)).trans_lt (decimalExponent_spec h hbig).2
  rw [hpow, mul_lt_mul_iff_of_pos_right (zpow_pos (by norm_num) _)] at hlt
  exact Nat.cast_lt.1 hlt

/-- Where the interval is wide enough, seventeen digits have a decimal in it. -/
theorem exists_has {e : ℤ} (hlow : i.middle / 2 ^ 54 ≤ i.middle - i.low / i.den)
    (hhigh : i.middle / 2 ^ 54 < i.high / i.den - i.middle) (hpow : 10 ^ (e + 16) ≤ i.middle) :
    ∃ k : ℕ, i.Has (k * 10 ^ e) := by
  have hbelow := below_le h e
  have habove := lt_below_add_one h e
  obtain ⟨hlow', hhigh'⟩ := h.bounds
  rw [← middle] at hlow' hhigh'
  have hstep : ((i.below e + 1 : ℕ) : ℚ) * 10 ^ e = i.below e * 10 ^ e + 10 ^ e := by
    push_cast
    ring
  have hgrid : (10 : ℚ) ^ e * 10 ^ 16 ≤ i.middle := by
    rwa [zpow_add₀ (by norm_num)] at hpow
  have hpositive : (0 : ℚ) < 10 ^ e := zpow_pos (by norm_num) e
  -- the two points around the value are nearer to each other than the bounds are
  rcases lt_or_ge (i.middle - i.below e * 10 ^ e) (i.middle / 2 ^ 54) with hnear | hfar
  · exact ⟨i.below e, .inl ⟨by linarith, by linarith⟩⟩
  · refine ⟨i.below e + 1, .inl ⟨by linarith, ?_⟩⟩
    rw [hstep] at habove ⊢
    linarith

end Interval

/-! ## Digits -/

namespace Digits

variable (n : ℕ) (e : ℤ)

/-- The digits of a number are those that are kept, and the zeros that are left out. -/
theorem toDigits_eq : ∃ k : ℕ, Nat.toDigits 10 n = (ofNat n e).digits ++ List.replicate k '0'
    ∧ (ofNat n e).exponent = e + k := by
  have hsplit := List.takeWhile_append_dropWhile (p := (· == '0'))
    (l := (Nat.toDigits 10 n).reverse)
  have hzeros : (Nat.toDigits 10 n).reverse.takeWhile (· == '0') = List.replicate
      ((Nat.toDigits 10 n).reverse.takeWhile (· == '0')).length '0' := by
    refine List.eq_replicate_iff.2 ⟨rfl, fun c hc => ?_⟩
    exact beq_iff_eq.1 (List.all_eq_true.1 List.all_takeWhile c hc)
  refine ⟨((Nat.toDigits 10 n).reverse.takeWhile (· == '0')).length, ?_, ?_⟩
  · have hreverse := congrArg List.reverse hsplit
    rw [List.reverse_append, hzeros, List.reverse_replicate, List.reverse_reverse] at hreverse
    exact hreverse.symm
  · have hlength := congrArg List.length hsplit
    rw [List.length_append] at hlength
    simp only [ofNat]
    omega

theorem value_ofNat : (ofNat n e).value = n * 10 ^ e := by
  obtain ⟨k, hdigits, hexponent⟩ := toDigits_eq n e
  have hn : n = 10 ^ k * Nat.ofDigitChars 10 (ofNat n e).digits 0 := by
    rw [← Nat.ofDigitChars_replicate_zero, ← Nat.ofDigitChars_append, ← hdigits,
      Nat.ofDigitChars_ten_toDigits]
  have hcast : (n : ℚ) = 10 ^ k * Nat.ofDigitChars 10 (ofNat n e).digits 0 := by exact_mod_cast hn
  rw [value, hexponent, zpow_add₀ (by norm_num), zpow_natCast, hcast]
  ring

theorem isDigit_ofNat {c : Char} (hc : c ∈ (ofNat n e).digits) : c.isDigit = true := by
  obtain ⟨k, hdigits, -⟩ := toDigits_eq n e
  refine Nat.isDigit_of_mem_toDigits (b := 10) (n := n) (by norm_num) le_rfl ?_
  rw [hdigits]
  exact List.mem_append_left _ hc

theorem toDigits_pow (j : ℕ) : Nat.toDigits 10 (10 ^ j) = '1' :: List.replicate j '0' := by
  induction j with
  | zero => rfl
  | succ j ih =>
    have hle : 10 ≤ 10 ^ (j + 1) := Nat.le_self_pow (by omega) 10
    have hdiv : 10 ^ (j + 1) / 10 = 10 ^ j := by
      rw [pow_succ, Nat.mul_div_cancel _ (by norm_num)]
    have hmod : 10 ^ (j + 1) % 10 = 0 := by
      rw [pow_succ, Nat.mul_mod_left]
    rw [Nat.toDigits_of_base_le (by norm_num) hle, hdiv, hmod, ih, List.replicate_succ']
    rfl

/-- Up to a power of ten, there are at most as many digits as it has zeros. -/
theorem length_ofNat_le {j : ℕ} (hj : 0 < j) (hn : n ≤ 10 ^ j) :
    (ofNat n e).digits.length ≤ j := by
  rcases hn.lt_or_eq with hlt | rfl
  · obtain ⟨k, hdigits, -⟩ := toDigits_eq n e
    have hlength := (Nat.length_toDigits_le_iff (by norm_num) hj).2 hlt
    rw [hdigits, List.length_append] at hlength
    omega
  · have hone : (ofNat (10 ^ j) e).digits = ['1'] := by
      simp [ofNat, toDigits_pow]
    rw [hone]
    exact hj

end Digits

/-! ## Doubles -/

/-- Of the numbers below a bound, the first with a result gives it. -/
theorem exists_first_of_findSome? {α : Type} {m : ℕ} {f : ℕ → Option α} {a : α}
    (h : (List.range m).findSome? f = some a) : ∃ n, f n = some a ∧ ∀ k < n, f k = none := by
  induction m with
  | zero => cases h
  | succ m ih =>
    rw [List.range_succ, List.findSome?_append, Option.or_eq_some_iff] at h
    rcases h with hfound | ⟨hnone, hlast⟩
    · exact ih hfound
    · refine ⟨m, by simpa using hlast, fun k hk => ?_⟩
      exact List.findSome?_eq_none_iff.1 hnone k (List.mem_range.2 hk)

/-- A decimal reads as the double of the given magnitude, none with fewer digits does, and none with
as many digits that does is nearer to the double. -/
structure Digits.IsShortest (d : Digits) (bits : ℕ) : Prop where
  isDigit : ∀ c ∈ d.digits, c.isDigit = true
  reads : ReadsAs d.value bits
  fewest : ∀ (n : ℕ) (e : ℤ), n < 10 ^ (d.digits.length - 1) → ¬ ReadsAs (n * 10 ^ e) bits
  nearest : ∀ (n : ℕ) (e : ℤ), n < 10 ^ d.digits.length → ReadsAs (n * 10 ^ e) bits →
    |d.value - magnitudeValue bits| ≤ |n * 10 ^ e - magnitudeValue bits|

namespace Interval

variable {i : Interval} (h : i.Proper)

include h

/-- A decimal in the interval has one beside it on the grid of as many digits, which is not farther
from the value. -/
theorem exists_has_of_has {top : ℤ} (hle : (10 : ℚ) ^ top ≤ i.middle)
    (hlt : i.middle < (10 : ℚ) ^ (top + 1)) {n j : ℕ} {e : ℤ} (hn : 10 ^ j ≤ n)
    (hn' : n < 10 ^ (j + 1)) (hhas : i.Has (n * 10 ^ e)) :
    ∃ k : ℕ, i.Has (k * 10 ^ (top - j))
      ∧ |k * 10 ^ (top - j) - i.middle| ≤ |n * 10 ^ e - i.middle| := by
  have hten : (10 : ℚ) ≠ 0 := by norm_num
  have hpow (k : ℕ) (f : ℤ) : ((10 ^ k : ℕ) : ℚ) * 10 ^ f = 10 ^ (k + f : ℤ) := by
    rw [Nat.cast_pow, Nat.cast_ofNat, zpow_add₀ hten, zpow_natCast]
  have hpositive : (0 : ℚ) < 10 ^ e := zpow_pos (by norm_num) e
  have hlow : (10 : ℚ) ^ (j + e : ℤ) ≤ n * 10 ^ e := by
    rw [← hpow]
    exact mul_le_mul_of_nonneg_right (Nat.cast_le.2 hn) hpositive.le
  have hhigh : (n * 10 ^ e : ℚ) < 10 ^ ((j + 1 : ℕ) + e : ℤ) := by
    rw [← hpow]
    exact mul_lt_mul_of_pos_right (Nat.cast_lt.2 hn') hpositive
  rcases lt_trichotomy (j + e : ℤ) top with hless | heq | hmore
  · -- it is below the power of ten that the value is not below
    have hbelow : (n * 10 ^ e : ℚ) ≤ 10 ^ top :=
      hhigh.le.trans (zpow_le_zpow_right₀ (by norm_num) (by omega))
    have hpoint : ((10 ^ j : ℕ) : ℚ) * 10 ^ (top - j) = 10 ^ top := by
      rw [hpow, add_sub_cancel]
    refine ⟨10 ^ j, ?_, ?_⟩ <;> rw [hpoint]
    · exact hhas.between h (.inr ⟨hbelow, hle⟩)
    · rw [abs_sub_comm, abs_sub_comm _ i.middle, abs_of_nonneg (sub_nonneg.2 hle),
        abs_of_nonneg (sub_nonneg.2 (hbelow.trans hle))]
      exact sub_le_sub_left hbelow _
  · refine ⟨n, ?_⟩
    rw [← heq, add_sub_cancel_left]
    exact ⟨hhas, le_rfl⟩
  · have habove : (10 : ℚ) ^ (top + 1) ≤ n * 10 ^ e :=
      (zpow_le_zpow_right₀ (by norm_num) (by omega)).trans hlow
    have hpoint : ((10 ^ (j + 1) : ℕ) : ℚ) * 10 ^ (top - j) = 10 ^ (top + 1) := by
      rw [hpow]
      congr 1
      push_cast
      ring
    refine ⟨10 ^ (j + 1), ?_, ?_⟩ <;> rw [hpoint]
    · exact hhas.between h (.inl ⟨hlt.le, habove⟩)
    · rw [abs_of_nonneg (sub_nonneg.2 hlt.le), abs_of_nonneg (sub_nonneg.2 (hlt.le.trans habove))]
      exact sub_le_sub_right habove _

end Interval

namespace Double

variable (x : Double)

theorem significand_lt : x.significand < 2 ^ 53 := by
  have hfraction := x.fraction_lt
  rw [significand_eq]
  split_ifs <;> omega

theorem middle_interval : x.interval.middle = magnitudeValue x.magnitude := x.value_interval

/-- Every positive double is far above the least power of ten that is considered. -/
theorem den_interval_le (hpos : 0 < x.magnitude) :
    x.interval.den ≤ x.interval.value * Nat.pow 10 400 := by
  have hvalue : 0 < x.interval.value :=
    Nat.mul_pos (Nat.mul_pos (by norm_num) (x.significand_pos hpos)) (Nat.pow_pos (by norm_num))
  have hscale : (2 - x.scale).toNat ≤ 3 * 400 := by
    rw [scale]
    omega
  generalize 400 = k at hscale ⊢
  calc 2 ^ (2 - x.scale).toNat ≤ 2 ^ (3 * k) := Nat.pow_le_pow_right (by norm_num) hscale
    _ = 8 ^ k := pow_mul 2 3 k
    _ ≤ 10 ^ k := Nat.pow_le_pow_left (by norm_num) k
    _ ≤ x.interval.value * 10 ^ k := Nat.le_mul_of_pos_left _ hvalue

/-- The interval of a double is wide enough for seventeen digits. -/
theorem wide_interval (hpos : 0 < x.magnitude) :
    x.interval.middle / 2 ^ 54 ≤ x.interval.middle - x.interval.low / x.interval.den
      ∧ x.interval.middle / 2 ^ 54 < x.interval.high / x.interval.den - x.interval.middle := by
  have hm : (x.significand : ℚ) < 2 ^ 53 := by exact_mod_cast x.significand_lt
  have hunit : (0 : ℚ) < 2 ^ x.scale := zpow_pos (by norm_num) _
  have hless : (x.significand : ℚ) * 2 ^ x.scale < 2 ^ 53 * 2 ^ x.scale :=
    mul_lt_mul_of_pos_right hm hunit
  rw [x.low_interval hpos, x.high_interval, middle_interval, value_succ, value_pred x hpos,
    value_eq]
  refine ⟨?_, by linarith⟩
  by_cases hedge : x.fraction = 0 ∧ 1 < x.field
  · have hpower : (x.significand : ℚ) = 2 ^ 52 := by
      rw [significand_eq, hedge.1, if_neg (by omega)]
      norm_num
    rw [if_pos hedge, hpower]
    linarith
  · rw [if_neg hedge]
    linarith

/-- The grid on which the shortest decimal is found: no coarser one has a point in the interval. -/
theorem exists_shortest (hpos : 0 < x.magnitude) : ∃ n d : ℕ,
    x.shortest = Digits.ofNat d (x.interval.decimalExponent - n)
      ∧ x.interval.Found (x.interval.decimalExponent - n) d
      ∧ ∀ k < n, ∀ a : ℕ, ¬ x.interval.Has (a * 10 ^ (x.interval.decimalExponent - k)) := by
  have hproper := x.interval_proper hpos
  obtain ⟨hlow, hhigh⟩ := x.wide_interval hpos
  obtain ⟨hle, -⟩ := Interval.decimalExponent_spec hproper (x.den_interval_le hpos)
  have hdef : x.shortest = ((List.range maxDigits).findSome? fun n : ℕ =>
      (x.interval.onGrid? (x.interval.decimalExponent - n)).map fun d =>
        Digits.ofNat d (x.interval.decimalExponent - n)).getD ⟨['0'], 0⟩ := rfl
  generalize x.interval.decimalExponent = top at hle hdef
  cases hfind : (List.range maxDigits).findSome? fun n : ℕ =>
      (x.interval.onGrid? (top - n)).map fun d => Digits.ofNat d (top - n) with
  | none =>
    -- the last grid has a point in the interval
    have hnone := List.findSome?_eq_none_iff.1 hfind 16 (by decide)
    obtain ⟨k, hk⟩ := Interval.exists_has hproper (e := top - 16) hlow hhigh (by simpa using hle)
    exact absurd hk (Interval.not_has_of_onGrid? hproper _ (Option.map_eq_none_iff.1 hnone) k)
  | some found =>
    obtain ⟨n, hn, hbefore⟩ := exists_first_of_findSome? hfind
    obtain ⟨d, hd, rfl⟩ := Option.map_eq_some_iff.1 hn
    rw [hfind] at hdef
    refine ⟨n, d, hdef, Interval.found_of_onGrid? hproper _ hd, fun k hk => ?_⟩
    exact Interval.not_has_of_onGrid? hproper _ (Option.map_eq_none_iff.1 (hbefore k hk))

/-- A decimal that reads as a double has one beside it on the grid of as many digits. -/
theorem exists_has_of_readsAs (hpos : 0 < x.magnitude) {a : ℕ} {e : ℤ}
    (hreads : ReadsAs (a * 10 ^ e) x.magnitude) : ∃ j k : ℕ, 10 ^ j ≤ a
      ∧ x.interval.Has (k * 10 ^ (x.interval.decimalExponent - j))
      ∧ |k * 10 ^ (x.interval.decimalExponent - j) - x.interval.middle|
        ≤ |a * 10 ^ e - x.interval.middle| := by
  have hproper := x.interval_proper hpos
  obtain ⟨hle, hlt⟩ := Interval.decimalExponent_spec hproper (x.den_interval_le hpos)
  have ha : 0 < a := by
    refine Nat.pos_of_ne_zero fun hzero => ?_
    rw [hzero, Nat.cast_zero, zero_mul] at hreads
    exact not_readsAs_zero hpos hreads
  obtain ⟨hlow, hhigh, hcount⟩ := pow_digitCount_le ha
  rw [← Nat.sub_add_cancel hcount] at hhigh
  obtain ⟨k, hk⟩ := Interval.exists_has_of_has hproper hle hlt hlow hhigh
    ((x.has_interval_iff hpos _).2 hreads)
  exact ⟨_, k, hlow, hk⟩

/-- The decimal that is found for a double is shortest. -/
theorem isShortest_shortest (hpos : 0 < x.magnitude) : x.shortest.IsShortest x.magnitude := by
  have hproper := x.interval_proper hpos
  obtain ⟨n, d, hshortest, hfound, hcoarser⟩ := x.exists_shortest hpos
  have hvalue := Digits.value_ofNat d (x.interval.decimalExponent - n)
  have hlength : (Digits.ofNat d (x.interval.decimalExponent - n)).digits.length ≤ n + 1 := by
    refine Digits.length_ofNat_le d _ n.succ_pos ?_
    have hbelow := Interval.below_lt hproper (x.den_interval_le hpos) n
    rcases hfound.around with rfl | rfl <;> omega
  rw [hshortest]
  refine ⟨fun c hc => Digits.isDigit_ofNat _ _ hc, ?_, fun a e ha hreads => ?_,
    fun a e ha hreads => ?_⟩
  · rw [hvalue, ← x.has_interval_iff hpos]
    exact hfound.has
  · obtain ⟨j, k, hj, hhas, -⟩ := x.exists_has_of_readsAs hpos hreads
    have hlt := (Nat.pow_lt_pow_iff_right (by norm_num)).1 (hj.trans_lt ha)
    exact hcoarser j (by omega) k hhas
  · obtain ⟨j, k, hj, hhas, hdistance⟩ := x.exists_has_of_readsAs hpos hreads
    have hlt := (Nat.pow_lt_pow_iff_right (by norm_num)).1 (hj.trans_lt ha)
    obtain rfl : j = n := by
      have hge : n ≤ j := not_lt.1 fun hless => hcoarser j hless k hhas
      omega
    rw [hvalue, ← middle_interval]
    exact (hfound.nearest k hhas).trans hdistance

end Double

end Schemata.Decimal
