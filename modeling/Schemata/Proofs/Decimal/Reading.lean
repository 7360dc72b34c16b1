import Schemata.Decimal.Shortest
import Mathlib.Algebra.Order.Field.Basic
import Mathlib.Algebra.Order.Field.Power
import Mathlib.Data.Rat.Cast.Order
import Mathlib.Tactic.FieldSimp
import Mathlib.Tactic.Linarith
import Mathlib.Tactic.Ring
import Mathlib.Tactic.NormNum

/-!
# Numbers that read as a double

The magnitudes of finite doubles are numbered by their bits, in increasing order. A number reads as
the double that it is nearest to, and from the middle between two neighbours as the even one. For a
given double these numbers are an interval, and the interval that is searched for a shortest decimal
is this one.

## Main definitions

* `magnitudeValue`: the value of a double, by the bits of its magnitude.
* `ReadsAs`: the numbers that read as a double.
* `Interval.Has`: the numbers of an interval.

## Main statements

* `Double.value_succ`, `Double.value_pred`: the neighbours of a double.
* `Interval.holds_iff`: the test of a ratio against an interval.
* `Double.has_interval_iff`: the interval of a double has the numbers that read as it.
-/

namespace Schemata.Decimal

/-! ## Values -/

/-- The value of a double with the given magnitude. Below `2 ^ 52` the bits count multiples of the
least positive double. From there on the leading bits are an exponent, the others a fraction that
follows a leading one. -/
def magnitudeValue (bits : ℕ) : ℚ :=
  if bits < 2 ^ 52 then bits * 2 ^ (-1074 : ℤ)
  else (2 ^ 52 + bits % 2 ^ 52 : ℕ) * 2 ^ ((bits / 2 ^ 52 : ℕ) - 1075 : ℤ)

/-- A number reads as the double of the given magnitude: it lies between the middles to the
neighbours, or on one of them if the double is even. -/
def ReadsAs (q : ℚ) (bits : ℕ) : Prop :=
  let low := (magnitudeValue (bits - 1) + magnitudeValue bits) / 2
  let high := (magnitudeValue bits + magnitudeValue (bits + 1)) / 2
  (low < q ∧ q < high) ∨ (bits % 2 = 0 ∧ (q = low ∨ q = high))

theorem pow_toNat_div (b : ℚ) (k : ℤ) : b ^ k.toNat / b ^ (-k).toNat = b ^ k := by
  obtain ⟨n, rfl | rfl⟩ := k.eq_nat_or_neg <;> simp

/-- The value by exponent and fraction. The fraction may run up to the next exponent. -/
theorem magnitudeValue_split (field : ℕ) {fraction : ℕ} (h : fraction ≤ 2 ^ 52) :
    magnitudeValue (field * 2 ^ 52 + fraction)
      = ((if field = 0 then 0 else 2 ^ 52) + fraction : ℕ)
        * 2 ^ ((max field 1 : ℕ) - 1075 : ℤ) := by
  have hdouble (k : ℤ) : ((2 ^ 52 : ℕ) : ℚ) * 2 ^ (k + 1) = (2 ^ 52 + 2 ^ 52 : ℕ) * 2 ^ k := by
    rw [zpow_add_one₀ two_ne_zero]
    push_cast
    ring
  unfold magnitudeValue
  rcases h.lt_or_eq with hlt | rfl
  · have hmod : (field * 2 ^ 52 + fraction) % 2 ^ 52 = fraction := by omega
    have hdiv : (field * 2 ^ 52 + fraction) / 2 ^ 52 = field := by omega
    rcases Nat.eq_zero_or_pos field with rfl | hfield
    · rw [if_pos (by omega)]
      simp
    · rw [if_neg (by omega), if_neg (by omega), hmod, hdiv, max_eq_left hfield]
  · have hmod : (field * 2 ^ 52 + 2 ^ 52) % 2 ^ 52 = 0 := by omega
    have hdiv : (field * 2 ^ 52 + 2 ^ 52) / 2 ^ 52 = field + 1 := by omega
    rw [if_neg (by omega), hmod, hdiv]
    rcases Nat.eq_zero_or_pos field with rfl | hfield
    · simp
    · have hexponent : ((field + 1 : ℕ) : ℤ) - 1075 = (field - 1075) + 1 := by
        push_cast
        ring
      rw [if_neg (by omega), max_eq_left hfield, ← hdouble, hexponent, Nat.add_zero]

theorem magnitudeValue_nonneg (bits : ℕ) : 0 ≤ magnitudeValue bits := by
  unfold magnitudeValue
  split_ifs <;> positivity

theorem magnitudeValue_pos {bits : ℕ} (hpos : 0 < bits) : 0 < magnitudeValue bits := by
  unfold magnitudeValue
  split_ifs <;> positivity

/-- Zero reads as no other double. -/
theorem not_readsAs_zero {bits : ℕ} (hpos : 0 < bits) : ¬ ReadsAs 0 bits := by
  have hprev := magnitudeValue_nonneg (bits - 1)
  have hnext := magnitudeValue_nonneg (bits + 1)
  have hvalue := magnitudeValue_pos hpos
  rintro (⟨hlow, -⟩ | ⟨-, heq | heq⟩) <;> linarith

namespace Double

variable (x : Double)

theorem magnitude_eq : x.magnitude = x.field * 2 ^ 52 + x.fraction := by
  rw [field, fraction, Nat.pow_eq]
  omega

theorem fraction_lt : x.fraction < 2 ^ 52 := Nat.mod_lt _ (by norm_num)

theorem significand_eq : x.significand = (if x.field = 0 then 0 else 2 ^ 52) + x.fraction := by
  rw [significand, Nat.pow_eq]
  split_ifs <;> omega

/-- A finite double is its significand times a power of two. -/
theorem value_eq : magnitudeValue x.magnitude = x.significand * 2 ^ x.scale := by
  rw [magnitude_eq, magnitudeValue_split _ x.fraction_lt.le, ← significand_eq]
  rfl

/-- The next double is one unit of the last place above. -/
theorem value_succ : magnitudeValue (x.magnitude + 1) = (x.significand + 1) * 2 ^ x.scale := by
  have hnext : x.magnitude + 1 = x.field * 2 ^ 52 + (x.fraction + 1) := by
    rw [magnitude_eq, Nat.add_assoc]
  rw [hnext, magnitudeValue_split _ x.fraction_lt, significand_eq, scale]
  push_cast
  ring

/-- The double before is one unit of the last place below, or half of one below a power of two. -/
theorem value_pred (hpos : 0 < x.magnitude) : magnitudeValue (x.magnitude - 1)
    = (x.significand - if x.fraction = 0 ∧ 1 < x.field then 1 / 2 else 1) * 2 ^ x.scale := by
  have hfraction := x.fraction_lt
  have hsplit := x.magnitude_eq
  rcases Nat.eq_zero_or_pos x.fraction with hzero | hsome
  · -- the fraction below is the greatest, with the exponent below
    have hfield : 0 < x.field := by
      rw [hsplit, hzero] at hpos
      omega
    have hprev : x.magnitude - 1 = (x.field - 1) * 2 ^ 52 + (2 ^ 52 - 1) := by omega
    rw [hprev, magnitudeValue_split _ (by omega), significand_eq, scale, hzero]
    rcases Nat.eq_or_lt_of_le hfield with hone | hmore
    · norm_num [← hone]
    · have hexponent : ((x.field : ℕ) : ℤ) - 1075 = ((x.field - 1 : ℕ) - 1075) + 1 := by omega
      rw [if_neg (by omega), if_neg (by omega), if_pos ⟨rfl, hmore⟩, max_eq_left (by omega),
        max_eq_left hfield, hexponent, zpow_add_one₀ two_ne_zero]
      push_cast
      ring
  · have hprev : x.magnitude - 1 = x.field * 2 ^ 52 + (x.fraction - 1) := by omega
    have hinside : ¬ (x.fraction = 0 ∧ 1 < x.field) := by omega
    rw [hprev, magnitudeValue_split _ (by omega), significand_eq, scale, if_neg hinside]
    push_cast [Nat.cast_sub hsome]
    ring

theorem significand_pos (hpos : 0 < x.magnitude) : 0 < x.significand := by
  have hsplit := x.magnitude_eq
  rw [significand_eq]
  split_ifs with hfield
  · rw [hfield] at hsplit
    omega
  · omega

end Double

/-! ## Intervals -/

namespace Interval

/-- The value lies inside. -/
structure Proper (i : Interval) : Prop where
  den_pos : 0 < i.den
  low_lt : i.low < i.value
  lt_high : i.value < i.high

/-- The numbers of an interval: those between its bounds, and these as well if it is closed. -/
def Has (i : Interval) (q : ℚ) : Prop :=
  (i.low / i.den < q ∧ q < i.high / i.den)
    ∨ (i.closed = true ∧ (q = i.low / i.den ∨ q = i.high / i.den))

variable {i : Interval}

theorem Proper.bounds (h : i.Proper) :
    (i.low / i.den : ℚ) < i.value / i.den ∧ (i.value / i.den : ℚ) < i.high / i.den := by
  have hden : (0 : ℚ) < i.den := Nat.cast_pos.2 h.den_pos
  exact ⟨(div_lt_div_iff_of_pos_right hden).2 (Nat.cast_lt.2 h.low_lt),
    (div_lt_div_iff_of_pos_right hden).2 (Nat.cast_lt.2 h.lt_high)⟩

/-- A ratio is tested against an interval. -/
theorem holds_iff (h : i.Proper) {num den : ℕ} (hden : 0 < den) :
    i.holds num den = true ↔ i.Has (num / den) := by
  have hden' : (0 : ℚ) < den := Nat.cast_pos.2 hden
  have hiden : (0 : ℚ) < i.den := Nat.cast_pos.2 h.den_pos
  have hle (a : ℕ) : a * den ≤ num * i.den ↔ (a / i.den : ℚ) ≤ num / den := by
    rw [div_le_div_iff₀ hiden hden']
    exact_mod_cast Iff.rfl
  have hge (a : ℕ) : num * i.den ≤ a * den ↔ (num / den : ℚ) ≤ a / i.den := by
    rw [div_le_div_iff₀ hden' hiden]
    exact_mod_cast Iff.rfl
  obtain ⟨hlow, hhigh⟩ := h.bounds
  unfold holds Has
  split_ifs with hclosed
  · simp only [Bool.and_eq_true, decide_eq_true_eq, hle, hge, hclosed, true_and]
    constructor
    · rintro ⟨h₁, h₂⟩
      rcases h₁.lt_or_eq with h₁ | h₁
      · rcases h₂.lt_or_eq with h₂ | h₂
        · exact .inl ⟨h₁, h₂⟩
        · exact .inr (.inr h₂)
      · exact .inr (.inl h₁.symm)
    · rintro (⟨h₁, h₂⟩ | heq | heq)
      · exact ⟨h₁.le, h₂.le⟩
      · exact ⟨heq.ge, heq ▸ (hlow.trans hhigh).le⟩
      · exact ⟨heq ▸ (hlow.trans hhigh).le, heq.le⟩
  · simp only [Bool.and_eq_true, decide_eq_true_eq, hclosed, Bool.false_eq_true, false_and,
      or_false, ← not_le, hle, hge]

/-- What lies between the value and a number of the interval belongs to it. -/
theorem Has.between (h : i.Proper) {p q : ℚ} (hq : i.Has q)
    (hp : (i.value / i.den ≤ p ∧ p ≤ q) ∨ (q ≤ p ∧ p ≤ i.value / i.den)) : i.Has p := by
  obtain ⟨hlow, hhigh⟩ := h.bounds
  rcases hp with ⟨hvalue, hpq⟩ | ⟨hpq, hvalue⟩
  · have hlow' : (i.low / i.den : ℚ) < p := hlow.trans_le hvalue
    rcases hq with ⟨-, hq⟩ | ⟨hclosed, rfl | rfl⟩
    · exact .inl ⟨hlow', hpq.trans_lt hq⟩
    · exact absurd hpq (not_le.2 hlow')
    · exact hpq.lt_or_eq.imp (fun hlt => ⟨hlow', hlt⟩) fun heq => ⟨hclosed, .inr heq⟩
  · have hhigh' : p < (i.high / i.den : ℚ) := hvalue.trans_lt hhigh
    rcases hq with ⟨hq, -⟩ | ⟨hclosed, rfl | rfl⟩
    · exact .inl ⟨hq.trans_le hpq, hhigh'⟩
    · exact hpq.lt_or_eq.imp (fun hlt => ⟨hlt, hhigh'⟩) fun heq => ⟨hclosed, .inl heq.symm⟩
    · exact absurd hpq (not_le.2 hhigh')

end Interval

namespace Double

variable (x : Double)

/-- Numerators of the interval count quarters of a unit of the last place. -/
theorem quarters_eq (n : ℕ) :
    ((n * Nat.pow 2 (x.scale - 2).toNat : ℕ) : ℚ) / (Nat.pow 2 (2 - x.scale).toNat : ℕ)
      = n / 4 * 2 ^ x.scale := by
  have hpow : (2 : ℚ) ^ (x.scale - 2).toNat / 2 ^ (2 - x.scale).toNat = 2 ^ x.scale / 4 := by
    rw [← neg_sub x.scale 2, pow_toNat_div, zpow_sub₀ two_ne_zero]
    norm_num
  rw [Nat.pow_eq, Nat.pow_eq, Nat.cast_mul, mul_div_assoc]
  push_cast
  rw [hpow]
  ring

theorem interval_proper (hpos : 0 < x.magnitude) : x.interval.Proper := by
  have hm := x.significand_pos hpos
  have hup : 0 < Nat.pow 2 (x.scale - 2).toNat := Nat.pow_pos (by norm_num)
  refine ⟨Nat.pow_pos (by norm_num), ?_, ?_⟩
  · refine Nat.mul_lt_mul_of_pos_right ?_ hup
    split_ifs <;> omega
  · exact Nat.mul_lt_mul_of_pos_right (by omega) hup

theorem value_interval :
    (x.interval.value / x.interval.den : ℚ) = magnitudeValue x.magnitude := by
  refine (x.quarters_eq _).trans ?_
  rw [value_eq]
  push_cast
  ring

/-- The lower bound is the middle to the double before. -/
theorem low_interval (hpos : 0 < x.magnitude) : (x.interval.low / x.interval.den : ℚ)
    = (magnitudeValue (x.magnitude - 1) + magnitudeValue x.magnitude) / 2 := by
  have hm := x.significand_pos hpos
  refine (x.quarters_eq _).trans ?_
  rw [value_eq, value_pred x hpos]
  by_cases hedge : x.fraction = 0 ∧ 1 < x.field
  · have hbelow : (x.fraction = 0 && x.field > 1) = true := by simpa using hedge
    rw [if_pos hedge, if_pos hbelow, Nat.cast_sub (by omega)]
    push_cast
    ring
  · have hbelow : ¬ (x.fraction = 0 && x.field > 1) = true := by simpa using hedge
    rw [if_neg hedge, if_neg hbelow, Nat.cast_sub (by omega)]
    push_cast
    ring

/-- The upper bound is the middle to the next double. -/
theorem high_interval : (x.interval.high / x.interval.den : ℚ)
    = (magnitudeValue x.magnitude + magnitudeValue (x.magnitude + 1)) / 2 := by
  refine (x.quarters_eq _).trans ?_
  rw [value_eq, value_succ]
  push_cast
  ring

theorem closed_interval : x.interval.closed = true ↔ x.magnitude % 2 = 0 := by
  have heven : x.significand % 2 = x.magnitude % 2 := by
    rw [significand_eq, magnitude_eq]
    split_ifs <;> omega
  simp only [interval, beq_iff_eq, heven]

/-- The interval of a double has the numbers that read as it. -/
theorem has_interval_iff (hpos : 0 < x.magnitude) (q : ℚ) :
    x.interval.Has q ↔ ReadsAs q x.magnitude := by
  unfold Interval.Has ReadsAs
  rw [x.low_interval hpos, x.high_interval, x.closed_interval]

end Double

end Schemata.Decimal
