import Schemata.Decimal.Layout
import Schemata.Proofs.Decimal.Shortest

/-!
# The text of a double

A decimal is written with its point among the digits if it is neither very small nor very large, and
otherwise with the point after the first digit and an exponent. Which characters these are is said
here by reading them: the digits of a text have a value, the point and the exponent scale it, and no
zeros stand at either end unless they are needed.

## Main definitions

* `Numeral`, `SignedNumeral`: the digits of a natural number, and of an integer after its sign.
* `DecimalText`: a decimal in either form, with its value.
* `Double.Text`: the texts of a double.

## Main statements

* `signedNumeral_toString`: the text of an integer.
* `Digits.decimalText_write`: digits are written as a text of their value.
* `Double.text_write`: the text of a double is that of a shortest decimal, after its sign.
-/

namespace Schemata.Decimal

/-! ## Numerals -/

/-- The digits of a natural number. No zero leads them, unless it stands alone. -/
structure Numeral (digits : List Char) (n : ℕ) : Prop where
  ne_nil : digits ≠ []
  isDigit : ∀ c ∈ digits, c.isDigit = true
  value_eq : Nat.ofDigitChars 10 digits 0 = n
  leading : ∀ rest, digits = '0' :: rest → rest = []

/-- The digits of an integer, after a sign if it is negative. -/
def SignedNumeral (text : List Char) (n : ℤ) : Prop :=
  ∃ digits, Numeral digits n.natAbs ∧ text = (if n < 0 then ['-'] else []) ++ digits

theorem isDigit_iff {c : Char} : c.isDigit = true ↔ '0'.toNat ≤ c.toNat ∧ c.toNat ≤ '9'.toNat := by
  simp only [Char.isDigit, Bool.and_eq_true, decide_eq_true_eq]
  rfl

theorem ofDigitChars_lt {digits : List Char} (h : ∀ c ∈ digits, c.isDigit = true) :
    Nat.ofDigitChars 10 digits 0 < 10 ^ digits.length := by
  induction digits with
  | nil => simp
  | cons c rest ih =>
    obtain ⟨-, hle⟩ := isDigit_iff.1 (h c List.mem_cons_self)
    have hrest := ih fun d hd => h d (List.mem_cons_of_mem _ hd)
    have hdigit : c.toNat - '0'.toNat ≤ 9 := by
      have : '9'.toNat = '0'.toNat + 9 := rfl
      omega
    rw [Nat.ofDigitChars_cons, Nat.ofDigitChars_eq_ofDigitChars_zero, List.length_cons, pow_succ]
    have hmul := Nat.mul_le_mul_left (10 ^ rest.length) hdigit
    simp only [Nat.mul_zero, Nat.zero_add]
    omega

theorem le_ofDigitChars {c : Char} (rest : List Char) (hc : c.isDigit = true) (hzero : c ≠ '0') :
    10 ^ rest.length ≤ Nat.ofDigitChars 10 (c :: rest) 0 := by
  obtain ⟨hge, -⟩ := isDigit_iff.1 hc
  have hne : c.toNat ≠ '0'.toNat := fun heq => hzero (Char.toNat_inj.1 heq)
  have hdigit : 1 ≤ c.toNat - '0'.toNat := by omega
  rw [Nat.ofDigitChars_cons, Nat.ofDigitChars_eq_ofDigitChars_zero, Nat.mul_zero, Nat.zero_add]
  exact (Nat.le_mul_of_pos_right _ hdigit).trans (Nat.le_add_right _ _)

theorem numeral_toDigits (n : ℕ) : Numeral (Nat.toDigits 10 n) n := by
  have hisDigit : ∀ c ∈ Nat.toDigits 10 n, c.isDigit = true := fun c hc =>
    Nat.isDigit_of_mem_toDigits (by norm_num) le_rfl hc
  refine ⟨Nat.toDigits_ne_nil, hisDigit, Nat.ofDigitChars_ten_toDigits, fun rest hrest => ?_⟩
  -- without the zero there are fewer digits than the number has
  by_contra hne
  have hvalue : Nat.ofDigitChars 10 rest 0 = n := by
    have hdigits := Nat.ofDigitChars_ten_toDigits (n := n)
    rwa [hrest, Nat.ofDigitChars_cons] at hdigits
  have hlt := ofDigitChars_lt fun c hc => hisDigit c (hrest ▸ List.mem_cons_of_mem _ hc)
  rw [hvalue] at hlt
  have hlength := (Nat.length_toDigits_le_iff (by norm_num) (List.length_pos_iff.2 hne)).2 hlt
  rw [hrest, List.length_cons] at hlength
  omega

/-- The text of an integer. -/
theorem signedNumeral_toString (n : ℤ) : SignedNumeral (toString n).toList n := by
  refine ⟨_, numeral_toDigits n.natAbs, ?_⟩
  rw [Int.toString_eq_repr, Int.repr_eq_if]
  by_cases hneg : n < 0
  · have habs : (-n).toNat = n.natAbs := by omega
    rw [if_neg (not_le.2 hneg), if_pos hneg, habs, String.toList_append, Nat.toList_repr]
    rfl
  · have habs : n.toNat = n.natAbs := by omega
    rw [if_pos (not_lt.1 hneg), if_neg hneg, habs, Nat.toList_repr]
    rfl

/-! ## Decimals -/

/-- A decimal, and the number that it stands for. From `10 ^ -5` to below `10 ^ 16` it has a point
with digits on both sides, of which no more than needed are zeros. Other decimals have one digit, a
point and more digits if there are any, and an exponent. -/
inductive DecimalText : List Char → ℚ → Prop
  | positional {whole tail : List Char} {n : ℕ} {q : ℚ} (hwhole : Numeral whole n)
      (htail : tail ≠ []) (hdigits : ∀ c ∈ tail, c.isDigit = true)
      (hlast : ∀ rest, tail = rest ++ ['0'] → rest = [])
      (hvalue : q = Nat.ofDigitChars 10 (whole ++ tail) 0 * 10 ^ (-tail.length : ℤ))
      (hrange : 10 ^ (-5 : ℤ) ≤ q ∧ q < 10 ^ (16 : ℤ)) :
      DecimalText (whole ++ '.' :: tail) q
  | scientific {first : Char} {tail exponent : List Char} {k : ℤ} {q : ℚ}
      (hdigits : ∀ c ∈ first :: tail, c.isDigit = true) (hfirst : first ≠ '0')
      (hlast : ∀ rest, tail ≠ rest ++ ['0']) (hexponent : SignedNumeral exponent k)
      (hvalue : q = Nat.ofDigitChars 10 (first :: tail) 0 * 10 ^ (-tail.length : ℤ) * 10 ^ k)
      (hrange : q < 10 ^ (-5 : ℤ) ∨ 10 ^ (16 : ℤ) ≤ q) :
      DecimalText (first :: (if tail = [] then [] else '.' :: tail) ++ 'e' :: exponent) q

namespace Digits

/-- There are digits, and neither the first nor the last is a zero. -/
structure Normal (d : Digits) : Prop where
  ne_nil : d.digits ≠ []
  isDigit : ∀ c ∈ d.digits, c.isDigit = true
  leading : ∀ rest, d.digits ≠ '0' :: rest
  trailing : ∀ rest, d.digits ≠ rest ++ ['0']

/-- A shortest decimal has no zeros at its ends: without them it would be shorter. -/
theorem IsShortest.normal {d : Digits} {bits : ℕ} (h : d.IsShortest bits) (hpos : 0 < bits) :
    d.Normal := by
  refine ⟨fun hnil => ?_, h.isDigit, fun rest hrest => ?_, fun rest hrest => ?_⟩
  · have hreads := h.reads
    rw [value, hnil, Nat.ofDigitChars_nil, Nat.cast_zero, zero_mul] at hreads
    exact not_readsAs_zero hpos hreads
  · have hlt := ofDigitChars_lt fun c hc => h.isDigit c (hrest ▸ List.mem_cons_of_mem '0' hc)
    refine h.fewest (Nat.ofDigitChars 10 rest 0) d.exponent (by simpa [hrest] using hlt) ?_
    have hreads := h.reads
    rwa [value, hrest, Nat.ofDigitChars_cons] at hreads
  · have hlt := ofDigitChars_lt fun c hc => h.isDigit c (hrest ▸ List.mem_append_left ['0'] hc)
    refine h.fewest (Nat.ofDigitChars 10 rest 0) (d.exponent + 1) (by simpa [hrest] using hlt) ?_
    have hvalue : d.value = Nat.ofDigitChars 10 rest 0 * 10 ^ (d.exponent + 1) := by
      rw [value, hrest, Nat.ofDigitChars_append, Nat.ofDigitChars_cons, Nat.ofDigitChars_nil,
        zpow_add_one₀ (by norm_num)]
      push_cast
      ring
    exact hvalue ▸ h.reads

variable {d : Digits} (h : d.Normal)

include h

/-- The place of the point tells the size of a decimal. -/
theorem Normal.value_bounds : (10 : ℚ) ^ (d.exponent + d.digits.length - 1) ≤ d.value
    ∧ d.value < (10 : ℚ) ^ (d.exponent + d.digits.length) := by
  have hpow (k : ℕ) : (10 : ℚ) ^ (d.exponent + k) = (10 ^ k : ℕ) * 10 ^ d.exponent := by
    rw [zpow_add₀ (by norm_num), zpow_natCast, Nat.cast_pow, Nat.cast_ofNat, mul_comm]
  have hpositive : (0 : ℚ) < 10 ^ d.exponent := zpow_pos (by norm_num) _
  constructor
  · obtain ⟨c, rest, hdigits⟩ := List.exists_cons_of_ne_nil h.ne_nil
    have hge := le_ofDigitChars rest (h.isDigit c (hdigits ▸ List.mem_cons_self))
      fun hzero => h.leading rest (hzero ▸ hdigits)
    have hlength : d.exponent + d.digits.length - 1 = d.exponent + rest.length := by
      rw [hdigits, List.length_cons]
      push_cast
      ring
    rw [value, hlength, hpow, hdigits]
    exact mul_le_mul_of_nonneg_right (Nat.cast_le.2 hge) hpositive.le
  · rw [value, hpow]
    exact mul_lt_mul_of_pos_right (Nat.cast_lt.2 (ofDigitChars_lt h.isDigit)) hpositive

/-- A whole number keeps a zero after the point. -/
theorem Normal.decimalText_whole (hexponent : 0 ≤ d.exponent)
    (hrange : 10 ^ (-5 : ℤ) ≤ d.value ∧ d.value < 10 ^ (16 : ℤ)) :
    DecimalText (d.digits ++ List.replicate d.exponent.toNat '0' ++ ['.', '0']) d.value := by
  obtain ⟨c, rest, hdigits⟩ := List.exists_cons_of_ne_nil h.ne_nil
  have hwhole : ∀ x ∈ d.digits ++ List.replicate d.exponent.toNat '0', x.isDigit = true := by
    intro x hx
    rcases List.mem_append.1 hx with hx | hx
    · exact h.isDigit x hx
    · rw [List.eq_of_mem_replicate hx]
      rfl
  refine .positional ⟨?_, hwhole, rfl, fun tail htail => ?_⟩ (List.cons_ne_nil _ _) ?_ ?_ ?_ hrange
  · exact List.append_ne_nil_of_left_ne_nil h.ne_nil _
  · rw [hdigits, List.cons_append] at htail
    exact absurd hdigits ((List.cons.inj htail).1 ▸ h.leading rest)
  · simp
  · intro tail htail
    simpa using htail
  · have hpow : (10 : ℚ) ^ d.exponent = 10 ^ d.exponent.toNat := by
      rw [← zpow_natCast, Int.toNat_of_nonneg hexponent]
    rw [value, hpow, Nat.ofDigitChars_append, Nat.ofDigitChars_append,
      Nat.ofDigitChars_replicate_zero]
    simp [Nat.ofDigitChars_cons]
    ring

/-- The point stands among the digits. -/
theorem Normal.decimalText_split {point : ℕ} (hpoint : d.exponent + d.digits.length = point)
    (hpos : 0 < point) (hexponent : d.exponent < 0)
    (hrange : 10 ^ (-5 : ℤ) ≤ d.value ∧ d.value < 10 ^ (16 : ℤ)) :
    DecimalText (d.digits.take point ++ '.' :: d.digits.drop point) d.value := by
  obtain ⟨c, rest, hdigits⟩ := List.exists_cons_of_ne_nil h.ne_nil
  have hsplit := List.take_append_drop point d.digits
  have hlength : (d.digits.drop point).length = -d.exponent := by
    rw [List.length_drop]
    omega
  have htail : d.digits.drop point ≠ [] := by
    intro hnil
    rw [hnil, List.length_nil] at hlength
    omega
  refine .positional ⟨?_, ?_, rfl, fun tail htake => ?_⟩ htail ?_ ?_ ?_ hrange
  · rw [Ne, List.take_eq_nil_iff]
    exact not_or.2 ⟨hpos.ne', h.ne_nil⟩
  · exact fun x hx => h.isDigit x (List.mem_of_mem_take hx)
  · rw [htake, List.cons_append] at hsplit
    exact absurd hsplit.symm (h.leading _)
  · exact fun x hx => h.isDigit x (List.mem_of_mem_drop hx)
  · intro tail hdrop
    rw [hdrop, ← List.append_assoc] at hsplit
    exact absurd hsplit.symm (h.trailing _)
  · rw [hsplit, hlength, neg_neg, value]

/-- The point stands before the digits, with zeros between. -/
theorem Normal.decimalText_below {zeros : ℕ} (hzeros : d.exponent + d.digits.length = -zeros)
    (hrange : 10 ^ (-5 : ℤ) ≤ d.value ∧ d.value < 10 ^ (16 : ℤ)) :
    DecimalText ('0' :: '.' :: List.replicate zeros '0' ++ d.digits) d.value := by
  have hlength : (List.replicate zeros '0' ++ d.digits).length = -d.exponent := by
    rw [List.length_append, List.length_replicate]
    push_cast
    omega
  have hzero : Numeral ['0'] 0 := numeral_toDigits 0
  have htext : '0' :: '.' :: List.replicate zeros '0' ++ d.digits
      = ['0'] ++ '.' :: (List.replicate zeros '0' ++ d.digits) := rfl
  rw [htext]
  refine .positional hzero (List.append_ne_nil_of_right_ne_nil _ h.ne_nil) ?_ ?_ ?_ hrange
  · intro x hx
    rcases List.mem_append.1 hx with hx | hx
    · rw [List.eq_of_mem_replicate hx]
      rfl
    · exact h.isDigit x hx
  · intro tail htail
    obtain ⟨rest, last, hdigits⟩ := (List.eq_nil_or_concat' d.digits).resolve_left h.ne_nil
    rw [hdigits, ← List.append_assoc] at htail
    have hlast := (List.append_inj' htail rfl).2
    exact absurd (hlast ▸ hdigits) (h.trailing rest)
  · rw [hlength, neg_neg, value, Nat.ofDigitChars_append, Nat.ofDigitChars_append,
      Nat.ofDigitChars_replicate_zero]
    rfl

/-- The point stands after the first digit, and an exponent follows. -/
theorem Normal.decimalText_exponent (hrange : d.value < 10 ^ (-5 : ℤ) ∨ 10 ^ (16 : ℤ) ≤ d.value)
    {first : Char} {tail : List Char} (hdigits : d.digits = first :: tail) :
    DecimalText (first :: (if tail = [] then [] else '.' :: tail)
      ++ 'e' :: (toString (d.exponent + d.digits.length - 1)).toList) d.value := by
  refine .scientific (hdigits ▸ h.isDigit) (fun hzero => h.leading tail (hzero ▸ hdigits)) ?_
    (signedNumeral_toString _) ?_ hrange
  · intro rest hrest
    exact h.trailing (first :: rest) (by rw [hdigits, hrest, List.cons_append])
  · rw [value, hdigits, mul_assoc, ← zpow_add₀ (by norm_num), List.length_cons]
    congr 2
    push_cast
    ring

/-- Digits are written as a text of their value. -/
theorem decimalText_write : DecimalText d.write d.value := by
  obtain ⟨hlow, hhigh⟩ := h.value_bounds
  have hpositional (hleft : -5 < d.exponent + d.digits.length)
      (hright : d.exponent + d.digits.length ≤ 16) :
      10 ^ (-5 : ℤ) ≤ d.value ∧ d.value < 10 ^ (16 : ℤ) :=
    ⟨(zpow_le_zpow_right₀ (by norm_num) (by omega)).trans hlow,
      hhigh.trans_le (zpow_le_zpow_right₀ (by norm_num) hright)⟩
  have hscientific
      (hfar : d.exponent + d.digits.length ≤ -5 ∨ 16 < d.exponent + d.digits.length) :
      d.value < 10 ^ (-5 : ℤ) ∨ 10 ^ (16 : ℤ) ≤ d.value := by
    rcases hfar with hleft | hright
    · exact .inl (hhigh.trans_le (zpow_le_zpow_right₀ (by norm_num) hleft))
    · exact .inr ((zpow_le_zpow_right₀ (by norm_num) (by omega)).trans hlow)
  have hrightmost : pointRightmost = 16 := rfl
  have hleftmost : pointLeftmost = -5 := rfl
  unfold write
  simp only [Bool.and_eq_true, decide_eq_true_eq]
  split_ifs with hwhole hsplit hbelow
  · exact h.decimalText_whole hwhole.1 (hpositional (by omega) hwhole.2)
  · refine h.decimalText_split ?_ ?_ ?_ (hpositional (by omega) hsplit.2) <;> omega
  · exact h.decimalText_below (by omega) (hpositional hbelow.1 (by omega))
  · have hrange := hscientific (by omega)
    split
    · rename_i first second rest hdigits
      exact h.decimalText_exponent hrange hdigits
    · rename_i hshort
      obtain ⟨c, rest, hdigits⟩ := List.exists_cons_of_ne_nil h.ne_nil
      cases rest with
      | nil =>
        have htext := h.decimalText_exponent hrange hdigits
        rw [hdigits] at htext ⊢
        exact htext
      | cons second rest => exact absurd hdigits (hshort c second rest)

end Digits

/-! ## Doubles -/

/-- The sign of a double. -/
def Double.sign (x : Double) : List Char := if 2 ^ 63 ≤ x.bits.toNat then ['-'] else []

/-- The text of a double: not a number, or a sign and an infinity, zero, or a shortest decimal. -/
inductive Double.Text (x : Double) : List Char → Prop
  | nan (h : 0x7FF0000000000000 < x.bits.toNat % 2 ^ 63) : Text x ['N', 'a', 'N']
  | infinity (h : x.bits.toNat % 2 ^ 63 = 0x7FF0000000000000) : Text x (x.sign ++ ['i', 'n', 'f'])
  | zero (h : x.bits.toNat % 2 ^ 63 = 0) : Text x (x.sign ++ ['0', '.', '0'])
  | number {d : Digits} {text : List Char} (hpos : 0 < x.bits.toNat % 2 ^ 63)
      (hfinite : x.bits.toNat % 2 ^ 63 < 0x7FF0000000000000)
      (hshortest : d.IsShortest (x.bits.toNat % 2 ^ 63)) (htext : DecimalText text d.value) :
      Text x (x.sign ++ text)

theorem Double.sign_eq (x : Double) : (if x.isNegative then ['-'] else []) = x.sign := by
  have hlt : x.bits.toNat < 2 ^ 64 := x.bits.toNat_lt
  have hiff : x.isNegative = true ↔ 2 ^ 63 ≤ x.bits.toNat := by
    rw [isNegative, beq_iff_eq, Nat.pow_eq]
    omega
  simp only [hiff, sign]

/-- A double is written as a shortest decimal after its sign, if it is a number. -/
theorem Double.text_write (x : Double) : x.Text x.write.toList := by
  simp only [write, sign_eq]
  split_ifs with hnan hfinite hzero
  · have htext : "NaN".toList = ['N', 'a', 'N'] := by decide
    rw [htext]
    exact .nan (of_decide_eq_true hnan)
  · rw [String.toList_ofList]
    have hle : x.magnitude ≤ infinityBits := not_lt.1 fun hlt => hnan (decide_eq_true hlt)
    rw [Bool.not_eq_true', isFinite, decide_eq_false_iff_not] at hfinite
    exact .infinity (hle.antisymm (not_lt.1 hfinite))
  · rw [String.toList_ofList]
    exact .zero hzero
  · rw [String.toList_ofList]
    rw [Bool.not_eq_true', Bool.not_eq_false] at hfinite
    have hpos : 0 < x.magnitude := Nat.pos_of_ne_zero hzero
    have hshortest := x.isShortest_shortest hpos
    exact .number hpos (of_decide_eq_true hfinite) hshortest
      (Digits.decimalText_write (hshortest.normal hpos))

-- three halves, the least positive double, and zero below zero
example : Double.write ⟨0x3FF8000000000000⟩ = "1.5" ∧ Double.write ⟨1⟩ = "5e-324"
    ∧ Double.write ⟨0x8000000000000000⟩ = "-0.0" := by
  decide +kernel

end Schemata.Decimal
