import Mathlib.Algebra.Order.Floor.Semiring
import Mathlib.Data.Int.Log
import Mathlib.Data.Rat.Floor
import Mathlib.Tactic.Ring

/-!
# Decimal numbers

A decimal number is a coefficient times a power of ten. Arithmetic in a context rounds a number
to a number of significant digits; a number without trailing zeros has one coefficient and one
exponent, and one text in fixed-point format.

## Main results

* `Decimal.reduce_eq_iff` — reduced numbers are equal when their values are;
* `Decimal.read_fixed` — the text of a number gives its value;
* `Decimal.fixed_reduce_eq_iff` — the texts of reduced numbers are equal when their values are.
-/

namespace Decimal

/-! ### Rounding -/

/-- `ROUND_HALF_EVEN`. -/
def roundHalfEven (x : ℚ) : ℕ :=
  let floor := ⌊x⌋₊
  if x - floor < 1 / 2 then floor
  else if 1 / 2 < x - floor then floor + 1
  else if floor % 2 = 0 then floor else floor + 1

/-- Rounding does not pass a natural number. -/
theorem roundHalfEven_le {x : ℚ} {n : ℕ} (h : x ≤ n) : roundHalfEven x ≤ n := by
  have hfloor : ⌊x⌋₊ ≤ n := Nat.floor_le_of_le h
  -- a number below its bound is at least one below it, before it is rounded up
  have hup : 1 / 2 ≤ x - ⌊x⌋₊ → ⌊x⌋₊ + 1 ≤ n := by
    intro hhalf
    refine lt_of_le_of_ne hfloor fun heq => ?_
    rw [heq] at hhalf
    linarith
  simp only [roundHalfEven]
  split
  · exact hfloor
  · next hnear =>
      split
      · exact hup (not_lt.mp hnear)
      · split
        · exact hfloor
        · exact hup (not_lt.mp hnear)

/-- A number is rounded to one of its two neighbours. -/
theorem roundHalfEven_cases (x : ℚ) :
    roundHalfEven x = ⌊x⌋₊ ∧ x - ⌊x⌋₊ ≤ 1 / 2 ∨
      roundHalfEven x = ⌊x⌋₊ + 1 ∧ 1 / 2 ≤ x - ⌊x⌋₊ := by
  simp only [roundHalfEven]
  split
  · next hnear => exact .inl ⟨rfl, hnear.le⟩
  · next hfar =>
      split
      · next hup => exact .inr ⟨rfl, hup.le⟩
      · next hhalf =>
          split
          · exact .inl ⟨rfl, not_lt.mp hhalf⟩
          · exact .inr ⟨rfl, not_lt.mp hfar⟩

/-- Rounding keeps the order. -/
theorem roundHalfEven_mono {x y : ℚ} (h : x ≤ y) : roundHalfEven x ≤ roundHalfEven y := by
  have hfloor : ⌊x⌋₊ ≤ ⌊y⌋₊ := Nat.floor_le_floor h
  by_contra hlt
  rcases roundHalfEven_cases x with ⟨hx, -⟩ | ⟨hx, hup⟩
  · rcases roundHalfEven_cases y with ⟨hy, -⟩ | ⟨hy, -⟩ <;> omega
  · rcases roundHalfEven_cases y with ⟨hy, hdown⟩ | ⟨hy, -⟩
    · -- they have the same neighbours, and both are half way between them
      have hsame : ⌊x⌋₊ = ⌊y⌋₊ := by omega
      rw [hsame] at hup
      have heq : x = y := by linarith
      exact hlt (by rw [heq])
    · omega

/-- `round(x, digits)`. -/
def roundTo (digits : ℕ) (x : ℚ) : ℚ :=
  let magnitude : ℚ := roundHalfEven (|x| * 10 ^ digits) / 10 ^ digits
  if x < 0 then -magnitude else magnitude

/-- A rounded number stays between zero and a natural number. -/
theorem roundTo_mem {digits n : ℕ} {x : ℚ} (hnonneg : 0 ≤ x) (hle : x ≤ n) :
    0 ≤ roundTo digits x ∧ roundTo digits x ≤ n := by
  simp only [roundTo, if_neg (not_lt.mpr hnonneg), abs_of_nonneg hnonneg]
  have hscaled : x * 10 ^ digits ≤ ((n * 10 ^ digits : ℕ) : ℚ) := by
    push_cast
    exact mul_le_mul_of_nonneg_right hle (by positivity)
  have hrounded : (roundHalfEven (x * 10 ^ digits) : ℚ) ≤ ((n * 10 ^ digits : ℕ) : ℚ) :=
    Nat.cast_le.mpr (roundHalfEven_le hscaled)
  push_cast at hrounded
  exact ⟨by positivity, (div_le_iff₀ (by positivity)).mpr hrounded⟩

/-- Rounding keeps the order of numbers that are not negative. -/
theorem roundTo_mono {digits : ℕ} {x y : ℚ} (hnonneg : 0 ≤ x) (h : x ≤ y) :
    roundTo digits x ≤ roundTo digits y := by
  have hy := hnonneg.trans h
  simp only [roundTo, if_neg (not_lt.mpr hnonneg), if_neg (not_lt.mpr hy), abs_of_nonneg hnonneg,
    abs_of_nonneg hy]
  have hscaled : x * 10 ^ digits ≤ y * 10 ^ digits :=
    mul_le_mul_of_nonneg_right h (by positivity)
  exact div_le_div_of_nonneg_right (Nat.cast_le.mpr (roundHalfEven_mono hscaled)) (by positivity)

/-- A context of decimal arithmetic: the number of significant digits, and the exponents of the
leading digit that are allowed. -/
structure Context where
  precision : ℕ
  maxExponent : ℤ
  minExponent : ℤ

/-- The default context. -/
def Context.default : Context := ⟨28, 999999, -999999⟩

/-- The coefficient and the exponent of a number that is rounded in a context, unless it is too
large. -/
def Context.round (context : Context) (x : ℚ) : Option (ℕ × ℤ) :=
  if x = 0 then some (0, 0)
  else
    let exponent := max (Int.log 10 x + 1 - context.precision)
      (context.minExponent + 1 - context.precision)
    let coefficient := roundHalfEven (x / 10 ^ exponent)
    if context.maxExponent < Nat.log 10 coefficient + exponent then none
    else some (coefficient, exponent)

/-! ### Reduced numbers -/

/-- The value of a coefficient and an exponent. -/
def value (number : ℕ × ℤ) : ℚ := number.1 * 10 ^ number.2

/-- Trailing zeros are stripped, at most a number of them. -/
def stripZeros : ℕ → ℕ × ℤ → ℕ × ℤ
  | 0, number => number
  | bound + 1, (coefficient, exponent) =>
      if coefficient % 10 = 0 then stripZeros bound (coefficient / 10, exponent + 1)
      else (coefficient, exponent)

/-- A number without trailing zeros. -/
def reduce (number : ℕ × ℤ) : ℕ × ℤ :=
  if number.1 = 0 then (0, 0) else stripZeros number.1 number

/-- There are no trailing zeros, and only one zero. -/
def Reduced (number : ℕ × ℤ) : Prop :=
  if number.1 = 0 then number.2 = 0 else number.1 % 10 ≠ 0

theorem stripZeros_spec (bound : ℕ) : ∀ number : ℕ × ℤ, number.1 ≠ 0 → number.1 < 10 ^ bound →
    value (stripZeros bound number) = value number ∧ (stripZeros bound number).1 % 10 ≠ 0 := by
  induction bound with
  | zero =>
      intro number hne hlt
      rw [pow_zero] at hlt
      omega
  | succ bound ih =>
      rintro ⟨coefficient, exponent⟩ hne hlt
      dsimp only at hne hlt
      rw [stripZeros]
      split
      · next hzero =>
          have hten : coefficient = 10 * (coefficient / 10) := by omega
          have hlt' : coefficient / 10 < 10 ^ bound := by
            rw [pow_succ] at hlt
            omega
          obtain ⟨hvalue, hlast⟩ := ih (coefficient / 10, exponent + 1) (by dsimp only; omega) hlt'
          refine ⟨hvalue.trans ?_, hlast⟩
          have hcast : (coefficient : ℚ) = 10 * ((coefficient / 10 : ℕ) : ℚ) := by
            exact_mod_cast congrArg (Nat.cast (R := ℚ)) hten
          rw [value, value, zpow_add_one₀ (by norm_num), hcast]
          ring
      · next hzero => exact ⟨rfl, hzero⟩

theorem lt_ten_pow (n : ℕ) : n < 10 ^ n := Nat.lt_pow_self (by decide)

/-- Reducing keeps the value. -/
theorem value_reduce (number : ℕ × ℤ) : value (reduce number) = value number := by
  unfold reduce
  split
  · next hzero => simp [value, hzero]
  · next hne => exact (stripZeros_spec _ number hne (lt_ten_pow _)).1

theorem reduced_reduce (number : ℕ × ℤ) : Reduced (reduce number) := by
  unfold reduce Reduced
  split
  · simp
  · next hne =>
      have hlast := (stripZeros_spec _ number hne (lt_ten_pow _)).2
      rw [if_neg fun hzero => hlast (by rw [hzero])]
      exact hlast

theorem value_eq_zero {number : ℕ × ℤ} : value number = 0 ↔ number.1 = 0 := by
  unfold value
  rw [mul_eq_zero, Nat.cast_eq_zero, or_iff_left]
  exact zpow_ne_zero _ (by norm_num)

/-- The one with the smaller exponent is a multiple of ten, or the exponents are the same. -/
theorem eq_of_value_eq {a b : ℕ × ℤ} (ha : a.1 % 10 ≠ 0) (h : value a = value b)
    (hle : a.2 ≤ b.2) : a = b := by
  obtain ⟨coefficient, exponent⟩ := a
  obtain ⟨coefficient', exponent'⟩ := b
  dsimp only at ha hle
  obtain ⟨gap, rfl⟩ := Int.le.dest hle
  have hcoefficient : coefficient = coefficient' * 10 ^ gap := by
    have hten : (10 : ℚ) ^ exponent ≠ 0 := zpow_ne_zero _ (by norm_num)
    simp only [value] at h
    rw [zpow_add₀ (by norm_num), zpow_natCast, mul_comm ((10 : ℚ) ^ exponent), ← mul_assoc] at h
    exact_mod_cast mul_right_cancel₀ hten h
  cases gap with
  | zero => simp [hcoefficient]
  | succ gap =>
      rw [pow_succ, ← mul_assoc] at hcoefficient
      omega

/-- Reduced numbers are equal when their values are. -/
theorem eq_of_reduced {a b : ℕ × ℤ} (ha : Reduced a) (hb : Reduced b) (h : value a = value b) :
    a = b := by
  unfold Reduced at ha hb
  have hzero : a.1 = 0 ↔ b.1 = 0 := by rw [← value_eq_zero, h, value_eq_zero]
  by_cases hcoefficient : a.1 = 0
  · rw [if_pos hcoefficient] at ha
    rw [if_pos (hzero.mp hcoefficient)] at hb
    exact Prod.ext (hcoefficient.trans (hzero.mp hcoefficient).symm) (ha.trans hb.symm)
  · rw [if_neg hcoefficient] at ha
    rw [if_neg fun h => hcoefficient (hzero.mpr h)] at hb
    rcases le_total a.2 b.2 with hle | hle
    · exact eq_of_value_eq ha h hle
    · exact (eq_of_value_eq hb h.symm hle).symm

theorem reduce_eq_iff {a b : ℕ × ℤ} : reduce a = reduce b ↔ value a = value b := by
  constructor
  · intro h
    rw [← value_reduce a, h, value_reduce]
  · intro h
    refine eq_of_reduced (reduced_reduce a) (reduced_reduce b) ?_
    rw [value_reduce, value_reduce, h]

/-! ### Fixed-point texts -/

/-- The digits of a coefficient, with enough leading zeros to stand before and after a point. -/
def padded (places coefficient : ℕ) : List Char :=
  List.replicate (places + 1 - (Nat.toDigits 10 coefficient).length) '0' ++
    Nat.toDigits 10 coefficient

/-- `format(number, "f")`, without a sign. -/
def fixed (number : ℕ × ℤ) : List Char :=
  if 0 ≤ number.2 then
    Nat.toDigits 10 number.1 ++ List.replicate number.2.toNat '0'
  else
    let places := (-number.2).toNat
    let digits := padded places number.1
    digits.take (digits.length - places) ++ '.' :: digits.drop (digits.length - places)

/-- How many digits of a text are after its point. -/
def placesOf (text : List Char) : ℕ :=
  if '.' ∈ text then (text.reverse.takeWhile (· != '.')).length else 0

/-- The number that a text is read as. -/
def read (text : List Char) : ℚ :=
  (Nat.ofDigitChars 10 (text.filter (· != '.')) 0 : ℕ) * 10 ^ (-(placesOf text : ℤ))

theorem ne_point_of_isDigit {c : Char} (h : c.isDigit = true) : c ≠ '.' := by
  rintro rfl
  exact absurd h (by decide)

theorem isDigit_of_mem_padded {places coefficient : ℕ} {c : Char}
    (h : c ∈ padded places coefficient) : c.isDigit = true := by
  rcases List.mem_append.mp h with hzero | hdigit
  · rw [List.eq_of_mem_replicate hzero]
    decide
  · exact Nat.isDigit_of_mem_toDigits (by decide) (by decide) hdigit

theorem length_padded (places coefficient : ℕ) : places < (padded places coefficient).length := by
  rw [padded, List.length_append, List.length_replicate]
  omega

theorem ofDigitChars_padded (places coefficient : ℕ) :
    Nat.ofDigitChars 10 (padded places coefficient) 0 = coefficient := by
  rw [padded, Nat.ofDigitChars_append, Nat.ofDigitChars_replicate_zero, Nat.mul_zero,
    Nat.ofDigitChars_ten_toDigits]

/-- Digits have no point. -/
theorem filter_ne_point {text : List Char} (h : ∀ c ∈ text, c.isDigit = true) :
    text.filter (· != '.') = text :=
  List.filter_eq_self.mpr fun c hc => bne_iff_ne.mpr (ne_point_of_isDigit (h c hc))

/-- A text with a point is read as its digits and the number of those after the point. -/
theorem read_point {whole fraction : List Char} (hwhole : ∀ c ∈ whole, c.isDigit = true)
    (hfraction : ∀ c ∈ fraction, c.isDigit = true) :
    read (whole ++ '.' :: fraction) =
      (Nat.ofDigitChars 10 (whole ++ fraction) 0 : ℕ) * 10 ^ (-(fraction.length : ℤ)) := by
  have hdigits : (whole ++ '.' :: fraction).filter (· != '.') = whole ++ fraction := by
    rw [List.filter_append, List.filter_cons_of_neg (by simp), filter_ne_point hwhole,
      filter_ne_point hfraction]
  have hplaces : placesOf (whole ++ '.' :: fraction) = fraction.length := by
    have hall : ∀ c ∈ fraction.reverse, (c != '.') = true := fun c hc =>
      bne_iff_ne.mpr (ne_point_of_isDigit (hfraction c (List.mem_reverse.mp hc)))
    rw [placesOf, if_pos (by simp), List.reverse_append, List.reverse_cons, List.append_assoc,
      List.takeWhile_append_of_pos hall]
    simp
  rw [read, hdigits, hplaces]

/-- A text without a point is read as a whole number. -/
theorem read_whole {whole : List Char} (hwhole : ∀ c ∈ whole, c.isDigit = true) :
    read whole = (Nat.ofDigitChars 10 whole 0 : ℕ) := by
  have hpoint : '.' ∉ whole := fun h => ne_point_of_isDigit (hwhole _ h) rfl
  rw [read, filter_ne_point hwhole, placesOf, if_neg hpoint]
  simp

/-- The text of a number gives its value. -/
theorem read_fixed (number : ℕ × ℤ) : read (fixed number) = value number := by
  obtain ⟨coefficient, exponent⟩ := number
  unfold fixed
  dsimp only
  split
  · next hexponent =>
      obtain ⟨zeros, rfl⟩ := Int.eq_ofNat_of_zero_le hexponent
      have hdigits : ∀ c ∈ Nat.toDigits 10 coefficient ++ List.replicate zeros '0',
          c.isDigit = true := by
        intro c hc
        rcases List.mem_append.mp hc with hdigit | hzero
        · exact Nat.isDigit_of_mem_toDigits (by decide) (by decide) hdigit
        · rw [List.eq_of_mem_replicate hzero]
          decide
      rw [Int.toNat_natCast, read_whole hdigits, Nat.ofDigitChars_append,
        Nat.ofDigitChars_replicate_zero, Nat.ofDigitChars_ten_toDigits, value, zpow_natCast]
      push_cast
      ring
  · next hexponent =>
      have hplaces : -(((-exponent).toNat : ℕ) : ℤ) = exponent := by omega
      have hlength := length_padded (-exponent).toNat coefficient
      rw [read_point (fun c hc => isDigit_of_mem_padded (List.mem_of_mem_take hc))
        (fun c hc => isDigit_of_mem_padded (List.mem_of_mem_drop hc)), List.take_append_drop,
        ofDigitChars_padded, List.length_drop]
      rw [Nat.sub_sub_self hlength.le, hplaces, value]

/-- The texts of reduced numbers are equal when their values are. -/
theorem fixed_reduce_eq_iff {a b : ℕ × ℤ} :
    fixed (reduce a) = fixed (reduce b) ↔ value a = value b := by
  constructor
  · intro h
    rw [← value_reduce a, ← value_reduce b, ← read_fixed, h, read_fixed]
  · intro h
    rw [reduce_eq_iff.mpr h]

/-- A text has digits, and perhaps a point. -/
theorem mem_fixed {number : ℕ × ℤ} {c : Char} (h : c ∈ fixed number) :
    c.isDigit = true ∨ c = '.' := by
  unfold fixed at h
  dsimp only at h
  split at h
  · rcases List.mem_append.mp h with hdigit | hzero
    · exact .inl (Nat.isDigit_of_mem_toDigits (by decide) (by decide) hdigit)
    · rw [List.eq_of_mem_replicate hzero]
      exact .inl (by decide)
  · rcases List.mem_append.mp h with hwhole | hrest
    · exact .inl (isDigit_of_mem_padded (List.mem_of_mem_take hwhole))
    · rcases List.mem_cons.mp hrest with hpoint | hfraction
      · exact .inr hpoint
      · exact .inl (isDigit_of_mem_padded (List.mem_of_mem_drop hfraction))

theorem fixed_ne_nil (number : ℕ × ℤ) : fixed number ≠ [] := by
  unfold fixed
  dsimp only
  split
  · exact List.append_ne_nil_of_left_ne_nil Nat.toDigits_ne_nil _
  · simp

/-- The last digit of a number. -/
theorem toDigits_eq_concat (n : ℕ) :
    ∃ rest, Nat.toDigits 10 n = rest ++ [Nat.digitChar (n % 10)] := by
  by_cases hsmall : n < 10
  · exact ⟨[], by rw [Nat.toDigits_of_lt_base hsmall, Nat.mod_eq_of_lt hsmall, List.nil_append]⟩
  · exact ⟨_, Nat.toDigits_of_base_le (by decide) (by omega)⟩

/-- The text of a reduced number does not end in zeros after a point. -/
theorem fixed_reduced {number : ℕ × ℤ} (h : Reduced number) (hpoint : '.' ∈ fixed number) :
    ∃ text last, fixed number = text ++ [last] ∧ last ≠ '0' ∧ last ≠ '.' := by
  obtain ⟨coefficient, exponent⟩ := number
  have hexponent : ¬ 0 ≤ exponent := by
    intro hexponent
    rw [fixed, if_pos hexponent] at hpoint
    rcases List.mem_append.mp hpoint with hdigit | hzero
    · exact ne_point_of_isDigit
        (Nat.isDigit_of_mem_toDigits (by decide) (by decide) hdigit) rfl
    · exact absurd (List.eq_of_mem_replicate hzero) (by decide)
  have hlast : coefficient % 10 ≠ 0 := by
    unfold Reduced at h
    dsimp only at h
    split at h
    · omega
    · exact h
  obtain ⟨rest, hrest⟩ := toDigits_eq_concat coefficient
  have hpadded : ∃ front, padded (-exponent).toNat coefficient =
      front ++ [Nat.digitChar (coefficient % 10)] := by
    rw [padded, hrest, ← List.append_assoc]
    exact ⟨_, rfl⟩
  obtain ⟨front, hfront⟩ := hpadded
  have hlength := length_padded (-exponent).toNat coefficient
  refine ⟨(padded (-exponent).toNat coefficient).take
      ((padded (-exponent).toNat coefficient).length - (-exponent).toNat) ++ '.' ::
      front.drop ((padded (-exponent).toNat coefficient).length - (-exponent).toNat),
    Nat.digitChar (coefficient % 10), ?_, ?_, ?_⟩
  · rw [fixed, if_neg hexponent]
    dsimp only
    rw [List.append_assoc, List.cons_append]
    congr 2
    rw [hfront] at hlength ⊢
    rw [List.length_append, List.length_singleton] at hlength ⊢
    rw [List.drop_append_of_le_length (by omega)]
  · intro hzero
    have hdigit := Nat.toNat_digitChar_sub_48_of_lt_ten
      (Nat.mod_lt coefficient (by decide : 0 < 10))
    rw [hzero] at hdigit
    exact hlast hdigit.symm
  · have hdigit : (Nat.digitChar (coefficient % 10)).isDigit = true := by
      refine Nat.isDigit_of_mem_toDigits (by decide) (by decide : 10 ≤ 10)
        (n := coefficient) ?_
      rw [hrest]
      simp
    exact ne_point_of_isDigit hdigit

end Decimal
