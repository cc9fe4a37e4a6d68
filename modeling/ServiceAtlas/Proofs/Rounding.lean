/-
Rounding to the nearest binary number.

A quotient of natural numbers is scaled so that its integral part has as many bits as a
significand, and the scaled quotient is rounded to an integer.  Two things make the outcome the
nearest of all numbers: numbers with the same exponent or a larger one are integers on the
scale, of which the nearest one was taken, and numbers with a smaller exponent lie below the
least integer with that many bits, on the other side of the quotient.

Where a number is the nearest to a quotient, it is equal to it exactly when some number is.
-/
import Mathlib.Algebra.Order.Field.Power
import Mathlib.Algebra.Order.Field.Rat
import Mathlib.Algebra.Ring.Int.Parity
import Mathlib.Tactic.FieldSimp
import Mathlib.Tactic.Linarith
import Mathlib.Tactic.Positivity
import Mathlib.Tactic.Ring
import ServiceAtlas.Decimal.Binary64

namespace ServiceAtlas.Binary64

/-! ### Rounding to an integer -/

/-- The integer is the nearest one, and the even one of two that are equally near. -/
structure RoundsTo (t : ℚ) (m : ℤ) : Prop where
  near : |m - t| ≤ 1 / 2
  even : |m - t| = 1 / 2 → Even m

namespace RoundsTo

variable {t : ℚ} {m : ℤ}

theorem iff_of_sub_eq {d : ℚ} (h : (m : ℚ) - t = d) :
    RoundsTo t m ↔ |d| ≤ 1 / 2 ∧ (|d| = 1 / 2 → Even m) :=
  ⟨fun hm => h ▸ ⟨hm.near, hm.even⟩, fun hd => ⟨h.symm ▸ hd.1, h.symm ▸ hd.2⟩⟩

/-- Other integers are at least half a unit away. -/
theorem half_le (h : RoundsTo t m) {z : ℤ} (hz : z ≠ m) : 1 / 2 ≤ |z - t| := by
  have hapart : (1 : ℚ) ≤ |(z : ℚ) - m| := by
    rw [← Int.cast_sub, ← Int.cast_abs]
    exact_mod_cast Int.one_le_abs (sub_ne_zero.mpr hz)
  have htriangle : |(z : ℚ) - m| ≤ |z - t| + |m - t| := by
    rw [abs_sub_comm (m : ℚ) t]
    exact abs_sub_le _ _ _
  linarith [h.near]

theorem le (h : RoundsTo t m) (z : ℤ) : |m - t| ≤ |z - t| := by
  by_cases hz : z = m
  · rw [hz]
  · exact h.near.trans (h.half_le hz)

theorem eq_or_even (h : RoundsTo t m) {z : ℤ} (hz : |m - t| = |z - t|) : z = m ∨ Even m := by
  by_cases heq : z = m
  · exact Or.inl heq
  · exact Or.inr (h.even (le_antisymm h.near (hz ▸ h.half_le heq)))

/-- An integer bound of the number bounds the integer. -/
theorem le_of_le (h : RoundsTo t m) {z : ℤ} (hz : t ≤ z) : m ≤ z := by
  have hle := h.le z
  rw [abs_of_nonneg (sub_nonneg.mpr hz)] at hle
  have hself := le_abs_self ((m : ℚ) - t)
  exact_mod_cast (by linarith : (m : ℚ) ≤ z)

theorem ge_of_ge (h : RoundsTo t m) {z : ℤ} (hz : z ≤ t) : z ≤ m := by
  have hle := h.le z
  rw [abs_of_nonpos (sub_nonpos.mpr hz)] at hle
  have hself := neg_le_abs ((m : ℚ) - t)
  exact_mod_cast (by linarith : (z : ℚ) ≤ m)

end RoundsTo

theorem roundsTo_roundQuotient (num : Nat) {den : Nat} (hden : 0 < den) :
    RoundsTo (num / den) (roundQuotient num den) := by
  have hden' : (0 : ℚ) < den := by exact_mod_cast hden
  -- The quotient is its integral part and a fraction.
  have hsplit : (num : ℚ) / den = (num / den : ℕ) + (num % den : ℕ) / (den : ℚ) := by
    have hnum : (num : ℚ) = den * (num / den : ℕ) + (num % den : ℕ) := by
      exact_mod_cast (Nat.div_add_mod num den).symm
    rw [add_comm, div_eq_iff hden'.ne', add_mul, div_mul_cancel₀ _ hden'.ne', add_comm, mul_comm,
      ← hnum]
  have hnonneg : (0 : ℚ) ≤ (num % den : ℕ) / (den : ℚ) := by positivity
  have hlt : ((num % den : ℕ) : ℚ) / den < 1 := by
    rw [div_lt_one hden']
    exact_mod_cast Nat.mod_lt num hden
  -- The integers on both sides, and how far they are.
  have hbelow (q : ℕ) (f : ℚ) : ((q : ℤ) : ℚ) - (q + f) = -f := by
    push_cast
    ring
  have habove (q : ℕ) (f : ℚ) : (((q + 1 : ℕ) : ℤ) : ℚ) - (q + f) = 1 - f := by
    push_cast
    ring
  rw [hsplit]
  unfold roundQuotient
  dsimp only
  split
  · rename_i hup
    have hfraction : 1 / 2 < ((num % den : ℕ) : ℚ) / den := by
      rw [lt_div_iff₀ hden']
      have hcast : (den : ℚ) < 2 * (num % den : ℕ) := by exact_mod_cast hup
      linarith
    rw [RoundsTo.iff_of_sub_eq (habove _ _), abs_of_pos (by linarith)]
    exact ⟨by linarith, fun hhalf => absurd hhalf (by linarith)⟩
  · split
    · rename_i htie
      have hfraction : ((num % den : ℕ) : ℚ) / den = 1 / 2 := by
        rw [div_eq_iff hden'.ne']
        have hcast : 2 * ((num % den : ℕ) : ℚ) = den := by exact_mod_cast htie
        linarith
      rw [hfraction]
      obtain heven | hodd := Nat.mod_two_eq_zero_or_one (num / den)
      · rw [heven, add_zero, RoundsTo.iff_of_sub_eq (hbelow _ _), abs_neg, abs_of_pos (by norm_num)]
        exact ⟨le_rfl, fun _ => by exact_mod_cast Nat.even_iff.mpr heven⟩
      · rw [hodd, RoundsTo.iff_of_sub_eq (habove _ _), abs_of_pos (by norm_num)]
        exact ⟨by norm_num, fun _ => by exact_mod_cast (Nat.odd_iff.mpr hodd).add_one⟩
    · rename_i hup htie
      have hfraction : ((num % den : ℕ) : ℚ) / den < 1 / 2 := by
        rw [div_lt_iff₀ hden']
        have hcast : 2 * ((num % den : ℕ) : ℚ) < den := by exact_mod_cast (by omega : _ < den)
        linarith
      rw [RoundsTo.iff_of_sub_eq (hbelow _ _), abs_neg, abs_of_nonneg hnonneg]
      exact ⟨hfraction.le, fun hhalf => absurd hhalf hfraction.ne⟩

/-! ### The number of bits -/

/-- The quotient has the given power of two as its leading one. -/
def Leads (k : ℤ) (q : ℚ) : Prop :=
  2 ^ k ≤ q ∧ q < 2 ^ (k + 1)

theorem powerAtMost_iff (e : ℤ) (num : Nat) {den : Nat} (hden : 0 < den) :
    powerAtMost e num den = true ↔ (2 : ℚ) ^ e ≤ num / den := by
  have hden' : (0 : ℚ) < den := by exact_mod_cast hden
  unfold powerAtMost
  rw [le_div_iff₀ hden']
  split
  · rename_i he
    obtain ⟨n, rfl⟩ := Int.eq_ofNat_of_zero_le he
    rw [decide_eq_true_iff, Int.toNat_natCast, zpow_natCast]
    exact_mod_cast Iff.rfl
  · rename_i he
    obtain ⟨n, hn⟩ := Int.eq_ofNat_of_zero_le (by omega : 0 ≤ -e)
    obtain rfl : e = -n := by omega
    rw [decide_eq_true_iff, neg_neg, Int.toNat_natCast, zpow_neg, zpow_natCast,
      inv_mul_le_iff₀ (by positivity), mul_comm]
    exact_mod_cast Iff.rfl

theorem leads_floorLog2 {num den : Nat} (hnum : 0 < num) (hden : 0 < den) :
    Leads (floorLog2 num den) (num / den) := by
  have hden' : (0 : ℚ) < den := by exact_mod_cast hden
  obtain ⟨a, ha⟩ : ∃ a, Nat.log2 num = a := ⟨_, rfl⟩
  obtain ⟨b, hb⟩ : ∃ b, Nat.log2 den = b := ⟨_, rfl⟩
  have hnumLe : (2 : ℚ) ^ a ≤ num := by exact_mod_cast ha ▸ Nat.log2_self_le hnum.ne'
  have hnumLt : (num : ℚ) < 2 ^ (a + 1) := by exact_mod_cast ha ▸ Nat.lt_log2_self
  have hdenLe : (2 : ℚ) ^ b ≤ den := by exact_mod_cast hb ▸ Nat.log2_self_le hden.ne'
  have hdenLt : (den : ℚ) < 2 ^ (b + 1) := by exact_mod_cast hb ▸ Nat.lt_log2_self
  have hbelow : (2 : ℚ) ^ ((a : ℤ) - b - 1) ≤ num / den := by
    rw [le_div_iff₀ hden']
    calc (2 : ℚ) ^ ((a : ℤ) - b - 1) * den ≤ 2 ^ ((a : ℤ) - b - 1) * 2 ^ (b + 1) := by gcongr
      _ = 2 ^ a := by
        rw [← zpow_natCast, ← zpow_natCast, ← zpow_add₀ (by norm_num)]
        congr 1
        push_cast
        ring
      _ ≤ num := hnumLe
  have habove : (num : ℚ) / den < 2 ^ ((a : ℤ) - b + 1) := by
    rw [div_lt_iff₀ hden']
    calc (num : ℚ) < 2 ^ (a + 1) := hnumLt
      _ = 2 ^ ((a : ℤ) - b + 1) * 2 ^ b := by
        rw [← zpow_natCast, ← zpow_natCast, ← zpow_add₀ (by norm_num)]
        congr 1
        push_cast
        ring
      _ ≤ 2 ^ ((a : ℤ) - b + 1) * den := by gcongr
  unfold floorLog2
  rw [ha, hb]
  dsimp only
  split
  · rename_i hguess
    exact ⟨(powerAtMost_iff _ num hden).mp hguess, habove⟩
  · rename_i hguess
    rw [powerAtMost_iff _ num hden, not_le] at hguess
    exact ⟨hbelow, by rwa [sub_add_cancel]⟩

/-! ### The nearest number -/

/-- The factor that a sign stands for. -/
def sign (negative : Bool) : ℚ :=
  if negative then -1 else 1

/-- The rational number that a finite number is. -/
def toRat : Binary64 → ℚ
  | finite negative m e => sign negative * (m * 2 ^ e)
  | _ => 0

/-- Some number is equal to the rational number. -/
def Representable (v : ℚ) : Prop :=
  ∃ z e : ℤ, |z| < 2 ^ precision ∧ minExponent ≤ e ∧ e ≤ maxExponent ∧ v = z * 2 ^ e

/-- The significand, written with all bits that it can have, is even. -/
def IsEven : Binary64 → Prop
  | finite _ m e => Even m ∧ (2 ^ (precision - 1) ≤ m ∨ e = minExponent)
  | _ => False

/-- The number is the nearest one, and the even one of two that are equally near. -/
structure Nearest (x : Binary64) (q : ℚ) : Prop where
  finite : x.isFinite = true
  representable : Representable x.toRat
  closest : ∀ v, Representable v → |x.toRat - q| ≤ |v - q|
  tie_even : ∀ v, Representable v → |x.toRat - q| = |v - q| → v = x.toRat ∨ x.IsEven

theorem Representable.neg {v : ℚ} (h : Representable v) : Representable (-v) := by
  obtain ⟨z, e, hz, hmin, hmax, rfl⟩ := h
  exact ⟨-z, e, by rwa [abs_neg], hmin, hmax, by push_cast; ring⟩

/-- Where a number is the nearest one, only a rational number that no number is equal to is
missed. -/
theorem Nearest.toRat_eq_iff {x : Binary64} {q : ℚ} (h : x.Nearest q) :
    x.toRat = q ↔ Representable q := by
  refine ⟨fun heq => heq ▸ h.representable, fun hq => ?_⟩
  have hle := h.closest q hq
  rw [sub_self, abs_zero] at hle
  exact sub_eq_zero.mp (abs_nonpos_iff.mp hle)

/-- The exponent with which a quotient is rounded, given its leading power of two. -/
def roundingExponent (k : ℤ) : ℤ :=
  max minExponent (k - (precision - 1 : Nat))

section Scaled

variable {k m : ℤ} {q : ℚ}

theorem minExponent_le_roundingExponent (k : ℤ) : minExponent ≤ roundingExponent k :=
  le_max_left _ _

theorem roundingExponent_eq_of_lt (h : minExponent < roundingExponent k) :
    2 ^ (precision - 1) * (2 : ℚ) ^ roundingExponent k = 2 ^ k := by
  have he : roundingExponent k = k - (precision - 1 : Nat) :=
    (max_choice _ _).resolve_left h.ne'
  rw [he, ← zpow_natCast, ← zpow_add₀ (by norm_num), add_sub_cancel]

theorem abs_mul_sub (a q : ℚ) (e : ℤ) : |a * 2 ^ e - q| = |a - q / 2 ^ e| * 2 ^ e := by
  have hpos : (0 : ℚ) < 2 ^ e := by positivity
  calc |a * 2 ^ e - q| = |(a - q / 2 ^ e) * 2 ^ e| := by
        rw [sub_mul, div_mul_cancel₀ _ hpos.ne']
    _ = |a - q / 2 ^ e| * 2 ^ e := by rw [abs_mul, abs_of_pos hpos]

/-- A number with a smaller exponent is farther away than some multiple. -/
theorem lt_abs_sub_of_small {z e : ℤ} (hk : Leads k q)
    (hm : RoundsTo (q / 2 ^ roundingExponent k) m) (hz : |z| < 2 ^ precision)
    (hmin : minExponent ≤ e) (he : e < roundingExponent k) :
    |m * 2 ^ roundingExponent k - q| < |z * 2 ^ e - q| := by
  have hlead := roundingExponent_eq_of_lt (hmin.trans_lt he)
  have hsmall : (z : ℚ) * 2 ^ e < 2 ^ k := by
    have hz' : (z : ℚ) < 2 ^ precision := by exact_mod_cast (le_abs_self z).trans_lt hz
    calc (z : ℚ) * 2 ^ e < 2 ^ precision * 2 ^ e := by gcongr
      _ = 2 ^ (precision - 1) * 2 ^ (e + 1) := by
        rw [zpow_add_one₀ (by norm_num)]
        simp only [precision]
        ring
      _ ≤ 2 ^ (precision - 1) * 2 ^ roundingExponent k := by
        gcongr
        · norm_num
        · omega
      _ = 2 ^ k := hlead
  have hmultiple := hm.le (2 ^ (precision - 1))
  calc |m * 2 ^ roundingExponent k - q|
      = |m - q / 2 ^ roundingExponent k| * 2 ^ roundingExponent k := abs_mul_sub _ _ _
    _ ≤ |((2 ^ (precision - 1) : ℤ) : ℚ) - q / 2 ^ roundingExponent k|
          * 2 ^ roundingExponent k := by
      gcongr
    _ = |2 ^ k - q| := by
      rw [← abs_mul_sub, ← hlead]
      push_cast
      rfl
    _ = q - 2 ^ k := by rw [abs_sub_comm, abs_of_nonneg (sub_nonneg.mpr hk.1)]
    _ < q - z * 2 ^ e := by linarith
    _ ≤ |z * 2 ^ e - q| := by
      rw [abs_sub_comm]
      exact le_abs_self _

/-- A number with the same exponent or a larger one is a multiple. -/
theorem mul_zpow_eq_of_le {z e e' : ℤ} (h : e ≤ e') :
    (z : ℚ) * 2 ^ e' = ((z * 2 ^ (e' - e).toNat : ℤ) : ℚ) * 2 ^ e := by
  push_cast
  rw [mul_assoc, ← zpow_natCast, ← zpow_add₀ (by norm_num)]
  congr 2
  omega

/-- **The nearest multiple is the nearest number.** -/
theorem closest_of_roundsTo (hk : Leads k q)
    (hm : RoundsTo (q / 2 ^ roundingExponent k) m) {v : ℚ} (hv : Representable v) :
    |m * 2 ^ roundingExponent k - q| ≤ |v - q| ∧
      (|m * 2 ^ roundingExponent k - q| = |v - q| →
        v = m * 2 ^ roundingExponent k ∨ Even m) := by
  obtain ⟨z, e, hz, hmin, -, rfl⟩ := hv
  by_cases he : roundingExponent k ≤ e
  · have hpos : (0 : ℚ) < 2 ^ roundingExponent k := by positivity
    rw [mul_zpow_eq_of_le he, abs_mul_sub, abs_mul_sub, mul_le_mul_iff_left₀ hpos,
      mul_left_inj' hpos.ne']
    refine ⟨hm.le _, fun heq => (hm.eq_or_even heq).imp_left fun hzm => ?_⟩
    rw [hzm]
  · have hlt := lt_abs_sub_of_small hk hm hz hmin (not_le.mp he)
    exact ⟨hlt.le, fun heq => absurd heq hlt.ne⟩

end Scaled

/-! ### Signs -/

theorem sign_mul_sign (negative : Bool) (v : ℚ) : sign negative * (sign negative * v) = v := by
  cases negative <;> simp [sign]

theorem Representable.sign_mul {v : ℚ} (h : Representable v) (negative : Bool) :
    Representable (sign negative * v) := by
  cases negative with
  | false => simpa [sign] using h
  | true => simpa [sign] using h.neg

/-- A sign can be moved from one number to another one without changing their distance. -/
theorem abs_sub_sign_mul (negative : Bool) (v q : ℚ) :
    |v - sign negative * q| = |sign negative * v - q| := by
  have hsign : |sign negative| = 1 := by cases negative <;> simp [sign]
  calc |v - sign negative * q| = |sign negative * (sign negative * v - q)| := by
        rw [mul_sub, sign_mul_sign]
    _ = |sign negative * v - q| := by rw [abs_mul, hsign, one_mul]

/-- A finite number is the nearest to a quotient with its sign if its magnitude is the nearest to
the magnitude. -/
theorem nearest_finite (negative : Bool) {m : Nat} {e : ℤ} {q : ℚ} (hm : m < 2 ^ precision)
    (hmin : minExponent ≤ e) (hmax : e ≤ maxExponent)
    (hfull : 2 ^ (precision - 1) ≤ m ∨ e = minExponent)
    (hclosest : ∀ v, Representable v → |m * 2 ^ e - q| ≤ |v - q| ∧
      (|m * 2 ^ e - q| = |v - q| → v = m * 2 ^ e ∨ Even m)) :
    (finite negative m e).Nearest (sign negative * q) := by
  have hvalue : (finite negative m e).toRat = sign negative * (m * 2 ^ e) := rfl
  have hmagnitude : Representable (m * 2 ^ e) := by
    refine ⟨m, e, ?_, hmin, hmax, by rw [Int.cast_natCast]⟩
    rw [Nat.abs_cast]
    exact_mod_cast hm
  refine ⟨rfl, hmagnitude.sign_mul negative, fun v hv => ?_, fun v hv heq => ?_⟩
  · rw [hvalue, abs_sub_sign_mul, abs_sub_sign_mul, sign_mul_sign]
    exact (hclosest _ (hv.sign_mul negative)).1
  · rw [hvalue, abs_sub_sign_mul, abs_sub_sign_mul, sign_mul_sign] at heq
    obtain hsame | heven := (hclosest _ (hv.sign_mul negative)).2 heq
    · exact Or.inl (by rw [hvalue, ← hsame, sign_mul_sign])
    · exact Or.inr ⟨heven, hfull⟩

/-! ### Quotients -/

/-- The quotient on the scale of an exponent, rounded to an integer. -/
theorem roundsTo_scaled (num : Nat) {den : Nat} (hden : 0 < den) (e : ℤ) :
    RoundsTo (num / den / 2 ^ e)
      (if 0 ≤ e then roundQuotient num (den * Nat.pow 2 e.toNat)
        else roundQuotient (num * Nat.pow 2 (-e).toNat) den : ℕ) := by
  split
  · rename_i he
    obtain ⟨n, rfl⟩ := Int.eq_ofNat_of_zero_le he
    have hround := roundsTo_roundQuotient num (Nat.mul_pos hden (Nat.two_pow_pos n))
    rw [zpow_natCast, div_div]
    exact_mod_cast hround
  · rename_i he
    obtain ⟨n, hn⟩ := Int.eq_ofNat_of_zero_le (by omega : 0 ≤ -e)
    obtain rfl : e = -n := by omega
    have hround := roundsTo_roundQuotient (num * 2 ^ n) hden
    rw [zpow_neg, zpow_natCast, div_inv_eq_mul, div_mul_eq_mul_div, neg_neg, Int.toNat_natCast]
    exact_mod_cast hround

theorem leads_scaled {k : ℤ} {q : ℚ} (hk : Leads k q) :
    q / 2 ^ roundingExponent k ≤ 2 ^ precision ∧
      (minExponent < roundingExponent k → 2 ^ (precision - 1) ≤ q / 2 ^ roundingExponent k) := by
  have hpos : (0 : ℚ) < 2 ^ roundingExponent k := by positivity
  rw [div_le_iff₀ hpos, le_div_iff₀ hpos]
  refine ⟨?_, fun hlt => (roundingExponent_eq_of_lt hlt).trans_le hk.1⟩
  have hle : k - (precision - 1 : Nat) ≤ roundingExponent k := le_max_right _ _
  calc q ≤ 2 ^ (k + 1) := hk.2.le
    _ = 2 ^ precision * 2 ^ (k - (precision - 1 : Nat)) := by
      rw [← zpow_natCast, ← zpow_add₀ (by norm_num)]
      congr 1
      simp only [precision]
      omega
    _ ≤ 2 ^ precision * 2 ^ roundingExponent k := by
      gcongr
      norm_num

/-- Quotients below this power of two are not rounded to infinity. -/
def safeExponent : Nat := 1023

theorem roundingExponent_lt {k : ℤ} {q : ℚ} (hk : Leads k q) (hq : q < 2 ^ safeExponent) :
    roundingExponent k < maxExponent := by
  have hlt : k < safeExponent := by
    rw [← zpow_lt_zpow_iff_right₀ (a := (2 : ℚ)) (by norm_num), zpow_natCast]
    exact hk.1.trans_lt hq
  simp only [roundingExponent, minExponent, maxExponent, precision, safeExponent] at hlt ⊢
  omega

/-- A significand that has become too large is halved, which keeps its value. -/
theorem nearest_carried (negative : Bool) {m : Nat} {e : ℤ} {q : ℚ} (hbits : m ≤ 2 ^ precision)
    (hmin : minExponent ≤ e) (hmax : e < maxExponent)
    (hfull : minExponent < e → 2 ^ (precision - 1) ≤ m)
    (hclosest : ∀ v, Representable v → |m * 2 ^ e - q| ≤ |v - q| ∧
      (|m * 2 ^ e - q| = |v - q| → v = m * 2 ^ e ∨ Even m)) :
    (let carried := if m = Nat.pow 2 precision then (Nat.pow 2 (precision - 1), e + 1) else (m, e)
      if maxExponent < carried.2 then infinite negative
      else finite negative carried.1 carried.2).Nearest (sign negative * q) := by
  by_cases hcarry : m = Nat.pow 2 precision
  · have hsame : (Nat.pow 2 (precision - 1) : ℚ) * 2 ^ (e + 1) = m * 2 ^ e := by
      rw [hcarry, zpow_add_one₀ (by norm_num), Nat.pow_eq]
      simp only [precision]
      push_cast
      ring
    rw [if_pos hcarry]
    dsimp only
    rw [if_neg (by omega)]
    refine nearest_finite negative (by decide) (by omega) (by omega) (Or.inl le_rfl) fun v hv => ?_
    rw [hsame]
    exact ⟨(hclosest v hv).1, fun heq => ((hclosest v hv).2 heq).imp_right fun _ => by decide⟩
  · rw [if_neg hcarry]
    dsimp only
    rw [if_neg (by omega)]
    refine nearest_finite negative (lt_of_le_of_ne hbits hcarry) hmin hmax.le ?_ hclosest
    exact (lt_or_eq_of_le hmin).imp hfull Eq.symm

/-- **Rounding a quotient yields the nearest number.** -/
theorem nearest_ofRatio (negative : Bool) (num : Nat) {den : Nat} (hden : 0 < den)
    (h : (num : ℚ) / den < 2 ^ safeExponent) :
    (ofRatio negative num den).Nearest (sign negative * (num / den)) := by
  by_cases hzero : num = 0
  · subst hzero
    refine nearest_finite negative (by decide) le_rfl (by decide) (Or.inr rfl) fun v _ => ?_
    simp only [Nat.cast_zero, zero_mul, zero_div, sub_zero, abs_zero]
    exact ⟨abs_nonneg v, fun hv => Or.inl (abs_eq_zero.mp hv.symm)⟩
  have hk := leads_floorLog2 (Nat.pos_of_ne_zero hzero) hden
  have hround := roundsTo_scaled num hden (roundingExponent (floorLog2 num den))
  obtain ⟨hle, hge⟩ := leads_scaled hk
  rw [ofRatio, if_neg hzero]
  refine nearest_carried negative ?_ (minExponent_le_roundingExponent _) (roundingExponent_lt hk h)
    (fun hlt => ?_) fun v hv => ?_
  · exact_mod_cast hround.le_of_le (z := 2 ^ precision) (by exact_mod_cast hle)
  · exact_mod_cast hround.ge_of_ge (z := 2 ^ (precision - 1)) (by exact_mod_cast hge hlt)
  · exact_mod_cast closest_of_roundsTo hk hround hv

/-! ### Integers -/

/-- The integer has no more significant bits than a significand. -/
def FitsPrecision (n : ℤ) : Prop :=
  ∃ m k : ℕ, m < 2 ^ precision ∧ n.natAbs = m * 2 ^ k

variable {n : ℤ}

theorem fitsPrecision_of_le (h : n.natAbs ≤ 2 ^ precision) : FitsPrecision n := by
  by_cases heq : n.natAbs = 2 ^ precision
  · exact ⟨1, precision, by decide, by rw [heq, one_mul]⟩
  · exact ⟨n.natAbs, 0, lt_of_le_of_ne h heq, by rw [pow_zero, mul_one]⟩

theorem representable_iff (h : n.natAbs < 2 ^ maxExponent.toNat) :
    Representable n ↔ FitsPrecision n := by
  constructor
  · rintro ⟨z, e, hz, -, -, heq⟩
    have hz' : z.natAbs < 2 ^ precision := by zify; exact hz
    by_cases he : 0 ≤ e
    · obtain ⟨k, rfl⟩ := Int.eq_ofNat_of_zero_le he
      have hn : n = z * 2 ^ k := by
        rw [zpow_natCast] at heq
        exact_mod_cast heq
      refine ⟨z.natAbs, k, hz', ?_⟩
      rw [hn, Int.natAbs_mul, Int.natAbs_pow]
      rfl
    · -- The integer is smaller than the significand.
      obtain ⟨k, hk⟩ := Int.eq_ofNat_of_zero_le (by omega : 0 ≤ -e)
      obtain rfl : e = -k := by omega
      have hn : z = n * 2 ^ k := by
        rw [zpow_neg, zpow_natCast, eq_mul_inv_iff_mul_eq₀ (by positivity)] at heq
        exact_mod_cast heq.symm
      refine fitsPrecision_of_le (le_trans ?_ hz'.le)
      rw [hn, Int.natAbs_mul, Int.natAbs_pow]
      exact Nat.le_mul_of_pos_right _ (by positivity)
  · rintro ⟨m, k, hm, heq⟩
    by_cases hzero : n = 0
    · exact ⟨0, 0, by decide, by decide, by decide, by simp [hzero]⟩
    have hpositive : 0 < m := by
      refine Nat.pos_of_ne_zero ?_
      rintro rfl
      exact hzero (Int.natAbs_eq_zero.mp (by rw [heq, zero_mul]))
    have hk : k < maxExponent.toNat :=
      (Nat.pow_lt_pow_iff_right (by decide)).mp
        ((Nat.le_mul_of_pos_left _ hpositive).trans_lt (heq ▸ h))
    refine ⟨n.sign * m, k, ?_, ?_, ?_, ?_⟩
    · rw [abs_mul, Int.abs_sign_of_ne_zero hzero, one_mul, Nat.abs_cast]
      exact_mod_cast hm
    · exact le_trans (by decide) (Int.natCast_nonneg k)
    · simp only [maxExponent] at hk ⊢
      omega
    · have hn : n = n.sign * m * 2 ^ k := by
        conv_lhs => rw [← Int.sign_mul_natAbs n, heq]
        push_cast
        ring
      rw [zpow_natCast]
      exact_mod_cast hn

theorem sign_mul_natAbs (n : ℤ) : sign (n < 0) * (n.natAbs : ℚ) = n := by
  unfold sign
  rw [Nat.cast_natAbs, Int.cast_abs]
  by_cases h : n < 0
  · rw [if_pos (decide_eq_true h), abs_of_neg (by exact_mod_cast h), neg_one_mul, neg_neg]
  · rw [if_neg (by simpa using h), one_mul, abs_of_nonneg (by exact_mod_cast not_lt.mp h)]

/-- **An integer is rounded to the nearest number.** -/
theorem nearest_ofInt (h : n.natAbs < 2 ^ maxExponent.toNat) : (ofInt n).Nearest n := by
  have hsafe : ((n.natAbs : ℕ) : ℚ) / (1 : ℕ) < 2 ^ safeExponent := by
    rw [Nat.cast_one, div_one]
    exact_mod_cast h.trans (Nat.pow_lt_pow_right (by decide) (by decide))
  have hnearest := nearest_ofRatio (n < 0) n.natAbs one_pos hsafe
  rwa [Nat.cast_one, div_one, sign_mul_natAbs] at hnearest

end ServiceAtlas.Binary64
