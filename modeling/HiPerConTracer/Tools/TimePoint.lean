import HiPerConTracer.Lib.Binary64
import HiPerConTracer.Lib.Calendar
import HiPerConTracer.Results.Statement

/-!
# Time points as texts (`tools.h`)

`timePointToString` computes the seconds of a time point as a double, and prints digits of its fraction.  At
present these doubles are some hundred nanoseconds apart:

    2^60 ≤ t < 2^61 → the text of t, read again, is less than 368 nanoseconds from t  (text_near)
-/

namespace HiPerConTracer.Tools
open Binary64 Calendar
open Results (Text)

/-- The conversions of `std::put_time` that there are in formats. -/
def putConversion (tm : DateTime) (c : Char) : Text :=
  if c = 'Y' then Numeral.padded 10 4 tm.year
  else if c = 'm' then Numeral.padded 10 2 tm.month
  else if c = 'd' then Numeral.padded 10 2 tm.day
  else if c = 'H' then Numeral.padded 10 2 tm.hours
  else if c = 'M' then Numeral.padded 10 2 tm.minutes
  else if c = 'S' then Numeral.padded 10 2 tm.seconds
  else [c]

def putTime (tm : DateTime) : Text → Text
  | [] => []
  | '%' :: c :: format => putConversion tm c ++ putTime tm format
  | c :: format => c :: putTime tm format

/-- The default of `timePointToString`. -/
def dateFormat : Text := "%Y-%m-%d %H:%M:%S".toList

theorem putTime_dateFormat (tm : DateTime) :
    putTime tm dateFormat =
      Numeral.padded 10 4 tm.year ++ '-' :: (Numeral.padded 10 2 tm.month ++ '-' ::
        (Numeral.padded 10 2 tm.day ++ ' ' :: (Numeral.padded 10 2 tm.hours ++ ':' ::
          (Numeral.padded 10 2 tm.minutes ++ ':' :: Numeral.padded 10 2 tm.seconds)))) := by
  have hformat : dateFormat =
      ['%', 'Y', '-', '%', 'm', '-', '%', 'd', ' ', '%', 'H', ':', '%', 'M', ':', '%', 'S'] := by
    decide
  rw [hformat]
  simp [putTime, putConversion]

/-- `double(timePoint.time_since_epoch().count()) / 1000000000`, without a sign. -/
def doubleSeconds (nanoseconds : Nat) : Binary64 :=
  .ofQuotient (Binary64.roundNat nanoseconds) 1000000000

/-- The whole seconds of `modf`. -/
def wholeSeconds (timePoint : Int) : Int :=
  let seconds := doubleSeconds timePoint.natAbs
  if timePoint < 0 then -seconds.trunc else seconds.trunc

theorem natAbs_wholeSeconds_le (timePoint : Int) :
    (wholeSeconds timePoint).natAbs ≤ 2 * timePoint.natAbs / 1000000000 + 1 := by
  have htrunc : (doubleSeconds timePoint.natAbs).trunc ≤ 2 * timePoint.natAbs / 1000000000 + 1 :=
    Nat.le_trans (Binary64.trunc_ofQuotient_le _ _)
      (Nat.succ_le_succ (Nat.div_le_div_right (Binary64.roundNat_le _)))
  unfold wholeSeconds
  dsimp only
  split <;> omega

/-- `(unsigned int)floor(fseconds * pow(10.0, precision))`. -/
def fractionNumber (timePoint : Int) (precision : Nat) : Nat :=
  let product := (doubleSeconds timePoint.natAbs).fraction.mulNat (10 ^ precision)
  let floor : Int := if timePoint < 0 then -product.ceil else product.trunc
  -- A negative number wraps, as it does on x86-64.
  (floor % 2 ^ 32).toNat

/-- `timePointToString`, for a time point of nanoseconds. -/
def timePointToString (timePoint : Int) (precision : Nat) (format : Text) : Text :=
  putTime (gmtime (wholeSeconds timePoint)) format ++
    if 0 < precision then '.' :: Numeral.padded 10 precision (fractionNumber timePoint precision) else []

/-- The format of the directories for a time. -/
def hierarchyFormat (timestampLevels : Nat) : Text :=
  if timestampLevels ≥ 5 then "%Y/%m/%d/%H:00/%H:%M".toList
  else if timestampLevels = 4 then "%Y/%m/%d/%H:00".toList
  else if timestampLevels = 3 then "%Y/%m/%d".toList
  else if timestampLevels = 2 then "%Y/%m".toList
  else "%Y".toList

-- The digits are cut, not rounded.
example : timePointToString 1709210095999999499 6 dateFormat =
    "2024-02-29 12:34:55.999999".toList := by decide +kernel

/-! ## How near the text is -/

/-- From 2007 to 2042, doubles of nanoseconds are 256 apart. -/
theorem roundNat_near {t : Nat} (hlow : 2 ^ 60 ≤ t) (hhigh : t < 2 ^ 61) :
    roundNat t ≤ t + 128 ∧ t ≤ roundNat t + 128 := by
  have hlog : Nat.log2 t = 60 := (Nat.log2_eq_iff (by omega)).mpr ⟨hlow, hhigh⟩
  have hbelow := nearest_mul_le t (2 ^ (60 - 52))
  have habove := le_nearest_mul (n := t) (Nat.two_pow_pos (60 - 52))
  unfold roundNat
  rw [hlog]
  omega

/-- And those of seconds, 238 or 477 nanoseconds. -/
theorem scale_seconds {r : Nat} (hlow : 2 ^ 60 ≤ r + 128) (hhigh : r < 2 ^ 61 + 128) :
    scale r 1000000000 = 21 ∨ scale r 1000000000 = 22 := by
  obtain ⟨hmin, hmax⟩ := scale_spec (n := r) (d := 1000000000) (by omega) (by decide) (by omega)
  generalize scale r 1000000000 = s at hmin hmax ⊢
  by_contra hs
  rcases Nat.lt_or_ge s 21 with hlt | hge
  · have hpow : r * 2 ^ s ≤ r * 2 ^ 20 :=
      Nat.mul_le_mul_left r (Nat.pow_le_pow_right (by decide) (by omega))
    omega
  · have hpow : r * 2 ^ 23 ≤ r * 2 ^ s :=
      Nat.mul_le_mul_left r (Nat.pow_le_pow_right (by decide) (by omega))
    omega

theorem trunc_fraction_mulNat {x : Binary64} (h : x.exponent ≤ 23) :
    (x.fraction.mulNat (10 ^ 9)).trunc = x.mantissa % 2 ^ x.exponent * 10 ^ 9 / 2 ^ x.exponent := by
  have hpos := Nat.two_pow_pos x.exponent
  have hlt := Nat.mod_lt x.mantissa hpos
  refine trunc_ofQuotient hpos ?_
  show 2 ^ x.exponent ∣ x.mantissa % 2 ^ x.exponent * 10 ^ 9 *
    2 ^ scale (x.mantissa % 2 ^ x.exponent * 10 ^ 9) (2 ^ x.exponent)
  generalize x.mantissa % 2 ^ x.exponent = fraction at hlt ⊢
  rcases Nat.eq_zero_or_pos fraction with rfl | hfraction
  · rw [Nat.zero_mul, Nat.zero_mul]
    exact Nat.dvd_zero _
  · obtain ⟨hmin, -⟩ := scale_spec (n := fraction * 10 ^ 9) (d := 2 ^ x.exponent) (by omega) hpos
      (by omega)
    generalize scale (fraction * 10 ^ 9) (2 ^ x.exponent) = k at hmin ⊢
    have hk : 23 ≤ k := by
      by_contra hk
      have hpow : fraction * 10 ^ 9 * 2 ^ k ≤ fraction * 10 ^ 9 * 2 ^ 22 :=
        Nat.mul_le_mul_left _ (Nat.pow_le_pow_right (by decide) (by omega))
      omega
    exact Nat.dvd_mul_left_of_dvd (Nat.pow_dvd_pow 2 (by omega)) _

theorem wholeSeconds_natCast (t : Nat) : wholeSeconds t = (doubleSeconds t).trunc := by
  unfold wholeSeconds
  dsimp only
  rw [if_neg (Int.not_lt.mpr (Int.natCast_nonneg t)), Int.natAbs_natCast]

theorem fractionNumber_natCast (t precision : Nat) :
    fractionNumber t precision = ((doubleSeconds t).fraction.mulNat (10 ^ precision)).trunc % 2 ^ 32 := by
  unfold fractionNumber
  dsimp only
  rw [if_neg (Int.not_lt.mpr (Int.natCast_nonneg t)), Int.natAbs_natCast]
  exact Int.toNat_natCast _

/-- What the text of such a time tells is less than 368 nanoseconds away. -/
theorem text_near {t : Nat} (hlow : 2 ^ 60 ≤ t) (hhigh : t < 2 ^ 61) :
    fractionNumber t 9 < 10 ^ 9 ∧
      (t : Int) < wholeSeconds t * 10 ^ 9 + fractionNumber t 9 + 368 ∧
      wholeSeconds t * 10 ^ 9 + fractionNumber t 9 < (t : Int) + 368 := by
  obtain ⟨hround, hround'⟩ := roundNat_near hlow hhigh
  have hscale := scale_seconds (r := roundNat t) (by omega) (by omega)
  have hbelow := nearest_mul_le (roundNat t * 2 ^ scale (roundNat t) 1000000000) 1000000000
  have habove := le_nearest_mul (n := roundNat t * 2 ^ scale (roundNat t) 1000000000)
    (show 0 < 1000000000 by decide)
  have hexponent : (doubleSeconds t).exponent ≤ 23 := by
    dsimp only [doubleSeconds, ofQuotient]
    omega
  rewrite [fractionNumber_natCast, wholeSeconds_natCast, trunc_fraction_mulNat hexponent]
  dsimp only [doubleSeconds, ofQuotient, trunc]
  generalize nearest (roundNat t * 2 ^ scale (roundNat t) 1000000000) 1000000000 = m at hbelow habove ⊢
  have hfraction : m % 2 ^ scale (roundNat t) 1000000000 * 10 ^ 9 / 2 ^ scale (roundNat t) 1000000000 <
      10 ^ 9 :=
    Nat.div_lt_of_lt_mul (Nat.mul_lt_mul_of_pos_right (Nat.mod_lt m (Nat.two_pow_pos _)) (by decide))
  rw [Nat.mod_eq_of_lt (Nat.lt_trans hfraction (by decide))]
  refine ⟨hfraction, ?_⟩
  clear hfraction
  rcases hscale with hs | hs <;> rw [hs] at hbelow habove ⊢ <;> omega

end HiPerConTracer.Tools
