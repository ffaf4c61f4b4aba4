import RackElevation.Proofs.Raster.ColorForms
import RackElevation.Proofs.Raster.Shares
import RackElevation.Raster.Painter

/-!
# Colours in range

Reading a colour text makes integers from binary64 numbers and the other way round.  None of that
fails, for the numbers of a text are moderate.  What a text of a form says need not be a colour of
bytes, though: it is one when the counts are bytes and the percentages are at most a hundred.
-/

namespace RackElevation.Raster.Color

open Binary64

/-! ## Whole numbers of bytes -/

/-- The integer nearest to a number of bytes, a half going up; a failure if there is none. -/
def roundUp (x : Binary64) : Except Failure ℤ :=
  (Number.real (x.add half)).truncate

section Rounding

variable {x : Binary64} {k n : ℕ} {t : ℚ}

/-- A number with a whole part is made an integer. -/
theorem truncate_eq {n : ℤ} (h : x.truncateToInt? = some n) : (Number.real x).truncate = .ok n := by
  rw [Number.truncate, Number.integerOf, h]

/-- A number of bytes that is not too large is rounded to an integer. -/
theorem roundUp_eq (h : x.IsWithin k) (hk : 1 ≤ k) (hk' : k ≤ 1021) :
    roundUp x = .ok (roundedUp x) := by
  have hhalf : half.IsWithin k := (isWithin_ofQuotient (by decide) (by decide)).mono hk
  obtain ⟨n, hn⟩ := exists_truncateToInt? (h.add hhalf hk').isFinite
  rw [roundUp, truncate_eq hn, roundedUp, hn, Option.getD_some]

/-- Numbers that are rounded to a byte. -/
theorem roundedUp_byte (h : x.isFinite = true) (hlow : -1 ≤ x.val) (hhigh : x.val ≤ 255.4) :
    0 ≤ roundedUp x ∧ roundedUp x ≤ 255 := by
  obtain ⟨hhalf, hhalf0, hhalf1⟩ := ofQuotient_bounds (n := 1) (d := 2) (by decide) (by decide)
  push_cast at hhalf0 hhalf1
  have hsum := isNear_add (k := 8) h hhalf (by decide) (abs_le.2 ⟨by linarith, by linarith⟩)
  have hsum' := abs_le.1 hsum.error
  obtain ⟨n, hn⟩ := exists_truncateToInt? hsum.isFinite
  have hlt : n < 256 := truncateToInt?_lt hn (by decide) (by push_cast; linarith)
  rw [roundedUp, half, hn, Option.getD_some]
  exact ⟨truncateToInt?_nonneg hn (by linarith), Int.lt_add_one_iff.1 hlt⟩

/-- Numbers that are rounded to more than a byte. -/
theorem lt_roundedUp (h : x.IsWithin k) (hk : 1 ≤ k) (hk' : k ≤ 1020) (hhigh : 256 ≤ x.val) :
    255 < roundedUp x := by
  obtain ⟨hhalf, hhalf0, hhalf1⟩ := ofQuotient_bounds (n := 1) (d := 2) (by decide) (by decide)
  have hhalfsize : half.IsWithin k := (isWithin_ofQuotient (by decide) (by decide)).mono hk
  push_cast at hhalf0 hhalf1
  have hsize : x.val + (ofQuotient 1 2).val ≤ 2 ^ 1021 :=
    calc x.val + (ofQuotient 1 2).val ≤ 2 ^ k + 2 ^ k :=
          add_le_add ((le_abs_self _).trans h.bound) ((le_abs_self _).trans hhalfsize.bound)
      _ = 2 ^ (k + 1) := by rw [pow_succ, mul_two]
      _ ≤ 2 ^ 1021 := pow_le_pow_right₀ (by norm_num) (Nat.succ_le_succ hk')
  have herror := abs_le.1 (relative_error (x := x.add (ofQuotient 1 2))
    (fun k hk hr => isNear_add h.isFinite hhalf hk hr) (by linarith) hsize)
  obtain ⟨n, hn⟩ := exists_truncateToInt? (h.add hhalfsize (by omega)).isFinite
  have hle : 256 ≤ n := by
    refine le_truncateToInt? hn ?_
    rw [half]
    push_cast
    linarith
  rw [roundedUp, hn, Option.getD_some]
  exact Int.lt_of_add_one_le hle

/-- A share, up to a small tolerance, is rounded to a byte. -/
theorem shareBytes_byte (h : IsShare x t) (ht : t ≤ 1 / 1000) :
    0 ≤ shareBytes x ∧ shareBytes x ≤ 255 := by
  obtain ⟨hmax, hmaxval⟩ := ofNat_of_lt (n := 255) (by norm_num)
  obtain ⟨hfinite, hlow, hhigh⟩ := h
  push_cast at hmaxval
  have hbytes := isNear_mul (k := 8) hfinite hmax (by decide)
    (abs_le.2 ⟨by rw [hmaxval]; linarith, by rw [hmaxval]; linarith⟩)
  rw [hmaxval] at hbytes
  have hbytes' := abs_le.1 hbytes.error
  exact roundedUp_byte hbytes.isFinite (by linarith) (by linarith)

end Rounding

/-! ## Percentages -/

/-- The bytes of a percentage, a failure if it is not rounded to a finite number. -/
def percentage (n : ℕ) : Except Failure ℤ := do
  let bytes ← (Number.int (n * 255 : ℕ)).toReal
  roundUp (bytes.div (.ofNat 100))

section Percentages

variable {x : Binary64} {k n : ℕ}

/-- A quotient by a natural is no greater than the number. -/
theorem isWithin_per (h : x.IsWithin k) (hn : 1 ≤ n) (hn' : n < 2 ^ 53) (hk : k ≤ 1022) :
    (per x n).IsWithin (k + 1) := by
  obtain ⟨hfinite, hval⟩ := ofNat_of_lt hn'
  have hnrat : (1 : ℚ) ≤ n := by exact_mod_cast hn
  have hquotient : |x.val / (ofNat n).val| ≤ 2 ^ k := by
    rw [hval, abs_div, Nat.abs_cast]
    exact (div_le_self (abs_nonneg _) hnrat).trans h.bound
  exact (isNear_div h.isFinite hfinite (by rw [hval]; linarith) hk hquotient).isWithin hquotient

/-- The bytes of a percentage that a colour text has room for are in range. -/
theorem bytes_le (hn : n < 10 ^ textLimit) : ((n * 255 : ℕ) : ℚ) ≤ 2 ^ 342 := by
  have hcast : (n : ℚ) ≤ 10 ^ textLimit := by exact_mod_cast hn.le
  rw [Nat.cast_mul, show (342 : ℕ) = 334 + 8 from rfl, pow_add]
  exact mul_le_mul (hcast.trans ten_pow_textLimit) (by norm_num) (by positivity) (by positivity)

/-- The bytes of a percentage that a colour text has room for are in range when they are rounded. -/
theorem isWithin_bytes (hn : n < 10 ^ textLimit) : (Binary64.ofNat (n * 255)).IsWithin 343 := by
  refine (isNear_ofNat (by decide) (bytes_le hn)).isWithin ?_
  rw [Nat.abs_cast]
  exact bytes_le hn

/-- A percentage that a colour text has room for is computed without a failure. -/
theorem percentage_eq (hn : n < 10 ^ textLimit) : percentage n = .ok (percentBytes n) := by
  have hbytes := isWithin_bytes hn
  have hreal : (Number.int (n * 255 : ℕ)).toReal = .ok (.ofNat (n * 255)) := by
    rw [Number.toReal]
    exact if_pos hbytes.isFinite
  have hquotient := isWithin_per (n := 100) hbytes (by decide) (by norm_num) (by decide)
  rw [per] at hquotient
  rw [percentage, hreal, ok_bind, percentBytes, roundUp_eq hquotient (by decide) (by decide)]

/-- More than all of a hundred is more than a byte. -/
theorem lt_percentBytes (hn : n < 10 ^ textLimit) (h : 100 < n) : 255 < percentBytes n := by
  have hbytes := isWithin_bytes hn
  have hmoderate {j : ℕ} (hj : j ≤ 1021) : (2 : ℚ) ^ j ≤ 2 ^ 1021 :=
    pow_le_pow_right₀ (by norm_num) hj
  obtain ⟨hhundred, hhundredval⟩ := ofNat_of_lt (n := 100) (by norm_num)
  push_cast at hhundredval
  have hcount : (101 * 255 : ℚ) ≤ (n * 255 : ℕ) := by
    rw [Nat.cast_mul]
    exact mul_le_mul_of_nonneg_right (by exact_mod_cast h) (by norm_num)
  -- both roundings are off by a small share only, and 101 * 255 / 100 leaves more room than that
  have hcounterror := abs_le.1 (relative_error
    (fun k hk hr => isNear_ofNat hk ((le_abs_self _).trans hr)) (by linarith)
    ((bytes_le hn).trans (hmoderate (by decide))))
  have hsize : (Binary64.ofNat (n * 255)).val / 100 ≤ 2 ^ 1021 :=
    calc (Binary64.ofNat (n * 255)).val / 100 ≤ (Binary64.ofNat (n * 255)).val :=
          div_le_self (by linarith) (by norm_num)
      _ ≤ 2 ^ 343 := (le_abs_self _).trans hbytes.bound
      _ ≤ 2 ^ 1021 := hmoderate (by decide)
  have hquotienterror := abs_le.1 (relative_error
    (fun k hk hr => isNear_div hbytes.isFinite hhundred (by rw [hhundredval]; norm_num) hk hr)
    (by rw [hhundredval]; linarith) (by rw [hhundredval]; exact hsize))
  rw [hhundredval] at hquotienterror
  have hquotient := isWithin_per (n := 100) hbytes (by decide) (by norm_num) (by decide)
  rw [per] at hquotient
  exact lt_roundedUp hquotient (by decide) (by decide) (by linarith)

/-- The percentages that are bytes. -/
theorem percentBytes_byte_iff (hn : n < 10 ^ textLimit) :
    (0 ≤ percentBytes n ∧ percentBytes n ≤ 255) ↔ n ≤ 100 := by
  constructor
  · rintro ⟨-, hle⟩
    exact not_lt.1 fun hgt => absurd hle (not_le.2 (lt_percentBytes hn hgt))
  · intro hle
    obtain ⟨hfinite, hval⟩ := ofNat_of_lt (n := n * 255) (by omega)
    obtain ⟨hhundred, hhundredval⟩ := ofNat_of_lt (n := 100) (by norm_num)
    have hnrat : (n : ℚ) ≤ 100 := by exact_mod_cast hle
    have hnonneg : (0 : ℚ) ≤ n := Nat.cast_nonneg n
    push_cast at hval hhundredval
    have hsize : |(Binary64.ofNat (n * 255)).val / (Binary64.ofNat 100).val| ≤ 2 ^ 8 := by
      rw [hval, hhundredval]
      exact abs_le.2 ⟨by linarith, by linarith⟩
    have hquotient := isNear_div hfinite hhundred (by rw [hhundredval]; norm_num) (by decide) hsize
    rw [hval, hhundredval] at hquotient
    have herror := abs_le.1 hquotient.error
    exact roundedUp_byte hquotient.isFinite (by linarith) (by linarith)

end Percentages

/-! ## Shades -/

/-- The colour of three shares, a failure if one gives no integer. -/
def Shares.evaluate (shares : Shares) : Except Failure Color := do
  return ⟨← roundUp (shares.red.mul (.ofNat 255)), ← roundUp (shares.green.mul (.ofNat 255)),
    ← roundUp (shares.blue.mul (.ofNat 255))⟩

/-- The shares of a hue in sixths of a turn.  The sixth that the hue lies in is made an integer, and
that integer is made a binary64 number again; either may fail. -/
def turnedShares (turned saturation value : Binary64) : Except Failure Shares := do
  let sector ← (Number.real turned).truncate
  let whole ← (Number.int sector).toReal
  return sectorShares (sector % 6).toNat (turned.sub whole) saturation value

/-- The shares of a hue in turns, a saturation and a value. -/
def valueShares (hue saturation value : Binary64) : Except Failure Shares :=
  if saturation.eqv (.ofNat 0) then .ok ⟨value, value, value⟩
  else turnedShares (hue.mul (.ofNat 6)) saturation value

section Shades

variable {shares : Shares} {x hue saturation value : Binary64} {k : ℕ} {t : ℚ}

/-- Shares in range have a colour. -/
theorem Shares.evaluate_eq (h : shares.All (IsWithin · k)) (hk : k ≤ 1000) :
    shares.evaluate = .ok shares.color := by
  have hmax : (Binary64.ofNat 255).IsWithin 8 := isWithin_ofNat (by norm_num) (by norm_num)
  have hround {x : Binary64} (hx : x.IsWithin k) :
      roundUp (x.mul (.ofNat 255)) = .ok (shareBytes x) :=
    roundUp_eq (hx.mul hmax (by omega)) (by omega) (by omega)
  rw [Shares.evaluate, hround h.red, hround h.green, hround h.blue]
  rfl

/-- The colour of shares, up to a small tolerance, is made of bytes. -/
theorem Shares.isByte_color (h : shares.All (IsShare · t)) (ht : t ≤ 1 / 1000) :
    shares.color.IsByte :=
  ⟨shareBytes_byte h.red ht, shareBytes_byte h.green ht, shareBytes_byte h.blue ht⟩

/-- The shares of a hue in sixths of a turn are those of its sixth, if the sixth can be computed
with. -/
theorem turnedShares_eq {turned : Binary64} {sector : ℤ}
    (hsector : turned.truncateToInt? = some sector) (hwhole : (ofInt sector).isFinite = true) :
    turnedShares turned saturation value =
      .ok (sectorShares (sector % 6).toNat (turned.sub (.ofInt sector)) saturation value) := by
  have hreal : (Number.int sector).toReal = .ok (.ofInt sector) := by
    rw [Number.toReal]
    exact if_pos hwhole
  rw [turnedShares, truncate_eq hsector, ok_bind, hreal, ok_bind]
  rfl

/-- A moderate hue has shares, which are moderate if saturation and value are, and shares of full
intensity if those are. -/
theorem exists_valueShares (hhue : hue.IsWithin k) (hhue0 : 0 ≤ hue.val)
    (hs : saturation.IsWithin k) (hv : value.IsWithin k) (hk : 2 ≤ k) (hk' : k ≤ 400) :
    ∃ shares, valueShares hue saturation value = .ok shares ∧
      shares.color = ofHueValue hue saturation value ∧ shares.All (IsWithin · (2 * k + 17)) ∧
      (IsShare saturation t → IsShare value t → 1 / 2 ^ 48 ≤ t → t ≤ 1 / 512 →
        shares.All (IsShare · (64 * t))) := by
  obtain ⟨hsix, hsixval⟩ := ofNat_of_lt (n := 6) (by norm_num)
  have hsixsize : (Binary64.ofNat 6).IsWithin 3 := isWithin_ofNat (by norm_num) (by norm_num)
  have hturned := hhue.mul hsixsize (by omega)
  have hturned0 := val_mul_nonneg hhue.isFinite hsix hhue0 (by rw [hsixval]; positivity)
  obtain ⟨sector, hsector⟩ := exists_truncateToInt? hturned.isFinite
  obtain ⟨hclose, hle⟩ := truncateToInt?_spec hsector
  obtain ⟨hwhole, hwholeval⟩ := ofInt_truncateToInt? hsector
  rw [ofHueValue_of_truncate hsector, valueShares]
  -- without saturation the value is the share of all three components
  by_cases hgrey : saturation.eqv (.ofNat 0) = true
  · rw [if_pos hgrey, if_pos hgrey]
    have hmono := hv.mono (k := 2 * k + 17) (by omega)
    refine ⟨⟨value, value, value⟩, rfl, rfl, ⟨hmono, hmono, hmono⟩, fun _ hvalue ht _ => ?_⟩
    have hmono' := hvalue.mono (u := 64 * t) (by linarith)
    exact ⟨hmono', hmono', hmono'⟩
  · rw [if_neg hgrey, if_neg hgrey]
    have hclose' := abs_lt.1 hclose
    have hle' : (sector : ℚ) ≤ (hue.mul (.ofNat 6)).val :=
      (le_abs_self _).trans (hle.trans_eq (abs_of_nonneg hturned0))
    -- what is left of the hue in its sixth lies between zero and one, up to one rounding
    have hrest := isNear_sub (k := 0) hturned.isFinite hwhole (by decide)
      (abs_le.2 ⟨by rw [hwholeval]; linarith, by rw [hwholeval]; linarith⟩)
    rw [hwholeval] at hrest
    have herror := abs_le.1 hrest.error
    have hrestsize : ((hue.mul (.ofNat 6)).sub (.ofInt sector)).IsWithin 2 :=
      ⟨hrest.isFinite, abs_le.2 ⟨by linarith, by linarith⟩⟩
    refine ⟨_, turnedShares_eq hsector hwhole, rfl,
      isWithin_sectorShares hrestsize hs hv hk (by omega) _, fun hsaturation hvalue ht ht' => ?_⟩
    have hrestshare : IsShare ((hue.mul (.ofNat 6)).sub (.ofInt sector)) t :=
      ⟨hrest.isFinite, by linarith, by linarith⟩
    exact isShare_sectorShares hrestshare hsaturation hvalue ht ht' _

end Shades

/-! ## Forms -/

namespace Form

/-- The colour of a form, where every number that has to be an integer or a binary64 number is
checked to be one. -/
def evaluate : Form → Except Failure Color
  | code color => .ok color
  | counts red green blue => .ok ⟨red, green, blue⟩
  | percents red green blue => do
      return ⟨← percentage red, ← percentage green, ← percentage blue⟩
  | hueLightness hue saturation lightness =>
      (lightnessShares (per hue 360) (per lightness 100) (per saturation 100)).evaluate
  | hueValue hue saturation value => do
      (← valueShares (per hue 360) (per saturation 100) (per value 100)).evaluate

/-- A form whose counts are bytes and whose percentages are at most a hundred. -/
def IsInRange : Form → Prop
  | code _ => True
  | counts red green blue => red ≤ 255 ∧ green ≤ 255 ∧ blue ≤ 255
  | percents red green blue => red ≤ 100 ∧ green ≤ 100 ∧ blue ≤ 100
  | hueLightness _ saturation lightness =>
      saturation.le (.ofNat 100) = true ∧ lightness.le (.ofNat 100) = true
  | hueValue _ saturation value =>
      saturation.le (.ofNat 100) = true ∧ value.le (.ofNat 100) = true

/-- Whether a form gives the components one by one, and not as a shade of a hue. -/
def isDirect : Form → Bool
  | code .. | counts .. | percents .. => true
  | hueLightness .. | hueValue .. => false

section Range

variable {form : Form} {x : Binary64}

/-- A hue that a colour text has room for is in range, in turns. -/
theorem isWithin_turns (h : Color.IsModerate x) : (per x 360).IsWithin 336 :=
  isWithin_per h.isWithin (by decide) (by norm_num) (by decide)

/-- A hue of a colour text is not negative, in turns. -/
theorem val_turns_nonneg (h : Color.IsModerate x) : 0 ≤ (per x 360).val := by
  obtain ⟨hfinite, hval⟩ := ofNat_of_lt (n := 360) (by norm_num)
  exact val_div_nonneg h.isWithin.isFinite hfinite h.nonneg (by rw [hval]; positivity)

/-- A percentage that a colour text has room for is in range, as a share. -/
theorem isWithin_share (h : Color.IsModerate x) : (per x 100).IsWithin 336 :=
  isWithin_per h.isWithin (by decide) (by norm_num) (by decide)

/-- A percentage of at most a hundred is a share, up to one rounding. -/
theorem isShare_per (h : Color.IsModerate x) (hle : x.le (.ofNat 100) = true) :
    IsShare (per x 100) (1 / 2 ^ 48) := by
  obtain ⟨hhundred, hval⟩ := ofNat_of_lt (n := 100) (by norm_num)
  push_cast at hval
  rw [le_iff_val_le h.isWithin.isFinite hhundred, hval] at hle
  have hnonneg := h.nonneg
  have hnear := isNear_div (k := 3) h.isWithin.isFinite hhundred (by rw [hval]; norm_num)
    (by decide) (abs_le.2 ⟨by rw [hval]; linarith, by rw [hval]; linarith⟩)
  rw [hval] at hnear
  exact (isShare_of_isNear (t := 0) hnear (by linarith) (by linarith)).mono (by norm_num)

/-- No check fails on a form with moderate numbers. -/
theorem evaluate_eq (h : form.IsModerate) : form.evaluate = .ok form.color := by
  cases form with
  | code color => rfl
  | counts red green blue => rfl
  | percents red green blue =>
      obtain ⟨hred, hgreen, hblue⟩ := h
      rw [evaluate, percentage_eq hred, percentage_eq hgreen, percentage_eq hblue]
      rfl
  | hueLightness hue saturation lightness =>
      obtain ⟨hhue, hs, hl⟩ := h
      have hshares := isWithin_lightnessShares (isWithin_turns hhue) (isWithin_share hl)
        (isWithin_share hs) (by decide) (by decide)
      rw [evaluate, Shares.evaluate_eq hshares (by decide), color, ofHueLightness_eq]
  | hueValue hue saturation value =>
      obtain ⟨hhue, hs, hv⟩ := h
      obtain ⟨shares, hshares, hcolor, hwithin, -⟩ := exists_valueShares (t := 0)
        (isWithin_turns hhue) (val_turns_nonneg hhue) (isWithin_share hs) (isWithin_share hv)
        (by decide) (by decide)
      rw [evaluate, hshares, ok_bind, Shares.evaluate_eq hwithin (by decide), hcolor, color]

/-- A form in range says a colour of bytes. -/
theorem isByte_of_isInRange (h : form.IsModerate) (hrange : form.IsInRange) :
    form.color.IsByte := by
  cases form with
  | code color => exact h
  | counts red green blue =>
      obtain ⟨hred, hgreen, hblue⟩ := hrange
      constructor <;> dsimp only [color] <;> omega
  | percents red green blue =>
      obtain ⟨hred, hgreen, hblue⟩ := h
      exact ⟨(percentBytes_byte_iff hred).2 hrange.1, (percentBytes_byte_iff hgreen).2 hrange.2.1,
        (percentBytes_byte_iff hblue).2 hrange.2.2⟩
  | hueLightness hue saturation lightness =>
      obtain ⟨hhue, hs, hl⟩ := h
      have hshares := isShare_lightnessShares (isWithin_turns hhue) (isShare_per hl hrange.2)
        (isShare_per hs hrange.1) (by decide) (by decide) le_rfl (by norm_num)
      rw [color, ofHueLightness_eq]
      exact Shares.isByte_color hshares (by norm_num)
  | hueValue hue saturation value =>
      obtain ⟨hhue, hs, hv⟩ := h
      obtain ⟨shares, -, hcolor, -, hshare⟩ := exists_valueShares (t := 1 / 2 ^ 48)
        (isWithin_turns hhue) (val_turns_nonneg hhue) (isWithin_share hs) (isWithin_share hv)
        (by decide) (by decide)
      rw [color, ← hcolor]
      exact Shares.isByte_color (hshare (isShare_per hs hrange.1) (isShare_per hv hrange.2) le_rfl
        (by norm_num)) (by norm_num)

/-- A form that gives its components one by one says a colour of bytes only when it is in range. -/
theorem isInRange_of_isByte (h : form.IsModerate) (hdirect : form.isDirect = true)
    (hbyte : form.color.IsByte) : form.IsInRange := by
  cases form with
  | code color => trivial
  | counts red green blue =>
      obtain ⟨hred, hgreen, hblue⟩ := hbyte
      dsimp only [color] at hred hgreen hblue
      exact ⟨by omega, by omega, by omega⟩
  | percents red green blue =>
      obtain ⟨hred, hgreen, hblue⟩ := h
      exact ⟨(percentBytes_byte_iff hred).1 hbyte.red, (percentBytes_byte_iff hgreen).1 hbyte.green,
        (percentBytes_byte_iff hblue).1 hbyte.blue⟩
  | hueLightness hue saturation lightness => contradiction
  | hueValue hue saturation value => contradiction

end Range

end Form

end Color

open Color

/-- What a colour text is drawn as.  A text of no form is drawn as white, with a note.  A text of a
form is drawn as the colour of the form, without a note, and no check fails on the way.  The
components are bytes when the form is in range, and only then when the form gives them one by
one. -/
theorem colorOf_law (text : String) :
    match Form.ofText? text with
    | none =>
        colorOf text = .white ∧ colorNotes text = [.unknownColor text] ∧ (colorOf text).IsByte
    | some form =>
        form.evaluate = .ok (colorOf text) ∧ colorNotes text = [] ∧
          (form.IsInRange → (colorOf text).IsByte) ∧
          (form.isDirect = true → (colorOf text).IsByte → form.IsInRange) := by
  rw [colorOf, colorNotes, read?_eq]
  cases hform : Form.ofText? text with
  | none => exact ⟨rfl, rfl, by decide⟩
  | some form =>
      have hmoderate := Form.isModerate_of_ofText? hform
      exact ⟨Form.evaluate_eq hmoderate, rfl, Form.isByte_of_isInRange hmoderate,
        Form.isInRange_of_isByte hmoderate⟩

theorem colorOf_law_percents :
    Form.ofText? "rgb(20%, 40%, 100%)" = some (.percents 20 40 100) ∧
      (Form.percents 20 40 100).IsInRange ∧ (colorOf "rgb(20%, 40%, 100%)").IsByte := by
  have hform : Form.ofText? "rgb(20%, 40%, 100%)" = some (.percents 20 40 100) := by decide +kernel
  have hrange : (Form.percents 20 40 100).IsInRange := ⟨by decide, by decide, by decide⟩
  have hlaw := colorOf_law "rgb(20%, 40%, 100%)"
  rw [hform] at hlaw
  exact ⟨hform, hrange, hlaw.2.2.1 hrange⟩

/-- A count that is no byte is drawn as it is, and a large one cannot be painted at all. -/
theorem not_isByte_brightRed :
    colorOf "rgb(300, 0, 0)" = ⟨300, 0, 0⟩ ∧ ¬ (colorOf "rgb(300, 0, 0)").IsByte ∧
      (colorOf "rgb(0, 3000000000, 0)").pixel = .error .halfWordTooLarge := by
  decide +kernel

end RackElevation.Raster
