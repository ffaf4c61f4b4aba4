import RackElevation.Proofs.Binary64.Parts
import RackElevation.Raster.Color.Text

/-!
# Shares of full intensity

Shades given by hue are mixed from shares of full intensity.  Shares between zero and one are mixed
to such shares, up to a tolerance that grows by a constant factor with every step.  The tolerance
starts at 2^-48, since one rounding of numbers up to eight is off by at most 2^-50.  Shares of any
size stay finite, as long as the size leaves room for the products of the mixture.
-/

namespace RackElevation.Raster.Color

open Binary64

/-! ## Bounds -/

section Bounds

variable {a b c t : ℚ}

/-- A product of values between zero and one, up to a tolerance. -/
theorem mul_bounds (ht : 0 ≤ t) (ht' : t ≤ 1 / 8) (ha : -t ≤ a) (ha' : a ≤ 1 + t) (hb : -t ≤ b)
    (hb' : b ≤ 1 + t) : -(2 * t) ≤ a * b ∧ a * b ≤ 1 + 3 * t := by
  have hsquare : t * t ≤ 1 / 8 * t := mul_le_mul_of_nonneg_right ht' ht
  rcases le_total 0 a with hsign | hsign
  · have hle := mul_le_mul_of_nonneg_left hb' hsign
    have hge := mul_le_mul_of_nonneg_left hb hsign
    have hat := mul_le_mul_of_nonneg_right ha' ht
    constructor <;> linarith
  · have hle := mul_le_mul_of_nonpos_left hb hsign
    have hge := mul_le_mul_of_nonpos_left hb' hsign
    have hat := mul_le_mul_of_nonneg_right ha ht
    constructor <;> linarith

/-- A value that lies between two such values, up to the tolerance. -/
theorem blend_bounds (ht : 0 ≤ t) (ht' : t ≤ 1 / 8) (ha : -t ≤ a) (ha' : a ≤ 1 + t) (hb : -t ≤ b)
    (hb' : b ≤ 1 + t) (hc : -t ≤ c) (hc' : c ≤ 1 + t) :
    -(4 * t) ≤ a + (b - a) * c ∧ a + (b - a) * c ≤ 1 + 4 * t := by
  have hsquare : t * t ≤ 1 / 8 * t := mul_le_mul_of_nonneg_right ht' ht
  have hta := mul_le_mul_of_nonneg_left ha ht
  have hta' := mul_le_mul_of_nonneg_left ha' ht
  have htb := mul_le_mul_of_nonneg_left hb ht
  have htb' := mul_le_mul_of_nonneg_left hb' ht
  -- the two values with their weights, which are 1 - c and c up to the tolerance
  have hlow := add_nonneg (mul_nonneg (sub_nonneg.2 ha) (sub_nonneg.2 hc'))
    (mul_nonneg (sub_nonneg.2 hb) (sub_nonneg.2 hc))
  have hhigh := add_nonneg (mul_nonneg (sub_nonneg.2 ha') (sub_nonneg.2 hc'))
    (mul_nonneg (sub_nonneg.2 hb') (sub_nonneg.2 hc))
  constructor <;> linarith

/-- The high and the low value of a dark lightness `a` and a saturation `b`. -/
theorem dark_bounds (ht : 0 ≤ t) (ht' : t ≤ 1 / 8) (ha : -t ≤ a) (hdark : a ≤ 1 / 2 + t)
    (hb : -t ≤ b) (hb' : b ≤ 1 + t) :
    (-(5 * t) ≤ a * (1 + b) ∧ a * (1 + b) ≤ 1 + 5 * t) ∧
      -(5 * t) ≤ 2 * a - a * (1 + b) ∧ 2 * a - a * (1 + b) ≤ 1 + 5 * t := by
  have hsquare := mul_le_mul_of_nonneg_right ht' ht
  have hat := mul_le_mul_of_nonneg_right ha ht
  have hat' := mul_le_mul_of_nonneg_right hdark ht
  have hbt := mul_le_mul_of_nonneg_right hb ht
  have hbt' := mul_le_mul_of_nonneg_right hb' ht
  -- the corners of the rectangle that the two values lie in
  have h₁ := mul_nonneg (sub_nonneg.2 ha) (sub_nonneg.2 hb)
  have h₂ := mul_nonneg (sub_nonneg.2 ha) (sub_nonneg.2 hb')
  have h₃ := mul_nonneg (sub_nonneg.2 hdark) (sub_nonneg.2 hb)
  have h₄ := mul_nonneg (sub_nonneg.2 hdark) (sub_nonneg.2 hb')
  refine ⟨⟨?_, ?_⟩, ?_, ?_⟩ <;> linarith

/-- The high and the low value of a light lightness `a` and a saturation `b`. -/
theorem light_bounds (ht : 0 ≤ t) (ht' : t ≤ 1 / 8) (hlight : 1 / 2 - t ≤ a) (ha : a ≤ 1 + t)
    (hb : -t ≤ b) (hb' : b ≤ 1 + t) :
    (-(5 * t) ≤ a + b - a * b ∧ a + b - a * b ≤ 1 + 5 * t) ∧
      -(5 * t) ≤ 2 * a - (a + b - a * b) ∧ 2 * a - (a + b - a * b) ≤ 1 + 5 * t := by
  have hsquare := mul_le_mul_of_nonneg_right ht' ht
  have hat := mul_le_mul_of_nonneg_right hlight ht
  have hat' := mul_le_mul_of_nonneg_right ha ht
  have hbt := mul_le_mul_of_nonneg_right hb ht
  have hbt' := mul_le_mul_of_nonneg_right hb' ht
  have h₁ := mul_nonneg (sub_nonneg.2 ha) (sub_nonneg.2 hb)
  have h₂ := mul_nonneg (sub_nonneg.2 ha) (sub_nonneg.2 hb')
  refine ⟨⟨?_, ?_⟩, ?_, ?_⟩ <;> linarith

end Bounds

/-! ## Operations -/

/-- A finite number between zero and one, up to a tolerance. -/
structure IsShare (x : Binary64) (t : ℚ) : Prop where
  isFinite : x.isFinite = true
  lower : -t ≤ x.val
  upper : x.val ≤ 1 + t

section Operations

variable {x y low high : Binary64} {t u : ℚ}

/-- A tolerance may be raised. -/
theorem IsShare.mono (h : IsShare x t) (htu : t ≤ u) : IsShare x u :=
  ⟨h.isFinite, (neg_le_neg htu).trans h.lower, h.upper.trans (add_le_add_right htu 1)⟩

/-- A number that is off a share by an error is a share with that much more tolerance. -/
theorem isShare_of_error {r e : ℚ} (hx : x.isFinite = true) (herror : |x.val - r| ≤ e)
    (hlow : -t ≤ r) (hhigh : r ≤ 1 + t) : IsShare x (t + e) := by
  obtain ⟨hle, hge⟩ := abs_le.1 herror
  exact ⟨hx, by linarith, by linarith⟩

/-- A number near a share is a share, with the error of one operation added to the tolerance. -/
theorem isShare_of_isNear {r : ℚ} (h : x.IsNear r 3) (hlow : -t ≤ r) (hhigh : r ≤ 1 + t) :
    IsShare x (t + 1 / 2 ^ 50) :=
  (isShare_of_error h.isFinite h.error hlow hhigh).mono (by linarith)

/-- A product of shares is a share, at four times the tolerance. -/
theorem IsShare.mul (hx : IsShare x t) (hy : IsShare y t) (ht : 1 / 2 ^ 50 ≤ t) (ht' : t ≤ 1 / 8) :
    IsShare (x.mul y) (4 * t) := by
  obtain ⟨hlow, hhigh⟩ := mul_bounds (by linarith) ht' hx.lower hx.upper hy.lower hy.upper
  have hnear := isNear_mul (k := 3) hx.isFinite hy.isFinite (by decide)
    (abs_le.2 ⟨by linarith, by linarith⟩)
  exact (isShare_of_isNear (t := 3 * t) hnear (by linarith) (by linarith)).mono (by linarith)

/-- What a share lacks of full intensity. -/
theorem IsShare.complement (hx : IsShare x t) (ht : 1 / 2 ^ 50 ≤ t) (ht' : t ≤ 1 / 8) :
    IsShare ((Binary64.ofNat 1).sub x) (2 * t) := by
  obtain ⟨hfinite, hval⟩ := ofNat_of_lt (n := 1) (by norm_num)
  obtain ⟨hxfinite, hlow, hhigh⟩ := hx
  rw [Nat.cast_one] at hval
  have hnear := isNear_sub (k := 3) hfinite hxfinite (by decide)
    (abs_le.2 ⟨by linarith, by linarith⟩)
  rw [hval] at hnear
  exact (isShare_of_isNear (t := t) hnear (by linarith) (by linarith)).mono (by linarith)

/-- The step of a share from a low to a high one, as far as six times a given number. -/
theorem isShare_blend {c : Binary64} (hlow : IsShare low t) (hhigh : IsShare high t)
    (hc : c.isFinite = true) (hc0 : -t ≤ c.val * 6) (hc1 : c.val * 6 ≤ 1 + t) (ht : 1 / 2 ^ 48 ≤ t)
    (ht' : t ≤ 1 / 8) :
    IsShare (low.add (((high.sub low).mul c).mul (.ofNat 6))) (8 * t) := by
  obtain ⟨hsix, hsixval⟩ := ofNat_of_lt (n := 6) (by norm_num)
  rw [Nat.cast_ofNat] at hsixval
  obtain ⟨hlowfin, hlow0, hlow1⟩ := hlow
  obtain ⟨hhighfin, hhigh0, hhigh1⟩ := hhigh
  have hdiff := isNear_sub (k := 3) hhighfin hlowfin (by decide)
    (abs_le.2 ⟨by linarith, by linarith⟩)
  have hdifferror := abs_le.1 hdiff.error
  have hcabs : |c.val * 6| ≤ 2 := abs_le.2 ⟨by linarith, by linarith⟩
  have hdabs : |(high.sub low).val| ≤ 2 := abs_le.2 ⟨by linarith, by linarith⟩
  have hproduct : |(high.sub low).val * (c.val * 6)| ≤ 4 := by
    rw [abs_mul]
    exact (mul_le_mul hdabs hcabs (abs_nonneg _) (by norm_num)).trans (by norm_num)
  have hproduct' := abs_le.1 hproduct
  have hscaled := isNear_mul (k := 3) hdiff.isFinite hc (by decide)
    (abs_le.2 ⟨by linarith, by linarith⟩)
  have hscalederror := abs_le.1 hscaled.error
  have hstep := isNear_mul (k := 3) hscaled.isFinite hsix (by decide)
    (abs_le.2 ⟨by rw [hsixval]; linarith, by rw [hsixval]; linarith⟩)
  rw [hsixval] at hstep
  have hsteperror := abs_le.1 hstep.error
  -- the error of the difference is scaled by the step
  have hspread : |((high.sub low).val - (high.val - low.val)) * (c.val * 6)| ≤
      2 ^ 3 / 2 ^ 53 * 2 := by
    rw [abs_mul]
    exact mul_le_mul hdiff.error hcabs (abs_nonneg _) (by norm_num)
  have hspread' := abs_le.1 hspread
  obtain ⟨hblend0, hblend1⟩ := blend_bounds (by linarith) ht' hlow0 hlow1 hhigh0 hhigh1 hc0 hc1
  have hsum := isNear_add (k := 3) hlowfin hstep.isFinite (by decide)
    (abs_le.2 ⟨by linarith, by linarith⟩)
  exact (isShare_of_isNear (t := 7 * t) hsum (by linarith) (by linarith)).mono (by linarith)

/-- A fraction between zero and one. -/
theorem ofQuotient_bounds {n d : ℕ} (hd : 0 < d) (hnd : n ≤ d) :
    (ofQuotient n d).isFinite = true ∧ (n : ℚ) / d - 1 / 2 ^ 53 ≤ (ofQuotient n d).val ∧
      (ofQuotient n d).val ≤ n / d + 1 / 2 ^ 53 := by
  have hle : (n / d : ℚ) ≤ 2 ^ 0 := by
    rw [pow_zero, div_le_one (Nat.cast_pos.2 hd)]
    exact_mod_cast hnd
  have hnear := isNear_ofQuotient (Nat.zero_le 1022) hd hle
  have herror := abs_le.1 hnear.error
  exact ⟨hnear.isFinite, by linarith, by linarith⟩

/-- One component between a low and a high share is a share. -/
theorem isShare_hueShare {hue : Binary64} (hlow : IsShare low t) (hhigh : IsShare high t)
    (hhue : hue.isFinite = true) (ht : 1 / 2 ^ 48 ≤ t) (ht' : t ≤ 1 / 8) :
    IsShare (hueShare low high hue) (8 * t) := by
  obtain ⟨hturn, hturn0, hturn1⟩ := fractionalPart_bounds hhue
  obtain ⟨hsixth, -, hsixth1⟩ := ofQuotient_bounds (n := 1) (d := 6) (by decide) (by decide)
  obtain ⟨hhalf, hhalf0, -⟩ := ofQuotient_bounds (n := 1) (d := 2) (by decide) (by decide)
  obtain ⟨hthirds, -, hthirds1⟩ := ofQuotient_bounds (n := 2) (d := 3) (by decide) (by decide)
  push_cast at hsixth1 hhalf0 hthirds1
  simp only [hueShare]
  -- four stretches of a turn: rising, high, falling and low
  split
  · next hlt =>
      rw [lt_iff_val_lt hturn hsixth] at hlt
      exact isShare_blend hlow hhigh hturn (by linarith) (by linarith) ht ht'
  · split
    · exact hhigh.mono (by linarith)
    · next hge =>
        rw [half, lt_iff_val_lt hturn hhalf, not_lt] at hge
        split
        · next hlt =>
            rw [lt_iff_val_lt hturn hthirds] at hlt
            have hrest := isNear_sub (k := 0) hthirds hturn (by decide)
              (abs_le.2 ⟨by linarith, by linarith⟩)
            have herror := abs_le.1 hrest.error
            exact isShare_blend hlow hhigh hrest.isFinite (by linarith) (by linarith) ht ht'
        · exact hlow.mono (by linarith)

/-! ## Low and high shares -/

/-- The low and the high share of a lightness and a saturation. -/
def lowAndHigh (lightness saturation : Binary64) : Binary64 × Binary64 :=
  let high :=
    if lightness.le half then lightness.mul ((Binary64.ofNat 1).add saturation)
    else (lightness.add saturation).sub (lightness.mul saturation)
  (((Binary64.ofNat 2).mul lightness).sub high, high)

section LowAndHigh

variable {lightness saturation : Binary64}

/-- The high share of a dark lightness. -/
theorem dark_error (hl : IsShare lightness t) (hs : IsShare saturation t) (ht : 0 ≤ t)
    (ht' : t ≤ 1 / 8) (hdark : lightness.val ≤ 1 / 2 + t) :
    (lightness.mul ((Binary64.ofNat 1).add saturation)).isFinite = true ∧
      |(lightness.mul ((Binary64.ofNat 1).add saturation)).val -
        lightness.val * (1 + saturation.val)| ≤ 3 / 2 ^ 50 := by
  obtain ⟨hlfin, hl0, hl1⟩ := hl
  obtain ⟨hsfin, hs0, hs1⟩ := hs
  obtain ⟨honefin, hone⟩ := ofNat_of_lt (n := 1) (by norm_num)
  rw [Nat.cast_one] at hone
  obtain ⟨⟨hhigh0, hhigh1⟩, -⟩ := dark_bounds ht ht' hl0 hdark hs0 hs1
  have hsum := isNear_add (k := 3) honefin hsfin (by decide)
    (abs_le.2 ⟨by rw [hone]; linarith, by rw [hone]; linarith⟩)
  rw [hone] at hsum
  -- the error of the sum is scaled by the lightness
  have hspread : |lightness.val * (((Binary64.ofNat 1).add saturation).val -
      (1 + saturation.val))| ≤ 2 * (2 ^ 3 / 2 ^ 53) := by
    rw [abs_mul]
    exact mul_le_mul (abs_le.2 ⟨by linarith, by linarith⟩) hsum.error (abs_nonneg _) (by norm_num)
  have hspread' := abs_le.1 hspread
  have hhigh := isNear_mul (k := 3) hlfin hsum.isFinite (by decide)
    (abs_le.2 ⟨by linarith, by linarith⟩)
  have hhigh' := abs_le.1 hhigh.error
  exact ⟨hhigh.isFinite, abs_le.2 ⟨by linarith, by linarith⟩⟩

/-- The high share of a light lightness. -/
theorem light_error (hl : IsShare lightness t) (hs : IsShare saturation t) (ht : 0 ≤ t)
    (ht' : t ≤ 1 / 8) (hlight : 1 / 2 - t ≤ lightness.val) :
    ((lightness.add saturation).sub (lightness.mul saturation)).isFinite = true ∧
      |((lightness.add saturation).sub (lightness.mul saturation)).val -
        (lightness.val + saturation.val - lightness.val * saturation.val)| ≤ 3 / 2 ^ 50 := by
  obtain ⟨hlfin, hl0, hl1⟩ := hl
  obtain ⟨hsfin, hs0, hs1⟩ := hs
  obtain ⟨⟨hhigh0, hhigh1⟩, -⟩ := light_bounds ht ht' hlight hl1 hs0 hs1
  have hsum := isNear_add (k := 3) hlfin hsfin (by decide) (abs_le.2 ⟨by linarith, by linarith⟩)
  have hsum' := abs_le.1 hsum.error
  have hboth := isNear_mul (k := 3) hlfin hsfin (by decide) (abs_le.2 ⟨by linarith, by linarith⟩)
  have hboth' := abs_le.1 hboth.error
  have hhigh := isNear_sub (k := 3) hsum.isFinite hboth.isFinite (by decide)
    (abs_le.2 ⟨by linarith, by linarith⟩)
  have hhigh' := abs_le.1 hhigh.error
  exact ⟨hhigh.isFinite, abs_le.2 ⟨by linarith, by linarith⟩⟩

/-- The low share is as far below the lightness as the high one is above it. -/
theorem isShare_low {r : ℚ} (hl : IsShare lightness t) (ht : 1 / 2 ^ 48 ≤ t) (ht' : t ≤ 1 / 8)
    (hhigh : high.isFinite = true) (herror : |high.val - r| ≤ 3 / 2 ^ 50)
    (hlow0 : -(5 * t) ≤ 2 * lightness.val - r) (hlow1 : 2 * lightness.val - r ≤ 1 + 5 * t) :
    IsShare (((Binary64.ofNat 2).mul lightness).sub high) (8 * t) := by
  obtain ⟨hlfin, hl0, hl1⟩ := hl
  obtain ⟨htwofin, htwo⟩ := ofNat_of_lt (n := 2) (by norm_num)
  rw [Nat.cast_ofNat] at htwo
  have herror' := abs_le.1 herror
  have hdoubled := isNear_mul (k := 3) htwofin hlfin (by decide)
    (abs_le.2 ⟨by rw [htwo]; linarith, by rw [htwo]; linarith⟩)
  rw [htwo] at hdoubled
  have hdoubled' := abs_le.1 hdoubled.error
  have hlow := isNear_sub (k := 3) hdoubled.isFinite hhigh (by decide)
    (abs_le.2 ⟨by linarith, by linarith⟩)
  exact (isShare_of_isNear (t := 7 * t) hlow (by linarith) (by linarith)).mono (by linarith)

/-- The low and the high share of two shares are shares, at eight times the tolerance. -/
theorem isShare_lowAndHigh (hl : IsShare lightness t) (hs : IsShare saturation t)
    (ht : 1 / 2 ^ 48 ≤ t) (ht' : t ≤ 1 / 8) :
    IsShare (lowAndHigh lightness saturation).1 (8 * t) ∧
      IsShare (lowAndHigh lightness saturation).2 (8 * t) := by
  have ht0 : 0 ≤ t := le_trans (by norm_num) ht
  obtain ⟨hhalf, hhalf0, hhalf1⟩ := ofQuotient_bounds (n := 1) (d := 2) (by decide) (by decide)
  push_cast at hhalf0 hhalf1
  simp only [lowAndHigh]
  -- a dark colour is mixed with black and a light one with white
  split
  · next hle =>
      rw [half, le_iff_val_le hl.isFinite hhalf] at hle
      have hdark : lightness.val ≤ 1 / 2 + t := by linarith
      obtain ⟨⟨hhigh0, hhigh1⟩, hlow0, hlow1⟩ :=
        dark_bounds ht0 ht' hl.lower hdark hs.lower hs.upper
      obtain ⟨hfinite, herror⟩ := dark_error hl hs ht0 ht' hdark
      exact ⟨isShare_low hl ht ht' hfinite herror hlow0 hlow1,
        (isShare_of_error hfinite herror hhigh0 hhigh1).mono (by linarith)⟩
  · next hgt =>
      rw [half, le_iff_val_le hl.isFinite hhalf, not_le] at hgt
      have hlight : 1 / 2 - t ≤ lightness.val := by linarith
      obtain ⟨⟨hhigh0, hhigh1⟩, hlow0, hlow1⟩ :=
        light_bounds ht0 ht' hlight hl.upper hs.lower hs.upper
      obtain ⟨hfinite, herror⟩ := light_error hl hs ht0 ht' hlight
      exact ⟨isShare_low hl ht ht' hfinite herror hlow0 hlow1,
        (isShare_of_error hfinite herror hhigh0 hhigh1).mono (by linarith)⟩

end LowAndHigh

end Operations

/-! ## Sizes -/

section Sizes

variable {x low high hue lightness saturation : Binary64} {j k : ℕ}

/-- A quotient of at most one stays there, up to rounding. -/
theorem isWithin_ofQuotient {n d : ℕ} (hd : 0 < d) (hnd : n ≤ d) : (ofQuotient n d).IsWithin 1 := by
  obtain ⟨hfinite, hlow, hhigh⟩ := ofQuotient_bounds hd hnd
  have hnonneg : (0 : ℚ) ≤ n / d := by positivity
  have hle : (n / d : ℚ) ≤ 1 := by
    rw [div_le_one (Nat.cast_pos.2 hd)]
    exact_mod_cast hnd
  exact ⟨hfinite, abs_le.2 ⟨by linarith, by linarith⟩⟩

/-- A fraction is below one in size, whatever the number was. -/
theorem isWithin_fractionalPart (h : x.isFinite = true) : x.fractionalPart.IsWithin 1 := by
  obtain ⟨hfinite, hlow, hhigh⟩ := fractionalPart_bounds h
  exact ⟨hfinite, abs_le.2 ⟨by linarith, by linarith⟩⟩

/-- What is left of one is at most two places larger. -/
theorem isWithin_complement (h : x.IsWithin k) (hk : 1 ≤ k) (hk' : k ≤ 1021) :
    ((Binary64.ofNat 1).sub x).IsWithin (k + 2) :=
  ((isWithin_ofNat (by norm_num) (by norm_num)).mono hk).sub h hk'

/-- A share between a low and a high one is at most twelve places larger, for any hue. -/
theorem isWithin_hueShare (hlow : low.IsWithin k) (hhigh : high.IsWithin k)
    (hhue : hue.isFinite = true) (hk : k ≤ 1009) : (hueShare low high hue).IsWithin (k + 12) := by
  have hspread := hhigh.sub hlow (by omega)
  have hsix : (Binary64.ofNat 6).IsWithin 3 := isWithin_ofNat (by norm_num) (by norm_num)
  have hturn := isWithin_fractionalPart hhue
  have hblend {c : Binary64} (hc : c.IsWithin 3) :
      (low.add (((high.sub low).mul c).mul (.ofNat 6))).IsWithin (k + 12) := by
    have hstep := (hspread.mul hc (by omega)).mul hsix (by omega)
    have hsum := (hlow.mono (by omega)).add (hstep.mono (k := k + 10) (by omega)) (by omega)
    exact hsum.mono (by omega)
  simp only [hueShare]
  split
  · exact hblend (hturn.mono (by decide))
  · split
    · exact hhigh.mono (by omega)
    · split
      · exact hblend ((isWithin_ofQuotient (by decide) (by decide)).sub hturn (by decide))
      · exact hlow.mono (by omega)

/-- The low and the high share are at most about the product of what they come from. -/
theorem isWithin_lowAndHigh (hl : lightness.IsWithin k) (hs : saturation.IsWithin k) (hk : 1 ≤ k)
    (hk' : k ≤ 500) :
    (lowAndHigh lightness saturation).1.IsWithin (2 * k + 5) ∧
      (lowAndHigh lightness saturation).2.IsWithin (2 * k + 5) := by
  have hone : (Binary64.ofNat 1).IsWithin 1 := isWithin_ofNat (by norm_num) (by norm_num)
  have htwo : (Binary64.ofNat 2).IsWithin 2 := isWithin_ofNat (by norm_num) (by norm_num)
  have hdoubled := (htwo.mul hl (by omega)).mono (k := 2 * k + 3) (by omega)
  have hhigh : (lowAndHigh lightness saturation).2.IsWithin (2 * k + 3) := by
    simp only [lowAndHigh]
    split
    · exact (hl.mul ((hone.mono hk).add hs (by omega)) (by omega)).mono (by omega)
    · exact (((hl.add hs (by omega)).mono (k := 2 * k + 1) (by omega)).sub
        ((hl.mul hs (by omega)).mono (by omega)) (by omega)).mono (by omega)
  exact ⟨hdoubled.sub hhigh (by omega), hhigh.mono (by omega)⟩

end Sizes

/-! ## Shades -/

/-- Three shares of full intensity. -/
structure Shares where
  red : Binary64
  green : Binary64
  blue : Binary64

namespace Shares

/-- The colour of three shares. -/
def color (shares : Shares) : Color :=
  ofShares shares.red shares.green shares.blue

/-- Three shares of which the same holds. -/
structure All (p : Binary64 → Prop) (shares : Shares) : Prop where
  red : p shares.red
  green : p shares.green
  blue : p shares.blue

end Shares

/-- The shares of a hue in turns, a lightness and a saturation. -/
def lightnessShares (hue lightness saturation : Binary64) : Shares :=
  if saturation.eqv (.ofNat 0) then ⟨lightness, lightness, lightness⟩
  else
    let bounds := lowAndHigh lightness saturation
    let third := Binary64.ofQuotient 1 3
    ⟨hueShare bounds.1 bounds.2 (hue.add third), hueShare bounds.1 bounds.2 hue,
      hueShare bounds.1 bounds.2 (hue.sub third)⟩

/-- A hue with a lightness gives the colour of its shares. -/
theorem ofHueLightness_eq (hue lightness saturation : Binary64) :
    ofHueLightness hue lightness saturation = (lightnessShares hue lightness saturation).color := by
  rw [ofHueLightness, lightnessShares]
  split
  · rfl
  · rfl

/-- The shares of one sixth of a turn, for the rest of the hue in that sixth. -/
def sectorShares (sector : ℕ) (rest saturation value : Binary64) : Shares :=
  let one := Binary64.ofNat 1
  let p := value.mul (one.sub saturation)
  let q := value.mul (one.sub (saturation.mul rest))
  let t := value.mul (one.sub (saturation.mul (one.sub rest)))
  match sector with
  | 0 => ⟨value, t, p⟩
  | 1 => ⟨q, value, p⟩
  | 2 => ⟨p, value, t⟩
  | 3 => ⟨p, q, value⟩
  | 4 => ⟨t, p, value⟩
  | _ => ⟨value, p, q⟩

/-- A hue with a value gives the colour of the shares in the sixth that the hue lies in, or a shade
of grey. -/
theorem ofHueValue_of_truncate {hue saturation value : Binary64} {sector : ℤ}
    (h : (hue.mul (.ofNat 6)).truncateToInt? = some sector) :
    ofHueValue hue saturation value =
      if saturation.eqv (.ofNat 0) then (Shares.mk value value value).color
      else (sectorShares (sector % 6).toNat ((hue.mul (.ofNat 6)).sub (.ofInt sector)) saturation
        value).color := by
  simp only [ofHueValue, h, Option.getD_some, sectorShares]
  refine if_congr Iff.rfl rfl ?_
  generalize (sector % 6).toNat = n
  rcases n with _ | _ | _ | _ | _ | n <;> rfl

section Shades

variable {hue lightness saturation value rest : Binary64} {t : ℚ} {k : ℕ}

/-- The shares of a hue and a lightness are bounded by what they come from. -/
theorem isWithin_lightnessShares (hhue : hue.IsWithin k) (hl : lightness.IsWithin k)
    (hs : saturation.IsWithin k) (hk : 1 ≤ k) (hk' : k ≤ 500) :
    (lightnessShares hue lightness saturation).All (IsWithin · (2 * k + 17)) := by
  have hthird : (Binary64.ofQuotient 1 3).IsWithin k :=
    (isWithin_ofQuotient (by decide) (by decide)).mono hk
  obtain ⟨hlow, hhigh⟩ := isWithin_lowAndHigh hl hs hk hk'
  rw [lightnessShares]
  split
  · have hmono := hl.mono (k := 2 * k + 17) (by omega)
    exact ⟨hmono, hmono, hmono⟩
  · exact ⟨isWithin_hueShare hlow hhigh (hhue.add hthird (by omega)).isFinite (by omega),
      isWithin_hueShare hlow hhigh hhue.isFinite (by omega),
      isWithin_hueShare hlow hhigh (hhue.sub hthird (by omega)).isFinite (by omega)⟩

/-- The shares of a hue, of a lightness and a saturation that are shares, are shares. -/
theorem isShare_lightnessShares (hhue : hue.IsWithin k) (hl : IsShare lightness t)
    (hs : IsShare saturation t) (hk : 1 ≤ k) (hk' : k ≤ 500) (ht : 1 / 2 ^ 48 ≤ t)
    (ht' : t ≤ 1 / 64) :
    (lightnessShares hue lightness saturation).All (IsShare · (64 * t)) := by
  have hthird : (Binary64.ofQuotient 1 3).IsWithin k :=
    (isWithin_ofQuotient (by decide) (by decide)).mono hk
  obtain ⟨hlow, hhigh⟩ := isShare_lowAndHigh hl hs ht (by linarith)
  have hshare {x : Binary64} (hx : x.isFinite = true) :
      IsShare (hueShare (lowAndHigh lightness saturation).1 (lowAndHigh lightness saturation).2 x)
        (64 * t) :=
    (isShare_hueShare hlow hhigh hx (by linarith) (by linarith)).mono (by linarith)
  rw [lightnessShares]
  split
  · have hmono := hl.mono (u := 64 * t) (by linarith)
    exact ⟨hmono, hmono, hmono⟩
  · exact ⟨hshare (hhue.add hthird (by omega)).isFinite, hshare hhue.isFinite,
      hshare (hhue.sub hthird (by omega)).isFinite⟩

/-- What holds of the value and of all that a sixth of a turn mixes holds of its shares. -/
theorem sectorShares_all {p : Binary64 → Prop} (hv : p value)
    (hp : p (value.mul ((Binary64.ofNat 1).sub saturation)))
    (hq : p (value.mul ((Binary64.ofNat 1).sub (saturation.mul rest))))
    (ht : p (value.mul ((Binary64.ofNat 1).sub
      (saturation.mul ((Binary64.ofNat 1).sub rest))))) (sector : ℕ) :
    (sectorShares sector rest saturation value).All p := by
  simp only [sectorShares]
  split <;> exact ⟨by assumption, by assumption, by assumption⟩

/-- The shares in a sixth of a turn are bounded by what they come from. -/
theorem isWithin_sectorShares (hrest : rest.IsWithin 2) (hs : saturation.IsWithin k)
    (hv : value.IsWithin k) (hk : 2 ≤ k) (hk' : k ≤ 500) (sector : ℕ) :
    (sectorShares sector rest saturation value).All (IsWithin · (2 * k + 17)) := by
  have hmix {c : Binary64} {j : ℕ} (hc : c.IsWithin j) (hj : 1 ≤ j) (hj' : j ≤ k + 7) :
      (value.mul ((Binary64.ofNat 1).sub c)).IsWithin (2 * k + 17) :=
    (hv.mul (isWithin_complement hc hj (by omega)) (by omega)).mono (by omega)
  refine sectorShares_all (hv.mono (by omega)) (hmix hs (by omega) (by omega))
    (hmix (hs.mul hrest (by omega)) (by omega) (by omega)) ?_ sector
  exact hmix (hs.mul (isWithin_complement hrest (by decide) (by decide)) (by omega)) (by omega)
    (by omega)

/-- The shares in a sixth of a turn, of three shares, are shares. -/
theorem isShare_sectorShares (hrest : IsShare rest t) (hs : IsShare saturation t)
    (hv : IsShare value t) (ht : 1 / 2 ^ 48 ≤ t) (ht' : t ≤ 1 / 512) (sector : ℕ) :
    (sectorShares sector rest saturation value).All (IsShare · (64 * t)) := by
  have hmix {c : Binary64} (hc : IsShare c (8 * t)) :
      IsShare (value.mul ((Binary64.ofNat 1).sub c)) (64 * t) :=
    ((hv.mono (by linarith)).mul (hc.complement (by linarith) (by linarith)) (by linarith)
      (by linarith)).mono (by linarith)
  refine sectorShares_all (hv.mono (by linarith)) (hmix (hs.mono (by linarith)))
    (hmix ((hs.mul hrest (by linarith) (by linarith)).mono (by linarith))) (hmix ?_) sector
  exact ((hs.mono (by linarith)).mul (hrest.complement (by linarith) (by linarith)) (by linarith)
    (by linarith)).mono (by linarith)

end Shades

end RackElevation.Raster.Color
