import RackElevation.Proofs.Number.Literals
import RackElevation.Proofs.Raster.Covering

/-!
# Forms of colour texts

A colour text has one of a few forms: a code of bytes, three counts of bytes, three percentages, or
a hue with two percentages.  Reading a text finds its form and computes the colour of the form.  A
text has room for numbers below 10^100 only, so no number of a form is close to the limits of
binary64.
-/

namespace RackElevation.Raster.Color

open Text

/-! ## Forms -/

/-- What a colour text says, with its numbers as they are written. -/
inductive Form where
  | code (color : Color)
  | counts (red green blue : ℕ)
  | percents (red green blue : ℕ)
  | hueLightness (hue saturation lightness : Binary64)
  | hueValue (hue saturation value : Binary64)
  deriving DecidableEq

namespace Form

/-- The colour of a form. -/
def color : Form → Color
  | code color => color
  | counts red green blue => ⟨red, green, blue⟩
  | percents red green blue => ⟨percentBytes red, percentBytes green, percentBytes blue⟩
  | hueLightness hue saturation lightness =>
      ofHueLightness (per hue 360) (per lightness 100) (per saturation 100)
  | hueValue hue saturation value => ofHueValue (per hue 360) (per saturation 100) (per value 100)

/-- The form of three whole numbers. -/
def ofCounts? (red green blue : List Char) : Option Form := do
  return counts (← whole? red) (← whole? green) (← whole? blue)

/-- The form of three whole percentages. -/
def ofPercents? (red green blue : List Char) : Option Form := do
  return percents (← whole? (← percent? red)) (← whole? (← percent? green))
    (← whole? (← percent? blue))

/-- The form of a hue and two percentages. -/
def ofHue? (form : Binary64 → Binary64 → Binary64 → Form) (hue first second : List Char) :
    Option Form := do
  return form (← decimal? hue) (← decimal? (← percent? first)) (← decimal? (← percent? second))

/-- The form of a name and the parts between parentheses. -/
def ofParts? (name : String) (parts : List (List Char)) : Option Form :=
  match name, parts with
  | "rgb", [red, green, blue] => ofCounts? red green blue <|> ofPercents? red green blue
  | "rgba", [red, green, blue, solidity] => (whole? solidity).bind fun _ => ofCounts? red green blue
  | "hsl", [hue, saturation, lightness] => ofHue? hueLightness hue saturation lightness
  | "hsv", [hue, saturation, value] => ofHue? hueValue hue saturation value
  | "hsb", [hue, saturation, value] => ofHue? hueValue hue saturation value
  | _, _ => none

/-- The form of a name followed by parts between parentheses. -/
def ofCall? (cs : List Char) : Option Form :=
  match splitAtFirst (· == '(') cs with
  | (name, some rest) =>
      if rest.getLast? == some ')' then
        ofParts? (String.ofList name) ((commaParts rest.dropLast).map trim)
      else none
  | _ => none

/-- The form of a colour text. -/
def ofText? (text : String) : Option Form :=
  let cs := text.toList.map lower
  if textLimit < cs.length then none
  else
    match ofName? (String.ofList cs) with
    | some color => some (code color)
    | none =>
        match dropLineFeed cs with
        | '#' :: digits => ((digits.mapM hexDigit?).bind ofHexDigits?).map code
        | cs => ofCall? cs

end Form

/-- A name with parts between parentheses has a colour when it has a form, and then the colour of
the form. -/
theorem ofParts?_eq (name : String) (parts : List (List Char)) :
    ofParts? name parts = (Form.ofParts? name parts).map Form.color := by
  unfold ofParts?
  split
  · next r g b =>
      rw [Form.ofParts?, Form.ofCounts?, Form.ofPercents?]
      cases whole? r <;> cases whole? g <;> cases whole? b <;>
        simp [Option.map_bind, Function.comp_def, Form.color]
  · simp [Form.ofParts?, Form.ofCounts?, Option.map_bind, Function.comp_def, Form.color]
  · simp [Form.ofParts?, Form.ofHue?, Option.map_bind, Function.comp_def, Form.color]
  · simp [Form.ofParts?, Form.ofHue?, Option.map_bind, Function.comp_def, Form.color]
  · simp [Form.ofParts?, Form.ofHue?, Option.map_bind, Function.comp_def, Form.color]
  · next h₁ h₂ h₃ h₄ h₅ => rw [Form.ofParts?, Option.map_none] <;> assumption

/-- A text with parentheses has a colour when it has a form, and then the colour of the form. -/
theorem ofCall?_eq (cs : List Char) : ofCall? cs = (Form.ofCall? cs).map Form.color := by
  rw [ofCall?, Form.ofCall?]
  cases splitAtFirst (· == '(') cs with
  | mk name rest =>
      cases rest with
      | none => rfl
      | some rest =>
          dsimp only
          rw [apply_ite (Option.map Form.color), Option.map_none, ofParts?_eq]

/-- A text says the colour of its form. -/
theorem read?_eq (text : String) : read? text = (Form.ofText? text).map Form.color := by
  simp only [read?, Form.ofText?]
  rw [apply_ite (Option.map Form.color), Option.map_none]
  refine if_congr Iff.rfl rfl ?_
  cases ofName? (String.ofList (text.toList.map lower)) with
  | some color => rfl
  | none =>
      dsimp only
      generalize dropLineFeed (text.toList.map lower) = cs
      rcases cs with _ | ⟨c, digits⟩
      · exact ofCall?_eq []
      · by_cases hc : c = '#'
        · subst hc
          show _ = ((((digits.mapM hexDigit?).bind ofHexDigits?).map Form.code).map Form.color)
          rw [Option.map_map]
          exact Option.map_id'.symm
        · have hcall : ∀ rest, c :: digits = '#' :: rest → False :=
            fun rest heq => hc (List.cons.inj heq).1
          simp only
          exact ofCall?_eq (c :: digits)

/-! ## Codes -/

/-- The bytes of a code are the components of its colour. -/
theorem isByte_ofCode {code : ℕ} (h : code < 0x1000000) : (ofCode code).IsByte := by
  constructor <;> simp only [ofCode] <;> omega

/-- The components of a named colour are bytes. -/
theorem isByte_of_ofName? {name : String} {color : Color} (h : ofName? name = some color) :
    color.IsByte := by
  have hcodes : ∀ entry ∈ colorNames, decide (entry.2 < 0x1000000) = true :=
    List.all_eq_true.1 (by decide)
  obtain ⟨entry, hentry, rfl⟩ := Option.map_eq_some_iff.1 h
  exact isByte_ofCode (of_decide_eq_true (hcodes entry (List.mem_of_find?_eq_some hentry)))

/-- A hexadecimal digit is below 16. -/
theorem hexDigit?_lt {c : Char} {v : ℕ} (h : hexDigit? c = some v) : v < 16 := by
  rw [hexDigit?] at h
  split at h
  · next hdigit =>
      obtain rfl := Option.some.inj h
      simp only [Char.isDigit, Bool.and_eq_true, decide_eq_true_eq,
        UInt32.le_iff_toNat_le] at hdigit
      obtain ⟨-, hle⟩ := hdigit
      have hle' : c.toNat ≤ 57 := hle
      have hzero : '0'.toNat = 48 := rfl
      omega
  · split at h
    · next hletter =>
        obtain rfl := Option.some.inj h
        simp only [Bool.and_eq_true, decide_eq_true_eq, Char.le_def,
          UInt32.le_iff_toNat_le] at hletter
        obtain ⟨-, hle⟩ := hletter
        have hle' : c.toNat ≤ 102 := hle
        have ha : 'a'.toNat = 97 := rfl
        omega
    · contradiction

/-- Hexadecimal digits are below 16. -/
theorem hexDigits_lt {cs : List Char} {ds : List ℕ} (h : cs.mapM hexDigit? = some ds) :
    ∀ d ∈ ds, d < 16 := by
  induction cs generalizing ds with
  | nil =>
      obtain rfl := Option.some.inj h
      exact List.forall_mem_nil _
  | cons c cs ih =>
      simp only [List.mapM_cons, Option.bind_eq_bind, Option.bind_eq_some_iff, Option.pure_def,
        Option.some_inj] at h
      obtain ⟨v, hv, vs, hvs, rfl⟩ := h
      exact List.forall_mem_cons.2 ⟨hexDigit?_lt hv, ih hvs⟩

/-- The components of a hexadecimal colour are bytes. -/
theorem isByte_of_ofHexDigits? {ds : List ℕ} {color : Color} (hds : ∀ d ∈ ds, d < 16)
    (h : ofHexDigits? ds = some color) : color.IsByte := by
  unfold ofHexDigits? at h
  split at h
  case h_5 => contradiction
  -- every component is made from one digit or from two
  all_goals
    cases h
    simp only [List.forall_mem_cons] at hds
    constructor <;> dsimp only <;> omega

/-! ## Numbers -/

/-- A number that is not negative and no greater than a colour text has room for. -/
structure IsModerate (x : Binary64) : Prop where
  nonneg : 0 ≤ x.val
  isWithin : x.IsWithin 335

/-- The parts of a cut text are no longer than the text. -/
theorem length_splitAtFirst (p : Char → Bool) (cs : List Char) :
    (splitAtFirst p cs).1.length ≤ cs.length ∧
      ∀ rest ∈ (splitAtFirst p cs).2, rest.length ≤ cs.length := by
  rcases splitAtFirst_cases p cs with ⟨hsplit, -⟩ | ⟨as, c, bs, rfl, -, hsplit⟩
  · rw [hsplit]
    exact ⟨le_rfl, fun rest hrest => absurd hrest (Option.not_mem_none rest)⟩
  · rw [hsplit, List.length_append, List.length_cons]
    refine ⟨Nat.le_add_right _ _, fun rest hrest => ?_⟩
    obtain rfl := Option.some.inj hrest
    omega

/-- The parts between commas are no longer than the whole. -/
theorem length_of_mem_commaParts (cs : List Char) :
    ∀ part ∈ commaParts cs, part.length ≤ cs.length := by
  induction cs with
  | nil => exact List.forall_mem_singleton.2 le_rfl
  | cons c cs ih =>
      have hcons : ∀ part ∈ commaParts cs, part.length ≤ (c :: cs).length :=
        fun part hpart => (ih part hpart).trans (Nat.le_succ _)
      rw [commaParts, List.foldr_cons, ← commaParts]
      split
      · exact List.forall_mem_cons.2 ⟨Nat.zero_le _, hcons⟩
      · split
        · next part parts hparts =>
            rw [hparts] at ih hcons
            obtain ⟨hpart, -⟩ := List.forall_mem_cons.1 ih
            exact List.forall_mem_cons.2 ⟨Nat.succ_le_succ hpart, (List.forall_mem_cons.1 hcons).2⟩
        · exact List.forall_mem_singleton.2 (Nat.succ_le_succ (Nat.zero_le _))

/-- A trimmed text is no longer than before. -/
theorem length_trim (cs : List Char) : (trim cs).length ≤ cs.length := by
  rw [trim, trimBy, List.length_reverse]
  refine (List.length_dropWhile_le _ _).trans ?_
  rw [List.length_reverse]
  exact List.length_dropWhile_le _ _

section Parts

variable {part rest : List Char} {n : ℕ} {x : Binary64}

/-- A whole number in a part has at most as many digits as a colour text has room for. -/
theorem whole?_lt (h : whole? part = some n) (hlength : part.length ≤ textLimit) :
    n < 10 ^ textLimit := by
  rw [whole?] at h
  split at h
  · obtain rfl := Option.some.inj h
    exact (value_lt part).trans_le (Nat.pow_le_pow_right (by decide) hlength)
  · contradiction

/-- A percentage without its sign is shorter. -/
theorem length_of_percent? (h : percent? part = some rest) : rest.length ≤ part.length := by
  rw [percent?] at h
  split at h
  · obtain rfl := Option.some.inj h
    rw [List.length_dropLast]
    exact Nat.sub_le _ _
  · contradiction

/-- Decimals that a colour text has room for are far from the end of the range. -/
theorem ten_pow_textLimit : (10 : ℚ) ^ textLimit ≤ 2 ^ 334 := by
  calc (10 : ℚ) ^ textLimit = (10 ^ 3) ^ 33 * 10 := by rw [← pow_mul, ← pow_succ]; rfl
    _ ≤ (2 ^ 10) ^ 33 * 2 ^ 4 := by gcongr <;> norm_num
    _ = 2 ^ 334 := by rw [← pow_mul, ← pow_add]

/-- Digits around a point are read as a moderate number. -/
theorem isModerate_toBinary64 {whole fraction : List Char} (h : whole.length ≤ textLimit) :
    IsModerate ((⟨value (whole ++ fraction), 0 - (fraction.length : ℤ)⟩ : Decimal).toBinary64
      false) := by
  have hval : (⟨value (whole ++ fraction), 0 - (fraction.length : ℤ)⟩ : Decimal).val ≤ 2 ^ 334 := by
    have hlt : (value (whole ++ fraction) : ℚ) < 10 ^ whole.length * 10 ^ fraction.length := by
      rw [← pow_add, ← List.length_append]
      exact_mod_cast value_lt (whole ++ fraction)
    rw [Decimal.val, zero_sub, zpow_neg, zpow_natCast, ← div_eq_mul_inv,
      div_le_iff₀ (by positivity)]
    refine hlt.le.trans (mul_le_mul_of_nonneg_right ?_ (by positivity))
    exact (pow_le_pow_right₀ (by norm_num) h).trans ten_pow_textLimit
  obtain ⟨hnonneg, hwithin⟩ := Decimal.toBinary64_of_val_le (by decide) hval
  exact ⟨hnonneg, hwithin⟩

/-- A decimal that a colour text has room for is moderate. -/
theorem isModerate_of_decimal? (h : decimal? part = some x) (hlength : part.length ≤ textLimit) :
    IsModerate x := by
  simp only [decimal?] at h
  split at h
  · next hdigits =>
      simp only [Bool.and_eq_true, Bool.not_eq_true', List.isEmpty_eq_false_iff,
        List.all_eq_true] at hdigits
      obtain ⟨⟨hne, hwhole⟩, hfraction⟩ := hdigits
      rw [realNumeral?_of_digits (Prod.mk.eta).symm hne hwhole hfraction] at h
      obtain rfl := Option.some.inj h
      exact isModerate_toBinary64 ((length_splitAtFirst _ part).1.trans hlength)
  · contradiction

end Parts

/-! ## Numbers of a form -/

namespace Form

/-- A form whose numbers a colour text has room for, and whose code is made of bytes. -/
def IsModerate : Form → Prop
  | code color => color.IsByte
  | counts _ _ _ => True
  | percents red green blue =>
      red < 10 ^ textLimit ∧ green < 10 ^ textLimit ∧ blue < 10 ^ textLimit
  | hueLightness hue saturation lightness =>
      Color.IsModerate hue ∧ Color.IsModerate saturation ∧ Color.IsModerate lightness
  | hueValue hue saturation value =>
      Color.IsModerate hue ∧ Color.IsModerate saturation ∧ Color.IsModerate value

section Reading

variable {form : Form} {red green blue hue first second : List Char}

/-- A form of three whole numbers is moderate. -/
theorem isModerate_of_ofCounts? (h : ofCounts? red green blue = some form) : form.IsModerate := by
  simp only [ofCounts?, Option.bind_eq_bind, Option.bind_eq_some_iff, Option.pure_def,
    Option.some_inj] at h
  obtain ⟨r, -, g, -, b, -, rfl⟩ := h
  trivial

/-- A form of three percentages that a colour text has room for is moderate. -/
theorem isModerate_of_ofPercents? (hred : red.length ≤ textLimit)
    (hgreen : green.length ≤ textLimit) (hblue : blue.length ≤ textLimit)
    (h : ofPercents? red green blue = some form) : form.IsModerate := by
  simp only [ofPercents?, Option.bind_eq_bind, Option.bind_eq_some_iff, Option.pure_def,
    Option.some_inj] at h
  obtain ⟨ds, hds, r, hr, es, hes, g, hg, fs, hfs, b, hb, rfl⟩ := h
  exact ⟨whole?_lt hr ((length_of_percent? hds).trans hred),
    whole?_lt hg ((length_of_percent? hes).trans hgreen),
    whole?_lt hb ((length_of_percent? hfs).trans hblue)⟩

/-- A form of a hue and two percentages that a colour text has room for is moderate. -/
theorem isModerate_of_ofHue? (make : Binary64 → Binary64 → Binary64 → Form)
    (hmake : ∀ x y z, Color.IsModerate x → Color.IsModerate y → Color.IsModerate z →
      (make x y z).IsModerate)
    (hhue : hue.length ≤ textLimit) (hfirst : first.length ≤ textLimit)
    (hsecond : second.length ≤ textLimit) (h : ofHue? make hue first second = some form) :
    form.IsModerate := by
  simp only [ofHue?, Option.bind_eq_bind, Option.bind_eq_some_iff, Option.pure_def,
    Option.some_inj] at h
  obtain ⟨x, hx, ds, hds, y, hy, es, hes, z, hz, rfl⟩ := h
  exact hmake x y z (isModerate_of_decimal? hx hhue)
    (isModerate_of_decimal? hy ((length_of_percent? hds).trans hfirst))
    (isModerate_of_decimal? hz ((length_of_percent? hes).trans hsecond))

/-- A form whose parts a colour text has room for is moderate. -/
theorem isModerate_of_ofParts? {name : String} {parts : List (List Char)}
    (hparts : ∀ part ∈ parts, part.length ≤ textLimit) (h : ofParts? name parts = some form) :
    form.IsModerate := by
  unfold ofParts? at h
  -- one case for each name of a form; only the plain one also takes percentages
  split at h
  case h_6 => contradiction
  all_goals simp only [List.forall_mem_cons] at hparts
  · next red green blue =>
      obtain ⟨hred, hgreen, hblue, -⟩ := hparts
      cases hcounts : ofCounts? red green blue with
      | none =>
          rw [hcounts] at h
          exact isModerate_of_ofPercents? hred hgreen hblue h
      | some counts =>
          rw [hcounts] at h
          obtain rfl := Option.some.inj h
          exact isModerate_of_ofCounts? hcounts
  · obtain ⟨_, -, h⟩ := Option.bind_eq_some_iff.1 h
    exact isModerate_of_ofCounts? h
  · obtain ⟨hhue, hsaturation, hlightness, -⟩ := hparts
    exact isModerate_of_ofHue? hueLightness (fun _ _ _ hx hy hz => ⟨hx, hy, hz⟩) hhue hsaturation
      hlightness h
  · obtain ⟨hhue, hsaturation, hvalue, -⟩ := hparts
    exact isModerate_of_ofHue? hueValue (fun _ _ _ hx hy hz => ⟨hx, hy, hz⟩) hhue hsaturation
      hvalue h
  · obtain ⟨hhue, hsaturation, hvalue, -⟩ := hparts
    exact isModerate_of_ofHue? hueValue (fun _ _ _ hx hy hz => ⟨hx, hy, hz⟩) hhue hsaturation
      hvalue h

/-- A form that a colour text has room for is moderate. -/
theorem isModerate_of_ofCall? {cs : List Char} (hlength : cs.length ≤ textLimit)
    (h : ofCall? cs = some form) : form.IsModerate := by
  have hsplit := (length_splitAtFirst (· == '(') cs).2
  rw [ofCall?] at h
  split at h
  · next name rest heq =>
      rw [heq] at hsplit
      split at h
      · refine isModerate_of_ofParts? (List.forall_mem_map.2 fun part hpart => ?_) h
        have hrest : rest.dropLast.length ≤ rest.length := by
          rw [List.length_dropLast]
          exact Nat.sub_le _ _
        exact (length_trim part).trans ((length_of_mem_commaParts _ part hpart).trans
          (hrest.trans ((hsplit rest rfl).trans hlength)))
      · contradiction
  · contradiction

/-- The numbers of every colour text are moderate. -/
theorem isModerate_of_ofText? {text : String} (h : ofText? text = some form) : form.IsModerate := by
  simp only [ofText?] at h
  split at h
  · contradiction
  · next hlength =>
      rw [not_lt] at hlength
      split at h
      · next color hname =>
          obtain rfl := Option.some.inj h
          exact isByte_of_ofName? hname
      · split at h
        · obtain ⟨color, hcolor, rfl⟩ := Option.map_eq_some_iff.1 h
          obtain ⟨ds, hds, hcolor⟩ := Option.bind_eq_some_iff.1 hcolor
          exact isByte_of_ofHexDigits? (hexDigits_lt hds) hcolor
        · refine isModerate_of_ofCall? (le_trans ?_ hlength) h
          rw [dropLineFeed]
          split
          · rw [List.length_dropLast]
            exact Nat.sub_le _ _
          · exact le_rfl

end Reading

end Form

end RackElevation.Raster.Color
