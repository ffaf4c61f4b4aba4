import RackElevation.Proofs.Number.Scaling
import RackElevation.Proofs.Raster.Framing

/-!
# Texts that can be drawn

A text is drawn when its place stays in the range of binary64 numbers as it is scaled, and when the
box of the text can be centred there.  On a canvas that can be held the columns of a layout and the
lines of its names are small, so only the line of a device far above the canvas can leave the range.
-/

namespace RackElevation

open Number

namespace Raster

/-- A box that can be centred on any place in range. -/
structure Extent.IsCentrable (extent : Extent) : Prop where
  width : (Number.int (extent.right - extent.left)).halved.HasValue
  left : (Binary64.ofInt extent.left).isFinite = true
  height : (Number.int (extent.bottom - extent.top)).halved.HasValue
  top : (Binary64.ofInt extent.top).isFinite = true

namespace Painter

variable {painter : Painter} {measure : Measure}

/-- A text that can be drawn, if its place can be scaled. -/
structure CanWrite (painter : Painter) (measure : Measure) (content : String) : Prop where
  fontSize : 0 < painter.fontSize
  extent : (measure content).IsCentrable

/-! ## Places -/

/-- A number is scaled to a pixel when its multiple is in range. -/
theorem exists_scaled_iff {a : Number} :
    (∃ n, painter.scaled a = .ok n) ↔ (a.times (.int painter.scale)).HasValue := by
  have hcomputes := computes_mul a (.int painter.scale)
  -- scaling rounds the product to an integer, which infinities and what is no number do not have
  constructor
  · rintro ⟨n, h⟩
    obtain ⟨b, hb, hround⟩ := bind_eq_ok.1 h
    rw [hcomputes.eq_of_ok b hb] at hround
    cases hproduct : a.times (.int painter.scale) with
    | int m => trivial
    | real x =>
        rw [hproduct] at hround
        cases x with
        | finite s m hm => rfl
        | infinite s => contradiction
        | nan => contradiction
  · intro hvalue
    have hround : ∃ n, (a.times (.int painter.scale)).round = .ok n := by
      cases hproduct : a.times (.int painter.scale) with
      | int m => exact ⟨m, rfl⟩
      | real x =>
          rw [hproduct] at hvalue
          cases x with
          | finite s m hm => exact ⟨_, rfl⟩
          | infinite s => contradiction
          | nan => contradiction
    obtain ⟨n, hn⟩ := hround
    exact ⟨n, bind_eq_ok.2 ⟨_, hcomputes.ok hvalue, hn⟩⟩

/-- A scaled binary64 number is rounded to an integer in range. -/
theorem isFinite_of_scaled_real {x : Binary64} {n : ℤ} (h : painter.scaled (.real x) = .ok n) :
    (Binary64.ofInt n).isFinite = true := by
  obtain ⟨b, hb, hround⟩ := bind_eq_ok.1 h
  rw [(computes_mul _ _).eq_of_ok b hb, times, join_real_left, Number.round, integerOf] at hround
  split at hround
  · next hn =>
      obtain rfl := Except.ok.inj hround
      exact Binary64.isFinite_ofInt_of_round hn
  · contradiction

theorem exists_centred_iff {middle : ℤ} (hmiddle : (Binary64.ofInt middle).isFinite = true)
    (near far : ℤ) :
    (∃ start, centred middle near far = .ok start) ↔
      (Number.int (far - near)).halved.HasValue ∧ (Binary64.ofInt near).isFinite = true := by
  constructor
  · rintro ⟨start, h⟩
    obtain ⟨half, hhalf, h⟩ := bind_eq_ok.1 h
    obtain ⟨shifted, hshifted, h⟩ := bind_eq_ok.1 h
    refine ⟨hasValue_of_half_int hhalf, ?_⟩
    -- what is left of the middle is a binary64 number, so the near edge is rounded to one
    rw [(computes_half _).eq_of_ok half hhalf, halved, sub, combine_real_right, toReal_int,
      if_pos hmiddle, ok_bind] at hshifted
    rw [← pure_eq_ok.1 hshifted, sub, combine_real_left, toReal_int] at h
    split at h
    · next hfinite => exact hfinite
    · contradiction
  · rintro ⟨hhalf, hnear⟩
    have hcomputed := (computes_half _).ok hhalf
    rw [halved] at hcomputed hhalf
    rw [centred, hcomputed, ok_bind, sub, combine_real_right, toReal_int, if_pos hmiddle, ok_bind,
      pure_bind, combine_real_left, toReal_int, if_pos hnear]
    exact ⟨_, rfl⟩

/-- A text is drawn when it is empty, or when it can be drawn and both of its coordinates stay in
range. -/
theorem exists_text_iff (hscale : 1 ≤ painter.scale) {x y : Binary64} {content : String} :
    (∃ calls, painter.text measure (.real x) (.real y) content = .ok calls) ↔
      (content.isEmpty = false → painter.CanWrite measure content ∧
        ((Number.real x).times (.int painter.scale)).HasValue ∧
        ((Number.real y).times (.int painter.scale)).HasValue) := by
  by_cases hempty : content.isEmpty = true
  · refine iff_of_true ⟨[], text_of_isEmpty _ _ hempty⟩ fun hcontent => ?_
    rw [hempty] at hcontent
    contradiction
  have hcontent : content.isEmpty = false := Bool.eq_false_iff.2 hempty
  have hfont : 0 < painter.fontSize * painter.scale ↔ 0 < painter.fontSize :=
    mul_pos_iff_of_pos_right (Int.lt_of_lt_of_le Int.one_pos hscale)
  -- a text is drawn when its place can be scaled and its box can be centred on it, in both
  -- directions
  constructor
  · rintro ⟨calls, h⟩ -
    obtain ⟨hsize, column, line, hcolumn, hline, left, top, hleft, htop, -⟩ :=
      (text_eq_ok_iff hcontent).1 h
    obtain ⟨hwidth, hnear⟩ :=
      (exists_centred_iff (isFinite_of_scaled_real hcolumn) _ _).1 ⟨left, hleft⟩
    obtain ⟨hheight, hnear'⟩ :=
      (exists_centred_iff (isFinite_of_scaled_real hline) _ _).1 ⟨top, htop⟩
    exact ⟨⟨hfont.1 hsize, hwidth, hnear, hheight, hnear'⟩, exists_scaled_iff.1 ⟨column, hcolumn⟩,
      exists_scaled_iff.1 ⟨line, hline⟩⟩
  · intro h
    obtain ⟨⟨hsize, hextent⟩, hx, hy⟩ := h hcontent
    obtain ⟨column, hcolumn⟩ := exists_scaled_iff.2 hx
    obtain ⟨line, hline⟩ := exists_scaled_iff.2 hy
    obtain ⟨left, hleft⟩ :=
      (exists_centred_iff (isFinite_of_scaled_real hcolumn) (measure content).left
        (measure content).right).2 ⟨hextent.width, hextent.left⟩
    obtain ⟨top, htop⟩ :=
      (exists_centred_iff (isFinite_of_scaled_real hline) (measure content).top
        (measure content).bottom).2 ⟨hextent.height, hextent.top⟩
    exact ⟨_, (text_eq_ok_iff hcontent).2
      ⟨hfont.2 hsize, column, line, hcolumn, hline, left, top, hleft, htop, rfl⟩⟩

/-- An integer that has a form of 32 bits. -/
theorem lt_of_requireHalfWord {n : ℤ} (h : requireHalfWord n = .ok ()) : n < 2 ^ 31 := by
  rw [requireHalfWord] at h
  split at h
  · contradiction
  · split at h
    · next hfits =>
        rw [fitsBits, Bool.and_eq_true, decide_eq_true_eq, decide_eq_true_eq] at hfits
        exact hfits.2
    · contradiction

end Painter

end Raster

/-! ## Canvases -/

/-- Sizes of a canvas that can be held at a scale. -/
structure Sizes.HasRoom (sizes : Sizes) (scale : ℤ) (racks : ℕ) (units : ℤ) : Prop where
  width : sizes.width racks * scale ≤ 2 ^ 29
  height : sizes.height units * scale < 2 ^ 31

namespace Raster.Painter

variable {painter : Painter} {measure : Measure} {sizes : Sizes} {colors : ColorTable}

theorem hasRoom_of_blank {layout : Layout} {racks : ℕ} {units : ℤ}
    (hwidth : layout.width = .int (sizes.width racks))
    (hheight : layout.height = .int (sizes.height units)) {blank : Canvas}
    (h : painter.blank layout = .ok blank) : sizes.HasRoom painter.scale racks units := by
  obtain ⟨hwide, hhigh, -⟩ := blank_cases hwidth hheight h
  have hlimit : Canvas.rowLimit ≤ 2 ^ 29 := by decide
  exact ⟨((le_max_right _ _).trans hwide).trans hlimit,
    (le_max_right _ _).trans_lt (lt_of_requireHalfWord hhigh)⟩

section Texts

variable {set : RackSet} {rack : Rack} {i : ℕ} {units : ℤ}

/-- The labels of a rack stand in its middle, which is in range when it is scaled. -/
theorem exists_column (husable : sizes.IsUsable) (hscale : 1 ≤ painter.scale)
    (hroom : sizes.HasRoom painter.scale set.racks.length units) (hi : i < set.racks.length) :
    painter.scale ≤ 2 ^ 29 ∧ ∃ x,
      (Number.int (sizes.left i)).add (Number.int sizes.rackWidth).halved = .ok (.real x) ∧
        ((Number.real x).times (.int painter.scale)).HasValue := by
  have hleft := Sizes.left_nonneg husable i
  have hwidth := husable.rackWidth
  have hmargin := husable.margin
  have hedge := Sizes.left_add_le_width husable hi
  have hroom := hroom.width
  have hsum : (sizes.left i + sizes.rackWidth) * painter.scale ≤
      sizes.width set.racks.length * painter.scale :=
    mul_le_mul_of_nonneg_right (by omega) (by omega)
  have hlimit : painter.scale ≤ sizes.width set.racks.length * painter.scale :=
    le_mul_of_one_le_left (by omega) (by omega)
  exact ⟨by omega, exists_int_add_halved_times hleft hwidth.le hscale (by omega) (by omega)⟩

/-- The name of a rack stands in the middle of the margin, which is in range when it is scaled. -/
theorem exists_nameLine (husable : sizes.IsUsable) (hscale : 1 ≤ painter.scale)
    (hlimit : painter.scale ≤ 2 ^ 29)
    (hroom : sizes.HasRoom painter.scale set.racks.length units) (hunits : 0 ≤ units) :
    ∃ y, (Number.int sizes.margin).halved = .real y ∧
      ((Number.real y).times (.int painter.scale)).HasValue := by
  have hmargin := husable.margin
  have hheight : sizes.margin ≤ sizes.height units := by
    have hbody := mul_nonneg husable.unitHeight.le hunits
    rw [Sizes.height]
    omega
  have hscaled : sizes.margin * painter.scale ≤ sizes.height units * painter.scale :=
    mul_le_mul_of_nonneg_right hheight (by omega)
  have hsmall : sizes.margin ≤ sizes.margin * painter.scale := le_mul_of_one_le_right hmargin hscale
  have hhigh := hroom.height
  have hmiddle : (Number.int sizes.margin).halved.IsHalf sizes.margin := isHalf_halved (by omega)
  have hline : ((Number.int sizes.margin).halved.times (.int painter.scale)).HasValue :=
    hasValue_times_of_isHalf hmiddle (by omega) (by omega)
  obtain ⟨y, hy, -⟩ := hmiddle
  exact ⟨y, hy, hy ▸ hline⟩

/-- The name of a rack can be drawn when it can be drawn anywhere. -/
theorem exists_nameCalls_iff (husable : sizes.IsUsable) (hscale : 1 ≤ painter.scale)
    (hroom : sizes.HasRoom painter.scale set.racks.length units) (hunits : 0 ≤ units)
    (hi : i < set.racks.length) (n : Number) :
    (∃ calls, painter.nameCalls measure
        (rack.geometry (sizes.settings colors) n (.int (sizes.left i))) = .ok calls) ↔
      ∀ name ∈ nonempty? rack.name, painter.CanWrite measure name := by
  obtain ⟨hlimit, x, hx, hcolumn⟩ := exists_column husable hscale hroom hi
  obtain ⟨y, hy, hline⟩ := exists_nameLine husable hscale hlimit hroom hunits
  -- the empty name is left out twice, in the layout and by the painter
  have hname : nonempty? (rack.geometry (sizes.settings colors) n (.int (sizes.left i))).name =
      nonempty? rack.name := by
    rw [Rack.geometry, nonempty?, nonempty?, Option.filter_filter]
    simp only [Bool.and_self]
  rw [nameCalls, hname]
  cases hcontent : nonempty? rack.name with
  | none => exact iff_of_true ⟨[], rfl⟩ fun _ h => absurd h (Option.not_mem_none _)
  | some name =>
      have hne : name.isEmpty = false := by
        simpa using (nonempty?_eq_some.1 hcontent).2
      have hcalls : (do
          painter.text measure
            (← (Number.int (sizes.left i)).add (Number.int sizes.rackWidth).halved)
            (Number.int sizes.margin).halved name) =
          painter.text measure (.real x) (.real y) name := by
        rw [hx, hy, ok_bind]
      refine (exists_congr fun calls => by rw [← hcalls]; exact Iff.rfl).trans
        ((exists_text_iff hscale).trans ?_)
      simp only [hne, true_imp_iff, hcolumn, hline, and_true, Option.mem_def, Option.some.injEq,
        forall_eq']

/-- The label of a device can be drawn when it can be drawn anywhere and its line stays in range. -/
theorem exists_labelCalls_iff (husable : sizes.IsUsable) (hscale : 1 ≤ painter.scale)
    (hroom : sizes.HasRoom painter.scale set.racks.length units) (hi : i < set.racks.length)
    (bottom : Number) (device : Device) (p : Placement) :
    (∃ calls, painter.labelCalls measure (.int (sizes.left i))
        (device.geometry (sizes.settings colors) bottom p) = .ok calls) ↔
      (device.label.isEmpty = false → painter.CanWrite measure device.label ∧
        ((p.labelLine (.int sizes.unitHeight) bottom).times (.int painter.scale)).HasValue) := by
  obtain ⟨-, x, hx, hcolumn⟩ := exists_column husable hscale hroom hi
  obtain ⟨y, hy⟩ : ∃ y, p.labelLine (.int sizes.unitHeight) bottom = .real y := by
    obtain ⟨half, hhalf⟩ : ∃ half, (Number.times (.int p.span) (.int sizes.unitHeight)).halved =
        .real half := ⟨_, rfl⟩
    rw [Placement.labelLine, hhalf, plus, join_real_right]
    exact ⟨_, rfl⟩
  have hcalls : painter.labelCalls measure (.int (sizes.left i))
      (device.geometry (sizes.settings colors) bottom p) =
        painter.text measure (.real x) (.real y) device.label := by
    rw [← hy]
    exact (congrArg (· >>= fun a => painter.text measure a
      (p.labelLine (.int sizes.unitHeight) bottom) device.label) hx).trans (ok_bind ..)
  rw [hcalls, exists_text_iff hscale, hy]
  simp only [hcolumn, true_and]

end Texts

end Raster.Painter

/-- The line of a label is in range when its device has geometry in a rack of small height. -/
theorem Sizes.labelLine_hasValue {sizes : Sizes} {colors : ColorTable} (husable : sizes.IsUsable)
    {bottom : ℤ} (hbottom : bottom < 2 ^ 31) {p : Placement} (hoffset : 0 ≤ p.offset)
    (hspan : 0 < p.span) (h : p.HasGeometry (sizes.settings colors) (.int bottom)) :
    (p.labelLine (.int sizes.unitHeight) (.int bottom)).HasValue := by
  have hheight : 0 < p.span * sizes.unitHeight := mul_pos hspan husable.unitHeight
  have hlow : 0 ≤ p.offset * sizes.unitHeight := mul_nonneg hoffset husable.unitHeight.le
  have hline : p.labelLine (.int sizes.unitHeight) (.int bottom) =
      (Number.int (bottom - (p.offset + p.span) * sizes.unitHeight)).plus
        (Number.int (p.span * sizes.unitHeight)).halved := rfl
  have hlabel := h.labelY
  rw [hline]
  rcases lt_or_ge (bottom - (p.offset + p.span) * sizes.unitHeight) 0 with hneg | hnonneg
  · -- a device above the canvas: its top edge and half of its height have different signs
    refine hasValue_plus_halved hneg hheight.le ?_ (hasValue_of_half_int h.half)
    have hsum : (Number.int (bottom - (p.offset + p.span) * sizes.unitHeight)).add
        (Number.int (p.span * sizes.unitHeight)).halved = .ok _ := hlabel
    rw [halved, add, combine_real_right, toReal_int] at hsum
    split at hsum
    · next hfinite => exact hfinite
    · contradiction
  · rw [add_mul] at hnonneg ⊢
    obtain ⟨a, ha, x, rfl, hx⟩ := @int_add_halved
      (bottom - (p.offset * sizes.unitHeight + p.span * sizes.unitHeight))
      (p.span * sizes.unitHeight) (by omega) (by omega) (by omega)
    rw [← (computes_add _ _).eq_of_ok _ ha]
    exact hx.isFinite

end RackElevation
