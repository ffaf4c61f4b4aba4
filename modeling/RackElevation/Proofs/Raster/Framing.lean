import RackElevation.Proofs.Layout.Mounting
import RackElevation.Proofs.Raster.Visibility

/-!
# Rectangles on the canvas

The corners of a rectangle are pixels of its own, so a rectangle reaches one pixel further to the
right and downwards than its coordinates.  When no device sticks out of its rack, all rectangles
keep the margin from the edges of the canvas.  So they lie on the canvas as soon as there is a
margin; without one, the last rack and the tallest one are cut off by a pixel.
-/

namespace RackElevation

open Number

/-- A device whose units are among those of its rack. -/
def DeviceLayout.FitsRack (device : DeviceLayout) (rack : RackLayout) : Prop :=
  ∃ stop, device.unit.add device.units = .ok stop ∧ stop.le rack.units = true

/-- An area that keeps a margin from the edges of a canvas. -/
structure Area.KeepsMargin (area : Area) (margin width height : ℤ) : Prop where
  left : margin ≤ area.left
  columns : area.left < area.right
  right : area.right ≤ width - margin
  top : margin ≤ area.top
  rows : area.top < area.bottom
  bottom : area.bottom ≤ height - margin

/-- Integers compare as numbers as they do by themselves. -/
theorem Number.int_le_int_iff {m n : ℤ} : (Number.int m).le (.int n) = true ↔ m ≤ n := by
  rw [le, Bool.or_eq_true, lt, eqv, decide_eq_true_eq, decide_eq_true_eq, ← le_iff_lt_or_eq]

namespace Sizes

variable {sizes : Sizes} {colors : ColorTable} {set : RackSet} {rack : Rack} {i : ℕ}

/-- No rack begins inside the margin. -/
theorem margin_le_left (husable : sizes.IsUsable) (i : ℕ) : sizes.margin ≤ sizes.left i :=
  le_add_of_nonneg_right
    (mul_nonneg (Int.natCast_nonneg i) (add_nonneg husable.rackWidth.le husable.rackSpacing))

/-- Every rack ends at the margin or left of it. -/
theorem left_add_le_width (husable : sizes.IsUsable) {racks : ℕ} (h : i < racks) :
    sizes.left i + sizes.rackWidth ≤ sizes.width racks - sizes.margin := by
  obtain ⟨k, rfl⟩ := Nat.exists_eq_add_one_of_ne_zero (Nat.ne_of_gt (Nat.zero_lt_of_lt h))
  rw [← left_last]
  rcases (Nat.lt_succ_iff.1 h).lt_or_eq with hlt | rfl
  · have hnext := left_add_le husable hlt
    have hspacing := husable.rackSpacing
    have hwidth := husable.rackWidth
    omega
  · exact le_rfl

/-- The body of a rack keeps the margin. -/
theorem keepsMargin_body (husable : sizes.IsUsable) (hrack : set.racks[i]? = some rack) :
    (sizes.body i (rack.units sizes.defaultRackHeight)).KeepsMargin sizes.margin
      (sizes.width set.racks.length) (sizes.height (set.tallest sizes.defaultRackHeight)) where
  left := margin_le_left husable i
  columns := lt_add_of_pos_right _ husable.rackWidth
  right := left_add_le_width husable (List.getElem?_eq_some_iff.1 hrack).1
  top := le_rfl
  rows := lt_add_of_pos_right _
    (mul_pos (rack.units_pos husable.defaultRackHeight) husable.unitHeight)
  bottom := by
    rw [← bottom_eq]
    exact bottom_mono husable
      (units_le_tallest sizes.defaultRackHeight (List.mem_of_getElem? hrack))

/-- So does every device on units of the rack. -/
theorem keepsMargin_deviceArea (husable : sizes.IsUsable) (hrack : set.racks[i]? = some rack)
    {p : Placement} (hoffset : 0 ≤ p.offset) (hspan : 0 < p.span)
    (hstop : p.stop ≤ rack.units sizes.defaultRackHeight) :
    (sizes.deviceArea (sizes.left i) (sizes.bottom (rack.units sizes.defaultRackHeight))
      p).KeepsMargin sizes.margin (sizes.width set.racks.length)
      (sizes.height (set.tallest sizes.defaultRackHeight)) where
  left := margin_le_left husable i
  columns := lt_add_of_pos_right _ husable.rackWidth
  right := left_add_le_width husable (List.getElem?_eq_some_iff.1 hrack).1
  top := (margin_le_top_iff husable _ _ p).2 hstop
  rows := (row_lt_row_iff husable).2 (lt_add_of_pos_right p.offset hspan)
  bottom := (bottom_deviceArea_le husable hoffset _ _).trans
    (keepsMargin_body husable hrack).bottom

end Sizes

namespace Raster

/-! ## What is drawn -/

/-- A rectangle on a canvas: its corners are pixels of the canvas, and so are all pixels of its
outline. -/
structure IsDrawnOn (canvas : Canvas) (box : Box) (thickness : ℤ) : Prop where
  left : 0 ≤ box.left
  columns : box.left ≤ box.right
  right : box.right ≤ canvas.width - 1
  top : 0 ≤ box.top
  rows : box.top ≤ box.bottom
  bottom : box.bottom ≤ canvas.height - 1
  outline : ∀ part ∈ outlineBoxes box thickness, ∀ x y, part.Has x y →
    (0 ≤ x ∧ x ≤ canvas.width - 1) ∧ 0 ≤ y ∧ y ≤ canvas.height - 1

namespace Painter

variable {painter : Painter} {measure : Measure} {layout : Layout} {rack : RackLayout} {box : Box}
  {thickness : ℤ}

/-- A rectangle among the calls of a painter, by its box and the thickness of its outline.  It
counts also when a later call fails. -/
def DrawsRectangle (painter : Painter) (measure : Measure) (layout : Layout) (box : Box)
    (thickness : ℤ) : Prop :=
  ∃ step ∈ painter.steps layout measure, ∃ calls, step.outcome = .ok calls ∧
    ∃ fill outline, Call.rectangle box fill outline thickness ∈ calls

/-- A rectangle is drawn when it has a box, with an outline of at least one pixel. -/
theorem rectangle_eq_ok {x y width height : Number} {fill : Color} {call : Call} :
    painter.rectangle x y width height fill = .ok call ↔
      ∃ box, painter.box x y width height = .ok box ∧
        .rectangle box fill (colorOf outlineColor) (max 1 painter.scale) = call := by
  rw [rectangle]
  simp only [bind_eq_ok, pure_eq_ok]

/-- A text is no rectangle. -/
theorem not_mem_text {x y : Number} {content : String} {calls : List Call}
    (h : painter.text measure x y content = .ok calls) (fill outline : Color) :
    Call.rectangle box fill outline thickness ∉ calls := by
  cases hcontent : content.isEmpty with
  | true =>
      rw [text_of_isEmpty x y hcontent] at h
      obtain rfl := Except.ok.inj h
      exact List.not_mem_nil
  | false =>
      obtain ⟨-, _, _, -, -, _, _, -, -, rfl⟩ := (text_eq_ok_iff hcontent).1 h
      rintro (_ | ⟨_, ⟨⟩⟩)

/-- The name of a rack is drawn without rectangles. -/
theorem not_mem_nameCalls {calls : List Call} (h : painter.nameCalls measure rack = .ok calls)
    (fill outline : Color) : Call.rectangle box fill outline thickness ∉ calls := by
  rw [nameCalls] at h
  split at h
  · obtain rfl := Except.ok.inj h
    exact List.not_mem_nil
  · obtain ⟨_, -, h⟩ := bind_eq_ok.1 h
    exact not_mem_text h fill outline

/-- The steps of a rack draw its boxes and no other rectangles. -/
theorem mem_rackSteps_iff :
    (∃ step ∈ painter.rackSteps measure rack, ∃ calls, step.outcome = .ok calls ∧
      ∃ fill outline, Call.rectangle box fill outline thickness ∈ calls) ↔
      painter.DrawsBox rack box ∧ max 1 painter.scale = thickness := by
  -- names and labels are texts, so a rectangle is drawn by the step of a body or of a device
  constructor
  · rintro ⟨step, hstep, calls, hcalls, fill, outline, hmem⟩
    rcases List.mem_cons.1 hstep with rfl | hstep
    · exact absurd hmem (not_mem_nameCalls hcalls fill outline)
    rcases List.mem_cons.1 hstep with rfl | hstep
    · obtain ⟨call, hcall, rfl⟩ := map_eq_ok.1 hcalls
      obtain ⟨x, hx, hcall⟩ := bind_eq_ok.1 hcall
      obtain ⟨body, hbody, rfl⟩ := rectangle_eq_ok.1 hcall
      cases List.mem_singleton.1 hmem
      exact ⟨.body (bind_eq_ok.2 ⟨x, hx, hbody⟩), rfl⟩
    · obtain ⟨device, hdevice, hstep⟩ := List.mem_flatMap.1 hstep
      rcases List.mem_cons.1 hstep with rfl | hstep
      · obtain ⟨call, hcall, rfl⟩ := map_eq_ok.1 hcalls
        rw [deviceCall, Report.outcome_andThen] at hcall
        obtain ⟨x, hx, hcall⟩ := bind_eq_ok.1 hcall
        obtain ⟨tile, htile, rfl⟩ := rectangle_eq_ok.1 hcall
        cases List.mem_singleton.1 hmem
        exact ⟨.device device hdevice (bind_eq_ok.2 ⟨x, hx, htile⟩), rfl⟩
      · obtain rfl := List.mem_singleton.1 hstep
        obtain ⟨x, -, hcalls⟩ := bind_eq_ok.1 hcalls
        exact absurd hmem (not_mem_text hcalls fill outline)
  · rintro ⟨hbox | ⟨device, hdevice, hbox⟩, rfl⟩
    · refine ⟨_, .tail _ (.head _), _, congrArg (Except.map ([·])) (bodyCall_eq hbox), ?_⟩
      exact ⟨_, _, List.mem_singleton_self _⟩
    · refine ⟨_, .tail _ (.tail _ (List.mem_flatMap.2 ⟨device, hdevice, .head _⟩)), _,
        congrArg (Except.map ([·])) (deviceCall_eq hbox), ?_⟩
      exact ⟨_, _, List.mem_singleton_self _⟩

/-- The rectangles of a layout are the boxes of its racks. -/
theorem drawsRectangle_iff :
    painter.DrawsRectangle measure layout box thickness ↔
      ∃ rack ∈ layout.racks, painter.DrawsBox rack box ∧ max 1 painter.scale = thickness := by
  constructor
  · rintro ⟨step, hstep, hcalls⟩
    obtain ⟨rack, hrack, hstep⟩ := List.mem_flatMap.1 hstep
    exact ⟨rack, hrack, mem_rackSteps_iff.1 ⟨step, hstep, hcalls⟩⟩
  · rintro ⟨rack, hrack, hbox⟩
    obtain ⟨step, hstep, hcalls⟩ := (@mem_rackSteps_iff painter measure rack _ _).2 hbox
    exact ⟨step, List.mem_flatMap.2 ⟨rack, hrack, hstep⟩, hcalls⟩

/-! ## Whole sizes -/

variable {sizes : Sizes} {colors : ColorTable} {set : RackSet}

/-- The size of an image. -/
theorem size_of_blank {width height : ℤ} (hwidth : layout.width = .int width)
    (hheight : layout.height = .int height) {blank : Canvas}
    (h : painter.blank layout = .ok blank) :
    blank.width = max 1 (width * painter.scale) ∧
      blank.height = max 1 (height * painter.scale) := by
  obtain ⟨-, -, background, -, rfl⟩ := blank_cases hwidth hheight h
  exact ⟨rfl, rfl⟩

/-- Every rectangle keeps the margin, when no device sticks out of its rack. -/
theorem exists_keepsMargin_of_drawsRectangle (husable : sizes.IsUsable) (hscale : 1 ≤ painter.scale)
    (hfits : ∀ rack ∈ (set.geometry (sizes.settings colors)).racks, ∀ device ∈ rack.devices,
      device.FitsRack rack)
    (h : painter.DrawsRectangle measure (set.geometry (sizes.settings colors)) box thickness) :
    thickness = painter.scale ∧ ∃ area : Area, box = painter.areaBox area ∧
      area.KeepsMargin sizes.margin (sizes.width set.racks.length)
        (sizes.height (set.tallest sizes.defaultRackHeight)) := by
  obtain ⟨rack, hrack, hbox, rfl⟩ := drawsRectangle_iff.1 h
  refine ⟨max_eq_right hscale, ?_⟩
  have hdevices := hfits rack hrack
  obtain ⟨i, rack, hi, rfl⟩ := exists_of_mem_racks hrack
  -- the body of a rack, or a device that fits into it
  cases hbox with
  | body hbox =>
      rw [bodyBox_eq] at hbox
      exact ⟨_, (Except.ok.inj hbox).symm, Sizes.keepsMargin_body husable hi⟩
  | device device hdevice hbox =>
      obtain ⟨stop, hstop, hle⟩ := hdevices device hdevice
      obtain ⟨p, hp, device, -, rfl⟩ := mem_devicesGeometry.1 hdevice
      obtain rfl := Except.ok.inj hstop
      have harea := @deviceBox_eq sizes colors painter rack (rack.units sizes.defaultRackHeight)
        (sizes.left i) (sizes.bottom (rack.units sizes.defaultRackHeight)) device p
      exact ⟨_, Except.ok.inj (hbox.symm.trans harea), Sizes.keepsMargin_deviceArea husable hi
        (offset_nonneg_of_mem_placementsFrom le_rfl hp) (span_pos_of_mem_placementsFrom hp)
        (int_le_int_iff.1 hle)⟩

section Areas

variable {area : Area} {margin width height : ℤ} {canvas : Canvas}

/-- The box of an area that keeps a margin keeps the scaled margin. -/
theorem areaBox_bounds (hscale : 0 ≤ painter.scale) (harea : area.KeepsMargin margin width height)
    (hwidth : width * painter.scale ≤ canvas.width)
    (hheight : height * painter.scale ≤ canvas.height) :
    (margin * painter.scale ≤ (painter.areaBox area).left ∧
      (painter.areaBox area).right ≤ canvas.width - margin * painter.scale) ∧
    margin * painter.scale ≤ (painter.areaBox area).top ∧
      (painter.areaBox area).bottom ≤ canvas.height - margin * painter.scale := by
  have hnear {edge : ℤ} (h : margin ≤ edge) : margin * painter.scale ≤ edge * painter.scale :=
    mul_le_mul_of_nonneg_right h hscale
  have hfar {edge side far : ℤ} (h : edge ≤ side - margin) (hside : side * painter.scale ≤ far) :
      edge * painter.scale ≤ far - margin * painter.scale := by
    refine (mul_le_mul_of_nonneg_right h hscale).trans ?_
    rw [sub_mul]
    exact sub_le_sub_right hside _
  exact ⟨⟨hnear harea.left, hfar harea.right hwidth⟩, hnear harea.top, hfar harea.bottom hheight⟩

/-- An area that keeps a margin is drawn on the canvas when there is one. -/
theorem isDrawnOn_areaBox (hscale : 1 ≤ painter.scale) (hmargin : 0 < margin)
    (harea : area.KeepsMargin margin width height) (hwidth : width * painter.scale ≤ canvas.width)
    (hheight : height * painter.scale ≤ canvas.height) :
    IsDrawnOn canvas (painter.areaBox area) painter.scale := by
  have hpos : 0 ≤ painter.scale := zero_le_one.trans hscale
  obtain ⟨⟨hleft, hright⟩, htop, hbottom⟩ := areaBox_bounds hpos harea hwidth hheight
  have hframe : 1 ≤ margin * painter.scale := one_le_mul_of_one_le_of_one_le hmargin hscale
  constructor
  case left => omega
  case columns => exact mul_le_mul_of_nonneg_right harea.columns.le hpos
  case right => omega
  case top => omega
  case rows => exact mul_le_mul_of_nonneg_right harea.rows.le hpos
  case bottom => omega
  case outline =>
    intro part hpart x y hhas
    have hroomy := isRoomy_areaBox hpos harea.columns harea.rows
    obtain ⟨⟨h₁, h₂, h₃, h₄⟩, -⟩ := Box.has_of_mem_outlineBoxes hpos hroomy hpart hhas
    omega

end Areas

/-- Without a margin the body of the last rack reaches the pixel after the last one. -/
theorem exists_drawsRectangle_right (husable : sizes.IsUsable) (hscale : 1 ≤ painter.scale)
    (hmargin : sizes.margin = 0) (hracks : set.racks ≠ []) :
    ∃ box, painter.DrawsRectangle measure (set.geometry (sizes.settings colors)) box
      (max 1 painter.scale) ∧
        box.right = max 1 (sizes.width set.racks.length * painter.scale) := by
  obtain ⟨k, hk⟩ := Nat.exists_eq_add_one_of_ne_zero (mt List.length_eq_zero_iff.1 hracks)
  have hlt : k < set.racks.length := by omega
  have hrack := @Sizes.getElem?_racks sizes colors set k
  rw [List.getElem?_eq_getElem hlt, Option.map_some] at hrack
  refine ⟨_, drawsRectangle_iff.2
    ⟨_, List.mem_of_getElem? hrack, .body (bodyBox_eq _ _ _), rfl⟩, ?_⟩
  have hpos : 0 < (sizes.left k + sizes.rackWidth) * painter.scale :=
    mul_pos (add_pos_of_nonneg_of_pos (Sizes.left_nonneg husable k) husable.rackWidth) hscale
  rw [Sizes.left_last, hmargin, sub_zero] at hpos
  rw [areaBox, hk, max_eq_right hpos, Sizes.left_last, hmargin, sub_zero]

end Painter

/-- Under accepted settings of whole sizes and at any scale, the rectangles of a layout in which all
devices fit their racks keep the scaled margin from the edges of the image.  They are drawn on the
image, outlines included, exactly when there is a margin or no rack. -/
theorem isDrawnOn_iff_of_layout (sizes : Sizes) (colors : ColorTable)
    (haccept : (sizes.settings colors).accept = .ok (sizes.settings colors)) (painter : Painter)
    (hscale : 1 ≤ painter.scale) (measure : Measure) (set : RackSet) {layout : Layout}
    (h : set.layout (sizes.settings colors) = .ok layout)
    (hfits : ∀ rack ∈ layout.racks, ∀ device ∈ rack.devices, device.FitsRack rack)
    {blank : Canvas} (hblank : painter.blank layout = .ok blank) :
    (∀ box thickness, painter.DrawsRectangle measure layout box thickness →
      (sizes.margin * painter.scale ≤ box.left ∧
        box.right ≤ blank.width - sizes.margin * painter.scale) ∧
      sizes.margin * painter.scale ≤ box.top ∧
        box.bottom ≤ blank.height - sizes.margin * painter.scale) ∧
    ((∀ box thickness, painter.DrawsRectangle measure layout box thickness →
      IsDrawnOn blank box thickness) ↔ 0 < sizes.margin ∨ set.racks = []) := by
  have husable := Sizes.isUsable_of_accept haccept
  obtain ⟨-, rfl⟩ := RackSet.eq_geometry_of_layout h
  obtain ⟨hwidth, hheight⟩ := Painter.size_of_blank (Sizes.width_geometry set)
    (Sizes.height_geometry set) hblank
  have hwide : sizes.width set.racks.length * painter.scale ≤ blank.width :=
    (le_max_right _ _).trans_eq hwidth.symm
  have hhigh : sizes.height (set.tallest sizes.defaultRackHeight) * painter.scale ≤ blank.height :=
    (le_max_right _ _).trans_eq hheight.symm
  -- every rectangle that is drawn is that of an area, and areas keep the margin
  have hkeeps {box : Box} {thickness : ℤ} :=
    @Painter.exists_keepsMargin_of_drawsRectangle painter measure box thickness sizes colors set
      husable hscale hfits
  refine ⟨fun box thickness hdraws => ?_, fun hall => ?_, ?_⟩
  · obtain ⟨-, area, rfl, harea⟩ := hkeeps hdraws
    exact Painter.areaBox_bounds (zero_le_one.trans hscale) harea hwide hhigh
  -- without a margin the last rack reaches the right edge, and its last column lies behind it
  · by_contra hnot
    obtain ⟨hmargin, hracks⟩ := not_or.1 hnot
    obtain ⟨box, hdraws, hright⟩ := @Painter.exists_drawsRectangle_right painter measure sizes
      colors set husable hscale (le_antisymm (not_lt.1 hmargin) husable.margin) hracks
    have hon := (hall box _ hdraws).right
    rw [hwidth, hright] at hon
    exact absurd hon (not_le.2 (sub_one_lt _))
  · rintro (hmargin | hracks) box thickness hdraws
    · obtain ⟨rfl, area, rfl, harea⟩ := hkeeps hdraws
      exact Painter.isDrawnOn_areaBox hscale hmargin harea hwide hhigh
    -- without racks nothing is drawn
    · obtain ⟨rack, hrack, -⟩ := Painter.drawsRectangle_iff.1 hdraws
      rw [RackSet.geometry, hracks] at hrack
      exact absurd hrack List.not_mem_nil

/-- Sizes with a margin of a single unit of length. -/
def framedSizes : Sizes := ⟨10, 100, 0, 1, 5⟩

/-- With a margin of one, all rectangles of two racks lie on the canvas. -/
theorem isDrawnOn_iff_of_layout_stackedRacks :
    (framedSizes.settings []).accept = .ok (framedSizes.settings []) ∧
    ∃ layout blank, stackedRacks.layout (framedSizes.settings []) = .ok layout ∧
      (∀ rack ∈ layout.racks, ∀ device ∈ rack.devices, device.FitsRack rack) ∧
      Painter.blank ⟨2, 14, .white, ⟨0, 0, 0⟩⟩ layout = .ok blank ∧ blank.width = 404 ∧
      blank.height = 104 ∧ ∀ box thickness,
        Painter.DrawsRectangle ⟨2, 14, .white, ⟨0, 0, 0⟩⟩ nominalExtent layout box thickness →
          IsDrawnOn blank box thickness := by
  have haccept : (framedSizes.settings []).accept = .ok (framedSizes.settings []) := by
    decide +kernel
  have hlayout : stackedRacks.layout (framedSizes.settings []) =
      .ok (stackedRacks.geometry (framedSizes.settings [])) := by
    decide +kernel
  have hblank : Painter.blank ⟨2, 14, .white, ⟨0, 0, 0⟩⟩
      (stackedRacks.geometry (framedSizes.settings [])) =
        .ok { width := 404, height := 104, background := ⟨255, 255, 255⟩ } := by
    decide +kernel
  have hfits : ∀ rack ∈ (stackedRacks.geometry (framedSizes.settings [])).racks,
      ∀ device ∈ rack.devices, device.FitsRack rack := by
    refine List.forall_mem_cons.2 ⟨List.forall_mem_cons.2 ⟨⟨2, ?_⟩,
      List.forall_mem_singleton.2 ⟨3, ?_⟩⟩,
      List.forall_mem_singleton.2 (List.forall_mem_singleton.2 ⟨2, ?_⟩)⟩ <;> decide +kernel
  obtain ⟨-, hdrawn⟩ := isDrawnOn_iff_of_layout framedSizes [] haccept ⟨2, 14, .white, ⟨0, 0, 0⟩⟩
    (by decide) nominalExtent stackedRacks hlayout hfits hblank
  exact ⟨haccept, _, _, hlayout, hfits, hblank, rfl, rfl, hdrawn.2 (.inl (by decide))⟩

/-- A rack without devices. -/
def bareRack : RackSet where
  racks := [{}]

/-- Sizes without a margin, for a rack of a single unit. -/
def flushSizes : Sizes := ⟨3, 4, 0, 0, 1⟩

/-- Without a margin, an image of four by three pixels holds the body of one rack, whose corner is
the pixel in the fifth column and the fourth row. -/
theorem not_isDrawnOn_bareRack :
    (flushSizes.settings []).accept = .ok (flushSizes.settings []) ∧
    ∃ layout blank, bareRack.layout (flushSizes.settings []) = .ok layout ∧
      (∀ rack ∈ layout.racks, ∀ device ∈ rack.devices, device.FitsRack rack) ∧
      Painter.blank ⟨1, 14, .white, ⟨0, 0, 0⟩⟩ layout = .ok blank ∧ blank.width = 4 ∧
      blank.height = 3 ∧
      Painter.DrawsRectangle ⟨1, 14, .white, ⟨0, 0, 0⟩⟩ nominalExtent layout ⟨0, 0, 4, 3⟩ 1 ∧
      ¬ IsDrawnOn blank ⟨0, 0, 4, 3⟩ 1 := by
  have haccept : (flushSizes.settings []).accept = .ok (flushSizes.settings []) := by
    decide +kernel
  have hlayout : bareRack.layout (flushSizes.settings []) =
      .ok (bareRack.geometry (flushSizes.settings [])) := by
    decide +kernel
  have hblank : Painter.blank ⟨1, 14, .white, ⟨0, 0, 0⟩⟩
      (bareRack.geometry (flushSizes.settings [])) =
        .ok { width := 4, height := 3, background := ⟨255, 255, 255⟩ } := by
    decide +kernel
  have hbody : Painter.DrawsBox ⟨1, 14, .white, ⟨0, 0, 0⟩⟩
      (Rack.geometry (flushSizes.settings []) {} 1 0) ⟨0, 0, 4, 3⟩ :=
    .body (by decide +kernel)
  refine ⟨haccept, _, _, hlayout, ?_, hblank, rfl, rfl, ?_, fun hon => ?_⟩
  · exact List.forall_mem_singleton.2 fun _ hdevice => absurd hdevice List.not_mem_nil
  · exact Painter.drawsRectangle_iff.2 ⟨_, List.mem_singleton_self _, hbody, rfl⟩
  · exact absurd hon.right (by decide)

end Raster

end RackElevation
