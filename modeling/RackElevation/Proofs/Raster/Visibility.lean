import RackElevation.Proofs.Layout.Whole
import RackElevation.Proofs.Raster.Tiles

/-!
# What a raster shows

In a layout of whole sizes every coordinate is scaled exactly.  Neighbouring racks without spacing
share a column of pixels, and stacked devices share a row; only the outlines lie there.  So an image
shows every device that shares no unit with another one.
-/

namespace RackElevation

open Number

/-! ## Racks without texts and overlaps -/

/-- A rack without a name whose devices have no labels. -/
structure Rack.IsUnlabelled (rack : Rack) : Prop where
  name : nonempty? rack.name = none
  label : ∀ slot ∈ rack.slots, ∀ device ∈ slot.device?, device.label = ""

/-- A unit that a placement takes. -/
structure Placement.Takes (p : Placement) (unit : ℤ) : Prop where
  le : p.offset ≤ unit
  lt : unit < p.stop

/-- A rack no two devices of which take the same unit. -/
def Rack.IsApart (rack : Rack) : Prop :=
  ∀ ps, placeSlots rack.slots = .ok ps →
    (ps.filter (·.device?.isSome)).Pairwise fun p q => ∀ unit, ¬ (p.Takes unit ∧ q.Takes unit)

/-- Two placements take no unit together when one of them ends before the other starts. -/
theorem forall_not_takes_iff {p q : Placement} (hp : 0 < p.span) (hq : 0 < q.span) :
    (∀ unit, ¬ (p.Takes unit ∧ q.Takes unit)) ↔ p.stop ≤ q.offset ∨ q.stop ≤ p.offset := by
  constructor
  · intro h
    by_contra hnot
    obtain ⟨hpq, hqp⟩ := not_or.1 hnot
    rw [Placement.stop] at hpq hqp
    -- the greater one of the first units would be taken by both
    refine h (max p.offset q.offset) ⟨⟨le_max_left _ _, ?_⟩, ⟨le_max_right _ _, ?_⟩⟩
    · rw [Placement.stop]
      omega
    · rw [Placement.stop]
      omega
  · rintro (h | h) unit ⟨hp, hq⟩
    · exact not_le.2 hp.lt (h.trans hq.le)
    · exact not_le.2 hq.lt (h.trans hp.le)

namespace Raster

/-! ## Whole sizes -/

namespace Painter

variable {sizes : Sizes} {colors : ColorTable} {painter : Painter} {measure : Measure}

/-- The box of pixels of an area. -/
def areaBox (painter : Painter) (area : Area) : Box :=
  ⟨area.left * painter.scale, area.top * painter.scale, area.right * painter.scale,
    area.bottom * painter.scale⟩

theorem isRoomy_areaBox (hscale : 0 ≤ painter.scale) {area : Area} (hwidth : area.left < area.right)
    (hheight : area.top < area.bottom) : (painter.areaBox area).IsRoomy painter.scale := by
  have hroom {a b : ℤ} (h : a < b) : a * painter.scale + painter.scale ≤ b * painter.scale := by
    rw [← add_one_mul]
    exact mul_le_mul_of_nonneg_right h hscale
  exact ⟨hroom hwidth, hroom hheight⟩

/-- The body of a rack at a left edge. -/
theorem bodyBox_eq (rack : Rack) (units x : ℤ) :
    painter.bodyBox (rack.geometry (sizes.settings colors) (.int units) (.int x)) =
      .ok (painter.areaBox ⟨x, sizes.margin, x + sizes.rackWidth, sizes.bottom units⟩) := by
  have hbox : painter.bodyBox (rack.geometry (sizes.settings colors) (.int units) (.int x)) =
      .ok (painter.areaBox
        ⟨x + 0, sizes.margin, x + 0 + sizes.rackWidth, sizes.bottom units⟩) := rfl
  rwa [add_zero] at hbox

/-- A device of a rack at a left edge. -/
theorem deviceBox_eq (rack : Rack) (units x bottom : ℤ) (device : Device) (p : Placement) :
    painter.deviceBox (rack.geometry (sizes.settings colors) (.int units) (.int x))
        (device.geometry (sizes.settings colors) (.int bottom) p) =
      .ok (painter.areaBox (sizes.deviceArea x bottom p)) := by
  have hbox : painter.deviceBox (rack.geometry (sizes.settings colors) (.int units) (.int x))
      (device.geometry (sizes.settings colors) (.int bottom) p) =
        .ok (painter.areaBox ⟨x + 0, bottom - p.stop * sizes.unitHeight, x + 0 + sizes.rackWidth,
          bottom - p.stop * sizes.unitHeight + p.span * sizes.unitHeight⟩) := rfl
  rw [hbox, add_zero, Sizes.top_add_height, Sizes.deviceArea]

/-- Every box of a rack is that of an area between the left and the right edge of the rack. -/
theorem exists_area_of_drawsBox (husable : sizes.IsUsable) {rack : Rack} {units x : ℤ}
    (hunits : 0 < units) {box : Box}
    (h : painter.DrawsBox (rack.geometry (sizes.settings colors) (.int units) (.int x)) box) :
    ∃ area : Area, box = painter.areaBox area ∧ area.left = x ∧ area.right = x + sizes.rackWidth ∧
      area.top < area.bottom := by
  cases h with
  | body h =>
      rw [bodyBox_eq] at h
      refine ⟨_, (Except.ok.inj h).symm, rfl, rfl, ?_⟩
      exact lt_add_of_pos_right _ (mul_pos hunits husable.unitHeight)
  | device device hdevice h =>
      obtain ⟨p, hp, device, -, rfl⟩ := mem_devicesGeometry.1 hdevice
      have hbox := @deviceBox_eq sizes colors painter rack units x (sizes.bottom units) device p
      refine ⟨_, Except.ok.inj (h.symm.trans hbox), rfl, rfl, ?_⟩
      have hspan := mul_pos (span_pos_of_mem_placementsFrom hp) husable.unitHeight
      rw [Sizes.deviceArea, Placement.stop, add_mul]
      dsimp only
      omega

/-- The racks of a rack set, at their left edges. -/
theorem exists_of_mem_racks {set : RackSet} {r : RackLayout}
    (h : r ∈ (set.geometry (sizes.settings colors)).racks) :
    ∃ (i : ℕ) (rack : Rack), set.racks[i]? = some rack ∧
      r = rack.geometry (sizes.settings colors) (.int (rack.units sizes.defaultRackHeight))
        (.int (sizes.left i)) := by
  obtain ⟨i, hi⟩ := List.mem_iff_getElem?.1 h
  rw [Sizes.getElem?_racks, Option.map_eq_some_iff] at hi
  obtain ⟨rack, hrack, rfl⟩ := hi
  exact ⟨i, rack, hrack, rfl⟩

/-- Every box of a rack has the columns of the rack. -/
theorem columns_of_drawsBox (husable : sizes.IsUsable) {set : RackSet} {i : ℕ} {r : RackLayout}
    (hr : (set.geometry (sizes.settings colors)).racks[i]? = some r) {box : Box}
    (h : painter.DrawsBox r box) :
    box.left = sizes.left i * painter.scale ∧
      box.right = (sizes.left i + sizes.rackWidth) * painter.scale := by
  rw [Sizes.getElem?_racks, Option.map_eq_some_iff] at hr
  obtain ⟨rack, -, rfl⟩ := hr
  obtain ⟨area, rfl, hleft, hright, -⟩ := exists_area_of_drawsBox husable
    (rack.units_pos husable.defaultRackHeight) h
  rw [areaBox, hleft, hright]
  exact ⟨rfl, rfl⟩

/-- Devices that take different units are drawn one above the other. -/
theorem rows_apart (hscale : 0 ≤ painter.scale) (husable : sizes.IsUsable) {rack : Rack}
    (hreadable : ∀ slot ∈ rack.slots, slot.IsReadable) (hapart : rack.IsApart) (units x : ℤ) :
    (devicesGeometry (sizes.settings colors) (.int (sizes.bottom units))
      (placements rack.slots)).Pairwise fun a b => ∀ box box',
        painter.deviceBox (rack.geometry (sizes.settings colors) (.int units) (.int x)) a =
          .ok box →
        painter.deviceBox (rack.geometry (sizes.settings colors) (.int units) (.int x)) b =
          .ok box' →
        box.bottom ≤ box'.top ∨ box'.bottom ≤ box.top := by
  have hpairs := hapart _ (placeSlots_eq_ok.2 ⟨hreadable, rfl⟩)
  rw [List.pairwise_filter] at hpairs
  rw [devicesGeometry, List.pairwise_filterMap]
  refine hpairs.imp_of_mem fun {p q} hp hq hdisjoint a ha b hb box box' hbox hbox' => ?_
  obtain ⟨device, hdevice, rfl⟩ := Option.map_eq_some_iff.1 ha
  obtain ⟨device', hdevice', rfl⟩ := Option.map_eq_some_iff.1 hb
  rw [deviceBox_eq] at hbox hbox'
  obtain rfl := Except.ok.inj hbox
  obtain rfl := Except.ok.inj hbox'
  have hedges {m n : ℤ} (h : m ≤ n) :
      (sizes.bottom units - n * sizes.unitHeight) * painter.scale ≤
        (sizes.bottom units - m * sizes.unitHeight) * painter.scale := by
    refine mul_le_mul_of_nonneg_right (sub_le_sub_left ?_ _) hscale
    exact mul_le_mul_of_nonneg_right h husable.unitHeight.le
  -- units count upwards, and rows downwards
  have htakes := hdisjoint (hdevice ▸ rfl) (hdevice' ▸ rfl)
  rw [forall_not_takes_iff (span_pos_of_mem_placementsFrom hp) (span_pos_of_mem_placementsFrom hq)]
    at htakes
  rcases htakes with hbelow | habove
  · exact Or.inr (hedges hbelow)
  · exact Or.inl (hedges habove)

/-- The racks of a layout of whole sizes are spread when the devices of each rack are. -/
theorem areSpread_geometry (hscale : 0 ≤ painter.scale) (husable : sizes.IsUsable) {set : RackSet}
    (hreadable : ∀ rack ∈ set.racks, ∀ slot ∈ rack.slots, slot.IsReadable)
    (hapart : ∀ rack ∈ set.racks, rack.IsApart) :
    painter.AreSpread (set.geometry (sizes.settings colors)).racks where
  roomy := by
    intro r hr box hbox
    obtain ⟨i, rack, hrack, rfl⟩ := exists_of_mem_racks hr
    obtain ⟨area, rfl, hleft, hright, hheight⟩ := exists_area_of_drawsBox husable
      (rack.units_pos husable.defaultRackHeight) hbox
    refine isRoomy_areaBox hscale ?_ hheight
    rw [hleft, hright]
    exact lt_add_of_pos_right _ husable.rackWidth
  columns := by
    refine List.pairwise_iff_getElem.2 fun i j hi hj hij box box' hbox hbox' => ?_
    rw [(columns_of_drawsBox husable (List.getElem?_eq_getElem hi) hbox).2,
      (columns_of_drawsBox husable (List.getElem?_eq_getElem hj) hbox').1]
    -- a rack ends where the gap before the next one starts
    refine mul_le_mul_of_nonneg_right ?_ hscale
    exact (le_add_of_nonneg_right husable.rackSpacing).trans (Sizes.left_add_le husable hij)
  rows := by
    intro r hr
    obtain ⟨i, rack, hrack, rfl⟩ := exists_of_mem_racks hr
    have hmem := List.mem_of_getElem? hrack
    exact rows_apart hscale husable (hreadable rack hmem) (hapart rack hmem) _ _

/-- An empty canvas of whole sizes has the scaled sizes, and room for them. -/
theorem blank_cases {layout : Layout} {width height : ℤ} (hwidth : layout.width = .int width)
    (hheight : layout.height = .int height) {blank : Canvas}
    (h : painter.blank layout = .ok blank) :
    max 1 (width * painter.scale) ≤ Canvas.rowLimit ∧
      requireHalfWord (max 1 (height * painter.scale)) = .ok () ∧
      ∃ background, painter.background.pixel = .ok background ∧ blank = {
        width := max 1 (width * painter.scale)
        height := max 1 (height * painter.scale)
        background } := by
  have hscaled (n : ℤ) : painter.scaled (.int n) = .ok (n * painter.scale) := rfl
  rw [Painter.blank, hwidth, hheight, hscaled, hscaled, ok_bind, ok_bind, Canvas.blank] at h
  obtain ⟨_, -, h⟩ := bind_eq_ok.1 h
  obtain ⟨_, hhigh, h⟩ := bind_eq_ok.1 h
  split at h
  · contradiction
  · next hwide =>
      obtain ⟨background, hbackground, h⟩ := bind_eq_ok.1 h
      exact ⟨not_lt.1 hwide, hhigh, background, hbackground, (pure_eq_ok.1 h).symm⟩

/-- An empty canvas has the background, and room for the width of the layout. -/
theorem blank_eq_ok {layout : Layout} {width height : ℤ} (hwidth : layout.width = .int width)
    (hheight : layout.height = .int height) (hbackground : painter.background.IsByte)
    {blank : Canvas} (h : painter.blank layout = .ok blank) :
    width * painter.scale ≤ Canvas.rowLimit ∧ blank = {
      width := max 1 (width * painter.scale)
      height := max 1 (height * painter.scale)
      background := painter.background.bytes } := by
  obtain ⟨hwide, -, background, hpixel, rfl⟩ := blank_cases hwidth hheight h
  rw [hbackground.pixel_eq] at hpixel
  rw [Except.ok.inj hpixel]
  exact ⟨(le_max_right _ _).trans hwide, rfl⟩

/-- A device without a label draws no text, at an offset that is in range. -/
theorem labelCalls_eq {device : Device} (hlabel : device.label = "") {x : ℤ}
    (hx : (Binary64.ofInt x).isFinite = true) (bottom : Number) (p : Placement) :
    painter.labelCalls measure (.int x) (device.geometry (sizes.settings colors) bottom p) =
      .ok [] := by
  have hhalf : ∃ half, (sizes.settings colors).rackWidth.halved = .real half := ⟨_, rfl⟩
  obtain ⟨half, hhalf⟩ := hhalf
  have hcolumn : (Number.int x).add (sizes.settings colors).rackWidth.halved =
      .ok (.real ((Binary64.ofInt x).add half)) := by
    rw [hhalf, add, combine_real_right, toReal_int, if_pos hx]
    rfl
  rw [labelCalls, Device.geometry, hcolumn, ok_bind, hlabel]
  rfl

/-- The left edges of racks on a canvas are in range. -/
theorem isFinite_left (husable : sizes.IsUsable) (hscale : 1 ≤ painter.scale) {racks i : ℕ}
    (hi : i < racks) (hwidth : sizes.width racks * painter.scale ≤ Canvas.rowLimit) :
    (Binary64.ofInt (sizes.left i)).isFinite = true := by
  have hleft : 0 ≤ sizes.left i := Sizes.left_nonneg husable i
  have hedge : sizes.left i ≤ sizes.width racks := Sizes.left_le_width husable hi
  have hscaled : sizes.width racks ≤ sizes.width racks * painter.scale :=
    le_mul_of_one_le_right (hleft.trans hedge) hscale
  have hlimit : Canvas.rowLimit = 536870910 := rfl
  have hbound : 536870910 < (2 ^ 54 - 1) * 2 ^ 970 :=
    lt_of_lt_of_le (by norm_num) (Nat.le_mul_of_pos_right (2 ^ 54 - 1) (by positivity))
  rw [Binary64.isFinite_ofInt_iff]
  omega

/-- Unlabelled racks of whole sizes can be drawn, on a canvas that has room for them. -/
theorem isPlain_of_mem_racks (husable : sizes.IsUsable) (hscale : 1 ≤ painter.scale) {set : RackSet}
    (hlabel : ∀ rack ∈ set.racks, rack.IsUnlabelled)
    (hwidth : sizes.width set.racks.length * painter.scale ≤ Canvas.rowLimit) {r : RackLayout}
    (hr : r ∈ (set.geometry (sizes.settings colors)).racks) : painter.IsPlain measure r := by
  obtain ⟨i, rack, hrack, rfl⟩ := exists_of_mem_racks hr
  have hlabels := hlabel rack (List.mem_of_getElem? hrack)
  obtain ⟨hi, -⟩ := List.getElem?_eq_some_iff.1 hrack
  constructor
  case name =>
    rw [Rack.geometry, hlabels.name]
    rfl
  case body => exact ⟨_, bodyBox_eq _ _ _⟩
  case device =>
    intro d hd
    obtain ⟨p, -, device, -, rfl⟩ := mem_devicesGeometry.1 hd
    exact ⟨_, deviceBox_eq _ _ _ _ _ _⟩
  case label =>
    intro d hd
    obtain ⟨p, hp, device, hdevice, rfl⟩ := mem_devicesGeometry.1 hd
    have hempty := hlabels.label p.slot (slot_mem_of_mem_placements hp) device hdevice
    exact labelCalls_eq hempty (isFinite_left husable hscale hi hwidth) _ p

end Painter

/-- Two racks without spacing, one of them with two devices on top of one another. -/
def stackedRacks : RackSet where
  racks := [
    { height := some "3"
      slots := [.device { kind := "switch" }, .device { kind := "server", height := some "2" }] },
    { slots := [.device { kind := "server", position := some "2", color := some "#112233" }] }]

end Raster

end RackElevation
