import RackElevation.Proofs.Layout.Whole
import RackElevation.Proofs.Rack.Stacking

/-!
# Devices on their units

In a layout of whole sizes the rectangles of a rack show its placements to scale.  Units count
upwards from the bottom edge of the rack and rows count downwards from the top of the canvas, so the
picture is upside down: the end of a placement is the top edge of its device.  One unit is as high
as any other, and so devices meet, overlap and leave the rack exactly where their units do.
-/

namespace RackElevation

open Number

/-- Two areas overlap when they do from left to right and from top to bottom. -/
theorem Area.exists_inside_both_iff (a b : Area) :
    (∃ x y, a.Inside x y ∧ b.Inside x y) ↔
      max a.left b.left < min a.right b.right ∧ max a.top b.top < min a.bottom b.bottom := by
  simp only [max_lt_iff, lt_min_iff]
  constructor
  · rintro ⟨x, y, ha, hb⟩
    have hcolumn {m n : ℤ} (hm : (m : ℚ) < x) (hn : x < n) : m < n := Int.cast_lt.1 (hm.trans hn)
    have hrow {m n : ℤ} (hm : (m : ℚ) < y) (hn : y < n) : m < n := Int.cast_lt.1 (hm.trans hn)
    exact ⟨⟨⟨hcolumn ha.left ha.right, hcolumn hb.left ha.right⟩,
      hcolumn ha.left hb.right, hcolumn hb.left hb.right⟩,
      ⟨hrow ha.top ha.bottom, hrow hb.top ha.bottom⟩,
      hrow ha.top hb.bottom, hrow hb.top hb.bottom⟩
  · rintro ⟨hcolumns, hrows⟩
    -- there is a point between the greater one of the first edges and the lesser one of the last
    obtain ⟨x, hleft, hright⟩ : ∃ x : ℚ, ((max a.left b.left : ℤ) : ℚ) < x ∧
        x < ((min a.right b.right : ℤ) : ℚ) := by
      refine exists_between (Int.cast_lt.2 ?_)
      rwa [lt_min_iff, max_lt_iff, max_lt_iff]
    obtain ⟨y, htop, hbottom⟩ : ∃ y : ℚ, ((max a.top b.top : ℤ) : ℚ) < y ∧
        y < ((min a.bottom b.bottom : ℤ) : ℚ) := by
      refine exists_between (Int.cast_lt.2 ?_)
      rwa [lt_min_iff, max_lt_iff, max_lt_iff]
    rw [Int.cast_max, max_lt_iff] at hleft htop
    rw [Int.cast_min, lt_min_iff] at hright hbottom
    exact ⟨x, y, ⟨hleft.1, hright.1, htop.1, hbottom.1⟩, ⟨hleft.2, hright.2, htop.2, hbottom.2⟩⟩

/-- A device that takes the units of a placement. -/
structure DeviceLayout.HasUnits (device : DeviceLayout) (p : Placement) : Prop where
  unit : device.unit = .int p.offset
  units : device.units = .int p.span

/-- A device whose rectangle is a given area, relative to its rack. -/
structure DeviceLayout.HasArea (device : DeviceLayout) (area : Area) : Prop where
  left : device.x = .int area.left
  right : device.x.add device.width = .ok (.int area.right)
  top : device.y = .int area.top
  bottom : device.y.add device.height = .ok (.int area.bottom)

theorem Device.hasUnits_geometry (settings : Settings) (bottom : Number) (device : Device)
    (p : Placement) : (device.geometry settings bottom p).HasUnits p :=
  ⟨rfl, rfl⟩

/-- The devices among placements are laid out one by one, in the order of placing. -/
theorem forall₂_devicesGeometry {settings : Settings} {bottom : Number}
    {holds : DeviceLayout → Placement → Prop} {ps : List Placement}
    (h : ∀ p ∈ ps, ∀ device, p.device? = some device →
      holds (device.geometry settings bottom p) p) :
    List.Forall₂ holds (devicesGeometry settings bottom ps) (ps.filter (·.device?.isSome)) := by
  induction ps with
  | nil => exact .nil
  | cons p ps ih =>
      obtain ⟨hp, hps⟩ := List.forall_mem_cons.1 h
      rw [devicesGeometry, List.filterMap_cons, ← devicesGeometry, List.filter_cons]
      cases hdevice : p.device? with
      | none => exact ih hps
      | some device => exact .cons (hp device hdevice) (ih hps)

namespace Sizes

variable {sizes : Sizes} {colors : ColorTable}

/-! ## Rows and units -/

/-- Rows count downwards and units upwards. -/
theorem row_lt_row_iff (husable : sizes.IsUsable) {bottom m n : ℤ} :
    bottom - m * sizes.unitHeight < bottom - n * sizes.unitHeight ↔ n < m := by
  rw [sub_lt_sub_iff_left]
  exact mul_lt_mul_iff_left₀ husable.unitHeight

theorem row_eq_row_iff (husable : sizes.IsUsable) {bottom m n : ℤ} :
    bottom - m * sizes.unitHeight = bottom - n * sizes.unitHeight ↔ m = n := by
  rw [sub_right_inj]
  exact mul_left_inj' husable.unitHeight.ne'

/-- A device ends at the bottom edge of its rack or above it. -/
theorem bottom_deviceArea_le (husable : sizes.IsUsable) {p : Placement} (h : 0 ≤ p.offset)
    (left bottom : ℤ) : (sizes.deviceArea left bottom p).bottom ≤ bottom :=
  sub_le_self bottom (mul_nonneg h husable.unitHeight.le)

/-- A device is inside the body of its rack when its units are among those of the rack. -/
theorem margin_le_top_iff (husable : sizes.IsUsable) (left units : ℤ) (p : Placement) :
    sizes.margin ≤ (sizes.deviceArea left (sizes.bottom units) p).top ↔ p.stop ≤ units := by
  have htop : sizes.margin = sizes.bottom units - units * sizes.unitHeight := by
    rw [bottom, add_sub_cancel_right]
  rw [deviceArea, htop, ← not_lt, row_lt_row_iff husable, not_lt]

/-- The devices of a rack overlap when their units do. -/
theorem overlap_deviceArea_iff (husable : sizes.IsUsable) (left bottom : ℤ) (p q : Placement) :
    (∃ x y, (sizes.deviceArea left bottom p).Inside x y ∧
      (sizes.deviceArea left bottom q).Inside x y) ↔ (p.units ∩ q.units).Nonempty := by
  have hcolumns : max left left < min (left + sizes.rackWidth) (left + sizes.rackWidth) := by
    rw [max_self, min_self]
    exact lt_add_of_pos_right left husable.rackWidth
  rw [Area.exists_inside_both_iff]
  refine (and_iff_right hcolumns).trans ?_
  rw [Placement.units, Placement.units, Set.Ico_inter_Ico, Set.nonempty_Ico]
  simp only [deviceArea, max_lt_iff, lt_min_iff, row_lt_row_iff husable]
  exact and_and_and_comm

/-! ## Devices -/

theorem hasArea_geometry (bottom : ℤ) (device : Device) (p : Placement) :
    (device.geometry (sizes.settings colors) (.int bottom) p).HasArea
      (sizes.deviceArea 0 bottom p) where
  left := rfl
  right := rfl
  top := rfl
  bottom := congrArg (fun n => Except.ok (Number.int n)) (top_add_height bottom p)

end Sizes

/-! ## Racks -/

/-- A rack whose devices show its placements to scale: the devices are those of the placements in
the order of placing, and their areas lie to each other and to the body of the rack as their units
lie to each other and to those of the rack. -/
structure RackLayout.Mirrors (layout : RackLayout) (settings : Settings) (unitHeight : ℤ)
    (rack : Rack) (units top bottom : ℤ) (placed : List Placement) (area : Placement → Area) :
    Prop where
  units_eq : layout.units = .int units
  top_eq : layout.bodyY = .int top
  bottom_eq : layout.bottom = .ok (.int bottom)
  /-- Gaps are placed, but they are no devices. -/
  placed_eq : (placeSlots rack.slots).map (·.filter (·.device?.isSome)) = .ok placed
  devices : List.Forall₂ (fun device p => device.HasUnits p ∧ device.HasArea (area p) ∧
    ∃ d, p.device? = some d ∧ device.ShowsDevice settings d) layout.devices placed
  edge : ∀ p ∈ placed, (area p).bottom = bottom - p.offset * unitHeight
  edge_le : ∀ p ∈ placed, (area p).bottom ≤ bottom
  inside : ∀ p ∈ placed, top ≤ (area p).top ↔ p.offset + p.span ≤ units
  overlap : ∀ p ∈ placed, ∀ q ∈ placed,
    (∃ x y, (area p).Inside x y ∧ (area q).Inside x y) ↔ (p.units ∩ q.units).Nonempty
  /-- A device stands on another one when it starts at the end of the other one. -/
  standing : ∀ p ∈ placed, ∀ q ∈ placed,
    (area p).bottom = (area q).top ↔ p.offset = q.offset + q.span

theorem Rack.mirrors_geometry (sizes : Sizes) (husable : sizes.IsUsable) (colors : ColorTable)
    {rack : Rack} (hreadable : ∀ slot ∈ rack.slots, slot.IsReadable) (units : ℤ)
    (xOffset : Number) :
    (rack.geometry (sizes.settings colors) (.int units) xOffset).Mirrors (sizes.settings colors)
      sizes.unitHeight rack units sizes.margin (sizes.bottom units)
      ((placements rack.slots).filter (·.device?.isSome))
      (sizes.deviceArea 0 (sizes.bottom units)) := by
  constructor
  case units_eq => rfl
  case top_eq => rfl
  case bottom_eq => rfl
  case placed_eq =>
    rw [placeSlots_eq_ok.2 ⟨hreadable, rfl⟩]
    rfl
  -- the devices are those of the placements, and gaps leave their units free
  case devices =>
    refine forall₂_devicesGeometry fun p _ device hdevice => ?_
    exact ⟨device.hasUnits_geometry _ _ p, Sizes.hasArea_geometry _ device p, device, hdevice,
      device.showsDevice_geometry _ _ p⟩
  case edge => exact fun p _ => rfl
  case edge_le =>
    intro p hp
    exact Sizes.bottom_deviceArea_le husable
      (offset_nonneg_of_mem_placementsFrom le_rfl (List.mem_of_mem_filter hp)) _ _
  case inside => exact fun p _ => Sizes.margin_le_top_iff husable 0 units p
  case overlap => exact fun p _ q _ => Sizes.overlap_deviceArea_iff husable 0 _ p q
  case standing => exact fun p _ q _ => Sizes.row_eq_row_iff husable

/-- Under accepted settings of whole sizes, every rack of a layout shows its placements to scale. -/
theorem RackSet.mirrors_of_layout (sizes : Sizes) (colors : ColorTable)
    (haccept : (sizes.settings colors).accept = .ok (sizes.settings colors)) (set : RackSet)
    {layout : Layout} (h : set.layout (sizes.settings colors) = .ok layout) :
    List.Forall₂ (fun layout rack => ∃ units top bottom placed area,
      RackLayout.Mirrors layout (sizes.settings colors) sizes.unitHeight rack units top bottom
        placed area) layout.racks set.racks := by
  have husable := Sizes.isUsable_of_accept haccept
  obtain ⟨hreadable, rfl⟩ := RackSet.eq_geometry_of_layout h
  refine List.forall₂_iff_get.2 ⟨List.length_mapIdx, fun i hlayout hrack => ?_⟩
  have hlaidOut := @Sizes.getElem?_racks sizes colors set i
  rw [List.getElem?_eq_getElem hrack, List.getElem?_eq_getElem hlayout, Option.map_some,
    Option.some_inj] at hlaidOut
  rw [List.get_eq_getElem, hlaidOut]
  exact ⟨_, _, _, _, _,
    Rack.mirrors_geometry sizes husable colors (hreadable _ (List.getElem_mem hrack)) _ _⟩

/-- A rack of three units with a device above its top and one that is pinned into another. -/
def crowdedRack : RackSet where
  racks := [{
    height := some "3"
    slots := [
      .device { kind := "server", position := some "2" },
      .device { kind := "san", height := some "2" },
      .gap {},
      .device { kind := "switch", height := some "2U" }] }]

theorem RackSet.mirrors_of_layout_crowdedRack :
    (tightSizes.settings []).accept = .ok (tightSizes.settings []) ∧
    ∃ layout, crowdedRack.layout (tightSizes.settings []) = .ok layout ∧
      (layout.racks.map fun rack => rack.devices.map (·.y)) = [[10, .int (-20), 10]] ∧
      List.Forall₂ (fun layout rack => ∃ units top bottom placed area,
        RackLayout.Mirrors layout (tightSizes.settings []) 10 rack units top bottom placed area)
        layout.racks crowdedRack.racks := by
  have haccept : (tightSizes.settings []).accept = .ok (tightSizes.settings []) := by
    decide +kernel
  have hlayout : crowdedRack.layout (tightSizes.settings []) =
      .ok (crowdedRack.geometry (tightSizes.settings [])) := by
    decide +kernel
  exact ⟨haccept, _, hlayout, by decide +kernel,
    RackSet.mirrors_of_layout tightSizes [] haccept crowdedRack hlayout⟩

end RackElevation
