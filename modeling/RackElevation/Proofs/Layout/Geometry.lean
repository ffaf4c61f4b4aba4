import RackElevation.Proofs.Layout.Range

/-!
# The geometry of a rack set

A layout that is computed at all has one form: every rack stands at its own multiple of the stride,
and every device at the units of its placement.  The numbers of that form are those of an arithmetic
that never fails, so it is written down without regard to range.
-/

namespace RackElevation

open Number

/-- The number of units of a rack, the configured one without a usable height. -/
def Rack.unitNumber (settings : Settings) (rack : Rack) : Number :=
  ((leadingInteger? rack.height).map Number.int).getD settings.defaultRackHeight

/-- The geometry of a device on its units, in a rack with the given bottom edge. -/
def Device.geometry (settings : Settings) (bottom : Number) (device : Device) (p : Placement) :
    DeviceLayout where
  kind := device.kind
  unit := .int p.offset
  units := .int p.span
  x := 0
  y := bottom.minus (times (.int (p.offset + p.span)) settings.unitHeight)
  width := settings.rackWidth
  height := times (.int p.span) settings.unitHeight
  fill := settings.colorFor device.kind device.color
  href := nonempty? device.href
  label := device.label
  labelX := settings.rackWidth.halved
  labelY := p.labelLine settings.unitHeight bottom

/-- The geometry of the devices among placements. -/
def devicesGeometry (settings : Settings) (bottom : Number) (ps : List Placement) :
    List DeviceLayout :=
  ps.filterMap fun p => p.device?.map fun device => device.geometry settings bottom p

/-- A device that is drawn with the kind, the fill, the link target and the label of a given one. -/
structure DeviceLayout.ShowsDevice (d : DeviceLayout) (settings : Settings) (device : Device) :
    Prop where
  kind : d.kind = device.kind
  fill : d.fill = settings.colorFor device.kind device.color
  href : d.href = nonempty? device.href
  label : d.label = device.label

/-- The geometry of a rack at an offset. -/
def Rack.geometry (settings : Settings) (rack : Rack) (units xOffset : Number) : RackLayout where
  name := nonempty? rack.name
  xOffset := xOffset
  units := units
  bodyX := 0
  bodyY := settings.margin
  bodyWidth := settings.rackWidth
  bodyHeight := units.times settings.unitHeight
  labelX := settings.rackWidth.halved
  labelY := settings.margin.halved
  devices := devicesGeometry settings (settings.margin.plus (units.times settings.unitHeight))
    (placements rack.slots)

/-- The geometry of racks from an offset to the right, one stride apart. -/
def racksGeometry (settings : Settings) (xOffset : Number) (racks : List Rack) :
    List RackLayout :=
  racks.mapIdx fun i rack =>
    rack.geometry settings (rack.unitNumber settings) ((plus · settings.stride)^[i] xOffset)

/-- The geometry of a rack set. -/
def RackSet.geometry (settings : Settings) (set : RackSet) : Layout where
  width := settings.fullWidth set.racks.length
  height := (times 2 settings.margin).plus
    (settings.unitHeight.times (maximum (set.racks.map (Rack.unitNumber settings))))
  racks := racksGeometry settings settings.margin set.racks

variable {settings : Settings}

/-- The first of some racks stands at the offset, and the others one stride further. -/
theorem racksGeometry_cons (xOffset : Number) (rack : Rack) (racks : List Rack) :
    racksGeometry settings xOffset (rack :: racks) =
      rack.geometry settings (rack.unitNumber settings) xOffset ::
        racksGeometry settings (xOffset.plus settings.stride) racks :=
  List.mapIdx_cons

/-- Each rack of a set has its own geometry, at the offset of its place. -/
theorem RackSet.getElem?_racks_geometry (set : RackSet) (i : ℕ) :
    (set.geometry settings).racks[i]? = set.racks[i]?.map fun rack =>
      rack.geometry settings (rack.unitNumber settings) (settings.offsetOf i) :=
  List.getElem?_mapIdx

/-- Racks on the right start as many strides further as there are racks on the left. -/
theorem racksGeometry_append (xOffset : Number) (left right : List Rack) :
    racksGeometry settings xOffset (left ++ right) = racksGeometry settings xOffset left ++
      racksGeometry settings ((plus · settings.stride)^[left.length] xOffset) right := by
  -- each rack on the left moves the first offset by one stride
  induction left generalizing xOffset with
  | nil => rfl
  | cons rack left ih =>
      rw [List.cons_append, racksGeometry_cons, ih, racksGeometry_cons, List.length_cons,
        Function.iterate_succ_apply, List.cons_append]

/-- A rack stands as many strides from the first offset as there are racks on its left. -/
theorem racksGeometry_append_cons (xOffset : Number) (left : List Rack) (rack : Rack)
    (right : List Rack) :
    racksGeometry settings xOffset (left ++ rack :: right) =
      racksGeometry settings xOffset left ++
        rack.geometry settings (rack.unitNumber settings)
          ((plus · settings.stride)^[left.length] xOffset) ::
        racksGeometry settings
          (((plus · settings.stride)^[left.length] xOffset).plus settings.stride) right := by
  rw [racksGeometry_append, racksGeometry_cons]

theorem length_racksGeometry (xOffset : Number) (racks : List Rack) :
    (racksGeometry settings xOffset racks).length = racks.length :=
  List.length_mapIdx

/-- The devices of placements in a row are those of the parts of the row. -/
theorem devicesGeometry_append (bottom : Number) (ps qs : List Placement) :
    devicesGeometry settings bottom (ps ++ qs) =
      devicesGeometry settings bottom ps ++ devicesGeometry settings bottom qs :=
  List.filterMap_append

/-- The placement of a device gives the first device. -/
theorem devicesGeometry_cons_of_device {p : Placement} {device : Device}
    (h : p.device? = some device) (bottom : Number) (ps : List Placement) :
    devicesGeometry settings bottom (p :: ps) =
      device.geometry settings bottom p :: devicesGeometry settings bottom ps := by
  rw [devicesGeometry, List.filterMap_cons, h]
  rfl

/-- There are as many devices among placements as among their slots. -/
theorem length_devicesGeometry (bottom : Number) (ps : List Placement) :
    (devicesGeometry settings bottom ps).length =
      ((ps.map Placement.slot).filterMap Slot.device?).length := by
  simp only [devicesGeometry, List.filterMap_map, List.length_filterMap_eq_countP,
    Option.isSome_map]
  rfl

/-- The geometry of a device shows that device. -/
theorem Device.showsDevice_geometry (settings : Settings) (bottom : Number) (device : Device)
    (p : Placement) : (device.geometry settings bottom p).ShowsDevice settings device :=
  ⟨rfl, rfl, rfl, rfl⟩

/-- The devices of placements are the geometries of those placements that hold a device. -/
theorem mem_devicesGeometry {bottom : Number} {ps : List Placement} {d : DeviceLayout} :
    d ∈ devicesGeometry settings bottom ps ↔
      ∃ p ∈ ps, ∃ device, p.device? = some device ∧ device.geometry settings bottom p = d := by
  simp only [devicesGeometry, List.mem_filterMap, Option.map_eq_some_iff]

/-- The racks of a layout have the numbers of units of the racks that they show. -/
theorem map_units_racksGeometry (xOffset : Number) (racks : List Rack) :
    (racksGeometry settings xOffset racks).map (·.units) =
      racks.map (Rack.unitNumber settings) := by
  -- the offset of a rack changes nothing about its number of units
  induction racks generalizing xOffset with
  | nil => rfl
  | cons rack racks ih => rw [racksGeometry_cons, List.map_cons, ih, List.map_cons, Rack.geometry]

section Fallback

variable {fallback : ℤ}

/-- Where the configured rack height is an integer, the number of units of a rack is one. -/
theorem Rack.unitNumber_eq_int (hdefault : settings.defaultRackHeight = .int fallback)
    (rack : Rack) : rack.unitNumber settings = .int (rack.units fallback) := by
  rw [unitNumber, units, hdefault]
  cases leadingInteger? rack.height <;> rfl

/-- Where the configured rack height is an integer, the numbers of units are integers. -/
theorem map_unitNumber_eq_int (hdefault : settings.defaultRackHeight = .int fallback)
    (racks : List Rack) :
    racks.map (Rack.unitNumber settings) = (racks.map (Rack.units fallback)).map Number.int := by
  rw [List.map_map]
  exact List.map_congr_left fun rack _ => rack.unitNumber_eq_int hdefault

/-- Where the configured rack height is an integer, the tallest rack is the one with the most units.
-/
theorem RackSet.maximum_unitNumber (hdefault : settings.defaultRackHeight = .int fallback)
    (set : RackSet) :
    maximum (set.racks.map (Rack.unitNumber settings)) = .int (set.tallest fallback) := by
  rw [map_unitNumber_eq_int hdefault, maximum_int, tallest]

end Fallback

/-- The tallest rack of a layout is the tallest rack of the set that it shows. -/
theorem RackSet.tallest_geometry (settings : Settings) (set : RackSet) :
    (set.geometry settings).tallest = maximum (set.racks.map (Rack.unitNumber settings)) := by
  rw [Layout.tallest, geometry, map_units_racksGeometry]

/-- The units of a rack are counted when its height is readable. -/
theorem Rack.unitCount_eq_ok_iff (rack : Rack) (n : Number) :
    rack.unitCount settings = .ok n ↔ IsReadable rack.height ∧ rack.unitNumber settings = n := by
  simp only [Rack.unitCount, bind_eq_ok, leadingPositive?_eq_ok, Rack.unitNumber]
  constructor
  · rintro ⟨_, ⟨hreadable, rfl⟩, h⟩
    refine ⟨hreadable, ?_⟩
    -- without a number of its own the rack takes the configured one
    cases hheight : leadingInteger? rack.height with
    | none =>
        rw [hheight] at h
        exact pure_eq_ok.1 h
    | some m =>
        rw [hheight] at h
        exact pure_eq_ok.1 h
  · rintro ⟨hreadable, rfl⟩
    refine ⟨_, ⟨hreadable, rfl⟩, ?_⟩
    cases leadingInteger? rack.height <;> rfl

/-! ## When there is a layout -/

/-- A placement whose geometry is computed, in a rack with the given bottom edge. -/
structure Placement.HasGeometry (settings : Settings) (bottom : Number) (p : Placement) :
    Prop where
  rise : mul (.int (p.offset + p.span)) settings.unitHeight =
    .ok (times (.int (p.offset + p.span)) settings.unitHeight)
  top : bottom.sub (times (.int (p.offset + p.span)) settings.unitHeight) =
    .ok (bottom.minus (times (.int (p.offset + p.span)) settings.unitHeight))
  height : mul (.int p.span) settings.unitHeight = .ok (times (.int p.span) settings.unitHeight)
  labelX : settings.rackWidth.half = .ok settings.rackWidth.halved
  half : (times (.int p.span) settings.unitHeight).half =
    .ok (times (.int p.span) settings.unitHeight).halved
  labelY : (bottom.minus (times (.int (p.offset + p.span)) settings.unitHeight)).add
    (times (.int p.span) settings.unitHeight).halved =
      .ok (p.labelLine settings.unitHeight bottom)

/-- A rack of a number of units whose geometry is computed. -/
structure Rack.HasGeometry (settings : Settings) (rack : Rack) (units : Number) : Prop where
  height : units.mul settings.unitHeight = .ok (units.times settings.unitHeight)
  bottom : settings.margin.add (units.times settings.unitHeight) =
    .ok (settings.margin.plus (units.times settings.unitHeight))
  slots : ∀ slot ∈ rack.slots, slot.IsReadable
  devices : ∀ p ∈ placements rack.slots, p.device?.isSome = true →
    p.HasGeometry settings (settings.margin.plus (units.times settings.unitHeight))
  labelX : settings.rackWidth.half = .ok settings.rackWidth.halved
  labelY : settings.margin.half = .ok settings.margin.halved

/-- Offsets that are computed for a number of racks, and for a further one. -/
def Settings.HasOffsets (settings : Settings) (xOffset : Number) (racks : ℕ) : Prop :=
  ∀ i < racks, settings.nextOffset ((plus · settings.stride)^[i] xOffset) =
    .ok ((plus · settings.stride)^[i + 1] xOffset)

/-- A rack set whose geometry is computed. -/
structure RackSet.HasGeometry (settings : Settings) (set : RackSet) : Prop where
  units : ∀ rack ∈ set.racks, IsReadable rack.height
  width : settings.canvasWidth set.racks.length = .ok (set.geometry settings).width
  height : settings.canvasHeight (maximum (set.racks.map (Rack.unitNumber settings))) =
    .ok (set.geometry settings).height
  racks : ∀ rack ∈ set.racks, rack.HasGeometry settings (rack.unitNumber settings)
  offsets : settings.HasOffsets settings.margin set.racks.length

/-- A device is laid out when its geometry is computed, and then it has that geometry. -/
theorem Device.layout_eq_ok_iff {bottom : Number} {device : Device} {p : Placement}
    {d : DeviceLayout} :
    device.layout settings bottom p.offset p.span = .ok d ↔
      p.HasGeometry settings bottom ∧ device.geometry settings bottom p = d := by
  simp only [Device.layout, bind_eq_ok, pure_eq_ok, (computes_mul _ _).exists_ok_iff,
    (computes_sub _ _).exists_ok_iff, (computes_half _).exists_ok_iff,
    (computes_add _ _).exists_ok_iff]
  constructor
  · rintro ⟨hrise, htop, hheight, hlabelX, hhalf, hlabelY, rfl⟩
    exact ⟨⟨hrise, htop, hheight, hlabelX, hhalf, hlabelY⟩, rfl⟩
  · rintro ⟨h, rfl⟩
    exact ⟨h.rise, h.top, h.height, h.labelX, h.half, h.labelY, rfl⟩

/-- Placements are laid out when the geometry of every device among them is computed; gaps compute
nothing. -/
theorem layoutDevices_eq_ok_iff {bottom : Number} {ps : List Placement} {ds : List DeviceLayout} :
    layoutDevices settings bottom ps = .ok ds ↔
      (∀ p ∈ ps, p.device?.isSome = true → p.HasGeometry settings bottom) ∧
        devicesGeometry settings bottom ps = ds := by
  induction ps generalizing ds with
  | nil =>
      refine ⟨fun h => ⟨fun _ hp => absurd hp List.not_mem_nil, Except.ok.inj h⟩, ?_⟩
      exact fun h => congrArg Except.ok h.2
  | cons p ps ih =>
      rw [layoutDevices, List.forall_mem_cons, devicesGeometry, List.filterMap_cons,
        ← devicesGeometry]
      cases hdevice : p.device? with
      -- a gap takes its units and leaves no device
      | none =>
          simp only [Option.isSome_none, Bool.false_eq_true, false_implies, true_and]
          exact ih
      | some device =>
          simp only [Option.isSome_some, true_implies, bind_eq_ok, pure_eq_ok,
            Device.layout_eq_ok_iff, ih]
          constructor
          · rintro ⟨_, ⟨hp, rfl⟩, _, ⟨hps, rfl⟩, rfl⟩
            exact ⟨⟨hp, hps⟩, rfl⟩
          · rintro ⟨⟨hp, hps⟩, rfl⟩
            exact ⟨_, ⟨hp, rfl⟩, _, ⟨hps, rfl⟩, rfl⟩

/-- A rack is laid out when its geometry is computed, and then it has that geometry. -/
theorem Rack.layout_eq_ok_iff {rack : Rack} {units xOffset : Number} {r : RackLayout} :
    rack.layout settings units xOffset = .ok r ↔
      rack.HasGeometry settings units ∧ rack.geometry settings units xOffset = r := by
  simp only [Rack.layout, bind_eq_ok, pure_eq_ok, (computes_mul _ _).exists_ok_iff,
    (computes_half _).exists_ok_iff, (computes_add _ _).exists_ok_iff, placeSlots_eq_ok,
    layoutDevices_eq_ok_iff]
  constructor
  · rintro ⟨hheight, hbottom, _, ⟨hslots, rfl⟩, _, ⟨hdevices, rfl⟩, hlabelX, hlabelY, rfl⟩
    exact ⟨⟨hheight, hbottom, hslots, hdevices, hlabelX, hlabelY⟩, rfl⟩
  · rintro ⟨h, rfl⟩
    exact ⟨h.height, h.bottom, _, ⟨h.slots, rfl⟩, _, ⟨h.devices, rfl⟩, h.labelX, h.labelY, rfl⟩

/-- The offsets of some racks are computed when the next one is and the others are from there on. -/
theorem Settings.hasOffsets_succ_iff {xOffset : Number} {k : ℕ} :
    settings.HasOffsets xOffset (k + 1) ↔
      settings.nextOffset xOffset = .ok (xOffset.plus settings.stride) ∧
        settings.HasOffsets (xOffset.plus settings.stride) k :=
  Nat.forall_lt_succ_left

/-- Racks are laid out when the geometry of each is computed and so are all offsets, one past the
last rack included. -/
theorem layoutRacks_eq_ok_iff {racks : List Rack} {xOffset : Number} {rs : List RackLayout} :
    layoutRacks settings xOffset (racks.map fun rack => (rack, rack.unitNumber settings)) =
        .ok rs ↔
      (∀ rack ∈ racks, rack.HasGeometry settings (rack.unitNumber settings)) ∧
        settings.HasOffsets xOffset racks.length ∧ racksGeometry settings xOffset racks = rs := by
  induction racks generalizing xOffset rs with
  | nil =>
      refine ⟨fun h => ⟨fun _ hrack => absurd hrack List.not_mem_nil,
        fun _ hi => absurd hi (Nat.not_lt_zero _), Except.ok.inj h⟩, ?_⟩
      exact fun h => congrArg Except.ok h.2.2
  | cons rack racks ih =>
      -- the offset after the last rack is computed as well, so each rack asks for one more
      simp only [List.map_cons, layoutRacks, bind_eq_ok, pure_eq_ok, Rack.layout_eq_ok_iff,
        (Settings.computes_nextOffset _).exists_ok_iff, ih, List.forall_mem_cons,
        List.length_cons, Settings.hasOffsets_succ_iff, racksGeometry_cons]
      constructor
      · rintro ⟨_, ⟨hrack, rfl⟩, hnext, _, ⟨hracks, hoffsets, rfl⟩, rfl⟩
        exact ⟨⟨hrack, hracks⟩, ⟨hnext, hoffsets⟩, rfl⟩
      · rintro ⟨⟨hrack, hracks⟩, ⟨hnext, hoffsets⟩, rfl⟩
        exact ⟨_, ⟨hrack, rfl⟩, hnext, _, ⟨hracks, hoffsets, rfl⟩, rfl⟩

/-- A rack set has a layout exactly when its geometry is computed, and then this is the layout. -/
theorem RackSet.layout_eq_ok_iff {set : RackSet} {layout : Layout} :
    set.layout settings = .ok layout ↔
      set.HasGeometry settings ∧ set.geometry settings = layout := by
  simp only [RackSet.layout, Settings.canvasSize, bind_eq_ok, pure_eq_ok,
    mapM_eq_ok_of_iff Rack.unitCount_eq_ok_iff, (Settings.computes_canvasWidth _).exists_ok_iff,
    (Settings.computes_canvasHeight_number _).exists_ok_iff]
  constructor
  -- the units are counted before the canvas, and the canvas is measured before any rack
  · rintro ⟨_, ⟨hunits, rfl⟩, _, ⟨hwidth, hheight, rfl⟩, rs, hrs, rfl⟩
    rw [← List.map_prod_left_eq_zip] at hrs
    obtain ⟨hracks, hoffsets, rfl⟩ := layoutRacks_eq_ok_iff.1 hrs
    exact ⟨⟨hunits, hwidth, hheight, hracks, hoffsets⟩, rfl⟩
  · rintro ⟨h, rfl⟩
    refine ⟨_, ⟨h.units, rfl⟩, _, ⟨h.width, h.height, rfl⟩, _, ?_, rfl⟩
    rw [← List.map_prod_left_eq_zip]
    exact layoutRacks_eq_ok_iff.2 ⟨h.racks, h.offsets, rfl⟩

/-- Every layout that is computed has the geometry of its rack set, and all slots of the racks are
readable. -/
theorem RackSet.eq_geometry_of_layout {set : RackSet} {layout : Layout}
    (h : set.layout settings = .ok layout) :
    (∀ rack ∈ set.racks, ∀ slot ∈ rack.slots, slot.IsReadable) ∧
      layout = set.geometry settings := by
  obtain ⟨hgeometry, rfl⟩ := RackSet.layout_eq_ok_iff.1 h
  exact ⟨fun rack hrack => (hgeometry.racks rack hrack).slots, rfl⟩

end RackElevation
