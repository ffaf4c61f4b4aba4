import RackElevation.Proofs.Layout.Geometry
import RackElevation.Proofs.Rack.Shifting

/-!
# Geometry and appearance

What a device looks like does not matter for where it is: kinds, fills, link targets and labels are
only copied into a layout.  And a device matters for the other slots only by the units it takes, so
a gap of its position and height can stand in for it.
-/

namespace RackElevation

open Number

/-! ## Rack sets and layouts that differ in appearance -/

/-- Two devices, or twice the same gap, at the same position and height. -/
inductive Slot.SameRoom : Slot → Slot → Prop
  | device {device device' : Device} (position : device'.position = device.position)
      (height : device'.height = device.height) : SameRoom (.device device) (.device device')
  | gap (gap : Gap) : SameRoom (.gap gap) (.gap gap)

/-- Racks of the same name and height, with the same gaps and with devices in the same places. -/
structure Rack.SameRoom (rack rack' : Rack) : Prop where
  name : rack'.name = rack.name
  height : rack'.height = rack.height
  slots : List.Forall₂ Slot.SameRoom rack.slots rack'.slots

/-- Rack sets that differ at most in the kinds, colors, link targets and labels of devices. -/
def RackSet.SameRoom (set set' : RackSet) : Prop :=
  List.Forall₂ Rack.SameRoom set.racks set'.racks

/-- Devices that differ at most in kind, fill, link target and label. -/
structure DeviceLayout.SameGeometry (d d' : DeviceLayout) : Prop where
  unit : d'.unit = d.unit
  units : d'.units = d.units
  x : d'.x = d.x
  y : d'.y = d.y
  width : d'.width = d.width
  height : d'.height = d.height
  labelX : d'.labelX = d.labelX
  labelY : d'.labelY = d.labelY

/-- Racks that differ at most in the appearance of their devices. -/
structure RackLayout.SameGeometry (rack rack' : RackLayout) : Prop where
  own : rack' = { rack with devices := rack'.devices }
  devices : List.Forall₂ DeviceLayout.SameGeometry rack.devices rack'.devices

/-- Layouts that differ at most in the appearance of devices. -/
structure Layout.SameGeometry (layout layout' : Layout) : Prop where
  width : layout'.width = layout.width
  height : layout'.height = layout.height
  racks : List.Forall₂ RackLayout.SameGeometry layout.racks layout'.racks

/-- What holds of all members of a list, carried over to the related ones. -/
theorem forall_mem_of_forall₂ {α β : Type} {r : α → β → Prop} {p : α → Prop} {q : β → Prop}
    {as : List α} {bs : List β} (h : List.Forall₂ r as bs) (hr : ∀ a b, r a b → p a → q b)
    (hp : ∀ a ∈ as, p a) : ∀ b ∈ bs, q b := by
  induction h with
  | nil => exact fun _ hb => absurd hb List.not_mem_nil
  | cons hab _ ih =>
      obtain ⟨ha, has⟩ := List.forall_mem_cons.1 hp
      exact List.forall_mem_cons.2 ⟨hr _ _ hab ha, ih has⟩

/-! ## Slots -/

section Slots

variable {slot slot' : Slot}

namespace Slot.SameRoom

theorem position_eq (h : slot.SameRoom slot') : slot'.position = slot.position := by
  cases h with
  | device hposition _ => exact hposition
  | gap _ => rfl

theorem height_eq (h : slot.SameRoom slot') : slot'.height = slot.height := by
  cases h with
  | device _ hheight => exact hheight
  | gap _ => rfl

end Slot.SameRoom

/-- Whether a slot is readable depends on its position and its height only. -/
theorem Slot.IsReadable.of_eq (h : slot.IsReadable) (hposition : slot'.position = slot.position)
    (hheight : slot'.height = slot.height) : slot'.IsReadable :=
  ⟨hposition ▸ h.position, hheight ▸ h.height⟩

/-- A slot is placed by its position and its height. -/
theorem Slot.placed_of_eq (hposition : slot'.position = slot.position)
    (hheight : slot'.height = slot.height) (cursor : ℤ) :
    slot'.placed cursor = { slot.placed cursor with slot := slot' } := by
  rw [placed, placed, hposition, hheight]

end Slots

/-! ## Racks in another appearance -/

section Appearance

variable {settings : Settings} {colors : ColorTable}

/-- Placements on the same units, of slots that take the same room. -/
structure Placement.SameRoom (p p' : Placement) : Prop where
  slot : p.slot.SameRoom p'.slot
  offset : p'.offset = p.offset
  span : p'.span = p.span

/-- The cursor does not see what devices look like. -/
theorem forall₂_placementsFrom {slots slots' : List Slot}
    (h : List.Forall₂ Slot.SameRoom slots slots') (cursor : ℤ) :
    List.Forall₂ Placement.SameRoom (placementsFrom cursor slots)
      (placementsFrom cursor slots') := by
  induction h generalizing cursor with
  | nil => exact .nil
  | @cons slot slot' slots slots' hslot _ ih =>
      have hplaced := Slot.placed_of_eq hslot.position_eq hslot.height_eq cursor
      have hstop : (slot'.placed cursor).stop = (slot.placed cursor).stop := by
        rw [hplaced, Placement.stop, Placement.stop]
      rw [placementsFrom, placementsFrom, hstop]
      refine .cons ⟨hslot, ?_, ?_⟩ (ih _) <;> rw [hplaced]

/-- Slots that take the same room are placed on the same units. -/
theorem forall₂_placements {slots slots' : List Slot}
    (h : List.Forall₂ Slot.SameRoom slots slots') :
    List.Forall₂ Placement.SameRoom (placements slots) (placements slots') :=
  forall₂_placementsFrom (List.forall₂_reverse_iff.2 h) 0

/-- Whether the geometry of a placement is computed depends on the room it takes only. -/
theorem Placement.SameRoom.hasGeometry {bottom : Number} {p p' : Placement} (h : p.SameRoom p')
    (hp : p.HasGeometry settings bottom) :
    p'.HasGeometry { settings with colors := colors } bottom := by
  obtain ⟨slot, offset, span⟩ := p
  obtain ⟨slot', _, _⟩ := p'
  obtain ⟨-, rfl, rfl⟩ := h
  exact ⟨hp.rise, hp.top, hp.height, hp.labelX, hp.half, hp.labelY⟩

/-- Placements on the same units give devices of the same geometry, whatever the fills are. -/
theorem forall₂_sameGeometry_devicesGeometry {bottom : Number} {ps ps' : List Placement}
    (h : List.Forall₂ Placement.SameRoom ps ps') :
    List.Forall₂ DeviceLayout.SameGeometry (devicesGeometry settings bottom ps)
      (devicesGeometry { settings with colors := colors } bottom ps') := by
  induction h with
  | nil => exact .nil
  | @cons p p' ps ps' hp _ ih =>
      obtain ⟨slot, offset, span⟩ := p
      obtain ⟨slot', _, _⟩ := p'
      obtain ⟨hslot, rfl, rfl⟩ := hp
      cases hslot with
      | device _ _ => exact .cons ⟨rfl, rfl, rfl, rfl, rfl, rfl, rfl, rfl⟩ ih
      | gap _ => exact ih

/-- Slots that take the same room are both devices or both gaps. -/
theorem Slot.SameRoom.isSome_device?_eq {slot slot' : Slot} (h : slot.SameRoom slot') :
    slot'.device?.isSome = slot.device?.isSome := by
  cases h <;> rfl

namespace Rack.SameRoom

variable {rack rack' : Rack}

/-- Racks that take the same room have the same number of units. -/
theorem unitNumber_eq (h : rack.SameRoom rack') :
    rack'.unitNumber { settings with colors := colors } = rack.unitNumber settings := by
  rw [unitNumber, unitNumber, h.height]

/-- If the geometry of a rack is computed, so is that of a rack that takes the same room. -/
theorem hasGeometry (h : rack.SameRoom rack') {units : Number}
    (hrack : rack.HasGeometry settings units) :
    rack'.HasGeometry { settings with colors := colors } units where
  height := hrack.height
  bottom := hrack.bottom
  slots := forall_mem_of_forall₂ h.slots
    (fun _ _ hslot hread => hread.of_eq hslot.position_eq hslot.height_eq) hrack.slots
  devices := by
    refine forall_mem_of_forall₂ (forall₂_placements h.slots) (fun p p' hp hgeometry hsome => ?_)
      hrack.devices
    exact hp.hasGeometry (hgeometry (hp.slot.isSome_device?_eq.symm.trans hsome))
  labelX := hrack.labelX
  labelY := hrack.labelY

/-- Racks that take the same room have the same geometry at any offset. -/
theorem sameGeometry (h : rack.SameRoom rack') (units xOffset : Number) :
    (rack.geometry settings units xOffset).SameGeometry
      (rack'.geometry { settings with colors := colors } units xOffset) where
  own := by rw [Rack.geometry, Rack.geometry, h.name]
  devices := forall₂_sameGeometry_devicesGeometry (forall₂_placements h.slots)

end Rack.SameRoom

/-- Racks that take the same room have the same geometry one by one, from any offset on. -/
theorem forall₂_sameGeometry_racksGeometry {racks racks' : List Rack}
    (h : List.Forall₂ Rack.SameRoom racks racks') (xOffset : Number) :
    List.Forall₂ RackLayout.SameGeometry (racksGeometry settings xOffset racks)
      (racksGeometry { settings with colors := colors } xOffset racks') := by
  induction h generalizing xOffset with
  | nil => exact .nil
  | cons hrack _ ih =>
      rw [racksGeometry_cons, racksGeometry_cons, hrack.unitNumber_eq]
      exact .cons (hrack.sameGeometry _ _) (ih _)

namespace RackSet.SameRoom

variable {set set' : RackSet}

/-- Rack sets that take the same room have racks of the same numbers of units. -/
theorem map_unitNumber_eq (h : set.SameRoom set') :
    set'.racks.map (Rack.unitNumber { settings with colors := colors }) =
      set.racks.map (Rack.unitNumber settings) := by
  rw [← List.forall₂_eq_eq_eq, List.forall₂_map_left_iff, List.forall₂_map_right_iff]
  exact h.flip.imp fun _ _ hrack => hrack.unitNumber_eq

/-- Rack sets that take the same room have the same geometry. -/
theorem sameGeometry (h : set.SameRoom set') :
    (set.geometry settings).SameGeometry
      (set'.geometry { settings with colors := colors }) where
  width := by rw [geometry, ← h.length_eq]; rfl
  height := by rw [geometry, h.map_unitNumber_eq]; rfl
  racks := forall₂_sameGeometry_racksGeometry h settings.margin

/-- If the geometry of a rack set is computed, so is that of a rack set that takes the same room. -/
theorem hasGeometry (h : set.SameRoom set') (hset : set.HasGeometry settings) :
    set'.HasGeometry { settings with colors := colors } where
  units := forall_mem_of_forall₂ h (fun _ _ hrack hread => hrack.height ▸ hread) hset.units
  width := by rw [h.sameGeometry.width, ← h.length_eq]; exact hset.width
  height := by rw [h.sameGeometry.height, h.map_unitNumber_eq]; exact hset.height
  racks := forall_mem_of_forall₂ h
    (fun _ _ hrack hgeometry => hrack.unitNumber_eq ▸ hrack.hasGeometry hgeometry) hset.racks
  offsets := by rw [← h.length_eq]; exact hset.offsets

end RackSet.SameRoom

/-! ## A gap in place of a device -/

/-- A gap at the position and height of a device. -/
def Device.vacancy (device : Device) : Gap where
  position := device.position
  height := device.height

/-- The slots below a slot are placed before it, and those above it go on from where it ends. -/
theorem placements_append_cons (above : List Slot) (slot : Slot) (below : List Slot) :
    placements (above ++ slot :: below) = placements below ++
      slot.placed (cursorAfter 0 (placements below)) ::
        placementsFrom (slot.placed (cursorAfter 0 (placements below))).stop above.reverse := by
  rw [placements, List.reverse_append, List.reverse_cons, List.append_assoc, List.singleton_append,
    placementsFrom_append, ← placements, placementsFrom]

/-- A device and its vacancy leave the same cursor, so the slots above lie on the same units. -/
theorem exists_placements_vacancy (above : List Slot) (device : Device) (below : List Slot) :
    ∃ low p high, placements (above ++ .device device :: below) = low ++ p :: high ∧
      placements (above ++ .gap device.vacancy :: below) =
        low ++ { p with slot := .gap device.vacancy } :: high ∧
      p.device? = some device ∧ low.map Placement.slot = below.reverse := by
  have hplaced := @Slot.placed_of_eq (.device device) (.gap device.vacancy) rfl rfl
    (cursorAfter 0 (placements below))
  refine ⟨_, _, _, placements_append_cons above (.device device) below, ?_, rfl,
    map_slot_placementsFrom 0 below.reverse⟩
  rw [placements_append_cons, hplaced]
  rfl

/-- A rack in which a device has made way for a gap. -/
def Rack.vacate (rack : Rack) (above : List Slot) (device : Device) (below : List Slot) : Rack :=
  { rack with slots := above ++ .gap device.vacancy :: below }

section Vacancy

variable {rack : Rack} {above below : List Slot} {device : Device} {units : Number}

/-- A rack whose geometry is computed keeps it when a device makes way for a gap. -/
theorem Rack.hasGeometry_vacate (hslots : rack.slots = above ++ .device device :: below)
    (hrack : rack.HasGeometry settings units) :
    (rack.vacate above device below).HasGeometry settings units where
  height := hrack.height
  bottom := hrack.bottom
  slots := by
    have hread := hrack.slots
    rw [hslots] at hread
    obtain ⟨habove, hread⟩ := List.forall_mem_append.1 hread
    obtain ⟨hdevice, hbelow⟩ := List.forall_mem_cons.1 hread
    exact List.forall_mem_append.2
      ⟨habove, List.forall_mem_cons.2 ⟨hdevice.of_eq rfl rfl, hbelow⟩⟩
  devices := by
    obtain ⟨low, p, high, hrow, hrow', -, -⟩ := exists_placements_vacancy above device below
    have hdevices := hrack.devices
    rw [hslots, hrow] at hdevices
    obtain ⟨hlow, hdevices⟩ := List.forall_mem_append.1 hdevices
    obtain ⟨-, hhigh⟩ := List.forall_mem_cons.1 hdevices
    rw [vacate, hrow']
    -- the gap is no device, and nothing is computed for it
    exact List.forall_mem_append.2
      ⟨hlow, List.forall_mem_cons.2 ⟨fun hgap => absurd hgap Bool.false_ne_true, hhigh⟩⟩
  labelX := hrack.labelX
  labelY := hrack.labelY

/-- When a device makes way for a gap, the devices below it and those above it stay as they are. -/
theorem exists_devicesGeometry_vacancy (settings : Settings) (bottom : Number)
    (above : List Slot) (device : Device) (below : List Slot) :
    ∃ earlier d later,
      devicesGeometry settings bottom (placements (above ++ .device device :: below)) =
        earlier ++ d :: later ∧
      devicesGeometry settings bottom (placements (above ++ .gap device.vacancy :: below)) =
        earlier ++ later ∧
      earlier.length = (below.filterMap Slot.device?).length ∧ d.ShowsDevice settings device := by
  obtain ⟨low, p, high, hrow, hrow', hdevice, hlow⟩ :=
    exists_placements_vacancy above device below
  refine ⟨devicesGeometry settings bottom low, device.geometry settings bottom p,
    devicesGeometry settings bottom high, ?_, ?_, ?_, device.showsDevice_geometry settings bottom p⟩
  · rw [hrow, devicesGeometry_append, devicesGeometry_cons_of_device hdevice]
  · rw [hrow', devicesGeometry_append]
    rfl
  · rw [length_devicesGeometry, hlow, List.filterMap_reverse, List.length_reverse]

/-- A rack in which a device has made way for a gap is the same rack without that device. -/
theorem Rack.exists_geometry_vacate (hslots : rack.slots = above ++ .device device :: below)
    (settings : Settings) (units xOffset : Number) :
    ∃ earlier d later, (rack.geometry settings units xOffset).devices = earlier ++ d :: later ∧
      earlier.length = (below.filterMap Slot.device?).length ∧ d.ShowsDevice settings device ∧
      (rack.vacate above device below).geometry settings units xOffset =
        { rack.geometry settings units xOffset with devices := earlier ++ later } := by
  obtain ⟨earlier, d, later, hrow, hrow', hlength, hshows⟩ :=
    exists_devicesGeometry_vacancy settings
      (settings.margin.plus (units.times settings.unitHeight)) above device below
  refine ⟨earlier, d, later, ?_, hlength, hshows, ?_⟩
  · rw [geometry, hslots, hrow]
  · rw [geometry, vacate, hrow']
    rfl

theorem Rack.unitNumber_vacate (settings : Settings) :
    (rack.vacate above device below).unitNumber settings = rack.unitNumber settings := rfl

end Vacancy

/-- A rack set whose geometry is computed keeps it when a device makes way for a gap. -/
theorem RackSet.hasGeometry_vacate {left right : List Rack} {rack : Rack} {above below : List Slot}
    {device : Device} (hslots : rack.slots = above ++ .device device :: below)
    (h : RackSet.HasGeometry settings ⟨left ++ rack :: right⟩) :
    RackSet.HasGeometry settings ⟨left ++ rack.vacate above device below :: right⟩ where
  units := by
    obtain ⟨hleft, h⟩ := List.forall_mem_append.1 h.units
    obtain ⟨hrack, hright⟩ := List.forall_mem_cons.1 h
    exact List.forall_mem_append.2 ⟨hleft, List.forall_mem_cons.2 ⟨hrack, hright⟩⟩
  width := by
    simpa only [geometry, List.length_append, List.length_cons] using h.width
  height := by
    simpa only [geometry, List.map_append, List.map_cons, Rack.unitNumber_vacate] using h.height
  racks := by
    obtain ⟨hleft, h⟩ := List.forall_mem_append.1 h.racks
    obtain ⟨hrack, hright⟩ := List.forall_mem_cons.1 h
    exact List.forall_mem_append.2
      ⟨hleft, List.forall_mem_cons.2 ⟨Rack.hasGeometry_vacate hslots hrack, hright⟩⟩
  offsets := by
    simpa only [List.length_append, List.length_cons] using h.offsets

/-- A rack set in which a device has made way for a gap is laid out as before, without that device.
-/
theorem RackSet.exists_geometry_vacate {rack : Rack} {above below : List Slot} {device : Device}
    (hslots : rack.slots = above ++ .device device :: below) (settings : Settings)
    (left right : List Rack) :
    ∃ leftRacks r rightRacks earlier d later,
      (RackSet.geometry settings ⟨left ++ rack :: right⟩).racks = leftRacks ++ r :: rightRacks ∧
      leftRacks.length = left.length ∧ r.devices = earlier ++ d :: later ∧
      earlier.length = (below.filterMap Slot.device?).length ∧ d.ShowsDevice settings device ∧
      RackSet.geometry settings ⟨left ++ rack.vacate above device below :: right⟩ =
        { RackSet.geometry settings ⟨left ++ rack :: right⟩ with
          racks := leftRacks ++ { r with devices := earlier ++ later } :: rightRacks } := by
  obtain ⟨earlier, d, later, hdevices, hlength, hshows, hvacate⟩ :=
    Rack.exists_geometry_vacate hslots settings (rack.unitNumber settings)
      ((plus · settings.stride)^[left.length] settings.margin)
  refine ⟨_, _, _, earlier, d, later, racksGeometry_append_cons settings.margin left rack right,
    length_racksGeometry settings.margin left, hdevices, hlength, hshows, ?_⟩
  simp only [geometry, List.length_append, List.length_cons, List.map_append, List.map_cons,
    Rack.unitNumber_vacate, racksGeometry_append_cons, hvacate]

end Appearance

/-- Two things that appearance does not do to a layout.  With devices of other kinds, colors, link
targets and labels, and with another table of fills, all positions and sizes stay as they are.  And
a gap in place of a device takes that device out of the layout and leaves all others where they
are. -/
theorem RackSet.layout_of_appearance {settings : Settings} {set : RackSet} {layout : Layout}
    (h : set.layout settings = .ok layout) :
    (∀ colors set', set.SameRoom set' →
      ∃ layout', set'.layout { settings with colors := colors } = .ok layout' ∧
        layout.SameGeometry layout') ∧
    ∀ left rack right above device below, set.racks = left ++ rack :: right →
      rack.slots = above ++ .device device :: below →
        ∃ leftRacks r rightRacks earlier d later,
          layout.racks = leftRacks ++ r :: rightRacks ∧ leftRacks.length = left.length ∧
          r.devices = earlier ++ d :: later ∧
          earlier.length = (below.filterMap Slot.device?).length ∧
          d.ShowsDevice settings device ∧
          RackSet.layout settings ⟨left ++ rack.vacate above device below :: right⟩ = .ok
            { layout with
              racks := leftRacks ++ { r with devices := earlier ++ later } :: rightRacks } := by
  obtain ⟨hset, rfl⟩ := RackSet.layout_eq_ok_iff.1 h
  refine ⟨fun colors set' hroom => ?_, fun left rack right above device below hracks hslots => ?_⟩
  · exact ⟨_, RackSet.layout_eq_ok_iff.2 ⟨hroom.hasGeometry hset, rfl⟩, hroom.sameGeometry⟩
  · obtain ⟨racks⟩ := set
    obtain rfl : racks = left ++ rack :: right := hracks
    obtain ⟨leftRacks, r, rightRacks, earlier, d, later, hrow, hleft, hdevices, hlength, hshows,
      hvacate⟩ := RackSet.exists_geometry_vacate hslots settings left right
    exact ⟨leftRacks, r, rightRacks, earlier, d, later, hrow, hleft, hdevices, hlength, hshows,
      RackSet.layout_eq_ok_iff.2 ⟨RackSet.hasGeometry_vacate hslots hset, hvacate⟩⟩

/-- Two servers without positions and a switch of two units between them. -/
def shelvedRack : Rack where
  slots := [
    .device { kind := "server", color := some "red" },
    .device { kind := "switch", height := some "2", label := "core" },
    .device { kind := "server" }]

/-- Other devices in the same places. -/
def repaintedRack : Rack where
  slots := [
    .device { kind := "ups", label := "spare" },
    .device { kind := "patch", height := some "2", href := some "#top" },
    .device { kind := "san", color := some "blue" }]

theorem RackSet.layout_of_appearance_shelvedRack :
    ∃ layout repainted leftRacks r rightRacks earlier d later,
      RackSet.layout {} ⟨[{}, shelvedRack]⟩ = .ok layout ∧
      RackSet.layout { colors := [] } ⟨[{}, repaintedRack]⟩ = .ok repainted ∧
      layout.SameGeometry repainted ∧
      layout.racks = leftRacks ++ r :: rightRacks ∧ leftRacks.length = 1 ∧
      r.devices = earlier ++ d :: later ∧ earlier.length = 1 ∧ d.label = "core" ∧
      RackSet.layout {} ⟨[{}, { slots := [
        .device { kind := "server", color := some "red" }, .gap { height := some "2" },
        .device { kind := "server" }] }]⟩ = .ok
          { layout with
            racks := leftRacks ++ { r with devices := earlier ++ later } :: rightRacks } := by
  have hlayout : RackSet.layout {} ⟨[{}, shelvedRack]⟩ =
      .ok (RackSet.geometry {} ⟨[{}, shelvedRack]⟩) := by decide +kernel
  have hroom : RackSet.SameRoom ⟨[{}, shelvedRack]⟩ ⟨[{}, repaintedRack]⟩ :=
    .cons ⟨rfl, rfl, .nil⟩ (.cons ⟨rfl, rfl,
      .cons (.device rfl rfl) (.cons (.device rfl rfl) (.cons (.device rfl rfl) .nil))⟩ .nil)
  obtain ⟨hpaint, hvacate⟩ := RackSet.layout_of_appearance hlayout
  obtain ⟨repainted, hrepainted, hsame⟩ := hpaint [] _ hroom
  obtain ⟨leftRacks, r, rightRacks, earlier, d, later, hracks, hleft, hdevices, hlength, hshows,
    hvacated⟩ := hvacate [{}] shelvedRack [] [.device { kind := "server", color := some "red" }]
      { kind := "switch", height := some "2", label := "core" } [.device { kind := "server" }]
      rfl rfl
  exact ⟨_, repainted, leftRacks, r, rightRacks, earlier, d, later, hlayout, hrepainted, hsame,
    hracks, hleft, hdevices, hlength, hshows.label, hvacated⟩

end RackElevation
