import RackElevation.Proofs.Raster.Covering

/-!
# Rectangles of a layout

A painter draws one rectangle for the body of every rack and one for each of its devices, in the
order of the layout.  When the racks stand side by side and the devices of a rack one above the
other, rectangles meet in their outlines only, a body and the devices of its rack apart.  What is
inside an outline then stays visible, although every later outline covers what it meets.
-/

namespace RackElevation.Raster

/-! ## Rectangles of racks -/

/-- The call that draws a rectangle. -/
def Tile.call (painter : Painter) (tile : Tile) : Call :=
  .rectangle tile.box tile.color (colorOf outlineColor) (max 1 painter.scale)

namespace Painter

/-- The box that is drawn for the body of a rack. -/
def bodyBox (painter : Painter) (rack : RackLayout) : Except Failure Box := do
  painter.box (← rack.xOffset.add rack.bodyX) rack.bodyY rack.bodyWidth rack.bodyHeight

/-- The box that is drawn for a device of a rack. -/
def deviceBox (painter : Painter) (rack : RackLayout) (device : DeviceLayout) :
    Except Failure Box := do
  painter.box (← rack.xOffset.add device.x) device.y device.width device.height

/-- A box that is drawn for a rack: that of its body or of one of its devices. -/
inductive DrawsBox (painter : Painter) (rack : RackLayout) (box : Box) : Prop
  | body (h : painter.bodyBox rack = .ok box)
  | device (device : DeviceLayout) (hdevice : device ∈ rack.devices)
      (h : painter.deviceBox rack device = .ok box)

/-- The rectangles of the devices of a rack, those that cannot be drawn left out. -/
def deviceTiles (painter : Painter) (rack : RackLayout) (devices : List DeviceLayout) : List Tile :=
  devices.filterMap fun device =>
    (painter.deviceBox rack device).toOption.map (⟨·, colorOf device.fill⟩)

/-- The rectangles of a rack, those that cannot be drawn left out. -/
def rackTiles (painter : Painter) (rack : RackLayout) : List Tile :=
  (painter.bodyBox rack).toOption.toList.map (⟨·, colorOf bodyColor⟩) ++
    painter.deviceTiles rack rack.devices

/-- The rectangles of racks. -/
def tiles (painter : Painter) (racks : List RackLayout) : List Tile :=
  racks.flatMap painter.rackTiles

variable {painter : Painter} {measure : Measure} {rack : RackLayout}

/-- A device with a box is the first rectangle. -/
theorem deviceTiles_cons {device : DeviceLayout} {box : Box}
    (h : painter.deviceBox rack device = .ok box) (devices : List DeviceLayout) :
    painter.deviceTiles rack (device :: devices) =
      ⟨box, colorOf device.fill⟩ :: painter.deviceTiles rack devices := by
  rw [deviceTiles, List.filterMap_cons, h]
  rfl

/-- A body with a box is the first rectangle of its rack. -/
theorem rackTiles_of_bodyBox {box : Box} (h : painter.bodyBox rack = .ok box) :
    painter.rackTiles rack =
      ⟨box, colorOf bodyColor⟩ :: painter.deviceTiles rack rack.devices := by
  rw [rackTiles, h]
  rfl

/-- The rectangles of devices are those with a box, in their fills. -/
theorem mem_deviceTiles {devices : List DeviceLayout} {tile : Tile} :
    tile ∈ painter.deviceTiles rack devices ↔
      ∃ device ∈ devices, painter.deviceBox rack device = .ok tile.box ∧
        colorOf device.fill = tile.color := by
  rw [deviceTiles, List.mem_filterMap]
  refine exists_congr fun device => and_congr_right fun _ => ?_
  cases painter.deviceBox rack device with
  | error e => exact iff_of_false (fun h => nomatch h) (fun h => nomatch h.1)
  | ok box =>
      constructor
      · rintro ⟨⟩
        exact ⟨rfl, rfl⟩
      · rintro ⟨hbox, hcolor⟩
        rw [Except.ok.inj hbox, hcolor]
        rfl

/-- A rectangle of a rack is that of its body or of one of its devices. -/
theorem mem_rackTiles {tile : Tile} :
    tile ∈ painter.rackTiles rack ↔
      (painter.bodyBox rack = .ok tile.box ∧ colorOf bodyColor = tile.color) ∨
        tile ∈ painter.deviceTiles rack rack.devices := by
  rw [rackTiles, List.mem_append]
  refine or_congr_left ?_
  cases painter.bodyBox rack with
  | error e => exact iff_of_false (fun h => nomatch h) (fun h => nomatch h.1)
  | ok box =>
      constructor
      · intro h
        rw [List.mem_singleton.1 h]
        exact ⟨rfl, rfl⟩
      · rintro ⟨hbox, hcolor⟩
        rw [Except.ok.inj hbox, hcolor]
        exact List.mem_singleton_self _

/-- The box of a rectangle of a rack is drawn for the rack. -/
theorem drawsBox_of_mem_rackTiles {tile : Tile} (h : tile ∈ painter.rackTiles rack) :
    painter.DrawsBox rack tile.box := by
  rcases mem_rackTiles.1 h with ⟨hbody, -⟩ | hdevice
  · exact .body hbody
  · obtain ⟨device, hmem, hbox, -⟩ := mem_deviceTiles.1 hdevice
    exact .device device hmem hbox

/-! ## Calls -/

/-- A body with a box is drawn as a rectangle. -/
theorem bodyCall_eq {box : Box} (h : painter.bodyBox rack = .ok box) :
    painter.bodyCall rack = .ok (Tile.call painter ⟨box, colorOf bodyColor⟩) := by
  obtain ⟨x, hx, hbox⟩ := bind_eq_ok.1 h
  rw [bodyCall, hx, ok_bind, rectangle, hbox]
  rfl

/-- A device with a box is drawn as a rectangle in its fill. -/
theorem deviceCall_eq {device : DeviceLayout} {box : Box}
    (h : painter.deviceBox rack device = .ok box) :
    (painter.deviceCall rack.xOffset device).outcome =
      .ok (Tile.call painter ⟨box, colorOf device.fill⟩) := by
  obtain ⟨x, hx, hbox⟩ := bind_eq_ok.1 h
  rw [deviceCall, Report.outcome_andThen, Report.outcome_ofOutcome, hx]
  simp only [Except.bind, rectangle, hbox]
  rfl

/-- A rack whose rectangles can be drawn and that has no texts to draw. -/
structure IsPlain (painter : Painter) (measure : Measure) (rack : RackLayout) : Prop where
  name : nonempty? rack.name = none
  body : ∃ box, painter.bodyBox rack = .ok box
  device : ∀ device ∈ rack.devices, ∃ box, painter.deviceBox rack device = .ok box
  label : ∀ device ∈ rack.devices, painter.labelCalls measure rack.xOffset device = .ok []

/-- Devices with boxes and without labels are drawn as their rectangles. -/
theorem drawn_devices {devices : List DeviceLayout}
    (hbox : ∀ device ∈ devices, ∃ box, painter.deviceBox rack device = .ok box)
    (hlabel : ∀ device ∈ devices, painter.labelCalls measure rack.xOffset device = .ok []) :
    drawn (devices.flatMap fun device =>
      [(painter.deviceCall rack.xOffset device).map ([·]),
        .ofOutcome (painter.labelCalls measure rack.xOffset device)]) =
      .ok ((painter.deviceTiles rack devices).map (Tile.call painter)) := by
  induction devices with
  | nil => rfl
  | cons device devices ih =>
      obtain ⟨⟨box, hbox⟩, hboxes⟩ := List.forall_mem_cons.1 hbox
      obtain ⟨hlabel, hlabels⟩ := List.forall_mem_cons.1 hlabel
      rw [List.flatMap_cons, drawn_append_eq_ok]
      refine ⟨[Tile.call painter ⟨box, colorOf device.fill⟩], _, ?_, ih hboxes hlabels, ?_⟩
      · refine drawn_cons_eq_ok.2 ⟨_, [], ?_, ?_, List.append_nil _⟩
        · rw [Report.outcome_map, deviceCall_eq hbox]
          rfl
        · rw [drawn_singleton, Report.outcome_ofOutcome, hlabel]
      · rw [deviceTiles_cons hbox]
        rfl

/-- A plain rack is drawn as its rectangles. -/
theorem IsPlain.drawn_rackSteps (h : painter.IsPlain measure rack) :
    drawn (painter.rackSteps measure rack) =
      .ok ((painter.rackTiles rack).map (Tile.call painter)) := by
  obtain ⟨box, hbody⟩ := h.body
  have hname : (Report.ofOutcome (painter.nameCalls measure rack)).outcome = .ok [] := by
    rw [Report.outcome_ofOutcome, nameCalls, h.name]
  have hcall : (Report.ofOutcome ((painter.bodyCall rack).map ([·]))).outcome =
      .ok [Tile.call painter ⟨box, colorOf bodyColor⟩] := by
    rw [Report.outcome_ofOutcome, bodyCall_eq hbody]
    rfl
  have hdevices := drawn_devices h.device h.label
  rw [rackTiles_of_bodyBox hbody]
  exact drawn_cons_eq_ok.2 ⟨_, _, hname, drawn_cons_eq_ok.2 ⟨_, _, hcall, hdevices, rfl⟩, rfl⟩

/-- Plain racks are drawn as their rectangles. -/
theorem drawn_racks {racks : List RackLayout} (h : ∀ rack ∈ racks, painter.IsPlain measure rack) :
    drawn (racks.flatMap (painter.rackSteps measure)) =
      .ok ((painter.tiles racks).map (Tile.call painter)) := by
  induction racks with
  | nil => rfl
  | cons rack racks ih =>
      obtain ⟨hrack, hracks⟩ := List.forall_mem_cons.1 h
      rw [List.flatMap_cons, drawn_append_eq_ok, tiles, List.flatMap_cons, List.map_append]
      exact ⟨_, _, hrack.drawn_rackSteps, ih hracks, rfl⟩

/-- Rectangles of bytes are marked. -/
theorem callMarks_tiles (hscale : 1 ≤ painter.scale) {tiles : List Tile}
    (hbyte : ∀ tile ∈ tiles, tile.color.IsByte)
    (hroomy : ∀ tile ∈ tiles, tile.box.IsRoomy painter.scale) :
    callMarks (tiles.map (Tile.call painter)) = .ok (tiles.flatMap (Tile.marks painter.scale)) := by
  have houtline : (colorOf outlineColor).IsByte := by decide +kernel
  induction tiles with
  | nil => rfl
  | cons tile tiles ih =>
      obtain ⟨hcolor, hcolors⟩ := List.forall_mem_cons.1 hbyte
      obtain ⟨⟨hwidth, hheight⟩, hrooms⟩ := List.forall_mem_cons.1 hroomy
      have hcall : (Tile.call painter tile).marks = .ok (Tile.marks painter.scale tile) := by
        rw [Tile.call, Call.marks, houtline.pixel_eq, ok_bind, hcolor.pixel_eq, ok_bind,
          if_neg (by omega), if_neg (by omega), max_eq_right hscale]
        rfl
      rw [List.map_cons, ← List.singleton_append, callMarks_append_eq_ok, List.flatMap_cons]
      refine ⟨_, _, ?_, ih hcolors hrooms, rfl⟩
      rw [callMarks, List.mapM_cons, hcall]
      exact congrArg Except.ok (List.append_nil _)

/-- The colour of bodies is made of bytes. -/
theorem isByte_bodyColor : (colorOf bodyColor).IsByte := by decide +kernel

/-- The colours of all rectangles are bytes when those of the devices are. -/
theorem isByte_tiles {racks : List RackLayout}
    (h : ∀ rack ∈ racks, ∀ device ∈ rack.devices, (colorOf device.fill).IsByte) :
    ∀ tile ∈ painter.tiles racks, tile.color.IsByte := by
  intro tile htile
  obtain ⟨rack, hrack, htile⟩ := List.mem_flatMap.1 htile
  rcases mem_rackTiles.1 htile with ⟨-, hcolor⟩ | htile
  · exact hcolor ▸ isByte_bodyColor
  · obtain ⟨device, hdevice, -, hcolor⟩ := mem_deviceTiles.1 htile
    exact hcolor ▸ h rack hrack device hdevice

/-! ## What is visible -/

/-- Racks with room for every outline, that stand side by side and whose devices stand one above the
other. -/
structure AreSpread (painter : Painter) (racks : List RackLayout) : Prop where
  roomy : ∀ rack ∈ racks, ∀ box, painter.DrawsBox rack box → box.IsRoomy painter.scale
  columns : racks.Pairwise fun a b => ∀ box box', painter.DrawsBox a box → painter.DrawsBox b box' →
    box.right ≤ box'.left
  rows : ∀ rack ∈ racks, rack.devices.Pairwise fun a b => ∀ box box',
    painter.deviceBox rack a = .ok box → painter.deviceBox rack b = .ok box' →
      box.bottom ≤ box'.top ∨ box'.bottom ≤ box.top

namespace AreSpread

variable {racks : List RackLayout} {x y : ℤ}

/-- The rectangles of spread racks have room for their outlines. -/
theorem roomy_tiles (h : painter.AreSpread racks) :
    ∀ tile ∈ painter.tiles racks, tile.box.IsRoomy painter.scale := by
  intro tile htile
  obtain ⟨rack, hrack, htile⟩ := List.mem_flatMap.1 htile
  exact h.roomy rack hrack tile.box (drawsBox_of_mem_rackTiles htile)

/-- A place off the boxes of all racks keeps its pixel. -/
theorem markedPixel_of_off (h : painter.AreSpread racks) (hscale : 0 ≤ painter.scale)
    (hoff : ∀ rack ∈ racks, ∀ box, painter.DrawsBox rack box → ¬ box.Has x y) (under : Pixel) :
    markedPixel ((painter.tiles racks).flatMap (Tile.marks painter.scale)) x y under = under := by
  refine markedPixel_tiles_of_off hscale h.roomy_tiles (fun tile htile => ?_) under
  obtain ⟨rack, hrack, htile⟩ := List.mem_flatMap.1 htile
  exact hoff rack hrack tile.box (drawsBox_of_mem_rackTiles htile)

/-- Inside the outline of a rectangle of a rack, its colour shows where no later rectangle of the
rack lies: the racks to the right do not reach there. -/
theorem markedPixel_of_inner (h : painter.AreSpread racks) (hscale : 1 ≤ painter.scale)
    (hrack : rack ∈ racks) {before after : List Tile} {tile : Tile}
    (htiles : painter.rackTiles rack = before ++ tile :: after)
    (hinner : (tile.box.inner painter.scale).Has x y)
    (hafter : ∀ tile' ∈ after, ¬ tile'.box.Has x y) (under : Pixel) :
    markedPixel ((painter.tiles racks).flatMap (Tile.marks painter.scale)) x y under =
      tile.color.bytes := by
  obtain ⟨racks₁, racks₂, rfl⟩ := List.append_of_mem hrack
  have hsplit : painter.tiles (racks₁ ++ rack :: racks₂) =
      (painter.tiles racks₁ ++ before) ++ tile :: (after ++ painter.tiles racks₂) := by
    simp only [tiles, List.flatMap_append, List.flatMap_cons, htiles, List.append_assoc,
      List.cons_append]
  have htile : painter.DrawsBox rack tile.box := by
    refine drawsBox_of_mem_rackTiles ?_
    rw [htiles]
    exact List.mem_append_cons_self
  have hroomy := h.roomy_tiles
  rw [hsplit] at hroomy ⊢
  refine markedPixel_tiles (zero_le_one.trans hscale)
    (fun tile' htile' => hroomy tile' (List.mem_append_right _ htile')) hinner ?_ under
  refine List.forall_mem_append.2 ⟨hafter, fun tile' htile' hhas => ?_⟩
  -- a later rack starts right of the inside of this rectangle
  obtain ⟨rack', hrack', hmem⟩ := List.mem_flatMap.1 htile'
  have hlater := (List.pairwise_cons.1 (List.pairwise_append.1 h.columns).2.1).1 rack' hrack'
  have hcolumns := hlater tile.box tile'.box htile (drawsBox_of_mem_rackTiles hmem)
  have hright := hinner.right
  have hleft := hhas.left
  dsimp only [Box.inner] at hright
  omega

/-- Inside its outline, every device shows its colour. -/
theorem device_shown (h : painter.AreSpread racks) (hscale : 1 ≤ painter.scale)
    (hbody : ∃ box, painter.bodyBox rack = .ok box) (hrack : rack ∈ racks)
    {device : DeviceLayout} (hdevice : device ∈ rack.devices) {box : Box}
    (hbox : painter.deviceBox rack device = .ok box) (hinner : (box.inner painter.scale).Has x y)
    (under : Pixel) :
    markedPixel ((painter.tiles racks).flatMap (Tile.marks painter.scale)) x y under =
      (colorOf device.fill).bytes := by
  obtain ⟨body, hbody⟩ := hbody
  have hrows := h.rows rack hrack
  obtain ⟨devices₁, devices₂, hdevices⟩ := List.append_of_mem hdevice
  have htiles : painter.rackTiles rack =
      (⟨body, colorOf bodyColor⟩ :: painter.deviceTiles rack devices₁) ++
        ⟨box, colorOf device.fill⟩ :: painter.deviceTiles rack devices₂ := by
    rw [rackTiles_of_bodyBox hbody, hdevices, ← deviceTiles_cons hbox]
    exact congrArg _ List.filterMap_append
  refine h.markedPixel_of_inner hscale hrack htiles hinner (fun tile htile hhas => ?_) under
  -- a later device lies above this one or below it
  obtain ⟨device', hdevice', hbox', -⟩ := mem_deviceTiles.1 htile
  rw [hdevices] at hrows
  have hlater := (List.pairwise_cons.1 (List.pairwise_append.1 hrows).2.1).1 device' hdevice'
  have htop := hinner.top
  have hbottom := hinner.bottom
  dsimp only [Box.inner] at htop hbottom
  rcases hlater box tile.box hbox hbox' with habove | hbelow
  · have := hhas.top
    omega
  · have := hhas.bottom
    omega

/-- Inside its outline, a body shows the colour of bodies where no device of its rack lies. -/
theorem body_shown (h : painter.AreSpread racks) (hscale : 1 ≤ painter.scale) (hrack : rack ∈ racks)
    {box : Box} (hbox : painter.bodyBox rack = .ok box)
    (hinner : (box.inner painter.scale).Has x y)
    (hoff : ∀ device ∈ rack.devices, ∀ box', painter.deviceBox rack device = .ok box' →
      ¬ box'.Has x y) (under : Pixel) :
    markedPixel ((painter.tiles racks).flatMap (Tile.marks painter.scale)) x y under =
      (colorOf bodyColor).bytes := by
  have htiles : painter.rackTiles rack =
      [] ++ ⟨box, colorOf bodyColor⟩ :: painter.deviceTiles rack rack.devices :=
    rackTiles_of_bodyBox hbox
  refine h.markedPixel_of_inner hscale hrack htiles hinner (fun tile htile => ?_) under
  obtain ⟨device, hdevice, hbox', -⟩ := mem_deviceTiles.1 htile
  exact hoff device hdevice tile.box hbox'

end AreSpread

/-! ## Images -/

/-- An image that shows the rectangles of a layout: the devices inside their outlines, the bodies
inside their outlines where no device of the rack is drawn, and the background off all of them. -/
structure Shows (painter : Painter) (layout : Layout) (canvas : Canvas) : Prop where
  hasBody : ∀ rack ∈ layout.racks, ∃ box, painter.bodyBox rack = .ok box
  hasDevice : ∀ rack ∈ layout.racks, ∀ device ∈ rack.devices,
    ∃ box, painter.deviceBox rack device = .ok box
  device : ∀ rack ∈ layout.racks, ∀ device ∈ rack.devices, ∀ (box : Box) (x y : ℕ) (pixel : Pixel),
    painter.deviceBox rack device = .ok box → canvas.shown? x y = some pixel →
    (box.inner painter.scale).Has x y → (colorOf device.fill).IsShownBy pixel
  body : ∀ rack ∈ layout.racks, ∀ (box : Box) (x y : ℕ) (pixel : Pixel),
    painter.bodyBox rack = .ok box → canvas.shown? x y = some pixel →
    (box.inner painter.scale).Has x y →
    (∀ device ∈ rack.devices, ∀ box', painter.deviceBox rack device = .ok box' → ¬ box'.Has x y) →
    (colorOf bodyColor).IsShownBy pixel
  background : ∀ (x y : ℕ) (pixel : Pixel), canvas.shown? x y = some pixel →
    (∀ rack ∈ layout.racks, ∀ box, painter.DrawsBox rack box → ¬ box.Has x y) →
    painter.background.IsShownBy pixel

/-- A canvas with the marks of all rectangles of a layout shows them. -/
theorem shows_of_areSpread {layout : Layout} {canvas : Canvas} (hscale : 1 ≤ painter.scale)
    (hspread : painter.AreSpread layout.racks)
    (hplain : ∀ rack ∈ layout.racks, painter.IsPlain measure rack)
    (hfill : ∀ rack ∈ layout.racks, ∀ device ∈ rack.devices, (colorOf device.fill).IsByte)
    (hbackground : painter.background.IsByte) (hwidth : 0 ≤ canvas.width)
    (hheight : 0 ≤ canvas.height) (hunder : canvas.background = painter.background.bytes)
    (hmarks : canvas.marks = (painter.tiles layout.racks).flatMap (Tile.marks painter.scale)) :
    painter.Shows layout canvas := by
  -- a pixel of the image is what the marks of all rectangles leave there
  have hpixel {x y : ℕ} {pixel : Pixel} (hshown : canvas.shown? x y = some pixel) :
      markedPixel ((painter.tiles layout.racks).flatMap (Tile.marks painter.scale)) x y
        painter.background.bytes = pixel := by
    rw [← hmarks, ← hunder]
    exact ((Canvas.shown?_eq_some_iff canvas hwidth hheight).1 hshown).2.2
  constructor
  case hasBody => exact fun rack hrack => (hplain rack hrack).body
  case hasDevice => exact fun rack hrack => (hplain rack hrack).device
  case device =>
    intro rack hrack device hdevice box x y pixel hbox hshown hinner
    rw [← hpixel hshown, hspread.device_shown hscale (hplain rack hrack).body hrack hdevice hbox
      hinner]
    exact (hfill rack hrack device hdevice).isShownBy
  case body =>
    intro rack hrack box x y pixel hbox hshown hinner hoff
    rw [← hpixel hshown, hspread.body_shown hscale hrack hbox hinner hoff]
    exact isByte_bodyColor.isShownBy
  case background =>
    intro x y pixel hshown hoff
    rw [← hpixel hshown, hspread.markedPixel_of_off (zero_le_one.trans hscale) hoff]
    exact hbackground.isShownBy

end Painter

end RackElevation.Raster
