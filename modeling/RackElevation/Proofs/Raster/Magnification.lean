import RackElevation.Proofs.Raster.Lettering

/-!
# Scaling and magnifying

A layout that is painted at a scale looks like the layout of magnified sizes that is painted at
scale one: every edge of the one is the scaled edge of the other.  Labels go through binary64
numbers on the way, and these have an end.  The painter at a scale multiplies the line of a label
after it is rounded, so it fails on a label whose line leaves the range only then; the magnified
layout, where lines are rounded after they are multiplied, is painted to its end.
-/

namespace RackElevation

open Number

/-- An area with all edges multiplied. -/
def Area.magnify (area : Area) (k : ℤ) : Area where
  left := area.left * k
  top := area.top * k
  right := area.right * k
  bottom := area.bottom * k

/-- A layout the labels of whose devices stay in range when their lines are multiplied. -/
def Layout.LabelsInRange (layout : Layout) (k : ℤ) : Prop :=
  ∀ rack ∈ layout.racks, ∀ device ∈ rack.devices, device.label.isEmpty = false →
    (device.labelY.times (.int k)).HasValue

instance (layout : Layout) (k : ℤ) : Decidable (layout.LabelsInRange k) :=
  inferInstanceAs (Decidable (∀ rack ∈ layout.racks, ∀ device ∈ rack.devices,
    device.label.isEmpty = false → (device.labelY.times (.int k)).HasValue))

namespace Sizes

/-- Sizes with all lengths multiplied; a rack without a usable height keeps its number of units. -/
def magnify (sizes : Sizes) (k : ℤ) : Sizes where
  unitHeight := sizes.unitHeight * k
  rackWidth := sizes.rackWidth * k
  rackSpacing := sizes.rackSpacing * k
  margin := sizes.margin * k
  defaultRackHeight := sizes.defaultRackHeight

variable {sizes : Sizes} {k : ℤ}

/-- Usable sizes stay usable when they are multiplied. -/
theorem IsUsable.magnify (h : sizes.IsUsable) (hk : 1 ≤ k) : (sizes.magnify k).IsUsable where
  unitHeight := mul_pos h.unitHeight hk
  rackWidth := mul_pos h.rackWidth hk
  rackSpacing := mul_nonneg h.rackSpacing (zero_le_one.trans hk)
  margin := mul_nonneg h.margin (zero_le_one.trans hk)
  defaultRackHeight := h.defaultRackHeight

/-- The left edges of racks are multiplied with the sizes. -/
theorem left_magnify (i : ℕ) : (sizes.magnify k).left i = sizes.left i * k := by
  simp only [left, magnify]
  ring

/-- The bottom edges of racks are multiplied with the sizes. -/
theorem bottom_magnify (units : ℤ) : (sizes.magnify k).bottom units = sizes.bottom units * k := by
  simp only [bottom, magnify]
  ring

/-- The width of the canvas is multiplied with the sizes. -/
theorem width_magnify (racks : ℕ) : (sizes.magnify k).width racks = sizes.width racks * k := by
  simp only [width, magnify]
  ring

/-- The height of the canvas is multiplied with the sizes. -/
theorem height_magnify (units : ℤ) : (sizes.magnify k).height units = sizes.height units * k := by
  simp only [height, magnify]
  ring

/-- The area of a device is magnified with its rack. -/
theorem deviceArea_magnify (left bottom : ℤ) (p : Placement) :
    (sizes.magnify k).deviceArea (left * k) (bottom * k) p =
      (sizes.deviceArea left bottom p).magnify k := by
  simp only [deviceArea, Area.magnify, magnify, Area.mk.injEq]
  refine ⟨trivial, ?_, ?_, ?_⟩ <;> ring

/-- Magnified sizes need the room that the sizes need at a scale. -/
theorem HasRoom.magnify {racks : ℕ} {units : ℤ} (h : sizes.HasRoom k racks units) :
    (sizes.magnify k).HasRoom 1 racks units where
  width := by
    rw [width_magnify, mul_one]
    exact h.width
  height := by
    rw [height_magnify, mul_one]
    exact h.height

end Sizes

namespace Raster

/-! ## What is drawn before a failure -/

/-- The rectangle that a call draws. -/
def Call.tile? : Call → Option Tile
  | .rectangle box fill _ _ => some ⟨box, fill⟩
  | .text .. => none

/-- What steps draw until one of them fails. -/
def drawnFirst : List (Report (List Call)) → List Call
  | [] => []
  | step :: steps =>
      match step.outcome with
      | .error _ => []
      | .ok calls => calls ++ drawnFirst steps

/-- A step that has a result when another one has, and then draws the same rectangles. -/
def Follows (first second : Report (List Call)) : Prop :=
  ∀ calls, first.outcome = .ok calls →
    ∃ calls', second.outcome = .ok calls' ∧ calls'.filterMap Call.tile? = calls.filterMap Call.tile?

/-- Steps that follow others draw at least the rectangles that those draw. -/
theorem drawnFirst_isPrefix {first second : List (Report (List Call))}
    (h : List.Forall₂ Follows first second) :
    (drawnFirst first).filterMap Call.tile? <+: (drawnFirst second).filterMap Call.tile? := by
  induction h with
  | nil => exact List.prefix_rfl
  | @cons step step' steps steps' hstep _ ih =>
      simp only [drawnFirst]
      cases houtcome : step.outcome with
      | error e => exact List.nil_prefix
      | ok calls =>
          obtain ⟨calls', houtcome', htiles⟩ := hstep calls houtcome
          rw [houtcome', List.filterMap_append, List.filterMap_append, htiles]
          exact (List.prefix_append_right_inj _).2 ih

/-- Steps that follow others have a result together when those have one. -/
theorem exists_drawn_of_follows {first second : List (Report (List Call))}
    (h : List.Forall₂ Follows first second) (hfirst : ∃ calls, Painter.drawn first = .ok calls) :
    ∃ calls, Painter.drawn second = .ok calls := by
  induction h with
  | nil => exact hfirst
  | @cons step step' steps steps' hstep _ ih =>
      obtain ⟨_, hfirst⟩ := hfirst
      obtain ⟨calls, rest, hcalls, hrest, -⟩ := Painter.drawn_cons_eq_ok.1 hfirst
      obtain ⟨calls', hcalls', -⟩ := hstep calls hcalls
      obtain ⟨rest', hrest'⟩ := ih ⟨rest, hrest⟩
      exact ⟨_, Painter.drawn_cons_eq_ok.2 ⟨calls', rest', hcalls', hrest', rfl⟩⟩

/-- Steps that have a result together have one each. -/
theorem exists_outcome_of_drawn {steps : List (Report (List Call))} {calls : List Call}
    (h : Painter.drawn steps = .ok calls) : ∀ step ∈ steps, ∃ drawn, step.outcome = .ok drawn := by
  induction steps generalizing calls with
  | nil => exact fun _ hstep => absurd hstep List.not_mem_nil
  | cons step steps ih =>
      obtain ⟨drawn, _, hstep, hsteps, -⟩ := Painter.drawn_cons_eq_ok.1 h
      exact List.forall_mem_cons.2 ⟨⟨drawn, hstep⟩, ih hsteps⟩

namespace Painter

variable {painter : Painter} {measure measure' : Measure} {k : ℤ}

/-- A painter with another scale. -/
def atScale (painter : Painter) (scale : ℤ) : Painter :=
  { painter with scale := scale }

/-- The rectangles that a painter draws for a layout until a step fails. -/
def tilesDrawn (painter : Painter) (measure : Measure) (layout : Layout) : List Tile :=
  (drawnFirst (painter.steps layout measure)).filterMap Call.tile?

/-- A multiplied area takes the pixels that the area takes at that scale. -/
theorem areaBox_magnify (area : Area) :
    (painter.atScale 1).areaBox (area.magnify k) = (painter.atScale k).areaBox area := by
  simp only [areaBox, atScale, Area.magnify, mul_one]

/-! ## Steps -/

/-- A text is no rectangle. -/
theorem tiles_text {x y : Number} {content : String} {calls : List Call}
    (h : painter.text measure x y content = .ok calls) : calls.filterMap Call.tile? = [] := by
  refine List.filterMap_eq_nil_iff.2 fun call hcall => ?_
  cases call with
  | text => rfl
  | rectangle box fill outline thickness => exact absurd hcall (not_mem_text h fill outline)

/-- The name of a rack is no rectangle. -/
theorem tiles_nameCalls {rack : RackLayout} {calls : List Call}
    (h : painter.nameCalls measure rack = .ok calls) : calls.filterMap Call.tile? = [] := by
  rw [nameCalls] at h
  split at h
  · obtain rfl := Except.ok.inj h
    rfl
  · obtain ⟨_, -, h⟩ := bind_eq_ok.1 h
    exact tiles_text h

/-- The label of a device is no rectangle. -/
theorem tiles_labelCalls {x : Number} {device : DeviceLayout} {calls : List Call}
    (h : painter.labelCalls measure x device = .ok calls) : calls.filterMap Call.tile? = [] := by
  obtain ⟨_, -, h⟩ := bind_eq_ok.1 h
  exact tiles_text h

/-- Texts follow texts when they can be drawn. -/
theorem follows_of_texts {first second : Except Failure (List Call)}
    (hfirst : ∀ calls, first = .ok calls → calls.filterMap Call.tile? = [])
    (hsecond : ∀ calls, second = .ok calls → calls.filterMap Call.tile? = [])
    (h : (∃ calls, first = .ok calls) → ∃ calls, second = .ok calls) :
    Follows (.ofOutcome first) (.ofOutcome second) := by
  intro calls hcalls
  obtain ⟨calls', hcalls'⟩ := h ⟨calls, hcalls⟩
  exact ⟨calls', hcalls', (hsecond _ hcalls').trans (hfirst _ hcalls).symm⟩

/-- Steps that draw the same rectangle follow one another. -/
theorem follows_of_call {first second : Report Call} {tile : Tile} {painter painter' : Painter}
    (hfirst : first.outcome = .ok (Tile.call painter tile))
    (hsecond : second.outcome = .ok (Tile.call painter' tile)) :
    Follows (first.map ([·])) (second.map ([·])) := by
  intro calls hcalls
  rw [Report.outcome_map, hfirst] at hcalls
  refine ⟨[Tile.call painter' tile], ?_, ?_⟩
  · rw [Report.outcome_map, hsecond]
    rfl
  · rw [← Except.ok.inj hcalls]
    rfl

/-- Steps that follow one another, in one direction only under a condition. -/
def Matches (condition : Prop) (first second : Report (List Call)) : Prop :=
  Follows first second ∧ (condition → Follows second first)

/-- Steps that draw the same rectangle match, whatever the condition is. -/
theorem matches_of_call {condition : Prop} {first second : Report Call} {tile : Tile}
    {painter painter' : Painter} (hfirst : first.outcome = .ok (Tile.call painter tile))
    (hsecond : second.outcome = .ok (Tile.call painter' tile)) :
    Matches condition (first.map ([·])) (second.map ([·])) :=
  ⟨follows_of_call hfirst hsecond, fun _ => follows_of_call hsecond hfirst⟩

section Racks

variable {sizes : Sizes} {colors : ColorTable} {set : RackSet} {i : ℕ} {condition : Prop}

/-- Whether a text can be drawn does not depend on the scale, if both measures can be centred alike.
-/
theorem canWrite_atScale (hmeasure : ∀ content,
      (measure content).IsCentrable ↔ (measure' content).IsCentrable) (m n : ℤ) (content : String) :
    (painter.atScale m).CanWrite measure content ↔ (painter.atScale n).CanWrite measure' content :=
  ⟨fun h => ⟨h.fontSize, (hmeasure content).1 h.extent⟩,
    fun h => ⟨h.fontSize, (hmeasure content).2 h.extent⟩⟩

/-- The name of a rack is drawn at a scale when it is drawn magnified. -/
theorem name_matches (husable : sizes.IsUsable) (hk : 1 ≤ k) {units : ℤ}
    (hroom : sizes.HasRoom k set.racks.length units) (hunits : 0 ≤ units)
    (hmeasure : ∀ content, (measure content).IsCentrable ↔ (measure' content).IsCentrable)
    (hi : i < set.racks.length) (rack : Rack) (n n' : Number) :
    Matches condition
      (.ofOutcome ((painter.atScale k).nameCalls measure
        (rack.geometry (sizes.settings colors) n (.int (sizes.left i)))))
      (.ofOutcome ((painter.atScale 1).nameCalls measure'
        (rack.geometry ((sizes.magnify k).settings colors) n'
          (.int ((sizes.magnify k).left i))))) := by
  have hscaled := @exists_nameCalls_iff (painter.atScale k) measure sizes colors set rack i units
    husable hk hroom hunits hi n
  have hmagnified := @exists_nameCalls_iff (painter.atScale 1) measure' (sizes.magnify k) colors set
    rack i units (husable.magnify hk) le_rfl hroom.magnify hunits hi n'
  have hiff := hscaled.trans
    ((forall₂_congr fun name _ => canWrite_atScale hmeasure k 1 name).trans hmagnified.symm)
  exact ⟨follows_of_texts (fun _ => tiles_nameCalls) (fun _ => tiles_nameCalls) hiff.1,
    fun _ => follows_of_texts (fun _ => tiles_nameCalls) (fun _ => tiles_nameCalls) hiff.2⟩

/-- The body of a rack is drawn at a scale as it is drawn magnified. -/
theorem body_matches (rack : Rack) (units x : ℤ) :
    Matches condition
      (.ofOutcome (((painter.atScale k).bodyCall
        (rack.geometry (sizes.settings colors) (.int units) (.int x))).map ([·])))
      (.ofOutcome (((painter.atScale 1).bodyCall
        (rack.geometry ((sizes.magnify k).settings colors) (.int units) (.int (x * k)))).map
          ([·]))) := by
  have hbody := bodyCall_eq (@bodyBox_eq sizes colors (painter.atScale k) rack units x)
  have hbody' := bodyCall_eq
    (@bodyBox_eq (sizes.magnify k) colors (painter.atScale 1) rack units (x * k))
  have harea : (⟨x * k, (sizes.magnify k).margin, x * k + (sizes.magnify k).rackWidth,
      (sizes.magnify k).bottom units⟩ : Area) =
        (⟨x, sizes.margin, x + sizes.rackWidth, sizes.bottom units⟩ : Area).magnify k := by
    rw [Sizes.bottom_magnify]
    simp only [Area.magnify, Sizes.magnify, add_mul]
  rw [harea, areaBox_magnify] at hbody'
  exact @matches_of_call condition (.ofOutcome _) (.ofOutcome _) _ _ _ hbody hbody'

/-- The steps of a device. -/
def deviceSteps (painter : Painter) (measure : Measure) (x : Number) (device : DeviceLayout) :
    List (Report (List Call)) :=
  [(painter.deviceCall x device).map ([·]), .ofOutcome (painter.labelCalls measure x device)]

/-- A device is drawn at a scale as it is drawn magnified.  Its label is drawn magnified when it is
drawn at the scale, and the other way when its line stays in range. -/
theorem device_matches (husable : sizes.IsUsable) (hk : 1 ≤ k) {units units' : ℤ}
    (hroom : sizes.HasRoom k set.racks.length units') (hle : units ≤ units')
    (hmeasure : ∀ content, (measure content).IsCentrable ↔ (measure' content).IsCentrable)
    (hi : i < set.racks.length) (rack : Rack) {p : Placement} (hoffset : 0 ≤ p.offset)
    (hspan : 0 < p.span)
    (hgeometry : p.HasGeometry ((sizes.magnify k).settings colors)
      (.int ((sizes.magnify k).bottom units)))
    (device : Device)
    (hcondition : condition → device.label.isEmpty = false →
      ((p.labelLine (.int sizes.unitHeight) (.int (sizes.bottom units))).times (.int k)).HasValue) :
    List.Forall₂ (Matches condition)
      ((painter.atScale k).deviceSteps measure (.int (sizes.left i))
        (device.geometry (sizes.settings colors) (.int (sizes.bottom units)) p))
      ((painter.atScale 1).deviceSteps measure' (.int ((sizes.magnify k).left i))
        (device.geometry ((sizes.magnify k).settings colors)
          (.int ((sizes.magnify k).bottom units)) p)) := by
  have hbox := deviceCall_eq (@deviceBox_eq sizes colors (painter.atScale k) rack units
    (sizes.left i) (sizes.bottom units) device p)
  have hbox' := deviceCall_eq (@deviceBox_eq (sizes.magnify k) colors (painter.atScale 1) rack units
    ((sizes.magnify k).left i) ((sizes.magnify k).bottom units) device p)
  rw [Sizes.left_magnify, Sizes.bottom_magnify, Sizes.deviceArea_magnify, areaBox_magnify] at hbox'
  have hmagnify := husable.magnify hk
  have hscaled := @exists_labelCalls_iff (painter.atScale k) measure sizes colors set i units'
    husable hk hroom hi (.int (sizes.bottom units)) device p
  have hmagnified := @exists_labelCalls_iff (painter.atScale 1) measure' (sizes.magnify k) colors
    set i units' hmagnify le_rfl hroom.magnify hi (.int ((sizes.magnify k).bottom units)) device p
  -- the magnified line is in range before it is scaled, and is scaled by one
  have hbottom : (sizes.magnify k).bottom units < 2 ^ 31 := by
    have hedge := Sizes.bottom_mono hmagnify hle
    have hmargin := hmagnify.margin
    have hheight := hroom.magnify.height
    rw [Sizes.bottom_eq units', mul_one] at *
    omega
  have hline := Sizes.labelLine_hasValue hmagnify hbottom hoffset hspan hgeometry
  have hone : ((p.labelLine (.int (sizes.magnify k).unitHeight)
      (.int ((sizes.magnify k).bottom units))).times
        (.int (painter.atScale 1).scale)).HasValue := by
    have hscale : Number.int (painter.atScale 1).scale = 1 := rfl
    rwa [hscale, times_one hline]
  refine .cons ?_ (.cons ⟨?_, fun h => ?_⟩ .nil)
  · rw [Sizes.left_magnify, Sizes.bottom_magnify]
    exact matches_of_call hbox hbox'
  · refine follows_of_texts (fun _ => tiles_labelCalls) (fun _ => tiles_labelCalls) fun hcalls => ?_
    refine hmagnified.2 fun hlabel => ⟨?_, hone⟩
    exact (canWrite_atScale hmeasure k 1 _).1 (hscaled.1 hcalls hlabel).1
  · refine follows_of_texts (fun _ => tiles_labelCalls) (fun _ => tiles_labelCalls) fun hcalls => ?_
    refine hscaled.2 fun hlabel => ⟨?_, hcondition h hlabel⟩
    exact (canWrite_atScale hmeasure k 1 _).2 (hmagnified.1 hcalls hlabel).1

/-- The devices among placements under two settings, one by one. -/
theorem forall₂_devicesGeometry_settings {settings settings' : Settings} {bottom bottom' : Number}
    {related : DeviceLayout → DeviceLayout → Prop} {ps : List Placement}
    (h : ∀ p ∈ ps, ∀ device, p.device? = some device →
      related (device.geometry settings bottom p) (device.geometry settings' bottom' p)) :
    List.Forall₂ related (devicesGeometry settings bottom ps)
      (devicesGeometry settings' bottom' ps) := by
  induction ps with
  | nil => exact .nil
  | cons p ps ih =>
      obtain ⟨hp, hps⟩ := List.forall_mem_cons.1 h
      rw [devicesGeometry, devicesGeometry, List.filterMap_cons, List.filterMap_cons,
        ← devicesGeometry, ← devicesGeometry]
      cases hdevice : p.device? with
      | none => exact ih hps
      | some device => exact .cons (hp device hdevice) (ih hps)

/-- A rack is drawn at a scale as it is drawn magnified, up to labels that leave the range. -/
theorem rack_matches (husable : sizes.IsUsable) (hk : 1 ≤ k) {units : ℤ}
    (hroom : sizes.HasRoom k set.racks.length units)
    (hmeasure : ∀ content, (measure content).IsCentrable ↔ (measure' content).IsCentrable)
    (hi : i < set.racks.length) {rack : Rack} (hunits : rack.units sizes.defaultRackHeight ≤ units)
    (hgeometry : ∀ p ∈ placements rack.slots, p.device?.isSome = true →
      p.HasGeometry ((sizes.magnify k).settings colors)
        (.int ((sizes.magnify k).bottom (rack.units sizes.defaultRackHeight))))
    (hcondition : condition → ∀ device ∈ devicesGeometry (sizes.settings colors)
        (.int (sizes.bottom (rack.units sizes.defaultRackHeight))) (placements rack.slots),
      device.label.isEmpty = false → (device.labelY.times (.int k)).HasValue) :
    List.Forall₂ (Matches condition)
      ((painter.atScale k).rackSteps measure (rack.geometry (sizes.settings colors)
        (.int (rack.units sizes.defaultRackHeight)) (.int (sizes.left i))))
      ((painter.atScale 1).rackSteps measure' (rack.geometry ((sizes.magnify k).settings colors)
        (.int (rack.units sizes.defaultRackHeight)) (.int ((sizes.magnify k).left i)))) := by
  have hpos := rack.units_pos husable.defaultRackHeight
  -- the steps of a rack are its name, its body and its devices
  refine .cons (name_matches husable hk hroom (hpos.le.trans hunits) hmeasure hi rack _ _)
    (.cons ?_ ?_)
  · rw [Sizes.left_magnify]
    exact body_matches rack _ _
  · have hdevices := @forall₂_devicesGeometry_settings (sizes.settings colors)
      ((sizes.magnify k).settings colors) (.int (sizes.bottom (rack.units sizes.defaultRackHeight)))
      (.int ((sizes.magnify k).bottom (rack.units sizes.defaultRackHeight)))
      (fun d d' => List.Forall₂ (Matches condition)
        ((painter.atScale k).deviceSteps measure (.int (sizes.left i)) d)
        ((painter.atScale 1).deviceSteps measure' (.int ((sizes.magnify k).left i)) d'))
      (placements rack.slots) fun p hp device hdevice =>
        device_matches husable hk hroom hunits hmeasure hi rack
          (offset_nonneg_of_mem_placementsFrom le_rfl hp) (span_pos_of_mem_placementsFrom hp)
          (hgeometry p hp (hdevice ▸ rfl)) device fun h =>
            hcondition h _ (mem_devicesGeometry.2 ⟨p, hp, device, hdevice, rfl⟩)
    exact List.rel_flatMap hdevices fun _ _ h => h

/-- The steps of a layout at a scale and those of the magnified layout. -/
theorem steps_match (husable : sizes.IsUsable) (hk : 1 ≤ k)
    (hroom : sizes.HasRoom k set.racks.length (set.tallest sizes.defaultRackHeight))
    (hmeasure : ∀ content, (measure content).IsCentrable ↔ (measure' content).IsCentrable)
    (hgeometry : set.HasGeometry ((sizes.magnify k).settings colors)) :
    List.Forall₂ (Matches ((set.geometry (sizes.settings colors)).LabelsInRange k))
      ((painter.atScale k).steps (set.geometry (sizes.settings colors)) measure)
      ((painter.atScale 1).steps (set.geometry ((sizes.magnify k).settings colors)) measure') := by
  refine List.rel_flatMap (R := fun r r' =>
    List.Forall₂ (Matches ((set.geometry (sizes.settings colors)).LabelsInRange k))
      ((painter.atScale k).rackSteps measure r) ((painter.atScale 1).rackSteps measure' r')) ?_
    fun _ _ h => h
  have hlength : (set.geometry (sizes.settings colors)).racks.length =
      (set.geometry ((sizes.magnify k).settings colors)).racks.length :=
    List.length_mapIdx.trans List.length_mapIdx.symm
  -- rack by rack: both layouts show the same rack at the same place in the row
  refine List.forall₂_iff_get.2 ⟨hlength, fun i hracks hracks' => ?_⟩
  have hi : i < set.racks.length := hracks.trans_eq List.length_mapIdx
  have hrack := @Sizes.getElem?_racks sizes colors set i
  have hrack' := @Sizes.getElem?_racks (sizes.magnify k) colors set i
  rw [List.getElem?_eq_getElem hi, Option.map_some] at hrack hrack'
  have hmem := List.mem_of_getElem? hrack
  rw [List.getElem?_eq_getElem hracks, Option.some_inj] at hrack
  rw [List.getElem?_eq_getElem hracks', Option.some_inj] at hrack'
  rw [List.get_eq_getElem, List.get_eq_getElem, hrack, hrack']
  refine rack_matches husable hk hroom hmeasure hi
    (units_le_tallest sizes.defaultRackHeight (List.getElem_mem hi)) ?_ fun h => h _ hmem
  have hdevices := (hgeometry.racks _ (List.getElem_mem hi)).devices
  rw [Sizes.unitNumber_eq] at hdevices
  exact hdevices

/-- A layout that is painted at a scale has labels in range. -/
theorem labelsInRange_of_drawn (husable : sizes.IsUsable) (hk : 1 ≤ k) {units : ℤ}
    (hroom : sizes.HasRoom k set.racks.length units) {calls : List Call}
    (h : drawn ((painter.atScale k).steps (set.geometry (sizes.settings colors)) measure) =
      .ok calls) : (set.geometry (sizes.settings colors)).LabelsInRange k := by
  intro r hr d hd hlabel
  have hstep : .ofOutcome ((painter.atScale k).labelCalls measure r.xOffset d) ∈
      (painter.atScale k).steps (set.geometry (sizes.settings colors)) measure := by
    refine List.mem_flatMap.2 ⟨r, hr, .tail _ (.tail _ (List.mem_flatMap.2 ⟨d, hd, ?_⟩))⟩
    exact .tail _ (List.mem_singleton_self _)
  have hcalls := exists_outcome_of_drawn h _ hstep
  obtain ⟨i, rack, hrack, rfl⟩ := exists_of_mem_racks hr
  obtain ⟨hi, -⟩ := List.getElem?_eq_some_iff.1 hrack
  obtain ⟨p, -, device, -, rfl⟩ := mem_devicesGeometry.1 hd
  exact ((@exists_labelCalls_iff (painter.atScale k) measure sizes colors set i units husable hk
    hroom hi _ device p).1 hcalls hlabel).2

end Racks

end Painter

/-- Under accepted settings of whole sizes, take a rack set that has a layout as well as one of
magnified sizes.  The painter at a scale and the painter at scale one of the magnified layout start
from the same empty image.  As long as they draw, they draw the same rectangles in the same colours,
and the painter at a scale draws no others.  It draws all of them when no label leaves the range as
its line is scaled, and otherwise it fails at such a label. -/
theorem magnification_of_layout (sizes : Sizes) (colors : ColorTable)
    (haccept : (sizes.settings colors).accept = .ok (sizes.settings colors)) (painter : Painter)
    {k : ℤ} (hk : 1 ≤ k) (measure measure' : Measure)
    (hmeasure : ∀ content, (measure content).IsCentrable ↔ (measure' content).IsCentrable)
    (set : RackSet) {layout magnified : Layout}
    (h : set.layout (sizes.settings colors) = .ok layout)
    (h' : set.layout ((sizes.magnify k).settings colors) = .ok magnified) :
    (painter.atScale k).blank layout = (painter.atScale 1).blank magnified ∧
    ∀ blank, (painter.atScale k).blank layout = .ok blank →
      (painter.atScale k).tilesDrawn measure layout <+:
          (painter.atScale 1).tilesDrawn measure' magnified ∧
      (layout.LabelsInRange k → (painter.atScale k).tilesDrawn measure layout =
        (painter.atScale 1).tilesDrawn measure' magnified) ∧
      ((∃ calls, ((painter.atScale k).calls layout measure).outcome = .ok calls) ↔
        (∃ calls, ((painter.atScale 1).calls magnified measure').outcome = .ok calls) ∧
          layout.LabelsInRange k) := by
  have husable := Sizes.isUsable_of_accept haccept
  obtain ⟨-, rfl⟩ := RackSet.layout_eq_ok_iff.1 h
  obtain ⟨hgeometry, rfl⟩ := RackSet.layout_eq_ok_iff.1 h'
  refine ⟨?_, fun blank hblank => ?_⟩
  · have hscaled (scale n : ℤ) : (painter.atScale scale).scaled (.int n) = .ok (n * scale) := rfl
    rw [Painter.blank, Painter.blank, Sizes.width_geometry, Sizes.height_geometry,
      Sizes.width_geometry, Sizes.height_geometry, Sizes.width_magnify, Sizes.height_magnify]
    simp only [hscaled, ok_bind, mul_one]
    rfl
  -- a canvas that can be held has room for all edges, so both painters can scale them
  have hroom : sizes.HasRoom k set.racks.length (set.tallest sizes.defaultRackHeight) :=
    Painter.hasRoom_of_blank (Sizes.width_geometry set) (Sizes.height_geometry set) hblank
  have hsteps := @Painter.steps_match painter measure measure' k sizes colors set husable hk hroom
    hmeasure hgeometry
  -- step by step, what one painter draws the other one draws, and back while the labels are in
  -- range
  have hforward := hsteps.imp fun _ _ hstep => hstep.1
  have hbackward (hrange : (set.geometry (sizes.settings colors)).LabelsInRange k) :=
    hsteps.flip.imp fun _ _ hstep => hstep.2 hrange
  have hinitial := drawnFirst_isPrefix hforward
  refine ⟨hinitial, fun hrange => ?_, ?_⟩
  · exact hinitial.eq_of_length_le (drawnFirst_isPrefix (hbackward hrange)).length_le
  · simp only [Painter.outcome_calls]
    constructor
    · rintro ⟨calls, hcalls⟩
      exact ⟨exists_drawn_of_follows hforward ⟨calls, hcalls⟩,
        Painter.labelsInRange_of_drawn husable hk hroom hcalls⟩
    · rintro ⟨hcalls, hrange⟩
      exact exists_drawn_of_follows (hbackward hrange) hcalls

/-- Two racks with a name and with labels, one of them above its rack. -/
def labelledRacks : RackSet where
  racks := [
    { name := some "A"
      slots := [
        .device { kind := "switch", position := some "9", label := "s" },
        .device { kind := "server", label := "t" }] },
    {}]

/-- Two labelled racks draw the same four rectangles at the scale two as with all sizes doubled. -/
theorem magnification_of_layout_labelledRacks :
    (tightSizes.settings []).accept = .ok (tightSizes.settings []) ∧
    ∃ layout magnified, labelledRacks.layout (tightSizes.settings []) = .ok layout ∧
      labelledRacks.layout ((tightSizes.magnify 2).settings []) = .ok magnified ∧
      ((Painter.atScale ⟨1, 14, .white, ⟨0, 0, 0⟩⟩ 2).tilesDrawn nominalExtent layout).length = 4 ∧
      (Painter.atScale ⟨1, 14, .white, ⟨0, 0, 0⟩⟩ 2).tilesDrawn nominalExtent layout =
        (Painter.atScale ⟨1, 14, .white, ⟨0, 0, 0⟩⟩ 1).tilesDrawn nominalExtent magnified := by
  have haccept : (tightSizes.settings []).accept = .ok (tightSizes.settings []) := by
    decide +kernel
  have hlayout : labelledRacks.layout (tightSizes.settings []) =
      .ok (labelledRacks.geometry (tightSizes.settings [])) := by
    decide +kernel
  have hmagnified : labelledRacks.layout ((tightSizes.magnify 2).settings []) =
      .ok (labelledRacks.geometry ((tightSizes.magnify 2).settings [])) := by
    decide +kernel
  have hblank : (Painter.atScale ⟨1, 14, .white, ⟨0, 0, 0⟩⟩ 2).blank
      (labelledRacks.geometry (tightSizes.settings [])) =
        .ok { width := 400, height := 100, background := ⟨255, 255, 255⟩ } := by
    decide +kernel
  obtain ⟨-, hpaintings⟩ := magnification_of_layout tightSizes [] haccept
    ⟨1, 14, .white, ⟨0, 0, 0⟩⟩ (k := 2) (by decide) nominalExtent nominalExtent
    (fun _ => Iff.rfl) labelledRacks hlayout hmagnified
  obtain ⟨-, htiles, -⟩ := hpaintings _ hblank
  exact ⟨haccept, _, _, hlayout, hmagnified, by decide +kernel, htiles (by decide +kernel)⟩

/-- A position of 308 digits. -/
def remotePosition : List Char :=
  ['5', '9', '9', '2', '3', '1', '0', '4', '4', '9', '5', '4', '1', '0', '5', '2', '6'] ++
    List.replicate 291 '0'

/-- A labelled device at that position. -/
def remoteSlot : Slot :=
  .device { kind := "server", position := some (String.ofList remotePosition), label := "x" }

/-- Two racks, the first one with that device far above it. -/
def remoteRacks : RackSet where
  racks := [{ slots := [remoteSlot] }, {}]

/-- Sizes of a single unit of length. -/
def unitSizes : Sizes := ⟨1, 1, 0, 0, 1⟩

/-- The placement of that device, in which its position has been read. -/
def remotePlacement : Placement :=
  ⟨remoteSlot, Text.value remotePosition - 1, 1⟩

/-- The remote slot is placed at its position. -/
theorem placeSlots_remoteSlot : placeSlots [remoteSlot] = .ok [remotePlacement] := by
  have hdigits : ∀ c ∈ remotePosition, c ∈ plainDigits := by
    have hall : remotePosition.all (fun c => decide (c ∈ plainDigits)) = true := by decide +kernel
    exact fun c hc => of_decide_eq_true (List.all_eq_true.1 hall c hc)
  have hposition : remoteSlot.usablePosition = .ok (some (Text.value remotePosition : ℤ)) :=
    leadingPositive?_ofList hdigits (by decide +kernel) (by decide +kernel)
  rw [placeSlots, List.reverse_singleton, placeFrom, Slot.placeAt, hposition]
  rfl

/-- At scale three the line of the label leaves the range, so the second rack is not drawn.  It is
drawn in the magnified layout. -/
theorem tilesDrawn_ne_remoteRacks :
    (unitSizes.settings []).accept = .ok (unitSizes.settings []) ∧
    ∃ layout magnified blank, remoteRacks.layout (unitSizes.settings []) = .ok layout ∧
      remoteRacks.layout ((unitSizes.magnify 3).settings []) = .ok magnified ∧
      (Painter.atScale ⟨1, 14, .white, ⟨0, 0, 0⟩⟩ 3).blank layout = .ok blank ∧
      ((Painter.atScale ⟨1, 14, .white, ⟨0, 0, 0⟩⟩ 3).tilesDrawn nominalExtent layout).length = 2 ∧
      ((Painter.atScale ⟨1, 14, .white, ⟨0, 0, 0⟩⟩ 1).tilesDrawn nominalExtent magnified).length =
        3 := by
  have haccept : (unitSizes.settings []).accept = .ok (unitSizes.settings []) := by
    decide +kernel
  have hplaced := (placeSlots_eq_ok.1 placeSlots_remoteSlot).2
  have hunits (sizes : Sizes) : remoteRacks.racks.mapM (·.unitCount (sizes.settings [])) =
      .ok [.int sizes.defaultRackHeight, .int sizes.defaultRackHeight] := rfl
  -- both layouts are computed from the placement of the remote slot, which has been read
  have hlayout : remoteRacks.layout (unitSizes.settings []) =
      .ok (remoteRacks.geometry (unitSizes.settings [])) := by
    rw [RackSet.layout, hunits, ok_bind]
    simp only [remoteRacks, List.zip_cons_cons, layoutRacks, Rack.layout, placeSlots_remoteSlot,
      RackSet.geometry, racksGeometry, List.mapIdx_cons, Rack.geometry, hplaced]
    decide +kernel
  have hmagnified : remoteRacks.layout ((unitSizes.magnify 3).settings []) =
      .ok (remoteRacks.geometry ((unitSizes.magnify 3).settings [])) := by
    rw [RackSet.layout, hunits, ok_bind]
    simp only [remoteRacks, List.zip_cons_cons, layoutRacks, Rack.layout, placeSlots_remoteSlot,
      RackSet.geometry, racksGeometry, List.mapIdx_cons, Rack.geometry, hplaced]
    decide +kernel
  refine ⟨haccept, _, _, { width := 6, height := 3, background := ⟨255, 255, 255⟩ }, hlayout,
    hmagnified, ?_⟩
  simp only [remoteRacks, RackSet.geometry, racksGeometry, List.mapIdx_cons, Rack.geometry,
    hplaced]
  decide +kernel

end Raster

end RackElevation
