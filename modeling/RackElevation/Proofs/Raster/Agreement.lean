import RackElevation.Proofs.Drawing.Shapes
import RackElevation.Proofs.Number.Half
import RackElevation.Proofs.Number.Zero
import RackElevation.Raster.Painter

/-!
# Drawings and painted layouts agree

A painter and an assembled drawing show the same picture: the calls of the painter correspond one to
one, in order, to the shapes of the drawing.  The box of a rectangle has the scaled corners of its
shape, and a text is centred on the scaled place of its label.

The painter adds the offset of a rack to horizontal coordinates only, while the group of the rack
also shifts by a vertical zero.  That shift changes at most the sign of a zero, which scaling drops.
-/

namespace RackElevation.Raster

/-- A text whose box reaches from `near` to `far` when it is drawn at the origin is centred on a
place when it is drawn at `start`.  The middle of its box lies on the place exactly, unless a number
has more than 50 bits. -/
structure Centres (place near far : ℤ) (start : Number) : Prop where
  computed : Painter.centred place near far = .ok start
  middle : place.natAbs ≤ 2 ^ 50 → near.natAbs ≤ 2 ^ 50 → far.natAbs ≤ 2 ^ 50 →
    start.IsHalf (2 * place - near - far)

namespace Painter

variable {painter : Painter} {measure : Measure}

/-- Where a text is put, its box is centred, up to a half. -/
theorem centres_of_centred {place near far : ℤ} {start : Number}
    (h : centred place near far = .ok start) : Centres place near far start := by
  refine ⟨h, fun hplace hnear hfar => ?_⟩
  obtain ⟨a, ha, hhalf⟩ := Number.half_int (n := far - near) (by omega)
  obtain ⟨b, hb, hb'⟩ := Number.int_sub_isHalf hhalf (n := place) (by omega) (by omega)
  obtain ⟨c, hc, hc'⟩ := Number.isHalf_sub_int hb' (n := near) (by omega) (by omega)
  rw [centred, ha, ok_bind, hb, ok_bind, hc] at h
  rw [← Except.ok.inj h]
  convert hc' using 1
  ring

/-- A call draws a shape: a rectangle has the scaled corners and the colours of its shape, and a
text has the content of its label and is centred on the scaled place of it. -/
def Draws (painter : Painter) (measure : Measure) : Shape → Call → Prop
  | .rect r, .rectangle box fill outline thickness =>
      painter.scaled r.x = .ok box.left ∧ painter.scaled r.y = .ok box.top ∧
        (∃ right, r.x.add r.width = .ok right ∧ painter.scaled right = .ok box.right) ∧
        (∃ bottom, r.y.add r.height = .ok bottom ∧ painter.scaled bottom = .ok box.bottom) ∧
        fill = colorOf r.fill ∧ outline = colorOf r.stroke ∧ thickness = max 1 painter.scale
  | .label l, .text content x y fill =>
      content = l.content ∧ fill = painter.textColor ∧
        ∃ column line, painter.scaled l.x = .ok column ∧ painter.scaled l.y = .ok line ∧
          Centres column (measure content).left (measure content).right x ∧
          Centres line (measure content).top (measure content).bottom y
  | _, _ => False

/-! ## Scaling -/

/-- A zero times a finite number rounds to zero. -/
theorem round_zero_mul (s : Bool) {y : Binary64} (hy : y.isFinite = true) :
    (Number.real ((Binary64.finite s 0 Binary64.fits_zero).mul y)).round = .ok 0 := by
  cases y with
  | nan => contradiction
  | infinite t => contradiction
  | finite t n hn =>
      rw [Binary64.mul, Nat.zero_mul, Binary64.ofRatio_zero, Number.round, Number.integerOf,
        Binary64.roundToInt?, Binary64.halfEven_zero, Binary64.signedSteps_zero]

/-- Zero is scaled to zero, unless the scale has no binary64 form. -/
theorem scaled_zero (s : Bool) :
    painter.scaled (.real (.finite s 0 Binary64.fits_zero)) =
      (Number.int painter.scale).toReal.map fun _ => 0 := by
  rw [scaled, Number.mul, Number.combine_real_left]
  cases h : (Number.int painter.scale).toReal with
  | error e => rfl
  | ok y => exact round_zero_mul s (Number.isFinite_of_toReal_int h)

/-- Scaling drops the sign of a zero. -/
theorem scaled_eq_of_alike {a b : Number} (h : a.Alike b) :
    painter.scaled a = painter.scaled b := by
  rcases h with rfl | ⟨s, t, rfl, rfl⟩
  · rfl
  · rw [scaled_zero, scaled_zero]

/-! ## Single calls -/

/-- A call draws a shape of a rack after it is shifted as the group of the rack shifts it. -/
def DrawsShifted (painter : Painter) (measure : Measure) (dx : Number) (shape : Shape)
    (call : Call) : Prop :=
  ∃ moved, shape.shift dx 0 = .ok moved ∧ painter.Draws measure moved call

/-- The call for a rectangle whose horizontal place has been shifted. -/
theorem rectangle_draws {dx x : Number} {r : Rect} {call : Call} (hstroke : r.stroke = outlineColor)
    (hx : dx.add r.x = .ok x)
    (h : painter.rectangle x r.y r.width r.height (colorOf r.fill) = .ok call) :
    painter.DrawsShifted measure dx (.rect r) call := by
  obtain ⟨box, hbox, h⟩ := bind_eq_ok.1 h
  obtain rfl := pure_eq_ok.1 h
  obtain ⟨left, hleft, hbox⟩ := bind_eq_ok.1 hbox
  obtain ⟨top, htop, hbox⟩ := bind_eq_ok.1 hbox
  obtain ⟨right', hright', hbox⟩ := bind_eq_ok.1 hbox
  obtain ⟨right, hright, hbox⟩ := bind_eq_ok.1 hbox
  obtain ⟨bottom', hbottom', hbox⟩ := bind_eq_ok.1 hbox
  obtain ⟨bottom, hbottom, hbox⟩ := bind_eq_ok.1 hbox
  obtain rfl := pure_eq_ok.1 hbox
  -- the vertical shift changes at most the sign of a zero, at the top and at the bottom
  obtain ⟨y, hy, hyy⟩ := Number.zero_add_alike r.y
  obtain ⟨bottom'', hb, hbb⟩ := hyy.add hbottom'
  refine ⟨.rect { r with x := x, y := y }, ?_, hleft, ?_, ⟨right', hright', hright⟩,
    ⟨bottom'', hb, ?_⟩, rfl, ?_, rfl⟩
  · rw [Shape.shift, hx, ok_bind, hy, ok_bind, pure_eq_ok]
  · rw [← htop]
    exact scaled_eq_of_alike hyy
  · rw [← hbottom]
    exact scaled_eq_of_alike hbb
  · rw [hstroke]

/-- Nothing is drawn for an empty text. -/
theorem text_of_isEmpty (x y : Number) {content : String} (h : content.isEmpty = true) :
    painter.text measure x y content = .ok [] := by
  rw [text, if_pos h]

/-- A text that is not empty is drawn at one place, in a font that has a size. -/
theorem text_eq_ok_iff {x y : Number} {content : String} (h : content.isEmpty = false)
    {calls : List Call} :
    painter.text measure x y content = .ok calls ↔
      0 < painter.fontSize * painter.scale ∧
        ∃ column line, painter.scaled x = .ok column ∧ painter.scaled y = .ok line ∧
          ∃ left top, centred column (measure content).left (measure content).right = .ok left ∧
            centred line (measure content).top (measure content).bottom = .ok top ∧
            calls = [.text content left top painter.textColor] := by
  rw [text, if_neg (Bool.eq_false_iff.1 h)]
  dsimp only
  by_cases hsize : painter.fontSize * painter.scale ≤ 0
  · rw [if_pos hsize]
    exact iff_of_false (fun hcalls => nomatch hcalls) fun hplace => absurd hplace.1 hsize.not_gt
  · rw [if_neg hsize, and_iff_right (not_le.1 hsize)]
    simp only [bind_eq_ok, pure_eq_ok]
    constructor
    · rintro ⟨column, hcolumn, line, hline, left, hleft, top, htop, rfl⟩
      exact ⟨column, line, hcolumn, hline, left, top, hleft, htop, rfl⟩
    · rintro ⟨column, line, hcolumn, hline, left, top, hleft, htop, rfl⟩
      exact ⟨column, hcolumn, line, hline, left, hleft, top, htop, rfl⟩

/-- The calls for a text whose horizontal place has been shifted: none when it is empty. -/
theorem text_draws {dx x : Number} {l : Label} {calls : List Call} (hx : dx.add l.x = .ok x)
    (h : painter.text measure x l.y l.content = .ok calls) :
    List.Forall₂ (painter.DrawsShifted measure dx) l.shapes calls := by
  by_cases hempty : l.content.isEmpty = true
  · rw [text_of_isEmpty _ _ hempty] at h
    rw [Label.shapes, if_pos hempty, ← Except.ok.inj h]
    exact .nil
  · obtain ⟨-, column, line, hcolumn, hline, left, top, hleft, htop, rfl⟩ :=
      (text_eq_ok_iff (Bool.eq_false_iff.2 hempty)).1 h
    rw [Label.shapes, if_neg hempty]
    obtain ⟨y, hy, hyy⟩ := Number.zero_add_alike l.y
    refine .cons ⟨.label { l with x := x, y := y }, ?_, rfl, rfl, column, line, hcolumn, ?_,
      centres_of_centred hleft, centres_of_centred htop⟩ .nil
    · rw [Shape.shift, hx, ok_bind, hy, ok_bind, pure_eq_ok]
    · rw [← hline]
      exact scaled_eq_of_alike hyy

/-! ## The parts of a rack -/

/-- The name of a rack is drawn where its shape is, shifted with the rack. -/
theorem nameCalls_draw {rack : RackLayout} {calls : List Call}
    (h : painter.nameCalls measure rack = .ok calls) :
    List.Forall₂ (painter.DrawsShifted measure rack.xOffset) rack.nameShapes calls := by
  rw [nameCalls] at h
  rw [RackLayout.nameShapes]
  cases hname : nonempty? rack.name with
  | none =>
      rw [hname] at h
      obtain rfl := Except.ok.inj h
      exact .nil
  | some name =>
      rw [hname] at h
      obtain ⟨x, hx, h⟩ := bind_eq_ok.1 h
      have hshapes := text_draws (l := { x := rack.labelX, y := rack.labelY, content := name }) hx h
      rwa [Label.shapes, if_neg (by simp [(nonempty?_eq_some.1 hname).2])] at hshapes

/-- The body of a rack is drawn where its shape is, shifted with the rack. -/
theorem bodyCall_draws {rack : RackLayout} {call : Call} (h : painter.bodyCall rack = .ok call) :
    painter.DrawsShifted measure rack.xOffset (.rect rack.body) call := by
  obtain ⟨x, hx, h⟩ := bind_eq_ok.1 h
  exact rectangle_draws rfl hx h

/-- The rectangle of a device is drawn where its shape is, shifted with the rack. -/
theorem deviceCall_draws {dx : Number} {device : DeviceLayout} {call : Call}
    (h : (painter.deviceCall dx device).outcome = .ok call) :
    painter.DrawsShifted measure dx (.rect device.rect) call := by
  rw [deviceCall, Report.outcome_andThen] at h
  obtain ⟨x, hx, h⟩ := bind_eq_ok.1 h
  exact rectangle_draws rfl hx h

/-- The label of a device is drawn where its shape is, shifted with the rack. -/
theorem labelCalls_draw {dx : Number} {device : DeviceLayout} {calls : List Call}
    (h : painter.labelCalls measure dx device = .ok calls) :
    List.Forall₂ (painter.DrawsShifted measure dx) device.caption.shapes calls := by
  obtain ⟨x, hx, h⟩ := bind_eq_ok.1 h
  exact text_draws (l := device.caption) hx h

/-! ## Rows of steps -/

/-- What some steps of painting draw together. -/
def drawn (steps : List (Report (List Call))) : Except Failure (List Call) :=
  (steps.mapM Report.outcome).map List.flatten

/-- The calls for a layout are what all its steps draw together. -/
theorem outcome_calls (layout : Layout) :
    (painter.calls layout measure).outcome = drawn (painter.steps layout measure) := by
  rw [calls, Report.outcome_map, Report.outcome_sequence, drawn]

/-- Steps in a row draw what their parts draw, in that order. -/
theorem drawn_append_eq_ok {steps steps' : List (Report (List Call))} {calls : List Call} :
    drawn (steps ++ steps') = .ok calls ↔
      ∃ a b, drawn steps = .ok a ∧ drawn steps' = .ok b ∧ a ++ b = calls :=
  mapM_flatten_append_eq_ok

theorem drawn_singleton (step : Report (List Call)) : drawn [step] = step.outcome := by
  rw [drawn, List.mapM_cons, List.mapM_nil]
  cases h : step.outcome with
  | error e => rfl
  | ok calls => exact congrArg Except.ok (by simp)

/-- The first step draws before the others. -/
theorem drawn_cons_eq_ok {step : Report (List Call)} {steps : List (Report (List Call))}
    {calls : List Call} :
    drawn (step :: steps) = .ok calls ↔
      ∃ a b, step.outcome = .ok a ∧ drawn steps = .ok b ∧ a ++ b = calls := by
  rw [← List.singleton_append, drawn_append_eq_ok, drawn_singleton]

/-- The devices of a rack: the rectangle of each one, then its label. -/
theorem devices_draw {dx : Number} {devices : List DeviceLayout} {calls : List Call}
    (h : drawn (devices.flatMap fun device =>
      [(painter.deviceCall dx device).map ([·]),
        .ofOutcome (painter.labelCalls measure dx device)]) = .ok calls) :
    List.Forall₂ (painter.DrawsShifted measure dx) (devices.flatMap DeviceLayout.shapes) calls := by
  induction devices generalizing calls with
  | nil =>
      obtain rfl := Except.ok.inj h
      exact .nil
  | cons device devices ih =>
      rw [List.flatMap_cons, drawn_append_eq_ok] at h
      obtain ⟨_, rest, h, hrest, rfl⟩ := h
      obtain ⟨_, _, hrect, hlabel, rfl⟩ := drawn_cons_eq_ok.1 h
      rw [drawn_singleton] at hlabel
      obtain ⟨call, hcall, rfl⟩ := map_eq_ok.1 hrect
      rw [List.flatMap_cons, DeviceLayout.shapes]
      exact List.rel_append (.cons (deviceCall_draws hcall) (labelCalls_draw hlabel)) (ih hrest)

/-- The calls of a rack draw its shapes one by one, shifted with the rack. -/
theorem rack_draws {rack : RackLayout} {calls : List Call}
    (h : drawn (painter.rackSteps measure rack) = .ok calls) :
    List.Forall₂ (painter.DrawsShifted measure rack.xOffset) rack.shapes calls := by
  obtain ⟨_, _, hname, hrest, rfl⟩ := drawn_cons_eq_ok.1 h
  obtain ⟨_, _, hbody, hdevices, rfl⟩ := drawn_cons_eq_ok.1 hrest
  obtain ⟨call, hcall, rfl⟩ := map_eq_ok.1 hbody
  exact List.rel_append (nameCalls_draw hname)
    (.cons (bodyCall_draws hcall) (devices_draw hdevices))

/-- What the steps of a rack draw are the shapes of its group. -/
theorem group_draws {rack : RackLayout} {calls : List Call}
    (h : drawn (painter.rackSteps measure rack) = .ok calls) :
    ∃ shapes, rack.group.shapes = .ok shapes ∧
      List.Forall₂ (painter.Draws measure) shapes calls := by
  rw [shapes_group]
  exact exists_mapM_eq_ok (rack_draws h)

/-- What the steps of some racks draw are the shapes of their groups. -/
theorem groups_draw {racks : List RackLayout} {calls : List Call}
    (h : drawn (racks.flatMap (painter.rackSteps measure)) = .ok calls) :
    ∃ shapes, Primitive.shapesOfRow (racks.map RackLayout.group) = .ok shapes ∧
      List.Forall₂ (painter.Draws measure) shapes calls := by
  induction racks generalizing calls with
  | nil =>
      obtain rfl := Except.ok.inj h
      exact ⟨[], rfl, .nil⟩
  | cons rack racks ih =>
      rw [List.flatMap_cons, drawn_append_eq_ok] at h
      obtain ⟨_, _, hrack, hracks, rfl⟩ := h
      obtain ⟨shapes, hshapes, hdraws⟩ := group_draws hrack
      obtain ⟨rest, hrest, hdraws'⟩ := ih hracks
      refine ⟨shapes ++ rest, ?_, List.rel_append hdraws hdraws'⟩
      rw [List.map_cons, Primitive.shapesOfRow, hshapes, ok_bind, hrest, ok_bind, pure_eq_ok]

end Painter

/-! ## The whole layout -/

/-- A painted layout and its drawing show the same picture: when a painter can draw a layout at all,
the assembled drawing has as many shapes as there are calls, and each call draws the shape at its
place in drawing order. -/
theorem calls_correspond (painter : Painter) (measure : Measure) (layout : Layout) (hover : Bool)
    {calls : List Call} (h : (painter.calls layout measure).outcome = .ok calls) :
    ∃ shapes, (layout.drawing hover).shapes = .ok shapes ∧
      List.Forall₂ (painter.Draws measure) shapes calls := by
  rw [Painter.outcome_calls] at h
  rw [shapes_drawing]
  exact Painter.groups_draw h

/-- A rack with a name and one linked device. -/
def linkedRack : Layout where
  width := 290
  height := 50
  racks := [{
    name := some "A"
    xOffset := 20
    units := 1
    bodyX := 0
    bodyY := 15
    bodyWidth := 250
    bodyHeight := 20
    labelX := 125
    labelY := 7
    devices := [{
      kind := "server"
      unit := 0
      units := 1
      x := 0
      y := 15
      width := 250
      height := 20
      fill := "white"
      href := some "#s"
      label := "s"
      labelX := 125
      labelY := 25 }] }]

/-- The four shapes of a rack with a name and a linked device are drawn. -/
theorem calls_correspond_linkedRack :
    ∃ calls shapes,
      (Painter.calls ⟨2, 14, .white, ⟨0, 0, 0⟩⟩ linkedRack nominalExtent).outcome = .ok calls ∧
      calls.length = 4 ∧ linkedRack.drawing.shapes = .ok shapes ∧
      List.Forall₂ (Painter.Draws ⟨2, 14, .white, ⟨0, 0, 0⟩⟩ nominalExtent) shapes calls := by
  have hlength : ((Painter.calls ⟨2, 14, .white, ⟨0, 0, 0⟩⟩ linkedRack nominalExtent).outcome.map
      List.length).toOption = some 4 := by decide +kernel
  cases hcalls : (Painter.calls ⟨2, 14, .white, ⟨0, 0, 0⟩⟩ linkedRack nominalExtent).outcome with
  | error e =>
      rw [hcalls] at hlength
      contradiction
  | ok calls =>
      rw [hcalls] at hlength
      obtain ⟨shapes, hshapes, hdraws⟩ := calls_correspond _ nominalExtent linkedRack true hcalls
      exact ⟨calls, shapes, rfl, Option.some.inj hlength, hshapes, hdraws⟩

end RackElevation.Raster
