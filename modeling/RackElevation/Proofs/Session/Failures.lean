import RackElevation.Proofs.Drawing.Printing
import RackElevation.Session

/-!
# Failures of rendering

A rack set that was read is rendered without any further reading or writing, so all that can still
fail is arithmetic and painting.  Each stage is followed step by step, and its failures are those of
its steps.
-/

namespace RackElevation

open Raster

/-- Whether a failure is about a number that has no other form. -/
def Failure.isNumberFailure : Failure → Bool
  | .integerTooLarge | .quotientTooLarge | .infinityToInteger | .nanToInteger | .numeralTooLong _
  | .integerTooLong => true
  | _ => false

/-- Whether a failure is about what a raster cannot hold. -/
def Failure.isPaintingFailure : Failure → Bool
  | .scaleTooSmall | .halfWordTooLarge | .halfWordTooSmall | .wordTooLarge | .redTooLarge
  | .rasterTooLarge | .reversedWidth | .reversedHeight | .fontTooSmall _ => true
  | _ => false

/-- Whether a failure is one of rendering. -/
def Failure.isRenderingFailure (failure : Failure) : Bool :=
  failure.isNumberFailure || failure.isPaintingFailure

section Sorts

variable {α : Type} {x : Except Failure α}

/-- A failure of a number is one of rendering. -/
theorem FailsOnly.ofNumber (h : FailsOnly (·.isNumberFailure) x) :
    FailsOnly (·.isRenderingFailure) x :=
  h.mono fun _ hnumber => Bool.or_eq_true_iff.2 (.inl hnumber)

/-- A failure of painting is one of rendering. -/
theorem FailsOnly.ofPainting (h : FailsOnly (·.isPaintingFailure) x) :
    FailsOnly (·.isRenderingFailure) x :=
  h.mono fun _ hpainting => Bool.or_eq_true_iff.2 (.inr hpainting)

end Sorts

/-! ## Numbers -/

namespace Number

/-- A whole number can be too large for a binary number. -/
theorem failsOnly_toReal (a : Number) : FailsOnly (·.isNumberFailure) a.toReal := by
  cases a with
  | real x => exact .ok
  | int n =>
      unfold toReal
      dsimp only
      split_ifs
      · exact .ok
      · exact .error rfl

/-- Two numbers can fail to be combined only as numbers do. -/
theorem failsOnly_combine (exact : Int → Int → Int) (rounded : Binary64 → Binary64 → Binary64)
    (a b : Number) : FailsOnly (·.isNumberFailure) (combine exact rounded a b) := by
  have hrounded : FailsOnly (·.isNumberFailure)
      (do let x ← a.toReal; let y ← b.toReal; return Number.real (rounded x y)) :=
    (failsOnly_toReal a).bind fun _ _ => (failsOnly_toReal b).bind fun _ _ => .ok
  unfold combine
  split
  · exact .ok
  · exact hrounded

theorem failsOnly_add (a b : Number) : FailsOnly (·.isNumberFailure) (a.add b) :=
  failsOnly_combine _ _ a b

theorem failsOnly_sub (a b : Number) : FailsOnly (·.isNumberFailure) (a.sub b) :=
  failsOnly_combine _ _ a b

theorem failsOnly_mul (a b : Number) : FailsOnly (·.isNumberFailure) (a.mul b) :=
  failsOnly_combine _ _ a b

/-- Halving a number fails on numbers only. -/
theorem failsOnly_half (a : Number) : FailsOnly (·.isNumberFailure) a.half := by
  cases a with
  | real x => exact .ok
  | int n =>
      unfold half
      dsimp only
      split_ifs
      · exact .ok
      · exact .error rfl

/-- Infinite numbers cannot be rounded to whole ones. -/
theorem failsOnly_round (a : Number) : FailsOnly (·.isNumberFailure) a.round := by
  cases a with
  | int n => exact .ok
  | real x =>
      unfold round integerOf
      dsimp only
      split
      · exact .ok
      · split_ifs
        · exact .error rfl
        · exact .error rfl

end Number

/-- A text can have too many digits for a number. -/
theorem failsOnly_leadingPositive? (text : Option String) :
    FailsOnly (·.isNumberFailure) (leadingPositive? text) := by
  cases text with
  | none => exact .ok
  | some s =>
      unfold leadingPositive? leadingPositive boundedValue
      dsimp only
      split_ifs
      · exact .ok
      · exact .map .ok
      · exact .map (.error rfl)

/-! ## Layouts -/

/-- A slot is placed unless a number of it cannot be read. -/
theorem Slot.failsOnly_placeAt (slot : Slot) (cursor : Int) :
    FailsOnly (·.isNumberFailure) (slot.placeAt cursor) :=
  (failsOnly_leadingPositive? slot.position).bind fun _ _ =>
    (failsOnly_leadingPositive? slot.height).bind fun _ _ => .ok

/-- Placing slots fails on numbers only. -/
theorem failsOnly_placeFrom (cursor : Int) (slots : List Slot) :
    FailsOnly (·.isNumberFailure) (placeFrom cursor slots) := by
  induction slots generalizing cursor with
  | nil => exact .ok
  | cons slot rest ih =>
      exact (slot.failsOnly_placeAt cursor).bind fun p _ => (ih p.stop).bind fun _ _ => .ok

section Layouts

variable (settings : Settings)

/-- A device is laid out unless a number fails. -/
theorem Device.failsOnly_layout (bottom : Number) (device : Device) (offset span : Int) :
    FailsOnly (·.isNumberFailure) (device.layout settings bottom offset span) := by
  unfold Device.layout
  apply (Number.failsOnly_mul _ _).bind
  intro rise _
  apply (bottom.failsOnly_sub rise).bind
  intro top _
  apply (Number.failsOnly_mul _ _).bind
  intro height _
  apply settings.rackWidth.failsOnly_half.bind
  intro labelX _
  apply height.failsOnly_half.bind
  intro half _
  exact (top.failsOnly_add half).bind fun _ _ => .ok

/-- Laying out devices fails on numbers only. -/
theorem failsOnly_layoutDevices (bottom : Number) (placements : List Placement) :
    FailsOnly (·.isNumberFailure) (layoutDevices settings bottom placements) := by
  induction placements with
  | nil => exact .ok
  | cons p rest ih =>
      unfold layoutDevices
      cases p.device? with
      | none => exact ih
      | some device =>
          exact (device.failsOnly_layout settings bottom p.offset p.span).bind fun _ _ =>
            ih.bind fun _ _ => .ok

/-- A rack is laid out unless a number fails. -/
theorem Rack.failsOnly_layout (rack : Rack) (units xOffset : Number) :
    FailsOnly (·.isNumberFailure) (rack.layout settings units xOffset) := by
  unfold Rack.layout
  apply (units.failsOnly_mul _).bind
  intro height _
  apply (settings.margin.failsOnly_add height).bind
  intro bottom _
  apply (failsOnly_placeFrom 0 rack.slots.reverse).bind
  intro placements _
  apply (failsOnly_layoutDevices settings bottom placements).bind
  intro devices _
  apply settings.rackWidth.failsOnly_half.bind
  intro labelX _
  exact settings.margin.failsOnly_half.bind fun _ _ => .ok

/-- All racks are laid out unless a number fails. -/
theorem failsOnly_layoutRacks (xOffset : Number) (racks : List (Rack × Number)) :
    FailsOnly (·.isNumberFailure) (layoutRacks settings xOffset racks) := by
  induction racks generalizing xOffset with
  | nil => exact .ok
  | cons first rest ih =>
      have hnext : FailsOnly (·.isNumberFailure) (settings.nextOffset xOffset) :=
        (Number.failsOnly_add _ _).bind fun stride _ => xOffset.failsOnly_add stride
      exact (first.1.failsOnly_layout settings first.2 xOffset).bind fun _ _ =>
        hnext.bind fun next _ => (ih next).bind fun _ _ => .ok

/-- The canvas has a size unless a number fails. -/
theorem Settings.failsOnly_canvasSize (racks : Int) (units : Number) :
    FailsOnly (·.isNumberFailure) (settings.canvasSize racks units) := by
  have hwidth : FailsOnly (·.isNumberFailure) (settings.canvasWidth racks) := by
    unfold Settings.canvasWidth
    apply (Number.failsOnly_mul _ _).bind
    intro margins _
    apply (Number.failsOnly_mul _ _).bind
    intro bodies _
    apply (margins.failsOnly_add bodies).bind
    intro sum _
    exact (Number.failsOnly_mul _ _).bind fun spaces _ => sum.failsOnly_add spaces
  have hheight : FailsOnly (·.isNumberFailure) (settings.canvasHeight units) := by
    unfold Settings.canvasHeight
    apply (Number.failsOnly_mul _ _).bind
    intro margins _
    exact (Number.failsOnly_mul _ _).bind fun body _ => margins.failsOnly_add body
  exact hwidth.bind fun _ _ => hheight.bind fun _ _ => .ok

/-- A layout fails only because of a number. -/
theorem RackSet.failsOnly_layout (set : RackSet) :
    FailsOnly (·.isNumberFailure) (set.layout settings) := by
  have hunits : ∀ rack ∈ set.racks, FailsOnly (·.isNumberFailure) (rack.unitCount settings) := by
    intro rack _
    apply (failsOnly_leadingPositive? rack.height).bind
    intro units _
    cases units with
    | none => exact .ok
    | some n => exact .ok
  unfold RackSet.layout
  apply (FailsOnly.mapM hunits).bind
  intro heights _
  apply (settings.failsOnly_canvasSize _ _).bind
  intro size _
  exact (failsOnly_layoutRacks settings settings.margin _).bind fun _ _ => .ok

end Layouts

/-! ## Drawings -/

/-- A drawing without foreign values, with room for its levels, fails to be written only because of
an integer. -/
theorem Drawing.failsOnly_svg {drawing : Drawing} {room : ℕ} (hroom : drawing.depth < room)
    (h : drawing.IsNative) : FailsOnly (·.isNumberFailure) (drawing.svg room) := by
  have hwritten := Drawing.isWrittenIff_svg hroom h
  by_cases hprintable : drawing.IsPrintable
  · obtain ⟨text, hsvg⟩ := hwritten.ok hprintable
    rw [hsvg]
    exact .ok
  · rw [hwritten.error hprintable]
    exact .error rfl

/-! ## Pictures -/

namespace Raster

section Pixels

/-- A length of an image can be too large for a half word. -/
theorem failsOnly_requireHalfWord (n : Int) :
    FailsOnly (·.isPaintingFailure) (requireHalfWord n) := by
  unfold requireHalfWord
  split_ifs
  · exact .error rfl
  · exact .ok
  · exact .error rfl
  · exact .error rfl

/-- A part of a colour can be out of range. -/
theorem failsOnly_pixel (color : Color) : FailsOnly (·.isPaintingFailure) color.pixel := by
  have hparts : FailsOnly (·.isPaintingFailure) (do
      requireHalfWord color.green
      requireHalfWord color.blue
      return (⟨nearestByte color.red, nearestByte color.green, nearestByte color.blue⟩ : Pixel)) :=
    (failsOnly_requireHalfWord _).bind fun _ _ => (failsOnly_requireHalfWord _).bind fun _ _ => .ok
  unfold Color.pixel
  split_ifs
  · exact .error rfl
  · exact hparts

/-- An image can be too large, or have a colour out of range. -/
theorem failsOnly_blank (width height : Int) (background : Color) :
    FailsOnly (·.isPaintingFailure) (Canvas.blank width height background) := by
  unfold Canvas.blank
  apply (failsOnly_requireHalfWord width).bind
  intro _ _
  apply (failsOnly_requireHalfWord height).bind
  intro _ _
  split_ifs
  · exact .error rfl
  · exact (failsOnly_pixel background).bind fun _ _ => .ok

/-- A call leaves marks unless its colour is out of range. -/
theorem Call.failsOnly_marks (call : Call) : FailsOnly (·.isPaintingFailure) call.marks := by
  cases call with
  | rectangle box fill outline thickness =>
      unfold Call.marks
      apply (failsOnly_pixel outline).bind
      intro _ _
      apply (failsOnly_pixel fill).bind
      intro _ _
      dsimp only
      split_ifs
      · exact .error rfl
      · exact .error rfl
      · exact .error rfl
      · exact .ok
  | text content x y fill => exact (failsOnly_pixel fill).map

end Pixels

namespace Painter

variable (painter : Painter) (measure : Measure)

/-- A scaled number can be too large, or infinite. -/
theorem failsOnly_scaled (value : Number) :
    FailsOnly (·.isNumberFailure) (painter.scaled value) :=
  (value.failsOnly_mul _).bind fun product _ => product.failsOnly_round

/-- A rectangle has whole corners unless a number fails. -/
theorem failsOnly_rectangle (x y width height : Number) (fill : Color) :
    FailsOnly (·.isNumberFailure) (painter.rectangle x y width height fill) := by
  have hbox : FailsOnly (·.isNumberFailure) (painter.box x y width height) := by
    unfold box
    apply (painter.failsOnly_scaled x).bind
    intro left _
    apply (painter.failsOnly_scaled y).bind
    intro top _
    apply (x.failsOnly_add width).bind
    intro far _
    apply (painter.failsOnly_scaled far).bind
    intro right _
    apply (y.failsOnly_add height).bind
    intro low _
    exact (painter.failsOnly_scaled low).bind fun _ _ => .ok
  exact hbox.bind fun _ _ => .ok

/-- The middle of a text is found unless a number fails. -/
theorem failsOnly_centred (middle near far : Int) :
    FailsOnly (·.isNumberFailure) (centred middle near far) := by
  unfold centred
  apply (Number.failsOnly_half _).bind
  intro half _
  exact (Number.failsOnly_sub _ half).bind fun shifted _ => shifted.failsOnly_sub _

/-- A text is drawn unless a number fails, or it is too long to be measured. -/
theorem failsOnly_text (x y : Number) (content : String) :
    FailsOnly (·.isRenderingFailure) (painter.text measure x y content) := by
  have hplaced : FailsOnly (·.isRenderingFailure) (do
      let column ← painter.scaled x
      let line ← painter.scaled y
      let left ← centred column (measure content).left (measure content).right
      let top ← centred line (measure content).top (measure content).bottom
      return [Call.text content left top painter.textColor]) := by
    apply (painter.failsOnly_scaled x).ofNumber.bind
    intro column _
    apply (painter.failsOnly_scaled y).ofNumber.bind
    intro line _
    apply (failsOnly_centred column _ _).ofNumber.bind
    intro left _
    exact (failsOnly_centred line _ _).ofNumber.bind fun _ _ => .ok
  unfold text
  dsimp only
  split_ifs
  · exact .ok
  · exact .error rfl
  · exact hplaced

/-- The name of a rack is drawn unless a number or painting fails. -/
theorem failsOnly_nameCalls (rack : RackLayout) :
    FailsOnly (·.isRenderingFailure) (painter.nameCalls measure rack) := by
  unfold nameCalls
  cases nonempty? rack.name with
  | none => exact .ok
  | some name =>
      exact (rack.xOffset.failsOnly_add rack.labelX).ofNumber.bind fun x _ =>
        painter.failsOnly_text measure x rack.labelY name

/-- Drawing the body of a rack fails on numbers only. -/
theorem failsOnly_bodyCall (rack : RackLayout) :
    FailsOnly (·.isNumberFailure) (painter.bodyCall rack) :=
  (rack.xOffset.failsOnly_add rack.bodyX).bind fun _ _ => painter.failsOnly_rectangle _ _ _ _ _

/-- A device is drawn unless a number fails. -/
theorem failsOnly_deviceCall (xOffset : Number) (device : DeviceLayout) :
    FailsOnly (·.isNumberFailure) (painter.deviceCall xOffset device).outcome := by
  unfold deviceCall
  rw [Report.outcome_andThen]
  exact (xOffset.failsOnly_add device.x).bind fun _ _ => painter.failsOnly_rectangle _ _ _ _ _

/-- The label of a device is drawn unless a number or painting fails. -/
theorem failsOnly_labelCalls (xOffset : Number) (device : DeviceLayout) :
    FailsOnly (·.isRenderingFailure) (painter.labelCalls measure xOffset device) :=
  (xOffset.failsOnly_add device.labelX).ofNumber.bind fun x _ =>
    painter.failsOnly_text measure x device.labelY device.label

/-- Every step of painting a rack fails only as rendering does. -/
theorem failsOnly_rackSteps (rack : RackLayout) :
    ∀ step ∈ painter.rackSteps measure rack, FailsOnly (·.isRenderingFailure) step.outcome := by
  -- the name, the body, and a rectangle and a label for each device
  intro step hstep
  unfold rackSteps at hstep
  rcases List.mem_cons.1 hstep with rfl | hstep
  · exact painter.failsOnly_nameCalls measure rack
  rcases List.mem_cons.1 hstep with rfl | hstep
  · exact (painter.failsOnly_bodyCall rack).map.ofNumber
  obtain ⟨device, -, hstep⟩ := List.mem_flatMap.1 hstep
  rcases List.mem_pair.1 hstep with rfl | rfl
  · exact (painter.failsOnly_deviceCall rack.xOffset device).map.ofNumber
  · exact painter.failsOnly_labelCalls measure rack.xOffset device

/-- A canvas fails only as rendering does. -/
theorem failsOnly_canvas (layout : Layout) :
    FailsOnly (·.isRenderingFailure) (painter.canvas layout measure).outcome := by
  have hblank : FailsOnly (·.isRenderingFailure) (painter.blank layout) := by
    unfold blank
    apply (painter.failsOnly_scaled layout.width).ofNumber.bind
    intro width _
    exact (painter.failsOnly_scaled layout.height).ofNumber.bind fun height _ =>
      (failsOnly_blank _ _ _).ofPainting
  unfold canvas
  rw [Report.outcome_andThen]
  -- first the image is made, then each step of each rack paints on it
  apply hblank.bind
  intro canvas _
  rw [Report.outcome_map, Report.outcome_sequence]
  apply FailsOnly.map
  apply FailsOnly.mapM
  intro report hreport
  obtain ⟨step, hstep, rfl⟩ := List.mem_map.1 hreport
  obtain ⟨rack, -, hstep⟩ := List.mem_flatMap.1 hstep
  rw [Report.outcome_andThen]
  apply (painter.failsOnly_rackSteps measure rack step hstep).bind
  intro calls _
  exact (FailsOnly.mapM fun call _ => call.failsOnly_marks).map.ofPainting

end Painter

end Raster

/-- A picture fails only as rendering does. -/
theorem Layout.failsOnly_picture (layout : Layout) (typeface : Typeface)
    (options : PainterOptions) :
    FailsOnly (·.isRenderingFailure) (layout.picture typeface options).outcome := by
  have hmake : FailsOnly (·.isRenderingFailure) (Painter.make options).outcome := by
    unfold Painter.make
    split_ifs
    · exact .error rfl
    · exact .ok
  unfold Layout.picture
  rw [Report.outcome_andThen]
  exact hmake.bind fun painter _ => (painter.failsOnly_canvas _ layout).map

end RackElevation
