import RackElevation.Drawing.Assembly
import RackElevation.Proofs.Outcome

/-!
# The shapes of a drawing

A drawing flattened: its rectangles and its labels that are not empty, in drawing order, at their
places on the canvas.  Links and groups are opened, and the shift of a group is added to the places
of everything inside it.  Style rules leave no shape.
-/

namespace RackElevation

/-- A rectangle or a label at its place on the canvas. -/
inductive Shape where
  | rect (rect : Rect)
  | label (label : Label)

/-- A shape with a shift added to its place. -/
def Shape.shift (dx dy : Number) : Shape → Except Failure Shape
  | .rect r => do return .rect { r with x := ← dx.add r.x, y := ← dy.add r.y }
  | .label l => do return .label { l with x := ← dx.add l.x, y := ← dy.add l.y }

/-- The label as a shape, unless it is empty. -/
def Label.shapes (l : Label) : List Shape :=
  if l.content.isEmpty then [] else [.label l]

namespace Primitive

mutual

/-- The shapes of a primitive. -/
def shapes : Primitive → Except Failure (List Shape)
  | .rect r => .ok [.rect r]
  | .label l => .ok l.shapes
  | .style _ => .ok []
  | .link _ children => shapesOfRow children
  | .group none children => shapesOfRow children
  | .group (some (dx, dy)) children => do (← shapesOfRow children).mapM (Shape.shift dx dy)
  | .foreign _ => .ok []

/-- The shapes of a row of primitives. -/
def shapesOfRow : List Primitive → Except Failure (List Shape)
  | [] => .ok []
  | p :: rest => do
      let first ← shapes p
      return first ++ (← shapesOfRow rest)

end

theorem shapesOfRow_append (ps qs : List Primitive) :
    shapesOfRow (ps ++ qs) = do return (← shapesOfRow ps) ++ (← shapesOfRow qs) := by
  induction ps with
  | nil =>
      simp only [List.nil_append, shapesOfRow, ok_bind, List.nil_append, bind_pure]
  | cons p ps ih =>
      simp only [List.cons_append, shapesOfRow, ih, bind_assoc, pure_bind, List.append_assoc]

end Primitive

/-- The shapes of a drawing, each at its place on the canvas. -/
def Drawing.shapes (drawing : Drawing) : Except Failure (List Shape) :=
  Primitive.shapesOfRow drawing.children

/-! ## Assembled drawings -/

/-- The shapes of a device relative to its rack. -/
def DeviceLayout.shapes (device : DeviceLayout) : List Shape :=
  .rect device.rect :: device.caption.shapes

/-- The name of a rack as a shape relative to the rack. -/
def RackLayout.nameShapes (rack : RackLayout) : List Shape :=
  match nonempty? rack.name with
  | some name => [.label { x := rack.labelX, y := rack.labelY, content := name }]
  | none => []

/-- The shapes of a rack relative to it. -/
def RackLayout.shapes (rack : RackLayout) : List Shape :=
  rack.nameShapes ++ .rect rack.body :: rack.devices.flatMap DeviceLayout.shapes

theorem nonempty?_eq_some {text : Option String} {s : String} :
    nonempty? text = some s ↔ text = some s ∧ s.isEmpty = false := by
  cases text with
  | none => simp [nonempty?]
  | some t =>
      simp only [nonempty?, Option.filter_eq_some_iff, Option.some.injEq, Bool.not_eq_true']

/-- A device has the same shapes with and without a link. -/
theorem shapesOfRow_primitives (device : DeviceLayout) :
    Primitive.shapesOfRow device.primitives = .ok device.shapes := by
  rw [DeviceLayout.primitives]
  cases nonempty? device.href <;>
    simp only [Primitive.shapesOfRow, Primitive.shapes, ok_bind, List.append_nil] <;> rfl

theorem shapesOfRow_devices (devices : List DeviceLayout) :
    Primitive.shapesOfRow (devices.flatMap DeviceLayout.primitives) =
      .ok (devices.flatMap DeviceLayout.shapes) := by
  induction devices with
  | nil => rfl
  | cons device devices ih =>
      rw [List.flatMap_cons, Primitive.shapesOfRow_append, shapesOfRow_primitives, ok_bind, ih,
        ok_bind,
        List.flatMap_cons]
      rfl

theorem shapesOfRow_caption (rack : RackLayout) :
    Primitive.shapesOfRow rack.caption = .ok rack.nameShapes := by
  rw [RackLayout.caption, RackLayout.nameShapes]
  cases h : nonempty? rack.name with
  | none => rfl
  | some name =>
      have hname : name.isEmpty = false := (nonempty?_eq_some.1 h).2
      simp only [Primitive.shapesOfRow, Primitive.shapes, Label.shapes, hname, ok_bind]
      rfl

/-- The shapes of the group of a rack are those of the rack, shifted right by its offset. -/
theorem shapes_group (rack : RackLayout) :
    rack.group.shapes = rack.shapes.mapM (Shape.shift rack.xOffset 0) := by
  rw [RackLayout.group, Primitive.shapes, Primitive.shapesOfRow_append, shapesOfRow_caption,
    ok_bind, Primitive.shapesOfRow, Primitive.shapes, ok_bind, shapesOfRow_devices, ok_bind,
    RackLayout.shapes]
  rfl

/-- The hover style leaves no shape. -/
theorem shapes_drawing (layout : Layout) (hover : Bool) :
    (layout.drawing hover).shapes =
      Primitive.shapesOfRow (layout.racks.map RackLayout.group) := by
  cases hover with
  | false => rfl
  | true =>
      rw [Drawing.shapes, Layout.drawing, if_pos rfl, List.singleton_append, Primitive.shapesOfRow,
        Primitive.shapes, ok_bind]
      simp only [List.nil_append, bind_pure]

end RackElevation
