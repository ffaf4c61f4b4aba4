import RackElevation.Datum
import RackElevation.Markup.Space
import RackElevation.Markup.Writer

/-!
# Drawings

A drawing is a canvas with a tree of primitives: rectangles, labels and style rules, and links and
groups that hold further primitives.  The tree may also hold foreign values; such a drawing can be
walked but not written.

A drawing is walked with an explicit stack, so a tree of any depth is.  It is made into elements by
calls that are nested as deep as the tree is, and so are the calls that write the elements.  How
many calls may still be nested depends on the interpreter and on the calls that are under way, and
it is a parameter here.
-/

namespace RackElevation

open Markup

/-- A filled rectangle with an outline. -/
structure Rect where
  x : Number
  y : Number
  width : Number
  height : Number
  fill : String
  stroke : String := "black"
  deriving DecidableEq

/-- A text that is centred on a point. -/
structure Label where
  x : Number
  y : Number
  content : String
  fontFamily : String := "sans-serif"
  deriving DecidableEq

/-- The style rule that makes links stand out under the pointer. -/
def hoverStyle : String := "a:hover \x7b filter: saturate(4); \x7d"

/-- One part of a drawing. -/
inductive Primitive where
  | rect (rect : Rect)
  | label (label : Label)
  | style (css : String)
  | link (href : String) (children : List Primitive)
  | group (translate : Option (Number × Number)) (children : List Primitive)
  | foreign (value : Datum)

/-- A canvas with its primitives in drawing order. -/
structure Drawing where
  width : Number
  height : Number
  children : List Primitive := []

namespace Primitive

/-- The primitives that a link or a group holds. -/
def children : Primitive → List Primitive
  | .link _ children => children
  | .group _ children => children
  | _ => []

/-- The name of the sort of a primitive. -/
def sort : Primitive → String
  | .rect _ => "Rect"
  | .label _ => "Text"
  | .style _ => "Style"
  | .link .. => "Link"
  | .group .. => "Group"
  | .foreign _ => "Foreign"

mutual

/-- The number of primitives in a tree. -/
def size : Primitive → Nat
  | .link _ children => sizes children + 1
  | .group _ children => sizes children + 1
  | .rect _ => 1
  | .label _ => 1
  | .style _ => 1
  | .foreign _ => 1

/-- The number of primitives in a row of trees. -/
def sizes : List Primitive → Nat
  | [] => 0
  | p :: rest => size p + sizes rest

end

theorem sizes_append (ps qs : List Primitive) : sizes (ps ++ qs) = sizes ps + sizes qs := by
  induction ps with
  | nil => simp [sizes]
  | cons p ps ih => simp only [List.cons_append, sizes, ih]; omega

theorem sizes_children_lt (p : Primitive) : sizes p.children < size p := by
  cases p <;> simp [children, size, sizes]

/-- The primitives that are visited from a stack of trees: the top one, then its children in front
of the rest of the stack. -/
def walkStack : List Primitive → List Primitive
  | [] => []
  | p :: stack => p :: walkStack (p.children ++ stack)
termination_by stack => sizes stack
decreasing_by
  simp only [sizes_append, sizes]
  have := sizes_children_lt p
  omega

end Primitive

/-- The attributes of a rectangle. -/
def Rect.attributes (r : Rect) : Except Failure (List (String × String)) := do
  let x ← r.x.coordinateText
  let y ← r.y.coordinateText
  let width ← r.width.coordinateText
  let height ← r.height.coordinateText
  return [("x", x), ("y", y), ("width", width), ("height", height), ("fill", r.fill),
    ("stroke", r.stroke)]

/-- The attributes of a label. -/
def Label.attributes (l : Label) : Except Failure (List (String × String)) := do
  let x ← l.x.coordinateText
  let y ← l.y.coordinateText
  return [("x", x), ("y", y), ("text-anchor", "middle"), ("dominant-baseline", "central"),
    ("font-family", l.fontFamily)]

/-- The text of a shift. -/
def translateText (x y : Number) : Except Failure String := do
  return "translate(" ++ (← x.coordinateText) ++ ", " ++ (← y.coordinateText) ++ ")"

/-- The attributes of a group. -/
def groupAttributes (translate : Option (Number × Number)) :
    Except Failure (List (String × String)) :=
  match translate with
  | none => .ok []
  | some (x, y) => do return [("transform", ← translateText x y)]

namespace Primitive

mutual

/-- The number of levels in a tree of primitives.  A foreign value has a level for each list, tuple
or table that it holds inside another one. -/
def depth : Primitive → Nat
  | .link _ children => depths children + 1
  | .group _ children => depths children + 1
  | .foreign value => value.depth + 1
  | .rect _ => 1
  | .label _ => 1
  | .style _ => 1

/-- The number of levels in a row of trees. -/
def depths : List Primitive → Nat
  | [] => 0
  | p :: rest => max (depth p) (depths rest)

end

mutual

/-- The element of a primitive, where so many calls may be nested; a foreign value has none. -/
def toNode (room : Nat) (p : Primitive) : Except Failure (Node String) :=
  match room, p with
  | 0, _ => .error .nestedTooDeep
  | _ + 1, .rect r => do return .element "rect" (← r.attributes) []
  | _ + 1, .label l => do return .element "text" (← l.attributes) (Node.ofText l.content)
  | _ + 1, .style css => .ok (.element "style" [] (Node.ofText css))
  | room + 1, .link href children => do
      return .element "a" [("href", href)] (← toNodes room children)
  | room + 1, .group translate children => do
      let attributes ← groupAttributes translate
      return .element "g" attributes (← toNodes room children)
  | room + 1, .foreign value =>
      if room < value.depth then .error .nestedTooDeep
      else do .error (.unsupportedPrimitive (← value.shown))

/-- The elements of a row of primitives, where so many calls may be nested. -/
def toNodes (room : Nat) : List Primitive → Except Failure (List (Node String))
  | [] => .ok []
  | p :: rest => do
      let node ← toNode room p
      return node :: (← toNodes room rest)

end

end Primitive

/-- The number of calls that may be nested in each other when no other calls are under way. -/
def nestingLimit : Nat := 1000

/-- The line before a drawing that is written to a file. -/
def declarationLine : String := "<?xml version=\"1.0\" encoding=\"UTF-8\"?>\n"

namespace Drawing

/-- All primitives of a drawing, each before those it holds. -/
def walk (drawing : Drawing) : List Primitive :=
  Primitive.walkStack drawing.children

/-- The sorts of all primitives of a drawing, in the order of the walk. -/
def sorts (drawing : Drawing) : List String :=
  drawing.walk.map Primitive.sort

/-- The number of levels in the tree of a drawing. -/
def depth (drawing : Drawing) : Nat :=
  Primitive.depths drawing.children

/-- The element tree of a drawing, where so many calls may be nested. -/
def toNode (drawing : Drawing) (room : Nat) : Except Failure (Node String) := do
  let height ← drawing.height.coordinateText
  let width ← drawing.width.coordinateText
  let children ← Primitive.toNodes room drawing.children
  return .element "svg" [("baseProfile", "full"), ("height", height), ("version", "1.1"),
    ("width", width), ("xmlns", svgSpace), ("xmlns:xlink", linkSpace)] children

/-- The text of a drawing, where so many calls may be nested, also while the tree is written. -/
def svg (drawing : Drawing) (room : Nat) : Except Failure String := do
  let node ← drawing.toNode room
  if room < node.levels then .error .nestedTooDeep else return node.written

/-- The text of a drawing with the declaration line before it. -/
def svgFile (drawing : Drawing) (room : Nat) : Except Failure String :=
  (drawing.svg room).map (declarationLine ++ ·)

end Drawing

end RackElevation
