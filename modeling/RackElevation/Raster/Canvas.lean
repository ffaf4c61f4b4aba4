import RackElevation.Raster.Color

/-!
# Canvases of pixels

A canvas has a size, a background and marks.  A mark is a box of pixels of one colour, its corners
included; what lies outside the canvas is cut off, and a later mark covers an earlier one.

A rectangle with an outline makes a mark for its inside and four marks for its outline, which lies
within the box as long as the box is large enough for it.
-/

namespace RackElevation.Raster

/-- A box of pixels, given by its outermost columns and rows. -/
structure Box where
  left : Int
  top : Int
  right : Int
  bottom : Int
  deriving DecidableEq, Repr

/-- Whether a box has a given column. -/
def Box.hasColumn (box : Box) (x : Int) : Bool :=
  decide (box.left ≤ x) && decide (x ≤ box.right)

/-- Whether a box has a given row. -/
def Box.hasRow (box : Box) (y : Int) : Bool :=
  decide (box.top ≤ y) && decide (y ≤ box.bottom)

/-- A box filled with one colour. -/
structure Mark where
  box : Box
  pixel : Pixel
  deriving DecidableEq, Repr

/-- A background with marks, in the order in which they are made. -/
structure Canvas where
  width : Int
  height : Int
  background : Pixel
  marks : List Mark := []
  deriving DecidableEq, Repr

/-! ## Rectangles -/

/-- The rows between two bands of a given thickness at the top and the bottom of a box.  Where the
bands overlap these are the rows from the end of the lower band to the one below the upper band. -/
def sideRows (box : Box) (thickness : Int) : Int × Int :=
  let first := box.top + thickness
  let stop := box.bottom - thickness + 1
  if first ≤ stop then (first, stop - 1) else (stop + 1, first)

/-- The boxes of an outline: the bands at the top and the bottom, and the two sides between them. -/
def outlineBoxes (box : Box) (thickness : Int) : List Box :=
  let rows := sideRows box thickness
  [⟨box.left, box.top, box.right, box.top + thickness - 1⟩,
    ⟨box.left, box.bottom - thickness + 1, box.right, box.bottom⟩,
    ⟨box.right - thickness + 1, rows.1, box.right, rows.2⟩,
    ⟨box.left, rows.1, box.left + thickness - 1, rows.2⟩]

/-- The marks of a rectangle.  An outline of the colour of the inside is not drawn. -/
def rectangleMarks (box : Box) (fill outline : Pixel) (thickness : Int) : List Mark :=
  ⟨box, fill⟩ ::
    if outline = fill then [] else (outlineBoxes box thickness).map (⟨·, outline⟩)

/-! ## Pixels -/

namespace Canvas

/-- The longest side that a row can have. -/
def rowLimit : Int := 536870910

/-- An empty canvas. -/
def blank (width height : Int) (background : Color) : Except Failure Canvas := do
  requireHalfWord width
  requireHalfWord height
  if rowLimit < width then throw .rasterTooLarge
  return { width, height, background := ← background.pixel }

/-- The pixel at a place. -/
def pixelAt (canvas : Canvas) (x y : Int) : Pixel :=
  canvas.marks.foldl (fun pixel mark =>
    if mark.box.hasColumn x && mark.box.hasRow y then mark.pixel else pixel) canvas.background

/-! ## Runs -/

/-- Runs of equal neighbours joined. -/
def joined {α : Type} [DecidableEq α] (runs : List (Nat × α)) : List (Nat × α) :=
  runs.foldr (fun run rest =>
    match rest with
    | next :: later =>
        if run.2 = next.2 then (run.1 + next.1, run.2) :: later else run :: rest
    | [] => [run]) []

/-- The places where one of some spans starts, or the first one after its end, in order and without
repetition; only places inside a side count, and its start is always one. -/
def cuts (side : Int) (spans : List (Int × Int)) : List Int :=
  let inner := (spans.flatMap fun s => [s.1, s.2 + 1]).filter fun x =>
    decide (0 < x) && decide (x < side)
  0 :: distinct (inner.mergeSort fun a b => decide (a ≤ b))
where
  /-- An ordered list without its repetitions. -/
  distinct (xs : List Int) : List Int :=
    xs.foldr (fun x rest => if rest.head? = some x then rest else x :: rest) []

/-- The spans between cuts, each with its first place and its length. -/
def spans (side : Int) : List Int → List (Int × Nat)
  | [] => []
  | [a] => [(a, (side - a).toNat)]
  | a :: b :: rest => (a, (b - a).toNat) :: spans side (b :: rest)

/-- The pixels of a row as runs. -/
def row (canvas : Canvas) (columns : List (Int × Nat)) (y : Int) : List (Nat × Pixel) :=
  let here : Canvas := { canvas with marks := canvas.marks.filter (·.box.hasRow y) }
  joined (columns.map fun column => (column.2, here.pixelAt column.1 y))

/-- The rows of a canvas as runs of equal rows. -/
def rows (canvas : Canvas) : List (Nat × List (Nat × Pixel)) :=
  let boxes := canvas.marks.map (·.box)
  let columns := spans canvas.width (cuts canvas.width (boxes.map fun b => (b.left, b.right)))
  let lines := spans canvas.height (cuts canvas.height (boxes.map fun b => (b.top, b.bottom)))
  joined (lines.map fun line => (line.2, canvas.row columns line.1))

end Canvas

end RackElevation.Raster
