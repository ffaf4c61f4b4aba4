import RackElevation.Proofs.Raster.Agreement
import RackElevation.Proofs.Raster.Runs

/-!
# What covers what

A later rectangle covers an earlier one, and an outline lies within its box.  So a place shows the
inside of a rectangle when it is off its outline and off the boxes of all later rectangles, and it
shows the background when it is off all boxes.
-/

namespace RackElevation.Raster

/-! ## Boxes -/

namespace Box

/-- A place in a box, its edges included. -/
structure Has (box : Box) (x y : ℤ) : Prop where
  left : box.left ≤ x
  right : x ≤ box.right
  top : box.top ≤ y
  bottom : y ≤ box.bottom

/-- A box without a border of a given thickness. -/
def inner (box : Box) (thickness : ℤ) : Box :=
  ⟨box.left + thickness, box.top + thickness, box.right - thickness, box.bottom - thickness⟩

/-- A box that is larger than an outline is thick. -/
structure IsRoomy (box : Box) (thickness : ℤ) : Prop where
  width : box.left + thickness ≤ box.right
  height : box.top + thickness ≤ box.bottom

/-- A place is in a box when its column and its row are. -/
theorem has_iff {box : Box} {x y : ℤ} :
    (box.hasColumn x && box.hasRow y) = true ↔ box.Has x y := by
  simp only [hasColumn, hasRow, Bool.and_eq_true, decide_eq_true_eq]
  constructor
  · rintro ⟨⟨hleft, hright⟩, htop, hbottom⟩
    exact ⟨hleft, hright, htop, hbottom⟩
  · intro h
    exact ⟨⟨h.left, h.right⟩, h.top, h.bottom⟩

/-- The sides of an outline stay between the top and the bottom of a roomy box. -/
theorem sideRows_bounds {box : Box} {thickness : ℤ} (hthickness : 0 ≤ thickness)
    (hroomy : box.IsRoomy thickness) :
    box.top ≤ (sideRows box thickness).1 ∧ (sideRows box thickness).2 ≤ box.bottom := by
  have hheight := hroomy.height
  rw [sideRows]
  split
  · constructor <;> dsimp only <;> omega
  · constructor <;> dsimp only <;> omega

/-- The outline of a roomy box lies in the box, off its inside. -/
theorem has_of_mem_outlineBoxes {box part : Box} {thickness x y : ℤ} (hthickness : 0 ≤ thickness)
    (hroomy : box.IsRoomy thickness) (hpart : part ∈ outlineBoxes box thickness)
    (h : part.Has x y) : box.Has x y ∧ ¬ (box.inner thickness).Has x y := by
  obtain ⟨htop, hbottom⟩ := sideRows_bounds hthickness hroomy
  obtain ⟨hwidth, hheight⟩ := hroomy
  simp only [outlineBoxes, List.mem_cons, List.not_mem_nil, or_false] at hpart
  -- each part lies on one of the four borders
  rcases hpart with rfl | rfl | rfl | rfl
  all_goals
    obtain ⟨h₁, h₂, h₃, h₄⟩ := h
    dsimp only at h₁ h₂ h₃ h₄
    refine ⟨⟨by omega, by omega, by omega, by omega⟩, fun hinner => ?_⟩
    obtain ⟨h₅, h₆, h₇, h₈⟩ := hinner
    dsimp only [inner] at h₅ h₆ h₇ h₈
    omega

end Box

/-! ## Colours -/

namespace Color

/-- A colour whose components are bytes. -/
structure IsByte (color : Color) : Prop where
  red : 0 ≤ color.red ∧ color.red ≤ 255
  green : 0 ≤ color.green ∧ color.green ≤ 255
  blue : 0 ≤ color.blue ∧ color.blue ≤ 255

instance (color : Color) : Decidable color.IsByte :=
  decidable_of_iff ((0 ≤ color.red ∧ color.red ≤ 255) ∧ (0 ≤ color.green ∧ color.green ≤ 255) ∧
    0 ≤ color.blue ∧ color.blue ≤ 255)
    ⟨fun ⟨h₁, h₂, h₃⟩ => ⟨h₁, h₂, h₃⟩, fun ⟨h₁, h₂, h₃⟩ => ⟨h₁, h₂, h₃⟩⟩

/-- The bytes nearest to the components of a colour. -/
def bytes (color : Color) : Pixel :=
  ⟨nearestByte color.red, nearestByte color.green, nearestByte color.blue⟩

/-- A pixel that has exactly the components of a colour. -/
structure IsShownBy (color : Color) (pixel : Pixel) : Prop where
  red : (pixel.red : ℤ) = color.red
  green : (pixel.green : ℤ) = color.green
  blue : (pixel.blue : ℤ) = color.blue

/-- A byte is the nearest byte to itself. -/
theorem nearestByte_eq {n : ℤ} (h : 0 ≤ n ∧ n ≤ 255) : (nearestByte n : ℤ) = n := by
  rw [nearestByte, min_eq_left h.2, Int.toNat_of_nonneg h.1]

/-- A colour made of bytes is shown by its own bytes. -/
theorem IsByte.isShownBy {color : Color} (h : color.IsByte) : color.IsShownBy color.bytes :=
  ⟨nearestByte_eq h.red, nearestByte_eq h.green, nearestByte_eq h.blue⟩

/-- A byte fits nine bits and more, one of them for the sign. -/
theorem fitsBits_of_byte {n : ℤ} (h : 0 ≤ n ∧ n ≤ 255) {bits : ℕ} (hbits : 9 ≤ bits) :
    fitsBits bits n = true := by
  have hpow : (2 ^ 8 : ℕ) ≤ Nat.pow 2 (bits - 1) :=
    Nat.pow_le_pow_right two_pos (Nat.le_sub_of_add_le hbits)
  rw [fitsBits, Bool.and_eq_true, decide_eq_true_eq, decide_eq_true_eq]
  omega

/-- A byte fits 32 bits. -/
theorem requireHalfWord_of_byte {n : ℤ} (h : 0 ≤ n ∧ n ≤ 255) : requireHalfWord n = .ok () := by
  rw [requireHalfWord, fitsBits_of_byte h (by decide), fitsBits_of_byte h (by decide)]
  rfl

/-- A colour of bytes can be painted. -/
theorem IsByte.pixel_eq {color : Color} (h : color.IsByte) : color.pixel = .ok color.bytes := by
  rw [Color.pixel, fitsBits_of_byte h.red (by decide), requireHalfWord_of_byte h.green,
    requireHalfWord_of_byte h.blue]
  rfl

end Color

/-! ## Marks -/

/-- What marks leave at a place, one over the other. -/
def markedPixel (marks : List Mark) (x y : ℤ) (under : Pixel) : Pixel :=
  marks.foldl (fun pixel mark =>
    if mark.box.hasColumn x && mark.box.hasRow y then mark.pixel else pixel) under

section Marks

variable {x y : ℤ}

/-- Later marks lie over earlier ones. -/
theorem markedPixel_append (marks marks' : List Mark) (under : Pixel) :
    markedPixel (marks ++ marks') x y under =
      markedPixel marks' x y (markedPixel marks x y under) :=
  List.foldl_append

theorem markedPixel_cons (mark : Mark) (marks : List Mark) (under : Pixel) :
    markedPixel (mark :: marks) x y under =
      markedPixel marks x y
        (if mark.box.hasColumn x && mark.box.hasRow y then mark.pixel else under) := rfl

/-- Marks leave what they do not cover. -/
theorem markedPixel_of_off {marks : List Mark} (h : ∀ mark ∈ marks, ¬ mark.box.Has x y)
    (under : Pixel) : markedPixel marks x y under = under := by
  induction marks with
  | nil => rfl
  | cons mark marks ih =>
      obtain ⟨hmark, hmarks⟩ := List.forall_mem_cons.1 h
      rw [markedPixel_cons, if_neg (mt Box.has_iff.1 hmark), ih hmarks]

variable {box : Box} {fill outline : Pixel} {thickness : ℤ}

/-- A rectangle leaves what is off its box. -/
theorem markedPixel_rectangle_of_off (hthickness : 0 ≤ thickness) (hroomy : box.IsRoomy thickness)
    (h : ¬ box.Has x y) (under : Pixel) :
    markedPixel (rectangleMarks box fill outline thickness) x y under = under := by
  refine markedPixel_of_off (List.forall_mem_cons.2 ⟨h, ?_⟩) under
  split
  · exact fun _ hmark => absurd hmark List.not_mem_nil
  · exact List.forall_mem_map.2 fun part hpart hpart' =>
      h (Box.has_of_mem_outlineBoxes hthickness hroomy hpart hpart').1

/-- A rectangle shows its fill off its outline. -/
theorem markedPixel_rectangle_of_inner (hthickness : 0 ≤ thickness)
    (hroomy : box.IsRoomy thickness) (h : (box.inner thickness).Has x y) (under : Pixel) :
    markedPixel (rectangleMarks box fill outline thickness) x y under = fill := by
  have hbox : box.Has x y := by
    obtain ⟨h₁, h₂, h₃, h₄⟩ := h
    dsimp only [Box.inner] at h₁ h₂ h₃ h₄
    exact ⟨by omega, by omega, by omega, by omega⟩
  rw [rectangleMarks, markedPixel_cons, if_pos (Box.has_iff.2 hbox)]
  refine markedPixel_of_off ?_ fill
  split
  · exact fun _ hmark => absurd hmark List.not_mem_nil
  · exact List.forall_mem_map.2 fun part hpart hpart' =>
      (Box.has_of_mem_outlineBoxes hthickness hroomy hpart hpart').2 h

end Marks

/-! ## Rectangles over one another -/

/-- A rectangle that is drawn: its box and the colour of its inside. -/
structure Tile where
  box : Box
  color : Color

namespace Tile

/-- The marks of a rectangle that is drawn with the outline of all rectangles. -/
def marks (thickness : ℤ) (tile : Tile) : List Mark :=
  rectangleMarks tile.box tile.color.bytes (colorOf outlineColor).bytes thickness

end Tile

section Tiles

variable {x y thickness : ℤ} {tiles : List Tile}

/-- Rectangles leave what is off their boxes. -/
theorem markedPixel_tiles_of_off (hthickness : 0 ≤ thickness)
    (hroomy : ∀ tile ∈ tiles, tile.box.IsRoomy thickness)
    (h : ∀ tile ∈ tiles, ¬ tile.box.Has x y) (under : Pixel) :
    markedPixel (tiles.flatMap (Tile.marks thickness)) x y under = under := by
  induction tiles generalizing under with
  | nil => rfl
  | cons tile tiles ih =>
      obtain ⟨htile, htiles⟩ := List.forall_mem_cons.1 hroomy
      obtain ⟨hoff, hoffs⟩ := List.forall_mem_cons.1 h
      rw [List.flatMap_cons, markedPixel_append, ih htiles hoffs, Tile.marks,
        markedPixel_rectangle_of_off hthickness htile hoff]

/-- A rectangle shows its colour where it is off its outline and off the boxes of all later ones. -/
theorem markedPixel_tiles {before after : List Tile} {tile : Tile} (hthickness : 0 ≤ thickness)
    (hroomy : ∀ tile' ∈ tile :: after, tile'.box.IsRoomy thickness)
    (hinner : (tile.box.inner thickness).Has x y) (h : ∀ tile' ∈ after, ¬ tile'.box.Has x y)
    (under : Pixel) :
    markedPixel ((before ++ tile :: after).flatMap (Tile.marks thickness)) x y under =
      tile.color.bytes := by
  obtain ⟨htile, hafter⟩ := List.forall_mem_cons.1 hroomy
  rw [List.flatMap_append, markedPixel_append, List.flatMap_cons, markedPixel_append,
    markedPixel_tiles_of_off hthickness hafter h, Tile.marks,
    markedPixel_rectangle_of_inner hthickness htile hinner]

end Tiles

/-! ## The canvas of a layout -/

namespace Painter

variable {painter : Painter} {measure : Measure}

/-- The marks of some calls. -/
def callMarks (calls : List Call) : Except Failure (List Mark) :=
  (calls.mapM Call.marks).map List.flatten

/-- Calls in a row leave the marks of their parts, in that order. -/
theorem callMarks_append_eq_ok {calls calls' : List Call} {marks : List Mark} :
    callMarks (calls ++ calls') = .ok marks ↔
      ∃ a b, callMarks calls = .ok a ∧ callMarks calls' = .ok b ∧ a ++ b = marks :=
  mapM_flatten_append_eq_ok

/-- Steps that are marked one by one are marked as what they draw together. -/
theorem marked_steps_eq_ok {steps : List (Report (List Call))} {marks : List Mark} :
    (∃ rows, steps.mapM (fun step => step.outcome >>= callMarks) = .ok rows ∧
      rows.flatten = marks) ↔
      ∃ calls, drawn steps = .ok calls ∧ callMarks calls = .ok marks := by
  induction steps generalizing marks with
  | nil =>
      constructor
      · rintro ⟨_, ⟨⟩, rfl⟩
        exact ⟨[], rfl, rfl⟩
      · rintro ⟨_, ⟨⟩, ⟨⟩⟩
        exact ⟨[], rfl, rfl⟩
  | cons step steps ih =>
      -- marking step by step or all calls at once fails at the same first call
      simp only [List.mapM_cons, bind_eq_ok, pure_eq_ok, drawn_cons_eq_ok]
      constructor
      · rintro ⟨_, ⟨row, ⟨calls, hcalls, hrow⟩, rows, hrows, rfl⟩, rfl⟩
        obtain ⟨calls', hcalls', hmarks⟩ := ih.1 ⟨rows, hrows, rfl⟩
        exact ⟨_, ⟨calls, calls', hcalls, hcalls', rfl⟩,
          callMarks_append_eq_ok.2 ⟨row, _, hrow, hmarks, rfl⟩⟩
      · rintro ⟨_, ⟨calls, calls', hcalls, hcalls', rfl⟩, hmarks⟩
        obtain ⟨row, marks', hrow, hmarks', rfl⟩ := callMarks_append_eq_ok.1 hmarks
        obtain ⟨rows, hrows, rfl⟩ := ih.2 ⟨calls', hcalls', hmarks'⟩
        exact ⟨_, ⟨row, ⟨calls, hcalls, hrow⟩, rows, hrows, rfl⟩, rfl⟩

/-- The canvas of a layout is the empty one with the marks of all calls. -/
theorem canvas_eq_ok {layout : Layout} {canvas : Canvas} :
    (painter.canvas layout measure).outcome = .ok canvas ↔
      ∃ blank calls marks, painter.blank layout = .ok blank ∧
        (painter.calls layout measure).outcome = .ok calls ∧ callMarks calls = .ok marks ∧
        { blank with marks := marks } = canvas := by
  -- each step is marked on its own; together they leave the marks of all calls
  have hmarked : (Report.sequence ((painter.steps layout measure).map fun step =>
      step.andThen fun calls => .ofOutcome (callMarks calls))).outcome =
        (painter.steps layout measure).mapM fun step => step.outcome >>= callMarks := by
    rw [Report.outcome_sequence, List.mapM_map]
    simp only [Function.comp_def, Report.outcome_andThen, Report.outcome_ofOutcome]
    rfl
  have hcanvas : (painter.canvas layout measure).outcome = .ok canvas ↔
      ∃ blank, painter.blank layout = .ok blank ∧
        ∃ marks, (painter.steps layout measure).mapM (fun step => step.outcome >>= callMarks) =
          .ok marks ∧ { blank with marks := marks.flatten } = canvas := by
    rw [Painter.canvas, Report.outcome_andThen, Report.outcome_ofOutcome]
    refine bind_eq_ok.trans (exists_congr fun blank => and_congr_right fun _ => ?_)
    rw [← hmarked]
    exact map_eq_ok
  rw [hcanvas, outcome_calls]
  constructor
  · rintro ⟨blank, hblank, rows, hrows, hcanvas⟩
    obtain ⟨calls, hcalls, hmarks⟩ := marked_steps_eq_ok.1 ⟨rows, hrows, rfl⟩
    exact ⟨blank, calls, _, hblank, hcalls, hmarks, hcanvas⟩
  · rintro ⟨blank, calls, marks, hblank, hcalls, hmarks, hcanvas⟩
    obtain ⟨rows, hrows, rfl⟩ := marked_steps_eq_ok.2 ⟨calls, hcalls, hmarks⟩
    exact ⟨blank, hblank, rows, hrows, hcanvas⟩

end Painter

end RackElevation.Raster
