import Mathlib.Tactic.Ring
import RackElevation.Proofs.Layout.Geometry
import RackElevation.Proofs.Settings.Acceptance

/-!
# Layouts of whole sizes

When the five numbers of settings are integers, all edges on the canvas are integers, and no
rounding is left.  The canvas then encloses the bodies of its racks: the margin lies all around
them, the spacing between neighbours, and the tallest one reaches down to the margin.

The width of the canvas comes from the number of racks and its height from their numbers of units,
before any rack is placed; the offsets of the racks are added up one by one.
-/

namespace RackElevation

open Number

/-- The numbers of settings, all of them integers. -/
structure Sizes where
  unitHeight : ℤ
  rackWidth : ℤ
  rackSpacing : ℤ
  margin : ℤ
  defaultRackHeight : ℤ
  deriving DecidableEq

/-- A region of the canvas, given by its edges. -/
structure Area where
  left : ℤ
  top : ℤ
  right : ℤ
  bottom : ℤ
  deriving DecidableEq

/-- A point inside an area, off its edges. -/
structure Area.Inside (area : Area) (x y : ℚ) : Prop where
  left : area.left < x
  right : x < area.right
  top : area.top < y
  bottom : y < area.bottom

/-- An area on the canvas that the body of a rack takes. -/
structure RackLayout.HasBody (rack : RackLayout) (body : Area) : Prop where
  left : rack.xOffset.add rack.bodyX = .ok (.int body.left)
  right : (Number.int body.left).add rack.bodyWidth = .ok (.int body.right)
  top : rack.bodyY = .int body.top
  bottom : rack.bottom = .ok (.int body.bottom)

namespace Sizes

/-- The settings with given sizes and fills. -/
def settings (sizes : Sizes) (colors : ColorTable) : Settings where
  unitHeight := .int sizes.unitHeight
  rackWidth := .int sizes.rackWidth
  rackSpacing := .int sizes.rackSpacing
  margin := .int sizes.margin
  defaultRackHeight := .int sizes.defaultRackHeight
  colors := colors

/-- Sizes none of which has the wrong sign. -/
structure IsUsable (sizes : Sizes) : Prop where
  unitHeight : 0 < sizes.unitHeight
  rackWidth : 0 < sizes.rackWidth
  rackSpacing : 0 ≤ sizes.rackSpacing
  margin : 0 ≤ sizes.margin
  defaultRackHeight : 0 < sizes.defaultRackHeight

variable {sizes : Sizes} {colors : ColorTable}

/-- Accepted sizes are usable. -/
theorem isUsable_of_accept
    (h : (sizes.settings colors).accept = .ok (sizes.settings colors)) : sizes.IsUsable := by
  obtain ⟨hlengths, hdefault⟩ := Settings.usable_of_accept h
  refine ⟨isPositive_int_iff.1 hlengths.unitHeight, isPositive_int_iff.1 hlengths.rackWidth,
    isNonnegative_int_iff.1 hlengths.rackSpacing, isNonnegative_int_iff.1 hlengths.margin, ?_⟩
  rcases hdefault with hpositive | hnan | hinfinite
  · exact isPositive_int_iff.1 hpositive
  · contradiction
  · contradiction

/-- The left edge of the rack that a number of racks lie left of. -/
def left (sizes : Sizes) (racks : ℕ) : ℤ :=
  sizes.margin + racks * (sizes.rackWidth + sizes.rackSpacing)

/-- The bottom edge of a rack with a number of units. -/
def bottom (sizes : Sizes) (units : ℤ) : ℤ :=
  sizes.margin + units * sizes.unitHeight

/-- The body of the rack that a number of racks lie left of. -/
def body (sizes : Sizes) (racks : ℕ) (units : ℤ) : Area where
  left := sizes.left racks
  top := sizes.margin
  right := sizes.left racks + sizes.rackWidth
  bottom := sizes.bottom units

/-- The area of a device on its units, in a rack with a given left edge and bottom edge. -/
def deviceArea (sizes : Sizes) (left bottom : ℤ) (p : Placement) : Area where
  left := left
  top := bottom - p.stop * sizes.unitHeight
  right := left + sizes.rackWidth
  bottom := bottom - p.offset * sizes.unitHeight

/-- The bodies of the racks of a rack set. -/
def bodies (sizes : Sizes) (set : RackSet) : List Area :=
  set.racks.mapIdx fun i rack => sizes.body i (rack.units sizes.defaultRackHeight)

/-- The width of the canvas for a number of racks. -/
def width (sizes : Sizes) (racks : ℕ) : ℤ :=
  2 * sizes.margin + racks * sizes.rackWidth + max ((racks : ℤ) - 1) 0 * sizes.rackSpacing

/-- The height of the canvas for the number of units of its tallest rack. -/
def height (sizes : Sizes) (units : ℤ) : ℤ :=
  2 * sizes.margin + sizes.unitHeight * units

theorem width_zero : sizes.width 0 = 2 * sizes.margin := by
  have hspaces : max (((0 : ℕ) : ℤ) - 1) 0 = 0 := by omega
  rw [width, hspaces, Nat.cast_zero, zero_mul, zero_mul, add_zero, add_zero]

theorem height_zero : sizes.height 0 = 2 * sizes.margin := by
  rw [height, mul_zero, add_zero]

/-! ## Edges -/

/-- A device reaches from its top down to its lowest unit. -/
theorem top_add_height (bottom : ℤ) (p : Placement) :
    bottom - p.stop * sizes.unitHeight + p.span * sizes.unitHeight =
      bottom - p.offset * sizes.unitHeight := by
  rw [Placement.stop]
  ring

/-- A rack ends, with the spacing behind it, before any rack to its right. -/
theorem left_add_le (husable : sizes.IsUsable) {i j : ℕ} (h : i < j) :
    sizes.left i + sizes.rackWidth + sizes.rackSpacing ≤ sizes.left j := by
  obtain ⟨k, rfl⟩ := Nat.exists_eq_add_of_lt h
  have hstride : 0 ≤ sizes.rackWidth + sizes.rackSpacing :=
    add_nonneg husable.rackWidth.le husable.rackSpacing
  calc sizes.left i + sizes.rackWidth + sizes.rackSpacing
      = sizes.left i + (sizes.rackWidth + sizes.rackSpacing) := by ring
    _ ≤ sizes.left i + (sizes.rackWidth + sizes.rackSpacing) +
          k * (sizes.rackWidth + sizes.rackSpacing) :=
        le_add_of_nonneg_right (mul_nonneg (Int.natCast_nonneg k) hstride)
    _ = sizes.left (i + k + 1) := by simp only [left]; push_cast; ring

/-- The next rack stands at the spacing. -/
theorem left_succ (i : ℕ) :
    sizes.left (i + 1) = sizes.left i + sizes.rackWidth + sizes.rackSpacing := by
  simp only [left]
  push_cast
  ring

/-- The last rack ends at the margin. -/
theorem left_last (k : ℕ) :
    sizes.left k + sizes.rackWidth = sizes.width (k + 1) - sizes.margin := by
  have hspaces : max (((k + 1 : ℕ) : ℤ) - 1) 0 = k := by omega
  rw [width, hspaces, left]
  push_cast
  ring

theorem left_nonneg (husable : sizes.IsUsable) (i : ℕ) : 0 ≤ sizes.left i :=
  add_nonneg husable.margin
    (mul_nonneg (Int.natCast_nonneg i) (add_nonneg husable.rackWidth.le husable.rackSpacing))

/-- Every rack starts on the canvas. -/
theorem left_le_width (husable : sizes.IsUsable) {i racks : ℕ} (h : i < racks) :
    sizes.left i ≤ sizes.width racks := by
  obtain ⟨k, rfl⟩ := Nat.exists_eq_add_one_of_ne_zero (Nat.ne_of_gt (Nat.zero_lt_of_lt h))
  have hle : sizes.left i ≤ sizes.left k := by
    rcases (Nat.lt_succ_iff.1 h).lt_or_eq with hlt | rfl
    · have hnext := left_add_le husable hlt
      have hwidth := husable.rackWidth
      have hspacing := husable.rackSpacing
      omega
    · exact le_rfl
  have hlast := @left_last sizes k
  have hwidth := husable.rackWidth
  have hmargin := husable.margin
  omega

/-- The tallest rack reaches the margin. -/
theorem bottom_eq (units : ℤ) : sizes.bottom units = sizes.height units - sizes.margin := by
  rw [bottom, height]
  ring

theorem bottom_mono (husable : sizes.IsUsable) {m n : ℤ} (h : m ≤ n) :
    sizes.bottom m ≤ sizes.bottom n :=
  Int.add_le_add_left (mul_le_mul_of_nonneg_right h husable.unitHeight.le) _

/-! ## Layouts -/

/-- The offsets of racks are added up to their left edges. -/
theorem offsetOf_eq (i : ℕ) : (sizes.settings colors).offsetOf i = .int (sizes.left i) := by
  have hsteps (x : ℤ) : (plus · (sizes.settings colors).stride)^[i] (.int x) =
      .int (x + i * (sizes.rackWidth + sizes.rackSpacing)) := by
    induction i generalizing x with
    | zero => rw [Function.iterate_zero, id_eq, Nat.cast_zero, zero_mul, add_zero]
    | succ i ih =>
        have hstep : (Number.int x).plus (sizes.settings colors).stride =
            .int (x + (sizes.rackWidth + sizes.rackSpacing)) := rfl
        rw [Function.iterate_succ_apply, hstep, ih]
        push_cast
        ring_nf
  exact hsteps sizes.margin

theorem unitNumber_eq (rack : Rack) :
    rack.unitNumber (sizes.settings colors) = .int (rack.units sizes.defaultRackHeight) :=
  rack.unitNumber_eq_int rfl

theorem width_geometry (set : RackSet) :
    (set.geometry (sizes.settings colors)).width = .int (sizes.width set.racks.length) := rfl

theorem height_geometry (set : RackSet) :
    (set.geometry (sizes.settings colors)).height =
      .int (sizes.height (set.tallest sizes.defaultRackHeight)) := by
  rw [RackSet.geometry, set.maximum_unitNumber rfl]
  rfl

theorem hasBody (rack : Rack) (i : ℕ) (units : ℤ) :
    (rack.geometry (sizes.settings colors) (.int units) (.int (sizes.left i))).HasBody
      (sizes.body i units) where
  left := congrArg (fun x => Except.ok (Number.int x)) (add_zero (sizes.left i))
  right := rfl
  top := rfl
  bottom := rfl

/-- The rack at a place of a layout. -/
theorem getElem?_racks (set : RackSet) (i : ℕ) :
    (set.geometry (sizes.settings colors)).racks[i]? = set.racks[i]?.map fun rack =>
      rack.geometry (sizes.settings colors) (.int (rack.units sizes.defaultRackHeight))
        (.int (sizes.left i)) := by
  simp only [RackSet.getElem?_racks_geometry, unitNumber_eq, offsetOf_eq]

theorem getElem?_bodies (set : RackSet) (i : ℕ) :
    (sizes.bodies set)[i]? =
      set.racks[i]?.map fun rack => sizes.body i (rack.units sizes.defaultRackHeight) :=
  List.getElem?_mapIdx

theorem exists_of_mem_bodies {set : RackSet} {body : Area} (h : body ∈ sizes.bodies set) :
    ∃ i, ∃ rack ∈ set.racks, body = sizes.body i (rack.units sizes.defaultRackHeight) := by
  obtain ⟨i, hi, rfl⟩ := List.mem_mapIdx.1 h
  exact ⟨i, _, List.getElem_mem hi, rfl⟩

theorem hasBody_racks (set : RackSet) :
    List.Forall₂ RackLayout.HasBody (set.geometry (sizes.settings colors)).racks
      (sizes.bodies set) := by
  have hlength : (set.geometry (sizes.settings colors)).racks.length = (sizes.bodies set).length :=
    List.length_mapIdx.trans List.length_mapIdx.symm
  refine List.forall₂_iff_get.2 ⟨hlength, fun i hracks hbodies => ?_⟩
  have hi : i < set.racks.length := hbodies.trans_eq List.length_mapIdx
  have hrack := @getElem?_racks sizes colors set i
  have hbody := @getElem?_bodies sizes set i
  rw [List.getElem?_eq_getElem hi, Option.map_some] at hrack hbody
  rw [List.getElem?_eq_getElem hracks, Option.some_inj] at hrack
  rw [List.getElem?_eq_getElem hbodies, Option.some_inj] at hbody
  rw [List.get_eq_getElem, List.get_eq_getElem, hrack, hbody]
  exact hasBody _ i _

/-- Any two bodies are at least the spacing apart, in the order of their racks. -/
theorem bodies_apart (husable : sizes.IsUsable) (set : RackSet) :
    (sizes.bodies set).Pairwise fun a b => a.right + sizes.rackSpacing ≤ b.left := by
  rw [List.pairwise_iff_getElem]
  intro i j hi hj hij
  simp only [bodies, List.getElem_mapIdx]
  exact left_add_le husable hij

/-- Neighbouring bodies are the spacing apart. -/
theorem bodies_spacing (set : RackSet) {i : ℕ} {a b : Area} (ha : (sizes.bodies set)[i]? = some a)
    (hb : (sizes.bodies set)[i + 1]? = some b) : b.left = a.right + sizes.rackSpacing := by
  rw [getElem?_bodies, Option.map_eq_some_iff] at ha hb
  obtain ⟨_, -, rfl⟩ := ha
  obtain ⟨_, -, rfl⟩ := hb
  exact left_succ i

/-- The first body starts at the margin. -/
theorem bodies_first (set : RackSet) : ∀ a ∈ (sizes.bodies set).head?, a.left = sizes.margin := by
  intro a ha
  rw [List.head?_eq_getElem?, getElem?_bodies, Option.mem_def, Option.map_eq_some_iff] at ha
  obtain ⟨_, -, rfl⟩ := ha
  rw [body, left, Nat.cast_zero, zero_mul, add_zero]

/-- The last body ends at the margin. -/
theorem bodies_last (set : RackSet) :
    ∀ a ∈ (sizes.bodies set).getLast?,
      a.right = sizes.width set.racks.length - sizes.margin := by
  intro a ha
  rw [List.getLast?_eq_getElem?, getElem?_bodies, Option.mem_def, Option.map_eq_some_iff] at ha
  obtain ⟨_, hrack, rfl⟩ := ha
  obtain ⟨hlt, -⟩ := List.getElem?_eq_some_iff.1 hrack
  obtain ⟨k, hk⟩ := Nat.exists_eq_add_one_of_ne_zero (Nat.ne_of_gt (Nat.zero_lt_of_lt hlt))
  rw [bodies, List.length_mapIdx, hk, Nat.add_sub_cancel]
  exact left_last k

end Sizes

/-- Some rack has the number of units of the tallest one. -/
theorem exists_units_eq_tallest (fallback : ℤ) {set : RackSet} (h : set.racks ≠ []) :
    ∃ rack ∈ set.racks, rack.units fallback = set.tallest fallback := by
  rw [RackSet.tallest]
  cases hmax : (set.racks.map (Rack.units fallback)).max? with
  | none =>
      rw [List.max?_eq_none_iff, List.map_eq_nil_iff] at hmax
      exact absurd hmax h
  | some n => exact List.mem_map.1 (List.max?_mem hmax)

/-- A layout whose canvas encloses the bodies of its racks, with the margin around them and the
spacing between neighbours. -/
structure Layout.Encloses (layout : Layout) (sizes : Sizes) (width height tallest : ℤ)
    (bodies : List Area) : Prop where
  canvasWidth : layout.width = .int width
  canvasHeight : layout.height = .int height
  tallestRack : layout.tallest = .int tallest
  hasBodies : List.Forall₂ RackLayout.HasBody layout.racks bodies
  /-- Each rack starts at its multiple of the stride. -/
  offset : ∀ (i : ℕ) (rack : RackLayout), layout.racks[i]? = some rack →
    rack.xOffset = .int (sizes.margin + i * (sizes.rackWidth + sizes.rackSpacing))
  solid : ∀ a ∈ bodies, a.left < a.right ∧ a.top < a.bottom
  /-- The bodies stand from left to right. -/
  apart : bodies.Pairwise fun a b => a.right + sizes.rackSpacing ≤ b.left
  disjoint : bodies.Pairwise fun a b => ∀ x y, ¬ (a.Inside x y ∧ b.Inside x y)
  spacing : ∀ (i : ℕ) (a b : Area), bodies[i]? = some a → bodies[i + 1]? = some b →
    b.left = a.right + sizes.rackSpacing
  first : ∀ a ∈ bodies.head?, a.left = sizes.margin
  last : ∀ a ∈ bodies.getLast?, a.right = width - sizes.margin
  top : ∀ a ∈ bodies, a.top = sizes.margin
  bottom_le : ∀ a ∈ bodies, a.bottom ≤ height - sizes.margin
  /-- The tallest body reaches down to the margin. -/
  reached : bodies ≠ [] → ∃ a ∈ bodies, a.bottom = height - sizes.margin
  height_eq : height = 2 * sizes.margin + sizes.unitHeight * tallest
  empty : bodies = [] → width = 2 * sizes.margin ∧ height = 2 * sizes.margin

/-- Under accepted settings of whole sizes, the canvas of a layout encloses its racks. -/
theorem RackSet.encloses_of_layout (sizes : Sizes) (colors : ColorTable)
    (haccept : (sizes.settings colors).accept = .ok (sizes.settings colors)) (set : RackSet)
    {layout : Layout} (h : set.layout (sizes.settings colors) = .ok layout) :
    layout.racks.length = set.racks.length ∧
      ∃ width height tallest bodies, layout.Encloses sizes width height tallest bodies := by
  have husable := Sizes.isUsable_of_accept haccept
  obtain ⟨-, rfl⟩ := RackSet.eq_geometry_of_layout h
  refine ⟨List.length_mapIdx, sizes.width set.racks.length,
    sizes.height (set.tallest sizes.defaultRackHeight), set.tallest sizes.defaultRackHeight,
    sizes.bodies set, ?_⟩
  constructor
  case canvasWidth => exact Sizes.width_geometry set
  case canvasHeight => exact Sizes.height_geometry set
  case tallestRack =>
    rw [set.tallest_geometry, set.maximum_unitNumber rfl]
  case hasBodies => exact Sizes.hasBody_racks set
  case offset =>
    intro i rack hrack
    rw [Sizes.getElem?_racks, Option.map_eq_some_iff] at hrack
    obtain ⟨_, -, rfl⟩ := hrack
    rfl
  case solid =>
    intro a ha
    obtain ⟨i, rack, hrack, rfl⟩ := Sizes.exists_of_mem_bodies ha
    have hunits := mul_pos (rack.units_pos husable.defaultRackHeight) husable.unitHeight
    exact ⟨lt_add_of_pos_right _ husable.rackWidth, lt_add_of_pos_right _ hunits⟩
  case apart => exact Sizes.bodies_apart husable set
  -- two bodies share no inner point, for the one on the left ends before the other begins
  case disjoint =>
    refine (Sizes.bodies_apart husable set).imp fun {a b} hapart x y ⟨ha, hb⟩ => ?_
    have hle : (a.right : ℚ) ≤ b.left :=
      Int.cast_le.2 ((le_add_of_nonneg_right husable.rackSpacing).trans hapart)
    exact lt_irrefl x (ha.right.trans (hle.trans_lt hb.left))
  case spacing => exact fun i a b ha hb => Sizes.bodies_spacing set ha hb
  case first => exact Sizes.bodies_first set
  case last => exact Sizes.bodies_last set
  case top =>
    intro a ha
    obtain ⟨i, rack, hrack, rfl⟩ := Sizes.exists_of_mem_bodies ha
    rfl
  case bottom_le =>
    intro a ha
    obtain ⟨i, rack, hrack, rfl⟩ := Sizes.exists_of_mem_bodies ha
    rw [← Sizes.bottom_eq]
    exact Sizes.bottom_mono husable (units_le_tallest sizes.defaultRackHeight hrack)
  -- some rack has the most units, and its body ends at the lower margin
  case reached =>
    intro hne
    have hracks : set.racks ≠ [] := fun hnil => hne (List.mapIdx_eq_nil_iff.2 hnil)
    obtain ⟨rack, hrack, htallest⟩ := exists_units_eq_tallest sizes.defaultRackHeight hracks
    obtain ⟨i, hi, rfl⟩ := List.mem_iff_getElem.1 hrack
    refine ⟨_, List.mem_mapIdx.2 ⟨i, hi, rfl⟩, ?_⟩
    rw [← Sizes.bottom_eq, ← htallest]
    rfl
  case height_eq => rfl
  case empty =>
    intro hnil
    rw [RackSet.tallest, List.mapIdx_eq_nil_iff.1 hnil]
    exact ⟨Sizes.width_zero, Sizes.height_zero⟩

/-- Two racks next to one another, one without a usable height. -/
def unevenRacks : RackSet where
  racks := [{ height := some "2U" }, { height := some "tall" }]

/-- Sizes without a margin and without spacing. -/
def tightSizes : Sizes := ⟨10, 100, 0, 0, 5⟩

theorem RackSet.encloses_of_layout_unevenRacks :
    (tightSizes.settings []).accept = .ok (tightSizes.settings []) ∧
    ∃ layout, unevenRacks.layout (tightSizes.settings []) = .ok layout ∧
      layout.racks.length = 2 ∧ layout.width = 200 ∧ layout.height = 50 ∧
      ∃ width height tallest bodies, layout.Encloses tightSizes width height tallest bodies := by
  have haccept : (tightSizes.settings []).accept = .ok (tightSizes.settings []) := by
    decide +kernel
  have hlayout : unevenRacks.layout (tightSizes.settings []) =
      .ok (unevenRacks.geometry (tightSizes.settings [])) := by
    decide +kernel
  obtain ⟨hlength, hencloses⟩ :=
    RackSet.encloses_of_layout tightSizes [] haccept unevenRacks hlayout
  exact ⟨haccept, _, hlayout, hlength, rfl, by decide +kernel, hencloses⟩

end RackElevation
