import Mathlib.Data.List.Basic
import Mathlib.Tactic.Ring
import RackElevation.Raster.Canvas

/-!
# The runs of a canvas

The rows of a canvas are given as runs of equal rows, each of them as runs of equal pixels.  They
are computed at few places only: where a mark starts or ends.  Between such places nothing changes,
so the runs stand for every pixel of the canvas.
-/

namespace RackElevation.Raster

/-! ## Runs -/

section Runs

variable {α β : Type}

/-- What runs stand for. -/
def expand (runs : List (ℕ × α)) : List α :=
  runs.flatMap fun run => List.replicate run.1 run.2

theorem expand_cons (run : ℕ × α) (runs : List (ℕ × α)) :
    expand (run :: runs) = List.replicate run.1 run.2 ++ expand runs :=
  List.flatMap_cons

/-- Joining equal neighbours changes nothing. -/
theorem expand_joined [DecidableEq α] (runs : List (ℕ × α)) :
    expand (Canvas.joined runs) = expand runs := by
  induction runs with
  | nil => rfl
  | cons run runs ih =>
      rw [expand_cons, ← ih, Canvas.joined, List.foldr_cons, ← Canvas.joined]
      cases Canvas.joined runs with
      | nil => rfl
      | cons next later =>
          by_cases h : run.2 = next.2
          · simp only [if_pos h, expand_cons]
            rw [List.replicate_add, List.append_assoc, h]
          · simp only [if_neg h, expand_cons]

end Runs

/-! ## Cuts -/

theorem mem_distinct {x : ℤ} {xs : List ℤ} : x ∈ Canvas.cuts.distinct xs ↔ x ∈ xs := by
  induction xs with
  | nil => rfl
  | cons a xs ih =>
      rw [Canvas.cuts.distinct, List.foldr_cons, ← Canvas.cuts.distinct]
      split
      · next h =>
          have hmem : a ∈ Canvas.cuts.distinct xs := List.mem_of_head? h
          rw [List.mem_cons, ← ih]
          exact ⟨Or.inr, fun hx => hx.elim (fun heq => heq ▸ hmem) id⟩
      · rw [List.mem_cons, List.mem_cons, ih]

/-- An ordered list without its repetitions is strictly ordered. -/
theorem pairwise_distinct {xs : List ℤ} (h : xs.Pairwise (· ≤ ·)) :
    (Canvas.cuts.distinct xs).Pairwise (· < ·) := by
  induction xs with
  | nil => exact .nil
  | cons a xs ih =>
      obtain ⟨hle, hxs⟩ := List.pairwise_cons.1 h
      have hdistinct := ih hxs
      rw [Canvas.cuts.distinct, List.foldr_cons, ← Canvas.cuts.distinct]
      split
      · exact hdistinct
      · next hhead =>
          refine List.pairwise_cons.2 ⟨fun b hb => ?_, hdistinct⟩
          cases hrest : Canvas.cuts.distinct xs with
          | nil =>
              rw [hrest] at hb
              contradiction
          | cons c rest =>
              -- the head differs from the next one, which no later one is less than
              rw [hrest] at hhead hdistinct hb
              have hac : a < c := by
                refine lt_of_le_of_ne (hle c (mem_distinct.1 (hrest ▸ List.mem_cons_self))) ?_
                rintro rfl
                exact hhead rfl
              rcases List.mem_cons.1 hb with rfl | hb
              · exact hac
              · exact hac.trans ((List.pairwise_cons.1 hdistinct).1 b hb)

/-- The places inside a side where one of some spans starts, or the first one after its end. -/
theorem mem_cuts {side : ℤ} {spans : List (ℤ × ℤ)} {x : ℤ} :
    x ∈ Canvas.cuts side spans ↔
      x = 0 ∨ 0 < x ∧ x < side ∧ ∃ s ∈ spans, x = s.1 ∨ x = s.2 + 1 := by
  simp only [Canvas.cuts, List.mem_cons, mem_distinct, List.mem_mergeSort, List.mem_filter,
    List.mem_flatMap, List.not_mem_nil, or_false, Bool.and_eq_true, decide_eq_true_eq]
  constructor
  · rintro (h | ⟨hs, h⟩)
    · exact Or.inl h
    · exact Or.inr ⟨h.1, h.2, hs⟩
  · rintro (h | ⟨hpos, hlt, hs⟩)
    · exact Or.inl h
    · exact Or.inr ⟨hs, hpos, hlt⟩

theorem pairwise_cuts (side : ℤ) (spans : List (ℤ × ℤ)) :
    (Canvas.cuts side spans).Pairwise (· < ·) := by
  have hsorted (xs : List ℤ) : (xs.mergeSort fun a b => decide (a ≤ b)).Pairwise (· ≤ ·) := by
    refine (List.pairwise_mergeSort ?_ ?_ xs).imp of_decide_eq_true
    · intro a b c hab hbc
      exact decide_eq_true ((of_decide_eq_true hab).trans (of_decide_eq_true hbc))
    · intro a b
      rw [Bool.or_eq_true, decide_eq_true_eq, decide_eq_true_eq]
      exact le_total a b
  refine List.pairwise_cons.2 ⟨fun x hx => ?_, pairwise_distinct (hsorted _)⟩
  rw [mem_distinct, List.mem_mergeSort, List.mem_filter, Bool.and_eq_true, decide_eq_true_eq] at hx
  exact hx.2.1

/-! ## Spans -/

section Spans

variable {α : Type} {f : ℤ → α} {side : ℤ}

/-- A function that does not change on a span stands at its first value. -/
theorem map_range_of_unchanged {a stop : ℤ} (h : ∀ x, a < x → x < stop → f x = f (x - 1)) :
    (List.range (stop - a).toNat).map (fun (k : ℕ) => f (a + k)) =
      List.replicate (stop - a).toNat (f a) := by
  have hvalue (k : ℕ) (hk : a + k < stop) : f (a + k) = f a := by
    induction k with
    | zero => rw [Nat.cast_zero, add_zero]
    | succ k ih =>
        rw [h _ (by omega) hk, ← ih (by omega)]
        exact congrArg f (by push_cast; ring)
  rw [List.eq_replicate_iff, List.length_map, List.length_range]
  refine ⟨rfl, List.forall_mem_map.2 fun k hk => hvalue k ?_⟩
  have hlt := List.mem_range.1 hk
  omega

/-- Spans between cuts stand for all places from the first cut on, for a function that changes at
cuts only. -/
theorem expand_spans {a : ℤ} {rest : List ℤ} (hsorted : (a :: rest).Pairwise (· < ·))
    (hside : ∀ b ∈ a :: rest, b ≤ side)
    (hf : ∀ x, a < x → x < side → x ∉ rest → f x = f (x - 1)) :
    expand ((Canvas.spans side (a :: rest)).map fun s => (s.2, f s.1)) =
      (List.range (side - a).toNat).map fun (k : ℕ) => f (a + k) := by
  -- induction on the cuts: up to the next one nothing changes, so one run stands for all places
  -- between
  induction rest generalizing a with
  | nil =>
      rw [map_range_of_unchanged fun x hlt hx => hf x hlt hx List.not_mem_nil]
      exact List.append_nil _
  | cons b rest ih =>
      obtain ⟨hlt, hrest⟩ := List.pairwise_cons.1 hsorted
      obtain ⟨-, hside⟩ := List.forall_mem_cons.1 hside
      have hab := hlt b List.mem_cons_self
      have hb := hside b List.mem_cons_self
      have hlater := (List.pairwise_cons.1 hrest).1
      have hunchanged : ∀ x, a < x → x < b → f x = f (x - 1) := by
        intro x hax hxb
        refine hf x hax (hxb.trans_le hb) fun hmem => ?_
        rcases List.mem_cons.1 hmem with rfl | hmem
        · exact lt_irrefl x hxb
        · exact lt_asymm hxb (hlater x hmem)
      have htail := ih hrest hside fun x hbx hx hmem => hf x (hab.trans hbx) hx fun h => by
        rcases List.mem_cons.1 h with rfl | h
        · exact lt_irrefl x hbx
        · exact hmem h
      have hlength : (side - a).toNat = (b - a).toNat + (side - b).toNat := by omega
      rw [Canvas.spans, List.map_cons, expand_cons, htail, hlength, List.range_add, List.map_append,
        map_range_of_unchanged hunchanged, List.map_map]
      refine congrArg _ (List.map_congr_left fun k _ => congrArg f ?_)
      push_cast
      rw [Int.toNat_of_nonneg (sub_nonneg.2 hab.le)]
      ring

/-- The spans between the cuts of a side stand for all its places. -/
theorem expand_spans_cuts (hside : 0 ≤ side) {spans : List (ℤ × ℤ)}
    (hf : ∀ x, (∀ s ∈ spans, x ≠ s.1 ∧ x ≠ s.2 + 1) → f x = f (x - 1)) :
    expand ((Canvas.spans side (Canvas.cuts side spans)).map fun s => (s.2, f s.1)) =
      (List.range side.toNat).map fun (k : ℕ) => f k := by
  have hcuts : Canvas.cuts side spans = 0 :: (Canvas.cuts side spans).tail := rfl
  have hle : ∀ x ∈ Canvas.cuts side spans, x ≤ side := by
    intro x hx
    rcases mem_cuts.1 hx with rfl | ⟨-, hlt, -⟩
    · exact hside
    · exact hlt.le
  have hsorted := pairwise_cuts side spans
  rw [hcuts] at hsorted hle ⊢
  rw [expand_spans hsorted hle, sub_zero]
  · exact List.map_congr_left fun k _ => congrArg f (zero_add _)
  · intro x hpos hlt hmem
    refine hf x fun s hs => ?_
    -- a place where a span starts or ends is a cut
    have hcut : ¬ (x = s.1 ∨ x = s.2 + 1) := by
      intro h
      have hx : x ∈ Canvas.cuts side spans := mem_cuts.2 (Or.inr ⟨hpos, hlt, s, hs, h⟩)
      rw [hcuts, List.mem_cons] at hx
      rcases hx with rfl | hx
      · exact lt_irrefl _ hpos
      · exact hmem hx
    exact not_or.1 hcut

end Spans

/-! ## Canvases -/

namespace Canvas

/-- The pixels that the runs of a canvas stand for, row by row. -/
def image (canvas : Canvas) : List (List Pixel) :=
  (expand canvas.rows).map expand

/-- The marks on other rows leave no pixel on a row. -/
theorem pixelAt_filter_hasRow (canvas : Canvas) (x y : ℤ) :
    Canvas.pixelAt { canvas with marks := canvas.marks.filter (·.box.hasRow y) } x y =
      canvas.pixelAt x y := by
  rw [pixelAt, pixelAt, List.foldl_filter]
  refine List.foldl_ext _ _ _ fun pixel mark _ => ?_
  cases mark.box.hasRow y <;> simp

/-- Between the sides of its marks, a row of a canvas does not change. -/
theorem pixelAt_column (canvas : Canvas) {x : ℤ} (y : ℤ)
    (h : ∀ mark ∈ canvas.marks, x ≠ mark.box.left ∧ x ≠ mark.box.right + 1) :
    canvas.pixelAt x y = canvas.pixelAt (x - 1) y := by
  refine List.foldl_ext _ _ _ fun pixel mark hmark => ?_
  obtain ⟨hleft, hright⟩ := h mark hmark
  have hcolumn : mark.box.hasColumn x = mark.box.hasColumn (x - 1) := by
    rw [Box.hasColumn, Box.hasColumn, ← Bool.decide_and, ← Bool.decide_and, decide_eq_decide]
    omega
  rw [hcolumn]

/-- Between the upper and lower ends of its marks, a column of a canvas does not change. -/
theorem pixelAt_row (canvas : Canvas) (x : ℤ) {y : ℤ}
    (h : ∀ mark ∈ canvas.marks, y ≠ mark.box.top ∧ y ≠ mark.box.bottom + 1) :
    canvas.pixelAt x y = canvas.pixelAt x (y - 1) := by
  refine List.foldl_ext _ _ _ fun pixel mark hmark => ?_
  obtain ⟨htop, hbottom⟩ := h mark hmark
  have hrow : mark.box.hasRow y = mark.box.hasRow (y - 1) := by
    rw [Box.hasRow, Box.hasRow, ← Bool.decide_and, ← Bool.decide_and, decide_eq_decide]
    omega
  rw [hrow]

/-- The runs of a row stand for its pixels. -/
theorem expand_row (canvas : Canvas) (hwidth : 0 ≤ canvas.width) (y : ℤ) :
    expand (canvas.row (spans canvas.width
        (cuts canvas.width (canvas.marks.map fun mark => (mark.box.left, mark.box.right)))) y) =
      (List.range canvas.width.toNat).map fun (x : ℕ) => canvas.pixelAt x y := by
  simp only [row, pixelAt_filter_hasRow, expand_joined]
  exact @expand_spans_cuts _ (canvas.pixelAt · y) _ hwidth _ fun x hx =>
    pixelAt_column canvas y (List.forall_mem_map.1 hx)

/-- The runs of a canvas stand for its pixels. -/
theorem image_eq (canvas : Canvas) (hwidth : 0 ≤ canvas.width) (hheight : 0 ≤ canvas.height) :
    canvas.image = (List.range canvas.height.toNat).map fun (y : ℕ) =>
      (List.range canvas.width.toNat).map fun (x : ℕ) => canvas.pixelAt x y := by
  simp only [image, rows, expand_joined, List.map_map, Function.comp_def]
  rw [expand_spans_cuts hheight, List.map_map]
  · exact List.map_congr_left fun y _ => expand_row canvas hwidth y
  · -- a row is computed from the pixels at its columns, none of which changes
    intro y hy
    rw [row, row]
    simp only [pixelAt_filter_hasRow]
    refine congrArg joined (List.map_congr_left fun column _ => ?_)
    rw [pixelAt_row canvas column.1 (List.forall_mem_map.1 hy)]

/-- The pixel at a place of the image of a canvas, if the place is in it. -/
def shown? (canvas : Canvas) (x y : ℕ) : Option Pixel :=
  canvas.image[y]?.bind (·[x]?)

/-- An image has a pixel at the places inside its sides. -/
theorem shown?_eq_some_iff (canvas : Canvas) (hwidth : 0 ≤ canvas.width)
    (hheight : 0 ≤ canvas.height) {x y : ℕ} {pixel : Pixel} :
    canvas.shown? x y = some pixel ↔
      x < canvas.width ∧ y < canvas.height ∧ canvas.pixelAt x y = pixel := by
  have hrange {β : Type} (f : ℕ → β) (n i : ℕ) (b : β) :
      ((List.range n).map f)[i]? = some b ↔ i < n ∧ f i = b := by
    simp only [List.getElem?_eq_some_iff, List.getElem_map, List.getElem_range, List.length_map,
      List.length_range, exists_prop]
  rw [shown?, image_eq canvas hwidth hheight, Option.bind_eq_some_iff]
  simp only [hrange]
  constructor
  · rintro ⟨_, ⟨hy, rfl⟩, hx⟩
    obtain ⟨hx, hpixel⟩ := (hrange _ _ _ _).1 hx
    exact ⟨Int.lt_toNat.1 hx, Int.lt_toNat.1 hy, hpixel⟩
  · rintro ⟨hx, hy, hpixel⟩
    exact ⟨_, ⟨Int.lt_toNat.2 hy, rfl⟩, (hrange _ _ _ _).2 ⟨Int.lt_toNat.2 hx, hpixel⟩⟩

end Canvas

end RackElevation.Raster
