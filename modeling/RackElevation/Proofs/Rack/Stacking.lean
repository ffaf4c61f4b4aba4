import Mathlib.Algebra.Order.BigOperators.Group.List
import Mathlib.Algebra.Order.Ring.Int
import Mathlib.Data.Int.ConditionallyCompleteOrder
import Mathlib.Order.CompletePartialOrder
import Mathlib.Order.ConditionallyCompleteLattice.Basic
import RackElevation.Proofs.Rack.Placement

/-!
# Stacking of slots

Slots are placed on each other, from the bottom of a rack up.  A slot overlaps one that was placed
before it only when a slot between them, or the upper one itself, is pinned below the cursor.

The cursor is the end of the slot placed last, so it lies above every slot placed since the last pin
below it.  That is shown from one slot to the next, and then for any two of them.
-/

namespace RackElevation

/-- The units that a placement takes. -/
def Placement.units (p : Placement) : Set ℤ :=
  Set.Ico p.offset p.stop

/-- A slot with a usable position. -/
def Slot.IsPinned (slot : Slot) : Prop :=
  ∃ n, slot.usablePosition = .ok (some n)

/-- The cursor after some placements: the end of the last one. -/
def cursorAfter (cursor : ℤ) (ps : List Placement) : ℤ :=
  (ps.getLast?.map Placement.stop).getD cursor

/-- A slot whose usable position lies below the cursor that it finds. -/
def PinsBelow (ps : List Placement) (k : ℕ) : Prop :=
  ∃ p n, ps[k]? = some p ∧ p.slot.usablePosition = .ok (some n) ∧
    n - 1 < cursorAfter 0 (ps.take k)

/-! ## The cursor -/

section Cursor

variable {cursor : ℤ} {slots : List Slot} {ps : List Placement} {k : ℕ} {p : Placement}

/-- The cursor goes on from the end of the first placement. -/
theorem cursorAfter_cons (cursor : ℤ) (p : Placement) (ps : List Placement) :
    cursorAfter cursor (p :: ps) = cursorAfter p.stop ps := by
  rw [cursorAfter, cursorAfter, List.getLast?_cons]
  cases ps.getLast? <;> rfl

/-- The cursor after a placement is its end. -/
theorem cursorAfter_take_succ (h : ps[k]? = some p) :
    cursorAfter cursor (ps.take (k + 1)) = p.stop := by
  rw [cursorAfter, List.take_add_one, h, Option.toList_some, List.getLast?_concat]
  rfl

/-- Every slot is placed at the cursor that it finds. -/
theorem getElem?_placementsFrom (cursor : ℤ) (slots : List Slot) (k : ℕ) :
    (placementsFrom cursor slots)[k]? =
      slots[k]?.map (·.placed (cursorAfter cursor ((placementsFrom cursor slots).take k))) := by
  induction slots generalizing cursor k with
  | nil => rfl
  | cons slot slots ih =>
      cases k with
      | zero => rfl
      | succ k =>
          rw [placementsFrom, List.getElem?_cons_succ, List.getElem?_cons_succ, List.take_succ_cons,
            cursorAfter_cons, ih]

/-- Each slot is placed with the cursor after the placements before it. -/
theorem eq_placed (h : (placementsFrom cursor slots)[k]? = some p) :
    p = p.slot.placed (cursorAfter cursor ((placementsFrom cursor slots).take k)) := by
  rw [getElem?_placementsFrom] at h
  obtain ⟨slot, -, rfl⟩ := Option.map_eq_some_iff.1 h
  rfl

end Cursor

/-! ## One slot -/

section Steps

variable {slot : Slot} {cursor : ℤ} {slots : List Slot} {p : Placement}

/-- The usable position of a slot is its leading integer, if the position is readable. -/
theorem Slot.usablePosition_eq_ok {n? : Option ℤ} :
    slot.usablePosition = .ok n? ↔
      RackElevation.IsReadable slot.position ∧ leadingInteger? slot.position = n? :=
  leadingPositive?_eq_ok

/-- A slot without a usable position starts at the cursor. -/
theorem Slot.offset_placed_of_free (h : slot.usablePosition = .ok none) :
    (slot.placed cursor).offset = cursor := by
  rw [placed, (usablePosition_eq_ok.1 h).2]
  rfl

/-- A slot with a usable position starts there. -/
theorem Slot.offset_placed_of_pinned {n : ℤ} (h : slot.usablePosition = .ok (some n)) :
    (slot.placed cursor).offset = n - 1 := by
  rw [placed, (usablePosition_eq_ok.1 h).2]
  rfl

/-- A readable slot is pinned or not. -/
theorem Slot.IsReadable.free_or_pinned (h : slot.IsReadable) :
    slot.usablePosition = .ok none ∨ ∃ n, slot.usablePosition = .ok (some n) := by
  cases hposition : leadingInteger? slot.position with
  | none => exact .inl (usablePosition_eq_ok.2 ⟨h.position, hposition⟩)
  | some n => exact .inr ⟨n, usablePosition_eq_ok.2 ⟨h.position, hposition⟩⟩

/-- No slot is placed below the lowest unit. -/
theorem Slot.offset_placed_nonneg (hcursor : 0 ≤ cursor) : 0 ≤ (slot.placed cursor).offset := by
  rw [placed]
  cases hposition : leadingInteger? slot.position with
  | none => exact hcursor
  | some n =>
      have hn := leadingInteger?_pos hposition
      show 0 ≤ n - 1
      omega

/-- No slot is placed below the bottom of the rack. -/
theorem offset_nonneg_of_mem_placementsFrom (hcursor : 0 ≤ cursor)
    (h : p ∈ placementsFrom cursor slots) : 0 ≤ p.offset := by
  induction slots generalizing cursor with
  | nil => exact absurd h List.not_mem_nil
  | cons slot slots ih =>
      have hoffset := slot.offset_placed_nonneg hcursor
      rcases List.mem_cons.1 h with rfl | hmem
      · exact hoffset
      · have hspan := slot.span_placed_pos cursor
        refine ih ?_ hmem
        rw [Placement.stop]
        omega

end Steps

/-! ## Two slots -/

section Order

variable {slots : List Slot} {i j k : ℕ} {p q : Placement}

/-- A slot that is not pinned below the cursor starts at the cursor or above it. -/
theorem cursorAfter_le_offset (hslots : ∀ slot ∈ slots, slot.IsReadable)
    (hp : (placementsFrom 0 slots)[k]? = some p) (h : ¬ PinsBelow (placementsFrom 0 slots) k) :
    cursorAfter 0 ((placementsFrom 0 slots).take k) ≤ p.offset := by
  have hplaced := eq_placed hp
  have hmem : p.slot ∈ slots := by
    rw [← map_slot_placementsFrom 0 slots]
    exact List.mem_map_of_mem (List.mem_of_getElem? hp)
  rcases (hslots p.slot hmem).free_or_pinned with hfree | ⟨n, hn⟩
  · rw [hplaced, Slot.offset_placed_of_free hfree]
  · rw [hplaced, Slot.offset_placed_of_pinned hn]
    by_contra hlt
    exact h ⟨p, n, hp, hn, not_le.1 hlt⟩

/-- A slot starts at the end of an earlier one or above it, unless a slot after the earlier one pins
below the cursor. -/
theorem stop_le_offset (hslots : ∀ slot ∈ slots, slot.IsReadable) (hij : i < j)
    (hp : (placementsFrom 0 slots)[i]? = some p) (hq : (placementsFrom 0 slots)[j]? = some q)
    (h : ∀ k, i < k → k ≤ j → ¬ PinsBelow (placementsFrom 0 slots) k) : p.stop ≤ q.offset := by
  -- on the upper slot: the cursor that it finds is the end of the slot below, which lies higher
  induction j, hij using Nat.le_induction generalizing q with
  | base =>
      have hcursor := cursorAfter_le_offset hslots hq (h (i + 1) i.lt_succ_self le_rfl)
      rwa [cursorAfter_take_succ hp] at hcursor
  | succ j hij ih =>
      obtain ⟨below, hbelow⟩ : ∃ below, (placementsFrom 0 slots)[j]? = some below := by
        have hlt := (List.getElem?_eq_some_iff.1 hq).1
        exact ⟨_, List.getElem?_eq_getElem (j.lt_succ_self.trans hlt)⟩
      have hle := ih hbelow fun k hik hkj => h k hik (hkj.trans j.le_succ)
      have hcursor := cursorAfter_le_offset hslots hq (h (j + 1) (Nat.lt_succ_of_lt hij) le_rfl)
      rw [cursorAfter_take_succ hbelow] at hcursor
      have hspan := span_pos_of_mem_placementsFrom (List.mem_of_getElem? hbelow)
      rw [Placement.stop] at hcursor
      omega

/-- A placement that ends before another one begins shares no units with it. -/
theorem disjoint_units (h : p.stop ≤ q.offset) : Disjoint p.units q.units := by
  rw [Set.disjoint_left]
  intro u hp hq
  exact absurd (hp.2.trans_le h) (not_lt.2 hq.1)

end Order

/-! ## Slots without positions -/

/-- Slots without usable positions take all units from the cursor on, as many as they have. -/
theorem exists_mem_units_iff {cursor : ℤ} {slots : List Slot}
    (h : ∀ slot ∈ slots, slot.usablePosition = .ok none) (u : ℤ) :
    (∃ p ∈ placementsFrom cursor slots, u ∈ p.units) ↔
      cursor ≤ u ∧ u < cursor + ((placementsFrom cursor slots).map Placement.span).sum := by
  induction slots generalizing cursor with
  | nil =>
      simp only [placementsFrom, List.not_mem_nil, false_and, exists_false, List.map_nil,
        List.sum_nil, false_iff]
      omega
  | cons slot slots ih =>
      obtain ⟨hslot, hslots⟩ := List.forall_mem_cons.1 h
      have hoffset : (slot.placed cursor).offset = cursor := slot.offset_placed_of_free hslot
      have hstop : (slot.placed cursor).stop = cursor + (slot.placed cursor).span := by
        rw [Placement.stop, hoffset]
      have hspan := slot.span_placed_pos cursor
      -- the spans that follow are positive, so the first placement cannot reach past their sum
      have hsum : 0 ≤ ((placementsFrom (slot.placed cursor).stop slots).map Placement.span).sum :=
        List.sum_nonneg fun n hn => by
          obtain ⟨p, hp, rfl⟩ := List.mem_map.1 hn
          exact (span_pos_of_mem_placementsFrom hp).le
      rw [placementsFrom, List.exists_mem_cons_iff, ih hslots, List.map_cons, List.sum_cons,
        Placement.units, Set.mem_Ico, hoffset]
      omega

/-! ## The placements of a rack -/

/-- How the slots of a rack lie on its units, in the order of placing. -/
structure Stacking (slots : List Slot) (ps : List Placement) : Prop where
  /-- Every slot is placed once, the lowest one first. -/
  slots_eq : ps.map Placement.slot = slots.reverse
  /-- No slot lies below the bottom, and every slot takes a unit. -/
  bounds : ∀ p ∈ ps, 0 ≤ p.offset ∧ 1 ≤ p.span
  /-- A slot without a usable position starts where the one placed before it ends. -/
  free : ∀ (k : ℕ) (p : Placement), ps[k]? = some p → p.slot.usablePosition = .ok none →
    p.offset = cursorAfter 0 (ps.take k)
  /-- A slot with a usable position starts there. -/
  pinned : ∀ (k : ℕ) (p : Placement) (n : ℤ), ps[k]? = some p →
    p.slot.usablePosition = .ok (some n) → p.offset = n - 1
  /-- A slot starts at the end of an earlier one or above it, unless one of those after the earlier
  one pins below the cursor. -/
  ordered : ∀ (i j : ℕ) (p q : Placement), i < j → ps[i]? = some p → ps[j]? = some q →
    (∀ k, i < k → k ≤ j → ¬ PinsBelow ps k) → p.stop ≤ q.offset
  /-- Without a pin below the cursor the slots follow each other upwards and share no unit. -/
  disjoint : (∀ k, ¬ PinsBelow ps k) →
    ps.Pairwise fun p q => p.stop ≤ q.offset ∧ Disjoint p.units q.units
  /-- Without usable positions they also leave no unit free below their end. -/
  tiles : (∀ slot ∈ slots, slot.usablePosition = .ok none) →
    (ps.Pairwise fun p q => p.stop ≤ q.offset ∧ Disjoint p.units q.units) ∧
      {u | ∃ p ∈ ps, u ∈ p.units} = Set.Ico 0 (ps.map Placement.span).sum

/-- The slots of a rack overlap only through a pin below the cursor. -/
theorem placeSlots_stacking {slots : List Slot} {ps : List Placement}
    (h : placeSlots slots = .ok ps) : Stacking slots ps := by
  obtain ⟨hreadable, rfl⟩ := placeSlots_eq_ok.1 h
  have hreadable' : ∀ slot ∈ slots.reverse, slot.IsReadable :=
    fun slot hslot => hreadable slot (List.mem_reverse.1 hslot)
  rw [placements]
  have hslots := map_slot_placementsFrom 0 slots.reverse
  -- the units are disjoint when no pin lies below its cursor, also where no slot is pinned at all
  have hdisjoint : (∀ k, ¬ PinsBelow (placementsFrom 0 slots.reverse) k) →
      (placementsFrom 0 slots.reverse).Pairwise fun p q =>
        p.stop ≤ q.offset ∧ Disjoint p.units q.units := by
    intro hpins
    rw [List.pairwise_iff_getElem]
    intro i j hi hj hij
    have hle := stop_le_offset hreadable' hij (List.getElem?_eq_getElem hi)
      (List.getElem?_eq_getElem hj) fun k _ _ => hpins k
    exact ⟨hle, disjoint_units hle⟩
  constructor
  case slots_eq => exact hslots
  case bounds =>
    intro p hp
    exact ⟨offset_nonneg_of_mem_placementsFrom le_rfl hp, span_pos_of_mem_placementsFrom hp⟩
  case free =>
    intro k p hp hfree
    rw [eq_placed hp, Slot.offset_placed_of_free hfree]
  case pinned =>
    intro k p n hp hn
    rw [eq_placed hp, Slot.offset_placed_of_pinned hn]
  case ordered =>
    intro i j p q hij hp hq hpins
    exact stop_le_offset hreadable' hij hp hq hpins
  case disjoint => exact hdisjoint
  case tiles =>
    intro hfree
    refine ⟨hdisjoint ?_, ?_⟩
    · rintro k ⟨p, n, hp, hn, -⟩
      have hmem : p.slot ∈ slots.reverse := hslots ▸ List.mem_map_of_mem (List.mem_of_getElem? hp)
      rw [hfree p.slot (List.mem_reverse.1 hmem)] at hn
      exact absurd (Except.ok.inj hn) (Option.some_ne_none n).symm
    · ext u
      rw [Set.mem_ofPred_eq, Set.mem_Ico,
        exists_mem_units_iff fun slot hslot => hfree slot (List.mem_reverse.1 hslot), zero_add]

/-- A rack whose third slot from below is pinned below the cursor. -/
def loweredPlacements : List Placement := [
  ⟨.device { kind := "server", position := some "top" }, 0, 1⟩,
  ⟨.device { kind := "switch", position := some "5U", height := some "3" }, 4, 3⟩,
  ⟨.gap { position := some "2" }, 1, 1⟩,
  ⟨.device { kind := "server", height := some "2" }, 2, 2⟩]

/-- A slot that is pinned below the cursor begins there, on units that are taken. -/
theorem placeSlots_stacking_loweredPlacements :
    placeSlots (loweredPlacements.map Placement.slot).reverse = .ok loweredPlacements ∧
      PinsBelow loweredPlacements 2 ∧
      Stacking (loweredPlacements.map Placement.slot).reverse loweredPlacements := by
  have hplaced : placeSlots (loweredPlacements.map Placement.slot).reverse =
      .ok loweredPlacements := by decide +kernel
  have hpin : PinsBelow loweredPlacements 2 :=
    ⟨_, 2, rfl, by decide +kernel, by decide⟩
  exact ⟨hplaced, hpin, placeSlots_stacking hplaced⟩

end RackElevation
