import Mathlib.Data.List.FinRange
import RackElevation.Proofs.Layout.Geometry

/-!
# The order of racks

Racks do not see each other.  The canvas depends on their number and on the tallest of them, and a
rack is laid out by itself and drawn at the offset of its place in the row.  So racks that change
places are laid out as before, at other offsets, and racks put in on the right change nothing on
their left.
-/

namespace RackElevation

open Number

/-- The maximum of integers does not depend on their order. -/
theorem maximum_int_perm {ns ms : List ℤ} (h : ns.Perm ms) :
    maximum (ns.map Number.int) = maximum (ms.map Number.int) := by
  have hmax : ns.max? = ms.max? := by
    cases hns : ns.max? with
    | none =>
        obtain rfl := List.max?_eq_none_iff.1 hns
        rw [List.nil_perm.1 h, List.max?_nil]
    | some n =>
        obtain ⟨hmem, hle⟩ := List.max?_eq_some_iff.1 hns
        exact (List.max?_eq_some_iff.2
          ⟨h.mem_iff.1 hmem, fun m hm => hle m (h.mem_iff.2 hm)⟩).symm
  rw [maximum_int, maximum_int, hmax]

/-- The racks of a rack set in another order: each place is given the place of its new rack. -/
def RackSet.permute (set : RackSet) (σ : Equiv.Perm (Fin set.racks.length)) : RackSet where
  racks := List.ofFn fun i => set.racks.get (σ i)

/-- A layout whose racks have changed places.  The canvas is the same, and each place shows the rack
moved there, as it was but at the offset of the place. -/
structure Layout.IsReordered {n : ℕ} (σ : Equiv.Perm (Fin n)) (layout layout' : Layout) : Prop where
  width : layout'.width = layout.width
  height : layout'.height = layout.height
  tallest : layout'.tallest = layout.tallest
  length : layout'.racks.length = n
  racks : ∀ i, ∃ moved here, layout.racks[(σ i).val]? = some moved ∧
    layout.racks[i.val]? = some here ∧
    layout'.racks[i.val]? = some { moved with xOffset := here.xOffset }

section Order

variable {settings : Settings} {fallback : ℤ} {set : RackSet}

theorem RackSet.permute_perm (set : RackSet) (σ : Equiv.Perm (Fin set.racks.length)) :
    (set.permute σ).racks.Perm set.racks := by
  have hperm := σ.ofFn_comp_perm set.racks.get
  rwa [List.ofFn_get] at hperm

/-- A maximum over the racks is that of the racks in any order. -/
theorem RackSet.maximum_unitNumber_perm (hdefault : settings.defaultRackHeight = .int fallback)
    {set' : RackSet} (h : set'.racks.Perm set.racks) :
    maximum (set'.racks.map (Rack.unitNumber settings)) =
      maximum (set.racks.map (Rack.unitNumber settings)) := by
  rw [map_unitNumber_eq_int hdefault, map_unitNumber_eq_int hdefault, maximum_int_perm (h.map _)]

/-- Whether a rack set has a layout does not depend on the order of its racks. -/
theorem RackSet.HasGeometry.of_perm (hdefault : settings.defaultRackHeight = .int fallback)
    {set' : RackSet} (hperm : set'.racks.Perm set.racks) (h : set.HasGeometry settings) :
    set'.HasGeometry settings where
  units := fun rack hrack => h.units rack (hperm.mem_iff.1 hrack)
  width := by
    rw [geometry, hperm.length_eq]
    exact h.width
  height := by
    rw [geometry, maximum_unitNumber_perm hdefault hperm]
    exact h.height
  racks := fun rack hrack => h.racks rack (hperm.mem_iff.1 hrack)
  offsets := by
    rw [hperm.length_eq]
    exact h.offsets

theorem RackSet.isReordered_geometry (hdefault : settings.defaultRackHeight = .int fallback)
    (set : RackSet) (σ : Equiv.Perm (Fin set.racks.length)) :
    (set.geometry settings).IsReordered σ ((set.permute σ).geometry settings) where
  width := by rw [geometry, (set.permute_perm σ).length_eq]; rfl
  height := by rw [geometry, maximum_unitNumber_perm hdefault (set.permute_perm σ)]; rfl
  tallest := by
    rw [tallest_geometry, tallest_geometry,
      maximum_unitNumber_perm hdefault (set.permute_perm σ)]
  length := by rw [geometry, length_racksGeometry, (set.permute_perm σ).length_eq]
  racks := by
    intro i
    have hmoved : (set.permute σ).racks[i.val]? = some (set.racks.get (σ i)) := by
      rw [permute, List.getElem?_ofFn, dif_pos i.isLt]
    simp only [getElem?_racks_geometry, hmoved, List.getElem?_eq_getElem (σ i).isLt,
      List.getElem?_eq_getElem i.isLt, Option.map_some, Option.some_inj]
    exact ⟨_, _, rfl, rfl, rfl⟩

end Order

/-- With an integer as default rack height, racks that change places are laid out as before, at the
offsets of their new places, on the same canvas.  And racks put in on the right leave all racks on
their left as they are. -/
theorem RackSet.layout_permute_and_append (settings : Settings) {fallback : ℤ}
    (hdefault : settings.defaultRackHeight = .int fallback) (set : RackSet) {layout : Layout}
    (h : set.layout settings = .ok layout) :
    (∀ σ, ∃ layout', (set.permute σ).layout settings = .ok layout' ∧
      layout.IsReordered σ layout') ∧
    ∀ more layout', RackSet.layout settings ⟨set.racks ++ more⟩ = .ok layout' →
      layout.racks <+: layout'.racks := by
  obtain ⟨hset, rfl⟩ := RackSet.layout_eq_ok_iff.1 h
  refine ⟨fun σ => ?_, fun more layout' hmore => ?_⟩
  · have hpermuted := hset.of_perm hdefault (set.permute_perm σ)
    exact ⟨_, RackSet.layout_eq_ok_iff.2 ⟨hpermuted, rfl⟩, set.isReordered_geometry hdefault σ⟩
  · obtain ⟨-, rfl⟩ := RackSet.layout_eq_ok_iff.1 hmore
    exact ⟨_, (racksGeometry_append _ _ _).symm⟩

/-- A low rack with a server, a rack of the height by default, and a rack of ten units. -/
def gradedRacks : RackSet where
  racks := [
    { height := some "5", slots := [.device { kind := "server" }] }, {}, { height := some "10" }]

theorem RackSet.layout_permute_and_append_gradedRacks :
    (gradedRacks.permute Fin.revPerm).racks = gradedRacks.racks.reverse ∧
    ∃ layout reversed longer, gradedRacks.layout {} = .ok layout ∧
      (gradedRacks.permute Fin.revPerm).layout {} = .ok reversed ∧
      @Layout.IsReordered 3 Fin.revPerm layout reversed ∧
      RackSet.layout {} ⟨gradedRacks.racks ++ [{ name := some "B" }]⟩ = .ok longer ∧
      layout.racks <+: longer.racks := by
  have hlayout : gradedRacks.layout {} = .ok (gradedRacks.geometry {}) := by decide +kernel
  have hlonger : RackSet.layout {} ⟨gradedRacks.racks ++ [{ name := some "B" }]⟩ =
      .ok (RackSet.geometry {} ⟨gradedRacks.racks ++ [{ name := some "B" }]⟩) := by
    decide +kernel
  obtain ⟨hpermute, happend⟩ := RackSet.layout_permute_and_append {} rfl gradedRacks hlayout
  obtain ⟨reversed, hreversed, hreordered⟩ := hpermute Fin.revPerm
  exact ⟨rfl, _, reversed, _, hlayout, hreversed, hreordered, hlonger, happend _ _ hlonger⟩

end RackElevation
