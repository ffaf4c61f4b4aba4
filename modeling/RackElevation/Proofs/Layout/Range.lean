import RackElevation.Layout.Arrangement
import RackElevation.Proofs.Number.Range
import RackElevation.Proofs.Rack.Placement

/-!
# Finite layouts

A layout can fail, or hold a number that is not finite, in two ways: a height or position has more
digits than can be read, or a coordinate leaves the range of binary64.  Most coordinates are safe
when a few others are, so only these few are left as conditions: the size of the canvas, the offset
of the last rack, and the height of the label of each device.
-/

namespace RackElevation

/-! ## The numbers of a layout -/

/-- The numbers of a device. -/
def DeviceLayout.numbers (d : DeviceLayout) : List Number :=
  [d.unit, d.units, d.x, d.y, d.width, d.height, d.labelX, d.labelY]

/-- The numbers of a rack, those of its devices apart. -/
def RackLayout.ownNumbers (rack : RackLayout) : List Number :=
  [rack.xOffset, rack.units, rack.bodyX, rack.bodyY, rack.bodyWidth, rack.bodyHeight, rack.labelX,
    rack.labelY]

/-- The numbers of a rack and its devices. -/
def RackLayout.numbers (rack : RackLayout) : List Number :=
  rack.ownNumbers ++ rack.devices.flatMap DeviceLayout.numbers

/-- The numbers of a layout. -/
def Layout.numbers (layout : Layout) : List Number :=
  layout.width :: layout.height :: layout.racks.flatMap RackLayout.numbers

/-- A layout whose numbers all have a value. -/
def Layout.IsFinite (layout : Layout) : Prop :=
  ∀ n ∈ layout.numbers, n.HasValue

/-! ## Settings -/

namespace Settings

/-- Settings whose lengths are in range, with a positive integer as default rack height. -/
structure InRange (settings : Settings) (fallback : ℤ) : Prop where
  rackWidth : settings.rackWidth.rounded.isFinite = true
  rackSpacing : settings.rackSpacing.rounded.isFinite = true
  margin : settings.margin.rounded.isFinite = true
  default : settings.defaultRackHeight = .int fallback
  default_pos : 0 < fallback

/-- A requirement passes when its condition holds. -/
theorem require_eq_ok {holds : Bool} {failure : Failure} :
    require holds failure = .ok () ↔ holds = true := by
  cases holds with
  | true => exact iff_of_true rfl rfl
  | false => exact iff_of_false (fun h => nomatch h) Bool.false_ne_true

/-- A setting that is required to be finite is in range. -/
theorem isFinite_of_require {value : Number} {setting : Setting}
    (h : requireFinite value setting = .ok ()) : value.rounded.isFinite = true := by
  simp only [requireFinite, Number.isFinite, bind_eq_ok, pure_eq_ok, require_eq_ok] at h
  obtain ⟨_, ⟨x, hx, rfl⟩, hfinite⟩ := h
  rwa [Number.toReal_eq_rounded hx]

/-- Accepted settings with an integer as default rack height. -/
theorem inRange_of_accept {settings : Settings} (h : settings.accept = .ok settings) {fallback : ℤ}
    (hdefault : settings.defaultRackHeight = .int fallback) : settings.InRange fallback := by
  obtain ⟨_, hcheck, -⟩ := bind_eq_ok.1 h
  simp only [check, bind_eq_ok] at hcheck
  obtain ⟨_, -, _, hwidth, _, hspacing, _, hmargin, _, -, _, -, _, hpositive, -⟩ := hcheck
  refine ⟨isFinite_of_require hwidth, isFinite_of_require hspacing, isFinite_of_require hmargin,
    hdefault, ?_⟩
  rw [require_eq_ok, hdefault] at hpositive
  by_contra hle
  have hsmall : (Number.int fallback).le 0 = true := by
    rcases lt_or_eq_of_le (not_lt.1 hle) with hlt | rfl
    · exact Bool.or_eq_true_iff.2 (Or.inl (decide_eq_true hlt))
    · rfl
  rw [hsmall] at hpositive
  contradiction

end Settings

/-! ## Devices -/

/-- The height of the label of a placement, above a given bottom edge. -/
def Placement.labelLine (p : Placement) (unitHeight bottom : Number) : Number :=
  (bottom.minus (Number.times (.int (p.offset + p.span)) unitHeight)).plus
    (Number.times (.int p.span) unitHeight).halved

section Devices

open Number

variable {settings : Settings} {fallback : ℤ}

/-- A device has finite geometry when the height of its label has a value. -/
theorem Device.layout_finite_iff (hrange : settings.InRange fallback) (bottom : Number)
    (device : Device) (p : Placement) :
    (∃ d, device.layout settings bottom p.offset p.span = .ok d ∧ ∀ n ∈ d.numbers, n.HasValue) ↔
      (p.labelLine settings.unitHeight bottom).HasValue := by
  simp only [Device.layout, bind_eq_ok, pure_eq_ok]
  constructor
  · rintro ⟨_, ⟨rise, hrise, top, htop, height, hheight, _, -, half, hhalf, labelY, hlabelY, rfl⟩,
      hvalues⟩
    -- what is computed is what is computed without regard to range, so the label is at its line
    obtain rfl := (computes_mul _ _).eq_of_ok _ hrise
    obtain rfl := (computes_sub _ _).eq_of_ok _ htop
    obtain rfl := (computes_mul _ _).eq_of_ok _ hheight
    obtain rfl := (computes_half _).eq_of_ok _ hhalf
    obtain rfl := (computes_add _ _).eq_of_ok _ hlabelY
    exact hvalues _ (by simp [DeviceLayout.numbers, Placement.labelLine])
  · intro hlabel
    -- the line of the label is the last sum, and a value of a sum gives values of its parts
    obtain ⟨htop, hhalf⟩ := hasValue_of_plus hlabel
    obtain ⟨-, hrise⟩ := hasValue_of_minus htop
    have hheight := hasValue_of_halved hhalf
    have hlabelX := halved_hasValue hrange.rackWidth
    refine ⟨_, ⟨_, (computes_mul _ _).ok hrise, _, (computes_sub _ _).ok htop,
      _, (computes_mul _ _).ok hheight, _, (computes_half _).ok hlabelX,
      _, (computes_half _).ok hhalf, _, (computes_add _ _).ok hlabel, rfl⟩, ?_⟩
    have hwidth := hasValue_of_rounded hrange.rackWidth
    simp only [DeviceLayout.numbers, List.forall_mem_cons]
    exact ⟨trivial, trivial, trivial, htop, hwidth, hheight, hlabelX, hlabel,
      fun _ hn => absurd hn List.not_mem_nil⟩

/-- The placements of devices, gaps apart, whose labels have a height. -/
def LabelsFit (unitHeight bottom : Number) (ps : List Placement) : Prop :=
  ∀ p ∈ ps, p.device?.isSome = true → (p.labelLine unitHeight bottom).HasValue

/-- In range, placements are laid out with values exactly when the labels of their devices have a
height. -/
theorem layoutDevices_finite_iff (hrange : settings.InRange fallback) (bottom : Number)
    (ps : List Placement) :
    (∃ ds, layoutDevices settings bottom ps = .ok ds ∧
      ∀ n ∈ ds.flatMap DeviceLayout.numbers, n.HasValue) ↔
      LabelsFit settings.unitHeight bottom ps := by
  induction ps with
  | nil =>
      refine iff_of_true ⟨[], rfl, ?_⟩ ?_
      · exact fun _ hn => absurd hn List.not_mem_nil
      · exact fun _ hp => absurd hp List.not_mem_nil
  | cons p ps ih =>
      rw [LabelsFit, List.forall_mem_cons, ← LabelsFit, ← ih, layoutDevices]
      cases hdevice : p.device? with
      -- a gap takes its units and leaves no device
      | none => simp only [Option.isSome_none, Bool.false_eq_true, false_implies, true_and]
      | some device =>
          have hhead := Device.layout_finite_iff hrange bottom device p
          simp only [Option.isSome_some, true_implies, ← hhead, bind_eq_ok, pure_eq_ok]
          constructor
          · rintro ⟨_, ⟨d, hd, ds, hds, rfl⟩, hvalues⟩
            rw [List.flatMap_cons, List.forall_mem_append] at hvalues
            exact ⟨⟨d, hd, hvalues.1⟩, ds, hds, hvalues.2⟩
          · rintro ⟨⟨d, hd, hvalue⟩, ds, hds, hvalues⟩
            refine ⟨d :: ds, ⟨d, hd, ds, hds, rfl⟩, ?_⟩
            rw [List.flatMap_cons, List.forall_mem_append]
            exact ⟨hvalue, hvalues⟩

end Devices

/-! ## Racks -/

/-- The number of units of a rack, a given one without a usable height. -/
def Rack.units (fallback : ℤ) (rack : Rack) : ℤ :=
  (leadingInteger? rack.height).getD fallback

/-- The height of a rack body. -/
def Settings.bodyHeight (settings : Settings) (units : ℤ) : Number :=
  Number.times (.int units) settings.unitHeight

/-- The bottom edge of a rack body. -/
def Settings.bottom (settings : Settings) (units : ℤ) : Number :=
  settings.margin.plus (settings.bodyHeight units)

/-- A rack body whose height has a value and whose bottom edge is computed. -/
structure Settings.BodyFits (settings : Settings) (units : ℤ) : Prop where
  height : (settings.bodyHeight units).HasValue
  bottom : settings.margin.add (settings.bodyHeight units) = .ok (settings.bottom units)

/-- A rack of readable slots whose labels have a height. -/
structure Rack.Fits (settings : Settings) (fallback : ℤ) (rack : Rack) : Prop where
  slots : ∀ slot ∈ rack.slots, slot.IsReadable
  labels : LabelsFit settings.unitHeight (settings.bottom (rack.units fallback))
    (placements rack.slots)

section Racks

open Number

variable {settings : Settings} {fallback : ℤ}

/-- In range, a rack with a body is laid out with values exactly when its offset has a value, its
slots are readable and their labels have a height. -/
theorem Rack.layout_finite_iff (hrange : settings.InRange fallback) {rack : Rack}
    (hbody : settings.BodyFits (rack.units fallback)) (xOffset : Number) :
    (∃ r, rack.layout settings (.int (rack.units fallback)) xOffset = .ok r ∧
      ∀ n ∈ r.numbers, n.HasValue) ↔ xOffset.HasValue ∧ rack.Fits settings fallback := by
  have hdevices := layoutDevices_finite_iff hrange (settings.bottom (rack.units fallback))
    (placements rack.slots)
  have hheight := (computes_mul _ _).ok hbody.height
  simp only [Rack.layout, bind_eq_ok, pure_eq_ok, placeSlots_eq_ok]
  constructor
  · rintro ⟨_, ⟨body, hbodyHeight, bottom, hbottom, _, ⟨hslots, rfl⟩, ds, hds, _, -, _, -, rfl⟩,
      hvalues⟩
    -- the devices are laid out above the bottom edge that the conditions speak of
    obtain rfl := (computes_mul _ _).eq_of_ok _ hbodyHeight
    obtain rfl := Except.ok.inj (hbody.bottom.symm.trans hbottom)
    rw [RackLayout.numbers, List.forall_mem_append] at hvalues
    exact ⟨hvalues.1 xOffset (.head _), hslots, hdevices.1 ⟨ds, hds, hvalues.2⟩⟩
  · rintro ⟨hoffset, hslots, hlabels⟩
    obtain ⟨ds, hds, hvalues⟩ := hdevices.2 hlabels
    have hlabelX := halved_hasValue hrange.rackWidth
    have hlabelY := halved_hasValue hrange.margin
    refine ⟨_, ⟨_, hheight, _, hbody.bottom, _, ⟨hslots, rfl⟩, ds, hds,
      _, (computes_half _).ok hlabelX, _, (computes_half _).ok hlabelY, rfl⟩, ?_⟩
    have hwidth := hasValue_of_rounded hrange.rackWidth
    have hmargin := hasValue_of_rounded hrange.margin
    rw [RackLayout.numbers, List.forall_mem_append]
    refine ⟨?_, hvalues⟩
    simp only [RackLayout.ownNumbers, List.forall_mem_cons]
    exact ⟨hoffset, trivial, trivial, hmargin, hwidth, hbody.height, hlabelX, hlabelY,
      fun _ hn => absurd hn List.not_mem_nil⟩

/-! ## Rows of racks -/

/-- The distance between the left edges of neighbouring racks. -/
def Settings.stride (settings : Settings) : Number :=
  settings.rackWidth.plus settings.rackSpacing

/-- Offsets with values for a number of racks, each of them followed by a further one. -/
def Settings.OffsetsFit (settings : Settings) : Number → ℕ → Prop
  | _, 0 => True
  | xOffset, k + 1 =>
      xOffset.HasValue ∧
        ∃ next, settings.nextOffset xOffset = .ok next ∧ OffsetsFit settings next k

/-- In range, racks with bodies are laid out with values exactly when each of them is and all their
offsets are computed. -/
theorem layoutRacks_finite_iff (hrange : settings.InRange fallback) {racks : List Rack}
    (hbodies : ∀ rack ∈ racks, settings.BodyFits (rack.units fallback)) (xOffset : Number) :
    (∃ rs, layoutRacks settings xOffset
      (racks.map fun rack => (rack, .int (rack.units fallback))) = .ok rs ∧
      ∀ n ∈ rs.flatMap RackLayout.numbers, n.HasValue) ↔
      (∀ rack ∈ racks, rack.Fits settings fallback) ∧
        settings.OffsetsFit xOffset racks.length := by
  induction racks generalizing xOffset with
  | nil =>
      refine iff_of_true ⟨[], rfl, ?_⟩ ⟨?_, trivial⟩
      · exact fun _ hn => absurd hn List.not_mem_nil
      · exact fun _ hrack => absurd hrack List.not_mem_nil
  | cons rack racks ih =>
      obtain ⟨hbody, hbodies⟩ := List.forall_mem_cons.1 hbodies
      have hhead := Rack.layout_finite_iff hrange hbody xOffset
      simp only [List.map_cons, layoutRacks, bind_eq_ok, pure_eq_ok, List.forall_mem_cons,
        List.length_cons, Settings.OffsetsFit]
      constructor
      · rintro ⟨_, ⟨r, hr, next, hnext, rs, hrs, rfl⟩, hvalues⟩
        rw [List.flatMap_cons, List.forall_mem_append] at hvalues
        obtain ⟨hoffset, hrack⟩ := hhead.1 ⟨r, hr, hvalues.1⟩
        obtain ⟨hracks, hoffsets⟩ := (ih hbodies next).1 ⟨rs, hrs, hvalues.2⟩
        exact ⟨⟨hrack, hracks⟩, hoffset, next, hnext, hoffsets⟩
      · rintro ⟨⟨hrack, hracks⟩, hoffset, next, hnext, hoffsets⟩
        obtain ⟨r, hr, hvalue⟩ := hhead.2 ⟨hoffset, hrack⟩
        obtain ⟨rs, hrs, hvalues⟩ := (ih hbodies next).2 ⟨hracks, hoffsets⟩
        refine ⟨_, ⟨r, hr, next, hnext, rs, hrs, rfl⟩, ?_⟩
        rw [List.flatMap_cons, List.forall_mem_append]
        exact ⟨hvalue, hvalues⟩

end Racks

/-! ## Offsets -/

namespace Settings

open Number

variable {settings : Settings}

/-- The offset of the rack that a number of racks lie left of. -/
def offsetOf (settings : Settings) (racks : ℕ) : Number :=
  (plus · settings.stride)^[racks] settings.margin

/-- The next offset, without its checks. -/
theorem computes_nextOffset (xOffset : Number) :
    Computes (settings.nextOffset xOffset) (xOffset.plus settings.stride) :=
  (computes_add _ _).bind (computes_add _ _) fun h => (hasValue_of_plus h).2

/-- From an offset that has been reached, one more step can be made. -/
theorem exists_nextOffset {xOffset : Number} (h : (xOffset.plus settings.stride).HasValue) :
    ∃ next, settings.nextOffset (xOffset.plus settings.stride) = .ok next := by
  have hstride := (computes_add _ _).ok (hasValue_of_plus h).2
  rw [nextOffset, hstride, ok_bind, ← stride]
  cases hs : settings.stride with
  | real y =>
      -- both offsets are binary64 numbers, and their sum is always computed
      rw [plus, join_real_right, add, combine_real_left, toReal_real]
      exact ⟨_, rfl⟩
  | int n =>
      cases xOffset with
      | int m => exact ⟨_, rfl⟩
      | real x =>
          -- the integer is in range, for it has been added to a binary64 number
          rw [hs] at h
          have hrange : (int n).rounded.isFinite = true := (Binary64.isStrict_add _ _ h).2
          rw [plus, join_real_left, add, combine_real_left, toReal_of_isFinite hrange]
          exact ⟨_, rfl⟩

/-- An offset from which another one with a value is reached has a value itself. -/
theorem hasValue_of_iterate {xOffset : Number} {k : ℕ}
    (h : ((plus · settings.stride)^[k] xOffset).HasValue) : xOffset.HasValue := by
  induction k generalizing xOffset with
  | zero => exact h
  | succ k ih => exact (hasValue_of_plus (ih h)).1

/-- Only the last offset and the first step can go wrong: any later step starts from a sum. -/
theorem offsetsFit_succ_iff {xOffset : Number} {k : ℕ} :
    settings.OffsetsFit xOffset (k + 1) ↔
      ((plus · settings.stride)^[k] xOffset).HasValue ∧
        ∃ next, settings.nextOffset xOffset = .ok next := by
  -- all offsets but the first are sums, from which a further step can always be made
  induction k generalizing xOffset with
  | zero => simp only [OffsetsFit, and_true, Function.iterate_zero, id_eq]
  | succ k ih =>
      rw [OffsetsFit, Function.iterate_succ_apply]
      constructor
      · rintro ⟨-, next, hnext, hoffsets⟩
        obtain rfl := (computes_nextOffset xOffset).eq_of_ok next hnext
        exact ⟨(ih.1 hoffsets).1, _, hnext⟩
      · rintro ⟨hlast, next, hnext⟩
        obtain rfl := (computes_nextOffset xOffset).eq_of_ok next hnext
        have hvalue := hasValue_of_iterate hlast
        exact ⟨(hasValue_of_plus hvalue).1, _, hnext, ih.2 ⟨hlast, exists_nextOffset hvalue⟩⟩

/-- An integer stride is in range when it meets a binary64 margin. -/
def StepFits (settings : Settings) : Prop :=
  ∀ x n, settings.margin = .real x → settings.stride = .int n →
    (int n).rounded.isFinite = true

/-- The first step to the right. -/
theorem exists_nextOffset_margin_iff {fallback : ℤ} (hrange : settings.InRange fallback) :
    (∃ next, settings.nextOffset settings.margin = .ok next) ↔ settings.StepFits := by
  have hstride : settings.rackWidth.add settings.rackSpacing = .ok settings.stride :=
    combine_of_isFinite hrange.rackWidth hrange.rackSpacing
  rw [nextOffset, hstride, ok_bind]
  constructor
  · rintro ⟨next, hnext⟩ x n hx hn
    rw [hx, hn, add, combine_real_left] at hnext
    obtain ⟨y, hy, -⟩ := bind_eq_ok.1 hnext
    rw [toReal_eq_rounded hy]
    exact isFinite_of_toReal_int hy
  · intro hfits
    have hmargin := hrange.margin
    cases hn : settings.stride with
    | real y => exact ⟨_, by rw [add, combine_real_right, toReal_of_isFinite hmargin]; rfl⟩
    | int n =>
        cases hx : settings.margin with
        | int m => exact ⟨_, rfl⟩
        | real x => exact ⟨_, combine_of_isFinite (hx ▸ hmargin) (hfits x n hx hn)⟩

/-- All offsets have values when the last one has, and when the first step can be made. -/
theorem offsetsFit_iff {fallback : ℤ} (hrange : settings.InRange fallback) (racks : ℕ) :
    settings.OffsetsFit settings.margin racks ↔
      (settings.offsetOf (racks - 1)).HasValue ∧ (racks ≠ 0 → settings.StepFits) := by
  cases racks with
  | zero => exact iff_of_true trivial ⟨hasValue_of_rounded hrange.margin, fun h => absurd rfl h⟩
  | succ k =>
      rw [offsetsFit_succ_iff, exists_nextOffset_margin_iff hrange, offsetOf, Nat.add_sub_cancel]
      simp only [ne_eq, Nat.add_eq_zero_iff, Nat.one_ne_zero, and_false, not_false_eq_true,
        true_implies]

/-! ## The canvas -/

/-- The width of the canvas for a number of racks. -/
def fullWidth (settings : Settings) (racks : ℤ) : Number :=
  ((times 2 settings.margin).plus (times (.int racks) settings.rackWidth)).plus
    (times (.int (max (racks - 1) 0)) settings.rackSpacing)

/-- The height of the canvas for the number of units of its tallest rack. -/
def fullHeight (settings : Settings) (units : ℤ) : Number :=
  (times 2 settings.margin).plus (times settings.unitHeight (.int units))

/-- The width of the canvas, without its checks. -/
theorem computes_canvasWidth (racks : ℤ) :
    Computes (settings.canvasWidth racks) (settings.fullWidth racks) := by
  have hsum {a : Number} (h : ((((times 2 settings.margin).plus
      (times (.int racks) settings.rackWidth)).plus a).HasValue)) :=
    hasValue_of_plus (hasValue_of_plus h).1
  refine (computes_mul _ _).bind ?_ fun h => (hsum h).1
  refine (computes_mul _ _).bind ?_ fun h => (hsum h).2
  refine (computes_add _ _).bind ?_ fun h => (hasValue_of_plus h).1
  exact (computes_mul _ _).bind (computes_add _ _) fun h => (hasValue_of_plus h).2

/-- The height of the canvas for any number of units, without its checks. -/
theorem computes_canvasHeight_number (units : Number) :
    Computes (settings.canvasHeight units)
      ((times 2 settings.margin).plus (times settings.unitHeight units)) := by
  refine (computes_mul _ _).bind ?_ fun h => (hasValue_of_plus h).1
  exact (computes_mul _ _).bind (computes_add _ _) fun h => (hasValue_of_plus h).2

/-- The height of the canvas for an integer number of units, without its checks. -/
theorem computes_canvasHeight (units : ℤ) :
    Computes (settings.canvasHeight (.int units)) (settings.fullHeight units) :=
  computes_canvasHeight_number (.int units)

/-- When the canvas of the tallest rack has a height, so has the body of every rack, and its bottom
edge is computed. -/
theorem bodyFits_of_natAbs_le {fallback : ℤ} (hrange : settings.InRange fallback)
    {units tallest : ℤ} (hle : units.natAbs ≤ tallest.natAbs)
    (h : (settings.fullHeight tallest).HasValue) :
    settings.BodyFits units := by
  obtain ⟨-, htall⟩ := hasValue_of_plus h
  rw [fullHeight] at h
  cases hu : settings.unitHeight with
  | real x =>
      rw [hu] at htall
      have hbody : (x.mul (.ofInt tallest)).isFinite = true := htall
      have hvalue := Binary64.isFinite_mul_of_natAbs_le hle hbody
      have hheight : settings.bodyHeight units = .real ((Binary64.ofInt units).mul x) := by
        rw [bodyHeight, hu, times, join_real_right, rounded]
      refine ⟨by rwa [hheight], combine_of_isFinite hrange.margin ?_⟩
      rwa [hheight]
  | int u =>
      -- a product of integers has a value, and only a binary64 margin can refuse it
      have hheight : settings.bodyHeight units = .int (units * u) := by
        rw [bodyHeight, hu]
        rfl
      refine ⟨by rw [hheight]; trivial, ?_⟩
      rw [bottom, hheight]
      cases hm : settings.margin with
      | int m => rfl
      | real m =>
          -- the height of the canvas has been added to a binary64 margin
          rw [hu, hm] at h
          have htallest : (Binary64.ofInt (u * tallest)).isFinite = true :=
            (Binary64.isStrict_add _ _ h).2
          have hnatAbs : (units * u).natAbs ≤ (u * tallest).natAbs := by
            rw [Int.natAbs_mul, Int.natAbs_mul, Nat.mul_comm]
            exact Nat.mul_le_mul_left _ hle
          have hmargin := hrange.margin
          rw [hm] at hmargin
          exact combine_of_isFinite hmargin
            (Binary64.isFinite_ofInt_of_natAbs_le hnatAbs htallest)

end Settings

/-! ## Rack sets -/

/-- The number of units of the tallest rack, zero without racks. -/
def RackSet.tallest (fallback : ℤ) (set : RackSet) : ℤ :=
  ((set.racks.map (Rack.units fallback)).max?).getD 0

/-- A rack set with a finite layout: its texts are readable, and the canvas, the last rack and the
labels of the devices are in range. -/
structure RackSet.Fits (settings : Settings) (fallback : ℤ) (set : RackSet) : Prop where
  heights : ∀ rack ∈ set.racks, IsReadable rack.height
  racks : ∀ rack ∈ set.racks, rack.Fits settings fallback
  width : (settings.fullWidth set.racks.length).HasValue
  height : (settings.fullHeight (set.tallest fallback)).HasValue
  offset : (settings.offsetOf (set.racks.length - 1)).HasValue
  step : set.racks ≠ [] → settings.StepFits

section RackSets

open Number

variable {settings : Settings} {fallback : ℤ}

/-- In range, the units of a rack are counted when its height is readable. -/
theorem Rack.unitCount_eq_ok (hrange : settings.InRange fallback) (rack : Rack) (n : Number) :
    rack.unitCount settings = .ok n ↔
      IsReadable rack.height ∧ .int (rack.units fallback) = n := by
  simp only [Rack.unitCount, bind_eq_ok, leadingPositive?_eq_ok, Rack.units]
  constructor
  · rintro ⟨_, ⟨hreadable, rfl⟩, h⟩
    refine ⟨hreadable, ?_⟩
    split at h
    · next m hm => rw [hm, ← pure_eq_ok.1 h, Option.getD_some]
    · next hm => rw [hm, ← pure_eq_ok.1 h, Option.getD_none, hrange.default]
  · rintro ⟨hreadable, rfl⟩
    refine ⟨_, ⟨hreadable, rfl⟩, ?_⟩
    split
    · next m hm => rw [hm]; rfl
    · next hm => rw [hm, hrange.default]; rfl

/-- The greatest of some integers is found as that of numbers. -/
theorem foldl_int (n : ℤ) (ns : List ℤ) :
    (ns.map Number.int).foldl (fun best b => if best.lt b then b else best) (.int n) =
      .int (ns.foldl max n) := by
  induction ns generalizing n with
  | nil => rfl
  | cons m ns ih =>
      have hmax : (if (Number.int n).lt (.int m) then Number.int m else .int n) =
          .int (max n m) := by
        simp only [lt, decide_eq_true_eq]
        split
        · next hlt => rw [max_eq_right hlt.le]
        · next hle => rw [max_eq_left (not_lt.1 hle)]
      rw [List.map_cons, List.foldl_cons, hmax, ih, List.foldl_cons]

/-- The maximum of integers. -/
theorem maximum_int (ns : List ℤ) :
    Number.maximum (ns.map Number.int) = .int (ns.max?.getD 0) := by
  cases ns with
  | nil => rfl
  | cons n ns => rw [List.map_cons, Number.maximum, foldl_int, List.max?_cons', Option.getD_some]

/-- A rack has at least one unit when the configured number is positive. -/
theorem Rack.units_pos (hfallback : 0 < fallback) (rack : Rack) : 0 < rack.units fallback := by
  rw [Rack.units]
  cases h : leadingInteger? rack.height with
  | none => exact hfallback
  | some n => exact leadingInteger?_pos h

/-- No rack has more units than the tallest one. -/
theorem units_le_tallest (fallback : ℤ) {set : RackSet} {rack : Rack} (hrack : rack ∈ set.racks) :
    rack.units fallback ≤ set.tallest fallback := by
  have hmem : rack.units fallback ∈ set.racks.map (Rack.units fallback) :=
    List.mem_map_of_mem hrack
  rw [RackSet.tallest]
  cases hmax : (set.racks.map (Rack.units fallback)).max? with
  | none =>
      rw [List.max?_eq_none_iff.1 hmax] at hmem
      exact absurd hmem List.not_mem_nil
  | some n => exact (List.max?_le_iff hmax).1 le_rfl _ hmem

/-- The canvas is sized with values exactly when its width and its height have values. -/
theorem canvasSize_eq_ok {racks units : ℤ} :
    (∃ size, settings.canvasSize racks (.int units) = .ok size ∧ size.1.HasValue ∧
      size.2.HasValue) ↔
      (settings.fullWidth racks).HasValue ∧ (settings.fullHeight units).HasValue := by
  rw [← (Settings.computes_canvasWidth racks).hasValue_iff,
    ← (Settings.computes_canvasHeight units).hasValue_iff]
  simp only [Settings.canvasSize, bind_eq_ok, pure_eq_ok]
  constructor
  · rintro ⟨_, ⟨width, hwidth, height, hheight, rfl⟩, hvalue⟩
    exact ⟨⟨width, hwidth, hvalue.1⟩, height, hheight, hvalue.2⟩
  · rintro ⟨⟨width, hwidth, hvalue⟩, height, hheight, hvalue'⟩
    exact ⟨_, ⟨width, hwidth, height, hheight, rfl⟩, hvalue, hvalue'⟩

end RackSets

/-- Under accepted settings with an integer as default rack height, a rack set has a layout with
finite numbers exactly when it fits. -/
theorem RackSet.exists_finite_layout_iff (settings : Settings)
    (haccept : settings.accept = .ok settings) (fallback : ℤ)
    (hdefault : settings.defaultRackHeight = .int fallback) (set : RackSet) :
    (∃ layout, set.layout settings = .ok layout ∧ layout.IsFinite) ↔
      set.Fits settings fallback := by
  have hrange := Settings.inRange_of_accept haccept hdefault
  have hunits (heights : List Number) :=
    @mapM_eq_ok_of_iff _ _ _ _ _ _ (Rack.unitCount_eq_ok hrange) set.racks heights
  have hmaximum : Number.maximum (set.racks.map fun rack => .int (rack.units fallback)) =
      .int (set.tallest fallback) := by
    rw [RackSet.tallest, ← maximum_int, List.map_map]
    rfl
  have hzip : set.racks.zip (set.racks.map fun rack => Number.int (rack.units fallback)) =
      set.racks.map fun rack => (rack, .int (rack.units fallback)) := by
    have hmap := @List.zip_map' _ _ _ id (fun rack => Number.int (rack.units fallback)) set.racks
    rwa [List.map_id] at hmap
  -- a canvas with a height makes room for every body
  have hbodies (h : (settings.fullHeight (set.tallest fallback)).HasValue) :
      ∀ rack ∈ set.racks, settings.BodyFits (rack.units fallback) := by
    intro rack hrack
    have hpos := rack.units_pos hrange.default_pos
    have hle := units_le_tallest fallback hrack
    exact Settings.bodyFits_of_natAbs_le hrange (by omega) h
  have hoffsets := Settings.offsetsFit_iff hrange set.racks.length
  have hne : set.racks.length ≠ 0 ↔ set.racks ≠ [] := by rw [ne_eq, List.length_eq_zero_iff]
  rw [hne] at hoffsets
  simp only [RackSet.layout, bind_eq_ok, pure_eq_ok, hunits]
  constructor
  · rintro ⟨_, ⟨_, ⟨hheights, rfl⟩, size, hsize, rs, hrs, rfl⟩, hvalues⟩
    rw [hmaximum] at hsize
    obtain ⟨hwidth, hvalues⟩ := List.forall_mem_cons.1 hvalues
    obtain ⟨hheight, hvalues⟩ := List.forall_mem_cons.1 hvalues
    -- the canvas comes first: its height is what bounds the bodies of the racks
    obtain ⟨hwidth, hheight⟩ := canvasSize_eq_ok.1 ⟨size, hsize, hwidth, hheight⟩
    rw [hzip] at hrs
    obtain ⟨hracks, hfit⟩ :=
      (layoutRacks_finite_iff hrange (hbodies hheight) _).1 ⟨rs, hrs, hvalues⟩
    obtain ⟨hoffset, hstep⟩ := hoffsets.1 hfit
    exact ⟨hheights, hracks, hwidth, hheight, hoffset, hstep⟩
  · intro h
    obtain ⟨size, hsize, hwidth, hheight⟩ := canvasSize_eq_ok.2 ⟨h.width, h.height⟩
    have hfit := hoffsets.2 ⟨h.offset, h.step⟩
    obtain ⟨rs, hrs, hvalues⟩ :=
      (layoutRacks_finite_iff hrange (hbodies h.height) _).2 ⟨h.racks, hfit⟩
    rw [← hmaximum] at hsize
    rw [← hzip] at hrs
    refine ⟨_, ⟨_, ⟨h.heights, rfl⟩, size, hsize, rs, hrs, rfl⟩, ?_⟩
    exact List.forall_mem_cons.2 ⟨hwidth, List.forall_mem_cons.2 ⟨hheight, hvalues⟩⟩

/-- A server at the lowest unit. -/
def pinnedRack : RackSet where
  racks := [{ slots := [.device { kind := "server", position := some "1" }] }]

/-- That rack set meets the conditions under the default settings. -/
theorem fits_pinnedRack : pinnedRack.Fits {} 42 := by
  have haccept : Settings.accept {} = .ok {} := by decide +kernel
  refine (RackSet.exists_finite_layout_iff {} haccept 42 rfl pinnedRack).1 ⟨{
    width := 350
    height := 1100
    racks := [{
      name := none, xOffset := 25, units := 42
      bodyX := 0, bodyY := 25, bodyWidth := 300, bodyHeight := 1050
      labelX := .real (Binary64.ofNat 150), labelY := .real (Binary64.ofQuotient 25 2)
      devices := [{
        kind := "server", unit := 0, units := 1
        x := 0, y := 1050, width := 300, height := 25, fill := "#63B3ED"
        labelX := .real (Binary64.ofNat 150), labelY := .real (Binary64.ofQuotient 2125 2) }] }] },
    by decide +kernel, ?_⟩
  rw [Layout.IsFinite]
  decide +kernel

/-- A server whose position is a one behind a given number of zeros. -/
def paddedSlot (zeros : ℕ) : Slot :=
  .device {
    kind := "server"
    position := some (String.ofList (List.replicate zeros '0' ++ ['1'])) }

/-- The rack with that server. -/
def paddedRack (zeros : ℕ) : RackSet where
  racks := [{ slots := [paddedSlot zeros] }]

/-- A position with too many digits stops the placing, though only its last digit counts. -/
theorem placeAt_paddedSlot {zeros : ℕ} (h : integerTextLimit ≤ zeros) (cursor : ℤ) :
    (paddedSlot zeros).placeAt cursor = .error (.numeralTooLong (zeros + 1)) := by
  have hdigits : ∀ c ∈ List.replicate zeros '0' ++ ['1'], c ∈ plainDigits := by
    intro c hc
    rcases List.mem_append.1 hc with hc | hc
    · rw [List.eq_of_mem_replicate hc]
      decide
    · rw [List.mem_singleton.1 hc]
      decide
  have hlength : (leadingDigits (String.ofList (List.replicate zeros '0' ++ ['1']))).length =
      zeros + 1 := by
    rw [leadingDigits_ofList hdigits, List.length_append, List.length_replicate,
      List.length_singleton]
  have hlong := Nat.lt_succ_of_le h
  rw [Nat.succ_eq_add_one, ← hlength] at hlong
  have hread := leadingPositive_of_lt_length hlong
  rw [hlength] at hread
  rw [Slot.placeAt, Slot.usablePosition, paddedSlot, Slot.position, leadingPositive?, hread]
  rfl

/-- With enough zeros before it, the same position makes the layout fail. -/
theorem layout_paddedRack {zeros : ℕ} (h : integerTextLimit ≤ zeros) :
    (paddedRack zeros).layout {} = .error (.numeralTooLong (zeros + 1)) := by
  have hunits : (paddedRack zeros).racks.mapM (·.unitCount {}) = .ok [42] := rfl
  have hrack : Rack.layout {} { slots := [paddedSlot zeros] } 42 25 =
      .error (.numeralTooLong (zeros + 1)) := by
    simp only [Rack.layout, placeSlots, List.reverse_singleton, placeFrom, placeAt_paddedSlot h]
    rfl
  rw [RackSet.layout, hunits, ok_bind]
  simp only [paddedRack, List.zip_cons_cons, layoutRacks, hrack]
  rfl

end RackElevation
