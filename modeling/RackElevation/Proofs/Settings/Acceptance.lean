import RackElevation.Proofs.Layout.Range
import RackElevation.Proofs.Number.Sign

/-!
# Accepted settings

Settings are usable when their five numbers are finite, the unit height, the rack width and the
default rack height are positive, and the spacing and the margin are not negative.  The check on
settings is a table of conditions of which the first one that does not hold decides the failure.  It
tells usable settings from others with two exceptions:

* a length is finite for the check only if it has a finite binary64 form, so an integer out of that
  range is refused, and with a failure that is not about a setting;
* the default rack height is compared with zero only, so it may be infinite or not a number.

Settings are made one after the other, from the standard ones or from those made before.  A call
that fails leaves the settings made so far as they are.
-/

namespace RackElevation

namespace Settings

variable {s : Settings}

/-! ## The check as a table -/

/-- The lengths, with the settings they belong to. -/
def lengths (s : Settings) : List (Setting × Number) :=
  [(.unitHeight, s.unitHeight), (.rackWidth, s.rackWidth), (.rackSpacing, s.rackSpacing),
    (.margin, s.margin)]

/-- Why a length without a finite binary64 form is refused. -/
def rangeFailure (setting : Setting) : Number → Failure
  | .int _ => .integerTooLarge
  | .real _ => .settingNotFinite setting

/-- The condition that a length is finite. -/
def rangeCondition (length : Setting × Number) : Bool × Failure :=
  (length.2.rounded.isFinite, rangeFailure length.1 length.2)

/-- The conditions on the signs of the settings. -/
def signConditions (s : Settings) : List (Bool × Failure) :=
  [(!s.unitHeight.le 0, .settingNotPositive .unitHeight),
    (!s.rackWidth.le 0, .settingNotPositive .rackWidth),
    (!s.defaultRackHeight.le 0, .settingNotPositive .defaultRackHeight),
    (!s.rackSpacing.lt 0, .settingNegative .rackSpacing),
    (!s.margin.lt 0, .settingNegative .margin)]

/-- The conditions on settings, in the order in which they are checked. -/
def conditions (s : Settings) : List (Bool × Failure) :=
  s.lengths.map rangeCondition ++ s.signConditions

/-- The failure of the first condition that does not hold. -/
def fault? (s : Settings) : Option Failure :=
  (s.conditions.find? (!·.1)).map (·.2)

/-- Conditions that are checked one after the other fail with the first one that does not hold. -/
theorem forM_require (conditions : List (Bool × Failure)) :
    (forM conditions fun c => require c.1 c.2) =
      ((conditions.find? (!·.1)).map (·.2)).elim (.ok ()) .error := by
  induction conditions with
  | nil => rfl
  | cons c rest ih =>
      obtain ⟨holds, failure⟩ := c
      rw [List.forM_cons, ih]
      cases holds <;> rfl

/-- A setting passes when it is rounded to a finite number. -/
theorem requireFinite_eq (value : Number) (setting : Setting) :
    requireFinite value setting =
      require value.rounded.isFinite (rangeFailure setting value) := by
  cases value with
  | real x => rfl
  | int n =>
      rw [requireFinite, Number.isFinite, Number.toReal_int, Number.rounded]
      cases h : (Binary64.ofInt n).isFinite with
      | true =>
          simp only [if_true, ok_bind, h]
          rfl
      | false => rfl

/-- Settings are accepted unless they have a fault, and then that is the failure. -/
theorem accept_eq (s : Settings) : s.accept = s.fault?.elim (.ok s) .error := by
  have hcheck : s.check = forM s.conditions fun c => require c.1 c.2 := by
    simp only [check, requireFinite_eq, conditions, lengths, signConditions, List.map_cons,
      List.map_nil, List.cons_append, List.nil_append, List.forM_cons, List.forM_nil,
      rangeCondition, bind_pure_unit]
  rw [accept, hcheck, forM_require, ← fault?]
  cases s.fault? <;> rfl

/-- The first length without a finite binary64 form. -/
def unmeasured? (s : Settings) : Option Number :=
  (s.lengths.find? (!·.2.rounded.isFinite)).map (·.2)

/-- No setting is out of range exactly when all are rounded to finite numbers. -/
theorem unmeasured?_eq_none_iff :
    s.unmeasured? = none ↔ ∀ length ∈ s.lengths, length.2.rounded.isFinite = true := by
  simp only [unmeasured?, Option.map_eq_none_iff, List.find?_eq_none, Bool.not_eq_true',
    Bool.not_eq_false]

/-- Settings are accepted when their lengths are measured and the signs are right. -/
theorem accept_eq_ok_iff :
    s.accept = .ok s ↔ s.unmeasured? = none ∧ ∀ c ∈ s.signConditions, c.1 = true := by
  have hfault : s.accept = .ok s ↔ s.fault? = none := by
    rw [accept_eq]
    cases s.fault? with
    | none => exact iff_of_true rfl rfl
    | some failure => exact iff_of_false (fun h => nomatch h) (fun h => nomatch h)
  rw [hfault, unmeasured?_eq_none_iff, fault?, Option.map_eq_none_iff, List.find?_eq_none,
    conditions, List.forall_mem_append, List.forall_mem_map]
  simp only [rangeCondition, Bool.not_eq_true', Bool.not_eq_false]

/-- The first length without a finite binary64 form decides the failure. -/
theorem fault?_of_unmeasured? {length : Number} (h : s.unmeasured? = some length) :
    ∃ setting, s.fault? = some (rangeFailure setting length) := by
  obtain ⟨entry, hfind, rfl⟩ := Option.map_eq_some_iff.1 h
  refine ⟨entry.1, ?_⟩
  have hmap : (s.lengths.map rangeCondition).find? (!·.1) = some (rangeCondition entry) := by
    rw [List.find?_map]
    exact congrArg (Option.map rangeCondition) hfind
  rw [fault?, conditions, List.find?_append, hmap]
  rfl

/-- When all lengths are measured, a failure is about the sign of a setting. -/
theorem isSettingFailure_of_fault? (h : s.unmeasured? = none) {failure : Failure}
    (hfault : s.fault? = some failure) : failure.isSettingFailure = true := by
  obtain ⟨c, hfind, rfl⟩ := Option.map_eq_some_iff.1 hfault
  rcases List.mem_append.1 (List.mem_of_find?_eq_some hfind) with hmem | hmem
  · -- the condition on a length that is measured holds
    obtain ⟨length, hlength, rfl⟩ := List.mem_map.1 hmem
    have hholds := List.find?_some hfind
    rw [rangeCondition, unmeasured?_eq_none_iff.1 h length hlength] at hholds
    contradiction
  · have hsigns : ∀ c ∈ s.signConditions, c.2.isSettingFailure = true := by
      simp only [signConditions, List.forall_mem_cons]
      exact ⟨rfl, rfl, rfl, rfl, rfl, fun _ hc => absurd hc List.not_mem_nil⟩
    exact hsigns c hmem

/-! ## Usable settings -/

/-- Settings with usable lengths. -/
structure HasUsableLengths (s : Settings) : Prop where
  unitHeight : s.unitHeight.IsPositive
  rackWidth : s.rackWidth.IsPositive
  rackSpacing : s.rackSpacing.IsNonnegative
  margin : s.margin.IsNonnegative

/-- Settings that give usable geometry: all numbers are finite, and none has the wrong sign. -/
structure IsUsable (s : Settings) : Prop extends s.HasUsableLengths where
  defaultRackHeight : s.defaultRackHeight.IsPositive

/-- Settings that are accepted exactly when they are usable, and refused with a failure about one of
them otherwise. -/
structure IsJudged (s : Settings) : Prop where
  accepted : s.IsUsable → s.accept = .ok s
  refused : ¬ s.IsUsable →
    ∃ failure, failure.isSettingFailure = true ∧ s.accept = .error failure

/-- A number that does not count as zero or less although it is not finite. -/
def IsEndless (n : Number) : Prop :=
  n = .real .nan ∨ n = .real (.infinite false)

/-- The signs of measured lengths are right when the lengths are usable and the default rack height
does not count as zero or less. -/
theorem signConditions_iff (h : s.unmeasured? = none) :
    (∀ c ∈ s.signConditions, c.1 = true) ↔
      s.HasUsableLengths ∧ s.defaultRackHeight.le 0 = false := by
  rw [unmeasured?_eq_none_iff] at h
  simp only [lengths, List.forall_mem_cons] at h
  obtain ⟨hunit, hwidth, hspacing, hmargin, -⟩ := h
  have hunit' := Number.isPositive_iff (Number.hasValue_of_rounded hunit)
  have hwidth' := Number.isPositive_iff (Number.hasValue_of_rounded hwidth)
  have hspacing' := Number.isNonnegative_iff (Number.hasValue_of_rounded hspacing)
  have hmargin' := Number.isNonnegative_iff (Number.hasValue_of_rounded hmargin)
  simp only [signConditions, List.forall_mem_cons, Bool.not_eq_true', List.not_mem_nil,
    false_implies, implies_true, and_true, ← hunit', ← hwidth', ← hspacing', ← hmargin']
  constructor
  · rintro ⟨hunitHeight, hrackWidth, hdefault, hrackSpacing, hmargin⟩
    exact ⟨⟨hunitHeight, hrackWidth, hrackSpacing, hmargin⟩, hdefault⟩
  · rintro ⟨h, hdefault⟩
    exact ⟨h.unitHeight, h.rackWidth, hdefault, h.rackSpacing, h.margin⟩

/-- Accepted settings have usable lengths, and a default rack height that is positive or endless. -/
theorem usable_of_accept (h : s.accept = .ok s) :
    s.HasUsableLengths ∧ (s.defaultRackHeight.IsPositive ∨ IsEndless s.defaultRackHeight) := by
  obtain ⟨hmeasured, hsigns⟩ := accept_eq_ok_iff.1 h
  obtain ⟨hlengths, hdefault⟩ := (signConditions_iff hmeasured).1 hsigns
  refine ⟨hlengths, ?_⟩
  by_cases hendless : IsEndless s.defaultRackHeight
  · exact Or.inr hendless
  · rw [IsEndless, not_or] at hendless
    exact Or.inl (Number.isPositive_of_le_zero hdefault hendless.1 hendless.2)

/-- A usable length that is not measured is an integer. -/
theorem HasUsableLengths.exists_int (h : s.HasUsableLengths) {length : Number}
    (hlength : s.unmeasured? = some length) : ∃ n, length = .int n := by
  obtain ⟨entry, hfind, rfl⟩ := Option.map_eq_some_iff.1 hlength
  have hvalues : ∀ entry ∈ s.lengths, entry.2.HasValue := by
    simp only [lengths, List.forall_mem_cons]
    exact ⟨h.unitHeight.hasValue, h.rackWidth.hasValue, h.rackSpacing.hasValue, h.margin.hasValue,
      fun _ hentry => absurd hentry List.not_mem_nil⟩
  have hvalue := hvalues entry (List.mem_of_find?_eq_some hfind)
  have hrange := List.find?_some hfind
  cases hentry : entry.2 with
  | int n => exact ⟨n, rfl⟩
  | real x =>
      rw [hentry] at hvalue hrange
      have hfinite : x.isFinite = true := hvalue
      rw [Number.rounded, hfinite] at hrange
      contradiction

section NoInteger

variable (hinteger : ∀ n, s.unmeasured? ≠ some (.int n))

include hinteger

/-- Usable lengths are accepted with a default rack height that does not count as zero or less. -/
theorem HasUsableLengths.accept (h : s.HasUsableLengths)
    (hdefault : s.defaultRackHeight.le 0 = false) : s.accept = .ok s := by
  have hmeasured : s.unmeasured? = none := by
    rw [Option.eq_none_iff_forall_ne_some]
    intro length hlength
    obtain ⟨n, rfl⟩ := h.exists_int hlength
    exact hinteger n hlength
  exact accept_eq_ok_iff.2 ⟨hmeasured, (signConditions_iff hmeasured).2 ⟨h, hdefault⟩⟩

/-- Settings are accepted or refused with a failure about one of them. -/
theorem accept_or_refused : s.accept = .ok s ∨
    ∃ failure, failure.isSettingFailure = true ∧ s.accept = .error failure := by
  rw [accept_eq]
  cases hfault : s.fault? with
  | none => exact Or.inl rfl
  | some failure =>
      refine Or.inr ⟨failure, ?_, rfl⟩
      cases hmeasured : s.unmeasured? with
      | none => exact isSettingFailure_of_fault? hmeasured hfault
      | some length =>
          obtain ⟨setting, hrange⟩ := fault?_of_unmeasured? hmeasured
          obtain rfl := Option.some.inj (hfault.symm.trans hrange)
          cases length with
          | int n => exact absurd hmeasured (hinteger n)
          | real x => rfl

end NoInteger

/-- An integer out of range that comes first among the lengths is told apart from what is wrong with
a setting. -/
theorem IsJudged.ne_some_int (h : s.IsJudged) (n : ℤ) : s.unmeasured? ≠ some (.int n) := by
  intro hn
  obtain ⟨setting, hfault⟩ := fault?_of_unmeasured? hn
  have haccept : s.accept = .error .integerTooLarge := by
    rw [accept_eq, hfault]
    rfl
  by_cases husable : s.IsUsable
  · rw [h.accepted husable] at haccept
    contradiction
  · obtain ⟨failure, hsetting, hfailure⟩ := h.refused husable
    obtain rfl := Except.error.inj (hfailure.symm.trans haccept)
    contradiction

/-- Settings are judged by their geometry when no integer out of range comes first among the
lengths, and when an endless default rack height does not come with usable lengths. -/
theorem isJudged_iff :
    s.IsJudged ↔ (∀ n, s.unmeasured? ≠ some (.int n)) ∧
      (s.HasUsableLengths → ¬ IsEndless s.defaultRackHeight) := by
  constructor
  · intro hjudged
    refine ⟨hjudged.ne_some_int, fun hlengths hendless => ?_⟩
    have hdefault : s.defaultRackHeight.le 0 = false := by
      rcases hendless with h | h <;> rw [h] <;> rfl
    have hunusable : ¬ s.IsUsable := by
      intro husable
      have hvalue := husable.defaultRackHeight.hasValue
      rcases hendless with h | h <;> rw [h] at hvalue <;> contradiction
    obtain ⟨failure, -, hfailure⟩ := hjudged.refused hunusable
    rw [hlengths.accept hjudged.ne_some_int hdefault] at hfailure
    contradiction
  · rintro ⟨hinteger, hdefault⟩
    constructor
    · intro husable
      have hpositive := husable.defaultRackHeight
      exact husable.accept hinteger ((Number.isPositive_iff hpositive.hasValue).1 hpositive)
    · intro hunusable
      -- accepted settings are usable, or their default height is endless, which the check lets pass
      rcases accept_or_refused hinteger with haccept | hrefused
      · obtain ⟨hlengths, hpositive | hendless⟩ := usable_of_accept haccept
        · exact absurd ⟨hlengths, hpositive⟩ hunusable
        · exact absurd hendless (hdefault hlengths)
      · exact hrefused

/-! ## Changes -/

/-- The value of a setting after a change: the new one if there is one, else the old one. -/
structure IsUpdate {α : Type} (new? : Option α) (old value : α) : Prop where
  kept : new? = none → value = old
  taken : ∀ new ∈ new?, value = new

/-- A new value takes the place of an old one, if there is one. -/
theorem isUpdate_getD {α : Type} (new? : Option α) (old : α) :
    IsUpdate new? old (new?.getD old) where
  kept := by
    rintro rfl
    rfl
  taken := by
    rintro new hnew
    rw [Option.mem_def.1 hnew, Option.getD_some]

/-- Settings that take the changes to others, and keep what is not changed. -/
structure IsChangeOf (s base : Settings) (c : Changes) : Prop where
  unitHeight : IsUpdate c.unitHeight base.unitHeight s.unitHeight
  rackWidth : IsUpdate c.rackWidth base.rackWidth s.rackWidth
  rackSpacing : IsUpdate c.rackSpacing base.rackSpacing s.rackSpacing
  margin : IsUpdate c.margin base.margin s.margin
  defaultRackHeight : IsUpdate c.defaultRackHeight base.defaultRackHeight s.defaultRackHeight
  colors : IsUpdate c.colors base.colors s.colors

/-- Changed settings are the given ones with the changes. -/
theorem isChangeOf_change (base : Settings) (c : Changes) : (base.change c).IsChangeOf base c :=
  ⟨isUpdate_getD _ _, isUpdate_getD _ _, isUpdate_getD _ _, isUpdate_getD _ _, isUpdate_getD _ _,
    isUpdate_getD _ _⟩

/-- What is accepted is what was asked for. -/
theorem eq_of_accept {asked : Settings} (h : asked.accept = .ok s) : asked = s := by
  obtain ⟨_, -, h⟩ := bind_eq_ok.1 h
  exact pure_eq_ok.1 h

end Settings

/-! ## Calls -/

/-- A call that makes settings: from the standard ones, or from those that an earlier call made. -/
inductive SettingsCall where
  | make (changes : Settings.Changes)
  | replace (which : ℕ) (changes : Settings.Changes)

namespace SettingsCall

/-- The changes that a call asks for. -/
def changes : SettingsCall → Settings.Changes
  | .make changes => changes
  | .replace _ changes => changes

/-- The settings that a call starts from, if they have been made. -/
def base? (made : List Settings) : SettingsCall → Option Settings
  | .make _ => some {}
  | .replace which _ => made[which]?

/-- What comes of a call, if it can be made. -/
def outcome? (made : List Settings) : SettingsCall → Option (Except Failure Settings)
  | .make changes => some (Settings.make changes)
  | .replace which changes => made[which]?.map (·.replace changes)

/-- The settings that have been made after a call. -/
def after (made : List Settings) (call : SettingsCall) : List Settings :=
  match call.outcome? made with
  | some (.ok s) => made ++ [s]
  | some (.error _) => made
  | none => made

variable {made : List Settings} {call : SettingsCall}

/-- A call has the outcome of the check on what it asks for. -/
theorem outcome?_eq {base : Settings} (h : call.base? made = some base) :
    call.outcome? made = some (base.change call.changes).accept := by
  cases call with
  | make changes =>
      obtain rfl := Option.some.inj h
      rfl
  | replace which changes =>
      rw [base?] at h
      rw [outcome?, h]
      rfl

/-- Settings that are made have passed the check. -/
theorem accept_of_outcome? {s : Settings} (h : call.outcome? made = some (.ok s)) :
    s.accept = .ok s := by
  cases hbase : call.base? made with
  | none =>
      cases call with
      | make changes => contradiction
      | replace which changes =>
          rw [base?] at hbase
          rw [outcome?, hbase] at h
          contradiction
  | some base =>
      rw [outcome?_eq hbase] at h
      have haccept := Option.some.inj h
      rwa [Settings.eq_of_accept haccept] at haccept

/-- A call leaves only accepted settings if it finds only such. -/
theorem accept_of_mem_after (hmade : ∀ s ∈ made, s.accept = .ok s) :
    ∀ s ∈ call.after made, s.accept = .ok s := by
  rw [after]
  split
  · next s houtcome =>
      exact List.forall_mem_append.2
        ⟨hmade, List.forall_mem_singleton.2 (accept_of_outcome? houtcome)⟩
  · exact hmade
  · exact hmade

end SettingsCall

/-- The settings that calls make, one call after the other. -/
def madeBy (calls : List SettingsCall) : List Settings :=
  calls.foldl SettingsCall.after []

/-- The settings after some calls are those that the last call leaves. -/
theorem madeBy_append_singleton (calls : List SettingsCall) (call : SettingsCall) :
    madeBy (calls ++ [call]) = call.after (madeBy calls) := by
  rw [madeBy, List.foldl_append, ← madeBy]
  rfl

/-- Whatever calls are made, all settings have passed the check. -/
theorem accept_of_mem_madeBy (calls : List SettingsCall) :
    ∀ s ∈ madeBy calls, s.accept = .ok s := by
  -- induction on the last call, which adds accepted settings or none
  induction calls using List.reverseRecOn with
  | nil => exact fun _ hs => absurd hs List.not_mem_nil
  | append_singleton calls call ih =>
      rw [madeBy_append_singleton]
      exact SettingsCall.accept_of_mem_after ih

/-- After any calls, the settings that were made have usable lengths, and a default rack height that
is positive or endless.  A further call accepts what it asks for exactly when it is usable, and
refuses it with a failure about a setting otherwise, except where an integer out of range comes
first among the lengths, and where an endless default rack height comes with usable lengths.  A call
that succeeds adds settings that keep what it does not name; a call that fails changes none. -/
theorem SettingsCall.outcomes_law (calls : List SettingsCall) :
    (∀ s ∈ madeBy calls, s.HasUsableLengths ∧
      (s.defaultRackHeight.IsPositive ∨ Settings.IsEndless s.defaultRackHeight)) ∧
    ∀ (call : SettingsCall) (base : Settings), call.base? (madeBy calls) = some base →
      let asked := base.change call.changes
      call.outcome? (madeBy calls) = some asked.accept ∧
      (asked.IsJudged ↔ (∀ n, asked.unmeasured? ≠ some (.int n)) ∧
        (asked.HasUsableLengths → ¬ Settings.IsEndless asked.defaultRackHeight)) ∧
      (∀ s, call.outcome? (madeBy calls) = some (.ok s) →
        s.IsChangeOf base call.changes ∧ madeBy (calls ++ [call]) = madeBy calls ++ [s]) ∧
      (∀ failure, call.outcome? (madeBy calls) = some (.error failure) →
        madeBy (calls ++ [call]) = madeBy calls) := by
  refine ⟨fun s hs => Settings.usable_of_accept (accept_of_mem_madeBy calls s hs), ?_⟩
  intro call base hbase asked
  have houtcome := outcome?_eq hbase
  refine ⟨houtcome, Settings.isJudged_iff, fun s hs => ⟨?_, ?_⟩, fun failure hfailure => ?_⟩
  -- accepted settings are kept as they were asked for
  · have haccept := Option.some.inj (houtcome.symm.trans hs)
    rw [← Settings.eq_of_accept haccept]
    exact Settings.isChangeOf_change base call.changes
  · rw [madeBy_append_singleton, after, hs]
  · rw [madeBy_append_singleton, after, hfailure]

/-- Settings without a margin, a change of them that is refused, and one that is accepted. -/
theorem SettingsCall.outcomes_law_replaced :
    ∃ calls base call s, madeBy calls = [base] ∧ base = { margin := 0 } ∧
      call = .replace 0 { unitHeight := some 10 } ∧ s = { margin := 0, unitHeight := 10 } ∧
      call.base? (madeBy calls) = some base ∧ call.outcome? (madeBy calls) = some (.ok s) ∧
      s.IsChangeOf base call.changes ∧ madeBy (calls ++ [call]) = [base, s] := by
  have hmade : madeBy [.make { margin := some 0 }, .replace 0 { rackWidth := some (.int (-1)) }] =
      [{ margin := 0 }] := by decide +kernel
  have hbase : (SettingsCall.replace 0 { unitHeight := some 10 }).base?
      (madeBy [.make { margin := some 0 }, .replace 0 { rackWidth := some (.int (-1)) }]) =
      some { margin := 0 } := by
    rw [hmade]
    rfl
  obtain ⟨houtcome, -, hmakes, -⟩ := (SettingsCall.outcomes_law _).2 _ _ hbase
  have haccept : Settings.accept { margin := 0, unitHeight := 10 } =
      .ok { margin := 0, unitHeight := 10 } := by decide +kernel
  obtain ⟨hchange, hafter⟩ := hmakes _ (houtcome.trans (congrArg some haccept))
  rw [hmade] at hafter
  exact ⟨_, _, _, _, hmade, rfl, rfl, rfl, hbase, houtcome.trans (congrArg some haccept), hchange,
    hafter⟩

/-- A margin that is an integer out of the range of binary64 is usable and refused, and not because
of the setting.  An infinite default rack height is not usable and accepted. -/
theorem Settings.not_isJudged_outOfRange :
    (∃ s : Settings, s = { margin := .int (10 ^ 400) } ∧ s.IsUsable ∧
      Settings.make { margin := some s.margin } = .error .integerTooLarge ∧ ¬ s.IsJudged) ∧
    ∃ s : Settings, s = { defaultRackHeight := .real (.infinite false) } ∧ ¬ s.IsUsable ∧
      Settings.make { defaultRackHeight := some s.defaultRackHeight } = .ok s ∧ ¬ s.IsJudged := by
  constructor
  · have haccept : Settings.accept { margin := .int (10 ^ 400) } = .error .integerTooLarge := by
      decide +kernel
    have husable : Settings.IsUsable { margin := .int (10 ^ 400) } :=
      ⟨⟨Number.isPositive_int_iff.2 (by decide), Number.isPositive_int_iff.2 (by decide),
        Number.isNonnegative_int_iff.2 (by decide), Number.isNonnegative_int_iff.2 (by positivity)⟩,
        Number.isPositive_int_iff.2 (by decide)⟩
    refine ⟨_, rfl, husable, haccept, fun hjudged => ?_⟩
    rw [hjudged.accepted husable] at haccept
    contradiction
  · have haccept : Settings.accept { defaultRackHeight := .real (.infinite false) } =
        .ok { defaultRackHeight := .real (.infinite false) } := by
      decide +kernel
    have hunusable : ¬ Settings.IsUsable { defaultRackHeight := .real (.infinite false) } := by
      rintro ⟨-, k, hk, -⟩
      contradiction
    refine ⟨_, rfl, hunusable, haccept, fun hjudged => ?_⟩
    obtain ⟨failure, -, hfailure⟩ := hjudged.refused hunusable
    rw [haccept] at hfailure
    contradiction

end RackElevation
