import RackElevation.Command
import RackElevation.Proofs.Outcome

/-!
# Settings from a command line

The lengths on a command line are read as binary64 numbers, and the standard ones are small
integers.  So they can be checked in any case, and settings from a command line are refused only
because one of them makes no sense.
-/

namespace RackElevation.Command

/-- Every length has a binary64 form. -/
structure Invocation.IsMeasured (i : Invocation) : Prop where
  unitHeight : ∃ x, i.unitHeight.toReal = .ok x
  rackWidth : ∃ x, i.rackWidth.toReal = .ok x
  rackSpacing : ∃ x, i.rackSpacing.toReal = .ok x
  margin : ∃ x, i.margin.toReal = .ok x

/-! ## Flags -/

/-- A fold keeps what each of its steps keeps. -/
theorem foldlM_preserves {σ α ε : Type} {f : σ → α → Except ε σ} {holds : σ → Prop}
    (hstep : ∀ s a s', holds s → f s a = .ok s' → holds s') {as : List α} {s s' : σ} (hs : holds s)
    (h : as.foldlM f s = .ok s') : holds s' := by
  induction as generalizing s with
  | nil =>
      rw [List.foldlM_nil] at h
      exact pure_eq_ok.1 h ▸ hs
  | cons a rest ih =>
      rw [List.foldlM_cons] at h
      obtain ⟨next, hnext, hrest⟩ := bind_eq_ok.1 h
      exact ih (hstep s a next hs hnext) hrest

/-- A length on the command line has a binary64 form, for it is read as one. -/
theorem exists_toReal_of_realValue {flag : Flag} {text : String} {length : Number}
    (h : realValue flag text = .ok length) : ∃ x, length.toReal = .ok x := by
  unfold realValue at h
  split at h
  · next x _ => exact ⟨x, Except.ok.inj h ▸ rfl⟩
  · contradiction

namespace Invocation

variable {i j : Invocation}

/-- The lengths by default have binary64 forms. -/
theorem isMeasured_standard : IsMeasured { input := "" } where
  unitHeight := ⟨_, if_pos (by decide +kernel)⟩
  rackWidth := ⟨_, if_pos (by decide +kernel)⟩
  rackSpacing := ⟨_, if_pos (by decide +kernel)⟩
  margin := ⟨_, if_pos (by decide +kernel)⟩

/-- A value given for a length has a binary64 form, and no other flag touches the lengths. -/
theorem IsMeasured.withValue {flag : Flag} {text : String} (hi : i.IsMeasured)
    (h : i.withValue flag text = .ok j) : j.IsMeasured := by
  unfold Invocation.withValue at h
  split_ifs at h
  -- the four flags with lengths set one each, and the others none
  cases flag with
  | output =>
      rw [← Except.ok.inj h]
      exact ⟨hi.unitHeight, hi.rackWidth, hi.rackSpacing, hi.margin⟩
  | help | verbose =>
      rw [← Except.ok.inj h]
      exact hi
  | format | scale | defaultRackHeight =>
      obtain ⟨value, -, hj⟩ := bind_eq_ok.1 h
      rw [← pure_eq_ok.1 hj]
      exact ⟨hi.unitHeight, hi.rackWidth, hi.rackSpacing, hi.margin⟩
  | unitHeight =>
      obtain ⟨value, hvalue, hj⟩ := bind_eq_ok.1 h
      rw [← pure_eq_ok.1 hj]
      exact ⟨exists_toReal_of_realValue hvalue, hi.rackWidth, hi.rackSpacing, hi.margin⟩
  | rackWidth =>
      obtain ⟨value, hvalue, hj⟩ := bind_eq_ok.1 h
      rw [← pure_eq_ok.1 hj]
      exact ⟨hi.unitHeight, exists_toReal_of_realValue hvalue, hi.rackSpacing, hi.margin⟩
  | rackSpacing =>
      obtain ⟨value, hvalue, hj⟩ := bind_eq_ok.1 h
      rw [← pure_eq_ok.1 hj]
      exact ⟨hi.unitHeight, hi.rackWidth, exists_toReal_of_realValue hvalue, hi.margin⟩
  | margin =>
      obtain ⟨value, hvalue, hj⟩ := bind_eq_ok.1 h
      rw [← pure_eq_ok.1 hj]
      exact ⟨hi.unitHeight, hi.rackWidth, hi.rackSpacing, exists_toReal_of_realValue hvalue⟩

/-- A flag without a value changes no length. -/
theorem IsMeasured.withFlag {flag : Flag} (hi : i.IsMeasured) (h : i.withFlag flag = .ok j) :
    j.IsMeasured := by
  unfold Invocation.withFlag at h
  split at h
  · contradiction
  · rw [← Except.ok.inj h]
    exact ⟨hi.unitHeight, hi.rackWidth, hi.rackSpacing, hi.margin⟩
  · rw [← Except.ok.inj h]
    exact hi

/-- Options that are read keep the lengths measured, one after the other. -/
theorem IsMeasured.withAll {flags : List (Flag × Option String)} (hi : i.IsMeasured)
    (h : i.withAll flags = .ok j) : j.IsMeasured := by
  refine foldlM_preserves (fun i entry j hi h => ?_) hi h
  obtain ⟨flag, value?⟩ := entry
  cases value? with
  | none => exact hi.withFlag h
  | some text => exact hi.withValue h

end Invocation

/-! ## Words -/

/-- An argument that is no option changes no length. -/
theorem Reading.isMeasured_addPlain {r : Reading} (hr : r.invocation.IsMeasured) (text : String) :
    (r.addPlain text).invocation.IsMeasured := by
  unfold Reading.addPlain
  split_ifs
  · exact hr
  · exact ⟨hr.unitHeight, hr.rackWidth, hr.rackSpacing, hr.margin⟩

/-- Options keep the lengths of a reading measured. -/
theorem Reading.isMeasured_addFlags {r r' : Reading} {flags : List (Flag × Option String)}
    (hr : r.invocation.IsMeasured) (h : r.addFlags flags = .ok r') :
    r'.invocation.IsMeasured := by
  obtain ⟨i, hi, hr'⟩ := bind_eq_ok.1 h
  rw [← pure_eq_ok.1 hr']
  exact hr.withAll hi

/-- The words of a command line are read one after the other, and the lengths stay measured. -/
theorem Reading.isMeasured_addAll {r r' : Reading} {words : List Word}
    (hr : r.invocation.IsMeasured) (h : r.addAll words = .ok r') : r'.invocation.IsMeasured := by
  -- one case for each branch of the reader: the words only add to the input, the extras and the
  -- flags
  fun_induction Reading.addAll r words with
  | case1 r =>
      rw [← Except.ok.inj h]
      exact hr
  | case2 r text rest _ ih | case3 r text rest _ ih | case4 r text rest _ ih
  | case6 r text rest _ ih => exact ih (isMeasured_addPlain hr text) h
  | case5 r text rest _ ih =>
      have hextra : (r.addExtra "--").invocation.IsMeasured := hr
      exact ih (isMeasured_addPlain hextra text) h
  | case7 r rest _ ih => exact ih hr h
  | case8 r text rest ih => exact ih hr h
  | case9 r name flag value? rest error _ => contradiction
  | case10 r name flag value? flags _ rest _ ih =>
      obtain ⟨next, hnext, hrest⟩ := bind_eq_ok.1 h
      exact ih next (isMeasured_addFlags hr hnext) hrest
  | case11 r name flag value? flags _ lacking text rest _ ih =>
      obtain ⟨next, hnext, hrest⟩ := bind_eq_ok.1 h
      exact ih next (isMeasured_addFlags hr hnext) hrest
  | case12 r name flag value? rest flags _ lacking _ _ => contradiction

/-- The lengths on a command line that is accepted have binary64 forms. -/
theorem Invocation.isMeasured_of_ofTexts {texts : List String} {i : Invocation}
    (h : Invocation.ofTexts texts = .ok i) : i.IsMeasured := by
  unfold Invocation.ofTexts at h
  split at h
  · contradiction
  · obtain ⟨r, hr, h⟩ := bind_eq_ok.1 h
    have hlast : r.invocation = i := by
      dsimp only at h
      cases hinput : r.hasInput with
      | false =>
          rw [hinput] at h
          contradiction
      | true =>
          cases hextras : r.extras.isEmpty with
          | false =>
              rw [hinput, hextras] at h
              contradiction
          | true =>
              rw [hinput, hextras] at h
              exact pure_eq_ok.1 h
    rw [← hlast]
    exact Reading.isMeasured_addAll Invocation.isMeasured_standard hr

/-! ## Settings -/

/-- A requirement on settings fails on the settings only. -/
theorem Settings.failsOnly_require {holds : Bool} {failure : Failure}
    (h : failure.isSettingFailure = true) :
    FailsOnly (·.isSettingFailure) (Settings.require holds failure) := by
  unfold Settings.require
  split_ifs
  · exact .ok
  · exact .error h

/-- A measured length is required to be finite without any other failure. -/
theorem Settings.failsOnly_requireFinite {value : Number} {setting : Setting}
    (h : ∃ x, value.toReal = .ok x) :
    FailsOnly (·.isSettingFailure) (Settings.requireFinite value setting) := by
  obtain ⟨x, hx⟩ := h
  unfold Settings.requireFinite Number.isFinite
  rw [hx]
  exact failsOnly_require rfl

/-- Settings made from measured lengths fail only because one of them makes no sense. -/
theorem Invocation.failsOnly_make {i : Invocation} (hi : i.IsMeasured) :
    FailsOnly (·.isSettingFailure) (Session.make i.changes) := by
  have hcheck : FailsOnly (·.isSettingFailure) (Settings.check (Settings.change {} i.changes)) := by
    -- lengths from the command line are finite numbers, so only the sign checks can fail
    unfold Settings.check
    apply (Settings.failsOnly_requireFinite hi.unitHeight).bind
    intro _ _
    apply (Settings.failsOnly_requireFinite hi.rackWidth).bind
    intro _ _
    apply (Settings.failsOnly_requireFinite hi.rackSpacing).bind
    intro _ _
    apply (Settings.failsOnly_requireFinite hi.margin).bind
    intro _ _
    apply (Settings.failsOnly_require rfl).bind
    intro _ _
    apply (Settings.failsOnly_require rfl).bind
    intro _ _
    apply (Settings.failsOnly_require rfl).bind
    intro _ _
    apply (Settings.failsOnly_require rfl).bind
    intro _ _
    exact Settings.failsOnly_require rfl
  have hmake : FailsOnly (·.isSettingFailure) (Settings.make i.changes) :=
    hcheck.bind fun _ _ => .ok
  exact hmake.bind fun _ _ => .ok

end RackElevation.Command
