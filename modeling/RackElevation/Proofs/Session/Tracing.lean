import RackElevation.Proofs.Drawing.Printing
import RackElevation.Proofs.Session.ReadBack

/-!
# Traced rendering

Rendering with a trace does what rendering without one does, and it writes the drawing as well, to
keep its text.  Nothing else that is kept can fail, so the outcomes differ for one reason only: the
drawing holds an integer that is too long to be written.
-/

namespace RackElevation

open Markup

/-- The names of the stages of a rendering, in their order. -/
def stageOrder : List String :=
  ["parse", "layout", "assemble"]

/-! ## The ends of a rendering -/

/-- The last stage is left out when the drawing cannot be written. -/
theorem tracedDrawing_cases (trace : Trace) (layout : Layout) :
    (∃ failure, layout.drawing.svg nestingLimit = .error failure ∧
      tracedDrawing trace layout =
        (trace.addStage layout.stage, ⟨layout.drawingReport.notes, .error failure⟩)) ∨
    (∃ text stage, layout.drawing.svg nestingLimit = .ok text ∧ stage.name = "assemble" ∧
      tracedDrawing trace layout =
        ((trace.addStage layout.stage).addStage stage, layout.drawingReport)) := by
  simp only [tracedDrawing, Layout.drawingReport, Except.bind, Drawing.stage]
  cases layout.drawing.svg nestingLimit with
  | error failure => exact .inl ⟨failure, rfl, rfl⟩
  | ok text => exact .inr ⟨text, _, rfl, rfl, rfl⟩

/-- How a traced rendering ends beside the plain one of the same source. -/
inductive TracedEnd (plain traced : Report Drawing) (trace : Trace) : Prop where
  /-- A stage before the drawing failed, and both renderings with it. -/
  | stopped {failure : Failure} (hplain : plain.outcome = .error failure) (htraced : traced = plain)
      (hnames : trace.stageNames <+: ["parse"])
  /-- The drawing was made, but it cannot be written. -/
  | unwritten {drawing : Drawing} {failure : Failure} (hplain : plain.outcome = .ok drawing)
      (hnative : drawing.IsNative) (hsvg : drawing.svg nestingLimit = .error failure)
      (htraced : traced = ⟨plain.notes, .error failure⟩)
      (hnames : trace.stageNames = ["parse", "layout"])
  /-- The drawing was made and written. -/
  | completed {drawing : Drawing} {text : String} (hplain : plain.outcome = .ok drawing)
      (hnative : drawing.IsNative) (hsvg : drawing.svg nestingLimit = .ok text)
      (htraced : traced = plain)
      (hnames : trace.stageNames = stageOrder)

section Rendering

variable (settings : Settings) (source : Source)

/-- A traced rendering ends as a plain one and the writing of its drawing do together. -/
theorem tracedEnd_tracedRender : TracedEnd (render settings source)
    (tracedRender settings source).2 (tracedRender settings source).1 := by
  rw [tracedRender, render, arrange, RackSet.readReport]
  cases RackSet.read source with
  | error failure =>
      dsimp only [Report.andThen]
      exact .stopped rfl rfl List.nil_prefix
  | ok set =>
      dsimp only [Report.andThen, RackSet.report]
      cases set.layout settings with
      | error failure => exact .stopped rfl rfl List.prefix_rfl
      -- from here on both renderings have the drawing, and only writing it can still fail
      | ok layout =>
          have hnative := isNative_drawing layout true
          dsimp only
          rcases tracedDrawing_cases (Trace.addStage { source } set.stage) layout with
            ⟨failure, hsvg, htraced⟩ | ⟨text, stage, hsvg, hname, htraced⟩
          · rw [htraced]
            exact .unwritten rfl hnative hsvg rfl rfl
          · rw [htraced]
            refine .completed rfl hnative hsvg rfl ?_
            show ["parse", "layout", stage.name] = stageOrder
            rw [hname]
            rfl

/-- A trace names the source that was rendered. -/
theorem source_tracedRender : (tracedRender settings source).1.source = source := by
  rw [tracedRender]
  dsimp only
  cases (RackSet.readReport source).outcome with
  | error failure => rfl
  | ok set =>
      dsimp only
      cases (RackSet.report settings set).outcome with
      | error failure => rfl
      | ok layout =>
          dsimp only
          rcases tracedDrawing_cases (Trace.addStage { source } set.stage) layout with
            ⟨_, -, htraced⟩ | ⟨_, _, -, -, htraced⟩
          · rw [htraced]
            rfl
          · rw [htraced]
            rfl

end Rendering

/-! ## Stages -/

section Stages

variable {settings : Settings} {source : Source}

/-- The stages in a trace come in their order, without gaps. -/
theorem stageNames_prefix : (tracedRender settings source).1.stageNames <+: stageOrder := by
  cases tracedEnd_tracedRender settings source with
  | stopped _ _ hnames => exact hnames.trans ⟨["layout", "assemble"], rfl⟩
  | unwritten _ _ _ _ hnames =>
      rw [hnames]
      exact ⟨["assemble"], rfl⟩
  | completed _ _ _ _ hnames =>
      rw [hnames]

/-- All stages are in a trace exactly when the rendering returned a drawing. -/
theorem stageNames_eq_iff : (tracedRender settings source).1.stageNames = stageOrder ↔
    ∃ drawing, (tracedRender settings source).2.outcome = .ok drawing := by
  cases tracedEnd_tracedRender settings source with
  | stopped hplain htraced hnames =>
      rw [htraced, hplain]
      refine iff_of_false (fun heq => ?_) fun ⟨_, h⟩ => nomatch h
      rw [heq] at hnames
      exact absurd hnames.length_le (by decide)
  | unwritten _ _ _ htraced hnames =>
      rw [htraced, hnames]
      exact iff_of_false (by decide) fun ⟨_, h⟩ => nomatch h
  | completed hplain _ _ htraced hnames =>
      rw [htraced, hplain]
      exact iff_of_true hnames ⟨_, rfl⟩

/-! ## Outcomes -/

/-- A traced rendering fails as a plain one does. -/
theorem outcome_tracedRender_of_error {failure : Failure}
    (h : (render settings source).outcome = .error failure) :
    (tracedRender settings source).2.outcome = .error failure := by
  cases tracedEnd_tracedRender settings source with
  | stopped _ htraced _ => rw [htraced, h]
  | unwritten hplain _ _ _ _ =>
      rw [hplain] at h
      contradiction
  | completed hplain _ _ _ _ =>
      rw [hplain] at h
      contradiction

/-- A traced rendering has the drawing of a plain one when that can be written, and else it fails as
writing does. -/
theorem outcome_tracedRender_of_ok {drawing : Drawing}
    (h : (render settings source).outcome = .ok drawing) :
    drawing.IsNative ∧
      (tracedRender settings source).2.outcome =
        (drawing.svg nestingLimit).map fun _ => drawing := by
  cases tracedEnd_tracedRender settings source with
  | stopped hplain _ _ =>
      rw [hplain] at h
      contradiction
  | unwritten hplain hnative hsvg htraced _ =>
      obtain rfl := Except.ok.inj (hplain.symm.trans h)
      rw [htraced, hsvg]
      exact ⟨hnative, rfl⟩
  | completed hplain hnative hsvg htraced _ =>
      obtain rfl := Except.ok.inj (hplain.symm.trans h)
      rw [htraced, hsvg, hplain]
      exact ⟨hnative, rfl⟩

end Stages

/-! ## Sessions -/

namespace Session

variable (session : Session) (source : Source)

theorem generate_plain : session.generate source false =
    ({ session with trace := none }, render session.settings source) := rfl

theorem generate_traced : session.generate source true =
    ({ session with trace := some (tracedRender session.settings source).1 },
      (tracedRender session.settings source).2) := rfl

end Session

/-- A source is drawn with a trace as it is without one exactly when the drawing holds no integer
beyond the limit on integer text.  With such an integer there is a drawing without a trace, and a
failure with one. -/
theorem Session.debug_outcome_iff (session : Session) (source : Source) :
    ((session.generate source true).2.outcome = (session.generate source false).2.outcome ↔
      ∀ drawing, (session.generate source false).2.outcome = .ok drawing →
        drawing.IsPrintable) ∧
    (∀ drawing, (session.generate source false).2.outcome = .ok drawing →
      ¬ drawing.IsPrintable →
        (session.generate source true).2.outcome = .error .integerTooLong) := by
  rw [Session.generate_plain, Session.generate_traced]
  dsimp only
  cases hplain : (render session.settings source).outcome with
  | error failure =>
      -- no drawing is made, with a trace or without one
      rw [outcome_tracedRender_of_error hplain]
      exact ⟨iff_of_true rfl fun _ h => (nomatch h), fun _ h => (nomatch h)⟩
  | ok drawing =>
      obtain ⟨hnative, htraced⟩ := outcome_tracedRender_of_ok hplain
      have hsvg := Drawing.isWrittenIff_svg (depth_lt_of_render hplain) hnative
      simp only [Except.ok.injEq, forall_eq']
      rw [htraced]
      by_cases hprintable : drawing.IsPrintable
      · obtain ⟨text, hok⟩ := hsvg.ok hprintable
        rw [hok]
        exact ⟨iff_of_true rfl hprintable, fun h => absurd hprintable h⟩
      · rw [hsvg.error hprintable]
        exact ⟨iff_of_false (fun h => nomatch h) hprintable, fun _ => rfl⟩

/-- A height of as many digits as can be read gives a drawing that cannot be kept in a trace. -/
theorem Session.debug_outcome_tall {k : Nat} (hk : k + 1 = integerTextLimit) :
    ∃ drawing,
      (Session.generate { settings := {} } (tallSource k) false).2.outcome = .ok drawing ∧
      (Session.generate { settings := {} } (tallSource k) true).2.outcome =
        .error .integerTooLong := by
  obtain ⟨drawing, -, hrender, hsvg, -⟩ := not_readsBack_tall hk
  obtain ⟨-, htraced⟩ := outcome_tracedRender_of_ok hrender
  refine ⟨drawing, ?_, ?_⟩
  · rw [Session.generate_plain]
    exact hrender
  · rw [Session.generate_traced]
    dsimp only
    rw [htraced, hsvg]
    rfl

/-- A rack whose height has 4300 digits is drawn, but not if it is traced. -/
theorem Session.debug_outcome_tallRack :
    ∃ drawing,
      (Session.generate { settings := {} } (tallSource 4299) false).2.outcome = .ok drawing ∧
      (Session.generate { settings := {} } (tallSource 4299) true).2.outcome =
        .error .integerTooLong :=
  Session.debug_outcome_tall rfl

end RackElevation
