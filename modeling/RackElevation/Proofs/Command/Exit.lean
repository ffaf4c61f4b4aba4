import RackElevation.Proofs.Command.Arguments
import RackElevation.Proofs.Markup.Refusal
import RackElevation.Proofs.Session.Failures
import RackElevation.Proofs.Session.Independence
import RackElevation.Proofs.Store

/-!
# Exit codes

A run that ends has the exit code of the first thing that went wrong: the input or the settings, the
markup, the output.  Whether an output can be written does not depend on what is written, so the
code is known from the command line, the input and the store alone.

Some failures end a run without an exit code.  They are those of an encoding that is refused, of
numbers and rasters that cannot be rendered, and of a path that is none.
-/

namespace RackElevation

open Markup Raster

/-! ## Outcomes of stages -/

/-- What succeeds has a result. -/
theorem exists_of_succeeds {α : Type} {x : Except Failure α} (h : succeeds x = true) :
    ∃ a, x = .ok a := by
  cases x with
  | error failure => contradiction
  | ok a => exact ⟨a, rfl⟩

/-- A file is saved by writing its content. -/
theorem Export.outcome_save (file : Export) (store : Store) (path : Path) :
    (file.save store path path.text).outcome = store.write path file.content := by
  unfold Export.save Store.write
  rw [Report.outcome_andThen, Report.outcome_ofOutcome]
  cases store.writeShown path path.text file.content with
  | error failure => rfl
  | ok store => rfl

section Stages

variable {α : Type} {settings : Settings} {source : Source}

/-- A layout that is used further, seen for whether there is a result. -/
theorem map_outcome_arrange (next : Layout → Report α) :
    ((arrange settings source).andThen next).outcome.map (fun _ => ()) =
      RackSet.read source >>= fun set => set.layout settings >>= fun layout =>
        (next layout).outcome.map fun _ => () := by
  rw [Report.outcome_andThen, outcome_arrange]
  cases RackSet.read source with
  | error failure => rfl
  | ok set =>
      rw [ok_bind, ok_bind]
      cases set.layout settings with
      | error failure => rfl
      | ok layout => rfl

/-- A drawing that is used further comes from a layout. -/
theorem outcome_render_andThen (f : Drawing → Except Failure α) :
    ((render settings source).andThen fun drawing => .ofOutcome (f drawing)).outcome =
      ((arrange settings source).andThen fun layout => .ofOutcome (f layout.drawing)).outcome := by
  rw [render, Report.outcome_andThen, Report.outcome_andThen, Report.outcome_andThen]
  cases (arrange settings source).outcome with
  | error failure => rfl
  | ok layout => rfl

end Stages

namespace Command

namespace Invocation

/-! ## What decides the exit code -/

section Definitions

variable (i : Invocation) (store : Store) (standardInput : List UInt8)

/-- Whether the input cannot be read, or the settings or the output make no sense. -/
def isRejected : Bool :=
  !succeeds (i.readInput store standardInput) || !succeeds (Session.make i.changes) ||
    decide (i.scale < 1) || (decide (i.outputFormat = .png) && i.toStandardOutput)

/-- The racks of the input. -/
def readRacks : Except Failure RackSet := do
  let bytes ← i.readInput store standardInput
  RackSet.read (.bytes bytes)

/-- Racks rendered in the format of the output. -/
def renderRacks (typeface : Typeface) (settings : Settings) (set : RackSet) :
    Except Failure Unit := do
  let layout ← set.layout settings
  match i.outputFormat with
  | .svg => (layout.drawing.svg nestingLimit).map fun _ => ()
  | .png => (layout.picture typeface { scale := i.scale }).outcome.map fun _ => ()

/-- The place of the output, as far as something can be written there. -/
def openOutput : Except Failure Unit :=
  if i.toStandardOutput then .ok ()
  else (store.write (i.outputFile i.outputFormat) (.text "")).map fun _ => ()

/-- The exit code that tells what went wrong first. -/
def documentedExit : Nat :=
  if i.isRejected store standardInput then exitInput
  else if !succeeds (i.readRacks store standardInput) then exitMarkup
  else if !succeeds (i.openOutput store) then exitWrite
  else exitDone

/-- The failures that end a run without an exit code. -/
inductive Escapes (typeface : Typeface) : Failure → Prop where
  /-- The path of the input is none. -/
  | input : i.readInput store standardInput = .error .nullInPath → Escapes typeface .nullInPath
  /-- The input declares an encoding that is refused. -/
  | encoding {bytes : List UInt8} {failure : Failure} :
      i.isRejected store standardInput = false → i.readInput store standardInput = .ok bytes →
        (Source.bytes bytes).Refuses failure → Escapes typeface failure
  /-- The racks cannot be rendered. -/
  | rendering {session : Session} {set : RackSet} {failure : Failure} :
      i.isRejected store standardInput = false → Session.make i.changes = .ok session →
        i.readRacks store standardInput = .ok set →
          i.renderRacks typeface session.settings set = .error failure → Escapes typeface failure
  /-- The path of the output is none. -/
  | output {session : Session} {set : RackSet} :
      i.isRejected store standardInput = false → Session.make i.changes = .ok session →
        i.readRacks store standardInput = .ok set →
        i.renderRacks typeface session.settings set = .ok () →
          i.openOutput store = .error .nullInPath → Escapes typeface .nullInPath

end Definitions

/-! ## Plans -/

section Plans

variable {i : Invocation} {typeface : Typeface}

/-! ### The order of the checks -/

/-- An input that cannot be read comes first. -/
theorem plan_of_input {failure : Failure} : i.plan typeface (.error failure) =
    if failure.isPathFailure then
      ⟨[], .ok (.stop exitInput ("Failed to read input file: " ++ failure.message))⟩
    else ⟨[], .error failure⟩ :=
  rfl

/-- Settings come behind the input. -/
theorem plan_of_settings {failure : Failure} (h : Session.make i.changes = .error failure)
    (bytes : List UInt8) : i.plan typeface (.ok bytes) =
      if failure.isSettingFailure then ⟨[], .ok (.stop exitInput (settingsText failure))⟩
      else ⟨[], .error failure⟩ := by
  unfold plan
  rw [h]

/-- The scale comes last. -/
theorem plan_of_session {session : Session} (h : Session.make i.changes = .ok session)
    (bytes : List UInt8) : i.plan typeface (.ok bytes) =
      if i.scale < 1 then ⟨[], .ok (.stop exitInput (settingsText .scaleTooSmall))⟩
      else i.renderPlan typeface session (.bytes bytes) := by
  unfold plan
  rw [h]

/-! ### Outputs -/

/-- A plan that writes what was rendered. -/
def IsOutput (i : Invocation) (plan : Plan) : Prop :=
  (i.toStandardOutput = true ∧ ∃ text, plan = .print text) ∨
    (i.toStandardOutput = false ∧
      ∃ file, plan = .save i.outputFormat (i.outputFile i.outputFormat) file)

/-- What was rendered is written, whatever the format. -/
theorem renderPlan_eq_rendered (session : Session) (source : Source)
    (h : i.outputFormat = .png → i.toStandardOutput = false) :
    ∃ (α : Type) (report : Report α) (plan : α → Plan),
      i.renderPlan typeface session source = rendered report plan ∧
        report.outcome.map (fun _ => ()) =
          (RackSet.read source >>= i.renderRacks typeface session.settings) ∧
        ∀ a, i.IsOutput (plan a) := by
  unfold renderPlan renderRacks
  cases hformat : i.outputFormat with
  | svg =>
      cases hplace : i.toStandardOutput with
      | true =>
          refine ⟨String, (session.svg source).2, .print, rfl, ?_,
            fun text => .inl ⟨hplace, text, rfl⟩⟩
          show ((render session.settings source).andThen fun drawing =>
            .ofOutcome (drawing.svg nestingLimit)).outcome.map (fun _ => ()) = _
          rw [outcome_render_andThen, map_outcome_arrange]
          rfl
      | false =>
          refine ⟨Export, (session.drawingFile source).2, .save .svg (i.outputFile .svg), rfl, ?_,
            fun file => .inr ⟨hplace, file, by rw [hformat]⟩⟩
          -- a drawing is exported exactly when it can be written
          have hexport : ∀ drawing : Drawing,
              drawing.toExport.map (fun _ => ()) = (drawing.svg nestingLimit).map fun _ => () := by
            intro drawing
            unfold Drawing.toExport Drawing.svgFile
            cases drawing.svg nestingLimit <;> rfl
          show ((render session.settings source).andThen fun drawing =>
            .ofOutcome drawing.toExport).outcome.map (fun _ => ()) = _
          rw [outcome_render_andThen, map_outcome_arrange]
          simp only [Report.outcome_ofOutcome, hexport]
  | png =>
      have hplace := h hformat
      rw [hplace]
      refine ⟨Export, session.pictureFile typeface source { scale := i.scale },
        .save .png (i.outputFile .png), rfl, ?_, fun file => .inr ⟨hplace, file, by rw [hformat]⟩⟩
      exact map_outcome_arrange fun layout => layout.picture typeface { scale := i.scale }

end Plans

/-! ## Runs -/

/-- A run that ends with an exit code. -/
def EndsWith (outcome : Except Failure Run) (exit : Nat) : Prop :=
  ∃ result, outcome = .ok result ∧ result.exit = exit

section Runs

variable {i : Invocation} {typeface : Typeface} {store : Store} {standardInput : List UInt8}
  {here : String}

/-- A plan that fails is a run that fails. -/
theorem run_of_error {failure : Failure}
    (h : (i.plan typeface (i.readInput store standardInput)).outcome = .error failure) :
    i.run typeface store standardInput here = .error failure := by
  unfold Invocation.run
  dsimp only
  rw [h]
  rfl

/-- A plan that stops ends the run with its exit code. -/
theorem run_of_stop {exit : Nat} {message : String}
    (h : (i.plan typeface (i.readInput store standardInput)).outcome = .ok (.stop exit message)) :
    EndsWith (i.run typeface store standardInput here) exit := by
  unfold Invocation.run
  dsimp only
  rw [h]
  exact ⟨_, rfl, rfl⟩

/-- A plan to write ends as opening the output does. -/
theorem run_of_output {plan : Plan} (hplan : i.IsOutput plan)
    (h : (i.plan typeface (i.readInput store standardInput)).outcome = .ok plan) :
    (i.openOutput store = .ok () → EndsWith (i.run typeface store standardInput here) exitDone) ∧
      ∀ failure, i.openOutput store = .error failure →
        (failure.isPathFailure = true →
          EndsWith (i.run typeface store standardInput here) exitWrite) ∧
          (failure.isPathFailure = false →
            i.run typeface store standardInput here = .error failure) := by
  -- the output is opened with the empty text, which fails as any other content does
  unfold Invocation.run openOutput
  dsimp only
  rw [h]
  rcases hplan with ⟨hplace, text, rfl⟩ | ⟨hplace, file, rfl⟩
  · rw [if_pos hplace]
    exact ⟨fun _ => ⟨_, rfl, rfl⟩, fun _ herror => nomatch herror⟩
  · rw [hplace, if_neg Bool.false_ne_true, store.map_write _ (.text "") file.content, ok_bind]
    dsimp only
    rw [Export.outcome_save]
    cases store.write (i.outputFile i.outputFormat) file.content with
    | ok written => exact ⟨fun _ => ⟨_, rfl, rfl⟩, fun _ herror => nomatch herror⟩
    | error failure =>
        refine ⟨fun hok => (nomatch hok), fun failure' herror => ?_⟩
        obtain rfl := Except.error.inj herror
        dsimp only
        constructor
        · intro hpath
          rw [if_pos hpath]
          exact ⟨_, rfl, rfl⟩
        · intro hpath
          rw [hpath]
          rfl

/-! ### Accepted runs -/

/-- A run that is not rejected has an input, a session and a place for its output. -/
theorem exists_of_not_rejected (h : i.isRejected store standardInput = false) :
    ∃ bytes session, i.readInput store standardInput = .ok bytes ∧
      Session.make i.changes = .ok session ∧
        (i.outputFormat = .png → i.toStandardOutput = false) ∧
          i.plan typeface (i.readInput store standardInput) =
            i.renderPlan typeface session (.bytes bytes) := by
  unfold isRejected at h
  simp only [Bool.or_eq_false_iff, Bool.not_eq_false', decide_eq_false_iff_not] at h
  obtain ⟨⟨⟨hread, hmade⟩, hscale⟩, hplace⟩ := h
  obtain ⟨bytes, hinput⟩ := exists_of_succeeds hread
  obtain ⟨session, hmake⟩ := exists_of_succeeds hmade
  refine ⟨bytes, session, hinput, hmake, fun hformat => ?_, ?_⟩
  · rw [decide_eq_true hformat] at hplace
    exact hplace
  · rw [hinput, plan_of_session hmake, if_neg hscale]

/-- What the racks of an input come to, where it is known what the input holds. -/
theorem readRacks_of_input {bytes : List UInt8}
    (h : i.readInput store standardInput = .ok bytes) :
    i.readRacks store standardInput = RackSet.read (.bytes bytes) := by
  unfold readRacks
  rw [h, ok_bind]

/-- A run whose input cannot be read or rendered ends as reading or rendering does. -/
theorem run_of_failure (hrejected : i.isRejected store standardInput = false) {session : Session}
    (hmake : Session.make i.changes = .ok session) {failure : Failure}
    (h : (i.readRacks store standardInput >>= i.renderRacks typeface session.settings) =
      .error failure) :
    (failure = .malformedMarkup → EndsWith (i.run typeface store standardInput here) exitMarkup) ∧
      (failure ≠ .malformedMarkup → i.run typeface store standardInput here = .error failure) := by
  obtain ⟨bytes, session', hinput, hmake', hplace, hplan⟩ := exists_of_not_rejected hrejected
  obtain rfl := Except.ok.inj (hmake'.symm.trans hmake)
  obtain ⟨α, report, plan, hrendered, houtcome, -⟩ :=
    renderPlan_eq_rendered session' (.bytes bytes) hplace
  rw [readRacks_of_input hinput, ← houtcome] at h
  -- reading and rendering end in the failure of the report, which the plan turns into an exit code
  -- or lets escape
  cases hreport : report.outcome with
  | ok a =>
      rw [hreport] at h
      contradiction
  | error failure' =>
      rw [hreport] at h
      obtain rfl := Except.error.inj h
      constructor
      · rintro rfl
        apply run_of_stop
        rw [hplan, hrendered]
        unfold rendered
        rw [hreport]
      · intro hne
        apply run_of_error
        rw [hplan, hrendered]
        unfold rendered
        dsimp only
        rw [hreport]
        split
        · contradiction
        · next heq => exact absurd (Except.error.inj heq) hne
        · next heq => rw [Except.error.inj heq]

/-- A run whose input was rendered writes its output. -/
theorem run_of_rendered (hrejected : i.isRejected store standardInput = false) {session : Session}
    (hmake : Session.make i.changes = .ok session)
    (h : (i.readRacks store standardInput >>= i.renderRacks typeface session.settings) = .ok ()) :
    ∃ plan, i.IsOutput plan ∧
      (i.plan typeface (i.readInput store standardInput)).outcome = .ok plan := by
  obtain ⟨bytes, session', hinput, hmake', hplace, hplan⟩ := exists_of_not_rejected hrejected
  obtain rfl := Except.ok.inj (hmake'.symm.trans hmake)
  obtain ⟨α, report, plan, hrendered, houtcome, hplans⟩ :=
    renderPlan_eq_rendered session' (.bytes bytes) hplace
  rw [readRacks_of_input hinput, ← houtcome] at h
  obtain ⟨a, ha, -⟩ := map_eq_ok.1 h
  refine ⟨plan a, hplans a, ?_⟩
  rw [hplan, hrendered]
  unfold rendered
  rw [ha]

/-! ### Escapes -/

/-- The input is read, or its file cannot be. -/
theorem failsOnly_readInput (i : Invocation) (store : Store) (standardInput : List UInt8) :
    FailsOnly IsFileFailure (i.readInput store standardInput) := by
  unfold readInput
  split_ifs
  · exact .ok
  · exact (store.failsOnly_read _).map

/-- The output is opened, or its file cannot be. -/
theorem failsOnly_openOutput (i : Invocation) (store : Store) :
    FailsOnly IsFileFailure (i.openOutput store) := by
  unfold openOutput
  split_ifs
  · exact .ok
  · exact (store.failsOnly_write _ _).map

/-- Racks that were read fail only as rendering does. -/
theorem failsOnly_renderRacks (i : Invocation) (typeface : Typeface) (settings : Settings)
    (set : RackSet) : FailsOnly (·.isRenderingFailure) (i.renderRacks typeface settings set) := by
  unfold renderRacks
  apply (set.failsOnly_layout settings).ofNumber.bind
  intro layout _
  cases i.outputFormat with
  | svg =>
      have hroom := depth_drawing_lt layout true
      exact (Drawing.failsOnly_svg hroom (isNative_drawing layout true)).ofNumber.map
  | png => exact (layout.failsOnly_picture typeface _).map

/-- A failure that escapes ends the run. -/
theorem run_of_escapes {failure : Failure} (h : i.Escapes store standardInput typeface failure) :
    i.run typeface store standardInput here = .error failure := by
  cases h with
  | input hinput =>
      apply run_of_error
      rw [hinput, plan_of_input]
      rfl
  | encoding hrejected hinput hrefuses =>
      obtain ⟨_, session, -, hmake, -⟩ := @exists_of_not_rejected _ typeface _ _ hrejected
      have hread := RackSet.read_of_refuses hrefuses
      refine (run_of_failure hrejected hmake ?_).2 hrefuses.ne_malformedMarkup
      rw [readRacks_of_input hinput, hread]
      rfl
  | rendering hrejected hmake hread hrender =>
      refine (run_of_failure hrejected hmake ?_).2 ?_
      · rw [hread]
        exact hrender
      · -- racks that were read are not malformed any more
        rintro rfl
        exact absurd (failsOnly_renderRacks i _ _ _ _ hrender) (by decide)
  | output hrejected hmake hread hrender hopen =>
      obtain ⟨plan, hplan, houtcome⟩ :=
        run_of_rendered hrejected hmake (by rw [hread]; exact hrender)
      exact ((run_of_output hplan houtcome).2 _ hopen).2 rfl

/-- A run that is rejected tells why, unless the path of its input is none. -/
theorem endsWith_of_rejected (hi : i.IsMeasured)
    (hrejected : i.isRejected store standardInput = true) :
    EndsWith (i.run typeface store standardInput here) exitInput ∨
      i.readInput store standardInput = .error .nullInPath := by
  cases hinput : i.readInput store standardInput with
  | error failure =>
      rcases failsOnly_readInput i store standardInput failure hinput with hpath | rfl
      · left
        apply run_of_stop
        rw [hinput, plan_of_input, if_pos hpath]
      · exact .inr rfl
  | ok bytes =>
      left
      cases hmake : Session.make i.changes with
      | error failure =>
          apply run_of_stop
          rw [hinput, plan_of_settings hmake, if_pos (failsOnly_make hi failure hmake)]
      | ok session =>
          by_cases hscale : i.scale < 1
          · apply run_of_stop
            rw [hinput, plan_of_session hmake, if_pos hscale]
          · -- what is left to reject a run is a picture for the standard output
            have hplace : i.outputFormat = .png ∧ i.toStandardOutput = true := by
              unfold isRejected at hrejected
              rw [hinput, hmake, decide_eq_false hscale] at hrejected
              obtain ⟨hformat, hplace⟩ := Bool.and_eq_true_iff.1 hrejected
              exact ⟨of_decide_eq_true hformat, hplace⟩
            apply run_of_stop
            rw [hinput, plan_of_session hmake, if_neg hscale, renderPlan, hplace.1, hplace.2]

/-- A run of measured lengths ends with the exit code of what went wrong first, unless a failure
escapes. -/
theorem endsWith_or_escapes (hi : i.IsMeasured) :
    EndsWith (i.run typeface store standardInput here) (i.documentedExit store standardInput) ∨
      ∃ failure, i.Escapes store standardInput typeface failure := by
  -- the stages in the order of their exit codes; in each the failures that escape are set apart
  unfold documentedExit
  cases hrejected : i.isRejected store standardInput with
  | true =>
      rw [if_pos rfl]
      exact (endsWith_of_rejected hi hrejected).imp_right fun hinput => ⟨_, .input hinput⟩
  | false =>
      rw [if_neg Bool.false_ne_true]
      obtain ⟨bytes, session, hinput, hmake, -⟩ := @exists_of_not_rejected _ typeface _ _ hrejected
      have hracks := readRacks_of_input hinput
      cases hread : i.readRacks store standardInput with
      | error failure =>
          rcases RackSet.failsOnly_read failure (hracks ▸ hread) with rfl | hrefuses
          · left
            refine (run_of_failure hrejected hmake ?_).1 rfl
            rw [hread]
            rfl
          · exact .inr ⟨failure, .encoding hrejected hinput hrefuses⟩
      | ok set =>
          show EndsWith _ (if !succeeds (i.openOutput store) then exitWrite else exitDone) ∨ _
          cases hrender : i.renderRacks typeface session.settings set with
          | error failure => exact .inr ⟨failure, .rendering hrejected hmake hread hrender⟩
          | ok =>
              obtain ⟨plan, hplan, houtcome⟩ :=
                run_of_rendered hrejected hmake (by rw [hread]; exact hrender)
              obtain ⟨hdone, hfails⟩ := run_of_output hplan houtcome
              cases hopen : i.openOutput store with
              | ok => exact .inl (hdone hopen)
              | error failure =>
                  rcases failsOnly_openOutput i store failure hopen with hpath | rfl
                  · exact .inl ((hfails failure hopen).1 hpath)
                  · exact .inr ⟨_, .output hrejected hmake hread hrender hopen⟩

/-- What escapes is a path that is none, a refused encoding, or a failure of rendering. -/
theorem Escapes.sort {failure : Failure} (h : i.Escapes store standardInput typeface failure) :
    failure = .nullInPath ∨ (∃ name, failure ∈ refusals name) ∨
      failure.isRenderingFailure = true := by
  cases h with
  | input => exact .inl rfl
  | encoding _ _ hrefuses =>
      obtain ⟨name, -, -, -, hmem⟩ := hrefuses
      exact .inr (.inl ⟨name, hmem⟩)
  | rendering _ _ _ hrender => exact .inr (.inr (failsOnly_renderRacks i _ _ _ _ hrender))
  | output => exact .inl rfl

end Runs

end Invocation

/-- A run of a command line that is accepted ends with the exit code of what went wrong first.  It
ends without one exactly when a failure escapes: an encoding that is refused, a path that is none,
or racks that cannot be rendered. -/
theorem run_exit {texts : List String} {i : Invocation} (h : Invocation.ofTexts texts = .ok i)
    (typeface : Typeface) (store : Store) (standardInput : List UInt8) (here : String) :
    (∀ result, run typeface texts store standardInput here = .ok result →
        result.exit = i.documentedExit store standardInput) ∧
      (∀ failure, run typeface texts store standardInput here = .error failure ↔
        i.Escapes store standardInput typeface failure) ∧
      ∀ failure, i.Escapes store standardInput typeface failure →
        failure = .nullInPath ∨ (∃ name, failure ∈ refusals name) ∨
          failure.isRenderingFailure = true := by
  have hrun : run typeface texts store standardInput here =
      i.run typeface store standardInput here := by
    unfold run
    rw [h]
  -- a run ends as documented or fails, and it fails exactly with what escapes
  have hends : Invocation.EndsWith (i.run typeface store standardInput here)
      (i.documentedExit store standardInput) ∨
        ∃ failure, i.Escapes store standardInput typeface failure :=
    Invocation.endsWith_or_escapes (Invocation.isMeasured_of_ofTexts h)
  rw [hrun]
  refine ⟨fun result hresult => ?_, fun failure => ⟨fun hfailure => ?_, Invocation.run_of_escapes⟩,
    fun failure => Invocation.Escapes.sort⟩
  · rcases hends with ⟨result', hresult', hexit⟩ | ⟨failure, hescapes⟩
    · obtain rfl := Except.ok.inj (hresult'.symm.trans hresult)
      exact hexit
    · rw [Invocation.run_of_escapes hescapes] at hresult
      contradiction
  · rcases hends with ⟨result', hresult', -⟩ | ⟨failure', hescapes⟩
    · rw [hresult'] at hfailure
      contradiction
    · rw [Invocation.run_of_escapes hescapes] at hfailure
      rwa [← Except.error.inj hfailure]

/-- A drawing of the standard input on the standard output. -/
theorem run_exit_standardOutput :
    ∃ result,
      run nominalTypeface ["-", "-o", "-"] {} "<racks/>".toUTF8.data.toList "/" = .ok result ∧
      result.exit = exitDone := by
  have htexts : Invocation.ofTexts ["-", "-o", "-"] = .ok { input := "-", output := some "-" } := by
    decide +kernel
  have hdone :
      (run nominalTypeface ["-", "-o", "-"] {} "<racks/>".toUTF8.data.toList "/").map Run.exit =
      .ok exitDone := by
    decide +kernel
  obtain ⟨result, hresult, -⟩ := map_eq_ok.1 hdone
  have hexit :=
    (run_exit htexts nominalTypeface {} "<racks/>".toUTF8.data.toList "/").1 result hresult
  refine ⟨result, hresult, hexit.trans ?_⟩
  decide +kernel

/-- A run on markup whose declared encoding is unknown ends without an exit code. -/
theorem run_unknownEncoding :
    run nominalTypeface ["-", "-o", "-"] {} unknownBytes "/" =
      .error (.unknownEncoding "x-unknown") := by
  have htexts : Invocation.ofTexts ["-", "-o", "-"] = .ok { input := "-", output := some "-" } := by
    decide +kernel
  unfold run
  rw [htexts]
  exact Invocation.run_of_escapes (.encoding (by decide +kernel) rfl refuses_unknownBytes)

end Command

end RackElevation
