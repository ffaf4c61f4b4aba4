import RackElevation.Proofs.Command.Exit
import RackElevation.Proofs.Session.Saving

/-!
# Files of a run

A run opens its output last.  So a run that ends without its output, with another exit code or with
a failure, leaves every file as it was, and a run that writes its output changes no other file.  A
drawing is written to a file as it is to the standard output, with the declaration line before it.
-/

namespace RackElevation.Command

open Markup Raster

/-- A plan that stops the run with an exit code other than that of success. -/
def Plan.Stops (plan : Plan) : Prop :=
  ∃ exit message, plan = .stop exit message ∧ exit ≠ exitDone

namespace Invocation

/-- A run whose output is written step by step: the store that it leaves, and its outcome. -/
def runThrough (opening : Opening) (i : Invocation) (typeface : Typeface)
    (input : Except Failure (List UInt8)) (store : Store) (here : String) :
    Store × Except Failure Run :=
  let report := i.plan typeface input
  let lines := noteLines i.verbose report.notes
  match report.outcome with
  | .error failure => (store, .error failure)
  | .ok (.stop exit message) => (store, .ok { exit, errors := lines ++ message ++ "\n", store })
  | .ok (.print text) =>
      (store, .ok { exit := exitDone, output := text ++ "\n", errors := lines, store })
  | .ok (.save format path file) =>
      match store.writeThrough opening path path.text file.content with
      | (left, .ok ()) =>
          (left, .ok {
            exit := exitDone
            errors := lines ++ noteLines i.verbose [file.note path.text] ++
              doneLine format (placeOf here path)
            store := left })
      | (left, .error failure) =>
          if failure.isPathFailure then
            (left, .ok { exit := exitWrite, errors := lines ++ writeLine failure, store := left })
          else (left, .error failure)

/-- The same invocation with its output on the standard output. -/
def printing (i : Invocation) : Invocation :=
  { i with output := some "-" }

/-! ## Plans -/

section Plans

variable {i : Invocation} {typeface : Typeface} {input : Except Failure (List UInt8)} {plan : Plan}

/-- The plans for a source that was rendered. -/
inductive Renders (i : Invocation) (typeface : Typeface) (session : Session) (source : Source) :
    Plan → Prop where
  | printed {svg : String} : i.outputFormat = .svg → i.toStandardOutput = true →
      (session.svg source).2.outcome = .ok svg → Renders i typeface session source (.print svg)
  | drawing {file : Export} : i.outputFormat = .svg → i.toStandardOutput = false →
      (session.drawingFile source).2.outcome = .ok file →
        Renders i typeface session source (.save .svg (i.outputFile .svg) file)
  | picture {file : Export} : i.outputFormat = .png → i.toStandardOutput = false →
      (session.pictureFile typeface source { scale := i.scale }).outcome = .ok file →
        Renders i typeface session source (.save .png (i.outputFile .png) file)

/-- What is planned with the outcome of rendering, where each result has a plan of the right
sort. -/
theorem rendered_cases {α : Type} {report : Report α} {next : α → Plan} {session : Session}
    {source : Source}
    (hnext : ∀ a, report.outcome = .ok a → i.Renders typeface session source (next a))
    (h : (rendered report next).outcome = .ok plan) :
    plan.Stops ∨ i.Renders typeface session source plan := by
  unfold rendered at h
  dsimp only at h
  split at h
  · next a ha =>
      obtain rfl := Except.ok.inj h
      exact .inr (hnext a ha)
  · exact .inl ⟨_, _, (Except.ok.inj h).symm, by decide⟩
  · contradiction

/-- A plan for a source stops the run, or writes what was rendered. -/
theorem renderPlan_cases {session : Session} {source : Source}
    (h : (i.renderPlan typeface session source).outcome = .ok plan) :
    plan.Stops ∨ i.Renders typeface session source plan := by
  unfold renderPlan at h
  cases hformat : i.outputFormat with
  | svg =>
      cases hplace : i.toStandardOutput with
      | true =>
          rw [hformat, hplace] at h
          exact rendered_cases (fun _ hsvg => .printed hformat hplace hsvg) h
      | false =>
          rw [hformat, hplace] at h
          exact rendered_cases (fun _ hfile => .drawing hformat hplace hfile) h
  | png =>
      cases hplace : i.toStandardOutput with
      | true =>
          rw [hformat, hplace] at h
          exact .inl ⟨_, _, (Except.ok.inj h).symm, by decide⟩
      | false =>
          rw [hformat, hplace] at h
          exact rendered_cases (fun _ hfile => .picture hformat hplace hfile) h

/-- What a run may have planned. -/
theorem plan_cases (h : (i.plan typeface input).outcome = .ok plan) :
    plan.Stops ∨
      ∃ bytes session, input = .ok bytes ∧ Session.make i.changes = .ok session ∧ ¬ i.scale < 1 ∧
        i.Renders typeface session (.bytes bytes) plan := by
  unfold Invocation.plan at h
  split at h
  · split at h
    · exact .inl ⟨_, _, (Except.ok.inj h).symm, by decide⟩
    · contradiction
  · split at h
    · exact .inl ⟨_, _, (Except.ok.inj h).symm, by decide⟩
    · contradiction
  · next bytes session hmake =>
      split at h
      · exact .inl ⟨_, _, (Except.ok.inj h).symm, by decide⟩
      · next hscale =>
          rcases renderPlan_cases h with hstop | hrenders
          · exact .inl hstop
          · exact .inr ⟨bytes, session, rfl, hmake, hscale, hrenders⟩

end Plans

/-! ## Printing -/

section Printing

variable {i : Invocation}

theorem outputFormat_printing (h : i.outputFormat = .svg) : i.printing.outputFormat = .svg := by
  unfold outputFormat at h ⊢
  cases hformat : i.format with
  | some format =>
      rw [hformat] at h
      simpa only [printing, hformat] using h
  | none =>
      simp only [printing, hformat]
      rfl

/-- A source that is written to a file as a drawing is printed where the output is the standard
output. -/
theorem runThrough_printing {bytes : List UInt8} {session : Session} {svg : String}
    (hformat : i.outputFormat = .svg) (hscale : ¬ i.scale < 1)
    (hmake : Session.make i.changes = .ok session)
    (hsvg : (session.svg (.bytes bytes)).2.outcome = .ok svg) (opening : Opening)
    (typeface : Typeface) (store : Store) (here : String) :
    ∃ result, i.printing.runThrough opening typeface (.ok bytes) store here = (store, .ok result) ∧
      result.exit = exitDone ∧ result.output = svg ++ "\n" := by
  have hplan : (i.printing.plan typeface (.ok bytes)).outcome = .ok (.print svg) := by
    have hmake' : Session.make i.printing.changes = .ok session := hmake
    have hplace : i.printing.toStandardOutput = true := rfl
    have hscale' : ¬ i.printing.scale < 1 := hscale
    rw [plan_of_session hmake', if_neg hscale', renderPlan, outputFormat_printing hformat, hplace]
    unfold rendered
    dsimp only
    rw [hsvg]
  unfold runThrough
  dsimp only
  rw [hplan]
  exact ⟨_, rfl, rfl, rfl⟩

end Printing

/-! ## Runs -/

/-- In the way of the store itself the run is that of the invocation. -/
theorem runThrough_opening (i : Invocation) (typeface : Typeface) (store : Store)
    (standardInput : List UInt8) (here : String) :
    (i.runThrough store.opening typeface (i.readInput store standardInput) store here).2 =
        i.run typeface store standardInput here ∧
      ∀ result, i.run typeface store standardInput here = .ok result →
        (i.runThrough store.opening typeface (i.readInput store standardInput) store here).1 =
          result.store := by
  unfold runThrough Invocation.run
  dsimp only
  cases (i.plan typeface (i.readInput store standardInput)).outcome with
  | error failure => exact ⟨rfl, fun _ h => nomatch h⟩
  | ok plan =>
      -- only a plan that saves opens a file, and it opens the one that it writes
      cases plan with
      | stop exit message => exact ⟨rfl, fun _ h => Except.ok.inj h ▸ rfl⟩
      | print text => exact ⟨rfl, fun _ h => Except.ok.inj h ▸ rfl⟩
      | save format path file =>
          dsimp only [ok_bind, Export.save, Report.andThen, Report.ofOutcome]
          rw [Store.writeShown_eq]
          rcases store.writeThrough_cases store.opening path path.text file.content with
            ⟨failure, hopen, hwritten⟩ | ⟨names, hopen, hwritten⟩
          · rw [hopen, hwritten]
            dsimp only [Except.map]
            cases failure.isPathFailure with
            | true => exact ⟨rfl, fun _ h => Except.ok.inj h ▸ rfl⟩
            | false => exact ⟨rfl, fun _ h => nomatch h⟩
          · rw [hopen, hwritten]
            exact ⟨rfl, fun _ h => Except.ok.inj h ▸ rfl⟩

/-! ## What a run leaves -/

/-- An invocation that prints a drawing when its output is the standard output, in any store. -/
def Prints (i : Invocation) (input : Except Failure (List UInt8)) (svg : String) : Prop :=
  ∀ opening typeface store here, ∃ result,
    i.printing.runThrough opening typeface input store here = (store, .ok result) ∧
      result.exit = exitDone ∧ result.output = svg ++ "\n"

/-- What the output of a run holds: for a drawing the declaration line and the text that the input
gives in the session of the run, which is the text that would be printed, and for a picture a
painted canvas. -/
def HoldsOutput (i : Invocation) (typeface : Typeface) (input : Except Failure (List UInt8))
    (content : Content) : Prop :=
  ∃ bytes session, input = .ok bytes ∧ Session.make i.changes = .ok session ∧
    match i.outputFormat with
    | .svg => ∃ svg, (session.svg (.bytes bytes)).2.outcome = .ok svg ∧
        content = .text (declarationLine ++ svg) ∧ i.Prints input svg
    | .png =>
        IsPictureOf
          (session.pictureFile typeface (.bytes bytes) { scale := i.scale }).outcome content

/-- A run that ends with another exit code, or without one, leaves the store alone. -/
theorem frame_of_failed {opening : Opening} {path : Path} {shown : String}
    {holds : Content → Prop} {store : Store} {outcome : Except Failure Run}
    (h : ∀ result, outcome = .ok result → result.exit ≠ exitDone) :
    Store.FileFrame opening path shown holds store store (EndsWith outcome exitDone) :=
  .of_failed fun ⟨result, hresult, hexit⟩ => h result hresult hexit

section Runs

variable {i : Invocation} (opening : Opening) {typeface : Typeface}
  {input : Except Failure (List UInt8)} (store : Store) (here : String)

/-- A run whose output is the standard output changes no file. -/
theorem runThrough_of_standardOutput (h : i.toStandardOutput = true) :
    (i.runThrough opening typeface input store here).1 = store := by
  unfold runThrough
  dsimp only
  cases hplan : (i.plan typeface input).outcome with
  | error failure => rfl
  | ok plan =>
      rcases plan_cases hplan with ⟨exit, message, rfl, -⟩ | ⟨_, _, -, -, -, hrenders⟩
      · rfl
      · cases hrenders with
        | printed => rfl
        | drawing _ hplace => exact absurd (hplace.symm.trans h) Bool.false_ne_true
        | picture _ hplace => exact absurd (hplace.symm.trans h) Bool.false_ne_true

/-- A run that plans to write a file leaves what writing it leaves. -/
theorem frame_of_save {format : Format} {path : Path} {file : Export}
    (h : (i.plan typeface input).outcome = .ok (.save format path file)) :
    Store.FileFrame opening path path.text (· = file.content) store
      (i.runThrough opening typeface input store here).1
      (EndsWith (i.runThrough opening typeface input store here).2 exitDone) := by
  unfold runThrough
  dsimp only
  rw [h]
  dsimp only
  rcases store.writeThrough_cases opening path path.text file.content with
    ⟨failure, -, hwritten⟩ | ⟨names, hnames, hwritten⟩
  · rw [hwritten]
    dsimp only
    cases failure.isPathFailure with
    | true =>
        have hne : exitWrite ≠ exitDone := by decide
        exact frame_of_failed fun result hresult => Except.ok.inj hresult ▸ hne
    | false => exact frame_of_failed fun _ hresult => nomatch hresult
  · rw [hwritten]
    exact .of_put hnames rfl ⟨_, rfl, rfl⟩

/-- What a run whose output is a file leaves of a store. -/
theorem frame_runThrough (h : i.toStandardOutput = false) :
    Store.FileFrame opening (i.outputFile i.outputFormat) (i.outputFile i.outputFormat).text
      (i.HoldsOutput typeface input) store (i.runThrough opening typeface input store here).1
      (EndsWith (i.runThrough opening typeface input store here).2 exitDone) := by
  cases hplan : (i.plan typeface input).outcome with
  | error failure =>
      unfold runThrough
      dsimp only
      rw [hplan]
      exact frame_of_failed fun _ hresult => nomatch hresult
  | ok plan =>
      rcases plan_cases hplan with
        ⟨exit, message, rfl, hexit⟩ | ⟨bytes, session, rfl, hmake, hscale, hrenders⟩
      · unfold runThrough
        dsimp only
        rw [hplan]
        exact frame_of_failed fun result hresult => Except.ok.inj hresult ▸ hexit
      -- nothing is printed here, so a drawing or a picture is saved
      · cases hrenders with
        | printed _ hplace => exact absurd (h.symm.trans hplace) Bool.false_ne_true
        | drawing hformat _ hfile =>
            rw [hformat]
            refine (frame_of_save opening store here hplan).mono ?_
            rintro content rfl
            obtain ⟨svg, hsvg, rfl⟩ := session.drawingFile_eq_ok (.bytes bytes) hfile
            refine ⟨bytes, session, rfl, hmake, ?_⟩
            rw [hformat]
            exact ⟨svg, hsvg, rfl, runThrough_printing hformat hscale hmake hsvg⟩
        | picture hformat _ hfile =>
            rw [hformat]
            refine (frame_of_save opening store here hplan).mono ?_
            rintro content rfl
            obtain ⟨canvas, rfl⟩ := session.pictureFile_eq_ok (.bytes bytes) hfile
            refine ⟨bytes, session, rfl, hmake, ?_⟩
            rw [hformat]
            exact ⟨canvas, hfile, rfl⟩

end Runs

end Invocation

/-- Runs and calls that fail leave all files as they were, and those that succeed change the file of
their output only.  A run whose output is the standard output changes no file, and a drawing in a
file holds the declaration line and the text that is printed for the same input and settings.  This
holds for every way of opening files; in the way of the store itself the run is that of the command
line, and saving is a request to the session. -/
theorem run_leaves_files {texts : List String} {i : Invocation}
    (h : Invocation.ofTexts texts = .ok i) (opening : Opening) (typeface : Typeface) (store : Store)
    (here : String) :
    (∀ input, i.toStandardOutput = true →
      (i.runThrough opening typeface input store here).1 = store) ∧
    (∀ input, i.toStandardOutput = false →
      Store.FileFrame opening (i.outputFile i.outputFormat) (i.outputFile i.outputFormat).text
        (i.HoldsOutput typeface input) store (i.runThrough opening typeface input store here).1
        (Invocation.EndsWith (i.runThrough opening typeface input store here).2 exitDone)) ∧
    (∀ standardInput,
      let ran := i.runThrough store.opening typeface (i.readInput store standardInput) store here
      ran.2 = run typeface texts store standardInput here ∧
        ∀ result, run typeface texts store standardInput here = .ok result → ran.1 = result.store) ∧
    (∀ (session : Session) source path,
      session.LeavesFiles opening typeface store (.saveDrawing source path) path
        (IsDrawingOf (session.svg source).2.outcome)) ∧
    (∀ (session : Session) source path options,
      session.LeavesFiles opening typeface store (.savePicture source path options) path
        (IsPictureOf (session.pictureFile typeface source options).outcome)) ∧
    ∀ (session : Session) request,
      session.performThrough store.opening typeface store request =
        session.perform typeface store request := by
  -- the options are read before anything else
  have hrun (standardInput : List UInt8) :
      run typeface texts store standardInput here = i.run typeface store standardInput here := by
    unfold run
    rw [h]
  refine ⟨fun input hplace => i.runThrough_of_standardOutput opening store here hplace,
    fun input hplace => i.frame_runThrough opening store here hplace, fun standardInput => ?_,
    fun session source path => session.leavesFiles_saveDrawing source opening typeface store path,
    fun session source path options =>
      session.leavesFiles_savePicture source opening typeface store path options,
    fun session request => session.performThrough_opening typeface store request⟩
  rw [hrun]
  exact i.runThrough_opening typeface store standardInput here

/-- A directory with a drawing that is written again and a file that is kept. -/
def drawnStore : Store where
  files := [(["rack.svg"], .text "old"), (["notes"], .text "kept")]

theorem run_leaves_files_drawnStore :
    (∃ result svg,
      run nominalTypeface ["-"] drawnStore "<racks/>".toUTF8.data.toList "/" = .ok result ∧
      result.exit = exitDone ∧
      drawnStore.ChangedAt result.store ["rack.svg"] (.text (declarationLine ++ svg))) ∧
    ∃ result, run nominalTypeface ["-"] drawnStore "<racks>".toUTF8.data.toList "/" = .ok result ∧
      result.exit = exitMarkup ∧ result.store = drawnStore := by
  have htexts : Invocation.ofTexts ["-"] = .ok { input := "-" } := by decide +kernel
  obtain ⟨-, hfile, hrun, -⟩ :=
    run_leaves_files htexts drawnStore.opening nominalTypeface drawnStore "/"
  constructor
  · have hdone :
        (run nominalTypeface ["-"] drawnStore "<racks/>".toUTF8.data.toList "/").map Run.exit =
        .ok exitDone := by
      decide +kernel
    obtain ⟨result, hresult, hexit⟩ := map_eq_ok.1 hdone
    obtain ⟨hran, hstore⟩ := hrun "<racks/>".toUTF8.data.toList
    obtain ⟨names, content, hnames, hchanged, _, session, -, -, hholds⟩ :=
      (hfile (.ok "<racks/>".toUTF8.data.toList) rfl).changed ⟨result, hran.trans hresult, hexit⟩
    have hopened : drawnStore.opening (.ofText "rack.svg") "rack.svg" = .ok ["rack.svg"] := by
      decide +kernel
    obtain rfl := Except.ok.inj (hopened.symm.trans hnames)
    obtain ⟨svg, -, rfl, -⟩ := hholds
    exact ⟨result, svg, hresult, hexit, hstore result hresult ▸ hchanged⟩
  · have hstop :
        (run nominalTypeface ["-"] drawnStore "<racks>".toUTF8.data.toList "/").map Run.exit =
        .ok exitMarkup := by
      decide +kernel
    obtain ⟨result, hresult, hexit⟩ := map_eq_ok.1 hstop
    obtain ⟨hran, hstore⟩ := hrun "<racks>".toUTF8.data.toList
    have hkept := (hfile (.ok "<racks>".toUTF8.data.toList) rfl).kept
    refine ⟨result, hresult, hexit, (hstore result hresult).symm.trans (hkept ?_)⟩
    rintro ⟨other, hother, hdone⟩
    obtain rfl := Except.ok.inj (hother.symm.trans (hran.trans hresult))
    exact absurd (hdone.symm.trans hexit) (by decide)

end RackElevation.Command
