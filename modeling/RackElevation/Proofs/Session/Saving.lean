import RackElevation.Proofs.Store.Opening
import RackElevation.Session.Request

/-!
# Saving in a session

A file is opened only when all that it is to hold is there.  So a request that fails leaves every
file as it was, whatever it fails on: reading, the layout, the text of the drawing, painting, or
opening the file.  A request that succeeds changes the file of its path, and no other.
-/

namespace RackElevation

open Markup Raster

/-- An export saved step by step under a path, where answers show a given text. -/
def Store.exportThrough (opening : Opening) (store : Store) (file : Report Export)
    (path shown : String) : Store × Report Answer :=
  match file.outcome with
  | .error failure => (store, ⟨file.notes, .error failure⟩)
  | .ok made =>
      match store.writeThrough opening (.ofText path) shown made.content with
      | (left, .error failure) => (left, ⟨file.notes, .error failure⟩)
      | (left, .ok ()) =>
          (left, ⟨file.notes ++ [made.note shown], .ok (.saved shown made.content)⟩)

/-- The answer to a request whose file is saved step by step. -/
def Session.performThrough (opening : Opening) (session : Session) (typeface : Typeface)
    (store : Store) : Request → Session × Store × Report Answer
  | .saveDrawing source path =>
      let (session, file) := session.drawingFile source
      (session, store.exportThrough opening file path (Path.ofText path).text)
  | .savePicture source path options =>
      (session, store.exportThrough opening (session.pictureFile typeface source options) path
        (Path.ofText path).text)
  | .paint source path options =>
      (session, store.exportThrough opening (session.pictureFile typeface source options) path path)
  | request => session.perform typeface store request

/-! ## The same requests -/

theorem Store.exportThrough_opening (store : Store) (file : Report Export) (path shown : String) :
    store.exportThrough store.opening file path shown = store.export file path shown := by
  unfold exportThrough Store.export Report.andThen
  cases file.outcome with
  | error failure => rfl
  | ok made =>
      dsimp only [Export.save, Report.map, Report.andThen, Report.ofOutcome]
      rw [writeShown_eq]
      rcases store.writeThrough_cases store.opening (.ofText path) shown made.content with
        ⟨failure, hfailure, hwritten⟩ | ⟨names, hnames, hwritten⟩
      · rw [hwritten, hfailure]
        simp [Except.map]
      · rw [hwritten, hnames]
        simp [Except.map]

/-- In the way of the store itself the requests are those of the session. -/
theorem Session.performThrough_opening (session : Session) (typeface : Typeface) (store : Store)
    (request : Request) : session.performThrough store.opening typeface store request =
      session.perform typeface store request := by
  cases request with
  | drawing source debug => rfl
  | layout source => rfl
  | svg source => rfl
  | saveDrawing source path =>
      exact congrArg ((session.drawingFile source).1, ·) (store.exportThrough_opening ..)
  | savePicture source path options =>
      exact congrArg (session, ·) (store.exportThrough_opening ..)
  | paint source path options => exact congrArg (session, ·) (store.exportThrough_opening ..)

/-! ## What is left of a store -/

/-- What an action that writes a file leaves of a store: the store itself if it does not succeed,
and else a store in which only the file of its path has changed, with a content of a given sort. -/
structure Store.FileFrame (opening : Opening) (path : Path) (shown : String)
    (holds : Content → Prop) (store left : Store) (succeeds : Prop) : Prop where
  kept : ¬ succeeds → left = store
  changed : succeeds → ∃ names content, opening path shown = .ok names ∧
    store.ChangedAt left names content ∧ holds content

theorem Store.FileFrame.mono {opening : Opening} {path : Path} {shown : String}
    {holds holds' : Content → Prop} {store left : Store} {succeeds : Prop}
    (h : FileFrame opening path shown holds store left succeeds)
    (himp : ∀ content, holds content → holds' content) :
    FileFrame opening path shown holds' store left succeeds where
  kept := h.kept
  changed hsucceeds := by
    obtain ⟨names, content, hnames, hchanged, hcontent⟩ := h.changed hsucceeds
    exact ⟨names, content, hnames, hchanged, himp content hcontent⟩

/-- An action that does not succeed and leaves the store alone. -/
theorem Store.FileFrame.of_failed {opening : Opening} {path : Path} {shown : String}
    {holds : Content → Prop} {store : Store} {succeeds : Prop} (h : ¬ succeeds) :
    FileFrame opening path shown holds store store succeeds :=
  ⟨fun _ => rfl, fun hsucceeds => absurd hsucceeds h⟩

/-- An action that puts a content into the file that was opened. -/
theorem Store.FileFrame.of_put {opening : Opening} {path : Path} {shown : String}
    {holds : Content → Prop} {store : Store} {succeeds : Prop} {names : List String}
    {content : Content} (hnames : opening path shown = .ok names) (hcontent : holds content)
    (h : succeeds) :
    FileFrame opening path shown holds store (store.put names content) succeeds :=
  ⟨fun hfailed => absurd h hfailed,
    fun _ => ⟨names, content, hnames, store.changedAt_put names content, hcontent⟩⟩

/-- An outcome with a result. -/
def HasResult {α : Type} (outcome : Except Failure α) : Prop :=
  ∃ a, outcome = .ok a

/-- What a request that saves to a path leaves of a store, for a way of opening files. -/
def Session.LeavesFiles (session : Session) (opening : Opening) (typeface : Typeface)
    (store : Store) (request : Request) (path : String) (holds : Content → Prop) : Prop :=
  let (_, left, report) := session.performThrough opening typeface store request
  Store.FileFrame opening (.ofText path) (Path.ofText path).text holds store left
    (HasResult report.outcome)

theorem Store.frame_exportThrough (opening : Opening) (store : Store) (file : Report Export)
    (path shown : String) :
    Store.FileFrame opening (.ofText path) shown
      (fun content => ∃ made, file.outcome = .ok made ∧ made.content = content) store
      (store.exportThrough opening file path shown).1
      (HasResult (store.exportThrough opening file path shown).2.outcome) := by
  unfold exportThrough
  cases hfile : file.outcome with
  | error failure => exact .of_failed fun ⟨_, h⟩ => nomatch h
  | ok made =>
      dsimp only
      rcases store.writeThrough_cases opening (.ofText path) shown made.content with
        ⟨failure, -, hwritten⟩ | ⟨names, hnames, hwritten⟩
      · rw [hwritten]
        exact .of_failed fun ⟨_, h⟩ => nomatch h
      · rw [hwritten]
        exact .of_put hnames ⟨made, rfl, rfl⟩ ⟨_, rfl⟩

/-! ## What a file holds -/

/-- The file of a drawing: the declaration line and the text of the drawing. -/
def IsDrawingOf (text : Except Failure String) (content : Content) : Prop :=
  ∃ svg, text = .ok svg ∧ content = .text (declarationLine ++ svg)

/-- The file of a picture: a canvas that was painted. -/
def IsPictureOf (painted : Except Failure Export) (content : Content) : Prop :=
  ∃ canvas, painted = .ok canvas.toExport ∧ content = .picture canvas

namespace Session

variable (session : Session) (source : Source)

/-- A drawing as a file holds the text that the session gives for the same source. -/
theorem drawingFile_eq_ok {made : Export} (h : (session.drawingFile source).2.outcome = .ok made) :
    ∃ svg, (session.svg source).2.outcome = .ok svg ∧
      made = { content := .text (declarationLine ++ svg), note := .wroteDrawing } := by
  simp only [drawingFile, Session.svg, Report.outcome_andThen, Report.outcome_ofOutcome] at h ⊢
  obtain ⟨drawing, hdrawing, h⟩ := bind_eq_ok.1 h
  obtain ⟨text, htext, hmade⟩ := bind_eq_ok.1 h
  obtain ⟨svg, hsvg, rfl⟩ := map_eq_ok.1 htext
  exact ⟨svg, bind_eq_ok.2 ⟨drawing, hdrawing, hsvg⟩, (Except.ok.inj hmade).symm⟩

/-- A picture as a file holds a canvas. -/
theorem pictureFile_eq_ok {typeface : Typeface} {options : PainterOptions} {made : Export}
    (h : (session.pictureFile typeface source options).outcome = .ok made) :
    ∃ canvas : Canvas, made = canvas.toExport := by
  simp only [pictureFile, Layout.picture, Report.outcome_andThen] at h
  obtain ⟨layout, -, h⟩ := bind_eq_ok.1 h
  obtain ⟨painter, -, h⟩ := bind_eq_ok.1 h
  obtain ⟨canvas, -, hmade⟩ := map_eq_ok.1 h
  exact ⟨canvas, hmade.symm⟩

/-- What saving a drawing leaves of a store. -/
theorem leavesFiles_saveDrawing (opening : Opening) (typeface : Typeface) (store : Store)
    (path : String) : session.LeavesFiles opening typeface store (.saveDrawing source path) path
      (IsDrawingOf (session.svg source).2.outcome) := by
  refine (store.frame_exportThrough opening _ path _).mono ?_
  rintro content ⟨made, hmade, rfl⟩
  obtain ⟨svg, hsvg, rfl⟩ := session.drawingFile_eq_ok source hmade
  exact ⟨svg, hsvg, rfl⟩

/-- What saving a picture leaves of a store. -/
theorem leavesFiles_savePicture (opening : Opening) (typeface : Typeface) (store : Store)
    (path : String) (options : PainterOptions) :
    session.LeavesFiles opening typeface store (.savePicture source path options) path
      (IsPictureOf (session.pictureFile typeface source options).outcome) := by
  refine (store.frame_exportThrough opening _ path _).mono ?_
  rintro content ⟨made, hmade, rfl⟩
  obtain ⟨canvas, rfl⟩ := session.pictureFile_eq_ok source hmade
  exact ⟨canvas, hmade, rfl⟩

end Session

end RackElevation
