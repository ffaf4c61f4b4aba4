import RackElevation.Session

/-!
# Requests to a session

What a session can be asked for, one request after the other.  Drawings and pictures can be saved to
a store; a request that fails leaves the store as it was.
-/

namespace RackElevation

open Markup Raster

/-- What a session is asked for. -/
inductive Request where
  /-- The drawing of a source, with or without a trace. -/
  | drawing (source : Source) (debug : Bool)
  /-- The layout of a source. -/
  | layout (source : Source)
  /-- The text of the drawing of a source. -/
  | svg (source : Source)
  /-- The drawing of a source in a file. -/
  | saveDrawing (source : Source) (path : String)
  /-- The painted layout of a source in a file. -/
  | savePicture (source : Source) (path : String) (options : PainterOptions)
  /-- The same with the path shown as it is given. -/
  | paint (source : Source) (path : String) (options : PainterOptions)

/-- What a session answers. -/
inductive Answer where
  | drawing (drawing : Drawing)
  | layout (layout : Layout)
  | svg (text : String)
  /-- The path of a file that was written, and what it holds. -/
  | saved (path : String) (content : Content)

/-- An export saved under a path, where answers show a given text: the answer, and the store after
it. -/
def Store.export (store : Store) (file : Report Export) (path shown : String) :
    Store × Report Answer :=
  let saved := file.andThen fun file =>
    (file.save store (.ofText path) shown).map fun store => (store, Answer.saved shown file.content)
  match saved.outcome with
  | .ok (store, answer) => (store, ⟨saved.notes, .ok answer⟩)
  | .error failure => (store, ⟨saved.notes, .error failure⟩)

namespace Session

/-- The answer to a request, with the session and the store after it, when texts are measured in a
given typeface. -/
def perform (session : Session) (typeface : Typeface) (store : Store) (request : Request) :
    Session × Store × Report Answer :=
  match request with
  | .drawing source debug =>
      let (session, drawn) := session.generate source debug
      (session, store, drawn.map .drawing)
  | .layout source => (session, store, (session.layout source).map .layout)
  | .svg source =>
      let (session, text) := session.svg source
      (session, store, text.map .svg)
  | .saveDrawing source path =>
      let (session, file) := session.drawingFile source
      (session, store.export file path (Path.ofText path).text)
  | .savePicture source path options =>
      (session,
        store.export (session.pictureFile typeface source options) path (Path.ofText path).text)
  | .paint source path options =>
      (session, store.export (session.pictureFile typeface source options) path path)

end Session

end RackElevation
