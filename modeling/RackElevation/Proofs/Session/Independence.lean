import RackElevation.Proofs.Session.Tracing
import RackElevation.Session.Request

/-!
# Independence of requests

Whatever a session was asked before, it answers a request as it does when it is new.  All that it
keeps from one request to the next is a trace, which is that of the last request for a drawing.

A request is made in the store that it finds.  Between two requests the files may have been changed
by others, so a run is given by the requests and the stores that they find.
-/

namespace RackElevation

open Markup Raster

/-! ## Runs of requests -/

/-- A request that was made, in the store that it found, and what came of it. -/
structure Call where
  found : Store
  request : Request
  left : Store
  report : Report Answer

namespace Session

/-- A request made of a session: the session after it, and the call. -/
def call (session : Session) (typeface : Typeface) (asked : Store × Request) : Session × Call :=
  let (next, left, report) := session.perform typeface asked.1 asked.2
  (next, { found := asked.1, request := asked.2, left, report })

/-- Requests made one after the other: the session after them, and the calls in their order. -/
def callAll (session : Session) (typeface : Typeface) (asked : List (Store × Request)) :
    Session × List Call :=
  asked.foldl (fun run asked =>
    let (next, call) := run.1.call typeface asked
    (next, run.2 ++ [call])) (session, [])

/-- The last request is made of the session that the others have left. -/
theorem callAll_append_singleton (session : Session) (typeface : Typeface)
    (asked : List (Store × Request)) (last : Store × Request) :
    session.callAll typeface (asked ++ [last]) =
      (((session.callAll typeface asked).1.call typeface last).1,
        (session.callAll typeface asked).2 ++
          [((session.callAll typeface asked).1.call typeface last).2]) := by
  rw [callAll, List.foldl_append]
  rfl

end Session

/-- Whether a request is for a drawing, in any form. -/
def Request.wantsDrawing : Request → Bool
  | .drawing .. | .svg _ | .saveDrawing .. => true
  | .layout _ | .savePicture .. | .paint .. => false

/-- The source of a drawing that is to be traced. -/
def Request.tracedSource? : Request → Option Source
  | .drawing source true => some source
  | _ => none

/-- Only a request for a drawing itself can be traced. -/
theorem Request.eq_drawing {request : Request} {source : Source}
    (h : request.tracedSource? = some source) : request = .drawing source true := by
  cases request with
  | drawing source' debug =>
      cases debug with
      | false => contradiction
      | true => rw [Option.some.inj h]
  | layout source' => contradiction
  | svg source' => contradiction
  | saveDrawing source' path => contradiction
  | savePicture source' path options => contradiction
  | paint source' path options => contradiction

/-! ## One request -/

namespace Session

/-- Only the settings of a session count for an answer and for the store after it. -/
theorem perform_eq_of_settings {session other : Session}
    (h : session.settings = other.settings) (typeface : Typeface) (store : Store)
    (request : Request) :
    (session.perform typeface store request).2 = (other.perform typeface store request).2 := by
  cases request with
  | drawing source debug =>
      cases debug <;> simp [perform, generate, h]
  | layout source => simp [perform, layout, h]
  | svg source => simp [perform, svg, generate, h]
  | saveDrawing source path => simp [perform, drawingFile, generate, h]
  | savePicture source path options => simp [perform, pictureFile, layout, h]
  | paint source path options => simp [perform, pictureFile, layout, h]

/-- Only the settings of a session count for a call. -/
theorem call_eq_of_settings {session other : Session} (h : session.settings = other.settings)
    (typeface : Typeface) (asked : Store × Request) :
    (session.call typeface asked).2 = (other.call typeface asked).2 :=
  congrArg (fun made : Store × Report Answer =>
    ({ found := asked.1, request := asked.2, left := made.1, report := made.2 } : Call))
    (perform_eq_of_settings h typeface asked.1 asked.2)

/-- No request changes the settings. -/
theorem settings_perform (session : Session) (typeface : Typeface) (store : Store)
    (request : Request) :
    (session.perform typeface store request).1.settings = session.settings := by
  cases request with
  | drawing source debug => cases debug <;> rfl
  | layout source => rfl
  | svg source => rfl
  | saveDrawing source path => rfl
  | savePicture source path options => rfl
  | paint source path options => rfl

/-- A request that wants no drawing leaves the session as it is. -/
theorem perform_of_not_wantsDrawing {request : Request} (h : request.wantsDrawing = false)
    (session : Session) (typeface : Typeface) (store : Store) :
    (session.perform typeface store request).1 = session := by
  cases request with
  | drawing source debug => contradiction
  | layout source => rfl
  | svg source => contradiction
  | saveDrawing source path => contradiction
  | savePicture source path options => rfl
  | paint source path options => rfl

/-- A request for a drawing leaves its own trace, if it asks for one, and else none. -/
theorem trace_perform {request : Request} (h : request.wantsDrawing = true) (session : Session)
    (typeface : Typeface) (store : Store) : (session.perform typeface store request).1.trace =
      request.tracedSource?.map fun source => (tracedRender session.settings source).1 := by
  cases request with
  | drawing source debug => cases debug <;> rfl
  | layout source => contradiction
  | svg source => rfl
  | saveDrawing source path => rfl
  | savePicture source path options => contradiction
  | paint source path options => contradiction

end Session

/-! ## The stages without a session -/

/-- The drawing of a source under given settings. -/
def compile (settings : Settings) (source : Source) : Except Failure Drawing := do
  let set ← RackSet.read source
  let layout ← set.layout settings
  return layout.drawing

/-- What the stages give by themselves, for a request that neither traces nor writes a file. -/
def Request.plainOutcome? (settings : Settings) : Request → Option (Except Failure Answer)
  | .drawing source false => some do return .drawing (← compile settings source)
  | .svg source => some do return .svg (← (← compile settings source).svg nestingLimit)
  | .layout source => some do return .layout (← (← RackSet.read source).layout settings)
  | _ => none

section Plain

variable (settings : Settings) (source : Source)

/-- A source is arranged by reading it and laying out what was read. -/
theorem outcome_arrange : (arrange settings source).outcome =
    RackSet.read source >>= fun set => set.layout settings := by
  rw [arrange, Report.outcome_andThen]
  rfl

/-- A source is rendered by reading it, laying it out and drawing it. -/
theorem outcome_render_eq_compile : (render settings source).outcome = compile settings source := by
  rw [render, Report.outcome_andThen, outcome_arrange, compile]
  cases RackSet.read source <;> rfl

end Plain

/-- A session gives what the stages give by themselves. -/
theorem outcome_call_of_plainOutcome? {session : Session} {typeface : Typeface}
    {asked : Store × Request}
    {outcome : Except Failure Answer}
    (h : asked.2.plainOutcome? session.settings = some outcome) :
    (session.call typeface asked).2.report.outcome = outcome := by
  obtain ⟨store, request⟩ := asked
  cases request with
  | drawing source debug =>
      cases debug with
      | true => contradiction
      | false =>
          rw [← Option.some.inj h, ← outcome_render_eq_compile]
          rfl
  | layout source =>
      rw [← Option.some.inj h]
      show (arrange session.settings source).outcome.map Answer.layout = _
      rw [outcome_arrange]
      cases RackSet.read source <;> rfl
  | svg source =>
      rw [← Option.some.inj h, ← outcome_render_eq_compile]
      show ((render session.settings source).andThen fun drawing =>
        .ofOutcome (drawing.svg nestingLimit)).outcome.map Answer.svg = _
      rw [Report.outcome_andThen]
      cases (render session.settings source).outcome <;> rfl
  | saveDrawing source path => contradiction
  | savePicture source path options => contradiction
  | paint source path options => contradiction

/-! ## The trace -/

/-- The last call for a drawing. -/
def lastDrawing? (calls : List Call) : Option Call :=
  (calls.filter (·.request.wantsDrawing)).getLast?

/-- A request for no drawing leaves the last drawing as it is. -/
theorem lastDrawing?_append {calls : List Call} {call : Call}
    (h : call.request.wantsDrawing = false) :
    lastDrawing? (calls ++ [call]) = lastDrawing? calls := by
  rw [lastDrawing?, List.filter_append, List.filter_singleton, h, cond_false, List.append_nil,
    lastDrawing?]

/-- A request for a drawing is the last one. -/
theorem lastDrawing?_append_of_wantsDrawing {calls : List Call} {call : Call}
    (h : call.request.wantsDrawing = true) : lastDrawing? (calls ++ [call]) = some call := by
  rw [lastDrawing?, List.filter_append, List.filter_singleton, h, cond_true, List.getLast?_concat]

/-- The trace that is shown after some calls.  It is there when the last call for a drawing asked
for it; then it has the first stages in their order, and all of them when that call had a result. -/
structure ShowsTrace (calls : List Call) (trace? : Option Trace) : Prop where
  untraced : (lastDrawing? calls).bind (·.request.tracedSource?) = none → trace? = none
  traced : ∀ call source, lastDrawing? calls = some call →
    call.request.tracedSource? = some source →
      ∃ trace, trace? = some trace ∧ trace.source = source ∧ trace.stageNames <+: stageOrder ∧
        (trace.stageNames = stageOrder ↔ ∃ answer, call.report.outcome = .ok answer)

/-- Calls for anything but a drawing change nothing that is shown. -/
theorem ShowsTrace.append {calls : List Call} {call : Call} {trace? : Option Trace}
    (h : ShowsTrace calls trace?) (hcall : call.request.wantsDrawing = false) :
    ShowsTrace (calls ++ [call]) trace? where
  untraced := by
    rw [lastDrawing?_append hcall]
    exact h.untraced
  traced := by
    rw [lastDrawing?_append hcall]
    exact h.traced

/-- What is shown after a call for a drawing. -/
theorem showsTrace_of_wantsDrawing (session : Session) (typeface : Typeface) (calls : List Call)
    {asked : Store × Request} (h : asked.2.wantsDrawing = true) :
    ShowsTrace (calls ++ [(session.call typeface asked).2])
      (session.call typeface asked).1.trace := by
  have htrace : (session.call typeface asked).1.trace =
      asked.2.tracedSource?.map fun source => (tracedRender session.settings source).1 :=
    Session.trace_perform h session typeface asked.1
  have hlast : lastDrawing? (calls ++ [(session.call typeface asked).2]) =
      some (session.call typeface asked).2 :=
    lastDrawing?_append_of_wantsDrawing h
  constructor
  · -- a drawing that is not traced removes the trace of an earlier one
    rw [hlast, htrace]
    intro hnone
    exact Option.map_eq_none_iff.2 hnone
  · rw [hlast, htrace]
    intro call source hcall hsource
    obtain rfl := Option.some.inj hcall
    have hasked : asked.2 = .drawing source true := Request.eq_drawing hsource
    have hdrawn : (session.call typeface asked).2.report.outcome =
        (tracedRender session.settings source).2.outcome.map .drawing := by
      rw [Session.call, hasked]
      rfl
    refine ⟨_, congrArg (Option.map _) hsource, source_tracedRender session.settings source,
      stageNames_prefix, ?_⟩
    rw [stageNames_eq_iff, hdrawn]
    constructor
    · rintro ⟨drawing, h⟩
      exact ⟨.drawing drawing, by rw [h]; rfl⟩
    · rintro ⟨answer, h⟩
      obtain ⟨drawing, h, -⟩ := map_eq_ok.1 h
      exact ⟨drawing, h⟩

/-- What is shown of the trace stays right with one more call. -/
theorem showsTrace_call {session : Session} {calls : List Call} (typeface : Typeface)
    (asked : Store × Request) (h : ShowsTrace calls session.trace) :
    ShowsTrace (calls ++ [(session.call typeface asked).2])
      (session.call typeface asked).1.trace := by
  cases hwants : asked.2.wantsDrawing with
  | false =>
      have hsame : (session.call typeface asked).1 = session :=
        Session.perform_of_not_wantsDrawing hwants session typeface asked.1
      rw [hsame]
      exact h.append hwants
  | true => exact showsTrace_of_wantsDrawing session typeface calls hwants

/-! ## All requests -/

section Runs

variable (session : Session) (typeface : Typeface) (asked : List (Store × Request))

/-- No run of requests changes the settings. -/
theorem settings_callAll : (session.callAll typeface asked).1.settings = session.settings := by
  induction asked using List.reverseRecOn with
  | nil => rfl
  | append_singleton asked last ih =>
      rw [Session.callAll_append_singleton]
      exact (Session.settings_perform _ typeface last.1 last.2).trans ih

/-- Every call in a run comes out as it does when it is the first one. -/
theorem calls_callAll :
    (session.callAll typeface asked).2 =
      asked.map fun request => (session.call typeface request).2 := by
  -- on the last request: the session that it finds differs from the first one in its trace only
  induction asked using List.reverseRecOn with
  | nil => rfl
  | append_singleton asked last ih =>
      have hlast : ((session.callAll typeface asked).1.call typeface last).2 =
          (session.call typeface last).2 :=
        Session.call_eq_of_settings (settings_callAll session typeface asked) typeface last
      rw [Session.callAll_append_singleton, ih, hlast, List.map_append, List.map_singleton]

/-- The trace after a run of requests to a session that had none. -/
theorem showsTrace_callAll (h : session.trace = none) :
    ShowsTrace (session.callAll typeface asked).2 (session.callAll typeface asked).1.trace := by
  -- on the last request, which decides what is shown if it is for a drawing and else changes
  -- nothing
  induction asked using List.reverseRecOn with
  | nil => exact ⟨fun _ => h, fun _ _ hlast => nomatch hlast⟩
  | append_singleton asked last ih =>
      rw [Session.callAll_append_singleton]
      exact showsTrace_call typeface last ih

end Runs

/-- A new session has no trace. -/
theorem Session.trace_of_make {changes : Settings.Changes} {session : Session}
    (h : Session.make changes = .ok session) : session.trace = none := by
  obtain ⟨settings, -, hsession⟩ := bind_eq_ok.1 h
  rw [← Except.ok.inj hsession]

/-- A session that was made answers every request, whatever it was asked before, as it does when it
is new, and it answers plain requests with what the stages give by themselves.  Its trace is that of
the last request for a drawing, and the other requests leave it as it is. -/
theorem Session.callAll_independent {changes : Settings.Changes} {session : Session}
    (hmake : Session.make changes = .ok session) (typeface : Typeface)
    (asked : List (Store × Request)) :
    (session.callAll typeface asked).2 =
        asked.map (fun request => (session.call typeface request).2) ∧
      (∀ call ∈ (session.callAll typeface asked).2, ∀ outcome,
        call.request.plainOutcome? session.settings = some outcome →
          call.report.outcome = outcome) ∧
      ShowsTrace (session.callAll typeface asked).2 (session.callAll typeface asked).1.trace ∧
      ∀ next : Store × Request, next.2.wantsDrawing = false →
        ((session.callAll typeface asked).1.call typeface next).1 =
          (session.callAll typeface asked).1 := by
  refine ⟨calls_callAll session typeface asked, ?_,
    showsTrace_callAll session typeface asked (trace_of_make hmake),
    fun next h => perform_of_not_wantsDrawing h _ typeface next.1⟩
  intro call hcall outcome hplain
  rw [calls_callAll session typeface asked] at hcall
  obtain ⟨request, -, rfl⟩ := List.mem_map.1 hcall
  exact outcome_call_of_plainOutcome? hplain

/-- A traced drawing, a layout, and a traced drawing of markup that is not well formed. -/
def tracedRequests : List (Store × Request) :=
  [({}, .drawing linkedSource true), ({}, .layout linkedSource), ({}, .drawing (.text "<") true)]

/-- Three requests of one session, the last of them with markup that is not well formed. -/
theorem Session.callAll_independent_tracedRequests :
    ∃ session, Session.make {} = .ok session ∧
      (session.callAll nominalTypeface tracedRequests).2 =
        tracedRequests.map (fun request => (session.call nominalTypeface request).2) ∧
      ShowsTrace (session.callAll nominalTypeface tracedRequests).2
        (session.callAll nominalTypeface tracedRequests).1.trace := by
  have hsettings : Settings.make {} = .ok {} := by decide +kernel
  have hmake : Session.make {} = .ok { settings := {} } := bind_eq_ok.2 ⟨{}, hsettings, rfl⟩
  obtain ⟨hcalls, -, htrace, -⟩ := Session.callAll_independent hmake nominalTypeface tracedRequests
  exact ⟨_, hmake, hcalls, htrace⟩

end RackElevation
