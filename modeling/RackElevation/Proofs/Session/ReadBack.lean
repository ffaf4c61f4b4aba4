import RackElevation.Proofs.Drawing.Printing
import RackElevation.Proofs.Drawing.ReadBack
import RackElevation.Proofs.Markup.AllowedTrees
import RackElevation.Proofs.Number.Half
import RackElevation.Proofs.Number.Numeral
import RackElevation.Proofs.Rack.Placement
import RackElevation.Proofs.Rack.ReadBack
import RackElevation.Session

/-!
# Reading rendered drawings

Whatever a source holds, the strings of the drawing that is rendered from it are allowed in a
document, as long as the fills in the settings are.  So a rendered drawing whose numbers can be
written is read back from its text.

    allowed tree  →  allowed rack set  →  allowed layout  →  allowed drawing

The numbers are another matter: a rack can be so high that its drawing cannot be written.
-/

namespace RackElevation

open Markup Text

/-! ## Rack sets -/

/-- A device whose colour, target and label are allowed. -/
structure Device.Allowed (d : Device) : Prop where
  color : IsAllowedValue d.color
  href : IsAllowedValue d.href
  label : IsAllowedText d.label

/-- A rack whose name and devices are allowed. -/
structure Rack.Allowed (rack : Rack) : Prop where
  name : IsAllowedValue rack.name
  devices : ∀ slot ∈ rack.slots, ∀ d ∈ slot.device?, d.Allowed

/-- A rack set whose racks are allowed. -/
def RackSet.Allowed (set : RackSet) : Prop :=
  ∀ rack ∈ set.racks, rack.Allowed

section Reading

/-- The value of an attribute is allowed. -/
theorem attribute?_allowed {node : Node ExpandedName} (h : node.Allowed) (name : ExpandedName) :
    IsAllowedValue (node.attribute? name) := by
  cases node with
  | text content => exact fun _ hs => absurd hs (Option.not_mem_none _)
  | element tag attributes children =>
      intro s hs
      obtain ⟨entry, hentry, rfl⟩ := Option.map_eq_some_iff.1 hs
      exact h.1 entry (List.mem_of_find?_eq_some hentry)

mutual

/-- So is the text of an element. -/
theorem textContent_allowed :
    ∀ {node : Node ExpandedName}, node.Allowed → IsAllowedText node.textContent
  | .text _, h => h
  | .element _ _ _, h => textContents_allowed h.2

/-- The text inside an allowed row is allowed. -/
theorem textContents_allowed :
    ∀ {nodes : List (Node ExpandedName)}, Node.AllowedRow nodes →
      IsAllowedText (Node.textContents nodes)
  | [], _ => AllowedChars.nil
  | _ :: _, h => Primitive.isAllowedText_append (textContent_allowed h.1) (textContents_allowed h.2)

end

/-- Blank space at the ends can be taken away. -/
theorem trimString_allowed {s : String} (h : IsAllowedText s) :
    IsAllowedText (Text.trimString s) := by
  refine AllowedChars.ofList fun c hc => h c ?_
  have hc := (List.dropWhile_sublist _).subset (List.mem_reverse.1 hc)
  exact (List.dropWhile_sublist _).subset (List.mem_reverse.1 hc)

/-- A slot is read with an allowed device. -/
theorem Slot.ofTree_allowed {node : Node ExpandedName} (h : node.Allowed) :
    ∀ d ∈ (Slot.ofTree node).device?, d.Allowed := by
  rw [Slot.ofTree]
  split
  · exact fun _ hd => absurd hd (Option.not_mem_none _)
  · intro d hd
    obtain rfl := Option.some.inj hd
    refine ⟨attribute?_allowed h _, fun s hs => ?_, trimString_allowed (textContent_allowed h)⟩
    rcases Option.or_eq_some_iff.1 hs with hs | ⟨-, hs⟩
    · exact attribute?_allowed h _ s hs
    · exact attribute?_allowed h _ s hs

/-- The children of an allowed element are allowed. -/
theorem childElements_allowed {node : Node ExpandedName} (h : node.Allowed) :
    ∀ child ∈ node.childElements, child.Allowed := by
  intro child hchild
  have hchild := List.mem_of_mem_filter hchild
  cases node with
  | text content => exact absurd hchild List.not_mem_nil
  | element tag attributes children => exact Node.allowedRow_iff.1 h.2 child hchild

/-- A rack is read with allowed strings. -/
theorem Rack.ofTree_allowed {node : Node ExpandedName} (h : node.Allowed) :
    (Rack.ofTree node).Allowed := by
  refine ⟨attribute?_allowed h _, fun slot hslot => ?_⟩
  obtain ⟨child, hchild, rfl⟩ := List.mem_map.1 hslot
  exact Slot.ofTree_allowed (childElements_allowed h child hchild)

/-- A rack set that was read is allowed. -/
theorem RackSet.read_allowed {source : Source} {set : RackSet} (h : RackSet.read source = .ok set) :
    set.Allowed := by
  obtain ⟨root, hroot, rfl⟩ := map_eq_ok.1 h
  intro rack hrack
  obtain ⟨child, hchild, rfl⟩ := List.mem_map.1 hrack
  exact Rack.ofTree_allowed (childElements_allowed (readTree_allowed hroot) child hchild)

end Reading

/-! ## Layouts -/

/-- A device whose fill, target and label are allowed. -/
structure DeviceLayout.Allowed (d : DeviceLayout) : Prop where
  fill : IsAllowedText d.fill
  href : IsAllowedValue d.href
  label : IsAllowedText d.label

/-- A rack whose name and devices are allowed. -/
structure RackLayout.Allowed (rack : RackLayout) : Prop where
  name : IsAllowedValue rack.name
  devices : ∀ d ∈ rack.devices, d.Allowed

/-- A layout whose racks are allowed. -/
def Layout.Allowed (layout : Layout) : Prop :=
  ∀ rack ∈ layout.racks, rack.Allowed

/-- Settings whose fills are allowed. -/
def Settings.AllowedColors (settings : Settings) : Prop :=
  ∀ entry ∈ settings.colors, IsAllowedText entry.2

/-- The settings by default have allowed strings. -/
theorem allowedColors_standard : Settings.AllowedColors {} :=
  (by decide : ∀ entry ∈ standardColors, IsAllowedText entry.2)

section Arrangement

variable {settings : Settings}

/-- A value stays allowed when an empty one is left out. -/
theorem nonempty?_allowed {value : Option String} (h : IsAllowedValue value) :
    IsAllowedValue (nonempty? value) :=
  fun s hs => h s (Option.filter_eq_some_iff.1 hs).1

/-- The colour of a device is one of its own or one of the settings. -/
theorem colorFor_allowed (hcolors : settings.AllowedColors) (kind : String) {color : Option String}
    (hcolor : IsAllowedValue color) : IsAllowedText (settings.colorFor kind color) := by
  have hkind : IsAllowedText (Settings.colorFor.byKind settings kind) := by
    rw [Settings.colorFor.byKind, ColorTable.fill?]
    cases hfind : settings.colors.find? (·.1 = kind) with
    | none => exact (by decide : IsAllowedText fallbackColor)
    | some entry => exact hcolors entry (List.mem_of_find?_eq_some hfind)
  rw [Settings.colorFor.eq_def]
  split
  · next explicit =>
      split
      · exact hkind
      · exact hcolor explicit rfl
  · exact hkind

/-- A device is laid out with its own name and with a colour. -/
theorem Device.layout_allowed (hcolors : settings.AllowedColors) {d : Device} (hd : d.Allowed)
    {bottom : Number} {offset span : Int} {result : DeviceLayout}
    (h : d.layout settings bottom offset span = .ok result) : result.Allowed := by
  simp only [Device.layout, bind_eq_ok, pure_eq_ok] at h
  obtain ⟨_, -, _, -, _, -, _, -, _, -, _, -, rfl⟩ := h
  exact ⟨colorFor_allowed hcolors d.kind hd.color, nonempty?_allowed hd.href, hd.label⟩

/-- So are the devices of a rack. -/
theorem layoutDevices_allowed (hcolors : settings.AllowedColors) {bottom : Number}
    {placements : List Placement} {devices : List DeviceLayout}
    (hplacements : ∀ p ∈ placements, ∀ d ∈ p.device?, d.Allowed)
    (h : layoutDevices settings bottom placements = .ok devices) : ∀ d ∈ devices, d.Allowed := by
  induction placements generalizing devices with
  | nil =>
      obtain rfl := Except.ok.inj h
      exact fun _ hd => absurd hd List.not_mem_nil
  | cons p placements ih =>
      obtain ⟨hp, hrest⟩ := List.forall_mem_cons.1 hplacements
      rw [layoutDevices] at h
      split at h
      · exact ih hrest h
      · next device hdevice =>
          simp only [bind_eq_ok, pure_eq_ok] at h
          obtain ⟨d, hd, ds, hds, rfl⟩ := h
          exact List.forall_mem_cons.2
            ⟨Device.layout_allowed hcolors (hp device hdevice) hd, ih hrest hds⟩

/-- A rack is laid out with allowed strings. -/
theorem Rack.layout_allowed (hcolors : settings.AllowedColors) {rack : Rack} (hrack : rack.Allowed)
    {units xOffset : Number} {result : RackLayout}
    (h : rack.layout settings units xOffset = .ok result) : result.Allowed := by
  simp only [Rack.layout, bind_eq_ok, pure_eq_ok] at h
  obtain ⟨_, -, _, -, placements, hplacements, devices, hdevices, _, -, _, -, rfl⟩ := h
  refine ⟨nonempty?_allowed hrack.name, layoutDevices_allowed hcolors (fun p hp => ?_) hdevices⟩
  obtain rfl := (placeSlots_eq_ok.1 hplacements).2
  exact hrack.devices p.slot (slot_mem_of_mem_placements hp)

/-- So are all racks. -/
theorem layoutRacks_allowed (hcolors : settings.AllowedColors) {xOffset : Number}
    {racks : List (Rack × Number)} {results : List RackLayout}
    (hracks : ∀ entry ∈ racks, entry.1.Allowed)
    (h : layoutRacks settings xOffset racks = .ok results) : ∀ rack ∈ results, rack.Allowed := by
  induction racks generalizing xOffset results with
  | nil =>
      obtain rfl := Except.ok.inj h
      exact fun _ hrack => absurd hrack List.not_mem_nil
  | cons entry racks ih =>
      obtain ⟨hentry, hrest⟩ := List.forall_mem_cons.1 hracks
      simp only [layoutRacks, bind_eq_ok, pure_eq_ok] at h
      obtain ⟨r, hr, next, -, rs, hrs, rfl⟩ := h
      exact List.forall_mem_cons.2 ⟨Rack.layout_allowed hcolors hentry hr, ih hrest hrs⟩

/-- The layout of an allowed rack set is allowed. -/
theorem RackSet.layout_allowed (hcolors : settings.AllowedColors) {set : RackSet}
    (hset : set.Allowed) {layout : Layout} (h : set.layout settings = .ok layout) :
    layout.Allowed := by
  simp only [RackSet.layout, bind_eq_ok, pure_eq_ok] at h
  obtain ⟨heights, -, _, -, racks, hracks, rfl⟩ := h
  refine layoutRacks_allowed hcolors (fun entry hentry => hset entry.1 ?_) hracks
  exact (List.of_mem_zip hentry).1

end Arrangement

/-! ## Drawings -/

/-- A primitive that is no foreign value and whose own strings are allowed. -/
def Primitive.Allowed (p : Primitive) : Prop :=
  p.isForeign = false ∧ ∀ s ∈ p.strings, IsAllowedText s

/-- A drawing without foreign values, whose strings are allowed. -/
def Drawing.Allowed (drawing : Drawing) : Prop :=
  ∀ p ∈ drawing.walk, p.Allowed

/-- A drawing with allowed primitives has no names of its own. -/
theorem Drawing.Allowed.isNative {drawing : Drawing} (h : drawing.Allowed) : drawing.IsNative :=
  fun p hp => (h p hp).1

/-- Its strings are allowed as well. -/
theorem Drawing.Allowed.strings {drawing : Drawing} (h : drawing.Allowed) :
    ∀ s ∈ drawing.strings, IsAllowedText s := by
  intro s hs
  obtain ⟨p, hp, hs⟩ := List.mem_flatMap.1 hs
  exact (h p hp).2 s hs

section Assembly

open Primitive

/-- A stack of primitives that are allowed with all they hold. -/
def AllowedStack (stack : List Primitive) : Prop :=
  ∀ q ∈ walkStack stack, q.Allowed

theorem allowedStack_nil : AllowedStack [] := by
  rw [AllowedStack, walkStack_nil]
  exact fun _ hq => absurd hq List.not_mem_nil

/-- A stack is allowed when its first primitive, what that holds, and the others are. -/
theorem allowedStack_cons {p : Primitive} {stack : List Primitive} (hp : p.Allowed)
    (hchildren : AllowedStack p.children) (hstack : AllowedStack stack) :
    AllowedStack (p :: stack) :=
  forall_mem_walkStack_cons.2 ⟨⟨hp, hchildren⟩, hstack⟩

/-- Allowed stacks make an allowed stack. -/
theorem allowedStack_append {stack stack' : List Primitive} (h : AllowedStack stack)
    (h' : AllowedStack stack') : AllowedStack (stack ++ stack') := by
  rw [AllowedStack, walkStack_append]
  exact List.forall_mem_append.2 ⟨h, h'⟩

/-- Rows that are made one by one are allowed together. -/
theorem allowedStack_flatMap {α : Type} {f : α → List Primitive} {as : List α}
    (h : ∀ a ∈ as, AllowedStack (f a)) : AllowedStack (as.flatMap f) := by
  induction as with
  | nil => exact allowedStack_nil
  | cons a as ih =>
      obtain ⟨ha, has⟩ := List.forall_mem_cons.1 h
      exact allowedStack_append ha (ih has)

/-- A rectangle with an allowed fill and outline is allowed. -/
theorem rect_allowed {r : Rect} (hfill : IsAllowedText r.fill) (hstroke : IsAllowedText r.stroke) :
    (Primitive.rect r).Allowed :=
  ⟨rfl, List.forall_mem_cons.2 ⟨hfill, List.forall_mem_singleton.2 hstroke⟩⟩

/-- A label with allowed strings is allowed. -/
theorem label_allowed {l : Label} (hcontent : IsAllowedText l.content)
    (hfont : IsAllowedText l.fontFamily) : (Primitive.label l).Allowed :=
  ⟨rfl, List.forall_mem_cons.2 ⟨hcontent, List.forall_mem_singleton.2 hfont⟩⟩

/-- A device is drawn with allowed strings. -/
theorem primitives_allowed {d : DeviceLayout} (hd : d.Allowed) : AllowedStack d.primitives := by
  have hstroke : IsAllowedText outlineColor := by decide
  have hfont : IsAllowedText "sans-serif" := by decide
  have hshapes : AllowedStack [.rect d.rect, .label d.caption] :=
    allowedStack_cons (rect_allowed hd.fill hstroke) allowedStack_nil
      (allowedStack_cons (label_allowed hd.label hfont) allowedStack_nil allowedStack_nil)
  rw [DeviceLayout.primitives]
  split
  · next href hhref =>
      have hallowed := nonempty?_allowed hd.href href hhref
      exact allowedStack_cons ⟨rfl, List.forall_mem_singleton.2 hallowed⟩ hshapes allowedStack_nil
  · exact hshapes

/-- A rack is drawn as one group with allowed strings. -/
theorem group_allowed {rack : RackLayout} (hrack : rack.Allowed) : AllowedStack [rack.group] := by
  have hcaption : AllowedStack rack.caption := by
    rw [RackLayout.caption]
    split
    · next name hname =>
        have hallowed := nonempty?_allowed hrack.name name hname
        have hfont : IsAllowedText "sans-serif" := by decide
        exact allowedStack_cons (label_allowed hallowed hfont) allowedStack_nil allowedStack_nil
    · exact allowedStack_nil
  have hdevices : AllowedStack (rack.devices.flatMap DeviceLayout.primitives) :=
    allowedStack_flatMap fun d hd => primitives_allowed (hrack.devices d hd)
  refine allowedStack_cons ⟨rfl, fun _ hs => absurd hs List.not_mem_nil⟩ ?_ allowedStack_nil
  have hfill : IsAllowedText bodyColor := by decide
  have hstroke : IsAllowedText outlineColor := by decide
  exact allowedStack_append hcaption
    (allowedStack_cons (rect_allowed hfill hstroke) allowedStack_nil hdevices)

/-- The drawing of an allowed layout is allowed. -/
theorem drawing_allowed {layout : Layout} (h : layout.Allowed) (hover : Bool) :
    (layout.drawing hover).Allowed := by
  have hstyle : AllowedStack (if hover then [.style hoverStyle] else []) := by
    split
    · exact allowedStack_cons ⟨rfl, by decide⟩ allowedStack_nil allowedStack_nil
    · exact allowedStack_nil
  have hracks : AllowedStack (layout.racks.flatMap fun rack => [rack.group]) :=
    allowedStack_flatMap fun rack hrack => group_allowed (h rack hrack)
  rw [← List.map_eq_flatMap] at hracks
  exact allowedStack_append hstyle hracks

end Assembly

/-! ## Rendering -/

/-- A source that is read and laid out is rendered. -/
theorem outcome_render {settings : Settings} {source : Source} {set : RackSet} {layout : Layout}
    (hread : RackSet.read source = .ok set) (hlayout : set.layout settings = .ok layout) :
    (render settings source).outcome = .ok layout.drawing := by
  rw [render, arrange, Report.outcome_andThen, Report.outcome_andThen, RackSet.readReport, hread]
  simp only [Except.bind, RackSet.report, hlayout]
  rfl

/-- A rendered drawing has no foreign values, and its strings are allowed. -/
theorem render_allowed {settings : Settings} (hcolors : settings.AllowedColors) {source : Source}
    {drawing : Drawing} (h : (render settings source).outcome = .ok drawing) : drawing.Allowed := by
  rw [render, arrange, Report.outcome_andThen, Report.outcome_andThen] at h
  obtain ⟨layout, h, hdrawing⟩ := bind_eq_ok.1 h
  obtain ⟨set, hset, hlayout⟩ := bind_eq_ok.1 h
  obtain rfl := Except.ok.inj hdrawing
  exact drawing_allowed (RackSet.layout_allowed hcolors (RackSet.read_allowed hset) hlayout) true

/-- A rendered drawing leaves room among the calls that may be nested. -/
theorem depth_lt_of_render {settings : Settings} {source : Source} {drawing : Drawing}
    (h : (render settings source).outcome = .ok drawing) : drawing.depth < nestingLimit := by
  rw [render, Report.outcome_andThen] at h
  obtain ⟨layout, -, hdrawing⟩ := bind_eq_ok.1 h
  obtain rfl := Except.ok.inj hdrawing
  exact depth_drawing_lt layout true

/-- A drawing with allowed strings and printable numbers is read back from its text, with and
without the declaration line, where there is room for its levels.  When the fills in the settings
are allowed, a drawing that is rendered with them has such strings and leaves such room, whatever
its source is; so it is read back exactly when its numbers are printable, and otherwise it cannot be
written. -/
theorem written_drawings_readBack (drawing : Drawing) :
    (∀ room : ℕ, drawing.IsNative →
      (∀ s ∈ drawing.strings, IsAllowedText s) → (∀ n ∈ drawing.numbers, n.IsPrintable) →
      drawing.depth < room → drawing.ReadsBack room) ∧
    (∀ (settings : Settings) (source : Source), settings.AllowedColors →
      (render settings source).outcome = .ok drawing →
      drawing.IsNative ∧ (∀ s ∈ drawing.strings, IsAllowedText s) ∧
        drawing.depth < nestingLimit ∧
        (drawing.ReadsBack nestingLimit ↔ ∀ n ∈ drawing.numbers, n.IsPrintable) ∧
        ((¬ ∀ n ∈ drawing.numbers, n.IsPrintable) →
          drawing.svg nestingLimit = .error .integerTooLong)) := by
  refine ⟨fun room => Drawing.readsBack_of_allowed, fun settings source hcolors h => ?_⟩
  have hallowed := render_allowed hcolors h
  have hroom := depth_lt_of_render h
  have hsvg := Drawing.isWrittenIff_svg hroom hallowed.isNative
  rw [← Drawing.isPrintable_iff]
  refine ⟨hallowed.isNative, hallowed.strings, hroom, ⟨fun hreads => ?_, fun hprintable => ?_⟩,
    hsvg.error⟩
  · -- a drawing that is read back was written, so its numbers are printable
    by_contra hlong
    obtain ⟨node, -, hwritten, -⟩ := hreads
    rw [hsvg.error hlong] at hwritten
    contradiction
  · exact Drawing.readsBack_of_allowed hallowed.isNative hallowed.strings
      (Drawing.isPrintable_iff.1 hprintable) hroom

/-- A device with a target, whose label holds a carriage return. -/
def linkedSource : Source :=
  .text "<racks><rack><san href=\"#a\">x&#13;y</san></rack></racks>"

/-- The rack of that device. -/
def linkedSet : RackSet where
  racks := [{ slots := [.device { kind := "san", href := some "#a", label := "x\ry" }] }]

/-- The drawing of that device. -/
def linkedDrawing : Drawing where
  width := 350
  height := 1100
  children := [
    .style hoverStyle,
    .group (some (25, 0)) [
      .rect { x := 0, y := 25, width := 300, height := 1050, fill := bodyColor,
              stroke := outlineColor },
      .link "#a" [
        .rect { x := 0, y := 1050, width := 300, height := 25, fill := "#4FD1C5",
                stroke := outlineColor },
        .label { x := .real (Binary64.ofNat 150), y := .real (Binary64.ofQuotient 2125 2),
                 content := "x\ry" }]]]

/-- The rendering of a rack whose device has a link. -/
theorem outcome_render_linkedSource :
    (render {} linkedSource).outcome = .ok linkedDrawing := by
  have hread : RackSet.read linkedSource = .ok linkedSet := by decide +kernel
  have hlayout : linkedSet.layout {} = .ok {
      width := 350
      height := 1100
      racks := [{
        name := none, xOffset := 25, units := 42
        bodyX := 0, bodyY := 25, bodyWidth := 300, bodyHeight := 1050
        labelX := .real (Binary64.ofNat 150), labelY := .real (Binary64.ofQuotient 25 2)
        devices := [{
          kind := "san", unit := 0, units := 1
          x := 0, y := 1050, width := 300, height := 25
          fill := "#4FD1C5", href := some "#a", label := "x\ry"
          labelX := .real (Binary64.ofNat 150)
          labelY := .real (Binary64.ofQuotient 2125 2) }] }] } := by
    decide +kernel
  rw [outcome_render hread hlayout]
  rfl

/-- The drawing of the linked device is read back, by itself and as it is rendered. -/
theorem written_drawings_readBack_linkedSource :
    linkedDrawing.ReadsBack 4 ∧ Settings.AllowedColors {} ∧
      (render {} linkedSource).outcome = .ok linkedDrawing ∧
        linkedDrawing.ReadsBack nestingLimit := by
  have hnumbers : ∀ n ∈ linkedDrawing.numbers, n.IsPrintable := by
    simp only [Drawing.numbers, Drawing.walk, linkedDrawing, Primitive.walkStack_cons,
      Primitive.walkStack_nil, Primitive.children]
    decide +kernel
  have hrender := outcome_render_linkedSource
  obtain ⟨hread, hrendered⟩ := written_drawings_readBack linkedDrawing
  obtain ⟨hnative, hstrings, -, hreads, -⟩ :=
    hrendered {} linkedSource allowedColors_standard hrender
  exact ⟨hread 4 hnative hstrings hnumbers (by decide), allowedColors_standard, hrender,
    hreads.2 hnumbers⟩

/-! ### A drawing that cannot be written -/

/-- A one with a given number of zeros behind it. -/
def tallChars (zeros : Nat) : List Char :=
  '1' :: List.replicate zeros '0'

/-- A rack whose height is a one with a given number of zeros behind it. -/
def tallRack (zeros : Nat) : RackSet where
  racks := [{ height := some (String.ofList (tallChars zeros)) }]

/-- The written rack set with that rack. -/
def tallSource (zeros : Nat) : Source :=
  .text ((tallRack zeros).toNode "racks" "rack").written

section Tall

variable {k : Nat}

/-- The digits of a tall height are a one and zeros. -/
theorem forall_mem_tallChars {holds : Char → Prop} (hone : holds '1') (hzero : holds '0') :
    ∀ c ∈ tallChars k, holds c := by
  refine List.forall_mem_cons.2 ⟨hone, fun c hc => ?_⟩
  rwa [List.eq_of_mem_replicate hc]

/-- The source is read as one rack with the height as it is written. -/
theorem read_tallSource : RackSet.read (tallSource k) = .ok (tallRack k) := by
  have hallowed : IsAllowedText (String.ofList (tallChars k)) :=
    AllowedChars.ofList (forall_mem_tallChars (by decide) (by decide))
  have hwritable : (tallRack k).IsWritable := by
    intro rack hrack
    obtain rfl := List.mem_singleton.1 hrack
    refine ⟨fun s hs => absurd hs (Option.not_mem_none _),
      fun s hs => Option.some.inj hs ▸ hallowed, ?_⟩
    exact fun _ hslot => absurd hslot List.not_mem_nil
  have hroot : Alphabet.common.isName "racks".toList = true := isName_of_isWord (by decide)
  have hrack : Alphabet.common.isName "rack".toList = true := isName_of_isWord (by decide)
  obtain ⟨hsource, -⟩ := (hwritable.simple hroot hrack).readsAs rfl
  exact RackSet.read_of_readTree hwritable hsource

/-- Up to the limit on digits the height is a power of ten. -/
theorem leadingPositive?_tallChars (hk : k < integerTextLimit) :
    leadingPositive? (some (String.ofList (tallChars k))) = .ok (some (10 ^ k : Nat)) := by
  have hdigits : ∀ c ∈ tallChars k, c ∈ plainDigits :=
    forall_mem_tallChars (by decide) (by decide)
  have hlength : (tallChars k).length ≤ integerTextLimit := by
    rwa [tallChars, List.length_cons, List.length_replicate]
  have hvalue : value (tallChars k) = 10 ^ k := value_one_zeros k
  have hne : value (tallChars k) ≠ 0 := by
    rw [hvalue]
    exact (Nat.pow_pos (by decide)).ne'
  rw [← hvalue]
  exact leadingPositive?_ofList hdigits hlength hne

/-- The rack is laid out, on a canvas with one digit more than its height. -/
theorem layout_tallRack (hk : k < integerTextLimit) :
    ∃ layout, (tallRack k).layout {} = .ok layout ∧
      layout.height = .int (50 + 25 * (10 ^ k : Nat)) := by
  obtain ⟨_, hwidth⟩ : ∃ a, (300 : Number).half = .ok a :=
    (Number.half_int (n := 300) (by decide)).imp fun _ h => h.1
  obtain ⟨_, hmargin⟩ : ∃ a, (25 : Number).half = .ok a :=
    (Number.half_int (n := 25) (by decide)).imp fun _ h => h.1
  have hunits : (tallRack k).racks.mapM (·.unitCount {}) = .ok [.int (10 ^ k : Nat)] := by
    rw [tallRack, List.mapM_cons, Rack.unitCount, leadingPositive?_tallChars hk]
    rfl
  rw [RackSet.layout, hunits, ok_bind]
  simp only [tallRack, List.zip_cons_cons, layoutRacks, Rack.layout, hwidth, hmargin]
  exact ⟨_, rfl, rfl⟩

/-- A height of as many digits as can be read gives a drawing whose height has too many digits to be
written. -/
theorem not_readsBack_tall (hk : k + 1 = integerTextLimit) :
    ∃ drawing, Settings.AllowedColors {} ∧ (render {} (tallSource k)).outcome = .ok drawing ∧
      drawing.svg nestingLimit = .error .integerTooLong ∧ ¬ drawing.ReadsBack nestingLimit := by
  obtain ⟨layout, hlayout, hheight⟩ := layout_tallRack (k := k) (by omega)
  have hlong : layout.drawing.height.coordinateText = .error .integerTooLong := by
    rw [Layout.drawing, hheight]
    refine (isWrittenIff_integerText _).error ?_
    rw [← hk, Nat.pow_succ]
    omega
  have hnode : layout.drawing.toNode nestingLimit = .error .integerTooLong := by
    rw [Drawing.toNode, hlong]
    rfl
  have hsvg : layout.drawing.svg nestingLimit = .error .integerTooLong := by
    rw [Drawing.svg, hnode]
    rfl
  refine ⟨_, allowedColors_standard, outcome_render read_tallSource hlayout, hsvg, ?_⟩
  rintro ⟨node, hok, -⟩
  rw [hnode] at hok
  contradiction

/-- A rack whose height has 4300 digits, the most that are read, is rendered, but it cannot be
written. -/
theorem not_readsBack_tallRack :
    ∃ drawing, Settings.AllowedColors {} ∧ (render {} (tallSource 4299)).outcome = .ok drawing ∧
      drawing.svg nestingLimit = .error .integerTooLong ∧ ¬ drawing.ReadsBack nestingLimit :=
  not_readsBack_tall rfl

end Tall

end RackElevation
