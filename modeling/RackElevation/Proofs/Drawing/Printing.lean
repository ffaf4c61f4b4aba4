import RackElevation.Drawing.Assembly
import RackElevation.Proofs.Binary64.Rounding
import RackElevation.Proofs.Drawing.Walk
import RackElevation.Proofs.Outcome

/-!
# Writing drawings

A drawing without foreign values has a text exactly when its integers are within the limit on
integer text, and otherwise writing it fails because of that limit, whatever its strings are.  The
drawing of a layout has no foreign values.
-/

namespace RackElevation

/-- An outcome that is a result under a condition, and otherwise a failure because of the limit on
integer text. -/
structure IsWrittenIff {α : Type} (condition : Prop) (x : Except Failure α) : Prop where
  ok : condition → ∃ a, x = .ok a
  error : ¬ condition → x = .error .integerTooLong

namespace IsWrittenIff

variable {α β : Type} {p q : Prop}

/-- A result needs no condition. -/
theorem pure (a : α) : IsWrittenIff True (Pure.pure a : Except Failure α) :=
  ⟨fun _ => ⟨a, rfl⟩, fun h => absurd trivial h⟩

/-- The condition under which something is written may be replaced by an equivalent one. -/
theorem congr {x : Except Failure α} (h : IsWrittenIff p x) (hpq : p ↔ q) : IsWrittenIff q x :=
  ⟨fun hq => h.ok (hpq.2 hq), fun hq => h.error fun hp => hq (hpq.1 hp)⟩

/-- Two steps need both their conditions. -/
theorem bind {x : Except Failure α} {f : α → Except Failure β} (hx : IsWrittenIff p x)
    (hf : ∀ a, IsWrittenIff q (f a)) : IsWrittenIff (p ∧ q) (x >>= f) := by
  constructor
  · rintro ⟨hp, hq⟩
    obtain ⟨a, rfl⟩ := hx.ok hp
    exact (hf a).ok hq
  · intro h
    by_cases hp : p
    · obtain ⟨a, rfl⟩ := hx.ok hp
      exact (hf a).error fun hq => h ⟨hp, hq⟩
    · rw [hx.error hp]
      rfl

/-- A step whose result is only changed needs its condition. -/
theorem map {x : Except Failure α} (hx : IsWrittenIff p x) (f : α → β) :
    IsWrittenIff p (x.map f) := by
  constructor
  · intro hp
    obtain ⟨a, rfl⟩ := hx.ok hp
    exact ⟨f a, rfl⟩
  · intro hp
    rw [hx.error hp]
    rfl

end IsWrittenIff

/-! ## Numbers -/

/-- An integer is written unless it has too many digits. -/
theorem isWrittenIff_integerText (m : ℤ) :
    IsWrittenIff (m.natAbs < 10 ^ integerTextLimit) (integerText m) := by
  have hlength : (Text.decimalDigits m.natAbs).length ≤ integerTextLimit ↔
      m.natAbs < 10 ^ integerTextLimit :=
    Nat.length_toDigits_le_iff (by decide) (by decide)
  rw [integerText]
  constructor
  · intro h
    rw [if_pos (hlength.2 h)]
    exact ⟨_, rfl⟩
  · intro h
    rw [if_neg (mt hlength.1 h)]

/-- The limit on integer text is the only reason why a number cannot be written. -/
theorem isWrittenIff_coordinateText (n : Number) : IsWrittenIff n.IsPrintable n.coordinateText := by
  refine ⟨id, fun h => ?_⟩
  have hinteger {m : ℤ} (hm : ¬ ∃ s, integerText m = .ok s) :
      integerText m = .error .integerTooLong :=
    (isWrittenIff_integerText m).error fun hlt => hm ((isWrittenIff_integerText m).ok hlt)
  cases n with
  | int m => exact hinteger h
  | real x =>
      rw [Number.IsPrintable, Number.coordinateText] at h
      rw [Number.coordinateText]
      cases hwhole : x.whole? with
      | some m =>
          rw [hwhole] at h
          exact hinteger h
      | none =>
          rw [hwhole] at h
          exact absurd ⟨_, rfl⟩ h

namespace Number

/-- An integer can be written when it does not have too many digits. -/
theorem isPrintable_int_iff {m : ℤ} :
    (Number.int m).IsPrintable ↔ m.natAbs < 10 ^ integerTextLimit := by
  refine ⟨fun ⟨s, hs⟩ => ?_, (isWrittenIff_integerText m).ok⟩
  by_contra hge
  have herror := (isWrittenIff_integerText m).error hge
  rw [show integerText m = .ok s from hs] at herror
  contradiction

/-- A whole binary64 number has far fewer digits than the limit. -/
theorem natAbs_lt_of_whole? {x : Binary64} {m : ℤ} (h : x.whole? = some m) :
    m.natAbs < 10 ^ integerTextLimit := by
  cases x with
  | nan => contradiction
  | infinite negative => contradiction
  | finite negative steps fits =>
      rw [Binary64.whole?] at h
      split at h
      · obtain rfl := Option.some.inj h
        -- every finite number is below 2 ^ 1024, which has far fewer digits than the limit allows
        have hquotient : steps / Binary64.unit < 2 ^ 1024 := by
          rw [Nat.div_lt_iff_lt_mul (by rw [Binary64.unit_eq_pow]; positivity),
            Binary64.unit_eq_pow, ← pow_add, ← Binary64.limit_eq]
          exact fits.2
        have hnatAbs : (Binary64.signedSteps negative (steps / Binary64.unit)).natAbs =
            steps / Binary64.unit := by
          cases negative with
          | true => exact Int.natAbs_neg _
          | false => rfl
        have hpow {k l : ℕ} (hle : k ≤ l) : 2 ^ k ≤ 10 ^ l :=
          (Nat.pow_le_pow_left (by decide) k).trans (Nat.pow_le_pow_right (by decide) hle)
        rw [hnatAbs]
        exact hquotient.trans_le (hpow (by decide))
      · contradiction

/-- A binary64 number can always be written: no whole one has that many digits. -/
theorem isPrintable_real (x : Binary64) : (Number.real x).IsPrintable := by
  rw [IsPrintable, coordinateText]
  cases hwhole : x.whole? with
  | none => exact ⟨_, rfl⟩
  | some m => exact (isWrittenIff_integerText m).ok (natAbs_lt_of_whole? hwhole)

end Number

/-! ## Primitives -/

namespace Primitive

open Markup

/-- A primitive whose own numbers can be written. -/
def IsPrintable (p : Primitive) : Prop :=
  ∀ n ∈ p.numbers, n.IsPrintable

/-- A rectangle has attributes exactly when its numbers can be written. -/
theorem isWrittenIff_rect (r : Rect) : IsWrittenIff (rect r).IsPrintable r.attributes := by
  refine ((isWrittenIff_coordinateText r.x).bind fun _ =>
    (isWrittenIff_coordinateText r.y).bind fun _ =>
    (isWrittenIff_coordinateText r.width).bind fun _ =>
    (isWrittenIff_coordinateText r.height).bind fun _ => .pure _).congr ?_
  simp only [IsPrintable, numbers, List.forall_mem_cons, List.not_mem_nil, false_implies,
    implies_true]

/-- A label has attributes exactly when its numbers can be written. -/
theorem isWrittenIff_label (l : Label) : IsWrittenIff (label l).IsPrintable l.attributes := by
  refine ((isWrittenIff_coordinateText l.x).bind fun _ =>
    (isWrittenIff_coordinateText l.y).bind fun _ => .pure _).congr ?_
  simp only [IsPrintable, numbers, List.forall_mem_cons, List.not_mem_nil, false_implies,
    implies_true]

/-- A group has attributes exactly when its shift can be written. -/
theorem isWrittenIff_group (translate : Option (Number × Number)) (children : List Primitive) :
    IsWrittenIff (group translate children).IsPrintable (groupAttributes translate) := by
  cases translate with
  | none =>
      refine (IsWrittenIff.pure []).congr ?_
      simp only [IsPrintable, numbers, List.not_mem_nil, false_implies, implies_true]
  | some shift =>
      refine (((isWrittenIff_coordinateText shift.1).bind fun _ =>
        (isWrittenIff_coordinateText shift.2).bind fun _ => .pure _).bind fun _ => .pure _).congr ?_
      simp only [IsPrintable, numbers, List.forall_mem_cons, List.not_mem_nil, false_implies,
        implies_true, and_true]

mutual

/-- With room for its levels, a primitive has an element exactly when its numbers and those of all
it holds can be written. -/
theorem isWrittenIff_toNode : ∀ {room : ℕ} {p : Primitive}, p.depth ≤ room →
    p.All (·.isForeign = false) → IsWrittenIff (p.All IsPrintable) (p.toNode room)
  -- no shape fits where no level is left
  | 0, p, hroom, _ => absurd hroom p.depth_pos.not_ge
  | _ + 1, .rect r, _, _ => by
      refine ((isWrittenIff_rect r).bind fun _ => .pure _).congr ?_
      simp only [All, children, walkStack_nil, List.not_mem_nil, false_implies, implies_true]
  | _ + 1, .label l, _, _ => by
      refine ((isWrittenIff_label l).bind fun _ => .pure _).congr ?_
      simp only [All, children, walkStack_nil, List.not_mem_nil, false_implies, implies_true]
  | _ + 1, .style css, _, _ => by
      refine (IsWrittenIff.pure _).congr ?_
      simp only [All, IsPrintable, numbers, children, walkStack_nil, List.not_mem_nil,
        false_implies, implies_true, and_self]
  | _ + 1, .link href held, hroom, h => by
      refine ((isWrittenIff_toNodes held (Nat.le_of_succ_le_succ hroom) h.2).bind
        fun _ => .pure _).congr ?_
      simp only [All, IsPrintable, numbers, children, List.not_mem_nil, false_implies,
        implies_true, true_and, and_true]
  | _ + 1, .group translate held, hroom, h => by
      refine ((isWrittenIff_group translate held).bind fun _ =>
        (isWrittenIff_toNodes held (Nat.le_of_succ_le_succ hroom) h.2).bind
          fun _ => .pure _).congr ?_
      rw [and_true, All, children]
  -- what is no shape has no element
  | _ + 1, .foreign value, _, h => absurd h.1 (by simp [isForeign])

/-- With room for its levels, a row of primitives has elements exactly when all its numbers can be
written. -/
theorem isWrittenIff_toNodes : ∀ {room : ℕ} (ps : List Primitive), depths ps ≤ room →
    (∀ q ∈ walkStack ps, q.isForeign = false) →
      IsWrittenIff (∀ q ∈ walkStack ps, q.IsPrintable) (toNodes room ps)
  | _, [], _, _ => by
      refine (IsWrittenIff.pure _).congr ?_
      simp only [walkStack_nil, List.not_mem_nil, false_implies, implies_true]
  | _, p :: ps, hroom, h => by
      obtain ⟨hfirst, hrest⟩ := depths_cons_le.1 hroom
      obtain ⟨hp, hps⟩ := forall_mem_walkStack_cons.1 h
      refine ((isWrittenIff_toNode hfirst hp).bind fun _ =>
        (isWrittenIff_toNodes ps hrest hps).bind fun _ => .pure _).congr ?_
      rw [forall_mem_walkStack_cons, and_true]

end

/-- A foreign value has no element, whatever the room is. -/
theorem toNode_foreign_ne_ok {room : ℕ} (value : Datum) {node : Node String} :
    (foreign value).toNode room ≠ .ok node := by
  intro h
  cases room with
  | zero =>
      rw [toNode] at h
      contradiction
  | succ room =>
      rw [toNode] at h
      split at h
      · contradiction
      · obtain ⟨_, -, herror⟩ := bind_eq_ok.1 h
        contradiction

mutual

/-- The element of a primitive has as many levels as the primitive. -/
theorem levels_toNode : ∀ {room : ℕ} {p : Primitive} {node : Node String},
    p.toNode room = .ok node → node.levels = p.depth
  -- induction on the tree, with the recursion of `toNode` and `toNodes`
  | 0, _, _, h => by
      rw [toNode] at h
      contradiction
  | _ + 1, .rect r, _, h => by
      obtain ⟨attributes, -, hnode⟩ := bind_eq_ok.1 h
      obtain rfl := pure_eq_ok.1 hnode
      rfl
  | _ + 1, .label l, _, h => by
      obtain ⟨attributes, -, hnode⟩ := bind_eq_ok.1 h
      obtain rfl := pure_eq_ok.1 hnode
      rw [Node.levels, Node.levelsOfRow_ofText, depth]
  | _ + 1, .style css, _, h => by
      obtain rfl := Except.ok.inj h
      rw [Node.levels, Node.levelsOfRow_ofText, depth]
  | _ + 1, .link href held, _, h => by
      obtain ⟨nodes, hnodes, hnode⟩ := bind_eq_ok.1 h
      obtain rfl := pure_eq_ok.1 hnode
      rw [Node.levels, levelsOfRow_toNodes hnodes, depth]
  | _ + 1, .group translate held, _, h => by
      obtain ⟨attributes, -, hrest⟩ := bind_eq_ok.1 h
      obtain ⟨nodes, hnodes, hnode⟩ := bind_eq_ok.1 hrest
      obtain rfl := pure_eq_ok.1 hnode
      rw [Node.levels, levelsOfRow_toNodes hnodes, depth]
  | _ + 1, .foreign value, _, h => absurd h (toNode_foreign_ne_ok value)

/-- The elements of a row of primitives have as many levels as the row. -/
theorem levelsOfRow_toNodes : ∀ {room : ℕ} {ps : List Primitive} {nodes : List (Node String)},
    toNodes room ps = .ok nodes → Node.levelsOfRow nodes = depths ps
  | _, [], _, h => by
      obtain rfl := Except.ok.inj h
      rfl
  | _, p :: ps, _, h => by
      obtain ⟨node, hnode, hrest⟩ := bind_eq_ok.1 h
      obtain ⟨nodes, hnodes, hcons⟩ := bind_eq_ok.1 hrest
      obtain rfl := pure_eq_ok.1 hcons
      rw [Node.levelsOfRow, levels_toNode hnode, levelsOfRow_toNodes hnodes, depths]

end

end Primitive

/-! ## Drawings -/

/-- A drawing whose integers are within the limit on integer text. -/
def Drawing.IsPrintable (drawing : Drawing) : Prop :=
  ∀ m : ℤ, .int m ∈ drawing.numbers → m.natAbs < 10 ^ integerTextLimit

/-- A drawing can be written when each of its numbers can. -/
theorem Drawing.isPrintable_iff {drawing : Drawing} :
    drawing.IsPrintable ↔ ∀ n ∈ drawing.numbers, n.IsPrintable := by
  constructor
  · intro h n hn
    cases n with
    | int m => exact Number.isPrintable_int_iff.2 (h m hn)
    | real x => exact Number.isPrintable_real x
  · exact fun h m hm => Number.isPrintable_int_iff.1 (h _ hm)

/-- With room for its levels, a drawing without foreign values has elements exactly when its
integers are within the limit. -/
theorem Drawing.isWrittenIff_toNode {drawing : Drawing} {room : ℕ} (hroom : drawing.depth ≤ room)
    (h : drawing.IsNative) : IsWrittenIff drawing.IsPrintable (drawing.toNode room) := by
  refine ((isWrittenIff_coordinateText drawing.height).bind fun _ =>
    (isWrittenIff_coordinateText drawing.width).bind fun _ =>
    (Primitive.isWrittenIff_toNodes drawing.children hroom h).bind fun _ => .pure _).congr ?_
  have hwalk : (∀ n ∈ drawing.walk.flatMap Primitive.numbers, n.IsPrintable) ↔
      ∀ q ∈ Primitive.walkStack drawing.children, q.IsPrintable := by
    simp only [List.mem_flatMap, forall_exists_index, and_imp, walk, Primitive.IsPrintable]
    exact ⟨fun hn q hq n => hn n q hq, fun hq n q => (hq q · n)⟩
  rw [isPrintable_iff, numbers, List.forall_mem_cons, List.forall_mem_cons, hwalk, and_true]
  exact and_left_comm

/-- The tree of a drawing has one level more than the drawing: its root. -/
theorem Drawing.levels_toNode {drawing : Drawing} {room : ℕ} {node : Markup.Node String}
    (h : drawing.toNode room = .ok node) : node.levels = drawing.depth + 1 := by
  obtain ⟨height, -, hrest⟩ := bind_eq_ok.1 h
  obtain ⟨width, -, hrest⟩ := bind_eq_ok.1 hrest
  obtain ⟨nodes, hnodes, hroot⟩ := bind_eq_ok.1 hrest
  rw [← pure_eq_ok.1 hroot, Markup.Node.levels, Primitive.levelsOfRow_toNodes hnodes, depth]

/-- With room for the levels of its tree, the text of a drawing is that tree written. -/
theorem Drawing.svg_eq_map {drawing : Drawing} {room : ℕ} (hroom : drawing.depth < room) :
    drawing.svg room = (drawing.toNode room).map Markup.Node.written := by
  rw [svg]
  cases hnode : drawing.toNode room with
  | error failure => rfl
  | ok node =>
      rw [ok_bind, if_neg (by rw [levels_toNode hnode]; omega)]
      rfl

/-- With room for its tree, a drawing without foreign values has a text exactly when its integers
are within the limit. -/
theorem Drawing.isWrittenIff_svg {drawing : Drawing} {room : ℕ} (hroom : drawing.depth < room)
    (h : drawing.IsNative) : IsWrittenIff drawing.IsPrintable (drawing.svg room) := by
  rw [svg_eq_map hroom]
  exact (isWrittenIff_toNode hroom.le h).map Markup.Node.written

/-! ## Assembled drawings -/

section Assembly

open Primitive

/-- The walk of a row goes through its parts one after the other. -/
theorem walkStack_flatMap {α : Type} (f : α → List Primitive) (as : List α) :
    walkStack (as.flatMap f) = as.flatMap fun a => walkStack (f a) := by
  induction as with
  | nil => exact walkStack_nil
  | cons a as ih => rw [List.flatMap_cons, walkStack_append, ih, List.flatMap_cons]

/-- A device is drawn without foreign values. -/
theorem isNative_primitives (device : DeviceLayout) :
    ∀ q ∈ walkStack device.primitives, q.isForeign = false := by
  rw [DeviceLayout.primitives]
  split <;>
    simp [walkStack_cons, walkStack_nil, children, isForeign]

/-- The name of a rack is drawn without foreign values. -/
theorem isNative_caption (rack : RackLayout) :
    ∀ q ∈ walkStack rack.caption, q.isForeign = false := by
  rw [RackLayout.caption]
  split <;>
    simp [walkStack_cons, walkStack_nil, children, isForeign]

/-- A rack is drawn without foreign values. -/
theorem isNative_group (rack : RackLayout) : rack.group.All (·.isForeign = false) := by
  refine ⟨rfl, ?_⟩
  rw [RackLayout.group, children, walkStack_append, walkStack_cons, walkStack_flatMap]
  simp only [List.forall_mem_append, List.forall_mem_cons, List.mem_flatMap]
  refine ⟨isNative_caption rack, rfl, ?_, ?_⟩
  · show ∀ q ∈ walkStack [], q.isForeign = false
    rw [walkStack_nil]
    exact fun _ hq => absurd hq List.not_mem_nil
  · rintro q ⟨device, -, hq⟩
    exact isNative_primitives device q hq

/-- The drawing of a layout has no foreign values. -/
theorem isNative_drawing (layout : Layout) (hover : Bool) : (layout.drawing hover).IsNative := by
  rw [Drawing.IsNative, Drawing.walk, Layout.drawing, walkStack_append, List.forall_mem_append]
  constructor
  · cases hover <;> simp [walkStack_cons, walkStack_nil, children, isForeign]
  · induction layout.racks with
    | nil => simp [walkStack_nil]
    | cons rack racks ih => exact forall_mem_walkStack_cons.2 ⟨isNative_group rack, ih⟩

/-- A device has at most two levels, the link and what it holds. -/
theorem depths_primitives_le (device : DeviceLayout) : depths device.primitives ≤ 2 := by
  rw [DeviceLayout.primitives]
  split <;> simp [depths, depth]

/-- A rack has at most three levels, the group and those of its devices. -/
theorem depth_group_le (rack : RackLayout) : rack.group.depth ≤ 3 := by
  have hcaption : depths rack.caption ≤ 2 := by
    rw [RackLayout.caption]
    split <;> simp [depths, depth]
  have hdevices : depths (rack.devices.flatMap DeviceLayout.primitives) ≤ 2 :=
    depths_flatMap_le fun device _ => depths_primitives_le device
  rw [RackLayout.group, depth, depths_append]
  exact Nat.succ_le_succ (Nat.max_le.2 ⟨hcaption, depths_cons_le.2 ⟨by simp [depth], hdevices⟩⟩)

/-- The drawing of a layout has at most three levels: racks, links, and what links hold. -/
theorem depth_drawing_le (layout : Layout) (hover : Bool) : (layout.drawing hover).depth ≤ 3 := by
  have hstyle : depths (if hover then [.style hoverStyle] else []) ≤ 3 := by
    cases hover <;> simp [depths, depth]
  have hracks : depths (layout.racks.map RackLayout.group) ≤ 3 := by
    rw [List.map_eq_flatMap]
    exact depths_flatMap_le fun rack _ => depths_cons_le.2 ⟨depth_group_le rack, Nat.zero_le 3⟩
  rw [Drawing.depth, Layout.drawing, depths_append]
  exact Nat.max_le.2 ⟨hstyle, hracks⟩

/-- There is always room for the tree of a layout. -/
theorem depth_drawing_lt (layout : Layout) (hover : Bool) :
    (layout.drawing hover).depth < nestingLimit :=
  (depth_drawing_le layout hover).trans_lt (by decide)

end Assembly

end RackElevation
