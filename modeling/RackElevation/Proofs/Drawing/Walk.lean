import Mathlib.Data.List.Basic
import RackElevation.Drawing

/-!
# The walk of a drawing

The walk visits the trees of a stack one after the other, and each primitive before those it holds.
So what holds of all primitives of a drawing can be said over its walk: the strings and the numbers
of a drawing are those of the visited primitives.
-/

namespace RackElevation

namespace Primitive

/-- The walk of an empty stack visits nothing. -/
theorem walkStack_nil : walkStack [] = [] := by
  rw [walkStack]

/-- Two stacks on each other are walked one after the other. -/
theorem walkStack_append (ps qs : List Primitive) :
    walkStack (ps ++ qs) = walkStack ps ++ walkStack qs := by
  induction ps using walkStack.induct with
  | case1 => rw [walkStack_nil, List.nil_append, List.nil_append]
  | case2 p stack ih =>
      rw [List.cons_append, walkStack, walkStack, ← List.append_assoc, ih, List.cons_append]

/-- A primitive is walked before those it holds, and these before the rest of the stack. -/
theorem walkStack_cons (p : Primitive) (stack : List Primitive) :
    walkStack (p :: stack) = p :: (walkStack p.children ++ walkStack stack) := by
  rw [walkStack, walkStack_append]

/-- What holds of every primitive in a tree. -/
def All (holds : Primitive → Prop) (p : Primitive) : Prop :=
  holds p ∧ ∀ q ∈ walkStack p.children, holds q

/-- Something holds on a walk when it holds of the first primitive and all in it, and on the walk of
the others. -/
theorem forall_mem_walkStack_cons {holds : Primitive → Prop} {p : Primitive}
    {stack : List Primitive} :
    (∀ q ∈ walkStack (p :: stack), holds q) ↔ p.All holds ∧ ∀ q ∈ walkStack stack, holds q := by
  rw [walkStack_cons, List.forall_mem_cons, List.forall_mem_append, All, and_assoc]

/-! ## Levels -/

theorem depth_pos (p : Primitive) : 0 < p.depth := by
  cases p <;> exact Nat.succ_pos _

/-- Room for the levels of a row is room for each of its trees. -/
theorem depths_cons_le {p : Primitive} {ps : List Primitive} {room : ℕ} :
    depths (p :: ps) ≤ room ↔ p.depth ≤ room ∧ depths ps ≤ room :=
  Nat.max_le

/-- Two rows next to each other are as deep as the deeper one. -/
theorem depths_append (ps qs : List Primitive) :
    depths (ps ++ qs) = max (depths ps) (depths qs) := by
  induction ps with
  | nil => exact (Nat.zero_max _).symm
  | cons p ps ih => rw [List.cons_append, depths, ih, depths, Nat.max_assoc]

/-- A row is at most as deep as its parts are. -/
theorem depths_flatMap_le {α : Type} {f : α → List Primitive} {as : List α} {room : ℕ}
    (h : ∀ a ∈ as, depths (f a) ≤ room) : depths (as.flatMap f) ≤ room := by
  induction as with
  | nil => exact Nat.zero_le room
  | cons a as ih =>
      obtain ⟨ha, has⟩ := List.forall_mem_cons.1 h
      rw [List.flatMap_cons, depths_append]
      exact Nat.max_le.2 ⟨ha, ih has⟩

/-! ## What primitives hold -/

/-- The strings of a primitive itself. -/
def strings : Primitive → List String
  | .rect r => [r.fill, r.stroke]
  | .label l => [l.content, l.fontFamily]
  | .style css => [css]
  | .link href _ => [href]
  | .group _ _ => []
  | .foreign _ => []

/-- The numbers of a primitive itself. -/
def numbers : Primitive → List Number
  | .rect r => [r.x, r.y, r.width, r.height]
  | .label l => [l.x, l.y]
  | .group (some (x, y)) _ => [x, y]
  | .group none _ => []
  | .style _ => []
  | .link _ _ => []
  | .foreign _ => []

/-- Whether a primitive is a foreign value. -/
def isForeign : Primitive → Bool
  | .foreign _ => true
  | _ => false

end Primitive

namespace Drawing

/-- All strings in a drawing. -/
def strings (drawing : Drawing) : List String :=
  drawing.walk.flatMap Primitive.strings

/-- All numbers in a drawing. -/
def numbers (drawing : Drawing) : List Number :=
  drawing.width :: drawing.height :: drawing.walk.flatMap Primitive.numbers

/-- A drawing without foreign values. -/
def IsNative (drawing : Drawing) : Prop :=
  ∀ p ∈ drawing.walk, p.isForeign = false

end Drawing

/-- A number that can be written. -/
def Number.IsPrintable (n : Number) : Prop :=
  ∃ s, n.coordinateText = .ok s

instance (n : Number) : Decidable n.IsPrintable :=
  match h : n.coordinateText with
  | .ok s => .isTrue ⟨s, h⟩
  | .error _ => .isFalse fun ⟨_, hs⟩ => by rw [h] at hs; contradiction

end RackElevation
