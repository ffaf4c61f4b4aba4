import Mathlib.Data.List.Lex
import RackElevation.Proofs.Drawing.Printing

/-!
# Drawings and their elements in preorder

A primitive of a drawing has a path, the indices that lead to it from the top.  The walk visits
every path once and in lexicographic order, so each primitive comes before those it holds, and these
come in drawing order.  A drawing that is written has one element for each visited primitive, and
the elements stand in the order of the walk.  When there are foreign values, writing fails on the
first one of the walk.
-/

namespace RackElevation

open Markup

/-! ## Elements in document order -/

namespace Markup.Node

variable {Name : Type}

mutual

/-- The elements of a tree in document order, its own one first. -/
def elements : Node Name → List (Node Name)
  | .text _ => []
  | .element name attributes children =>
      .element name attributes children :: elementsOfRow children

/-- The elements of a row of trees in document order. -/
def elementsOfRow : List (Node Name) → List (Node Name)
  | [] => []
  | node :: rest => elements node ++ elementsOfRow rest

end

/-- The elements below the root of a tree, in document order. -/
def descendants (node : Node Name) : List (Node Name) :=
  elementsOfRow node.children

/-- The name of an element. -/
def name? : Node Name → Option Name
  | .element name _ _ => some name
  | .text _ => none

/-- The content of a text element holds no elements. -/
theorem elementsOfRow_ofText (content : String) :
    (elementsOfRow (ofText content) : List (Node Name)) = [] := by
  rw [ofText]
  split <;> rfl

end Markup.Node

namespace Primitive

/-! ## Paths -/

/-- The primitive at a path below a row of trees: the first index picks one of the trees, the next
one a primitive that it holds, and so on. -/
def at? (row : List Primitive) : List ℕ → Option Primitive
  | [] => none
  | [i] => row[i]?
  | i :: j :: path => row[i]?.bind fun p => at? p.children (j :: path)

/-- A path with its first index one higher. -/
def shifted : List ℕ → List ℕ
  | [] => []
  | i :: path => (i + 1) :: path

/-- A path beside the first primitive of a row is a path of the rest of the row. -/
theorem at?_shifted (p : Primitive) (ps : List Primitive) (path : List ℕ) :
    at? (p :: ps) (shifted path) = at? ps path := by
  match path with
  | [] => rfl
  | [i] => exact List.getElem?_cons_succ
  | i :: j :: path => rw [shifted, at?, at?, List.getElem?_cons_succ]

/-- A path below the first primitive of a row is a path among its children. -/
theorem at?_zero_cons (p : Primitive) (ps : List Primitive) {path : List ℕ} (h : path ≠ []) :
    at? (p :: ps) (0 :: path) = at? p.children path := by
  match path with
  | [] => contradiction
  | i :: path => rfl

/-- The order of two paths stays when both are moved one place along the row. -/
theorem shifted_lt_shifted {a b : List ℕ} (h : a < b) : shifted a < shifted b := by
  match a, b with
  | [], [] => exact h
  | [], j :: b => exact List.nil_lt_cons _ _
  | i :: a, [] => exact absurd h (List.not_lt_nil _)
  | i :: a, j :: b =>
      rw [shifted, shifted, List.cons_lt_cons_iff]
      rw [List.cons_lt_cons_iff] at h
      exact h.imp Nat.succ_lt_succ fun ⟨hij, hab⟩ => ⟨congrArg (· + 1) hij, hab⟩

/-- What lies below the first primitive of a row comes before what lies beside it. -/
theorem cons_lt_shifted {path path' : List ℕ} (h : path' ≠ []) : 0 :: path < shifted path' := by
  match path' with
  | [] => contradiction
  | i :: path' => exact List.cons_lt_cons_iff.2 (.inl (Nat.succ_pos i))

/-- A walk visits every path below a row of trees once, in lexicographic order. -/
structure VisitsPaths (row visited : List Primitive) (paths : List (List ℕ)) : Prop where
  increasing : paths.Pairwise (· < ·)
  complete : ∀ path, path ∈ paths ↔ (at? row path).isSome = true
  visited : paths.map (at? row) = visited.map some

/-- The empty path leads to no primitive. -/
theorem VisitsPaths.ne_nil {row visited : List Primitive} {paths : List (List ℕ)}
    (h : VisitsPaths row visited paths) {path : List ℕ} (hpath : path ∈ paths) : path ≠ [] := by
  rintro rfl
  exact Bool.false_ne_true ((h.complete []).1 hpath)

section Cons

variable {p : Primitive} {ps held rest : List Primitive} {below beside : List (List ℕ)}

/-- The first path, those below the first tree, and those below the other trees are in order. -/
theorem pairwise_paths_cons (hbelow : below.Pairwise (· < ·)) (hbeside : beside.Pairwise (· < ·))
    (hne : ∀ path ∈ below, path ≠ []) (hne' : ∀ path ∈ beside, path ≠ []) :
    ([0] :: (below.map (0 :: ·) ++ beside.map shifted)).Pairwise (· < ·) := by
  have hfirst : (below.map (0 :: ·)).Pairwise (· < ·) :=
    hbelow.map _ fun a b hab => List.cons_lt_cons_iff.2 (.inr ⟨rfl, hab⟩)
  have hothers : (beside.map shifted).Pairwise (· < ·) :=
    hbeside.map _ fun a b => shifted_lt_shifted
  refine List.pairwise_cons.2 ⟨fun path hpath => ?_, List.pairwise_append.2
    ⟨hfirst, hothers, fun path hpath path' hpath' => ?_⟩⟩
  · rcases List.mem_append.1 hpath with hpath | hpath
    · obtain ⟨q, hq, rfl⟩ := List.mem_map.1 hpath
      obtain ⟨i, q, rfl⟩ := List.exists_cons_of_ne_nil (hne q hq)
      exact List.cons_lt_cons_iff.2 (.inr ⟨rfl, List.nil_lt_cons _ _⟩)
    · obtain ⟨q, hq, rfl⟩ := List.mem_map.1 hpath
      exact cons_lt_shifted (hne' q hq)
  · obtain ⟨q, -, rfl⟩ := List.mem_map.1 hpath
    obtain ⟨q', hq', rfl⟩ := List.mem_map.1 hpath'
    exact cons_lt_shifted (hne' q' hq')

/-- No path that is moved along the row is empty. -/
theorem nil_notMem_map_shifted (hne : ∀ path ∈ beside, path ≠ []) :
    [] ∉ beside.map shifted := by
  intro h
  obtain ⟨q, hq, hnil⟩ := List.mem_map.1 h
  obtain ⟨j, q, rfl⟩ := List.exists_cons_of_ne_nil (hne q hq)
  contradiction

/-- No path that is moved along the row lies below its first primitive. -/
theorem zero_cons_notMem_map_shifted (hne : ∀ path ∈ beside, path ≠ []) (path : List ℕ) :
    0 :: path ∉ beside.map shifted := by
  intro h
  obtain ⟨q, hq, heq⟩ := List.mem_map.1 h
  exact (cons_lt_shifted (hne q hq)).ne' heq

/-- The paths beside the first primitive of a row are those of the rest, moved by one. -/
theorem succ_cons_mem_map_shifted (hne : ∀ path ∈ beside, path ≠ []) (i : ℕ) (path : List ℕ) :
    (i + 1) :: path ∈ beside.map shifted ↔ i :: path ∈ beside := by
  refine ⟨fun h => ?_, fun h => List.mem_map.2 ⟨_, h, rfl⟩⟩
  obtain ⟨q, hq, heq⟩ := List.mem_map.1 h
  obtain ⟨j, q, rfl⟩ := List.exists_cons_of_ne_nil (hne q hq)
  obtain ⟨hji, rfl⟩ := List.cons.inj heq
  rwa [← Nat.succ_injective hji]

/-- A path leads to a primitive of a row when it is the first one, leads to one below the first
tree, or leads to one below the other trees. -/
theorem mem_paths_cons_iff (hheld : VisitsPaths p.children held below)
    (hrest : VisitsPaths ps rest beside) (path : List ℕ) :
    path ∈ [0] :: (below.map (0 :: ·) ++ beside.map shifted) ↔
      (at? (p :: ps) path).isSome = true := by
  have hne : ∀ path ∈ beside, path ≠ [] := fun _ => hrest.ne_nil
  rw [List.mem_cons, List.mem_append]
  match path with
  | [] =>
      refine iff_of_false ?_ Bool.false_ne_true
      simp [nil_notMem_map_shifted hne]
  | [0] => exact iff_of_true (.inl rfl) rfl
  | 0 :: j :: q =>
      rw [or_iff_right (by simp), or_iff_left (zero_cons_notMem_map_shifted hne _),
        List.mem_map_of_injective List.cons_injective, hheld.complete,
        at?_zero_cons p ps (List.cons_ne_nil j q)]
  | (i + 1) :: q =>
      have hpath := at?_shifted p ps (i :: q)
      rw [shifted] at hpath
      rw [or_iff_right (by simp), or_iff_right (by simp), hpath, ← hrest.complete,
        succ_cons_mem_map_shifted hne]

/-- The paths below a row: the first tree, those below it, and those below the other trees. -/
theorem VisitsPaths.cons (hheld : VisitsPaths p.children held below)
    (hrest : VisitsPaths ps rest beside) :
    VisitsPaths (p :: ps) (p :: (held ++ rest))
      ([0] :: (below.map (0 :: ·) ++ beside.map shifted)) where
  increasing := pairwise_paths_cons hheld.increasing hrest.increasing (fun _ => hheld.ne_nil)
    fun _ => hrest.ne_nil
  complete := mem_paths_cons_iff hheld hrest
  visited := by
    have hbelow : (below.map (0 :: ·)).map (at? (p :: ps)) = below.map (at? p.children) := by
      rw [List.map_map]
      exact List.map_congr_left fun path hpath => at?_zero_cons p ps (hheld.ne_nil hpath)
    have hbeside : (beside.map shifted).map (at? (p :: ps)) = beside.map (at? ps) := by
      rw [List.map_map]
      exact List.map_congr_left fun path _ => at?_shifted p ps path
    rw [List.map_cons, List.map_append, hbelow, hbeside, hheld.visited, hrest.visited,
      List.map_cons, List.map_append]
    rfl

end Cons

theorem visitsPaths_nil : VisitsPaths [] (walkStack []) [] where
  increasing := .nil
  complete := by
    intro path
    refine iff_of_false List.not_mem_nil ?_
    match path with
    | [] => exact Bool.false_ne_true
    | [i] => exact Bool.false_ne_true
    | i :: j :: path => exact Bool.false_ne_true
  visited := by
    rw [walkStack_nil]
    rfl

mutual

/-- The walk visits what a primitive holds by increasing paths. -/
theorem exists_paths_children : ∀ p : Primitive,
    ∃ paths, VisitsPaths p.children (walkStack p.children) paths
  | .link _ held => exists_paths held
  | .group _ held => exists_paths held
  | .rect _ => ⟨[], visitsPaths_nil⟩
  | .label _ => ⟨[], visitsPaths_nil⟩
  | .style _ => ⟨[], visitsPaths_nil⟩
  | .foreign _ => ⟨[], visitsPaths_nil⟩

/-- The walk of a row of trees visits every path below it once, in lexicographic order. -/
theorem exists_paths : ∀ row : List Primitive, ∃ paths, VisitsPaths row (walkStack row) paths
  | [] => ⟨[], visitsPaths_nil⟩
  | p :: ps => by
      obtain ⟨below, hbelow⟩ := exists_paths_children p
      obtain ⟨beside, hbeside⟩ := exists_paths ps
      rw [walkStack_cons]
      exact ⟨_, hbelow.cons hbeside⟩

end

/-! ## Turns -/

/-- A walk that is under way: the primitives still to be visited, the next one last, and those that
have been visited. -/
structure Traversal where
  stack : List Primitive
  visited : List Primitive

/-- One turn takes the last primitive of the stack, visits it and pushes those it holds in reverse,
so that the first one of them is the next. -/
def Traversal.turn (t : Traversal) : Traversal :=
  match t.stack.getLast? with
  | none => t
  | some p => ⟨t.stack.dropLast ++ p.children.reverse, t.visited ++ [p]⟩

/-- A turn visits the first primitive of the row and puts what it holds in its place. -/
theorem Traversal.turn_reverse_cons (p : Primitive) (row visited : List Primitive) :
    turn ⟨(p :: row).reverse, visited⟩ = ⟨(p.children ++ row).reverse, visited ++ [p]⟩ := by
  simp only [turn, List.reverse_cons, List.getLast?_append, List.getLast?_singleton,
    Option.some_or, List.dropLast_concat, List.reverse_append]

/-- The turns visit the walk of the stack, one primitive each. -/
theorem Traversal.iterate_turn (row visited : List Primitive) :
    turn^[(walkStack row).length] ⟨row.reverse, visited⟩ = ⟨[], visited ++ walkStack row⟩ := by
  induction row using walkStack.induct generalizing visited with
  | case1 => rw [walkStack_nil, List.append_nil]; rfl
  | case2 p stack ih =>
      rw [walkStack, List.length_cons, Function.iterate_succ_apply, turn_reverse_cons, ih,
        List.append_assoc, List.singleton_append]

/-! ## Elements of primitives -/

/-- The name of the element of a primitive. -/
def tag? : Primitive → Option String
  | .rect _ => some "rect"
  | .label _ => some "text"
  | .style _ => some "style"
  | .link .. => some "a"
  | .group .. => some "g"
  | .foreign _ => none

/-- An element that a primitive is written as, where there is enough room. -/
structure IsWrittenAs (p : Primitive) (node : Node String) : Prop where
  written : ∃ room, p.toNode room = .ok node
  tag : node.name? = p.tag?

/-- A primitive that holds none has the elements of its own element only. -/
theorem forall₂_elements_of_leaf {p : Primitive} {room : ℕ} {name : String}
    {attributes : List (String × String)} {content : List (Node String)}
    (hchildren : p.children = [])
    (h : p.toNode room = .ok (.element name attributes content)) (htag : some name = p.tag?)
    (hcontent : Node.elementsOfRow content = []) :
    List.Forall₂ IsWrittenAs (p :: walkStack p.children)
      (Node.element name attributes content).elements := by
  rw [hchildren, walkStack_nil, Node.elements, hcontent]
  exact .cons ⟨⟨room, h⟩, htag⟩ .nil

mutual

/-- The elements in the tree of a primitive are those of the primitives in it. -/
theorem forall₂_elements : ∀ {room : ℕ} {p : Primitive} {node : Node String},
    p.toNode room = .ok node → List.Forall₂ IsWrittenAs (p :: walkStack p.children) node.elements
  -- induction on the tree: an element comes before those of what the primitive holds
  | 0, _, _, h => by
      rw [toNode] at h
      contradiction
  | _ + 1, .rect r, node, h => by
      obtain ⟨attributes, -, hnode⟩ := bind_eq_ok.1 h
      obtain rfl := pure_eq_ok.1 hnode
      exact forall₂_elements_of_leaf rfl h rfl rfl
  | _ + 1, .label l, node, h => by
      obtain ⟨attributes, -, hnode⟩ := bind_eq_ok.1 h
      obtain rfl := pure_eq_ok.1 hnode
      exact forall₂_elements_of_leaf rfl h rfl (Node.elementsOfRow_ofText l.content)
  | _ + 1, .style css, node, h => by
      obtain rfl := Except.ok.inj h
      exact forall₂_elements_of_leaf rfl h rfl (Node.elementsOfRow_ofText css)
  | _ + 1, .link href held, node, h => by
      obtain ⟨nodes, hnodes, hnode⟩ := bind_eq_ok.1 h
      obtain rfl := pure_eq_ok.1 hnode
      exact .cons ⟨⟨_, h⟩, rfl⟩ (forall₂_elementsOfRow hnodes)
  | _ + 1, .group translate held, node, h => by
      obtain ⟨attributes, -, hrest⟩ := bind_eq_ok.1 h
      obtain ⟨nodes, hnodes, hnode⟩ := bind_eq_ok.1 hrest
      obtain rfl := pure_eq_ok.1 hnode
      exact .cons ⟨⟨_, h⟩, rfl⟩ (forall₂_elementsOfRow hnodes)
  | _ + 1, .foreign value, node, h => absurd h (toNode_foreign_ne_ok value)

/-- The elements of a row of primitives are those of the primitives that are walked. -/
theorem forall₂_elementsOfRow : ∀ {room : ℕ} {ps : List Primitive} {nodes : List (Node String)},
    toNodes room ps = .ok nodes →
      List.Forall₂ IsWrittenAs (walkStack ps) (Node.elementsOfRow nodes)
  | _, [], nodes, h => by
      obtain rfl := Except.ok.inj h
      rw [walkStack_nil]
      exact .nil
  | _, p :: ps, nodes, h => by
      obtain ⟨node, hnode, hrest⟩ := bind_eq_ok.1 h
      obtain ⟨rest, hrows, hcons⟩ := bind_eq_ok.1 hrest
      obtain rfl := pure_eq_ok.1 hcons
      rw [walkStack_cons, ← List.cons_append, Node.elementsOfRow]
      exact List.rel_append (forall₂_elements hnode) (forall₂_elementsOfRow hrows)

end

/-! ## Foreign values -/

/-- A foreign value comes first among those that are walked, and it is shown so. -/
def ShowsFirst (walked : List Primitive) (shown : String) : Prop :=
  ∃ value, walked.find? isForeign = some (.foreign value) ∧ value.shown = .ok shown

/-- Every foreign value that is walked can be shown. -/
def Showable (walked : List Primitive) : Prop :=
  ∀ value, .foreign value ∈ walked → ∃ shown, value.shown = .ok shown

section Foreign

variable {p : Primitive} {ps front back walked : List Primitive} {shown : String}

/-- The first foreign value of a walk is that of any longer walk. -/
theorem ShowsFirst.append (h : ShowsFirst front shown) (back : List Primitive) :
    ShowsFirst (front ++ back) shown :=
  h.imp fun _ hvalue => ⟨by rw [List.find?_append, hvalue.1, Option.some_or], hvalue.2⟩

/-- What is native is passed over. -/
theorem ShowsFirst.append_native (h : ShowsFirst back shown)
    (hfront : ∀ q ∈ front, q.isForeign = false) : ShowsFirst (front ++ back) shown := by
  have hnone : front.find? isForeign = none := by simpa using hfront
  exact h.imp fun _ hvalue => ⟨by rw [List.find?_append, hnone, Option.none_or, hvalue.1], hvalue.2⟩

/-- The first foreign value, where there is one. -/
theorem exists_showsFirst (hshown : Showable walked)
    (h : ¬ ∀ q ∈ walked, q.isForeign = false) : ∃ shown, ShowsFirst walked shown := by
  cases hfind : walked.find? isForeign with
  | none => exact absurd (by simpa using hfind) h
  | some q =>
      have hforeign := List.find?_some hfind
      cases q with
      | foreign value =>
          obtain ⟨shown, hvalue⟩ := hshown value (List.mem_of_find?_eq_some hfind)
          exact ⟨shown, value, hfind, hvalue⟩
      | _ => contradiction

/-- A walk of a tree and of those beside it. -/
theorem walkStack_cons_append (p : Primitive) (ps : List Primitive) :
    walkStack (p :: ps) = (p :: walkStack p.children) ++ walkStack ps := by
  rw [walkStack_cons, List.cons_append]

/-- What the first primitive of a row holds can be shown, and so can the rest, when all of the row
can. -/
theorem showable_cons (h : Showable (walkStack (p :: ps))) :
    Showable (p :: walkStack p.children) ∧ Showable (walkStack ps) := by
  rw [walkStack_cons_append] at h
  exact ⟨fun value hvalue => h value (List.mem_append_left _ hvalue),
    fun value hvalue => h value (List.mem_append_right _ hvalue)⟩

end Foreign

mutual

/-- With room for its levels, a primitive in which a foreign value is walked has no element, and the
first one is named. -/
theorem toNode_of_foreign : ∀ {room : ℕ} {p : Primitive} {shown : String}, p.depth ≤ room →
    p.All IsPrintable → ShowsFirst (p :: walkStack p.children) shown →
      p.toNode room = .error (.unsupportedPrimitive shown)
  -- induction on the tree: the first foreign value lies in what a primitive holds, or is the
  -- primitive
  | 0, p, _, hroom, _, _ => absurd hroom p.depth_pos.not_ge
  | _ + 1, .rect _, _, _, _, ⟨_, hfind, _⟩ => by simp [isForeign, children, walkStack_nil] at hfind
  | _ + 1, .label _, _, _, _, ⟨_, hfind, _⟩ => by simp [isForeign, children, walkStack_nil] at hfind
  | _ + 1, .style _, _, _, _, ⟨_, hfind, _⟩ => by simp [isForeign, children, walkStack_nil] at hfind
  | room + 1, .link href held, shown, hroom, hprint, hfirst => by
      have hheld : toNodes room held = .error (.unsupportedPrimitive shown) :=
        toNodes_of_foreign (Nat.le_of_succ_le_succ hroom) hprint.2 hfirst
      rw [toNode, hheld]
      rfl
  | room + 1, .group translate held, shown, hroom, hprint, hfirst => by
      obtain ⟨attributes, hattributes⟩ := (isWrittenIff_group translate held).ok hprint.1
      have hheld : toNodes room held = .error (.unsupportedPrimitive shown) :=
        toNodes_of_foreign (Nat.le_of_succ_le_succ hroom) hprint.2 hfirst
      rw [toNode, hattributes, ok_bind, hheld]
      rfl
  | room + 1, .foreign value, shown, hroom, _, ⟨_, hfind, hshown⟩ => by
      obtain ⟨⟩ := hfind
      rw [toNode, if_neg (Nat.le_of_succ_le_succ hroom).not_gt, hshown]
      rfl

/-- With room for its levels, a row of primitives in which a foreign value is walked has no
elements, and the first one is named. -/
theorem toNodes_of_foreign : ∀ {room : ℕ} {ps : List Primitive} {shown : String},
    depths ps ≤ room → (∀ q ∈ walkStack ps, q.IsPrintable) → ShowsFirst (walkStack ps) shown →
      toNodes room ps = .error (.unsupportedPrimitive shown)
  | _, [], _, _, _, ⟨_, hfind, _⟩ => by
      rw [walkStack_nil] at hfind
      contradiction
  | room, p :: ps, shown, hroom, hprint, hshows => by
      obtain ⟨hfirst, hrest⟩ := depths_cons_le.1 hroom
      obtain ⟨hp, hps⟩ := forall_mem_walkStack_cons.1 hprint
      obtain ⟨value, hfind, hshown⟩ := hshows
      rw [walkStack_cons_append, List.find?_append] at hfind
      cases hhead : (p :: walkStack p.children).find? isForeign with
      | some q =>
          rw [hhead, Option.some_or] at hfind
          obtain rfl := Option.some.inj hfind
          rw [toNodes, toNode_of_foreign hfirst hp ⟨value, hhead, hshown⟩]
          rfl
      | none =>
          -- the primitive is written, so the first foreign value is one of the rest
          rw [hhead, Option.none_or] at hfind
          have hnative : p.All (·.isForeign = false) := by
            simpa [All, List.find?_eq_none] using hhead
          obtain ⟨node, hnode⟩ := (isWrittenIff_toNode hfirst hnative).ok hp
          rw [toNodes, hnode, ok_bind, toNodes_of_foreign hrest hps ⟨value, hfind, hshown⟩]
          rfl

end

/-! ## Trees that are too deep -/

/-- An outcome without elements: there is no room for a tree, or a foreign value is met before. -/
def FailsIn {α : Type} (walked : List Primitive) (x : Except Failure α) : Prop :=
  x = .error .nestedTooDeep ∨ ∃ shown, ShowsFirst walked shown ∧
    x = .error (.unsupportedPrimitive shown)

/-- A failure of one step is a failure of all that come after it. -/
theorem FailsIn.bind {α β : Type} {walked : List Primitive} {x : Except Failure α}
    (h : FailsIn walked x) (f : α → Except Failure β) : FailsIn walked (x >>= f) := by
  rcases h with h | ⟨shown, hshows, h⟩
  · exact .inl (by rw [h]; rfl)
  · exact .inr ⟨shown, hshows, by rw [h]; rfl⟩

mutual

/-- Without room for its levels, a primitive has no element. -/
theorem failsIn_toNode : ∀ {room : ℕ} {p : Primitive}, room < p.depth → p.All IsPrintable →
    Showable (p :: walkStack p.children) → FailsIn (p :: walkStack p.children) (p.toNode room)
  -- induction on the tree: what is too deep lies in what a primitive holds
  | 0, _, _, _, _ => .inl (by rw [toNode])
  | _ + 1, .rect _, hroom, _, _ => absurd hroom (by simp [depth])
  | _ + 1, .label _, hroom, _, _ => absurd hroom (by simp [depth])
  | _ + 1, .style _, hroom, _, _ => absurd hroom (by simp [depth])
  | room + 1, .link href held, hroom, hprint, hshown => by
      have hheld : FailsIn (walkStack held) (toNodes room held) :=
        failsIn_toNodes (Nat.lt_of_succ_lt_succ hroom) hprint.2
          fun value hvalue => hshown value (.tail _ hvalue)
      rw [toNode]
      exact FailsIn.bind hheld _
  | room + 1, .group translate held, hroom, hprint, hshown => by
      obtain ⟨attributes, hattributes⟩ := (isWrittenIff_group translate held).ok hprint.1
      have hheld : FailsIn (walkStack held) (toNodes room held) :=
        failsIn_toNodes (Nat.lt_of_succ_lt_succ hroom) hprint.2
          fun value hvalue => hshown value (.tail _ hvalue)
      rw [toNode, hattributes, ok_bind]
      exact FailsIn.bind hheld _
  | room + 1, .foreign value, hroom, _, _ =>
      .inl (by rw [toNode, if_pos (Nat.lt_of_succ_lt_succ hroom)])

/-- Without room for its levels, a row of primitives has no elements. -/
theorem failsIn_toNodes : ∀ {room : ℕ} {ps : List Primitive}, room < depths ps →
    (∀ q ∈ walkStack ps, q.IsPrintable) → Showable (walkStack ps) →
      FailsIn (walkStack ps) (toNodes room ps)
  | room, [], hroom, _, _ => absurd hroom (Nat.not_lt_zero room)
  | room, p :: ps, hroom, hprint, hshown => by
      obtain ⟨hp, hps⟩ := forall_mem_walkStack_cons.1 hprint
      obtain ⟨hshownFirst, hshownRest⟩ := showable_cons hshown
      rw [walkStack_cons_append, toNodes]
      by_cases hfirst : room < p.depth
      · rcases failsIn_toNode hfirst hp hshownFirst with h | ⟨shown, hshows, h⟩
        · exact .inl (by rw [h]; rfl)
        · exact .inr ⟨shown, hshows.append _, by rw [h]; rfl⟩
      · rw [Nat.not_lt] at hfirst
        by_cases hnative : ∀ q ∈ p :: walkStack p.children, q.isForeign = false
        · -- the first tree is written, so there is no room for the others
          have hrest : room < depths ps := by
            rw [depths] at hroom
            omega
          have hwritten := isWrittenIff_toNode hfirst (List.forall_mem_cons.1 hnative)
          obtain ⟨node, hnode⟩ := hwritten.ok hp
          rw [hnode, ok_bind]
          rcases failsIn_toNodes hrest hps hshownRest with h | ⟨shown, hshows, h⟩
          · exact .inl (by rw [h]; rfl)
          · exact .inr ⟨shown, hshows.append_native hnative, by rw [h]; rfl⟩
        · obtain ⟨shown, hshows⟩ := exists_showsFirst hshownFirst hnative
          exact .inr ⟨shown, hshows.append _, by rw [toNode_of_foreign hfirst hp hshows]; rfl⟩

end

end Primitive

open Primitive

/-- A drawing that is written has one element below its root for each visited primitive. -/
theorem Drawing.forall₂_descendants {drawing : Drawing} {room : ℕ} {node : Node String}
    (h : drawing.toNode room = .ok node) :
    List.Forall₂ IsWrittenAs drawing.walk node.descendants := by
  obtain ⟨height, -, hrest⟩ := bind_eq_ok.1 h
  obtain ⟨width, -, hrest⟩ := bind_eq_ok.1 hrest
  obtain ⟨nodes, hnodes, hroot⟩ := bind_eq_ok.1 hrest
  rw [← pure_eq_ok.1 hroot]
  exact forall₂_elementsOfRow hnodes

/-- A drawing whose numbers can be written has the elements of its primitives, if they have any. -/
theorem Drawing.toNode_eq_bind {drawing : Drawing} (h : ∀ n ∈ drawing.numbers, n.IsPrintable)
    (room : ℕ) : ∃ root : List (Node String) → Node String,
      drawing.toNode room = do return root (← toNodes room drawing.children) := by
  obtain ⟨width, hwidth⟩ := h drawing.width (.head _)
  obtain ⟨height, hheight⟩ := h drawing.height (.tail _ (.head _))
  exact ⟨_, by rw [Drawing.toNode, hheight, ok_bind, hwidth, ok_bind]⟩

/-- The walk of a drawing ends after one turn for each primitive, and visits every primitive once,
each before those it holds.  When the numbers of the drawing can be written and its foreign values
can be shown, the room for nested calls decides.  With room for all levels, a drawing without
foreign values is written as one element for each visited primitive, in the same order and with the
name of its sort, and any other drawing fails with the first foreign value of the walk.  Without
that room the calls are nested too deep, unless a foreign value is met before. -/
theorem Drawing.elements_correspond (drawing : Drawing) (room : ℕ)
    (hprint : ∀ n ∈ drawing.numbers, n.IsPrintable) (hshown : Showable drawing.walk) :
    Traversal.turn^[drawing.walk.length] ⟨drawing.children.reverse, []⟩ = ⟨[], drawing.walk⟩ ∧
    (∃ paths, VisitsPaths drawing.children drawing.walk paths) ∧
    (drawing.depth ≤ room → drawing.IsNative → ∃ node, drawing.toNode room = .ok node ∧
      List.Forall₂ IsWrittenAs drawing.walk node.descendants) ∧
    (drawing.depth ≤ room → ¬ drawing.IsNative → ∃ shown, ShowsFirst drawing.walk shown ∧
      drawing.toNode room = .error (.unsupportedPrimitive shown)) ∧
    (room < drawing.depth → FailsIn drawing.walk (drawing.toNode room)) := by
  have hwalk : ∀ q ∈ walkStack drawing.children, q.IsPrintable :=
    fun q hq n hn => hprint n (.tail _ (.tail _ (List.mem_flatMap.2 ⟨q, hq, hn⟩)))
  obtain ⟨root, hnode⟩ := Drawing.toNode_eq_bind hprint room
  refine ⟨Traversal.iterate_turn drawing.children [], exists_paths drawing.children,
    fun hroom h => ?_, fun hroom h => ?_, fun hroom => ?_⟩
  · obtain ⟨node, hnode⟩ :=
      (Drawing.isWrittenIff_toNode hroom h).ok (Drawing.isPrintable_iff.2 hprint)
    exact ⟨node, hnode, Drawing.forall₂_descendants hnode⟩
  · obtain ⟨shown, hshows⟩ := exists_showsFirst hshown h
    refine ⟨shown, hshows, ?_⟩
    rw [hnode, toNodes_of_foreign hroom hwalk hshows]
    rfl
  · rw [hnode]
    exact FailsIn.bind (failsIn_toNodes hroom hwalk hshown) _

/-- A drawing of a style rule and of a link in a group, with some primitives behind them. -/
def nestedDrawing (rest : List Primitive) : Drawing where
  width := 1
  height := 1
  children := .style hoverStyle ::
    .group none [.link "#" [.rect ⟨0, 0, 1, 1, "white", "black"⟩, .label ⟨0, 0, "x", "sans-serif"⟩]]
      :: rest

section Nested

variable {rest : List Primitive}

/-- The walk of that drawing goes down into the group and the link before it goes on behind them. -/
theorem walk_nestedDrawing :
    (nestedDrawing rest).walk = .style hoverStyle ::
      .group none
        [.link "#" [.rect ⟨0, 0, 1, 1, "white", "black"⟩, .label ⟨0, 0, "x", "sans-serif"⟩]]
      :: .link "#" [.rect ⟨0, 0, 1, 1, "white", "black"⟩, .label ⟨0, 0, "x", "sans-serif"⟩]
      :: .rect ⟨0, 0, 1, 1, "white", "black"⟩ :: .label ⟨0, 0, "x", "sans-serif"⟩
      :: walkStack rest := by
  simp [nestedDrawing, Drawing.walk, walkStack_cons, walkStack_nil, children]

/-- The numbers of that drawing can be written, whatever stands behind its primitives without
numbers. -/
theorem isPrintable_nestedDrawing (h : ∀ p ∈ walkStack rest, p.numbers = []) :
    ∀ n ∈ (nestedDrawing rest).numbers, n.IsPrintable := by
  have hzero : (0 : Number).IsPrintable := by decide +kernel
  have hone : (1 : Number).IsPrintable := by decide +kernel
  have hrest : (walkStack rest).flatMap numbers = [] := List.flatMap_eq_nil_iff.2 h
  have hwidth : (nestedDrawing rest).width = 1 := rfl
  have hheight : (nestedDrawing rest).height = 1 := rfl
  simp [Drawing.numbers, walk_nestedDrawing, numbers, hrest, hwidth, hheight, hzero, hone]

end Nested

theorem Drawing.elements_correspond_nestedDrawing :
    (∃ node, (nestedDrawing []).toNode 3 = .ok node ∧ node.descendants.map Node.name? =
      [some "style", some "g", some "a", some "rect", some "text"]) ∧
    (nestedDrawing [.group none [.foreign (.text "a")], .foreign .nothing]).toNode 3 =
      .error (.unsupportedPrimitive "'a'") ∧
    FailsIn (nestedDrawing []).walk ((nestedDrawing []).toNode 2) := by
  have hnone : Showable (nestedDrawing []).walk := by
    simp [Showable, walk_nestedDrawing, walkStack_nil]
  have hplain : ∀ n ∈ (nestedDrawing []).numbers, n.IsPrintable :=
    isPrintable_nestedDrawing (by simp [walkStack_nil])
  refine ⟨?_, ?_, ?_⟩
  · obtain ⟨-, -, hnative, -⟩ := Drawing.elements_correspond (nestedDrawing []) 3 hplain hnone
    obtain ⟨node, hnode, helements⟩ := hnative (by decide)
      (by simp [Drawing.IsNative, walk_nestedDrawing, walkStack_nil, isForeign])
    refine ⟨node, hnode, ?_⟩
    have hnames : (nestedDrawing []).walk.map tag? = node.descendants.map Node.name? :=
      List.forall₂_eq_eq_eq ▸ List.forall₂_map_left_iff.2 (List.forall₂_map_right_iff.2
        (helements.imp fun _ _ h => h.tag.symm))
    rw [← hnames, walk_nestedDrawing, walkStack_nil]
    rfl
  · have hforeign : walkStack [.group none [.foreign (.text "a")], .foreign .nothing] =
        [.group none [.foreign (.text "a")], .foreign (.text "a"), .foreign .nothing] := by
      simp [walkStack_cons, walkStack_nil, Primitive.children]
    have htext : (Datum.text "a").shown = .ok "'a'" := by decide +kernel
    obtain ⟨-, -, -, hforeigns, -⟩ := Drawing.elements_correspond
      (nestedDrawing [.group none [.foreign (.text "a")], .foreign .nothing]) 3
      (isPrintable_nestedDrawing (by simp [hforeign, Primitive.numbers]))
      (by simp [Showable, walk_nestedDrawing, hforeign, Datum.shown])
    obtain ⟨shown, ⟨value, hfind, hvalue⟩, herror⟩ := hforeigns (by decide)
      (by simp [Drawing.IsNative, walk_nestedDrawing, hforeign, isForeign])
    rw [walk_nestedDrawing, hforeign] at hfind
    obtain rfl := Primitive.foreign.inj (Option.some.inj hfind)
    rw [herror, ← Except.ok.inj (htext.symm.trans hvalue)]
  · exact (Drawing.elements_correspond (nestedDrawing []) 2 hplain hnone).2.2.2.2 (by decide)

/-! ### A drawing that is too deep -/

/-- Groups inside each other, one more than a given number. -/
def nestedGroups : ℕ → Primitive
  | 0 => .group none []
  | n + 1 => .group none [nestedGroups n]

/-- A drawing of groups inside each other. -/
def deepDrawing (n : ℕ) : Drawing where
  width := 1
  height := 1
  children := [nestedGroups n]

/-- Each of the nested groups is a level. -/
theorem depth_nestedGroups (n : ℕ) : (nestedGroups n).depth = n + 1 := by
  induction n with
  | zero => rfl
  | succ n ih => simp [nestedGroups, depth, depths, ih]

/-- The walk of nested groups visits each of them. -/
theorem walkStack_nestedGroups (n : ℕ) :
    walkStack [nestedGroups n] = (List.range (n + 1)).reverse.map nestedGroups := by
  induction n with
  | zero => simp [nestedGroups, walkStack_cons, walkStack_nil, children]
  | succ n ih =>
      have hheld : (nestedGroups (n + 1)).children = [nestedGroups n] := rfl
      have hrange : List.range (n + 1 + 1) = List.range (n + 1) ++ [n + 1] := List.range_succ
      rw [walkStack_cons, hheld, walkStack_nil, List.append_nil, ih, hrange, List.reverse_concat,
        List.map_cons]

/-- Nested groups are no foreign values and have no numbers. -/
theorem isNative_deepDrawing (n : ℕ) :
    ∀ p ∈ (deepDrawing n).walk, p.isForeign = false ∧ p.numbers = [] := by
  rw [Drawing.walk, deepDrawing, walkStack_nestedGroups]
  intro p hp
  obtain ⟨k, -, rfl⟩ := List.mem_map.1 hp
  cases k with
  | zero => exact ⟨rfl, rfl⟩
  | succ k => exact ⟨rfl, rfl⟩

/-- Nested groups without room for all of them are walked, and they are too deep to be written. -/
theorem walked_not_written_deep {n room : ℕ} (hroom : room ≤ n) :
    (deepDrawing n).IsNative ∧ (∀ m ∈ (deepDrawing n).numbers, m.IsPrintable) ∧
      (deepDrawing n).walk.length = n + 1 ∧
      (deepDrawing n).toNode room = .error .nestedTooDeep := by
  have hplain := isNative_deepDrawing n
  have hnative : (deepDrawing n).IsNative := fun p hp => (hplain p hp).1
  have hnumbers : ∀ m ∈ (deepDrawing n).numbers, m.IsPrintable := by
    have hone : (1 : Number).IsPrintable := by decide +kernel
    have hnone : (deepDrawing n).walk.flatMap numbers = [] :=
      List.flatMap_eq_nil_iff.2 fun p hp => (hplain p hp).2
    rw [Drawing.numbers, hnone, deepDrawing]
    exact List.forall_mem_cons.2 ⟨hone, List.forall_mem_singleton.2 hone⟩
  have hdepths : room < depths (deepDrawing n).children := by
    rw [deepDrawing, depths, depth_nestedGroups]
    exact (Nat.lt_succ_of_le hroom).trans_le (Nat.le_max_left _ _)
  have hshown : Showable (deepDrawing n).walk :=
    fun value hvalue => absurd (hnative _ hvalue) (by simp [isForeign])
  have hwalk : ∀ q ∈ walkStack (deepDrawing n).children, q.IsPrintable := by
    intro q hq m hm
    rw [(hplain q hq).2] at hm
    exact absurd hm List.not_mem_nil
  obtain ⟨root, hnode⟩ := Drawing.toNode_eq_bind hnumbers room
  refine ⟨hnative, hnumbers, ?_, ?_⟩
  · rw [Drawing.walk, deepDrawing, walkStack_nestedGroups, List.length_map, List.length_reverse,
      List.length_range]
  · rcases failsIn_toNodes hdepths hwalk hshown with h | ⟨_, ⟨value, hfind, -⟩, -⟩
    · rw [hnode, h]
      rfl
    · exact absurd (hnative _ (List.mem_of_find?_eq_some hfind)) (by simp [isForeign])

theorem walked_not_written_deepDrawing :
    (deepDrawing 1199).IsNative ∧ (∀ m ∈ (deepDrawing 1199).numbers, m.IsPrintable) ∧
      (deepDrawing 1199).walk.length = 1200 ∧
      (deepDrawing 1199).toNode nestingLimit = .error .nestedTooDeep :=
  walked_not_written_deep (by decide)

end RackElevation
