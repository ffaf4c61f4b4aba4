import RackElevation.Markup.Node
import RackElevation.Markup.Space

/-!
# Namespaces

An attribute named `xmlns`, or with that word before its colon, binds a namespace for its element
and everything inside.  The names of elements and of attributes with a colon are then expanded.
-/

namespace RackElevation.Markup

/-- The parts of a qualified name before and after its colon; without a colon the first is empty. -/
def splitName (name : String) : String × String :=
  let cs := name.toList
  match cs.dropWhile (· != ':') with
  | [] => ("", name)
  | _ :: localPart => (String.ofList (cs.takeWhile (· != ':')), String.ofList localPart)

/-- Namespaces with the words that stand for them, the innermost binding first.  The empty word
stands for the namespace of elements whose names have no colon. -/
abbrev Scope := List (String × String)

/-- The word that an attribute of a given name binds. -/
def boundWord? (name : String) : Option String :=
  if name == "xmlns" then some ""
  else if (splitName name).1 == "xmlns" then some (splitName name).2
  else none

namespace Scope

/-- The scope of a document. -/
def outermost : Scope := [("xml", xmlSpace)]

/-- The namespace of a word. -/
def space? (scope : Scope) (word : String) : Option String :=
  (scope.find? (·.1 == word)).map (·.2)

/-- Whether a word may be bound to a namespace.  Only the empty word can be unbound, the two
reserved namespaces belong to their words, and a closing brace is no part of a namespace. -/
def mayBind (word space : String) : Bool :=
  (word == "" || space != "") && word != "xmlns" && space != bindingSpace &&
    (word == "xml") == (space == xmlSpace) && !space.toList.contains '\x7d'

/-- The scope with one more binding. -/
def bind? (scope : Scope) (word space : String) : Option Scope :=
  if mayBind word space then some ((word, space) :: scope) else none

/-- The scope with the bindings among some attributes. -/
def bindAll? (scope : Scope) (attributes : List (String × String)) : Option Scope :=
  attributes.foldlM (fun scope entry =>
    match boundWord? entry.1 with
    | none => some scope
    | some word => scope.bind? word entry.2) scope

/-- The expanded name of an element. -/
def elementName? (scope : Scope) (name : String) : Option ExpandedName :=
  match splitName name with
  | ("", localPart) => some ⟨(scope.space? "").getD "", localPart⟩
  | (word, localPart) => (scope.space? word).map (⟨·, localPart⟩)

/-- The expanded name of an attribute; one without a colon is in no namespace. -/
def attributeName? (scope : Scope) (name : String) : Option ExpandedName :=
  match splitName name with
  | ("", localPart) => some (.plain localPart)
  | (word, localPart) => (scope.space? word).map (⟨·, localPart⟩)

/-- Attributes with expanded names, those that bind namespaces left out.  Two attributes of one name
are refused. -/
def attributes? (scope : Scope) (attributes : List (String × String)) :
    Option (List (ExpandedName × String)) := do
  let own := attributes.filter fun entry => (boundWord? entry.1).isNone
  let expanded ← own.mapM fun entry => do return (← scope.attributeName? entry.1, entry.2)
  if (expanded.map (·.1)).Nodup then some expanded else none

end Scope

end RackElevation.Markup
