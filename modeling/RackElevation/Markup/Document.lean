import RackElevation.Markup.Definitions
import RackElevation.Markup.Scope

/-!
# Documents

The tokens of a document put together into its tree.  Before the root element there may be one
document type, and around it only white space.  Every element ends in the entity in which it starts.
-/

namespace RackElevation.Markup

/-- An element whose end has not been read.  Its children and its pending text are reversed. -/
structure OpenElement where
  /-- The name as it is written. -/
  tag : String
  name : ExpandedName
  attributes : List (ExpandedName × String)
  scope : Scope
  children : List (Node ExpandedName) := []
  text : List Char := []

namespace OpenElement

/-- The children so far in reverse, the pending text among them. -/
def allChildren (e : OpenElement) : List (Node ExpandedName) :=
  if e.text.isEmpty then e.children
  else .text (String.ofList e.text.reverse) :: e.children

/-- The finished element. -/
def node (e : OpenElement) : Node ExpandedName :=
  .element e.name e.attributes e.allChildren.reverse

/-- The element with one more child. -/
def addChild (e : OpenElement) (child : Node ExpandedName) : OpenElement :=
  { e with children := child :: e.allChildren, text := [] }

/-- The element with more text, which is given in reverse. -/
def addText (e : OpenElement) (reversed : List Char) : OpenElement :=
  { e with text := reversed ++ e.text }

end OpenElement

/-- The part of a document read so far. -/
structure Reader where
  definitions : Definitions
  /-- Whether a document type was read. -/
  hasDoctype : Bool := false
  root : Option (Node ExpandedName) := none
  /-- The open elements, the innermost first. -/
  parents : List OpenElement := []
  /-- The number of open elements that the text at hand must leave open. -/
  floor : Nat := 0

namespace Reader

/-- Text inside an element, given in reverse. -/
def addText (r : Reader) (reversed : List Char) : Option Reader :=
  match r.parents with
  | [] => none
  | e :: outer => some { r with parents := e.addText reversed :: outer }

/-- A character of text.  Outside the root element there is only white space. -/
def addChar (r : Reader) (c : Char) : Option Reader :=
  match r.parents with
  | [] => if isSpace c then some r else none
  | _ => r.addText [c]

/-- A finished element. -/
def addNode (r : Reader) (node : Node ExpandedName) : Option Reader :=
  match r.parents with
  | [] => if r.root.isNone then some { r with root := some node } else none
  | e :: outer => some { r with parents := e.addChild node :: outer }

/-- The scope around the next element. -/
def scope (r : Reader) : Scope :=
  match r.parents with
  | [] => .outermost
  | e :: _ => e.scope

/-- The value of an attribute given in a tag, with its name. -/
def givenAttribute? (d : Definitions) (tag : String) (entry : String × List Piece) :
    Option (String × String) := do
  let isText := ((d.rule? tag entry.1).map (·.isText)).getD true
  return (entry.1, String.ofList (← d.value? isText entry.2))

/-- The attributes of an element that have a default value and are not given. -/
def defaultAttributes (d : Definitions) (tag : String) (given : List String) :
    List (String × String) :=
  (d.rulesOf tag).filterMap fun rule =>
    if given.contains rule.name then none
    else rule.default?.map fun value => (rule.name, String.ofList value)

/-- The element that a start tag opens. -/
def opened? (r : Reader) (tag : String) (given : List (String × List Piece)) :
    Option OpenElement := do
  let names := given.map (·.1)
  if !decide names.Nodup then none
  else do
    let values ← given.mapM (givenAttribute? r.definitions tag)
    let all := values ++ defaultAttributes r.definitions tag names
    let scope ← r.scope.bindAll? all
    let name ← scope.elementName? tag
    let attributes ← scope.attributes? all
    return { tag, name, attributes, scope }

/-- The start of an element. -/
def startTag (r : Reader) (tag : String) (given : List (String × List Piece)) (isEmpty : Bool) :
    Option Reader := do
  if r.parents.isEmpty && r.root.isSome then none
  else do
    let e ← r.opened? tag given
    if isEmpty then r.addNode e.node else some { r with parents := e :: r.parents }

/-- Whether the text at hand may end an element inside the given ones. -/
def mayEnd (r : Reader) (outer : List OpenElement) : Bool :=
  r.floor == 0 || r.floor ≤ outer.length

/-- The end of an element. -/
def endTag (r : Reader) (tag : String) : Option Reader :=
  match r.parents with
  | [] => none
  | e :: outer =>
      if e.tag == tag && r.mayEnd outer then
        Reader.addNode { r with parents := outer } e.node
      else none

/-- A document type, which comes once and before the root element. -/
def doctype (alphabet : Alphabet) (r : Reader) (parts : List DoctypeToken) : Option Reader :=
  if r.hasDoctype || r.root.isSome || !r.parents.isEmpty then none
  else do
    let definitions ← r.definitions.ofDoctype alphabet (← Doctype.ofTokens? parts)
    return { r with definitions, hasDoctype := true }

/-- The tokens of an entity inside an element, read by a given function.  They leave open what was
open before them, and open nothing more. -/
def within (r : Reader) (addAll : List Token → Reader → Option Reader) (tokens : List Token) :
    Option Reader := do
  let inner ← addAll tokens { r with floor := r.parents.length }
  if inner.parents.length == r.parents.length then some { inner with floor := r.floor } else none

/-- A reference inside an element, where the tokens of an entity can be read by a given function. -/
def entity (r : Reader) (addAll : List Token → Reader → Option Reader) (name : String) :
    Option Reader :=
  match predefined? name, r.definitions.entity? name with
  | some c, _ => r.addText [c]
  | none, some (.inside (some tokens) _) =>
      if r.parents.isEmpty then none else r.within addAll tokens
  | none, _ => none

/-- One more token, where the tokens of an entity can be read by a given function. -/
def add (alphabet : Alphabet) (addAll : List Token → Reader → Option Reader) (r : Reader) :
    Token → Option Reader
  | .char c => r.addChar c
  | .numbered c => r.addText [c]
  | .plain content => r.addText content.reverse
  | .entity name => r.entity addAll name
  | .startTag name attributes isEmpty => r.startTag name attributes isEmpty
  | .endTag name => r.endTag name
  | .doctype parts => r.doctype alphabet parts

/-- The tokens of an entity, with entities nested in it up to a given depth. -/
def addNested (alphabet : Alphabet) : Nat → List Token → Reader → Option Reader
  | 0 => fun _ _ => none
  | depth + 1 => fun tokens r => tokens.foldlM (add alphabet (addNested alphabet depth)) r

/-- The tokens of an entity of a document.  Entities are nested at most as deep as there are
entities. -/
def addEntity (alphabet : Alphabet) (tokens : List Token) (r : Reader) : Option Reader :=
  addNested alphabet r.definitions.entities.length tokens r

end Reader

/-- The root element of a document with given tokens. -/
def rootOf? (alphabet : Alphabet) (definitions : Definitions) (tokens : List Token) :
    Option (Node ExpandedName) := do
  let r ← tokens.foldlM (Reader.add alphabet (Reader.addEntity alphabet)) { definitions }
  if r.parents.isEmpty then r.root else none

end RackElevation.Markup
