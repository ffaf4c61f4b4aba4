import RackElevation.Note
import RackElevation.Rack
import RackElevation.Text.Blank
import RackElevation.Markup.Source

/-!
# Reading rack sets

A rack set is read from a tree of three levels: every element inside the root is a rack, and every
element inside a rack is a slot.  A slot named `gap`, in any namespace, leaves a gap; any other slot
is a device of the kind that its name gives, labelled with all the text inside it.

    <racks>
      <rack name="A" height="42"><server at="1" height="2">db</server><gap height="3"/></rack>
    </racks>

Attributes have names without namespaces, except that the target of a link may also be given in the
namespace of links.  Names and texts of any other element, and text between slots, do not matter.
-/

namespace RackElevation

open Markup

/-- The value of an attribute without a namespace. -/
def plainAttribute? (node : Node ExpandedName) (name : String) : Option String :=
  node.attribute? (.plain name)

/-- The local name of an element. -/
def localName : Node ExpandedName → String
  | .element name _ _ => name.localPart
  | .text _ => ""

/-- The slot of an element. -/
def Slot.ofTree (node : Node ExpandedName) : Slot :=
  let position := plainAttribute? node "at"
  let height := plainAttribute? node "height"
  if localName node = "gap" then .gap { position, height }
  else .device {
    kind := localName node
    position, height
    color := plainAttribute? node "color"
    href := (plainAttribute? node "href").or (node.attribute? ⟨linkSpace, "href"⟩)
    label := Text.trimString node.textContent }

/-- The rack of an element. -/
def Rack.ofTree (node : Node ExpandedName) : Rack where
  name := plainAttribute? node "name"
  height := plainAttribute? node "height"
  slots := node.childElements.map Slot.ofTree

/-- The rack set of a root element. -/
def RackSet.ofTree (root : Node ExpandedName) : RackSet :=
  ⟨root.childElements.map Rack.ofTree⟩

/-- The rack set of a source. -/
def RackSet.read (source : Source) : Except Failure RackSet :=
  (readTree source).map RackSet.ofTree

/-- What is noted when a source was read. -/
def RackSet.readNotes : Except Failure RackSet → List Note
  | .ok set => [.parsed set.racks.length]
  | .error .malformedMarkup => [.parseFailed]
  | .error _ => []

/-- The rack set of a source, with the notes made on the way. -/
def RackSet.readReport (source : Source) : Report RackSet :=
  ⟨readNotes (read source), read source⟩

end RackElevation
