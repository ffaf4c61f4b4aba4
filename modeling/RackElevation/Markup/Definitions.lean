import RackElevation.Markup.Doctype
import RackElevation.Markup.Token

/-!
# Definitions

What the declarations of a document define: the texts of entities, and the rules for attributes.  Of
several definitions of one thing the first one counts.  Five entities are always defined, and no
declaration changes them.

Expanding an entity within itself is refused: the expansions of entities are nested at most as deep
as there are entities.
-/

namespace RackElevation.Markup

/-- The characters of the entities that are always defined. -/
def predefined? : String → Option Char
  | "lt" => some '<'
  | "gt" => some '>'
  | "amp" => some '&'
  | "apos" => some '\x27'
  | "quot" => some '\x22'
  | _ => none

/-- An entity. -/
inductive Entity where
  /-- A text: its tokens as content, and its pieces as a part of an attribute value.  A text that
  cannot be read so has none. -/
  | inside (content? : Option (List Token)) (value? : Option (List Piece))
  /-- Something outside the document. -/
  | outside
  deriving Repr

/-- The entity with a given text, in which a carriage return is no line end any more. -/
def Entity.ofText (cs : List Char) : Entity :=
  .inside (Token.ofChars? .common cs) (attributePieces? .common cs)

/-- Entities and attribute rules. -/
structure Definitions where
  entities : List (String × Entity) := []
  /-- Rules with the names of their elements. -/
  rules : List (String × AttributeRule) := []
  /-- Whether a part of the document type lies elsewhere. -/
  hasParts : Bool := false
  /-- Whether the document declares that nothing outside matters. -/
  standalone : Bool := false
  deriving Repr

namespace Definitions

/-- The entity of a given name. -/
def entity? (d : Definitions) (name : String) : Option Entity :=
  (d.entities.find? (·.1 == name)).map (·.2)

/-- The rules for the attributes of an element. -/
def rulesOf (d : Definitions) (element : String) : List AttributeRule :=
  (d.rules.filter (·.1 == element)).map (·.2)

/-- The rule for an attribute of an element. -/
def rule? (d : Definitions) (element attributeName : String) : Option AttributeRule :=
  (d.rulesOf element).find? (·.name == attributeName)

/-- Whether an entity may be missing: it may be defined in a part that is not read. -/
def mayLack (d : Definitions) : Bool :=
  d.hasParts && !d.standalone

/-- The depth to which expansions of entities may be nested. -/
def depth (d : Definitions) : Nat :=
  d.entities.length + 1

/-- One more piece of a value that is given in reverse, where a part of a value can be added by a
given function. -/
def addPiece (d : Definitions) (add : List Piece → List Char → Option (List Char))
    (read : List Char) : Piece → Option (List Char)
  | .char c => some ((if isSpace c then ' ' else c) :: read)
  | .numbered c => some (c :: read)
  | .entity name =>
      match predefined? name with
      | some c => some (c :: read)
      | none =>
          match d.entity? name with
          | none => if d.mayLack then some read else none
          | some .outside => none
          | some (.inside _ value?) => do add (← value?) read

/-- The pieces of a value added to it in reverse, with expansions nested up to a given depth. -/
def addPieces (d : Definitions) : Nat → List Piece → List Char → Option (List Char)
  | 0 => fun _ _ => none
  | depth + 1 => fun pieces read => pieces.foldlM (d.addPiece (d.addPieces depth)) read

/-- A reversed value without spaces at its ends, and with single spaces between its words. -/
def singleSpaced (read : List Char) : List Char :=
  dropLeading (read.foldl (fun kept c =>
    if c == ' ' && (kept.isEmpty || kept.head? == some ' ') then kept else c :: kept) [])
where
  /-- A text without a space at its start. -/
  dropLeading : List Char → List Char
    | ' ' :: rest => rest
    | cs => cs

/-- The characters of an attribute value. -/
def value? (d : Definitions) (isText : Bool) (pieces : List Piece) : Option (List Char) := do
  let read ← d.addPieces d.depth pieces []
  return if isText then read.reverse else singleSpaced read

/-- The text of an entity as it is declared: characters given by their numbers are put in, and
references to entities are kept.  A percent sign is refused. -/
def entityText? (alphabet : Alphabet) (cs : List Char) : Option (List Char) := do
  let pieces ← pieces? alphabet cs
  if pieces.contains (.char '%') then none
  else return pieces.flatMap fun
    | .char c | .numbered c => [c]
    | .entity name => '&' :: (name.toList ++ [';'])

/-- A rule of an element added, with its value expanded; a rule for an attribute that has one is
dropped. -/
def addRule (alphabet : Alphabet) (element : String) (d : Definitions) (rule : AttributeRule) :
    Option Definitions := do
  let default? ← match rule.default? with
    | none => pure none
    | some cs => (d.value? rule.isText (← attributePieces? alphabet cs)).map some
  if (d.rule? element rule.name).isSome then return d
  else return { d with rules := d.rules ++ [(element, { rule with default? })] }

/-- An entity added, unless it has a definition. -/
def addEntity (d : Definitions) (name : String) (entity : Entity) : Definitions :=
  if (predefined? name).isSome || (d.entity? name).isSome then d
  else { d with entities := d.entities ++ [(name, entity)] }

/-- Whether declarations still count: not after the use of a parameter entity, whose text is not
read, unless nothing outside matters. -/
def counts (d : Definitions) (used : Bool) : Bool :=
  !used || d.standalone

/-- What is known while declarations are read: the definitions, and whether a parameter entity was
used. -/
structure Progress where
  definitions : Definitions
  used : Bool := false

/-- One more declaration. -/
def declare (alphabet : Alphabet) (s : Progress) (declared : Declared) : Option Progress :=
  if !s.definitions.counts s.used then some s
  else
    match declared with
    | .entity name (.inside cs) => do
        let text ← entityText? alphabet cs
        return { s with definitions := s.definitions.addEntity name (.ofText text) }
    | .entity name .outside =>
        some { s with definitions := s.definitions.addEntity name .outside }
    | .parameterEntity (.inside cs) => do
        let _ ← entityText? alphabet cs
        return s
    | .parameterEntity .outside | .other => some s
    | .parameterUse =>
        some { s with definitions := { s.definitions with hasParts := true }, used := true }
    | .attributeRules element rules => do
        return { s with definitions := ← rules.foldlM (addRule alphabet element) s.definitions }

/-- The definitions that a document type makes. -/
def ofDoctype (alphabet : Alphabet) (d : Definitions) (doctype : Doctype) : Option Definitions := do
  let start : Progress := { definitions := { d with hasParts := doctype.hasExternal } }
  return (← doctype.declared.foldlM (declare alphabet) start).definitions

end Definitions

end RackElevation.Markup
