import RackElevation.Markup.Piece
import RackElevation.Markup.Doctype.Token

/-!
# Document types

The declarations of a document type.  Entities and attribute rules have a meaning for reading; for
element models and notations it is only checked that they are well formed.

    doctype     =  name [external] [ '[' declarations ']' ]
    external    =  SYSTEM literal  |  PUBLIC literal literal
-/

namespace RackElevation.Markup

/-- What is declared about an attribute of an element. -/
structure AttributeRule where
  name : String
  /-- Whether the value is text, whose white space is kept. -/
  isText : Bool
  /-- The value of an attribute that is not given, as it is written. -/
  default? : Option (List Char)
  deriving Repr

/-- What an entity stands for. -/
inductive EntityText where
  /-- A text as it is written in the declaration. -/
  | inside (content : List Char)
  /-- Something outside the document. -/
  | outside
  deriving Repr

/-- What a declaration says. -/
inductive Declared where
  /-- An entity for the text of elements and attributes. -/
  | entity (name : String) (text : EntityText)
  /-- An entity for the document type itself. -/
  | parameterEntity (text : EntityText)
  /-- The use of such an entity. -/
  | parameterUse
  /-- Rules for the attributes of an element. -/
  | attributeRules (element : String) (rules : List AttributeRule)
  /-- A declaration without meaning for reading. -/
  | other
  deriving Repr

/-- A document type: whether it has a part outside the document, and its declarations. -/
structure Doctype where
  hasExternal : Bool
  declared : List Declared
  deriving Repr

namespace Doctype

/-- Whether a character may stand in a public identifier. -/
def isPublicChar (c : Char) : Bool :=
  c.isAlphanum || c == ' ' || c == '\n' || c == '\r' ||
    "-\x27()+,./:=?;!*#@$_%".toList.contains c

/-- An identifier of something outside the document. -/
def isExternal : List DoctypeToken → Bool
  | [.name "SYSTEM", .literal _] => true
  | [.name "PUBLIC", .literal id, .literal _] => id.all isPublicChar
  | _ => false

/-- An identifier of something outside the document, with the notation it is written in. -/
def isUnparsed (tokens : List DoctypeToken) : Bool :=
  match tokens.reverse with
  | .name _ :: .name "NDATA" :: external => isExternal external.reverse
  | _ => false

/-- What the parts of an entity declaration say. -/
def entity? : List DoctypeToken → Option Declared
  | .percent :: .name _ :: [.literal content] => some (.parameterEntity (.inside content))
  | .percent :: .name _ :: tokens =>
      if isExternal tokens then some (.parameterEntity .outside) else none
  | .name name :: [.literal content] => some (.entity name (.inside content))
  | .name name :: tokens =>
      if isExternal tokens || isUnparsed tokens then some (.entity name .outside) else none
  | _ => none

/-- Whether the parts of a notation declaration are well formed. -/
def isNotation : List DoctypeToken → Bool
  | [.name _, .name "PUBLIC", .literal id] => id.all isPublicChar
  | .name _ :: tokens => isExternal tokens
  | _ => false

/-! ## Attribute rules -/

/-- Where in the rules of an element the reader is. -/
inductive RuleMode where
  | between
  | named (name : String)
  /-- Inside a list of words, before a word or after one. -/
  | words (name : String) (after : Bool)
  /-- After the keyword for notations. -/
  | notations (name : String)
  /-- Inside a list of notations, before a name or after one. -/
  | notationNames (name : String) (after : Bool)
  | typed (name : String) (isText : Bool)
  | fixed (name : String) (isText : Bool)
  deriving Repr

/-- The types of attributes that are not text. -/
def wordTypes : List String :=
  ["ID", "IDREF", "IDREFS", "ENTITY", "ENTITIES", "NMTOKEN", "NMTOKENS"]

/-- One more part of the rules of an element, with the rules so far in reverse. -/
def stepRule (s : RuleMode × List AttributeRule) (t : DoctypeToken) :
    Option (RuleMode × List AttributeRule) :=
  match s.1, t with
  | .between, .name name | .between, .qualified name => some (.named name, s.2)
  | .named name, .name "CDATA" => some (.typed name true, s.2)
  | .named name, .name "NOTATION" => some (.notations name, s.2)
  | .named name, .name type =>
      if wordTypes.contains type then some (.typed name false, s.2) else none
  | .named name, .openParen => some (.words name false, s.2)
  | .words name false, .name _ | .words name false, .qualified _ | .words name false, .word _ =>
      some (.words name true, s.2)
  | .words name true, .bar => some (.words name false, s.2)
  | .words name true, .closeParen none => some (.typed name false, s.2)
  | .notations name, .openParen => some (.notationNames name false, s.2)
  | .notationNames name false, .name _ => some (.notationNames name true, s.2)
  | .notationNames name true, .bar => some (.notationNames name false, s.2)
  | .notationNames name true, .closeParen none => some (.typed name false, s.2)
  | .typed name isText, .reserved "IMPLIED" | .typed name isText, .reserved "REQUIRED" =>
      some (.between, ⟨name, isText, none⟩ :: s.2)
  | .typed name isText, .reserved "FIXED" => some (.fixed name isText, s.2)
  | .typed name isText, .literal value | .fixed name isText, .literal value =>
      some (.between, ⟨name, isText, some value⟩ :: s.2)
  | _, _ => none

/-- The rules that some parts make. -/
def rules? (tokens : List DoctypeToken) : Option (List AttributeRule) := do
  match ← tokens.foldlM stepRule (.between, []) with
  | (.between, rules) => return rules.reverse
  | _ => none

/-! ## Element models -/

/-- What separates the members of a group. -/
inductive Separator where
  | sequence
  | choice
  deriving DecidableEq, Repr

/-- Where in an element model the reader is.  Every open group has the separator it uses, once one
has been read. -/
inductive ModelMode where
  | start
  | opened
  /-- In a model with text: after the word for text, before a name, after a name. -/
  | afterText
  | beforeName
  | afterName
  | before (groups : List (Option Separator))
  | after (groups : List (Option Separator))
  | complete
  deriving DecidableEq, Repr

/-- A separator after a member of the innermost group, which must use no other one. -/
def separate (separator : Separator) : List (Option Separator) → Option ModelMode
  | [] => none
  | group :: groups =>
      if group.all (· = separator) then some (.before (some separator :: groups)) else none

/-- One more part of an element model. -/
def stepModel (mode : ModelMode) (t : DoctypeToken) : Option ModelMode :=
  match mode, t with
  | .start, .name "EMPTY" | .start, .name "ANY" => some .complete
  | .start, .openParen => some .opened
  | .opened, .reserved "PCDATA" => some .afterText
  | .opened, .openParen => some (.before [none, none])
  | .opened, .name _ | .opened, .qualified _ | .opened, .repeated _ => some (.after [none])
  | .afterText, .closeParen none | .afterText, .closeParen (some '*') => some .complete
  | .afterText, .bar | .afterName, .bar => some .beforeName
  | .beforeName, .name _ | .beforeName, .qualified _ => some .afterName
  | .afterName, .closeParen (some '*') => some .complete
  | .before groups, .openParen => some (.before (none :: groups))
  | .before groups, .name _ | .before groups, .qualified _ | .before groups, .repeated _ =>
      some (.after groups)
  | .after groups, .comma => separate .sequence groups
  | .after groups, .bar => separate .choice groups
  | .after [_], .closeParen _ => some .complete
  | .after (_ :: groups), .closeParen _ => some (.after groups)
  | _, _ => none

/-- Whether some parts are an element model. -/
def isModel (tokens : List DoctypeToken) : Bool :=
  tokens.foldlM stepModel .start == some .complete

/-! ## Declarations -/

/-- What a declaration says, from its keyword and its parts. -/
def declared? (keyword : String) (tokens : List DoctypeToken) : Option Declared :=
  match keyword, tokens with
  | "ENTITY", tokens => entity? tokens
  | "ATTLIST", .name element :: tokens | "ATTLIST", .qualified element :: tokens =>
      (rules? tokens).map (.attributeRules element)
  | "ELEMENT", .name _ :: tokens | "ELEMENT", .qualified _ :: tokens =>
      if isModel tokens then some .other else none
  | "NOTATION", tokens => if isNotation tokens then some .other else none
  | _, _ => none

/-- The declarations read so far, in reverse, and an open declaration with its parts in reverse. -/
structure Subset where
  declared : List Declared := []
  current : Option (String × List DoctypeToken) := none

/-- One more part between the brackets of a document type. -/
def Subset.add (s : Subset) (t : DoctypeToken) : Option Subset :=
  match s.current, t with
  | none, .remark => some s
  | none, .parameter _ => some { s with declared := .parameterUse :: s.declared }
  | none, .declaration keyword => some { s with current := some (keyword, []) }
  | none, _ => none
  | some (keyword, tokens), .stop => do
      return { declared := (← declared? keyword tokens.reverse) :: s.declared }
  | some (keyword, tokens), t => some { s with current := some (keyword, t :: tokens) }

/-- The declarations between the brackets of a document type. -/
def subset? (tokens : List DoctypeToken) : Option (List Declared) := do
  let s ← tokens.foldlM Subset.add {}
  if s.current.isSome then none else some s.declared.reverse

/-- The document type that some parts make. -/
def ofTokens? (tokens : List DoctypeToken) : Option Doctype := do
  let declared ← match (tokens.dropWhile (· != .openBracket)).drop 1 with
    | [] => if tokens.contains .openBracket then none else some []
    | inner =>
        if inner.getLast? == some .closeBracket then subset? inner.dropLast else none
  match tokens.takeWhile (· != .openBracket) with
  | [.name _] | [.qualified _] => return ⟨false, declared⟩
  | .name _ :: external | .qualified _ :: external =>
      if isExternal external then some ⟨true, declared⟩ else none
  | _ => none

end Doctype

end RackElevation.Markup
