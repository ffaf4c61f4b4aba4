import RackElevation.Binary64
import RackElevation.Markup.Charge

/-!
# The limit on expansions

A document that is made up of entities far more than of its own bytes is not read on.  The bytes of
the document so far and those that its entities stand for are compared after every stretch:

    direct  +  expanded   ≤   100 × direct

Small documents may expand as much as they want.  Both sides are rounded as numbers of 24 binary
digits, so a little more than 100 times is tolerated.
-/

namespace RackElevation.Markup

/-- The number nearest to a given one that has at most 24 binary digits before its zeros, the even
one of two. -/
def roundedCount (n : Nat) : Nat :=
  let step := Nat.pow 2 (n.log2 - 23)
  Binary64.halfEven n step * step

/-- The number of bytes from which on expansions are compared with the document. -/
def freeBytes : Nat := 8388608

/-- What an entity is charged for where it is used. -/
structure EntityCharges where
  content : List Charge := []
  value : List Charge := []

/-- The charges for an entity with a given text. -/
def EntityCharges.ofText (cs : List Char) : EntityCharges where
  content := (contentCharges? 1 (Sign.ofText cs)).getD []
  value := valueCharges (Sign.ofText cs)

/-- The bytes counted so far, the entities that are known, and how far a document type was read. -/
structure Account where
  /-- The bytes of the document itself. -/
  direct : Nat
  /-- The bytes that entities stand for. -/
  expanded : Nat := 0
  known : List (String × EntityCharges) := []
  /-- The declarations, inside the brackets of a document type. -/
  subset : Option Doctype.Subset := none
  /-- Whether a parameter entity was used. -/
  used : Bool := false
  /-- Whether the document declares that nothing outside matters. -/
  standalone : Bool := false

namespace Account

/-- Whether the document may go on. -/
def isTolerated (a : Account) : Bool :=
  let total := a.direct + a.expanded
  decide (total < freeBytes) ||
    decide (Nat.pow 2 18 * roundedCount total ≤
      (100 * Nat.pow 2 18 + 1) * roundedCount a.direct)

/-- A stretch of bytes counted, of the document itself or of an entity. -/
def pay (a : Account) (isDirect : Bool) (count : Nat) : Option Account :=
  let a := if isDirect then { a with direct := a.direct + count }
    else { a with expanded := a.expanded + count }
  if a.isTolerated then some a else none

/-- What is known of an entity. -/
def entity? (a : Account) (name : String) : Option EntityCharges :=
  (a.known.find? (·.1 == name)).map (·.2)

/-- An entity added, unless it has a definition. -/
def define (a : Account) (name : String) (charges : EntityCharges) : Account :=
  if (predefined? name).isSome || (a.entity? name).isSome then a
  else { a with known := a.known ++ [(name, charges)] }

/-- Whether declarations still count. -/
def counts (a : Account) : Bool :=
  !a.used || a.standalone

/-- One more declaration. -/
def declare (a : Account) (declared : Declared) : Account :=
  if !a.counts then a
  else
    match declared with
    | .entity name (.inside cs) =>
        match Definitions.entityText? .wide cs with
        | some text => a.define name (.ofText text)
        | none => a
    | .entity name .outside => a.define name {}
    | .parameterUse => { a with used := true }
    | _ => a

section Charges

variable (payAll : List Charge → Account → Option Account)

/-- What an entity stands for in a place, where charges can be paid by a given function.  The
character of an entity that is always defined counts without being compared. -/
def payEntity (place : EntityCharges → List Charge) (a : Account) (name : String) :
    Option Account :=
  if (predefined? name).isSome then some { a with expanded := a.expanded + 1 }
  else
    match a.entity? name with
    | some charges => payAll (place charges) a
    | none => some a

/-- What a reference stands for. -/
def payReference (a : Account) : Charge → Option Account
  | .content name => a.payEntity payAll (·.content) name
  | .value name => a.payEntity payAll (·.value) name
  | .bytes _ | .part _ => some a

/-- The references of a default value, whose own bytes count with its declaration. -/
def payDefault (a : Account) (cs : List Char) : Option Account :=
  (valueCharges (Sign.ofText cs)).foldlM (payReference payAll) a

/-- One more part of a document type. -/
def payPart (a : Account) (t : DoctypeToken) : Option Account :=
  match a.subset with
  | none => some (if t = .openBracket then { a with subset := some {} } else a)
  | some s => do
      let a ← match s.current, t with
        | some ("ATTLIST", _), .literal cs => if a.counts then a.payDefault payAll cs else some a
        | _, _ => some a
      match s.add t with
      | none => return { a with subset := none }
      | some s =>
          return { s.declared.foldl declare a with subset := some { s with declared := [] } }

/-- One more charge, of the document itself or of an entity. -/
def add (isDirect : Bool) (a : Account) : Charge → Option Account
  | .bytes count => a.pay isDirect count
  | .part t => a.payPart payAll t
  | charge => a.payReference payAll charge

end Charges

/-- The charges of an entity, with entities nested in it up to a given depth. -/
def payNested : Nat → List Charge → Account → Option Account
  | 0 => fun _ _ => none
  | depth + 1 => fun charges a => charges.foldlM (add (payNested depth) false) a

/-- The charges of an entity of a document.  Entities are nested at most as deep as there are
entities. -/
def payExpansion (charges : List Charge) (a : Account) : Option Account :=
  payNested a.known.length charges a

end Account

/-- Whether the limit lets a document pass whose characters are written in a given number of bytes
each, after some bytes before them. -/
def isWithinLimit (size : Char → Nat) (before : Nat) (standalone : Bool) (cs : List Char) : Bool :=
  match contentCharges? 0 (Sign.ofChars size cs) with
  | none => false
  | some charges =>
      (charges.foldlM (Account.add Account.payExpansion true)
        { direct := before, standalone }).isSome

end RackElevation.Markup
