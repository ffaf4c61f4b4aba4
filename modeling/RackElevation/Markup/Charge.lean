import RackElevation.Markup.Definitions

/-!
# What a document is charged for

While a document is read its bytes are counted, and so are those of the entities that take the place
of their references.  Bytes count in stretches, each of them at once: a run of text, a line end, a
tag, a reference, a part of a document type.  A reference counts as it is written, and then what its
entity stands for counts as well.

The value of an attribute belongs to its tag.  A value that does not stay as it is, since it holds a
reference or white space other than single spaces between words, counts a second time after the tag,
but not in the tag of an empty element.

Which letters names may hold makes no difference to what counts, so the alphabet with the most
letters is used.
-/

namespace RackElevation.Markup

/-- A character as it is read, with the number of bytes that it is written in. -/
structure Sign where
  char : Char
  size : Nat
  /-- Whether it is a line end that is written as a carriage return alone. -/
  isReturn : Bool := false
  deriving DecidableEq, Repr

namespace Sign

/-- The sign of a character by itself. -/
def ofChar (size : Char → Nat) (c : Char) : Sign where
  char := if c == '\r' then '\n' else c
  size := size c
  isReturn := c == '\r'

/-- One more character after some signs in reverse.  A line feed belongs to the carriage return
before it. -/
def add (size : Char → Nat) (read : List Sign) (c : Char) : List Sign :=
  match read with
  | s :: rest =>
      if c == '\n' && s.isReturn then { s with size := s.size + size c, isReturn := false } :: rest
      else ofChar size c :: s :: rest
  | [] => [ofChar size c]

/-- The signs of a document, where every character is written in a given number of bytes. -/
def ofChars (size : Char → Nat) (cs : List Char) : List Sign :=
  (cs.foldl (add size) []).reverse

/-- The signs of the text of an entity, which is kept in UTF-8. -/
def ofText (cs : List Char) : List Sign :=
  cs.map fun c => { char := c, size := c.utf8Size }

/-- The number of bytes of some signs. -/
def total (signs : List Sign) : Nat :=
  signs.foldr (fun s count => s.size + count) 0

end Sign

/-- What is charged for. -/
inductive Charge where
  /-- A stretch of bytes. -/
  | bytes (count : Nat)
  /-- What an entity stands for in the content of an element. -/
  | content (name : String)
  /-- What an entity stands for in the value of an attribute. -/
  | value (name : String)
  /-- A part of a document type, which may define an entity or hold references of its own. -/
  | part (token : DoctypeToken)
  deriving Repr

/-- Whether something is charged for what an entity stands for. -/
def Charge.isReference : Charge → Bool
  | .content _ | .value _ => true
  | .bytes _ | .part _ => false

/-- Charges so far in reverse, after which a run of bytes is still open. -/
structure Bill where
  charges : List Charge := []
  run : Nat := 0
  deriving Repr

namespace Bill

/-- The bill with its run closed. -/
def close (b : Bill) : Bill :=
  if b.run = 0 then b else { charges := .bytes b.run :: b.charges }

/-- More bytes of the run. -/
def extend (b : Bill) (count : Nat) : Bill :=
  { b with run := b.run + count }

/-- Charges after the run, in their order. -/
def charge (b : Bill) (charges : List Charge) : Bill :=
  { charges := charges.reverse ++ b.close.charges }

/-- All charges in their order. -/
def finish (b : Bill) : List Charge :=
  b.close.charges.reverse

end Bill

/-! ## Values -/

/-- The charges of a value that is being read, with the bytes and the body, in reverse, of a
reference that is open. -/
structure ValueBill where
  bill : Bill := {}
  reference : Option (Nat × List Char) := none

/-- The charges for a reference in a value.  A character that is given by its number stands for
nothing else. -/
def referenceCharges (count : Nat) (body : List Char) : List Charge :=
  if body.head? == some '#' then [.bytes count] else [.bytes count, .value (String.ofList body)]

/-- One more sign of a value. -/
def ValueBill.add (v : ValueBill) (s : Sign) : ValueBill :=
  match v.reference with
  | some (count, body) =>
      if s.char == ';' then
        { bill := v.bill.charge (referenceCharges (count + s.size) body.reverse) }
      else { v with reference := some (count + s.size, s.char :: body) }
  | none =>
      if s.char == '&' then { bill := v.bill.close, reference := some (s.size, []) }
      else if isSpace s.char then { bill := v.bill.charge [.bytes s.size] }
      else { bill := v.bill.extend s.size }

/-- The signs of a value that count: not a carriage return at its end. -/
def countedSigns (signs : List Sign) : List Sign :=
  if signs.getLast?.any (·.isReturn) then signs.dropLast else signs

/-- The charges for a value that is read by itself. -/
def valueCharges (signs : List Sign) : List Charge :=
  ((countedSigns signs).foldl ValueBill.add {}).bill.finish

/-- Whether a value stays as it is written. -/
def isNormalValue (cs : List Char) : Bool :=
  !cs.contains '&' && cs.all (fun c => !isSpace c || c == ' ') &&
    Definitions.singleSpaced cs.reverse == cs

/-! ## Content -/

/-- A stretch of a document with the tokens that it makes: one for a token, none for a comment or an
instruction. -/
structure Span where
  signs : List Sign
  tokens : List Token

/-- A document that is being cut into spans: where in a token the reader is, the signs of the open
span, and the spans so far, the latter two in reverse. -/
structure Spans where
  mode : Mode := .text 0
  read : List Sign := []
  done : List Span := []

/-- One more sign.  A span ends where the reader is back in text. -/
def Spans.add (s : Spans) (sign : Sign) : Option Spans := do
  let (mode, tokens) ← s.mode.step .wide sign.char
  let read := sign :: s.read
  match mode with
  | .text _ => return { mode, done := ⟨read.reverse, tokens⟩ :: s.done }
  | _ => return { mode, read, done := s.done }

/-- Signs cut into spans. -/
def spans? (signs : List Sign) : Option (List Span) := do
  let s ← signs.foldlM Spans.add {}
  match s.mode with
  | .text _ => return s.done.reverse
  | _ => none

/-- The values that are quoted in a tag: an open one with its quote and its signs in reverse, and
the values so far in reverse. -/
def addQuoted (s : Option (Char × List Sign) × List (List Sign)) (sign : Sign) :
    Option (Char × List Sign) × List (List Sign) :=
  match s.1 with
  | some (quote, read) =>
      if sign.char == quote then (none, read.reverse :: s.2)
      else (some (quote, sign :: read), s.2)
  | none =>
      if sign.char == '\x22' || sign.char == '\x27' then (some (sign.char, []), s.2) else s

/-- The charges for the start of an element. -/
def tagCharges (isEmpty : Bool) (signs : List Sign) : List Charge :=
  let values := (signs.foldl addQuoted (none, [])).2.reverse
  .bytes (Sign.total signs) :: values.flatMap fun value =>
    if isNormalValue (value.map (·.char)) then []
    else if isEmpty then (valueCharges value).filter Charge.isReference
    else valueCharges value

/-- One more sign of a section of plain text.  A run ends at a line end and before every closing
bracket. -/
def addPlain (b : Bill) (s : Sign) : Bill :=
  if s.char == '\n' then b.charge [.bytes s.size]
  else if s.char == ']' then b.close.extend s.size
  else b.extend s.size

/-- The charges for a section of plain text, with its marks at both ends. -/
def plainCharges (signs : List Sign) : List Charge :=
  let start := "<![CDATA[".length
  let inner := signs.length - start - "]]>".length
  .bytes (Sign.total (signs.take start)) ::
    (((signs.drop start).take inner).foldl addPlain {}).finish ++
      [.bytes (Sign.total (signs.drop (start + inner)))]

/-! ## Document types -/

/-- Whether a character of a document type goes on with the stretch before it, which ends with a
given character. -/
def joinsStretch (mode : DoctypeMode) (last c : Char) : Bool :=
  match mode with
  | .between => isSpace c && isSpace last
  | .afterLiteral => false
  | .word _ | .reserved _ | .keyword _ | .percent _ | .afterParen =>
      !(isSpace c || ['>', ')', ',', '|', '[', '%'].contains c)
  | _ => true

/-- A document type that is being charged for. -/
structure DoctypeBill where
  mode : DoctypeMode := .between
  last : Char
  bill : Bill

/-- One more sign of a document type, with the parts that have ended. -/
def DoctypeBill.add (b : DoctypeBill) (s : Sign) : Option DoctypeBill := do
  let (mode, parts) ← b.mode.step .wide s.char
  let parts := parts.map Charge.part
  let bill :=
    if joinsStretch b.mode b.last s.char then
      let bill := b.bill.extend s.size
      if parts.isEmpty then bill else bill.charge parts
    else (b.bill.charge parts).extend s.size
  return { mode, last := s.char, bill }

/-- The charges for a document type, which starts with its keyword. -/
def doctypeCharges (signs : List Sign) : List Charge :=
  let start := "<!DOCTYPE".length
  let opened : DoctypeBill := { last := 'E', bill := { run := Sign.total (signs.take start) } }
  match (signs.drop start).foldlM DoctypeBill.add opened with
  | some b => b.bill.finish
  | none => []

/-! ## Documents -/

/-- The charges for a span. -/
def Span.charges (span : Span) : List Charge :=
  match span.tokens with
  | [.entity name] => [.bytes (Sign.total span.signs), .content name]
  | [.startTag _ _ isEmpty] => tagCharges isEmpty span.signs
  | [.plain _] => plainCharges span.signs
  | [.doctype _] => doctypeCharges span.signs
  | _ => [.bytes (Sign.total span.signs)]

/-- The number of open elements after a span. -/
def Span.depth (span : Span) (depth : Nat) : Nat :=
  match span.tokens with
  | [.startTag _ _ false] => depth + 1
  | [.endTag _] => depth - 1
  | _ => depth

/-- The charges for content, and the number of open elements around what comes next. -/
structure ContentBill where
  bill : Bill := {}
  depth : Nat

/-- One more span.  Outside the root element line ends are part of a run of white space. -/
def ContentBill.add (b : ContentBill) (span : Span) : ContentBill :=
  let size := Sign.total span.signs
  match span.tokens with
  | [.char c] =>
      if c == '\n' && b.depth ≠ 0 then { b with bill := b.bill.charge [.bytes size] }
      else { b with bill := b.bill.extend size }
  | _ => { bill := b.bill.charge span.charges, depth := span.depth b.depth }

/-- The charges for content inside so many open elements, unless it cannot be read. -/
def contentCharges? (depth : Nat) (signs : List Sign) : Option (List Charge) := do
  return ((← spans? signs).foldl ContentBill.add { depth }).bill.finish

end RackElevation.Markup
