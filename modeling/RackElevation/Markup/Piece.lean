import RackElevation.Text.Digit
import RackElevation.Markup.Name

/-!
# Values with references

An attribute value and the text of an entity are characters with references between them.  A
reference gives a character by its number or stands for the text of an entity:

    &#65;   &#x41;   &amp;
-/

namespace RackElevation.Markup

/-- A part of a value. -/
inductive Piece where
  /-- A character as it is written. -/
  | char (c : Char)
  /-- A character that is given by its number. -/
  | numbered (c : Char)
  /-- The text of an entity. -/
  | entity (name : String)
  deriving DecidableEq, Repr

/-- The number of some digits, of which there is at least one. -/
def number? (base : Nat) (digits : List Char) : Option Nat :=
  if digits.isEmpty then none
  else digits.foldlM (fun n c => do
    let d ← digit? c
    if d < base then some (base * n + d) else none) 0
where
  /-- The value of a digit or of a letter up to F. -/
  digit? (c : Char) : Option Nat :=
    if c.isDigit then some (c.toNat - '0'.toNat)
    else if 'a' ≤ c && c ≤ 'f' then some (c.toNat - 'a'.toNat + 10)
    else if 'A' ≤ c && c ≤ 'F' then some (c.toNat - 'A'.toNat + 10)
    else none

/-- What a reference with a given body stands for. -/
def referenced? (alphabet : Alphabet) : List Char → Option Piece
  | '#' :: 'x' :: digits => ((number? 16 digits).bind charOfNumber?).map .numbered
  | '#' :: digits => ((number? 10 digits).bind charOfNumber?).map .numbered
  | name => if alphabet.isName name then some (.entity (String.ofList name)) else none

/-- A value that is being cut: the parts so far in reverse, and the body of an open reference in
reverse. -/
structure Cutting where
  pieces : List Piece := []
  reference : Option (List Char) := none

/-- One more character of a value. -/
def Cutting.add (alphabet : Alphabet) (value : Cutting) (c : Char) : Option Cutting :=
  match value.reference with
  | none =>
      some (if c == '&' then { value with reference := some [] }
        else { value with pieces := .char c :: value.pieces })
  | some body =>
      if c == ';' then do
        return { pieces := (← referenced? alphabet body.reverse) :: value.pieces }
      else some { value with reference := some (c :: body) }

/-- A value cut into its parts. -/
def pieces? (alphabet : Alphabet) (cs : List Char) : Option (List Piece) := do
  let value ← cs.foldlM (Cutting.add alphabet) {}
  if value.reference.isSome then none else some value.pieces.reverse

/-- An attribute value cut into its parts; it must not hold an opening angle bracket. -/
def attributePieces? (alphabet : Alphabet) (cs : List Char) : Option (List Piece) :=
  if cs.contains '<' then none else pieces? alphabet cs

end RackElevation.Markup
