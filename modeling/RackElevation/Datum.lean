import RackElevation.Number.Text

/-!
# Plain data

The values that a trace records and that a drawing tree may hold by mistake: nothing, truth values,
numbers, texts, and lists, tuples and tables of such values.  `Datum.shown` writes a value with its
texts quoted; `Datum.inWords` writes a text as it is and every other value as it is shown.
-/

namespace RackElevation

open Text

/-- A plain value. -/
inductive Datum where
  | nothing
  | truth (value : Bool)
  | number (value : Number)
  | text (value : String)
  | list (items : List Datum)
  | tuple (items : List Datum)
  | table (entries : List (String × Datum))

namespace Datum

/-- Texts joined by a comma and a space. -/
def commaJoined : List String → String
  | [] => ""
  | [s] => s
  | s :: rest => s ++ ", " ++ commaJoined rest

/-- The closing of a tuple, with a comma when there is a single item. -/
def tupleClosing {α : Type} : List α → String
  | [_] => ",)"
  | _ => ")"

mutual

/-- The number of lists, tuples and tables inside each other in a value. -/
def depth : Datum → Nat
  | .list items => depthOfItems items + 1
  | .tuple items => depthOfItems items + 1
  | .table entries => depthOfEntries entries + 1
  | .nothing => 0
  | .truth _ => 0
  | .number _ => 0
  | .text _ => 0

/-- The same for the items of a value. -/
def depthOfItems : List Datum → Nat
  | [] => 0
  | d :: rest => max (depth d) (depthOfItems rest)

/-- The same for the entries of a table. -/
def depthOfEntries : List (String × Datum) → Nat
  | [] => 0
  | (_, d) :: rest => max (depth d) (depthOfEntries rest)

end

mutual

/-- A value as it is shown, its texts quoted. -/
def shown : Datum → Except Failure String
  | .nothing => .ok "None"
  | .truth b => .ok (if b then "True" else "False")
  | .number n => n.text
  | .text s => .ok (quoted s)
  | .list items => do return "[" ++ commaJoined (← shownItems items) ++ "]"
  | .tuple items => do return "(" ++ commaJoined (← shownItems items) ++ tupleClosing items
  | .table entries => do return "\x7b" ++ commaJoined (← shownEntries entries) ++ "\x7d"

/-- The items of a value as they are shown. -/
def shownItems : List Datum → Except Failure (List String)
  | [] => .ok []
  | d :: rest => do
      let s ← shown d
      return s :: (← shownItems rest)

/-- The entries of a table as they are shown. -/
def shownEntries : List (String × Datum) → Except Failure (List String)
  | [] => .ok []
  | (key, d) :: rest => do
      let s ← shown d
      return (quoted key ++ ": " ++ s) :: (← shownEntries rest)

end

/-- A value in words: a text as it is, any other value as it is shown. -/
def inWords : Datum → Except Failure String
  | .text s => .ok s
  | d => d.shown

end Datum

end RackElevation
