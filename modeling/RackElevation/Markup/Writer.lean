import RackElevation.Markup.Node

/-!
# Writing element trees

A tree is written with its attributes in order, every value between double quotes.  In text the
ampersand and the angle brackets are escaped; in attribute values also the double quote, and the
carriage return, line feed and tab by their numbers.  An element without children has no end tag.
-/

namespace RackElevation.Markup

/-- One character of text. -/
def escapeTextChar : Char → List Char
  | '&' => "&amp;".toList
  | '<' => "&lt;".toList
  | '>' => "&gt;".toList
  | c => [c]

/-- One character of an attribute value. -/
def escapeValueChar : Char → List Char
  | '\x22' => "&quot;".toList
  | '\r' => "&#13;".toList
  | '\n' => "&#10;".toList
  | '\t' => "&#09;".toList
  | c => escapeTextChar c

/-- Text with its escapes. -/
def escapeText (cs : List Char) : List Char :=
  cs.flatMap escapeTextChar

/-- An attribute value with its escapes. -/
def escapeValue (cs : List Char) : List Char :=
  cs.flatMap escapeValueChar

/-- An attribute with the space before it. -/
def writtenAttribute (entry : String × String) : List Char :=
  ' ' :: (entry.1.toList ++ '=' :: '\x22' :: (escapeValue entry.2.toList ++ ['\x22']))

namespace Node

mutual

/-- The characters of a written tree. -/
def writtenChars : Node String → List Char
  | .text content => escapeText content.toList
  | .element name attributes children =>
      '<' :: (name.toList ++ attributes.flatMap writtenAttribute ++
        match children with
        | [] => " />".toList
        | child :: rest =>
            '>' :: (writtenChars child ++ writtenRow rest ++
              ('<' :: '/' :: (name.toList ++ ['>']))))

/-- The characters of a written row of trees. -/
def writtenRow : List (Node String) → List Char
  | [] => []
  | node :: rest => writtenChars node ++ writtenRow rest

end

/-- A tree as text. -/
def written (node : Node String) : String :=
  String.ofList node.writtenChars

end Node

end RackElevation.Markup
