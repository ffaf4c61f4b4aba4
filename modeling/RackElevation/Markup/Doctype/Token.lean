import RackElevation.Markup.Name

/-!
# The parts of a document type

A document type is read into words, literals and marks.  White space only separates them, and a
comment or an instruction counts as one part, a remark.

Words end at white space or at one of `> ) , | [ %`; right after a literal, a closing parenthesis or
a keyword only some characters may follow.
-/

namespace RackElevation.Markup

/-- A part of a document type. -/
inductive DoctypeToken where
  /-- A name without a colon. -/
  | name (word : String)
  /-- A name with a colon. -/
  | qualified (word : String)
  /-- Any other run of the characters of names. -/
  | word (word : String)
  /-- A name with a question mark, an asterisk or a plus sign. -/
  | repeated (word : String)
  /-- A word after a number sign. -/
  | reserved (word : String)
  | literal (content : List Char)
  | openParen
  /-- A closing parenthesis with the mark that follows it. -/
  | closeParen (mark : Option Char)
  | comma
  | bar
  | percent
  /-- A reference to a parameter entity. -/
  | parameter (name : String)
  | openBracket
  | closeBracket
  /-- The start of a declaration with its keyword. -/
  | declaration (keyword : String)
  /-- The end of a declaration. -/
  | stop
  /-- A comment or an instruction. -/
  | remark
  deriving DecidableEq, Repr

/-- The part that a run of name characters and colons makes.  It starts with a letter to be a name;
with one colon inside it is a qualified name. -/
def DoctypeToken.ofWord (alphabet : Alphabet) (cs : List Char) : DoctypeToken :=
  let starts := cs.head?.any alphabet.isStart
  let after := (cs.dropWhile (· != ':')).drop 1
  if starts && !cs.contains ':' then .name (String.ofList cs)
  else if starts && !after.isEmpty && !after.contains ':' then .qualified (String.ofList cs)
  else .word (String.ofList cs)

/-- Where in a part the reader of a document type is. -/
inductive DoctypeMode where
  | between
  /-- Inside a word. -/
  | word (read : List Char)
  /-- Inside a word after a number sign. -/
  | reserved (read : List Char)
  | literal (quote : Char) (read : List Char)
  | afterLiteral
  | afterParen
  /-- After a percent sign, with the name read so far. -/
  | percent (read : List Char)
  /-- After an opening angle bracket. -/
  | opening
  /-- After an exclamation mark, with the keyword read so far. -/
  | keyword (read : List Char)
  /-- Inside a comment, after so many hyphens; the first two open it. -/
  | commentOpening
  | comment (hyphens : Nat)
  /-- Inside an instruction, whose text is kept up to its end. -/
  | instruction (read : List Char)
  deriving Repr

/-- Whether the text of an instruction is well formed: a target other than `xml`, alone or with
white space after it. -/
def isInstruction (alphabet : Alphabet) (cs : List Char) : Bool :=
  let target := cs.takeWhile fun c => !isSpace c
  alphabet.isName target && target.map Char.toLower != ['x', 'm', 'l']

namespace DoctypeMode

/-- What a character that opens a part leads to. -/
def start (alphabet : Alphabet) (c : Char) : Option (DoctypeMode × List DoctypeToken) :=
  match c with
  | '\x22' | '\x27' => some (.literal c [], [])
  | '<' => some (.opening, [])
  | '%' => some (.percent [], [])
  | '#' => some (.reserved [], [])
  | '(' => some (.between, [.openParen])
  | ')' => some (.afterParen, [])
  | ',' => some (.between, [.comma])
  | '|' => some (.between, [.bar])
  | '[' => some (.between, [.openBracket])
  | ']' => some (.between, [.closeBracket])
  | '>' => some (.between, [.stop])
  | _ =>
      if isSpace c then some (.between, [])
      else if alphabet.isPart c || c == ':' then some (.word [c], [])
      else none

/-- A character that opens a part right after another part has ended. -/
def next (alphabet : Alphabet) (ended : DoctypeToken) (c : Char) :
    Option (DoctypeMode × List DoctypeToken) := do
  let (mode, tokens) ← start alphabet c
  return (mode, ended :: tokens)

/-- One more character of a word. -/
def stepWord (alphabet : Alphabet) (read : List Char) (c : Char) :
    Option (DoctypeMode × List DoctypeToken) :=
  let ended := DoctypeToken.ofWord alphabet read.reverse
  if alphabet.isPart c || c == ':' then some (.word (c :: read), [])
  else if c == '?' || c == '*' || c == '+' then
    match ended with
    | .name w | .qualified w => some (.between, [.repeated w])
    | _ => none
  else if isSpace c || ['>', ')', ',', '|', '[', '%'].contains c then next alphabet ended c
  else none

/-- One more character of a word after a number sign. -/
def stepReserved (alphabet : Alphabet) (read : List Char) (c : Char) :
    Option (DoctypeMode × List DoctypeToken) :=
  if read.isEmpty then
    if alphabet.isStart c then some (.reserved [c], []) else none
  else if alphabet.isPart c then some (.reserved (c :: read), [])
  else if isSpace c || ['>', ')', '|', '%'].contains c then
    next alphabet (.reserved (String.ofList read.reverse)) c
  else none

/-- One more character after a percent sign. -/
def stepPercent (alphabet : Alphabet) (read : List Char) (c : Char) :
    Option (DoctypeMode × List DoctypeToken) :=
  if read.isEmpty then
    if isSpace c || c == '%' then next alphabet .percent c
    else if alphabet.isStart c then some (.percent [c], [])
    else none
  else if c == ';' then some (.between, [.parameter (String.ofList read.reverse)])
  else if alphabet.isPart c then some (.percent (c :: read), [])
  else none

/-- One more character of a document type: where the reader is then, and the parts that have
ended. -/
def step (alphabet : Alphabet) (mode : DoctypeMode) (c : Char) :
    Option (DoctypeMode × List DoctypeToken) :=
  match mode with
  | .between => start alphabet c
  | .word read => stepWord alphabet read c
  | .reserved read => stepReserved alphabet read c
  | .literal quote read =>
      if c == quote then some (.afterLiteral, [.literal read.reverse])
      else some (.literal quote (c :: read), [])
  | .afterLiteral =>
      if isSpace c || c == '>' || c == '%' || c == '[' then start alphabet c else none
  | .afterParen =>
      if c == '?' || c == '*' || c == '+' then some (.between, [.closeParen (some c)])
      else if isSpace c || ['>', ',', '|', ')'].contains c then next alphabet (.closeParen none) c
      else none
  | .percent read => stepPercent alphabet read c
  | .opening =>
      if c == '!' then some (.keyword [], [])
      else if c == '?' then some (.instruction [], [])
      else none
  | .keyword read =>
      if c == '-' && read.isEmpty then some (.commentOpening, [])
      else if isSpace c && !read.isEmpty then
        some (.between, [.declaration (String.ofList read.reverse)])
      else if c.isAlpha then some (.keyword (c :: read), [])
      else none
  | .commentOpening => if c == '-' then some (.comment 0, []) else none
  | .comment 0 => some (.comment (if c == '-' then 1 else 0), [])
  | .comment 1 => some (.comment (if c == '-' then 2 else 0), [])
  | .comment _ => if c == '>' then some (.between, [.remark]) else none
  | .instruction read =>
      if c == '>' && read.head? == some '?' then
        if isInstruction alphabet (read.drop 1).reverse then some (.between, [.remark]) else none
      else some (.instruction (c :: read), [])

/-- A comment ends after two hyphens in a row, which are followed by nothing else. -/
theorem step_comment (alphabet : Alphabet) (hyphens : Nat) (c : Char) :
    step alphabet (.comment hyphens) c =
      if hyphens < 2 then some (.comment (if c == '-' then hyphens + 1 else 0), [])
      else if c == '>' then some (.between, [.remark]) else none := by
  match hyphens with
  | 0 => rfl
  | 1 => rfl
  | _ + 2 => rw [if_neg (Nat.not_lt.2 (Nat.le_add_left 2 _))]; rfl

end DoctypeMode

end RackElevation.Markup
