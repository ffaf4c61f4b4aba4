import RackElevation.Failure
import RackElevation.Markup.CodePage
import RackElevation.Markup.Name

/-!
# Encodings

How the bytes of a document stand for characters.  The first bytes tell the width of the units; the
declaration of a document may then choose an encoding of that width by name.
-/

namespace RackElevation.Markup

/-- Which of the two bytes of a 16 bit unit comes first. -/
inductive ByteOrder where
  | highFirst
  | lowFirst
  deriving DecidableEq, Repr

/-- The unit of two bytes. -/
def ByteOrder.unit (order : ByteOrder) (first second : UInt8) : Nat :=
  match order with
  | .highFirst => 256 * first.toNat + second.toNat
  | .lowFirst => 256 * second.toNat + first.toNat

/-- A way to read bytes as characters. -/
inductive Encoding where
  | utf8
  | utf16 (order : ByteOrder)
  | ascii
  | latin1
  /-- One byte for one character, with a table for the bytes from 0x80 on. -/
  | page (upper : String)
  deriving DecidableEq, Repr

namespace Encoding

/-- The letters that names may hold in an encoding. -/
def alphabet : Encoding → Alphabet
  | .latin1 | .utf16 _ => .wide
  | _ => .common

/-- Whether an encoding has units of 16 bits. -/
def isWide : Encoding → Bool
  | .utf16 _ => true
  | _ => false

/-! ## Decoding -/

/-- Bytes read as UTF-8. -/
def decodeUtf8 (bytes : List UInt8) : Option (List Char) :=
  (ByteArray.utf8Decode? ⟨bytes.toArray⟩).map Array.toList

/-- Bytes read as 16 bit units, after some characters in reverse.  A high surrogate takes the next
unit for its second half, of which only the low ten bits count; a low surrogate stands for nothing
by itself. -/
def decodeUtf16 (order : ByteOrder) (read : List Char) : List UInt8 → Option (List Char)
  | [] => some read.reverse
  | [_] => none
  | a :: b :: rest =>
      let unit := order.unit a b
      if unit < 0xD800 || 0xE000 ≤ unit then decodeUtf16 order (Char.ofNat unit :: read) rest
      else if 0xDC00 ≤ unit then none
      else
        match rest with
        | c :: d :: rest =>
            let number := 0x10000 + (unit - 0xD800) * 0x400 + order.unit c d % 0x400
            decodeUtf16 order (Char.ofNat number :: read) rest
        | _ => none

/-- One byte read through a table for the bytes from 0x80 on. -/
def charOfByte? (upper : Array Char) (byte : UInt8) : Option Char :=
  if byte < 0x80 then some (Char.ofNat byte.toNat)
  else (upper[byte.toNat - 0x80]?).filter (· != '\ufffd')

/-- Bytes read one by one, after some characters in reverse. -/
def decodeSingle (char? : UInt8 → Option Char) (read : List Char) : List UInt8 → Option (List Char)
  | [] => some read.reverse
  | byte :: rest =>
      match char? byte with
      | none => none
      | some c => decodeSingle char? (c :: read) rest

/-- Bytes as characters. -/
def decode (encoding : Encoding) (bytes : List UInt8) : Option (List Char) :=
  match encoding with
  | .utf8 => decodeUtf8 bytes
  | .utf16 order => decodeUtf16 order [] bytes
  | .ascii => decodeSingle (charOfByte? #[]) [] bytes
  | .latin1 => decodeSingle (fun byte => some (Char.ofNat byte.toNat)) [] bytes
  | .page upper => decodeSingle (charOfByte? upper.toList.toArray) [] bytes

/-- The characters below 0x80 that 16 bit units start with, after some characters in reverse. -/
def asciiUnits (order : ByteOrder) (read : List Char) : List UInt8 → List Char
  | a :: b :: rest =>
      if order.unit a b < 0x80 then asciiUnits order (Char.ofNat (order.unit a b) :: read) rest
      else read.reverse
  | _ => read.reverse

/-- The characters below 0x80 that bytes start with, one byte or one unit each. -/
def asciiStart (encoding : Encoding) (bytes : List UInt8) : List Char :=
  match encoding with
  | .utf16 order => asciiUnits order [] bytes
  | _ => (bytes.takeWhile (· < 0x80)).map fun byte => Char.ofNat byte.toNat

/-- The number of bytes of a character. -/
def charSize (encoding : Encoding) (c : Char) : Nat :=
  match encoding with
  | .utf8 => c.utf8Size
  | .utf16 _ => if c.toNat < 0x10000 then 2 else 4
  | .ascii | .latin1 | .page _ => 1

/-- The number of bytes of a character below 0x80. -/
def asciiSize : Encoding → Nat
  | .utf16 _ => 2
  | _ => 1

end Encoding

/-! ## Choosing an encoding -/

/-- The encoding that the first bytes of a document show, and the bytes after a byte order mark. -/
def detect : List UInt8 → Encoding × List UInt8
  | 0xFE :: 0xFF :: rest => (.utf16 .highFirst, rest)
  | 0xFF :: 0xFE :: rest => (.utf16 .lowFirst, rest)
  | 0xEF :: 0xBB :: 0xBF :: rest => (.utf8, rest)
  | 0x00 :: second :: rest => (.utf16 .highFirst, 0x00 :: second :: rest)
  | first :: 0x00 :: rest => (.utf16 .lowFirst, first :: 0x00 :: rest)
  | bytes => (.utf8, bytes)

/-- A name of an encoding as it is looked up: in lower case, with every run of characters other than
letters, digits and points read as one underscore, and none at the end. -/
def encodingKey (name : String) : String :=
  String.ofList (name.toList.foldl (fun (read : List Char × Bool) c =>
    if c.isAlphanum || c == '.' then
      (c.toLower :: (if read.2 && !read.1.isEmpty then '_' :: read.1 else read.1), false)
    else (read.1, true)) ([], false)).1.reverse

/-- What is known under a key of an encoding. -/
def encodingOfKey? (key : String) (inNames inAliases : Bool) (name : String) :
    Option (Except Failure Encoding) :=
  let isIn (names aliases : List String) : Bool :=
    (inNames && names.contains key) || (inAliases && aliases.contains key)
  match codePages.find? fun page => isIn page.names page.aliases with
  | some page => some (.ok (.page page.upper))
  | none =>
      if isIn multiByteNames multiByteAliases then some (.error .multiByteEncoding)
      else if isIn binaryNames binaryAliases then some (.error (.notTextEncoding name))
      else if isIn incompatibleNames incompatibleAliases then some (.error .malformedMarkup)
      else none

/-- The code page of a given name.  Aliases come before names, and only in an alias may a point
stand for an underscore. -/
def codePage (name : String) : Except Failure Encoding :=
  let key := encodingKey name
  let candidates := [
    encodingOfKey? key false true name,
    encodingOfKey? (key.map fun c => if c == '.' then '_' else c) false true name,
    if key.contains '.' then none else encodingOfKey? key true false name]
  (candidates.findSome? id).getD (.error (.unknownEncoding name))

/-- The encoding that a declaration chooses by name when the first bytes show another one.  The
units must have the same width, and 16 bit units the same byte order. -/
def Encoding.declared (shown : Encoding) (name : String) : Except Failure Encoding :=
  let among (encoding : Encoding) (fits : Bool) : Except Failure Encoding :=
    if fits then .ok encoding else .error .malformedMarkup
  match name.map Char.toUpper with
  | "ISO-8859-1" => among .latin1 !shown.isWide
  | "US-ASCII" => among .ascii !shown.isWide
  | "UTF-8" => among .utf8 !shown.isWide
  | "UTF-16" => among shown shown.isWide
  | "UTF-16BE" => among (.utf16 .highFirst) (shown == .utf16 .highFirst)
  | "UTF-16LE" => among (.utf16 .lowFirst) (shown == .utf16 .lowFirst)
  | _ => codePage name

end RackElevation.Markup
