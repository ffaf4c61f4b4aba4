import Mathlib.Data.List.Basic
import RackElevation.Markup.Source
import RackElevation.Proofs.Outcome

/-!
# Sources in UTF-8

A source whose bytes are those of a text in UTF-8, and which names no other encoding, is read as
that text.  This covers texts, whatever they declare, and their bytes.
-/

namespace RackElevation.Markup

/-- The bytes of some characters in UTF-8. -/
def utf8Bytes (cs : List Char) : List UInt8 :=
  cs.flatMap String.utf8EncodeChar

/-- Characters in a row have their bytes in a row. -/
theorem utf8Bytes_append (cs cs' : List Char) :
    utf8Bytes (cs ++ cs') = utf8Bytes cs ++ utf8Bytes cs' :=
  List.flatMap_append

/-- The bytes of a text are those of its characters. -/
theorem toBytes_text (s : String) : (Source.text s).toBytes = utf8Bytes s.toList := by
  rw [Source.toBytes, String.toUTF8_eq_toByteArray, ← String.utf8Encode_toList, List.utf8Encode,
    List.toList_data_toByteArray, utf8Bytes]

/-- The bytes of some characters are decoded to these characters. -/
theorem decodeUtf8_utf8Bytes (cs : List Char) : Encoding.decodeUtf8 (utf8Bytes cs) = some cs := by
  have hbytes : ByteArray.mk (utf8Bytes cs).toArray = cs.utf8Encode := by
    rw [List.utf8Encode, ← List.data_toByteArray]
    rfl
  rw [Encoding.decodeUtf8, hbytes, List.utf8Decode?_utf8Encode]
  rfl

/-- No character has fewer bytes than one. -/
theorem length_le_length_utf8Bytes (cs : List Char) : cs.length ≤ (utf8Bytes cs).length := by
  induction cs with
  | nil => exact Nat.zero_le _
  | cons c cs ih =>
      have hsize := Char.utf8Size_pos c
      rw [utf8Bytes, List.flatMap_cons, List.length_append, String.length_utf8EncodeChar,
        ← utf8Bytes, List.length_cons]
      omega

/-! ## Characters of one byte -/

/-- A number below 256 is a byte. -/
theorem toNat_ofNat_byte {n : ℕ} (h : n < 256) : (UInt8.ofNat n).toNat = n :=
  UInt8.toNat_ofNat_of_lt' h

/-- An ASCII character is its own byte. -/
theorem utf8EncodeChar_of_lt {c : Char} (h : c.toNat < 0x80) :
    String.utf8EncodeChar c = [UInt8.ofNat c.toNat] := by
  have hle : c.val.toNat ≤ 0x7F := by
    have hval : c.val.toNat = c.toNat := rfl
    omega
  rw [String.utf8EncodeChar]
  exact if_pos hle

/-- An ASCII character has one byte. -/
theorem utf8Size_of_lt {c : Char} (h : c.toNat < 0x80) : c.utf8Size = 1 := by
  rw [← String.length_utf8EncodeChar, utf8EncodeChar_of_lt h, List.length_singleton]

/-- The first byte of a character says whether it is one of the characters of one byte. -/
theorem exists_utf8EncodeChar_eq {c d : Char} (hc : c ≠ d) (hd : d.toNat < 0x80) :
    ∃ b bs, String.utf8EncodeChar c = b :: bs ∧ b ≠ UInt8.ofNat d.toNat := by
  have hne : c.val.toNat ≠ d.toNat := fun h => hc (Char.ext (UInt32.toNat_inj.1 h))
  have hbyte {n : ℕ} (hn : n < 256) (hnd : n ≠ d.toNat) : UInt8.ofNat n ≠ UInt8.ofNat d.toNat := by
    intro h
    have h := congrArg UInt8.toNat h
    rw [toNat_ofNat_byte hn, toNat_ofNat_byte (by omega)] at h
    exact hnd h
  rw [String.utf8EncodeChar]
  split
  · exact ⟨_, _, rfl, hbyte (by omega) hne⟩
  · split
    · exact ⟨_, _, rfl, hbyte (by omega) (by omega)⟩
    · split
      · exact ⟨_, _, rfl, hbyte (by omega) (by omega)⟩
      · exact ⟨_, _, rfl, hbyte (by omega) (by omega)⟩

/-- A text in ASCII has as many bytes as characters. -/
theorem length_utf8Bytes {cs : List Char} (h : ∀ c ∈ cs, c.toNat < 0x80) :
    (utf8Bytes cs).length = cs.length := by
  rw [utf8Bytes, List.flatMap_congr fun c hc => utf8EncodeChar_of_lt (h c hc),
    ← List.map_eq_flatMap, List.length_map]

/-- Characters of one byte are dropped one byte each. -/
theorem drop_utf8Bytes {cs : List Char} (h : ∀ c ∈ cs, c.toNat < 0x80) (rest : List UInt8) :
    (utf8Bytes cs ++ rest).drop cs.length = rest := by
  induction cs with
  | nil => rfl
  | cons c cs ih =>
      rw [utf8Bytes, List.flatMap_cons, utf8EncodeChar_of_lt (h c (List.mem_cons_self ..)),
        ← utf8Bytes]
      exact ih fun d hd => h d (List.mem_cons_of_mem c hd)

theorem asciiStart_utf8 (bytes : List UInt8) : Encoding.utf8.asciiStart bytes =
    (bytes.takeWhile (· < 0x80)).map fun byte => Char.ofNat byte.toNat := rfl

/-- Characters of one byte are found at the start of the bytes. -/
theorem asciiStart_append {cs : List Char} (h : ∀ c ∈ cs, c.toNat < 0x80) (rest : List UInt8) :
    Encoding.utf8.asciiStart (utf8Bytes cs ++ rest) = cs ++ Encoding.utf8.asciiStart rest := by
  induction cs with
  | nil => rfl
  | cons c cs ih =>
      have hc := h c (List.mem_cons_self ..)
      have hto : (UInt8.ofNat c.toNat).toNat = c.toNat := toNat_ofNat_byte (by omega)
      have hlt : UInt8.ofNat c.toNat < 0x80 := by
        rw [UInt8.lt_iff_toNat_lt, hto]
        exact hc
      have ih := ih fun d hd => h d (List.mem_cons_of_mem c hd)
      rw [asciiStart_utf8] at ih ⊢
      rw [utf8Bytes, List.flatMap_cons, utf8EncodeChar_of_lt hc, ← utf8Bytes, List.append_assoc,
        List.singleton_append, List.takeWhile_cons, if_pos (decide_eq_true hlt), List.map_cons, ih,
        hto, Char.ofNat_toNat, List.cons_append]

/-! ## Sources -/

/-- Bytes that begin with an angle bracket show no encoding other than UTF-8, unless a zero follows.
-/
theorem detect_cons_cons {b : UInt8} (hb : b ≠ 0) (rest : List UInt8) :
    detect (0x3C :: b :: rest) = (.utf8, 0x3C :: b :: rest) := by
  unfold detect
  split <;> first | rfl | simp_all

/-- A source in UTF-8 whose declaration is known, and whose characters after it have a root element
and are within the limit on expansions. -/
theorem readTree_of_ofStart {source : Source} {tree : Node ExpandedName} (start rest : List Char)
    (declaration : Declaration) (hbytes : source.toBytes = utf8Bytes (start ++ rest))
    (hstart : ∀ c ∈ start, c.toNat < 0x80)
    (hdetect : detect source.toBytes = (.utf8, source.toBytes))
    (hdeclaration : Declaration.ofStart (Encoding.utf8.asciiStart source.toBytes) =
      .ok (declaration, start.length))
    (hencoding : source.encoding .utf8 declaration.encoding = .ok .utf8)
    (hlimit : isWithinLimit Char.utf8Size start.length declaration.standalone rest = true)
    (hroot : ∀ d : Definitions, d.rules = [] → rootOfChars? .common d rest = some tree) :
    readTree source = .ok tree := by
  -- each letter of the declaration is one byte
  have hdrop : source.toBytes.drop (start.length * Encoding.utf8.asciiSize) = utf8Bytes rest := by
    rw [hbytes, utf8Bytes_append, show Encoding.utf8.asciiSize = 1 from rfl, Nat.mul_one,
      drop_utf8Bytes hstart]
  have hbefore : source.toBytes.length - (utf8Bytes rest).length = start.length := by
    rw [hbytes, utf8Bytes_append, List.length_append, Nat.add_sub_cancel, length_utf8Bytes hstart]
  have hwithin : rootWithin? .utf8 start.length declaration.standalone rest = some tree := by
    rw [rootWithin?, if_pos (show isWithinLimit Encoding.utf8.charSize _ _ _ = true from hlimit)]
    exact hroot _ rfl
  rw [readTree, hdetect]
  simp only [hdeclaration, ok_bind, hencoding, hdrop, hbefore, Encoding.decode,
    decodeUtf8_utf8Bytes, Option.bind_some, hwithin]
  rfl

end RackElevation.Markup
