import RackElevation.Proofs.Markup.Bytes
import RackElevation.Proofs.Markup.Letters
import RackElevation.Proofs.Markup.Limit

/-!
# Texts and their bytes

A text is read as its bytes in UTF-8, whatever encoding it declares; bytes are read in the encoding
that they show or declare.  A text shows no encoding of its own at its start, since it holds no
character that is zero, and its declaration holds only characters below 0x80, which are found at the
start of its bytes in UTF-8 and with one byte for each character alike.

So a text and its bytes in the declared encoding have the same declaration and the same characters
after it.  What is left to differ are the letters that names may hold, and the number of bytes of
each character, which only the limit on expansions looks at.
-/

namespace RackElevation.Markup

/-! ## The start of a text -/

/-- The bytes of a character in UTF-8, as numbers. -/
theorem map_toNat_utf8EncodeChar (c : Char) : (String.utf8EncodeChar c).map UInt8.toNat =
    let v := c.toNat
    if v ≤ 0x7F then [v]
    else if v ≤ 0x7FF then [v / 64 % 32 + 0xC0, v % 64 + 0x80]
    else if v ≤ 0xFFFF then [v / 4096 % 16 + 0xE0, v / 64 % 64 + 0x80, v % 64 + 0x80]
    else [v / 262144 % 8 + 0xF0, v / 4096 % 64 + 0x80, v / 64 % 64 + 0x80, v % 64 + 0x80] := by
  have hval : c.val.toNat = c.toNat := rfl
  rw [String.utf8EncodeChar]
  simp only [hval]
  split_ifs
  · rw [List.map_singleton, toNat_ofNat_byte (by omega)]
  · rw [List.map_cons, List.map_singleton, toNat_ofNat_byte (by omega),
      toNat_ofNat_byte (by omega)]
  · rw [List.map_cons, List.map_cons, List.map_singleton, toNat_ofNat_byte (by omega),
      toNat_ofNat_byte (by omega), toNat_ofNat_byte (by omega)]
  · rw [List.map_cons, List.map_cons, List.map_cons, List.map_singleton,
      toNat_ofNat_byte (by omega), toNat_ofNat_byte (by omega), toNat_ofNat_byte (by omega),
      toNat_ofNat_byte (by omega)]

/-- No byte of a text is zero, unless the text holds a zero, and none begins a mark for units of 16
bits. -/
theorem toNat_of_mem_utf8Bytes {cs : List Char} (h : '\x00' ∉ cs) :
    ∀ b ∈ utf8Bytes cs, 0 < b.toNat ∧ b.toNat < 0xFE := by
  intro b hb
  obtain ⟨c, hc, hb⟩ := List.mem_flatMap.1 hb
  have hne : c.toNat ≠ 0 := by
    intro hzero
    have hnull : c = '\x00' := Char.ext (UInt32.toNat_inj.1 hzero)
    exact h (hnull ▸ hc)
  have hnumber := List.mem_map_of_mem (f := UInt8.toNat) hb
  rw [map_toNat_utf8EncodeChar] at hnumber
  dsimp only at hnumber
  split_ifs at hnumber <;> simp only [List.mem_cons, List.not_mem_nil, or_false] at hnumber <;>
    omega

/-- The bytes of the byte order mark are those of one character. -/
theorem eq_of_append_eq_mark {c : Char} {rest rest' : List UInt8}
    (h : String.utf8EncodeChar c ++ rest = 0xEF :: 0xBB :: 0xBF :: rest') : c = '\ufeff' := by
  have hnumbers := congrArg (List.map UInt8.toNat) h
  have hmark : (0xEF : UInt8).toNat = 0xEF ∧ (0xBB : UInt8).toNat = 0xBB ∧
      (0xBF : UInt8).toNat = 0xBF := by decide
  rw [List.map_append, map_toNat_utf8EncodeChar, List.map_cons, List.map_cons, List.map_cons,
    hmark.1, hmark.2.1, hmark.2.2] at hnumbers
  refine Char.ext (UInt32.toNat_inj.1 ?_)
  show c.toNat = 0xFEFF
  dsimp only at hnumbers
  split_ifs at hnumbers <;>
    simp only [List.cons_append, List.nil_append, List.cons.injEq] at hnumbers <;>
    omega

/-- A text without a byte order mark at its start. -/
def dropMark : List Char → List Char
  | '\ufeff' :: cs => cs
  | cs => cs

/-- A text of characters of one byte has no byte order mark. -/
theorem dropMark_of_lt {cs : List Char} (h : ∀ c ∈ cs, c.toNat < 0x100) : dropMark cs = cs := by
  unfold dropMark
  split
  · exact absurd (h _ List.mem_cons_self) (by decide)
  · rfl

/-- The first bytes of a text in UTF-8 show no other encoding. -/
theorem detect_utf8Bytes {cs : List Char} (h : '\x00' ∉ cs) :
    detect (utf8Bytes cs) = (.utf8, utf8Bytes (dropMark cs)) := by
  have hbytes := toNat_of_mem_utf8Bytes h
  unfold dropMark
  split
  · rfl
  · next hmark =>
      unfold detect
      -- no byte of the text is zero, 0xFE or 0xFF, so no mark but that of UTF-8 is seen
      split
      · next heq =>
          have hfirst := (hbytes 0xFE (heq ▸ List.mem_cons_self)).2
          exact absurd hfirst (by decide)
      · next heq =>
          have hfirst := (hbytes 0xFF (heq ▸ List.mem_cons_self)).2
          exact absurd hfirst (by decide)
      · next heq =>
          cases cs with
          | nil => exact absurd heq.symm (List.cons_ne_nil _ _)
          | cons c cs =>
              rw [utf8Bytes, List.flatMap_cons] at heq
              exact absurd (by rw [eq_of_append_eq_mark heq]) (hmark cs)
      · next heq =>
          have hfirst := (hbytes 0 (heq ▸ List.mem_cons_self)).1
          exact absurd hfirst (by decide)
      · next heq =>
          have hsecond := (hbytes 0 (heq ▸ List.mem_cons_of_mem _ List.mem_cons_self)).1
          exact absurd hsecond (by decide)
      · rfl

/-- The characters below 0x80 at the start of a text are found at the start of its bytes. -/
theorem asciiStart_utf8Bytes (cs : List Char) :
    Encoding.utf8.asciiStart (utf8Bytes cs) = cs.takeWhile (·.toNat < 0x80) := by
  -- induction on the characters: the first one outside ASCII begins with a byte from 0x80 on
  induction cs with
  | nil => rfl
  | cons c cs ih =>
      rw [List.takeWhile_cons]
      by_cases hc : c.toNat < 0x80
      · have hstart := asciiStart_append (List.forall_mem_singleton.2 hc) (utf8Bytes cs)
        rw [← utf8Bytes_append, List.singleton_append] at hstart
        rw [if_pos (decide_eq_true hc), hstart, ih]
        rfl
      · have hnumbers := map_toNat_utf8EncodeChar c
        rw [if_neg (by simpa using hc), asciiStart_utf8, utf8Bytes, List.flatMap_cons]
        cases hbytes : String.utf8EncodeChar c with
        | nil =>
            rw [hbytes] at hnumbers
            dsimp only at hnumbers
            split_ifs at hnumbers <;> contradiction
        | cons b bs =>
            have hb : ¬ b < 0x80 := by
              rw [hbytes] at hnumbers
              dsimp only at hnumbers
              rw [UInt8.lt_iff_toNat_lt]
              show ¬ b.toNat < 0x80
              split_ifs at hnumbers <;>
                simp only [List.map_cons, List.cons.injEq] at hnumbers <;>
                omega
            rw [List.cons_append, List.takeWhile_cons, if_neg (by simpa using hb)]
            rfl

/-! ## Declared encodings -/

/-- The text of a declaration is found before its end. -/
theorem Declaration.length_body? {read cs body : List Char} (h : body? read cs = some body) :
    body.length + 2 ≤ read.length + cs.length := by
  induction cs generalizing read with
  | nil => contradiction
  | cons c cs ih =>
      rw [body?.eq_def] at h
      split at h
      · contradiction
      · next heq =>
          rw [← Option.some.inj h, heq, List.length_reverse, List.length_cons, List.length_cons]
          omega
      · next heq =>
          obtain ⟨rfl, rfl⟩ := List.cons.inj heq
          have hle := ih h
          rw [List.length_cons] at hle ⊢
          omega

/-- A declaration is no longer than the text that it is found in. -/
theorem Declaration.length_ofStart {cs : List Char} {started : Declaration × ℕ}
    (h : ofStart cs = .ok started) : started.2 ≤ cs.length := by
  unfold ofStart at h
  split at h
  · split at h
    · split at h
      · contradiction
      · next hbody =>
          split at h
          · contradiction
          · have hle := length_body? hbody
            rw [← Except.ok.inj h]
            simp only [List.length_cons, List.length_nil] at hle ⊢
            omega
    · rw [← Except.ok.inj h]
      exact Nat.zero_le _
  · rw [← Except.ok.inj h]
    exact Nat.zero_le _

/-- Where a declaration ends does not depend on what comes after it. -/
theorem Declaration.body?_append {read cs body : List Char} (h : body? read cs = some body)
    (rest : List Char) : body? read (cs ++ rest) = some body := by
  induction cs generalizing read with
  | nil => contradiction
  | cons c cs ih =>
      rw [body?.eq_def] at h
      split at h
      · contradiction
      · next heq =>
          rw [heq]
          exact h
      · next hopen heq =>
          obtain ⟨rfl, rfl⟩ := List.cons.inj heq
          rw [List.cons_append, body?.eq_3 _ _ _ ?_]
          · exact ih h
          · rintro tail rfl htail
            cases cs with
            | nil => contradiction
            | cons d cs => exact hopen cs rfl (by rw [(List.cons.inj htail).1])

/-- A declaration that has been found is found before any further text. -/
theorem Declaration.ofStart_append {cs : List Char} {started : Declaration × ℕ}
    (h : ofStart cs = .ok started) (hfound : 0 < started.2) (rest : List Char) :
    ofStart (cs ++ rest) = .ok started := by
  unfold ofStart at h
  split at h
  · next c inner =>
      split at h
      · next hc =>
          split at h
          · contradiction
          · next hbody =>
              have hsame := body?_append hbody rest
              rw [List.cons_append] at hsame
              simp only [List.cons_append, ofStart, if_pos hc, hsame]
              exact h
      · rw [← Except.ok.inj h] at hfound
        contradiction
  · rw [← Except.ok.inj h] at hfound
    contradiction

/-- The declaration that a text starts with, after a byte order mark, and the number of its
characters.  All of them are below 0x80. -/
def declarationOf (cs : List Char) : Except Failure (Declaration × ℕ) :=
  Declaration.ofStart ((dropMark cs).takeWhile (·.toNat < 0x80))

/-- What comes after a declaration does not change it. -/
theorem declarationOf_append {cs : List Char} {started : Declaration × ℕ}
    (hascii : ∀ c ∈ cs, c.toNat < 0x80) (h : declarationOf cs = .ok started)
    (hfound : 0 < started.2) (rest : List Char) : declarationOf (cs ++ rest) = .ok started := by
  -- an ASCII start is no byte order mark, whatever follows it
  have hmark (tail : List Char) : dropMark (cs ++ tail) = cs ++ tail := by
    cases cs with
    | nil =>
        rw [← Except.ok.inj h] at hfound
        contradiction
    | cons c cs =>
        unfold dropMark
        split
        · next heq =>
            obtain rfl := (List.cons.inj heq).1
            exact absurd (hascii _ List.mem_cons_self) (by decide)
        · rfl
  -- the ASCII letters at the front go at least as far as the start does
  have hstart (tail : List Char) : (cs ++ tail).takeWhile (·.toNat < 0x80) =
      cs ++ tail.takeWhile (·.toNat < 0x80) :=
    List.takeWhile_append_of_pos fun c hc => decide_eq_true (hascii c hc)
  have hself := hstart []
  have hmarkSelf := hmark []
  rw [List.append_nil] at hself hmarkSelf
  rw [declarationOf, hmarkSelf, hself, List.takeWhile_nil, List.append_nil] at h
  rw [declarationOf, hmark, hstart]
  exact Declaration.ofStart_append h hfound _

/-- The name, in capital letters, of the encoding that a text declares. -/
def declaredEncoding? (s : String) : Option String :=
  match declarationOf s.toList with
  | .ok (declaration, _) => declaration.encoding.map (·.map Char.toUpper)
  | .error _ => none

/-- The root element of bytes in an encoding that come after a declaration of so many bytes. -/
def rootOfBytes (encoding : Encoding) (before : ℕ) (standalone : Bool) (data : List UInt8) :
    Except Failure (Node ExpandedName) :=
  match (encoding.decode data).bind (rootWithin? encoding before standalone) with
  | some root => .ok root
  | none => .error .malformedMarkup

section Reading

variable {source : Source} {s : String}

/-- A source whose first bytes show no other encoding. -/
theorem readTree_of_detect {data : List UInt8} {start : List Char}
    (hdetect : detect source.toBytes = (.utf8, data))
    (hstart : Encoding.utf8.asciiStart data = start) :
    readTree source = (do
      let started ← Declaration.ofStart start
      let encoding ← source.encoding .utf8 started.1.encoding
      let rest := data.drop started.2
      rootOfBytes encoding (source.toBytes.length - rest.length) started.1.standalone rest) := by
  have hsize : Encoding.utf8.asciiSize = 1 := rfl
  rw [readTree, hdetect]
  simp only [hstart, hsize, Nat.mul_one]
  refine bind_congr fun started => bind_congr fun encoding => ?_
  rw [rootOfBytes]
  split <;> next hroot => rw [hroot]; rfl

/-- A text, or its bytes in UTF-8. -/
theorem readTree_utf8 (hzero : '\x00' ∉ s.toList) (hbytes : source.toBytes = utf8Bytes s.toList) :
    readTree source = (do
      let started ← declarationOf s.toList
      let encoding ← source.encoding .utf8 started.1.encoding
      let rest := (utf8Bytes (dropMark s.toList)).drop started.2
      rootOfBytes encoding ((utf8Bytes s.toList).length - rest.length) started.1.standalone
        rest) := by
  have hdetect : detect source.toBytes = (.utf8, utf8Bytes (dropMark s.toList)) := by
    rw [hbytes, detect_utf8Bytes hzero]
  rw [readTree_of_detect hdetect (asciiStart_utf8Bytes _), hbytes, declarationOf]

end Reading

/-! ## One byte for each character -/

/-- The bytes of some characters, one byte for each of them. -/
def singleBytes (cs : List Char) : List UInt8 :=
  cs.map fun c => UInt8.ofNat c.toNat

/-- Characters that a table gives their own bytes are decoded from these bytes. -/
theorem decodeSingle_singleBytes {char? : UInt8 → Option Char} {cs : List Char}
    (h : ∀ c ∈ cs, char? (UInt8.ofNat c.toNat) = some c) (read : List Char) :
    Encoding.decodeSingle char? read (singleBytes cs) = some (read.reverse ++ cs) := by
  induction cs generalizing read with
  | nil => rw [singleBytes, List.map_nil, Encoding.decodeSingle, List.append_nil]
  | cons c cs ih =>
      obtain ⟨hc, hcs⟩ := List.forall_mem_cons.1 h
      rw [singleBytes, List.map_cons, Encoding.decodeSingle, hc, ← singleBytes]
      dsimp only
      rw [ih hcs, List.reverse_cons, List.append_assoc, List.singleton_append]

/-- A text in ASCII is decoded from its bytes. -/
theorem decode_ascii {cs : List Char} (h : ∀ c ∈ cs, c.toNat < 0x80) :
    Encoding.ascii.decode (singleBytes cs) = some cs := by
  refine decodeSingle_singleBytes (fun c hc => ?_) []
  have hto := toNat_ofNat_byte (n := c.toNat) (by have := h c hc; omega)
  have hlt : UInt8.ofNat c.toNat < 0x80 := by
    rw [UInt8.lt_iff_toNat_lt, hto]
    exact h c hc
  rw [Encoding.charOfByte?, if_pos hlt, hto, Char.ofNat_toNat]

/-- A text in ISO-8859-1 is decoded from its bytes. -/
theorem decode_latin1 {cs : List Char} (h : ∀ c ∈ cs, c.toNat < 0x100) :
    Encoding.latin1.decode (singleBytes cs) = some cs := by
  refine decodeSingle_singleBytes (fun c hc => ?_) []
  rw [toNat_ofNat_byte (h c hc), Char.ofNat_toNat]

/-- The declaration is looked for in the characters up to the first one outside ASCII. -/
theorem asciiStart_singleBytes {cs : List Char} (h : ∀ c ∈ cs, c.toNat < 0x100) :
    Encoding.utf8.asciiStart (singleBytes cs) = cs.takeWhile (·.toNat < 0x80) := by
  rw [asciiStart_utf8]
  induction cs with
  | nil => rfl
  | cons c cs ih =>
      obtain ⟨hc, hcs⟩ := List.forall_mem_cons.1 h
      have hto := toNat_ofNat_byte hc
      have hlt : (UInt8.ofNat c.toNat < 0x80) ↔ c.toNat < 0x80 := by
        rw [UInt8.lt_iff_toNat_lt, hto]
        rfl
      rw [singleBytes, List.map_cons, ← singleBytes, List.takeWhile_cons, List.takeWhile_cons]
      by_cases hascii : c.toNat < 0x80
      · rw [if_pos (decide_eq_true (hlt.2 hascii)), if_pos (decide_eq_true hascii), List.map_cons,
          hto, Char.ofNat_toNat, ih hcs]
      · rw [if_neg (by simpa using mt hlt.1 hascii), if_neg (by simpa using hascii)]
        rfl

/-! ## Texts with a declared encoding -/

/-- The root element of the characters after a declaration of so many bytes. -/
def rootOfText (encoding : Encoding) (before : ℕ) (standalone : Bool) (cs : List Char) :
    Except Failure (Node ExpandedName) :=
  match rootWithin? encoding before standalone cs with
  | some root => .ok root
  | none => .error .malformedMarkup

/-- Bytes that are decoded to a text have its root. -/
theorem rootOfBytes_of_decode {encoding : Encoding} {before : ℕ} {standalone : Bool}
    {data : List UInt8} {cs : List Char} (h : encoding.decode data = some cs) :
    rootOfBytes encoding before standalone data = rootOfText encoding before standalone cs := by
  rw [rootOfBytes, h, Option.bind_some, rootOfText]

section Declared

variable {s : String} {name : String} {started : Declaration × ℕ}

/-- A declaration is no longer than its text. -/
theorem length_declarationOf {cs : List Char} (h : declarationOf cs = .ok started) :
    started.2 ≤ (dropMark cs).length :=
  (Declaration.length_ofStart h).trans (List.takeWhile_prefix _).length_le

/-- The bytes after a declaration are those of the characters after it. -/
theorem drop_utf8Bytes_declarationOf {cs : List Char} (h : declarationOf cs = .ok started) :
    (utf8Bytes (dropMark cs)).drop started.2 = utf8Bytes ((dropMark cs).drop started.2) := by
  have hlength := Declaration.length_ofStart h
  obtain ⟨rest, hrest⟩ := List.takeWhile_prefix (fun c : Char => decide (c.toNat < 0x80))
    (l := dropMark cs)
  have hascii : ∀ c ∈ (dropMark cs).take started.2, c.toNat < 0x80 := by
    rw [← hrest, List.take_append_of_le_length hlength]
    intro c hc
    have hstart := List.mem_takeWhile_imp (List.mem_of_mem_take hc)
    exact of_decide_eq_true hstart
  have htake : ((dropMark cs).take started.2).length = started.2 := by
    rw [List.length_take, ← hrest, List.length_append]
    omega
  have hdrop := drop_utf8Bytes hascii (utf8Bytes ((dropMark cs).drop started.2))
  rwa [← utf8Bytes_append, List.take_append_drop, htake] at hdrop

/-- A text is read in UTF-8, whatever it declares. -/
theorem readTree_text (hzero : '\x00' ∉ s.toList) (h : declarationOf s.toList = .ok started) :
    readTree (.text s) = (let rest := (dropMark s.toList).drop started.2
      rootOfText .utf8 ((utf8Bytes s.toList).length - (utf8Bytes rest).length)
        started.1.standalone rest) := by
  rw [readTree_utf8 hzero (toBytes_text s), h, ok_bind]
  have hencoding : (Source.text s).encoding .utf8 started.1.encoding = .ok .utf8 := by
    cases started.1.encoding <;> rfl
  rw [hencoding, ok_bind, drop_utf8Bytes_declarationOf h]
  exact rootOfBytes_of_decode (decodeUtf8_utf8Bytes _)

/-- Bytes that declare no encoding, or UTF-8, are read as the text is. -/
theorem readTree_utf8Bytes (hzero : '\x00' ∉ s.toList)
    (h : ∀ name ∈ declaredEncoding? s, name = "UTF-8") :
    readTree (.bytes (utf8Bytes s.toList)) = readTree (.text s) := by
  rw [readTree_utf8 hzero (toBytes_text s), readTree_utf8 hzero rfl]
  cases hstarted : declarationOf s.toList with
  | error failure => rfl
  | ok started =>
      have hencoding : (Source.bytes (utf8Bytes s.toList)).encoding .utf8 started.1.encoding =
          (Source.text s).encoding .utf8 started.1.encoding := by
        cases hname : started.1.encoding with
        | none => rfl
        | some name =>
            have hupper : name.map Char.toUpper = "UTF-8" := by
              refine h _ ?_
              simp only [declaredEncoding?, hstarted, hname]
              rfl
            simp only [Source.encoding, Encoding.declared, hupper]
            rfl
      rw [ok_bind, ok_bind, hencoding]

/-- A declared encoding is named in the declaration, in letters of either case. -/
theorem exists_declarationOf (h : declaredEncoding? s = some name) :
    ∃ started declared, declarationOf s.toList = .ok started ∧
      started.1.encoding = some declared ∧ declared.map Char.toUpper = name := by
  rw [declaredEncoding?] at h
  split at h
  · next declaration length hstarted =>
      obtain ⟨declared, hdeclared, hname⟩ := Option.map_eq_some_iff.1 h
      exact ⟨_, declared, hstarted, hdeclared, hname⟩
  · contradiction

/-- A text that declares an encoding starts with the marks of a declaration. -/
theorem exists_marks {cs : List Char} (h : Declaration.ofStart cs = .ok started)
    (hencoding : started.1.encoding ≠ none) : ∃ rest, cs = '<' :: '?' :: rest := by
  unfold Declaration.ofStart at h
  split at h
  · exact ⟨_, rfl⟩
  · rw [← Except.ok.inj h] at hencoding
    exact absurd rfl hencoding

/-- Bytes that declare an encoding with one byte for each character are read in that encoding. -/
theorem readTree_singleBytes (hchars : ∀ c ∈ s.toList, c.toNat < 0x100)
    (h : declarationOf s.toList = .ok started) {declared : String}
    (hdeclared : started.1.encoding = some declared) :
    readTree (.bytes (singleBytes s.toList)) = (do
      let encoding ← Encoding.utf8.declared declared
      rootOfBytes encoding started.2 started.1.standalone
        (singleBytes (s.toList.drop started.2))) := by
  have hmark := dropMark_of_lt hchars
  have hlength := length_declarationOf h
  rw [declarationOf, hmark] at h
  obtain ⟨rest, hrest⟩ := exists_marks h (by rw [hdeclared]; exact Option.some_ne_none _)
  obtain ⟨after, hafter⟩ := List.takeWhile_prefix (fun c : Char => decide (c.toNat < 0x80))
    (l := s.toList)
  -- a text with a declaration begins with its two marks, in which no other encoding is seen
  have hdetect : detect (Source.bytes (singleBytes s.toList)).toBytes =
      (.utf8, singleBytes s.toList) := by
    have hstart : singleBytes s.toList = 0x3C :: 0x3F :: singleBytes (rest ++ after) := by
      rw [← hafter, hrest]
      rfl
    rw [Source.toBytes, hstart]
    exact detect_cons_cons (by decide) _
  have hdrop : (singleBytes s.toList).drop started.2 = singleBytes (s.toList.drop started.2) := by
    rw [singleBytes, singleBytes, List.map_drop]
  have hencoding : (Source.bytes (singleBytes s.toList)).encoding .utf8 started.1.encoding =
      Encoding.utf8.declared declared := by
    rw [hdeclared]
    rfl
  -- each character of the declaration is a byte, so the limit counts as many bytes before the rest
  have hbefore : (singleBytes s.toList).length -
      (singleBytes (s.toList.drop started.2)).length = started.2 := by
    rw [hmark] at hlength
    rw [singleBytes, singleBytes, List.length_map, List.length_map, List.length_drop]
    omega
  rw [readTree_of_detect hdetect (asciiStart_singleBytes hchars), h, ok_bind, hencoding]
  simp only [hdrop, Source.toBytes, hbefore]

/-- A text of characters of one byte each begins with its declaration in UTF-8 as well. -/
theorem readTree_text_of_lt (hzero : '\x00' ∉ s.toList) (hchars : ∀ c ∈ s.toList, c.toNat < 0x100)
    (h : declarationOf s.toList = .ok started) : readTree (.text s) =
      rootOfText .utf8 started.2 started.1.standalone (s.toList.drop started.2) := by
  have hlength := length_declarationOf h
  have hbytes := drop_utf8Bytes_declarationOf h
  rw [dropMark_of_lt hchars] at hlength hbytes
  have hbefore : (utf8Bytes s.toList).length - (utf8Bytes (s.toList.drop started.2)).length =
      started.2 := by
    have hle := length_le_length_utf8Bytes s.toList
    rw [← hbytes, List.length_drop]
    omega
  rw [readTree_text hzero h, dropMark_of_lt hchars]
  simp only [hbefore]

/-- Bytes in US-ASCII are read as the text is. -/
theorem readTree_ascii (hzero : '\x00' ∉ s.toList) (h : declaredEncoding? s = some "US-ASCII")
    (hchars : ∀ c ∈ s.toList, c.toNat < 0x80) :
    readTree (.bytes (singleBytes s.toList)) = readTree (.text s) := by
  obtain ⟨started, declared, hstarted, hdeclared, hupper⟩ := exists_declarationOf h
  have hencoding : Encoding.utf8.declared declared = .ok .ascii := by
    simp only [Encoding.declared, hupper]
    rfl
  have hwide : ∀ c ∈ s.toList, c.toNat < 0x100 := fun c hc => (hchars c hc).trans (by decide)
  have hrest : ∀ c ∈ s.toList.drop started.2, c.toNat < 0x80 :=
    fun c hc => hchars c (List.mem_of_mem_drop hc)
  have hsize : ∀ c ∈ s.toList.drop started.2,
      Encoding.ascii.charSize c = Encoding.utf8.charSize c :=
    fun c hc => (utf8Size_of_lt (hrest c hc)).symm
  have hroot : rootWithin? .ascii started.2 started.1.standalone (s.toList.drop started.2) =
      rootWithin? .utf8 started.2 started.1.standalone (s.toList.drop started.2) := by
    rw [rootWithin?, rootWithin?, isWithinLimit_congr hsize]
    rfl
  rw [readTree_singleBytes hwide hstarted hdeclared, hencoding, ok_bind,
    rootOfBytes_of_decode (decode_ascii hrest), readTree_text_of_lt hzero hwide hstarted,
    rootOfText, rootOfText, hroot]

/-- Bytes in ISO-8859-1 are read with the wide letters. -/
theorem readTree_latin1 (hchars : ∀ c ∈ s.toList, c.toNat < 0x100)
    (hstarted : declarationOf s.toList = .ok started) {declared : String}
    (hdeclared : started.1.encoding = some declared)
    (hupper : declared.map Char.toUpper = "ISO-8859-1") :
    readTree (.bytes (singleBytes s.toList)) =
      rootOfText .latin1 started.2 started.1.standalone (s.toList.drop started.2) := by
  have hencoding : Encoding.utf8.declared declared = .ok .latin1 := by
    simp only [Encoding.declared, hupper]
    rfl
  rw [readTree_singleBytes hchars hstarted hdeclared, hencoding, ok_bind]
  exact rootOfBytes_of_decode (decode_latin1 fun c hc => hchars c (List.mem_of_mem_drop hc))

end Declared

/-! ## Other letters -/

section Letters

variable {d : Definitions} {cs : List Char} {root root' : Node ExpandedName}

/-- The wide letters read all that the common ones read. -/
theorem rootOfChars?_wide_of_common (h : rootOfChars? .common d cs = some root) :
    rootOfChars? .wide d cs = some root :=
  rootOfChars?_yields (fun c _ => Alphabet.yields_common_wide c) h

/-- A document is read with the common letters as with the wide ones, except that names with the
three further letters are only read with the latter. -/
theorem rootOfChars?_cases (d : Definitions) (cs : List Char) :
    rootOfChars? .common d cs = rootOfChars? .wide d cs ∨
      (∃ c ∈ cs, c ∈ wideLetters) ∧ rootOfChars? .common d cs = none ∧
        ∃ root, rootOfChars? .wide d cs = some root := by
  by_cases hletter : ∃ c ∈ cs, c ∈ wideLetters
  · cases hcommon : rootOfChars? .common d cs with
    | some root => exact .inl (rootOfChars?_wide_of_common hcommon).symm
    | none =>
        cases hwide : rootOfChars? .wide d cs with
        | none => exact .inl rfl
        | some root => exact .inr ⟨hletter, rfl, root, rfl⟩
  · have hcs : ∀ c ∈ cs, Alphabet.wide.Yields .common c :=
      fun c hc => Alphabet.yields_wide_common fun hmem => hletter ⟨c, hc, hmem⟩
    left
    ext root
    exact ⟨rootOfChars?_wide_of_common, rootOfChars?_yields hcs⟩

end Letters

end RackElevation.Markup
