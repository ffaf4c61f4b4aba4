import Mathlib.Data.Bool.AllAny
import RackElevation.Proofs.Markup.Encodings
import RackElevation.Proofs.Markup.RepeatedCharges
import RackElevation.Proofs.Markup.Refusal

/-!
# Rack sets of texts and of bytes

A text and its bytes in the encoding that it declares mean the same document, with two exceptions
for ISO-8859-1: in data that is stored so, names may hold three more letters, and since characters
above 0x80 have fewer bytes, the limit on expansions may be reached earlier.
-/

namespace RackElevation

open Markup

/-- Two sources that mean the same document: both are read as one rack set, or both are malformed.
-/
def SameDocument (first second : Source) : Prop :=
  (∃ set, RackSet.read first = .ok set ∧ RackSet.read second = .ok set) ∨
    RackSet.read first = .error .malformedMarkup ∧ RackSet.read second = .error .malformedMarkup

/-- The limit on expansions makes no difference between a text in UTF-8 and with one byte for each
character: what comes after the declaration is stopped in both of them or in neither. -/
def LimitedAlike (s : String) : Prop :=
  ∀ d n, declarationOf s.toList = .ok (d, n) →
    isWithinLimit Encoding.utf8.charSize n d.standalone (s.toList.drop n) =
      isWithinLimit Encoding.latin1.charSize n d.standalone (s.toList.drop n)

/-- A source that is read as a text is means the same document. -/
theorem sameDocument_of_read {content : String} {source : Source}
    (h : RackSet.read source = RackSet.read (.text content)) :
    SameDocument (.text content) source := by
  rw [SameDocument, h]
  exact (RackSet.read_text content).imp (fun ⟨set, hset⟩ => ⟨set, hset, hset⟩) fun h => ⟨h, h⟩

/-- A source with the tree of a text means the same document. -/
theorem sameDocument_of_readTree {content : String} {source : Source}
    (h : readTree source = readTree (.text content)) : SameDocument (.text content) source :=
  sameDocument_of_read (by rw [RackSet.read, h, ← RackSet.read])

/-! ## Texts in ISO-8859-1 -/

section Latin1

variable {s : String}

/-- A text that declares ISO-8859-1 and its bytes in that encoding have the same characters after
the declaration. -/
theorem read_latin1 (hzero : '\x00' ∉ s.toList) (h : declaredEncoding? s = some "ISO-8859-1")
    (hchars : ∀ c ∈ s.toList, c.toNat < 0x100) : ∃ started,
    declarationOf s.toList = .ok started ∧
      RackSet.read (.text s) = (rootOfText .utf8 started.2 started.1.standalone
        (s.toList.drop started.2)).map RackSet.ofTree ∧
      RackSet.read (.bytes (singleBytes s.toList)) = (rootOfText .latin1 started.2
        started.1.standalone (s.toList.drop started.2)).map RackSet.ofTree := by
  obtain ⟨started, declared, hstarted, hdeclared, hupper⟩ := exists_declarationOf h
  exact ⟨started, hstarted, by rw [RackSet.read, readTree_text_of_lt hzero hchars hstarted],
    by rw [RackSet.read, readTree_latin1 hchars hstarted hdeclared hupper]⟩

/-- The characters after a declaration are read, or they are malformed. -/
theorem map_rootOfText (encoding : Encoding) (before : ℕ) (standalone : Bool) (cs : List Char) :
    (rootOfText encoding before standalone cs).map RackSet.ofTree =
      match rootWithin? encoding before standalone cs with
      | some root => .ok (RackSet.ofTree root)
      | none => .error .malformedMarkup := by
  rw [rootOfText]
  cases rootWithin? encoding before standalone cs with
  | none => rfl
  | some root => rfl

/-- What is read both in UTF-8 and in ISO-8859-1 is read as one root element. -/
theorem rootWithin?_unique {before : ℕ} {standalone : Bool} {cs : List Char}
    {root root' : Node ExpandedName} (h : rootWithin? .utf8 before standalone cs = some root)
    (h' : rootWithin? .latin1 before standalone cs = some root') : root = root' := by
  rw [rootWithin?] at h h'
  split at h
  · split at h'
    · exact Option.some.inj ((rootOfChars?_wide_of_common h).symm.trans h')
    · contradiction
  · contradiction

/-- When the limit on expansions makes no difference, only a text with one of the further letters
may be malformed while its bytes are read. -/
theorem sameDocument_or_wideLetters (hzero : '\x00' ∉ s.toList)
    (h : declaredEncoding? s = some "ISO-8859-1") (hchars : ∀ c ∈ s.toList, c.toNat < 0x100)
    (hlimit : LimitedAlike s) : SameDocument (.text s) (.bytes (singleBytes s.toList)) ∨
      (RackSet.read (.text s) = .error .malformedMarkup ∧
        ∃ set, RackSet.read (.bytes (singleBytes s.toList)) = .ok set) ∧
      ∃ c ∈ s.toList, c ∈ wideLetters := by
  obtain ⟨⟨d, n⟩, hstarted, htext, hbytes⟩ := read_latin1 hzero h hchars
  have hcommon : Encoding.utf8.alphabet = .common := rfl
  have hwide : Encoding.latin1.alphabet = .wide := rfl
  -- the text is counted in UTF-8 and the bytes one by one; the hypothesis joins the two counts
  rw [map_rootOfText, rootWithin?, hlimit d n hstarted, hcommon] at htext
  rw [map_rootOfText, rootWithin?, hwide] at hbytes
  by_cases hwithin :
      isWithinLimit Encoding.latin1.charSize n d.standalone (s.toList.drop n) = true
  · rw [if_pos hwithin] at htext hbytes
    rcases rootOfChars?_cases { standalone := d.standalone } (s.toList.drop n) with
      heq | ⟨⟨c, hc, hletter⟩, hnone, root, hroot⟩
    · rw [heq] at htext
      exact .inl (sameDocument_of_read (hbytes.trans htext.symm))
    · rw [hnone] at htext
      rw [hroot] at hbytes
      exact .inr ⟨⟨htext, _, hbytes⟩, c, List.mem_of_mem_drop hc, hletter⟩
  -- an expansion that is too large is refused in both forms
  · rw [if_neg hwithin] at htext hbytes
    exact .inl (.inr ⟨htext, hbytes⟩)

end Latin1

/-! ## Texts without a document type -/

/-- Whether a token is a document type. -/
def Markup.Token.isDoctype : Token → Bool
  | .doctype _ => true
  | _ => false

/-- The limit makes no difference for a text without a document type. -/
theorem limitedAlike_of_tokens {s : String} {started : Declaration × ℕ}
    (hdeclaration : declarationOf s.toList = .ok started)
    (hnone : (Token.ofChars? .wide (unifyLineEnds (s.toList.drop started.2))).map
      (·.any Token.isDoctype) = some false) : LimitedAlike s := by
  obtain ⟨tokens, htokens, hnone⟩ := Option.map_eq_some_iff.1 hnone
  have hdoctype : ∀ parts, .doctype parts ∉ tokens := fun parts hmem =>
    absurd rfl (List.any_eq_false.1 hnone _ hmem)
  intro d n hstarted
  obtain rfl := Except.ok.inj (hdeclaration.symm.trans hstarted)
  have hutf8 : isWithinLimit Encoding.utf8.charSize n d.standalone (s.toList.drop n) = true :=
    isWithinLimit_of_tokens (fun c _ => Char.utf8Size_pos c) htokens hdoctype n d.standalone
  have hlatin1 : isWithinLimit Encoding.latin1.charSize n d.standalone (s.toList.drop n) = true :=
    isWithinLimit_of_tokens (fun _ _ => Nat.one_pos) htokens hdoctype n d.standalone
  exact hutf8.trans hlatin1.symm

/-! ## Texts that declare ISO-8859-1 -/

/-- The declaration of ISO-8859-1. -/
def latin1Declaration : String :=
  "<?xml version=\"1.0\" encoding=\"ISO-8859-1\"?>"

/-- A text starts with that declaration. -/
def IsLatin1 (s : String) : Prop :=
  declarationOf s.toList = .ok ({ encoding := some "ISO-8859-1" }, 43)

/-- A text that starts with the declaration declares ISO-8859-1. -/
theorem IsLatin1.declaredEncoding? {s : String} (h : IsLatin1 s) :
    declaredEncoding? s = some "ISO-8859-1" := by
  have hupper : "ISO-8859-1".map Char.toUpper = "ISO-8859-1" := by decide +kernel
  rw [Markup.declaredEncoding?, h]
  exact congrArg some hupper

/-- The declaration is read to its end, and names ISO-8859-1. -/
theorem declarationOf_latin1Declaration : declarationOf latin1Declaration.toList =
    .ok ({ encoding := some "ISO-8859-1" }, 43) := by
  decide

/-- A text in ISO-8859-1 with a letter above 0x80 in a value. -/
def valueText : String :=
  latin1Declaration ++ "<racks><rack name=\"\u00e9\"/></racks>"

theorem isLatin1_valueText : IsLatin1 valueText := by
  rw [IsLatin1]
  decide

/-- A text in ISO-8859-1 with one of the further letters as the name of an element. -/
def ordinalText : String :=
  latin1Declaration ++ "<racks><rack><\u00aa/></rack></racks>"

theorem isLatin1_ordinalText : IsLatin1 ordinalText := by
  rw [IsLatin1]
  decide

/-- Sources only one of which is read do not mean the same document. -/
theorem not_sameDocument_of_isOk {first second : Source}
    (h : (RackSet.read first).isOk ≠ (RackSet.read second).isOk) : ¬ SameDocument first second := by
  rintro (⟨set, hfirst, hsecond⟩ | ⟨hfirst, hsecond⟩)
  · rw [hfirst, hsecond] at h
    exact h rfl
  · rw [hfirst, hsecond] at h
    exact h rfl

/-! ## The limit on expansions -/

/-- A text in ISO-8859-1 that refers to one entity many times. -/
def repeatingText (content : List Char) (count : ℕ) : String :=
  String.ofList (latin1Declaration.toList ++ repeating content count)

section Repeating

variable {content : List Char}

theorem isLatin1_repeatingText (content : List Char) (count : ℕ) :
    IsLatin1 (repeatingText content count) := by
  rw [IsLatin1, repeatingText, String.toList_ofList]
  have hascii : ∀ c ∈ latin1Declaration.toList, c.toNat < 0x80 :=
    List.all_iff_forall_prop.1 (by decide)
  exact declarationOf_append hascii declarationOf_latin1Declaration (by decide) _

/-- Behind its declaration the text is the repeating document. -/
theorem drop_repeatingText (content : List Char) (count : ℕ) :
    (repeatingText content count).toList.drop 43 = repeating content count := by
  have hlength : latin1Declaration.toList.length = 43 := by decide
  rw [repeatingText, String.toList_ofList, ← hlength, List.drop_left]

/-- What holds of the content and of the characters around it holds of the text. -/
theorem forall_mem_repeatingText {p : Char → Prop} [DecidablePred p]
    (hothers : (latin1Declaration.toList ++ repeating [] 1).all (p ·) = true)
    (hcontent : ∀ c ∈ content, p c) (count : ℕ) :
    ∀ c ∈ (repeatingText content count).toList, p c := by
  have hforall := List.all_iff_forall_prop.1 hothers
  intro c hc
  rw [repeatingText, String.toList_ofList] at hc
  rcases List.mem_append.1 hc with hc | hc
  · exact hforall c (List.mem_append_left _ hc)
  · exact (mem_repeating hc).elim (hcontent c) fun hc => hforall c (List.mem_append_right _ hc)

/-- The text has no null characters. -/
theorem null_notMem_repeatingText (hcontent : ∀ c ∈ content, IsLiteral c) (count : ℕ) :
    '\x00' ∉ (repeatingText content count).toList := by
  have hne : ∀ c ∈ (repeatingText content count).toList, c ≠ '\x00' := by
    refine forall_mem_repeatingText (by decide) ?_ count
    rintro c hc rfl
    exact absurd (hcontent _ hc).1 (by decide)
  exact fun hmem => hne _ hmem rfl

/-- The text can be encoded in ISO-8859-1 when the entity can. -/
theorem lt_of_mem_repeatingText (hlatin1 : ∀ c ∈ content, c.toNat < 0x100) (count : ℕ) :
    ∀ c ∈ (repeatingText content count).toList, c.toNat < 0x100 :=
  forall_mem_repeatingText (by decide) hlatin1 count

/-- What an entity stands for is counted in UTF-8, whatever the encoding of the document is. -/
theorem length_utf8Bytes_eq_total (cs : List Char) :
    (utf8Bytes cs).length = Sign.total (Sign.ofText cs) := by
  induction cs with
  | nil => rfl
  | cons c cs ih =>
      rw [utf8Bytes, List.flatMap_cons, ← utf8Bytes, List.length_append, ih,
        String.length_utf8EncodeChar, Sign.ofText, Sign.ofText, List.map_cons, Sign.total_cons]

/-- A document whose own bytes are so many tolerates each of some references to an entity. -/
def ToleratesReferences (direct more count : ℕ) : Prop :=
  ∀ k < count, Tolerates direct ((k + 1) * more)

instance (direct more count : ℕ) : Decidable (ToleratesReferences direct more count) :=
  inferInstanceAs (Decidable (∀ k < count, _))

/-- A text that refers to one entity many times is read, from the text and from its bytes, when its
characters in the one or in the other encoding tolerate all references. -/
theorem read_repeatingText (hcontent : ∀ c ∈ content, IsLiteral c) (hne : content ≠ [])
    (hlatin1 : ∀ c ∈ content, c.toNat < 0x100) (count : ℕ) : ∃ set,
    RackSet.read (.text (repeatingText content count)) =
        (if ToleratesReferences ((utf8Bytes content).length + 3 * count + 81)
          (utf8Bytes content).length count then .ok set else .error .malformedMarkup) ∧
      RackSet.read (.bytes (singleBytes (repeatingText content count).toList)) =
        (if ToleratesReferences (content.length + 3 * count + 81) (utf8Bytes content).length count
          then .ok set else .error .malformedMarkup) := by
  obtain ⟨started, hstarted, htext, hbytes⟩ := read_latin1
    (null_notMem_repeatingText hcontent count)
    (isLatin1_repeatingText content count).declaredEncoding? (lt_of_mem_repeatingText hlatin1 count)
  obtain rfl := Except.ok.inj ((isLatin1_repeatingText content count).symm.trans hstarted)
  obtain ⟨root, hroot⟩ := exists_rootOfChars?_repeating false hcontent count
  have hmore : Sign.total (Sign.ofText content) = (utf8Bytes content).length :=
    (length_utf8Bytes_eq_total content).symm
  have hread (encoding : Encoding) (hsize : IsAsciiSize encoding.charSize) (direct : ℕ)
      (hdirect : 43 + (Sign.total (Sign.each encoding.charSize content) + (3 * count + 38)) =
        direct) :
      (rootOfText encoding 43 false (repeating content count)).map RackSet.ofTree =
        if ToleratesReferences direct (utf8Bytes content).length count
          then .ok (RackSet.ofTree root) else .error .malformedMarkup := by
    have hwithin := isWithinLimit_repeating_iff hsize hcontent hne 43 count false
    rw [hmore, hdirect] at hwithin
    rw [map_rootOfText, rootWithin?, hroot]
    by_cases htolerates : ToleratesReferences direct (utf8Bytes content).length count
    · rw [if_pos htolerates, if_pos (hwithin.2 htolerates)]
    · rw [if_neg htolerates, if_neg (mt hwithin.1 htolerates)]
  have hutf8 : Sign.total (Sign.each Encoding.utf8.charSize content) =
      (utf8Bytes content).length := hmore
  have hsingle : Sign.total (Sign.each Encoding.latin1.charSize content) = content.length :=
    total_unitSigns content
  rw [drop_repeatingText] at htext hbytes
  refine ⟨RackSet.ofTree root, ?_, ?_⟩
  · rw [htext]
    exact hread .utf8 (fun _ => utf8Size_of_lt) _ (by rw [hutf8]; omega)
  · rw [hbytes]
    exact hread .latin1 (fun _ _ => rfl) _ (by rw [hsingle]; omega)

/-- Such a text and its bytes mean the same document exactly when all references are tolerated in
both of them or in neither. -/
theorem sameDocument_repeatingText_iff (hcontent : ∀ c ∈ content, IsLiteral c) (hne : content ≠ [])
    (hlatin1 : ∀ c ∈ content, c.toNat < 0x100) (count : ℕ) :
    SameDocument (.text (repeatingText content count))
        (.bytes (singleBytes (repeatingText content count).toList)) ↔
      (ToleratesReferences ((utf8Bytes content).length + 3 * count + 81)
          (utf8Bytes content).length count ↔
        ToleratesReferences (content.length + 3 * count + 81) (utf8Bytes content).length
          count) := by
  obtain ⟨set, htext, hbytes⟩ := read_repeatingText hcontent hne hlatin1 count
  rw [SameDocument, htext, hbytes]
  split
  · split
    · simp [*]
    · simp [*]
  · split
    · simp [*]
    · simp [*]

end Repeating

/-- A text in ISO-8859-1 whose bytes in that encoding are too few for what it expands. -/
def crowdedText : String :=
  repeatingText (List.replicate 56000 '\u00e9') 75

/-- The entity of the crowded text is literal. -/
theorem isLiteral_crowded : ∀ c ∈ List.replicate 56000 '\u00e9', IsLiteral c := by
  intro c hc
  rw [List.eq_of_mem_replicate hc]
  exact ⟨by decide, by decide⟩

/-- The entity of the crowded text can be encoded in ISO-8859-1. -/
theorem lt_crowded : ∀ c ∈ List.replicate 56000 '\u00e9', c.toNat < 0x100 := by
  intro c hc
  rw [List.eq_of_mem_replicate hc]
  decide

/-- The crowded text is tolerated in UTF-8, where each letter of its entity is two bytes of its own,
and not in ISO-8859-1. -/
theorem not_sameDocument_crowdedText :
    ¬ SameDocument (.text crowdedText) (.bytes (singleBytes crowdedText.toList)) := by
  have hbytes : (utf8Bytes (List.replicate 56000 '\u00e9')).length = 112000 := by
    rw [utf8Bytes, List.length_flatMap, List.map_replicate, List.sum_replicate_nat,
      String.length_utf8EncodeChar]
    rfl
  have hne : List.replicate 56000 '\u00e9' ≠ [] := by
    rw [Ne, List.replicate_eq_nil_iff]
    decide
  rw [crowdedText, sameDocument_repeatingText_iff isLiteral_crowded hne lt_crowded, hbytes,
    List.length_replicate]
  decide +kernel

/-! ## Texts and bytes -/

/-- A text that declares no encoding. -/
def undeclaredText : String :=
  "<racks><rack name=\"\u00e9\"/></racks>"

/-- A text in US-ASCII. -/
def asciiText : String :=
  "<?xml version=\"1.0\" encoding=\"us-ascii\"?><racks><rack name=\"e\"/></racks>"

end RackElevation
