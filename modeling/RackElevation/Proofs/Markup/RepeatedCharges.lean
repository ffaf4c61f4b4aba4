import RackElevation.Proofs.Markup.Limit
import RackElevation.Proofs.Markup.Repetition

/-!
# What an entity that is used many times is charged for

A document that refers to one entity many times has been counted as a whole when the tag with the
references ends.  Then each reference expands the text of the entity once more.  So the document is
within the limit exactly when its bytes tolerate what has been expanded after every reference.
-/

namespace RackElevation.Markup

/-! ## Spans of the document -/

namespace Spans

variable {size : Char → ℕ} {mode mode' : Mode} {cs cs' : List Char} {tokens tokens' : List Token}

/-- The reader goes on inside a span over some characters. -/
def Goes (size : Char → ℕ) (mode : Mode) (cs : List Char) (mode' : Mode) : Prop :=
  ∀ signs done, (Sign.each size cs).foldlM add { mode, read := signs, done } =
    some { mode := mode', read := (Sign.each size cs).reverse ++ signs, done }

/-- A span ends after some characters, and it makes some tokens. -/
def Ends (size : Char → ℕ) (mode : Mode) (cs : List Char) (tokens : List Token) : Prop :=
  ∀ signs done, (Sign.each size cs).foldlM add { mode, read := signs, done } =
    some { mode := .text 0, read := [],
           done := ⟨signs.reverse ++ Sign.each size cs, tokens⟩ :: done }

/-- The signs of characters in a row are in a row. -/
theorem each_append (size : Char → ℕ) (cs cs' : List Char) :
    Sign.each size (cs ++ cs') = Sign.each size cs ++ Sign.each size cs' :=
  List.map_append

/-- Two stretches without the end of a span in them make one. -/
theorem Goes.append {mode'' : Mode} (h : Goes size mode cs mode')
    (h' : Goes size mode' cs' mode'') :
    Goes size mode (cs ++ cs') mode'' := by
  intro signs done
  rw [each_append, List.foldlM_append, h, Option.bind_eq_bind, Option.bind_some, h',
    List.reverse_append, List.append_assoc]

/-- A stretch without the end of a span in it may stand before the end of one. -/
theorem Goes.ends (h : Goes size mode cs mode') (h' : Ends size mode' cs' tokens) :
    Ends size mode (cs ++ cs') tokens := by
  intro signs done
  rw [each_append, List.foldlM_append, h, Option.bind_eq_bind, Option.bind_some, h',
    List.reverse_append, List.reverse_reverse, List.append_assoc]

/-- A character that does not lead back into text is such a stretch. -/
theorem Goes.single {c : Char} (h : mode.step .wide c = some (mode', []))
    (hmode : ∀ brackets, mode' ≠ .text brackets) : Goes size mode [c] mode' := by
  intro signs done
  rw [Sign.each, List.map_singleton, List.foldlM_cons]
  simp only [add, h, Option.bind_eq_bind, Option.bind_some, Option.pure_def]
  rfl

/-- Characters that leave the reader inside one token. -/
theorem Goes.keep {mode : List Char → Mode}
    (hstep : ∀ read, ∀ c ∈ cs, (mode read).step .wide c = some (mode (c :: read), []))
    (hmode : ∀ read brackets, mode read ≠ .text brackets) (read : List Char) :
    Goes size (mode read) cs (mode (cs.reverse ++ read)) := by
  induction cs generalizing read with
  | nil => exact fun _ _ => rfl
  | cons c cs ih =>
      have hfirst : Goes size (mode read) [c] (mode (c :: read)) :=
        .single (hstep read c List.mem_cons_self) (hmode _)
      have hrest := ih (fun read d hd => hstep read d (List.mem_cons_of_mem c hd)) (c :: read)
      rw [List.reverse_cons, List.append_assoc, List.singleton_append]
      exact hfirst.append hrest

/-- Two spans, one after the other. -/
theorem spans?_of_ends (h : Ends size (.text 0) cs tokens) (h' : Ends size (.text 0) cs' tokens') :
    spans? (Sign.each size (cs ++ cs')) =
      some [⟨Sign.each size cs, tokens⟩, ⟨Sign.each size cs', tokens'⟩] := by
  have hsecond := h' [] [⟨Sign.each size cs, tokens⟩]
  have hfirst := h [] []
  rw [List.reverse_nil, List.nil_append] at hfirst hsecond
  simp only [spans?, each_append, List.foldlM_append, hfirst, hsecond, Option.bind_eq_bind,
    Option.bind_some]
  rfl

end Spans

/-- The characters of the document type. -/
def typeChars (content : List Char) : List Char :=
  beforeContent ++ (content ++ typeEnd)

/-- The characters of the tag with the references. -/
def tagChars (count : ℕ) : List Char :=
  tagStart ++ (references count ++ afterReferences)

/-- The document is its document type and its tag. -/
theorem repeating_eq (content : List Char) (count : ℕ) :
    repeating content count = typeChars content ++ tagChars count := by
  simp only [repeating, beforeReferences, typeChars, tagChars, List.append_assoc]

section Spans

variable {content : List Char} (size : Char → ℕ)

/-- The document type is the first span. -/
theorem ends_typeChars (hcontent : ∀ c ∈ content, IsLiteral c) :
    Spans.Ends size (.text 0) (typeChars content) [.doctype (repeatingParts content)] := by
  -- five stretches: up to the keyword, the root, the declaration, its name, and the text of the
  -- entity
  have hkeyword : Spans.Goes size (.text 0) "<!DOCTYPE ".toList (.doctype false .between []) :=
    fun _ _ => rfl
  have hroot : Spans.Goes size (.doctype false .between []) "r [".toList
      (.doctype true .between [.openBracket, .name "r"]) := fun _ _ => rfl
  have hentity : Spans.Goes size (.doctype true .between [.openBracket, .name "r"])
      "<!ENTITY ".toList (.doctype true .between [.declaration "ENTITY", .openBracket,
        .name "r"]) := fun _ _ => rfl
  have hname : Spans.Goes size
      (.doctype true .between [.declaration "ENTITY", .openBracket, .name "r"])
      "e \"".toList (inContent []) := fun _ _ => rfl
  have hkeep := @Spans.Goes.keep size content inContent
    (fun read c hc => step_inContent .wide read ((hcontent c hc).ne (by decide)))
    (fun _ _ => Mode.noConfusion) []
  rw [List.append_nil] at hkeep
  have hend : Spans.Ends size (inContent content.reverse) typeEnd
      [.doctype (repeatingParts content.reverse.reverse)] := by
    intro signs done
    have hsigns : signs.reverse ++ Sign.each size typeEnd =
        ((Sign.each size typeEnd).reverse ++ signs).reverse := by
      rw [List.reverse_append, List.reverse_reverse]
    rw [hsigns]
    rfl
  rw [List.reverse_reverse] at hend
  exact (hkeyword.append (hroot.append (hentity.append hname))).ends (hkeep.ends hend)

/-- The tag is the second span. -/
theorem ends_tagChars (count : ℕ) : Spans.Ends size (.text 0) (tagChars count)
    [.startTag "r" [("a", repeatingPieces count)] true] := by
  have hstart : Spans.Goes size (.text 0) tagStart (inReferences []) := fun _ _ => rfl
  have hkeep := @Spans.Goes.keep size (references count) inReferences
    (fun read c hc => step_inReferences .wide read
      (ne_of_mem_of_not_mem (mem_references hc) (by decide)))
    (fun _ _ => Mode.noConfusion) []
  rw [List.append_nil] at hkeep
  have hend : Spans.Ends size (inReferences (references count).reverse) afterReferences
      [.startTag "r" [("a", repeatingPieces count)] true] := by
    have hslash : Spans.Ends size (.inTag ⟨"r", [("a", repeatingPieces count)]⟩ false)
        "/>".toList [.startTag "r" [("a", repeatingPieces count)] true] := by
      intro signs done
      have hsigns : signs.reverse ++ Sign.each size "/>".toList =
          ((Sign.each size "/>".toList).reverse ++ signs).reverse := by
        rw [List.reverse_append, List.reverse_reverse]
      rw [hsigns]
      rfl
    exact (Spans.Goes.single (step_afterReferences .wide count)
      (fun _ => Mode.noConfusion)).ends hslash
  exact hstart.ends (hkeep.ends hend)

/-- The document is cut into its document type and its tag. -/
theorem spans?_repeating (hcontent : ∀ c ∈ content, IsLiteral c) (count : ℕ) :
    spans? (Sign.ofChars size (repeating content count)) =
      some [⟨Sign.each size (typeChars content), [.doctype (repeatingParts content)]⟩,
        ⟨Sign.each size (tagChars count),
          [.startTag "r" [("a", repeatingPieces count)] true]⟩] := by
  rw [Sign.ofChars_of_forall_ne fun c hc => (allowed_repeating hcontent c hc).2, repeating_eq]
  exact Spans.spans?_of_ends (ends_typeChars size hcontent) (ends_tagChars size count)

end Spans

/-! ## Charges of the document type -/

section Signs

variable {size : Char → ℕ}

/-- A size of characters that gives those below 0x80 one byte each. -/
def IsAsciiSize (size : Char → ℕ) : Prop :=
  ∀ c : Char, c.toNat < 0x80 → size c = 1

/-- The signs of characters of one byte each. -/
def unitSigns (cs : List Char) : List Sign :=
  Sign.each (fun _ => 1) cs

/-- The signs of characters in ASCII have one byte each. -/
theorem each_eq_unitSigns (hsize : IsAsciiSize size) (cs : List Char)
    (h : cs.all (·.toNat < 0x80) = true) : Sign.each size cs = unitSigns cs := by
  refine List.map_congr_left fun c hc => ?_
  rw [hsize c (of_decide_eq_true (List.all_eq_true.1 h c hc))]

/-- Signs of one byte have as many bytes as there are of them. -/
theorem total_unitSigns (cs : List Char) : Sign.total (unitSigns cs) = cs.length := by
  induction cs with
  | nil => rfl
  | cons c cs ih =>
      rw [unitSigns, Sign.each, List.map_cons, ← Sign.each, ← unitSigns, Sign.total_cons, ih,
        List.length_cons, Nat.add_comm]

end Signs

section Doctype

variable {size : Char → ℕ} {content : List Char}

/-- The charges for the document type up to its literal. -/
def typeStartCharges : List Charge :=
  [.bytes 9, .bytes 1, .bytes 1, .part (.name "r"), .bytes 1, .part .openBracket, .bytes 1,
    .bytes 8, .part (.declaration "ENTITY"), .bytes 1, .bytes 1, .part (.name "e"), .bytes 1]

/-- The charges for the document type from its literal on, which has so many bytes. -/
def typeEndCharges (content : List Char) (count : ℕ) : List Charge :=
  [.bytes (count + 2), .part (.literal content), .part .stop, .bytes 1, .part .closeBracket,
    .bytes 1, .part .stop, .bytes 1]

/-- The characters of a literal are one stretch. -/
theorem foldlM_literalSigns (size : Char → ℕ) (hcontent : ∀ c ∈ content, IsLiteral c)
    (charges : List Charge) (read : List Char) (last : Char) (run : ℕ) : ∃ last',
    (Sign.each size content).foldlM DoctypeBill.add ⟨.literal '\x22' read, last, ⟨charges, run⟩⟩ =
      some ⟨.literal '\x22' (content.reverse ++ read), last',
        ⟨charges, run + Sign.total (Sign.each size content)⟩⟩ := by
  induction content generalizing read last run with
  | nil => exact ⟨last, rfl⟩
  | cons c content ih =>
      obtain ⟨hc, hcontent⟩ := List.forall_mem_cons.1 hcontent
      have hquote : (c == '\x22') = false := beq_eq_false_iff_ne.2 (hc.ne (by decide))
      have hadd : DoctypeBill.add ⟨.literal '\x22' read, last, ⟨charges, run⟩⟩ ⟨c, size c, false⟩ =
          some ⟨.literal '\x22' (c :: read), c, ⟨charges, run + size c⟩⟩ := by
        simp only [DoctypeBill.add, DoctypeMode.step, hquote, Bool.false_eq_true, if_false]
        rfl
      obtain ⟨last', hrest⟩ := ih hcontent (c :: read) c (run + size c)
      refine ⟨last', ?_⟩
      rw [Sign.each, List.map_cons, List.foldlM_cons, hadd, ← Sign.each, Option.bind_eq_bind,
        Option.bind_some, hrest, List.reverse_cons, List.append_assoc, Sign.total_cons,
        Nat.add_assoc]
      rfl

/-- The charges of the document type up to the text of its entity. -/
theorem foldlM_typeStart : (unitSigns " r [<!ENTITY e \"".toList).foldlM DoctypeBill.add
    ⟨.between, 'E', ⟨[], 9⟩⟩ =
      some ⟨.literal '\x22' [], '\x22', ⟨typeStartCharges.reverse, 1⟩⟩ := by
  have hroot : (unitSigns " r [".toList).foldlM DoctypeBill.add ⟨.between, 'E', ⟨[], 9⟩⟩ =
      some ⟨.between, '[', ⟨[.part .openBracket, .bytes 1, .part (.name "r"), .bytes 1, .bytes 1,
        .bytes 9], 1⟩⟩ := rfl
  have hentity (charges : List Charge) : (unitSigns "<!ENTITY ".toList).foldlM DoctypeBill.add
      ⟨.between, '[', ⟨charges, 1⟩⟩ = some ⟨.between, ' ', ⟨.part (.declaration "ENTITY") ::
        .bytes 8 :: .bytes 1 :: charges, 1⟩⟩ := rfl
  have hname (charges : List Charge) : (unitSigns "e \"".toList).foldlM DoctypeBill.add
      ⟨.between, ' ', ⟨charges, 1⟩⟩ = some ⟨.literal '\x22' [], '\x22', ⟨.bytes 1 ::
        .part (.name "e") :: .bytes 1 :: .bytes 1 :: charges, 1⟩⟩ := rfl
  have hsigns : unitSigns " r [<!ENTITY e \"".toList = unitSigns " r [".toList ++
      (unitSigns "<!ENTITY ".toList ++ unitSigns "e \"".toList) := rfl
  rw [hsigns, List.foldlM_append, hroot]
  simp only [List.foldlM_append, hentity, hname, Option.bind_eq_bind, Option.bind_some]
  rfl

/-- The charges of the document type; only the text of its entity depends on the encoding. -/
theorem doctypeCharges_typeChars (hsize : IsAsciiSize size)
    (hcontent : ∀ c ∈ content, IsLiteral c) :
    doctypeCharges (Sign.each size (typeChars content)) =
      typeStartCharges ++ typeEndCharges content (Sign.total (Sign.each size content)) := by
  obtain ⟨last, hliteral⟩ := foldlM_literalSigns size hcontent typeStartCharges.reverse [] '\x22' 1
  have hend (read : List Char) (run : ℕ) : (unitSigns typeEnd).foldlM DoctypeBill.add
      ⟨.literal '\x22' read, last, ⟨typeStartCharges.reverse, 1 + run⟩⟩ =
        some ⟨.between, '>', ⟨[.part .stop, .bytes 1, .part .closeBracket, .bytes 1, .part .stop,
          .part (.literal read.reverse), .bytes (1 + run + 1)] ++ typeStartCharges.reverse,
            1⟩⟩ := rfl
  have hsigns : Sign.each size (typeChars content) = unitSigns "<!DOCTYPE".toList ++
      (unitSigns " r [<!ENTITY e \"".toList ++ (Sign.each size content ++ unitSigns typeEnd)) := by
    rw [typeChars, Spans.each_append, Spans.each_append,
      each_eq_unitSigns hsize beforeContent (by decide),
      each_eq_unitSigns hsize typeEnd (by decide)]
    rfl
  have hlength : (unitSigns "<!DOCTYPE".toList).length = "<!DOCTYPE".length := by decide
  rw [doctypeCharges, hsigns, List.take_left' hlength, List.drop_left' hlength]
  have hkeyword : Sign.total (unitSigns "<!DOCTYPE".toList) = 9 := rfl
  rw [hkeyword, List.foldlM_append, foldlM_typeStart]
  simp only [List.foldlM_append, hliteral, hend, Option.bind_eq_bind, Option.bind_some]
  rw [Nat.add_comm 1, List.append_nil, List.reverse_reverse, Bill.finish, Bill.close,
    if_neg Nat.one_ne_zero, List.reverse_cons, List.reverse_append, List.reverse_reverse,
    List.append_assoc]
  rfl

end Doctype

/-! ## Charges of the tag -/

section Tag

/-- The value of the tag is what is between the quotes. -/
theorem quoted_tagChars (count : ℕ) : (unitSigns (tagChars count)).foldl addQuoted (none, []) =
    (none, [unitSigns (references count)]) := by
  have hstart : (unitSigns tagStart).foldl addQuoted (none, []) = (some ('\x22', []), []) := rfl
  have hkeep : ∀ (cs : List Char) (read : List Sign), (∀ c ∈ cs, c ∈ ['&', 'e', ';']) →
      (unitSigns cs).foldl addQuoted (some ('\x22', read), []) =
        (some ('\x22', (unitSigns cs).reverse ++ read), []) := by
    intro cs
    induction cs with
    | nil => exact fun _ _ => rfl
    | cons c cs ih =>
        intro read h
        obtain ⟨hc, hcs⟩ := List.forall_mem_cons.1 h
        have hquote : (c == '\x22') = false :=
          beq_eq_false_iff_ne.2 (ne_of_mem_of_not_mem hc (by decide))
        have hadd : addQuoted (some ('\x22', read), []) ⟨c, 1, false⟩ =
            (some ('\x22', ⟨c, 1, false⟩ :: read), []) := by
          simp only [addQuoted, hquote, Bool.false_eq_true, if_false]
        rw [unitSigns, Sign.each, List.map_cons, List.foldl_cons, hadd, ← Sign.each, ← unitSigns,
          ih _ hcs, List.reverse_cons, List.append_assoc, List.singleton_append]
  have hend (read : List Sign) : (unitSigns afterReferences).foldl addQuoted
      (some ('\x22', read), []) = (none, [read.reverse]) := rfl
  rw [tagChars, unitSigns, Spans.each_append, Spans.each_append, ← unitSigns, ← unitSigns,
    ← unitSigns, List.foldl_append, List.foldl_append, hstart, hkeep _ [] fun _ => mem_references,
    hend, List.append_nil, List.reverse_reverse]

/-- The signs of a tag are counted as they are. -/
theorem countedSigns_each (size : Char → ℕ) (cs : List Char) :
    countedSigns (Sign.each size cs) = Sign.each size cs := by
  have hreturn : ¬ (Sign.each size cs).getLast?.any (·.isReturn) = true := by
    rw [Option.any_eq_true]
    rintro ⟨s, hs, hreturn⟩
    obtain ⟨c, -, rfl⟩ := List.mem_map.1 (List.mem_of_getLast? hs)
    contradiction
  rw [countedSigns, if_neg hreturn]

/-- Each reference in a value is charged for. -/
theorem filter_valueCharges_references (count : ℕ) :
    (valueCharges (unitSigns (references count))).filter Charge.isReference =
      List.replicate count (.value "e") := by
  have hclose (b : Bill) : b.close.charges.filter Charge.isReference =
      b.charges.filter Charge.isReference := by
    rcases b.charges_close with heq | heq
    · rw [heq]
    · rw [heq]
      rfl
  -- induction on the number of references: each adds one charge for itself, whatever bytes have run
  -- up
  have hfold : ∀ (count : ℕ) (b : Bill), ((unitSigns (references count)).foldl ValueBill.add
      { bill := b }).bill.charges.filter Charge.isReference =
        List.replicate count (.value "e") ++ b.charges.filter Charge.isReference := by
    intro count
    induction count with
    | zero => exact fun _ => rfl
    | succ count ih =>
        intro b
        have hone : (unitSigns ['&', 'e', ';']).foldl ValueBill.add { bill := b } =
            { bill := b.close.charge [.bytes 3, .value "e"] } := rfl
        have hsigns : unitSigns (references (count + 1)) =
            unitSigns ['&', 'e', ';'] ++ unitSigns (references count) := rfl
        have hcharge : (b.close.charge [.bytes 3, .value "e"]).charges.filter Charge.isReference =
            .value "e" :: b.charges.filter Charge.isReference := by
          rw [← hclose b, ← hclose b.close]
          rfl
        rw [hsigns, List.foldl_append, hone, ih, hcharge, List.replicate_succ']
        simp
  rw [valueCharges, unitSigns, countedSigns_each, ← unitSigns, Bill.finish, List.filter_reverse,
    hclose, hfold]
  simp

/-- The tag is charged for its bytes, and then for each reference in it. -/
theorem tagCharges_tagChars (count : ℕ) : tagCharges true (unitSigns (tagChars count)) =
    .bytes (3 * count + 9) :: List.replicate count (.value "e") := by
  have htotal : Sign.total (unitSigns (tagChars count)) = 3 * count + 9 := by
    rw [total_unitSigns, tagChars, List.length_append, List.length_append, length_references]
    show 6 + (3 * count + 3) = 3 * count + 9
    omega
  have hchars : (unitSigns (references count)).map (·.char) = references count := by
    rw [unitSigns, Sign.each, List.map_map]
    exact List.map_id _
  rw [tagCharges, htotal, quoted_tagChars, List.reverse_singleton, List.flatMap_singleton]
  simp only [hchars, if_true, filter_valueCharges_references]
  cases count with
  | zero => rfl
  | succ count => rfl

end Tag

/-- The charges for the document, whose content has so many bytes. -/
def repeatingCharges (content : List Char) (total count : ℕ) : List Charge :=
  typeStartCharges ++ typeEndCharges content total ++
    .bytes (3 * count + 9) :: List.replicate count (.value "e")

/-- The charges of the document, in any encoding that has one byte for ASCII. -/
theorem contentCharges?_repeating {size : Char → ℕ} {content : List Char}
    (hsize : IsAsciiSize size) (hcontent : ∀ c ∈ content, IsLiteral c) (count : ℕ) :
    contentCharges? 0 (Sign.ofChars size (repeating content count)) =
      some (repeatingCharges content (Sign.total (Sign.each size content)) count) := by
  have htag : Sign.each size (tagChars count) = unitSigns (tagChars count) := by
    have hmarks : ∀ c ∈ ['&', 'e', ';'], decide (c.toNat < 0x80) = true :=
      List.all_eq_true.1 (by decide)
    refine each_eq_unitSigns hsize _ (List.all_eq_true.2 fun c hc => ?_)
    rcases List.mem_append.1 hc with hc | hc
    · exact List.all_eq_true.1 (by decide : tagStart.all (·.toNat < 0x80) = true) c hc
    · rcases List.mem_append.1 hc with hc | hc
      · exact hmarks c (mem_references hc)
      · exact List.all_eq_true.1 (by decide : afterReferences.all (·.toNat < 0x80) = true) c hc
  rw [contentCharges?, spans?_repeating size hcontent, Option.bind_eq_bind, Option.bind_some,
    repeatingCharges, ← doctypeCharges_typeChars hsize hcontent, ← tagCharges_tagChars, ← htag]
  simp only [List.foldl_cons, List.foldl_nil, ContentBill.add, Bill.finish_charge, Span.charges]
  rw [show Bill.finish {} = [] from rfl, List.nil_append]
  rfl

/-! ## The account of the document -/

/-- A document of so many bytes may expand so many more. -/
def Tolerates (direct expanded : ℕ) : Prop :=
  Account.isTolerated { direct, expanded } = true

instance (direct expanded : ℕ) : Decidable (Tolerates direct expanded) :=
  inferInstanceAs (Decidable (_ = true))

section Account

variable {content : List Char} {payAll : List Charge → Account → Option Account}

/-- A text of literal characters is one stretch of a value. -/
theorem valueCharges_literal (hcontent : ∀ c ∈ content, IsLiteral c) (hne : content ≠ []) :
    valueCharges (Sign.ofText content) = [.bytes (Sign.total (Sign.ofText content))] := by
  have hfold : ∀ (cs : List Char) (run : ℕ), (∀ c ∈ cs, IsLiteral c) →
      (Sign.ofText cs).foldl ValueBill.add { bill := { run } } =
        { bill := { run := run + Sign.total (Sign.ofText cs) } } := by
    intro cs
    induction cs with
    | nil => exact fun _ _ => rfl
    | cons c cs ih =>
        intro run h
        obtain ⟨hc, hcs⟩ := List.forall_mem_cons.1 h
        have hand : (c == '&') = false := beq_eq_false_iff_ne.2 (hc.ne (by decide))
        have hspace : isSpace c = false := by
          simp only [isSpace, Bool.or_eq_false_iff, beq_eq_false_iff_ne]
          exact ⟨⟨⟨hc.ne (by decide), hc.ne (by decide)⟩, hc.ne (by decide)⟩, hc.ne (by decide)⟩
        have hadd : ValueBill.add { bill := { run } } ⟨c, c.utf8Size, false⟩ =
            { bill := { run := run + c.utf8Size } } := by
          simp only [ValueBill.add, hand, hspace, Bool.false_eq_true, if_false]
          rfl
        rw [Sign.ofText, List.map_cons, List.foldl_cons, hadd, ← Sign.ofText, ih _ hcs,
          Sign.total_cons, Nat.add_assoc]
  have hpos : Sign.total (Sign.ofText content) ≠ 0 := by
    obtain ⟨c, cs, rfl⟩ := List.exists_cons_of_ne_nil hne
    have hsize := Char.utf8Size_pos c
    exact (Nat.add_pos_left hsize _).ne'
  have hsigns : Sign.ofText content = Sign.each Char.utf8Size content := rfl
  rw [valueCharges, hsigns, countedSigns_each, ← hsigns]
  have hall := hfold content 0 hcontent
  rw [Nat.zero_add] at hall
  rw [show ({} : ValueBill) = { bill := { run := 0 } } from rfl, hall, Bill.finish, Bill.close,
    if_neg hpos]
  rfl

/-- A stretch of the document is paid for while nothing is expanded. -/
theorem add_bytes_of_expanded (a : Account) (h : a.expanded = 0) (count : ℕ) :
    Account.add payAll true a (.bytes count) = some { a with direct := a.direct + count } :=
  Account.pay_direct (h ▸ Nat.zero_le _) count

/-- The document type is paid for up to the text of its entity, whose name has been read. -/
theorem foldlM_typeStartCharges (direct : ℕ) (standalone : Bool) :
    typeStartCharges.foldlM (Account.add payAll true) { direct, standalone } =
      some { direct := direct + 24, standalone,
             subset := some { current := some ("ENTITY", [.name "e"]) } } := by
  have hroot (direct : ℕ) : Account.add payAll true { direct, standalone } (.part (.name "r")) =
      some { direct, standalone } := rfl
  have hopen (direct : ℕ) : Account.add payAll true { direct, standalone } (.part .openBracket) =
      some { direct, standalone, subset := some {} } := rfl
  have hkeyword (direct : ℕ) : Account.add payAll true { direct, standalone, subset := some {} }
      (.part (.declaration "ENTITY")) =
        some { direct, standalone, subset := some { current := some ("ENTITY", []) } } := rfl
  have hname (direct : ℕ) : Account.add payAll true
      { direct, standalone, subset := some { current := some ("ENTITY", []) } }
      (.part (.name "e")) =
        some { direct, standalone,
               subset := some { current := some ("ENTITY", [.name "e"]) } } := rfl
  simp only [typeStartCharges, List.foldlM_cons, List.foldlM_nil, add_bytes_of_expanded, hroot,
    hopen, hkeyword, hname, Option.bind_eq_bind, Option.bind_some]
  rfl

/-- The stop of its declaration makes the entity known. -/
theorem add_stop_entity (hcontent : ∀ c ∈ content, IsLiteral c) (direct : ℕ) (standalone : Bool) :
    Account.add payAll true
      { direct, standalone,
        subset := some { current := some ("ENTITY", [.literal content, .name "e"]) } }
      (.part .stop) =
        some { direct, standalone, subset := some {}, known := [("e", .ofText content)] } := by
  have htext := entityText?_literal .wide hcontent
  have hknown : Account.declare
      { direct, standalone,
        subset := some { current := some ("ENTITY", [.literal content, .name "e"]) } }
      (.entity "e" (.inside content)) =
        { direct, standalone, known := [("e", .ofText content)],
          subset := some { current := some ("ENTITY", [.literal content, .name "e"]) } } := by
    simp only [Account.declare, htext]
    rfl
  exact congrArg (fun a => some { a with subset := some {} }) hknown

/-- The document type is paid for from the text of its entity to its end. -/
theorem foldlM_typeEndCharges (hcontent : ∀ c ∈ content, IsLiteral c) (direct count : ℕ)
    (standalone : Bool) :
    (typeEndCharges content count).foldlM (Account.add payAll true)
      { direct, standalone, subset := some { current := some ("ENTITY", [.name "e"]) } } =
        some { direct := direct + (count + 5), standalone,
               known := [("e", .ofText content)] } := by
  have hliteral (direct : ℕ) : Account.add payAll true
      { direct, standalone, subset := some { current := some ("ENTITY", [.name "e"]) } }
      (.part (.literal content)) =
        some { direct, standalone,
               subset := some { current := some ("ENTITY", [.literal content, .name "e"]) } } :=
    rfl
  have hclose (a : Account) (ha : a.subset = some {}) :
      Account.add payAll true a (.part .closeBracket) = some { a with subset := none } := by
    simp only [Account.add, Account.payPart, ha]
    rfl
  have hstop (a : Account) (ha : a.subset = none) :
      Account.add payAll true a (.part .stop) = some a := by
    simp only [Account.add, Account.payPart, ha]
    rfl
  simp only [typeEndCharges, List.foldlM_cons, List.foldlM_nil, add_bytes_of_expanded, hliteral,
    add_stop_entity hcontent, hclose, hstop, Option.bind_eq_bind, Option.bind_some]
  rfl

/-- When the document type has been read, its bytes are counted and the entity is known. -/
theorem foldlM_typeCharges (hcontent : ∀ c ∈ content, IsLiteral c) (direct count : ℕ)
    (standalone : Bool) :
    (typeStartCharges ++ typeEndCharges content count).foldlM (Account.add payAll true)
      { direct, standalone } =
        some
          { direct := direct + (count + 29), standalone
            known := [("e", .ofText content)] } := by
  rw [List.foldlM_append, foldlM_typeStartCharges, Option.bind_eq_bind, Option.bind_some,
    foldlM_typeEndCharges hcontent, Nat.add_assoc, Nat.add_left_comm 24]

/-- A reference counts the bytes of the entity. -/
theorem add_reference (hcontent : ∀ c ∈ content, IsLiteral c) (hne : content ≠ []) {a : Account}
    (ha : a.known = [("e", .ofText content)]) :
    Account.add Account.payExpansion true a (.value "e") =
      a.pay false (Sign.total (Sign.ofText content)) := by
  have hentity : a.entity? "e" = some (.ofText content) := by
    rw [Account.entity?, ha]
    rfl
  have hpredefined : predefined? "e" = none := rfl
  rw [Account.add_value, Account.payEntity, hentity, hpredefined]
  simp only [Option.isSome_none, Bool.false_eq_true, if_false, EntityCharges.ofText,
    valueCharges_literal hcontent hne, Account.payExpansion, ha, Account.payNested,
    List.length_singleton, List.foldlM_cons, List.foldlM_nil, Account.add]
  exact bind_pure _

/-- All references can be paid when what has been expanded after each of them is tolerated. -/
theorem isSome_foldlM_references (hcontent : ∀ c ∈ content, IsLiteral c) (hne : content ≠ [])
    {a : Account} (ha : a.known = [("e", .ofText content)]) (count : ℕ) :
    ((List.replicate count (.value "e")).foldlM
      (Account.add Account.payExpansion true) a).isSome = true ↔
        ∀ k < count,
          Tolerates a.direct (a.expanded + (k + 1) * Sign.total (Sign.ofText content)) := by
  induction count generalizing a with
  | zero => simp
  | succ count ih =>
      set more := Sign.total (Sign.ofText content)
      have hpay : a.pay false more = if Tolerates a.direct (a.expanded + more)
          then some { a with expanded := a.expanded + more } else none := rfl
      rw [List.replicate_succ, List.foldlM_cons, add_reference hcontent hne ha, hpay,
        Nat.forall_lt_succ_left, Nat.zero_add, Nat.one_mul]
      split
      · next htolerates =>
          rw [Option.bind_eq_bind, Option.bind_some, ih (a := { a with
            expanded := a.expanded + more }) ha, and_iff_right htolerates]
          refine forall₂_congr fun k _ => ?_
          rw [Nat.succ_mul (k + 1), Nat.add_assoc, Nat.add_comm more]
      · next hstops => simp [hstops]

/-- The document is within the limit exactly when its bytes tolerate what has been expanded after
each of the references. -/
theorem isWithinLimit_repeating_iff {size : Char → ℕ} (hsize : IsAsciiSize size)
    (hcontent : ∀ c ∈ content, IsLiteral c) (hne : content ≠ []) (before count : ℕ)
    (standalone : Bool) :
    isWithinLimit size before standalone (repeating content count) = true ↔
      ∀ k < count, Tolerates (before + (Sign.total (Sign.each size content) + (3 * count + 38)))
        ((k + 1) * Sign.total (Sign.ofText content)) := by
  have hrun (total : ℕ) : (repeatingCharges content total count).foldlM
      (Account.add Account.payExpansion true) { direct := before, standalone } =
        (List.replicate count (.value "e")).foldlM (Account.add Account.payExpansion true)
          { direct := before + (total + (3 * count + 38)), standalone,
            known := [("e", .ofText content)] } := by
    have hdirect : before + (total + 29) + (3 * count + 9) =
        before + (total + (3 * count + 38)) := by
      omega
    rw [repeatingCharges, List.foldlM_append, foldlM_typeCharges hcontent, Option.bind_eq_bind,
      Option.bind_some, List.foldlM_cons, Account.add, Account.pay_direct (Nat.zero_le _),
      Option.bind_eq_bind, Option.bind_some, hdirect]
  rw [isWithinLimit, contentCharges?_repeating hsize hcontent]
  simp only [hrun]
  rw [isSome_foldlM_references hcontent hne rfl]
  simp only [Nat.zero_add]

end Account

end RackElevation.Markup
