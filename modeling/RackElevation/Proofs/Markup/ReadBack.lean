import RackElevation.Proofs.Markup.Assembly
import RackElevation.Proofs.Markup.Bytes
import RackElevation.Proofs.Markup.Letters
import RackElevation.Proofs.Markup.Limit

/-!
# Reading written trees

Writing a tidy tree and reading what was written gives the tree back: its names are expanded, the
attributes that bind namespaces are gone, and its line ends are unified.  The text may be read as it
is or as its bytes in UTF-8.
-/

namespace RackElevation.Markup

/-- A text that is read as a tree, and whose bytes in UTF-8 are. -/
def ReadsAs (text : String) (tree : Node ExpandedName) : Prop :=
  readTree (.text text) = .ok tree ∧ readTree (.bytes (Source.text text).toBytes) = .ok tree

section Roots

variable {node : Node String} {tree : Node ExpandedName} {d : Definitions} {lead : List Char}

theorem escapeText_lead (hlead : ∀ c ∈ lead, c = '\n') : escapeText lead = lead := by
  induction lead with
  | nil => rfl
  | cons c lead ih =>
      obtain rfl := hlead c (List.mem_cons_self ..)
      rw [escapeText_cons, ih fun d hd => hlead d (List.mem_cons_of_mem _ hd)]
      rfl

/-- Line feeds before the root element leave nothing. -/
theorem foldlM_add_lead {addAll : List Token → Reader → Option Reader}
    (hlead : ∀ c ∈ lead, c = '\n') (r : Reader) (hr : r.parents = []) :
    (lead.map textToken).foldlM (Reader.add .common addAll) r = some r := by
  induction lead with
  | nil => rfl
  | cons c lead ih =>
      obtain rfl := hlead c (List.mem_cons_self ..)
      have hadd : r.add .common addAll (textToken '\n') = some r := by
        rw [textToken_of_ne (by decide) (by decide) (by decide), Reader.add, Reader.addChar, hr]
        rfl
      rw [List.map_cons, List.foldlM_cons, hadd, Option.bind_eq_bind, Option.bind_some,
        ih fun d hd => hlead d (List.mem_cons_of_mem _ hd)]

/-- The root element of the tokens of a written tree. -/
theorem rootOf?_tokens (h : node.Tidy) (helement : node.isElement = true)
    (htree : node.expand? .outermost = some tree) (hd : d.rules = [])
    (hlead : ∀ c ∈ lead, c = '\n') :
    rootOf? .common d (lead.map textToken ++ node.tokens) = some tree := by
  have hnode := @Reader.foldlM_add_tokens .common (Reader.addEntity .common) node h helement
    { definitions := d } tree ⟨hd, rfl⟩ rfl htree
  simp only [rootOf?, List.foldlM_append, foldlM_add_lead hlead { definitions := d } rfl,
    Option.bind_eq_bind, Option.bind_some, hnode]
  rfl

/-- The characters of a written tree, after line feeds, are read into its tokens. -/
theorem ofChars?_written (h : node.Tidy) (helement : node.isElement = true)
    (hlead : ∀ c ∈ lead, c = '\n') :
    Token.ofChars? .common (unifyLineEnds (lead ++ node.writtenChars)) =
      some (lead.map textToken ++ node.unified.tokens) := by
  have hunified : unifyLineEnds (lead ++ node.writtenChars) =
      lead ++ node.unified.writtenChars := by
    obtain ⟨tail, htail⟩ := Node.exists_writtenChars_eq helement
    have hends : unifyFrom false lead = lead :=
      unifyFrom_of_forall_ne fun c hc => by rw [hlead c hc]; decide
    rw [← Node.unifyLineEnds_writtenChars h helement, htail, unifyLineEnds_eq, unifyLineEnds_eq,
      unifyFrom_append_cons (by decide), unifyFrom_cons (by decide), hends]
  have hstart := readsText_escapeText lead
  rw [escapeText_lead hlead] at hstart
  rw [hunified]
  exact Node.ofChars?_of_readsText (hstart.append (Node.readsText_writtenChars h.unified))

/-- The root element of the characters of a written tree, after line feeds. -/
theorem rootOfChars?_written (h : node.Tidy) (helement : node.isElement = true)
    (htree : node.unified.expand? .outermost = some tree) (hlead : ∀ c ∈ lead, c = '\n')
    (d : Definitions) (hd : d.rules = []) :
    rootOfChars? .common d (lead ++ node.writtenChars) = some tree := by
  have hallowed : (lead ++ node.writtenChars).all isAllowed = true := by
    rw [List.all_eq_true]
    intro c hc
    rcases List.mem_append.1 hc with hc | hc
    · obtain rfl := hlead c hc
      decide
    · exact Node.isAllowed_of_mem_writtenChars h c hc
  rw [rootOfChars?, if_pos hallowed, ofChars?_written h helement hlead, Option.bind_eq_bind,
    Option.bind_some]
  exact rootOf?_tokens h.unified ((Node.isElement_unified node).trans helement) htree hd hlead

/-- A written tree is within the limit on expansions, in any encoding. -/
theorem isWithinLimit_written (h : node.Tidy) (helement : node.isElement = true)
    (hlead : ∀ c ∈ lead, c = '\n') {size : Char → ℕ} (hsize : ∀ c, 0 < size c) (before : ℕ)
    (standalone : Bool) :
    isWithinLimit size before standalone (lead ++ node.writtenChars) = true := by
  have htokens := (Token.ofChars?_carries (fun c _ => Alphabet.yields_common_wide c)
    (ofChars?_written h helement hlead)).1
  refine isWithinLimit_of_tokens (fun c _ => hsize c) htokens (fun parts hmem => ?_) before
    standalone
  rcases List.mem_append.1 hmem with hmem | hmem
  · obtain ⟨c, -, hc⟩ := List.mem_map.1 hmem
    exact textToken_ne_doctype c parts hc
  · exact Node.doctype_notMem_tokens node.unified parts hmem

end Roots

/-! ## Sources -/

theorem ofNat_byte_ne {b : UInt8} (hb : b ≠ 0x3F) : Char.ofNat b.toNat ≠ '?' := by
  intro h
  have hvalid : b.toNat.isValidChar := Or.inl (lt_trans b.toNat_lt (by decide))
  rw [Char.ofNat, dif_pos hvalid] at h
  exact hb (UInt8.toNat_inj.1 (congrArg Char.toNat h))

/-- What begins with an angle bracket has no declaration, unless a question mark follows. -/
theorem ofStart_cons {tail : List Char} (h : tail.head? ≠ some '?') :
    Declaration.ofStart ('<' :: tail) = .ok ({}, 0) := by
  unfold Declaration.ofStart
  split
  · next heq =>
      obtain rfl := (List.cons.inj heq).2
      exact absurd rfl h
  · rfl

/-- What begins with an angle bracket and a start character shows no encoding and declares nothing.
-/
theorem detect_and_ofStart {c : Char} (hc : Alphabet.common.isStart c = true) (rest : List Char) :
    detect (utf8Bytes ('<' :: c :: rest)) = (.utf8, utf8Bytes ('<' :: c :: rest)) ∧
      Declaration.ofStart (Encoding.utf8.asciiStart (utf8Bytes ('<' :: c :: rest))) =
        .ok ({}, 0) := by
  have hcontinues := continuesName_of_isStart hc
  -- the first letter of the name is no zero byte and no question mark
  obtain ⟨b, bs, hbs, hzero⟩ := exists_utf8EncodeChar_eq
    (ne_of_continuesName hcontinues (d := '\x00') (by decide)) (by decide)
  obtain ⟨b', bs', hbs', hquestion⟩ := exists_utf8EncodeChar_eq
    (ne_of_continuesName hcontinues (d := '?') (by decide)) (by decide)
  obtain ⟨rfl, rfl⟩ := List.cons.inj (hbs.symm.trans hbs')
  have hbytes : utf8Bytes (c :: rest) = b :: (bs ++ utf8Bytes rest) := by
    rw [utf8Bytes, List.flatMap_cons, hbs, List.cons_append, ← utf8Bytes]
  have hopen : utf8Bytes ('<' :: c :: rest) = 0x3C :: utf8Bytes (c :: rest) := rfl
  refine ⟨?_, ?_⟩
  · rw [hopen, hbytes]
    exact detect_cons_cons hzero _
  · have hascii : ∀ d ∈ ['<'], d.toNat < 0x80 := List.forall_mem_singleton.2 (by decide)
    have hstart : Encoding.utf8.asciiStart (0x3C :: utf8Bytes (c :: rest)) =
        '<' :: Encoding.utf8.asciiStart (utf8Bytes (c :: rest)) :=
      asciiStart_append hascii _
    rw [hopen, hstart]
    refine ofStart_cons ?_
    rw [hbytes, asciiStart_utf8, List.takeWhile_cons]
    split
    · intro hhead
      exact ofNat_byte_ne hquestion (Option.some.inj hhead)
    · exact (Option.some_ne_none _).symm

section Sources

variable {node : Node String} {tree : Node ExpandedName}

theorem exists_writtenChars_start (h : node.Tidy) (helement : node.isElement = true) :
    ∃ c rest, node.writtenChars = '<' :: c :: rest ∧ Alphabet.common.isStart c = true := by
  cases node with
  | text content => contradiction
  | element name attributes children =>
      obtain ⟨c, rest, hname, hc, -⟩ := exists_cons_of_isQualifiedName h.1.name_ok
      cases children with
      | nil =>
          rw [Node.writtenChars_element_nil, Node.tagChars, hname]
          exact ⟨c, _, rfl, hc⟩
      | cons child row =>
          rw [Node.writtenChars_element_cons, Node.tagChars, hname]
          exact ⟨c, _, rfl, hc⟩

/-- A source without a declaration, whose bytes are those of a written tree. -/
theorem readTree_written {source : Source} (h : node.Tidy) (helement : node.isElement = true)
    (htree : node.unified.expand? .outermost = some tree)
    (hbytes : source.toBytes = utf8Bytes node.writtenChars) : readTree source = .ok tree := by
  obtain ⟨c, rest, hchars, hc⟩ := exists_writtenChars_start h helement
  obtain ⟨hdetect, hstart⟩ := detect_and_ofStart hc rest
  rw [← hchars, ← hbytes] at hdetect hstart
  have hlead : ∀ d ∈ ([] : List Char), d = '\n' := fun _ hd => absurd hd List.not_mem_nil
  refine readTree_of_ofStart [] node.writtenChars {} (by rw [List.nil_append, hbytes]) (by simp)
    hdetect hstart ?_ ?_ fun d hd => ?_
  · cases source <;> rfl
  · exact isWithinLimit_written h helement hlead Char.utf8Size_pos _ _
  · exact rootOfChars?_written h helement htree hlead d hd

/-- Reading what was written gives the tree back, with expanded names and unified line ends. -/
theorem readsAs_written (h : node.Tidy) (helement : node.isElement = true)
    (htree : node.unified.expand? .outermost = some tree) : ReadsAs node.written tree := by
  have hbytes : (Source.text node.written).toBytes = utf8Bytes node.writtenChars := by
    rw [toBytes_text, Node.written, String.toList_ofList]
  exact ⟨readTree_written h helement htree hbytes, readTree_written h helement htree hbytes⟩

end Sources

end RackElevation.Markup
