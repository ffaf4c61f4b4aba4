import RackElevation.Markup.Writer
import RackElevation.Proofs.Markup.Names

/-!
# Trees that can be written

A tree is tidy when its written form can be read: names are qualified names, no attribute comes
twice, all texts are allowed in a document, and between any two runs of text there is an element.
The line ends of its texts are what a reader does not give back.
-/

namespace RackElevation.Markup

/-! ## Escapes -/

theorem escapeText_cons (c : Char) (cs : List Char) :
    escapeText (c :: cs) = escapeTextChar c ++ escapeText cs := rfl

/-- A character that is no mark of markup is not escaped in a text. -/
theorem escapeTextChar_of_ne {c : Char} (hamp : c ≠ '&') (hlt : c ≠ '<') (hgt : c ≠ '>') :
    escapeTextChar c = [c] := by
  unfold escapeTextChar
  split <;> first | contradiction | rfl

/-- A character that is no quote, line end or tab is escaped in a value as in a text. -/
theorem escapeValueChar_of_ne {c : Char} (hquot : c ≠ '\x22') (hcr : c ≠ '\r') (hlf : c ≠ '\n')
    (htab : c ≠ '\t') : escapeValueChar c = escapeTextChar c := by
  unfold escapeValueChar
  split <;> first | contradiction | rfl

/-- A character of a text is one of three that are escaped, or another one. -/
@[elab_as_elim]
theorem escapeTextChar_cases {motive : Char → Prop} (amp : motive '&') (lt : motive '<')
    (gt : motive '>') (other : ∀ c, c ≠ '&' → c ≠ '<' → c ≠ '>' → motive c) (c : Char) :
    motive c := by
  by_cases hamp : c = '&'
  · rwa [hamp]
  by_cases hlt : c = '<'
  · rwa [hlt]
  by_cases hgt : c = '>'
  · rwa [hgt]
  exact other c hamp hlt hgt

/-- A character of an attribute value is escaped there, or treated like one of a text. -/
@[elab_as_elim]
theorem escapeValueChar_cases {motive : Char → Prop} (quot : motive '\x22') (cr : motive '\r')
    (lf : motive '\n') (tab : motive '\t')
    (other : ∀ c, c ≠ '\x22' → c ≠ '\r' → c ≠ '\n' → c ≠ '\t' → motive c) (c : Char) :
    motive c := by
  by_cases hquot : c = '\x22'
  · rwa [hquot]
  by_cases hcr : c = '\r'
  · rwa [hcr]
  by_cases hlf : c = '\n'
  · rwa [hlf]
  by_cases htab : c = '\t'
  · rwa [htab]
  exact other c hquot hcr hlf htab

/-- The characters that an escape is made of. -/
def escapeMarks : List Char :=
  "&;#0139agltmpquo".toList

/-- An escaped character is the character itself, or an escape. -/
theorem mem_escapeTextChar {c d : Char} (h : d ∈ escapeTextChar c) :
    d ∈ escapeMarks ∨ d = c ∧ c ≠ '&' ∧ c ≠ '<' ∧ c ≠ '>' := by
  unfold escapeTextChar at h
  split at h
  · exact Or.inl ((by decide : "&amp;".toList ⊆ escapeMarks) h)
  · exact Or.inl ((by decide : "&lt;".toList ⊆ escapeMarks) h)
  · exact Or.inl ((by decide : "&gt;".toList ⊆ escapeMarks) h)
  · next hamp hlt hgt => exact Or.inr ⟨List.mem_singleton.1 h, hamp, hlt, hgt⟩

/-- What is written for a character in a value belongs to an escape, or it is the character, which
is then no mark. -/
theorem mem_escapeValueChar {c d : Char} (h : d ∈ escapeValueChar c) :
    d ∈ escapeMarks ∨
      d = c ∧ c ≠ '<' ∧ c ≠ '>' ∧ c ≠ '\x22' ∧ c ≠ '\r' ∧ c ≠ '\n' := by
  unfold escapeValueChar at h
  split at h
  · exact Or.inl ((by decide : "&quot;".toList ⊆ escapeMarks) h)
  · exact Or.inl ((by decide : "&#13;".toList ⊆ escapeMarks) h)
  · exact Or.inl ((by decide : "&#10;".toList ⊆ escapeMarks) h)
  · exact Or.inl ((by decide : "&#09;".toList ⊆ escapeMarks) h)
  · next hquot hcr hlf htab =>
      rcases mem_escapeTextChar h with h | ⟨hd, -, hlt, hgt⟩
      · exact Or.inl h
      · exact Or.inr ⟨hd, hlt, hgt, hquot, hcr, hlf⟩

/-- The characters of escapes are allowed. -/
theorem isAllowed_of_mem_escapeMarks : ∀ c ∈ escapeMarks, isAllowed c = true :=
  List.all_eq_true.1 (by decide)

/-- Escaping an allowed text leaves allowed characters. -/
theorem isAllowed_of_mem_escapeText {cs : List Char} (h : ∀ c ∈ cs, isAllowed c = true) :
    ∀ c ∈ escapeText cs, isAllowed c = true := by
  intro d hd
  obtain ⟨c, hc, hd⟩ := List.mem_flatMap.1 hd
  rcases mem_escapeTextChar hd with hd | ⟨rfl, -⟩
  · exact isAllowed_of_mem_escapeMarks d hd
  · exact h d hc

/-- Escaping an allowed value leaves allowed characters. -/
theorem isAllowed_of_mem_escapeValue {cs : List Char} (h : ∀ c ∈ cs, isAllowed c = true) :
    ∀ c ∈ escapeValue cs, isAllowed c = true := by
  intro d hd
  obtain ⟨c, hc, hd⟩ := List.mem_flatMap.1 hd
  rcases mem_escapeValueChar hd with hd | ⟨rfl, -⟩
  · exact isAllowed_of_mem_escapeMarks d hd
  · exact h d hc

/-! ## Tidy trees -/

/-- A name and attributes that can stand in a tag. -/
structure WritableTag (name : String) (attributes : List (String × String)) : Prop where
  name_ok : Alphabet.common.isQualifiedName name.toList = true
  nodup : (attributes.map Prod.fst).Nodup
  names_ok : ∀ entry ∈ attributes, Alphabet.common.isQualifiedName entry.1.toList = true
  values_ok : ∀ entry ∈ attributes, IsAllowedText entry.2

namespace Node

mutual

/-- A tree whose written form can be read. -/
def Tidy : Node String → Prop
  | .text content => content ≠ "" ∧ IsAllowedText content
  | .element name attributes children => WritableTag name attributes ∧ TidyRow children

/-- A row of such trees, with no two runs of text side by side. -/
def TidyRow : List (Node String) → Prop
  | [] => True
  | node :: rest =>
      Tidy node ∧ (node.isElement = true ∨ ∀ next ∈ rest.head?, next.isElement = true) ∧
        TidyRow rest

end

section Unified

variable {Name : Type}

mutual

/-- A tree with every line end of its texts made a line feed. -/
def unified : Node Name → Node Name
  | .text content => .text (String.ofList (unifyLineEnds content.toList))
  | .element name attributes children => .element name attributes (unifiedRow children)

/-- A row of such trees. -/
def unifiedRow : List (Node Name) → List (Node Name)
  | [] => []
  | node :: rest => unified node :: unifiedRow rest

end

/-- Unifying line ends makes no element a text. -/
theorem isElement_unified (node : Node Name) : node.unified.isElement = node.isElement := by
  cases node <;> rfl

end Unified

/-! ## Written elements -/

/-- The characters of a tag up to its end. -/
def tagChars (name : String) (attributes : List (String × String)) : List Char :=
  name.toList ++ attributes.flatMap writtenAttribute

theorem writtenChars_element_nil (name : String) (attributes : List (String × String)) :
    writtenChars (.element name attributes []) =
      '<' :: (tagChars name attributes ++ [' ', '/', '>']) := rfl

/-- An element with children is written as a start tag, the children and an end tag. -/
theorem writtenChars_element_cons (name : String) (attributes : List (String × String))
    (child : Node String) (rest : List (Node String)) :
    writtenChars (.element name attributes (child :: rest)) =
      '<' :: (tagChars name attributes ++
        '>' :: (writtenRow (child :: rest) ++ '<' :: '/' :: (name.toList ++ ['>']))) := by
  rw [writtenChars, writtenRow, tagChars]

/-- A written element begins with an angle bracket. -/
theorem exists_writtenChars_eq {node : Node String} (h : node.isElement = true) :
    ∃ tail, node.writtenChars = '<' :: tail := by
  cases node with
  | text content => contradiction
  | element name attributes children =>
      cases children with
      | nil => exact ⟨_, writtenChars_element_nil name attributes⟩
      | cons child rest => exact ⟨_, writtenChars_element_cons name attributes child rest⟩

/-! ## Characters of written trees -/

/-- What holds of the characters of names, of the marks of a tag and of the escaped values holds of
all characters of a tag. -/
theorem forall_mem_tagChars {p : Char → Prop} {name : String}
    {attributes : List (String × String)} (htag : WritableTag name attributes)
    (hname : ∀ c, Mode.continuesName .common c = true → p c)
    (hmarks : ∀ c ∈ [' ', '=', '\x22'], p c)
    (hvalues : ∀ entry ∈ attributes, ∀ c ∈ escapeValue entry.2.toList, p c) :
    ∀ c ∈ tagChars name attributes, p c := by
  intro c hc
  rcases List.mem_append.1 hc with hc | hc
  · exact hname c (continuesName_of_mem htag.name_ok hc)
  · obtain ⟨entry, hentry, hc⟩ := List.mem_flatMap.1 hc
    simp only [writtenAttribute, List.mem_cons, List.mem_append, List.not_mem_nil, or_false] at hc
    rcases hc with rfl | hc | rfl | rfl | hc | rfl
    · exact hmarks _ (by decide)
    · exact hname c (continuesName_of_mem (htag.names_ok entry hentry) hc)
    · exact hmarks _ (by decide)
    · exact hmarks _ (by decide)
    · exact hvalues entry hentry c hc
    · exact hmarks _ (by decide)

/-- A written tag has allowed characters only. -/
theorem isAllowed_of_mem_tagChars {name : String} {attributes : List (String × String)}
    (htag : WritableTag name attributes) : ∀ c ∈ tagChars name attributes, isAllowed c = true :=
  forall_mem_tagChars htag (fun _ h => isAllowed_of_continuesName h)
    (List.all_eq_true.1 (by decide))
    fun entry hentry => isAllowed_of_mem_escapeValue (htag.values_ok entry hentry)

/-- The name of a written tag has allowed characters only. -/
theorem isAllowed_of_mem_name {name : String} {attributes : List (String × String)}
    (htag : WritableTag name attributes) : ∀ c ∈ name.toList, isAllowed c = true :=
  fun _ h => isAllowed_of_continuesName (continuesName_of_mem htag.name_ok h)

mutual

/-- A tidy tree is written in allowed characters. -/
theorem isAllowed_of_mem_writtenChars :
    ∀ {node : Node String}, node.Tidy → ∀ c ∈ node.writtenChars, isAllowed c = true
  -- one case for each way in which a tree is written
  | .text _, h => isAllowed_of_mem_escapeText h.2
  | .element name attributes [], h => by
      intro c hc
      simp only [writtenChars_element_nil, List.mem_cons, List.mem_append, List.not_mem_nil,
        or_false] at hc
      rcases hc with rfl | hc | rfl | rfl | rfl
      · decide
      · exact isAllowed_of_mem_tagChars h.1 c hc
      · decide
      · decide
      · decide
  | .element name attributes (child :: rest), h => by
      intro c hc
      simp only [writtenChars_element_cons, List.mem_cons, List.mem_append, List.not_mem_nil,
        or_false] at hc
      rcases hc with rfl | hc | rfl | hc | rfl | rfl | hc | rfl
      · decide
      · exact isAllowed_of_mem_tagChars h.1 c hc
      · decide
      · exact isAllowed_of_mem_writtenRow h.2 c hc
      · decide
      · decide
      · exact isAllowed_of_mem_name h.1 c hc
      · decide

/-- A written row of tidy trees has allowed characters only. -/
theorem isAllowed_of_mem_writtenRow :
    ∀ {nodes : List (Node String)}, TidyRow nodes → ∀ c ∈ writtenRow nodes, isAllowed c = true
  | [], _ => fun _ hc => absurd hc List.not_mem_nil
  | _ :: _, h => fun c hc => (List.mem_append.1 hc).elim
      (isAllowed_of_mem_writtenChars h.1 c) (isAllowed_of_mem_writtenRow h.2.2 c)

end

end Node

end RackElevation.Markup
