import RackElevation.Proofs.Markup.Tidy

/-!
# Line ends of written trees

A reader unifies line ends before it looks for tags.  In a written tree only the texts are affected:
tags hold no line ends, since those of attribute values are escaped, and no text is joined with the
angle bracket after it.  So the characters of a written tree, with unified line ends, are those of
the tree whose texts have unified line ends.
-/

namespace RackElevation.Markup

/-- A text with unified line ends that is read after a carriage return, or after another character.
-/
def unifyFrom : Bool → List Char → List Char
  | _, [] => []
  | after, c :: cs =>
      if c == '\r' then '\n' :: unifyFrom true cs
      else if c == '\n' && after then unifyFrom false cs
      else c :: unifyFrom false cs

/-- Unifying line ends one by one is the recursion, on what is left of the characters. -/
theorem foldl_addUnified (cs read : List Char) (after : Bool) :
    (cs.foldl addUnified (read, after)).1 = (unifyFrom after cs).reverse ++ read := by
  induction cs generalizing read after with
  | nil => rfl
  | cons c cs ih =>
      rw [List.foldl_cons, addUnified, unifyFrom]
      split
      · rw [ih, List.reverse_cons, List.append_assoc, List.singleton_append]
      · split
        · rw [ih]
        · rw [ih, List.reverse_cons, List.append_assoc, List.singleton_append]

/-- Unifying line ends is the recursion from the start. -/
theorem unifyLineEnds_eq (cs : List Char) : unifyLineEnds cs = unifyFrom false cs := by
  rw [unifyLineEnds, foldl_addUnified, List.append_nil, List.reverse_reverse]

/-- A character that belongs to no line end. -/
def IsPlain (c : Char) : Prop :=
  c ≠ '\r' ∧ c ≠ '\n'

instance (c : Char) : Decidable (IsPlain c) :=
  inferInstanceAs (Decidable (_ ∧ _))

/-- A plain character stays, and ends a line end that was begun. -/
theorem unifyFrom_cons {c : Char} (hc : IsPlain c) (after : Bool) (cs : List Char) :
    unifyFrom after (c :: cs) = c :: unifyFrom false cs := by
  rw [unifyFrom, if_neg (by simpa using hc.1), if_neg (by simp [hc.2])]

/-- A character that belongs to no line end separates two texts. -/
theorem unifyFrom_append_cons {c : Char} (hc : IsPlain c) (after : Bool) (cs rest : List Char) :
    unifyFrom after (cs ++ c :: rest) = unifyFrom after cs ++ c :: unifyFrom false rest := by
  induction cs generalizing after with
  | nil => exact unifyFrom_cons hc after rest
  | cons d cs ih =>
      rw [List.cons_append, unifyFrom, unifyFrom]
      split
      · rw [ih, List.cons_append]
      · split
        · rw [ih]
        · rw [ih, List.cons_append]

/-- A text without line ends stays as it is. -/
theorem unifyFrom_append {cs : List Char} (h : ∀ c ∈ cs, IsPlain c) (rest : List Char) :
    unifyFrom false (cs ++ rest) = cs ++ unifyFrom false rest := by
  induction cs with
  | nil => rfl
  | cons c cs ih =>
      rw [List.cons_append, unifyFrom_cons (h c (List.mem_cons_self ..)),
        ih fun d hd => h d (List.mem_cons_of_mem c hd), List.cons_append]

/-- A text with a carriage return nowhere has only unified line ends. -/
theorem unifyFrom_of_forall_ne {cs : List Char} (h : ∀ c ∈ cs, c ≠ '\r') :
    unifyFrom false cs = cs := by
  induction cs with
  | nil => rfl
  | cons c cs ih =>
      rw [unifyFrom, if_neg (by simpa using h c (List.mem_cons_self ..)), if_neg (by simp),
        ih fun d hd => h d (List.mem_cons_of_mem c hd)]

/-- Unifying line ends adds no character but the line feed. -/
theorem mem_unifyFrom {cs : List Char} {after : Bool} {c : Char} (h : c ∈ unifyFrom after cs) :
    c ∈ cs ∨ c = '\n' := by
  induction cs generalizing after with
  | nil => exact Or.inl h
  | cons d cs ih =>
      rw [unifyFrom] at h
      split at h
      · rcases List.mem_cons.1 h with rfl | h
        · exact Or.inr rfl
        · exact (ih h).imp_left (List.mem_cons_of_mem d)
      · split at h
        · exact (ih h).imp_left (List.mem_cons_of_mem d)
        · rcases List.mem_cons.1 h with rfl | h
          · exact Or.inl (List.mem_cons_self ..)
          · exact (ih h).imp_left (List.mem_cons_of_mem d)

/-- A text does not vanish when its line ends are unified. -/
theorem unifyFrom_ne_nil {cs : List Char} (h : cs ≠ []) : unifyFrom false cs ≠ [] := by
  obtain ⟨c, cs, rfl⟩ := List.exists_cons_of_ne_nil h
  rw [unifyFrom, Bool.and_false]
  split
  · exact List.cons_ne_nil _ _
  · exact List.cons_ne_nil _ _

/-! ## Escapes -/

/-- A character of a text without line ends is plain. -/
theorem isPlain_of_mem {c : Char} {cs : List Char} (hc : c ∈ cs) (hcr : '\r' ∉ cs)
    (hlf : '\n' ∉ cs) : IsPlain c :=
  ⟨ne_of_mem_of_not_mem hc hcr, ne_of_mem_of_not_mem hc hlf⟩

/-- The characters of escapes are plain. -/
theorem isPlain_of_mem_escapeMarks : ∀ c ∈ escapeMarks, IsPlain c :=
  fun _ hc => isPlain_of_mem hc (by decide) (by decide)

/-- Escaping a plain character leaves plain characters. -/
theorem isPlain_of_mem_escapeTextChar {c : Char} (hc : IsPlain c) :
    ∀ d ∈ escapeTextChar c, IsPlain d := by
  intro d hd
  rcases mem_escapeTextChar hd with hd | ⟨rfl, -⟩
  · exact isPlain_of_mem_escapeMarks d hd
  · exact hc

/-- Escaped values are plain, for their line ends are escaped. -/
theorem isPlain_of_mem_escapeValue {cs : List Char} : ∀ c ∈ escapeValue cs, IsPlain c := by
  intro d hd
  obtain ⟨c, -, hd⟩ := List.mem_flatMap.1 hd
  rcases mem_escapeValueChar hd with hd | ⟨rfl, -, -, -, hcr, hlf⟩
  · exact isPlain_of_mem_escapeMarks d hd
  · exact ⟨hcr, hlf⟩

theorem escapeTextChar_ne_nil (c : Char) : escapeTextChar c ≠ [] := by
  unfold escapeTextChar
  split <;> exact List.cons_ne_nil _ _

/-- Escaping a text keeps its line ends. -/
theorem unifyFrom_escapeText (after : Bool) (cs : List Char) :
    unifyFrom after (escapeText cs) = escapeText (unifyFrom after cs) := by
  induction cs generalizing after with
  | nil => rfl
  | cons c cs ih =>
      rw [escapeText_cons]
      by_cases hcr : c = '\r'
      · subst hcr
        exact congrArg ('\n' :: ·) (ih true)
      by_cases hlf : c = '\n'
      · subst hlf
        cases after with
        | true => exact ih false
        | false => exact congrArg ('\n' :: ·) (ih false)
      · obtain ⟨d, ds, hds⟩ := List.exists_cons_of_ne_nil (escapeTextChar_ne_nil c)
        have hplain := isPlain_of_mem_escapeTextChar ⟨hcr, hlf⟩
        rw [hds] at hplain
        rw [unifyFrom_cons ⟨hcr, hlf⟩, escapeText_cons, hds,
          List.cons_append, unifyFrom_cons (hplain d (List.mem_cons_self ..)),
          unifyFrom_append fun e he => hplain e (List.mem_cons_of_mem d he), ih, List.cons_append]

/-! ## Trees -/

namespace Node

/-- Characters of names are plain. -/
theorem isPlain_of_continuesName {c : Char} (h : Mode.continuesName .common c = true) :
    IsPlain c :=
  ⟨ne_of_continuesName h (by decide), ne_of_continuesName h (by decide)⟩

/-- A written tag is plain. -/
theorem isPlain_of_mem_tagChars {name : String} {attributes : List (String × String)}
    (htag : WritableTag name attributes) : ∀ c ∈ tagChars name attributes, IsPlain c :=
  forall_mem_tagChars htag (fun _ h => isPlain_of_continuesName h)
    (fun _ hc => isPlain_of_mem hc (by decide) (by decide))
    fun _ _ => isPlain_of_mem_escapeValue

/-- The name of a written tag is plain. -/
theorem isPlain_of_mem_name {name : String} {attributes : List (String × String)}
    (htag : WritableTag name attributes) : ∀ c ∈ name.toList, IsPlain c :=
  fun _ h => isPlain_of_continuesName (continuesName_of_mem htag.name_ok h)

/-- After a row that begins with an element, or is empty, comes an angle bracket. -/
theorem exists_writtenRow_eq {nodes : List (Node String)}
    (h : ∀ next ∈ nodes.head?, next.isElement = true) (rest : List Char) :
    ∃ tail, writtenRow nodes ++ '<' :: rest = '<' :: tail := by
  cases nodes with
  | nil => exact ⟨rest, rfl⟩
  | cons node nodes =>
      obtain ⟨tail, htail⟩ := exists_writtenChars_eq (h node rfl)
      exact ⟨_, by rw [writtenRow, htail, List.cons_append, List.cons_append]⟩

mutual

/-- The written form of an element with unified line ends. -/
theorem unifyFrom_element : ∀ {node : Node String}, node.Tidy → node.isElement = true →
    ∀ after rest, unifyFrom after (node.writtenChars ++ rest) =
      node.unified.writtenChars ++ unifyFrom false rest
  | .element name attributes [], h, _ => by
      intro after rest
      have hend : ∀ c ∈ [' ', '/', '>'], IsPlain c :=
        fun _ hc => isPlain_of_mem hc (by decide) (by decide)
      rw [unified, unifiedRow, writtenChars_element_nil, List.cons_append,
        unifyFrom_cons (by decide), List.append_assoc,
        unifyFrom_append (isPlain_of_mem_tagChars h.1), unifyFrom_append hend, ← List.append_assoc,
        List.cons_append]
  | .element name attributes (child :: rest'), h, _ => by
      intro after rest
      rw [unified, unifiedRow, writtenChars_element_cons, writtenChars_element_cons,
        List.cons_append, unifyFrom_cons (by decide), List.append_assoc,
        unifyFrom_append (isPlain_of_mem_tagChars h.1), List.cons_append,
        unifyFrom_cons (by decide), List.append_assoc, List.cons_append,
        unifyFrom_writtenRow h.2, List.cons_append, unifyFrom_cons (by decide), List.append_assoc,
        unifyFrom_append (isPlain_of_mem_name h.1), List.singleton_append,
        unifyFrom_cons (by decide), unifiedRow]
      simp only [List.cons_append, List.append_assoc, List.nil_append]

/-- A written row with unified line ends.  After it comes an angle bracket. -/
theorem unifyFrom_writtenRow : ∀ {nodes : List (Node String)}, TidyRow nodes →
    ∀ rest, unifyFrom false (writtenRow nodes ++ '<' :: rest) =
      writtenRow (unifiedRow nodes) ++ '<' :: unifyFrom false rest
  | [], _ => fun rest => unifyFrom_cons (by decide) false rest
  | .text content :: nodes, h => by
      intro rest
      -- the text ends before an angle bracket, so its last line end is its own
      have hnext := h.2.1.resolve_left Bool.false_ne_true
      obtain ⟨tail, htail⟩ := exists_writtenRow_eq hnext rest
      have ih := unifyFrom_writtenRow h.2.2 rest
      rw [htail, unifyFrom_cons (by decide)] at ih
      rw [writtenRow, List.append_assoc, htail, writtenChars, unifyFrom_append_cons (by decide), ih,
        unifyFrom_escapeText, unifiedRow, writtenRow, unified, writtenChars, String.toList_ofList,
        unifyLineEnds_eq, List.append_assoc]
  | .element name attributes children :: nodes, h => by
      intro rest
      rw [writtenRow, List.append_assoc, unifyFrom_element h.1 rfl, unifyFrom_writtenRow h.2.2,
        unifiedRow, writtenRow, List.append_assoc]

end

/-- The characters of a written element, with unified line ends, are those of the element whose
texts have unified line ends. -/
theorem unifyLineEnds_writtenChars {node : Node String} (h : node.Tidy)
    (helement : node.isElement = true) :
    unifyLineEnds node.writtenChars = node.unified.writtenChars := by
  have hnil := unifyFrom_element h helement false []
  rwa [List.append_nil, unifyFrom, List.append_nil, ← unifyLineEnds_eq] at hnil

theorem head?_unifiedRow (nodes : List (Node String)) :
    (unifiedRow nodes).head? = nodes.head?.map unified := by
  cases nodes <;> rfl

mutual

/-- Unified line ends keep a tree tidy. -/
theorem Tidy.unified : ∀ {node : Node String}, node.Tidy → node.unified.Tidy
  | .text content, h => by
      have hne : content.toList ≠ [] := fun hnil => h.1 (String.toList_eq_nil_iff.1 hnil)
      refine ⟨fun hempty => unifyFrom_ne_nil hne ?_, fun c hc => ?_⟩
      · rw [← unifyLineEnds_eq, ← String.toList_ofList (l := unifyLineEnds content.toList), hempty,
          String.toList_empty]
      · rw [String.toList_ofList, unifyLineEnds_eq] at hc
        rcases mem_unifyFrom hc with hc | rfl
        · exact h.2 c hc
        · decide
  | .element _ _ _, h => ⟨h.1, TidyRow.unified h.2⟩

/-- A tidy row stays tidy when its line ends are unified. -/
theorem TidyRow.unified : ∀ {nodes : List (Node String)}, TidyRow nodes → TidyRow (unifiedRow nodes)
  | [], _ => trivial
  | _ :: nodes, h => by
      refine ⟨Tidy.unified h.1, h.2.1.imp ?_ fun hnext next hmem => ?_, TidyRow.unified h.2.2⟩
      · exact (isElement_unified _).trans
      · rw [head?_unifiedRow, Option.mem_def, Option.map_eq_some_iff] at hmem
        obtain ⟨node, hnode, rfl⟩ := hmem
        exact (isElement_unified node).trans (hnext node hnode)

end

end Node

end RackElevation.Markup
