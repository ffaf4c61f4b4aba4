import Mathlib.Algebra.GroupWithZero.Nat
import Mathlib.Data.List.Basic
import RackElevation.Markup.Charge
import RackElevation.Proofs.Markup.LineEnds

/-!
# What a document is charged for

The signs of a document are its characters as the reader sees them, so they are cut into spans
wherever the reader finds the end of a token.  Whether that works does not depend on how many bytes
a character has.

In a document without a document type every reference is covered: before what it stands for is
charged, at least as many bytes of the document have been counted as references.  The bytes of a tag
cover all references in it, however its values are charged after it.
-/

namespace RackElevation.Markup

/-! ## Signs -/

namespace Sign

variable {size size' : Char → ℕ} {cs : List Char}

/-- The signs of a document depend on the bytes of its own characters only. -/
theorem ofChars_congr (h : ∀ c ∈ cs, size c = size' c) : ofChars size cs = ofChars size' cs := by
  have hstep : ∀ read, ∀ c ∈ cs, add size read c = add size' read c := by
    intro read c hc
    simp only [add, ofChar, h c hc]
  rw [ofChars, ofChars, List.foldl_ext _ _ [] hstep]

/-- The characters of signs that are read on, the last one first, are those read before and the
unified ones after them. -/
theorem map_char_foldl (read : List Sign) : ((cs.foldl (add size) read).map (·.char)) =
    (unifyFrom (read.head?.any (·.isReturn)) cs).reverse ++ read.map (·.char) := by
  induction cs generalizing read with
  | nil => rfl
  | cons c cs ih =>
      have hnew : (cs.foldl (add size) (ofChar size c :: read)).map (·.char) =
          (unifyFrom (c == '\r') cs).reverse ++
            (if c == '\r' then '\n' else c) :: read.map (·.char) := ih _
      rw [List.foldl_cons, unifyFrom]
      cases read with
      | nil =>
          rw [add, hnew]
          split <;> simp [*]
      | cons s rest =>
          rw [add]
          by_cases hjoins : (c == '\n' && s.isReturn) = true
          · -- the line feed after a carriage return adds its bytes only
            obtain ⟨hc, hs⟩ := Bool.and_eq_true_iff.1 hjoins
            obtain rfl := eq_of_beq hc
            rw [if_pos hjoins, ih]
            simp [hs]
          · rw [if_neg hjoins, hnew]
            split
            · simp [*]
            · rw [if_neg (by simpa using hjoins)]
              simp [*]

/-- The signs of a document are its characters with unified line ends. -/
theorem map_char_ofChars (size : Char → ℕ) (cs : List Char) :
    (ofChars size cs).map (·.char) = unifyLineEnds cs := by
  rw [ofChars, List.map_reverse, map_char_foldl, List.map_nil, List.append_nil,
    List.reverse_reverse, unifyLineEnds_eq]
  rfl

/-- The signs of some characters, one sign for each of them. -/
def each (size : Char → ℕ) (cs : List Char) : List Sign :=
  cs.map fun c => { char := c, size := size c }

/-- A document without carriage returns has one sign for each character. -/
theorem ofChars_of_forall_ne (h : ∀ c ∈ cs, c ≠ '\r') : ofChars size cs = each size cs := by
  have hfold : ∀ read : List Sign, (∀ s ∈ read, s.isReturn = false) →
      cs.foldl (add size) read = (each size cs).reverse ++ read := by
    induction cs with
    | nil => exact fun _ _ => rfl
    | cons c cs ih =>
        intro read hread
        obtain ⟨hc, hcs⟩ := List.forall_mem_cons.1 h
        have hsign : ofChar size c = { char := c, size := size c } := by
          simp [ofChar, hc]
        have hadd : add size read c = { char := c, size := size c } :: read := by
          cases read with
          | nil => rw [add, hsign]
          | cons s rest => simp [add, hread s List.mem_cons_self, hsign]
        rw [List.foldl_cons, hadd, ih hcs _ (List.forall_mem_cons.2 ⟨rfl, hread⟩), each, each,
          List.map_cons, List.reverse_cons, List.append_assoc, List.singleton_append]
  rw [ofChars, hfold [] (fun _ hs => absurd hs List.not_mem_nil), List.append_nil,
    List.reverse_reverse]

/-- No sign is without bytes when no character is. -/
theorem size_pos_of_mem_ofChars (h : ∀ c ∈ cs, 0 < size c) : ∀ s ∈ ofChars size cs, 0 < s.size := by
  have hfold : ∀ read : List Sign, (∀ s ∈ read, 0 < s.size) →
      ∀ s ∈ cs.foldl (add size) read, 0 < s.size := by
    induction cs with
    | nil => exact fun _ hread => hread
    | cons c cs ih =>
        intro read hread
        obtain ⟨hc, hcs⟩ := List.forall_mem_cons.1 h
        refine ih hcs _ ?_
        unfold add
        split
        · next s rest =>
            obtain ⟨hs, hrest⟩ := List.forall_mem_cons.1 hread
            split
            · exact List.forall_mem_cons.2 ⟨Nat.add_pos_left hs _, hrest⟩
            · exact List.forall_mem_cons.2 ⟨hc, hread⟩
        · exact List.forall_mem_singleton.2 hc
  exact fun s hs => hfold [] (fun _ hs => absurd hs List.not_mem_nil) s (List.mem_reverse.1 hs)

theorem total_cons (s : Sign) (signs : List Sign) : total (s :: signs) = s.size + total signs := rfl

/-- There are at least as many bytes as signs. -/
theorem length_le_total {signs : List Sign} (h : ∀ s ∈ signs, 0 < s.size) :
    signs.length ≤ total signs := by
  induction signs with
  | nil => exact Nat.zero_le _
  | cons s signs ih =>
      obtain ⟨hs, hsigns⟩ := List.forall_mem_cons.1 h
      have hle := ih hsigns
      rw [List.length_cons, total_cons]
      omega

end Sign

/-! ## Spans -/

/-- A span of signs with bytes, whose tokens are among given ones. -/
structure Span.IsAmong (tokens : List Token) (span : Span) : Prop where
  pos : ∀ s ∈ span.signs, 0 < s.size
  ne_nil : span.signs ≠ []
  tokens : ∀ t ∈ span.tokens, t ∈ tokens

/-- A document that is cut into spans while its tokens are read. -/
structure Spans.Follows (s : Spans) (read : Mode × List Token) : Prop where
  mode : s.mode = read.1
  pos : ∀ sign ∈ s.read, 0 < sign.size
  done : ∀ span ∈ s.done, span.IsAmong read.2

/-- One more sign, where the tokens are read on. -/
theorem Spans.exists_add {s : Spans} {read read' : Mode × List Token} {sign : Sign}
    (hs : s.Follows read) (hsign : 0 < sign.size)
    (h : Token.read .wide read sign.char = some read') :
    ∃ s', s.add sign = some s' ∧ s'.Follows read' := by
  simp only [Token.read, Option.bind_eq_bind, Option.bind_eq_some_iff, Option.pure_def,
    Option.some.injEq] at h
  obtain ⟨⟨mode, tokens⟩, hstep, rfl⟩ := h
  have hsigns : ∀ t ∈ sign :: s.read, 0 < t.size := List.forall_mem_cons.2 ⟨hsign, hs.pos⟩
  have hdone : ∀ span ∈ s.done, span.IsAmong (tokens.reverse ++ read.2) := fun span hspan =>
    ⟨(hs.done span hspan).pos, (hs.done span hspan).ne_nil,
      fun t ht => List.mem_append_right _ ((hs.done span hspan).tokens t ht)⟩
  simp only [add, hs.mode, hstep, Option.bind_eq_bind, Option.bind_some, Option.pure_def]
  split
  · next brackets =>
      refine ⟨_, rfl, rfl, fun _ ht => absurd ht List.not_mem_nil,
        List.forall_mem_cons.2 ⟨⟨?_, ?_, ?_⟩, hdone⟩⟩
      · exact fun t ht => hsigns t (List.mem_reverse.1 ht)
      · exact mt List.reverse_eq_nil_iff.1 (List.cons_ne_nil _ _)
      · exact fun t ht => List.mem_append_left _ (List.mem_reverse.2 ht)
  · exact ⟨_, rfl, rfl, hsigns, hdone⟩

/-- A document whose tokens are read is cut into spans of them. -/
theorem exists_spans {signs : List Sign} {tokens : List Token} (hsigns : ∀ s ∈ signs, 0 < s.size)
    (h : Token.ofChars? .wide (signs.map (·.char)) = some tokens) :
    ∃ spans, spans? signs = some spans ∧ ∀ span ∈ spans, span.IsAmong tokens := by
  have hfold : ∀ (s : Spans) (read read' : Mode × List Token), s.Follows read →
      (signs.map (·.char)).foldlM (Token.read .wide) read = some read' →
        ∃ s', signs.foldlM Spans.add s = some s' ∧ s'.Follows read' := by
    clear h
    induction signs with
    | nil =>
        intro s read read' hs h
        obtain rfl := Option.some.inj h
        exact ⟨s, rfl, hs⟩
    | cons sign signs ih =>
        intro s read read' hs h
        obtain ⟨hsign, hsigns⟩ := List.forall_mem_cons.1 hsigns
        simp only [List.map_cons, List.foldlM_cons, Option.bind_eq_bind,
          Option.bind_eq_some_iff] at h ⊢
        obtain ⟨between, hbetween, h⟩ := h
        obtain ⟨s', hs', hfollows⟩ := Spans.exists_add hs hsign hbetween
        obtain ⟨s'', hs'', hfollows⟩ := ih hsigns s' between read' hfollows h
        exact ⟨s'', ⟨s', hs', hs''⟩, hfollows⟩
  simp only [Token.ofChars?, Option.bind_eq_bind, Option.bind_eq_some_iff] at h
  obtain ⟨⟨mode, read⟩, hread, h⟩ := h
  obtain ⟨s, hs, hfollows⟩ := hfold {} (.text 0, []) (mode, read)
    ⟨rfl, fun _ ht => absurd ht List.not_mem_nil, fun _ ht => absurd ht List.not_mem_nil⟩ hread
  rw [spans?, hs, Option.bind_eq_bind, Option.bind_some, hfollows.mode]
  split at h
  · next heq =>
    obtain ⟨rfl, rfl⟩ := Prod.mk.inj heq
    obtain rfl := Option.some.inj h
    refine ⟨_, rfl, fun span hspan => ?_⟩
    have hamong := hfollows.done span (List.mem_reverse.1 hspan)
    exact ⟨hamong.pos, hamong.ne_nil, fun t ht => List.mem_reverse.2 (hamong.tokens t ht)⟩
  · contradiction

/-! ## Charges of bytes and references -/

namespace Charge

/-- Charges for stretches of bytes and for at most so many references. -/
structure HasReferences (most : ℕ) (charges : List Charge) : Prop where
  noPart : ∀ token, .part token ∉ charges
  count : charges.countP isReference ≤ most

namespace HasReferences

variable {most most' : ℕ} {charges charges' : List Charge}

theorem nil : HasReferences 0 [] :=
  ⟨fun _ => List.not_mem_nil, Nat.le_refl _⟩

/-- A stretch of bytes has no references. -/
theorem bytes (count : ℕ) : HasReferences 0 [.bytes count] :=
  ⟨fun _ h => absurd (List.mem_singleton.1 h) (by simp), Nat.le_refl _⟩

/-- A bound on the references may be raised. -/
theorem mono (h : HasReferences most charges) (hle : most ≤ most') : HasReferences most' charges :=
  ⟨h.noPart, h.count.trans hle⟩

/-- The references of charges in a row add up. -/
theorem append (h : HasReferences most charges) (h' : HasReferences most' charges') :
    HasReferences (most + most') (charges ++ charges') :=
  ⟨fun token hmem => (List.mem_append.1 hmem).elim (h.noPart token) (h'.noPart token), by
    rw [List.countP_append]
    exact Nat.add_le_add h.count h'.count⟩

theorem reverse (h : HasReferences most charges) : HasReferences most charges.reverse :=
  ⟨fun token hmem => h.noPart token (List.mem_reverse.1 hmem), by
    rw [List.countP_reverse]
    exact h.count⟩

/-- There are no more references among some of the charges. -/
theorem filter (h : HasReferences most charges) (p : Charge → Bool) :
    HasReferences most (charges.filter p) :=
  ⟨fun token hmem => h.noPart token (List.mem_of_mem_filter hmem),
    List.filter_sublist.countP_le.trans h.count⟩

/-- Several values, each with at most as many references as signs. -/
theorem flatMap {values : List (List Sign)} {f : List Sign → List Charge}
    (h : ∀ value ∈ values, HasReferences value.length (f value)) :
    HasReferences ((values.map List.length).sum) (values.flatMap f) := by
  induction values with
  | nil => exact nil
  | cons value values ih =>
      obtain ⟨hvalue, hvalues⟩ := List.forall_mem_cons.1 h
      rw [List.map_cons, List.sum_cons, List.flatMap_cons]
      exact hvalue.append (ih hvalues)

end HasReferences

/-- Every reference is covered by a byte that was counted before it, where so many bytes before all
of the charges cover nothing yet. -/
def Covered : ℕ → List Charge → Prop
  | _, [] => True
  | spare, .bytes count :: rest => Covered (spare + count) rest
  | spare, .content _ :: rest | spare, .value _ :: rest => 0 < spare ∧ Covered (spare - 1) rest
  | _, .part _ :: _ => False

variable {spare spare' : ℕ} {charges charges' : List Charge}

/-- More bytes before the charges cover them as well. -/
theorem Covered.mono (h : Covered spare charges) (hle : spare ≤ spare') :
    Covered spare' charges := by
  induction charges generalizing spare spare' with
  | nil => trivial
  | cons charge charges ih =>
      cases charge with
      | bytes count => exact ih h (Nat.add_le_add_right hle count)
      | content name => exact ⟨h.1.trans_le hle, ih h.2 (Nat.sub_le_sub_right hle 1)⟩
      | value name => exact ⟨h.1.trans_le hle, ih h.2 (Nat.sub_le_sub_right hle 1)⟩
      | part token => exact h

/-- Charges that need no bytes before them may follow any covered charges. -/
theorem Covered.append (h : Covered spare charges) (h' : Covered 0 charges') :
    Covered spare (charges ++ charges') := by
  induction charges generalizing spare with
  | nil => exact h'.mono (Nat.zero_le _)
  | cons charge charges ih =>
      cases charge with
      | bytes count => exact ih h
      | content name => exact ⟨h.1, ih h.2⟩
      | value name => exact ⟨h.1, ih h.2⟩
      | part token => exact h

/-- So many bytes cover so many references. -/
theorem HasReferences.covered (h : HasReferences spare charges) : Covered spare charges := by
  induction charges generalizing spare with
  | nil => trivial
  | cons charge charges ih =>
      have hnoPart : ∀ token, .part token ∉ charges :=
        fun token hmem => h.noPart token (List.mem_cons_of_mem _ hmem)
      have hcount := h.count
      rw [List.countP_cons] at hcount
      cases charge with
      | bytes count => exact ih ⟨hnoPart, by omega⟩
      | content name =>
          have hone : isReference (.content name) = true := rfl
          rw [if_pos hone] at hcount
          exact ⟨by omega, ih ⟨hnoPart, by omega⟩⟩
      | value name =>
          have hone : isReference (.value name) = true := rfl
          rw [if_pos hone] at hcount
          exact ⟨by omega, ih ⟨hnoPart, by omega⟩⟩
      | part token => exact absurd List.mem_cons_self (h.noPart token)

end Charge

/-! ## Bills -/

namespace Bill

variable {b : Bill}

/-- What a bill is charged with is what it ends with. -/
theorem finish_charge (b : Bill) (charges : List Charge) :
    (b.charge charges).finish = b.finish ++ charges := by
  rw [finish, close, if_pos (show (b.charge charges).run = 0 from rfl), charge, List.reverse_append,
    List.reverse_reverse, finish]

/-- A bill that is closed has at most one more charge, for the bytes that ran up. -/
theorem charges_close (b : Bill) :
    b.close.charges = b.charges ∨ b.close.charges = .bytes b.run :: b.charges := by
  rw [close]
  split
  · exact .inl rfl
  · exact .inr rfl

/-- Closing a bill adds no references. -/
theorem hasReferences_close {most : ℕ} (h : Charge.HasReferences most b.charges) :
    Charge.HasReferences most b.close.charges := by
  rcases b.charges_close with heq | heq
  · rwa [heq]
  · rw [heq]
    have hadded := (Charge.HasReferences.bytes b.run).append h
    rwa [Nat.zero_add] at hadded

/-- Charging a bill adds the references of the charges. -/
theorem hasReferences_charge {most more : ℕ} {charges : List Charge}
    (h : Charge.HasReferences most b.charges) (hcharges : Charge.HasReferences more charges) :
    Charge.HasReferences (most + more) (b.charge charges).charges := by
  rw [charge, Nat.add_comm]
  exact hcharges.reverse.append (hasReferences_close h)

/-- Finishing a bill adds no references. -/
theorem hasReferences_finish {most : ℕ} (h : Charge.HasReferences most b.charges) :
    Charge.HasReferences most b.finish :=
  (hasReferences_close h).reverse

/-- The run of bytes at the end covers what is charged before it is closed. -/
theorem covered_finish (h : Charge.Covered 0 b.charges.reverse) : Charge.Covered 0 b.finish := by
  rw [finish]
  rcases b.charges_close with heq | heq
  · rwa [heq]
  · rw [heq, List.reverse_cons]
    exact h.append trivial

end Bill

/-! ## Values and tags -/

/-- One more sign of a value holds at most one more reference. -/
theorem ValueBill.hasReferences_add {v : ValueBill} {most : ℕ} (s : Sign)
    (h : Charge.HasReferences most v.bill.charges) :
    Charge.HasReferences (most + 1) (v.add s).bill.charges := by
  have hbytes (b : Bill) (count : ℕ) (hb : Charge.HasReferences most b.charges) :
      Charge.HasReferences (most + 1) (b.charge [.bytes count]).charges :=
    (Bill.hasReferences_charge hb (.bytes count)).mono (Nat.le_succ most)
  unfold add
  split
  · split
    · rw [referenceCharges]
      split
      · exact hbytes _ _ h
      · refine Bill.hasReferences_charge h ⟨fun token hmem => ?_, Nat.le_refl 1⟩
        simp at hmem
    · exact h.mono (Nat.le_succ most)
  · split
    · exact (Bill.hasReferences_close h).mono (Nat.le_succ most)
    · split
      · exact hbytes _ _ h
      · exact h.mono (Nat.le_succ most)

/-- A value holds no more references than signs. -/
theorem hasReferences_valueCharges (signs : List Sign) :
    Charge.HasReferences signs.length (valueCharges signs) := by
  have hfold : ∀ (signs : List Sign) (v : ValueBill) (most : ℕ),
      Charge.HasReferences most v.bill.charges →
        Charge.HasReferences (most + signs.length) (signs.foldl ValueBill.add v).bill.charges := by
    intro signs
    induction signs with
    | nil => exact fun _ _ h => h
    | cons s signs ih =>
        intro v most h
        have hrest := ih _ _ (ValueBill.hasReferences_add s h)
        rwa [Nat.add_assoc, Nat.add_comm 1] at hrest
  have hcounted : (countedSigns signs).length ≤ signs.length := by
    rw [countedSigns]
    split
    · rw [List.length_dropLast]
      exact Nat.sub_le _ _
    · exact Nat.le_refl _
  have hall := hfold (countedSigns signs) {} 0 .nil
  rw [Nat.zero_add] at hall
  exact (Bill.hasReferences_finish hall).mono hcounted

/-- The number of signs in the quotes of a tag, the ones that are still open included. -/
def quotedLength (s : Option (Char × List Sign) × List (List Sign)) : ℕ :=
  (s.1.map (·.2.length)).getD 0 + (s.2.map List.length).sum

/-- One more sign of a tag is at most one more in its quotes. -/
theorem quotedLength_addQuoted_le (s : Option (Char × List Sign) × List (List Sign)) (sign : Sign) :
    quotedLength (addQuoted s sign) ≤ quotedLength s + 1 := by
  unfold quotedLength addQuoted
  split
  · next quote read hopen =>
      simp only [hopen, Option.map_some, Option.getD_some]
      split
      · simp only [Option.map_none, Option.getD_none, List.map_cons, List.sum_cons,
          List.length_reverse]
        omega
      · simp only [Option.map_some, Option.getD_some, List.length_cons]
        omega
  · next hclosed =>
      simp only [hclosed, Option.map_none, Option.getD_none]
      split
      · simp only [Option.map_some, Option.getD_some, List.length_nil]
        omega
      · simp only [hclosed, Option.map_none, Option.getD_none]
        omega

/-- So many more signs of a tag are at most as many more in its quotes. -/
theorem quotedLength_foldl_le (signs : List Sign)
    (s : Option (Char × List Sign) × List (List Sign)) :
    quotedLength (signs.foldl addQuoted s) ≤ quotedLength s + signs.length := by
  induction signs generalizing s with
  | nil => exact Nat.le_refl _
  | cons sign signs ih =>
      have hstep := quotedLength_addQuoted_le s sign
      have hrest := ih (addQuoted s sign)
      rw [List.foldl_cons, List.length_cons]
      omega

/-- The values that are quoted in a tag have no more signs than the tag. -/
theorem length_quoted_le (signs : List Sign) :
    (((signs.foldl addQuoted (none, [])).2.reverse).map List.length).sum ≤ signs.length := by
  have hall := quotedLength_foldl_le signs (none, [])
  rw [quotedLength, show quotedLength (none, []) = 0 from rfl, Nat.zero_add] at hall
  rw [List.map_reverse, List.sum_reverse]
  exact (Nat.le_add_left _ _).trans hall

/-- The bytes of a tag cover all references in it. -/
theorem covered_tagCharges {signs : List Sign} (hsigns : ∀ s ∈ signs, 0 < s.size)
    (isEmpty : Bool) : Charge.Covered 0 (tagCharges isEmpty signs) := by
  have hvalue (value : List Sign) : Charge.HasReferences value.length
      (if isNormalValue (value.map (·.char)) then []
        else if isEmpty then (valueCharges value).filter Charge.isReference
        else valueCharges value) := by
    split
    · exact Charge.HasReferences.nil.mono (Nat.zero_le _)
    · split
      · exact (hasReferences_valueCharges value).filter _
      · exact hasReferences_valueCharges value
  rw [tagCharges, Charge.Covered]
  refine ((Charge.HasReferences.flatMap fun value _ => hvalue value).mono ?_).covered
  exact ((length_quoted_le signs).trans (Sign.length_le_total hsigns)).trans (Nat.le_add_left _ _)

/-- A section of plain text holds no references. -/
theorem covered_plainCharges (signs : List Sign) : Charge.Covered 0 (plainCharges signs) := by
  have hadd (b : Bill) (s : Sign) (h : Charge.HasReferences 0 b.charges) :
      Charge.HasReferences 0 (addPlain b s).charges := by
    rw [addPlain]
    split
    · exact Bill.hasReferences_charge h (.bytes s.size)
    · split
      · exact Bill.hasReferences_close h
      · exact h
  have hfold : ∀ (signs : List Sign) (b : Bill), Charge.HasReferences 0 b.charges →
      Charge.HasReferences 0 (signs.foldl addPlain b).charges := by
    intro signs
    induction signs with
    | nil => exact fun _ h => h
    | cons s signs ih => exact fun b h => ih _ (hadd b s h)
  exact (((Charge.HasReferences.bytes _).append
    (Bill.hasReferences_finish (hfold _ {} .nil))).append (.bytes _)).covered

/-! ## Documents -/

/-- The charges for a span other than a document type. -/
theorem Span.IsAmong.covered {tokens : List Token} {span : Span} (h : span.IsAmong tokens)
    (hnone : ∀ parts, .doctype parts ∉ tokens) : Charge.Covered 0 span.charges := by
  rw [Span.charges]
  split
  · have hlength := Sign.length_le_total h.pos
    have hpos := List.length_pos_iff.2 h.ne_nil
    exact ⟨by omega, trivial⟩
  · exact covered_tagCharges h.pos _
  · exact covered_plainCharges span.signs
  · next parts htokens =>
      exact absurd (h.tokens _ (htokens ▸ List.mem_singleton_self _)) (hnone parts)
  · trivial

/-- The charges for the spans of a document without a document type. -/
theorem covered_contentCharges {tokens : List Token} {spans : List Span}
    (h : ∀ span ∈ spans, span.IsAmong tokens) (hnone : ∀ parts, .doctype parts ∉ tokens)
    (depth : ℕ) : Charge.Covered 0 (spans.foldl ContentBill.add { depth }).bill.finish := by
  -- every charge made so far is covered: the charges are kept newest first
  have hfold : ∀ b : ContentBill, Charge.Covered 0 b.bill.charges.reverse →
      Charge.Covered 0 (spans.foldl ContentBill.add b).bill.charges.reverse := by
    induction spans with
    | nil => exact fun _ hb => hb
    | cons span spans ih =>
        intro b hb
        obtain ⟨hspan, hspans⟩ := List.forall_mem_cons.1 h
        have hcharge {charges : List Charge} (hcharges : Charge.Covered 0 charges) :
            Charge.Covered 0 (b.bill.charge charges).charges.reverse := by
          rw [Bill.charge, List.reverse_append, List.reverse_reverse, ← Bill.finish]
          exact (Bill.covered_finish hb).append hcharges
        refine ih hspans _ ?_
        unfold ContentBill.add
        dsimp only
        split
        · split
          · exact hcharge trivial
          · exact hb
        · exact hcharge (hspan.covered hnone)
  exact Bill.covered_finish (hfold { depth } trivial)

end RackElevation.Markup
