import RackElevation.Markup.Doctype
import RackElevation.Proofs.Markup.AllowedTokens

/-!
# Literals of document types

What the declarations of a document type say is made of its literals: the texts of its entities and
the values in its attribute rules are literals as they are written.  So a property of all characters
in the literals is one of all characters in the declarations.
-/

namespace RackElevation.Markup

/-- A part of a document type in whose literal all characters have a property. -/
def DoctypeToken.HoldsOnly (p : Char → Prop) : DoctypeToken → Prop
  | .literal content => ∀ c ∈ content, p c
  | _ => True

/-- A rule in whose value all characters have a property. -/
def AttributeRule.HoldsOnly (p : Char → Prop) (rule : AttributeRule) : Prop :=
  ∀ cs ∈ rule.default?, ∀ c ∈ cs, p c

/-- A declaration in whose texts and values all characters have a property. -/
def Declared.HoldsOnly (p : Char → Prop) : Declared → Prop
  | .entity _ (.inside cs) => ∀ c ∈ cs, p c
  | .parameterEntity (.inside cs) => ∀ c ∈ cs, p c
  | .attributeRules _ rules => ∀ rule ∈ rules, rule.HoldsOnly p
  | _ => True

namespace Doctype

variable {p : Char → Prop} {tokens : List DoctypeToken}

/-- The declaration of an entity holds what its tokens hold. -/
theorem entity?_holdsOnly {declared : Declared} (htokens : ∀ t ∈ tokens, t.HoldsOnly p)
    (h : entity? tokens = some declared) : declared.HoldsOnly p := by
  unfold entity? at h
  split at h
  · rw [← Option.some.inj h]
    exact htokens _ (.tail _ (.tail _ (.head _)))
  · split at h
    · rw [← Option.some.inj h]
      trivial
    · contradiction
  · rw [← Option.some.inj h]
    exact htokens _ (.tail _ (.head _))
  · split at h
    · rw [← Option.some.inj h]
      trivial
    · contradiction
  · contradiction

/-- A step through the rules of an element keeps what they hold. -/
theorem stepRule_holdsOnly (s : RuleMode × List AttributeRule) (t : DoctypeToken)
    (s' : RuleMode × List AttributeRule) (hs : ∀ rule ∈ s.2, rule.HoldsOnly p)
    (ht : t.HoldsOnly p) (h : stepRule s t = some s') : ∀ rule ∈ s'.2, rule.HoldsOnly p := by
  have hnone {name : String} {isText : Bool} :
      ∀ rule ∈ (⟨name, isText, none⟩ : AttributeRule) :: s.2, rule.HoldsOnly p :=
    List.forall_mem_cons.2 ⟨(fun _ hcs => absurd hcs (Option.not_mem_none _)), hs⟩
  have hsome {name : String} {isText : Bool} {value : List Char} (hvalue : ∀ c ∈ value, p c) :
      ∀ rule ∈ (⟨name, isText, some value⟩ : AttributeRule) :: s.2, rule.HoldsOnly p := by
    refine List.forall_mem_cons.2 ⟨fun cs hcs => ?_, hs⟩
    obtain rfl := Option.some.inj hcs
    exact hvalue
  unfold stepRule at h
  split at h
  all_goals first
    | contradiction
    | (rw [← Option.some.inj h]; exact hs)
    | (rw [← Option.some.inj h]; exact hnone)
    | (rw [← Option.some.inj h]; exact hsome ht)
    | skip
  split at h
  · rw [← Option.some.inj h]
    exact hs
  · contradiction

/-- The rules of an element hold what their tokens hold. -/
theorem rules?_holdsOnly {rules : List AttributeRule} (htokens : ∀ t ∈ tokens, t.HoldsOnly p)
    (h : rules? tokens = some rules) : ∀ rule ∈ rules, rule.HoldsOnly p := by
  simp only [rules?, Option.bind_eq_bind, Option.bind_eq_some_iff] at h
  obtain ⟨s, hs, h⟩ := h
  have hend := foldlM_invariant (s := (RuleMode.between, [])) stepRule_holdsOnly
    (fun _ hrule => absurd hrule List.not_mem_nil) htokens hs
  split at h
  · rw [← Option.some.inj h]
    exact fun rule hrule => hend rule (List.mem_reverse.1 hrule)
  · contradiction

/-- A declaration holds what its tokens hold. -/
theorem declared?_holdsOnly {keyword : String} {declared : Declared}
    (htokens : ∀ t ∈ tokens, t.HoldsOnly p) (h : declared? keyword tokens = some declared) :
    declared.HoldsOnly p := by
  unfold declared? at h
  split at h
  · exact entity?_holdsOnly htokens h
  · obtain ⟨rules, hrules, rfl⟩ := Option.map_eq_some_iff.1 h
    exact rules?_holdsOnly (List.forall_mem_cons.1 htokens).2 hrules
  · obtain ⟨rules, hrules, rfl⟩ := Option.map_eq_some_iff.1 h
    exact rules?_holdsOnly (List.forall_mem_cons.1 htokens).2 hrules
  all_goals first
    | contradiction
    | skip
  all_goals
    split at h
    · rw [← Option.some.inj h]
      trivial
    · contradiction

/-- What has been read of a document type holds only characters with a property. -/
structure Subset.HoldsOnly (p : Char → Prop) (s : Subset) : Prop where
  declared : ∀ d ∈ s.declared, d.HoldsOnly p
  current : ∀ opened ∈ s.current, ∀ t ∈ opened.2, t.HoldsOnly p

/-- A step through the brackets of a document type keeps what they hold. -/
theorem Subset.add_holdsOnly (s : Subset) (t : DoctypeToken) (s' : Subset) (hs : s.HoldsOnly p)
    (ht : t.HoldsOnly p) (h : s.add t = some s') : s'.HoldsOnly p := by
  unfold Subset.add at h
  -- one case for each part inside the brackets; texts are kept until their declaration stops
  split at h
  · rw [← Option.some.inj h]
    exact hs
  · rw [← Option.some.inj h]
    exact ⟨List.forall_mem_cons.2 ⟨trivial, hs.declared⟩, hs.current⟩
  · rw [← Option.some.inj h]
    refine ⟨hs.declared, fun opened hopened => ?_⟩
    obtain rfl := Option.some.inj hopened
    exact fun _ hmem => absurd hmem List.not_mem_nil
  · contradiction
  · next keyword tokens hcurrent =>
      simp only [Option.bind_eq_bind, Option.bind_eq_some_iff, Option.pure_def,
        Option.some.injEq] at h
      obtain ⟨declared, hdeclared, rfl⟩ := h
      have htokens := hs.current _ hcurrent
      refine ⟨List.forall_mem_cons.2 ⟨?_, hs.declared⟩,
        fun _ hopened => absurd hopened (Option.not_mem_none _)⟩
      exact declared?_holdsOnly (fun u hu => htokens u (List.mem_reverse.1 hu)) hdeclared
  · next keyword tokens hcurrent _ =>
      rw [← Option.some.inj h]
      refine ⟨hs.declared, fun opened hopened => ?_⟩
      obtain rfl := Option.some.inj hopened
      exact List.forall_mem_cons.2 ⟨ht, hs.current _ hcurrent⟩

/-- The declarations of a document type hold what its tokens hold. -/
theorem subset?_holdsOnly {declared : List Declared} (htokens : ∀ t ∈ tokens, t.HoldsOnly p)
    (h : subset? tokens = some declared) : ∀ d ∈ declared, d.HoldsOnly p := by
  simp only [subset?, Option.bind_eq_bind, Option.bind_eq_some_iff] at h
  obtain ⟨s, hs, h⟩ := h
  have hend := foldlM_invariant (s := {}) Subset.add_holdsOnly
    ⟨fun _ hd => absurd hd List.not_mem_nil,
      fun _ hopened => absurd hopened (Option.not_mem_none _)⟩ htokens hs
  split at h
  · contradiction
  · rw [← Option.some.inj h]
    exact fun d hd => hend.declared d (List.mem_reverse.1 hd)

/-- The declarations of a document type hold only what its literals hold. -/
theorem ofTokens?_holdsOnly {doctype : Doctype} (htokens : ∀ t ∈ tokens, t.HoldsOnly p)
    (h : ofTokens? tokens = some doctype) : ∀ d ∈ doctype.declared, d.HoldsOnly p := by
  have hdone {declared : List Declared} {isOutside : Bool}
      (hdeclared : ∀ d ∈ declared, d.HoldsOnly p) (h : some ⟨isOutside, declared⟩ = some doctype) :
      ∀ d ∈ doctype.declared, d.HoldsOnly p := by
    rw [← Option.some.inj h]
    exact hdeclared
  rw [ofTokens?] at h
  split at h
  · -- no declarations
    split at h
    · contradiction
    · have hempty : ∀ d ∈ ([] : List Declared), d.HoldsOnly p :=
        fun _ hd => absurd hd List.not_mem_nil
      repeat' split at h
      all_goals first
        | contradiction
        | exact hdone hempty h
  · -- the declarations between the brackets
    split at h
    · rw [Option.bind_eq_bind, Option.bind_eq_some_iff] at h
      obtain ⟨declared, hdeclared, h⟩ := h
      have hinside : ∀ d ∈ declared, d.HoldsOnly p := by
        refine subset?_holdsOnly (fun t ht => htokens t ?_) hdeclared
        exact (List.dropWhile_sublist _).subset
          (List.mem_of_mem_drop ((List.dropLast_sublist _).subset ht))
      repeat' split at h
      all_goals first
        | contradiction
        | exact hdone hinside h
    · contradiction

end Doctype

end RackElevation.Markup
