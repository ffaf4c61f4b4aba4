import RackElevation.Markup.Limit
import RackElevation.Proofs.Binary64.Range
import RackElevation.Proofs.Markup.Charges

/-!
# The limit on expansions

How many bytes a character has matters to the limit only for the characters of the document.  And
the limit is for documents with definitions of their own: where nothing is defined, a reference
stands for at most one byte, which the bytes that it is written in outweigh.  So a document without
a document type is within the limit, in every encoding.
-/

namespace RackElevation.Markup

/-! ## Rounded counts -/

theorem roundedCount_eq (n : ℕ) :
    roundedCount n = Binary64.halfEven n (2 ^ (n.log2 - 23)) * 2 ^ (n.log2 - 23) := rfl

/-- A count is at most doubled by rounding. -/
theorem roundedCount_le (n : ℕ) : roundedCount n ≤ 2 * n := by
  have hstep : 2 ^ (n.log2 - 23) ≤ n ∨ n = 0 := by
    by_cases hzero : n = 0
    · exact .inr hzero
    · have hpow := Nat.pow_le_pow_right (n := 2) (by decide) (Nat.sub_le n.log2 23)
      exact .inl (hpow.trans (Nat.log2_self_le hzero))
  rw [roundedCount_eq]
  rcases hstep with hstep | rfl
  · calc Binary64.halfEven n (2 ^ (n.log2 - 23)) * 2 ^ (n.log2 - 23)
        ≤ (n / 2 ^ (n.log2 - 23) + 1) * 2 ^ (n.log2 - 23) :=
          Nat.mul_le_mul_right _ (Binary64.halfEven_le _ _)
      _ = n / 2 ^ (n.log2 - 23) * 2 ^ (n.log2 - 23) + 2 ^ (n.log2 - 23) := Nat.succ_mul _ _
      _ ≤ n + n := Nat.add_le_add (Nat.div_mul_le_self _ _) hstep
      _ = 2 * n := (Nat.two_mul n).symm
  · decide

/-- A count is at most halved by rounding. -/
theorem le_roundedCount (n : ℕ) : n ≤ 2 * roundedCount n := by
  by_cases hzero : n = 0
  · rw [hzero]
    exact Nat.zero_le _
  · set step := 2 ^ (n.log2 - 23) with hstep
    have hpos : 0 < step := Nat.two_pow_pos _
    have hle : step ≤ n :=
      (Nat.pow_le_pow_right (by decide) (Nat.sub_le _ _)).trans (Nat.log2_self_le hzero)
    have hquotient : step ≤ n / step * step :=
      Nat.le_mul_of_pos_left step (Nat.div_pos hle hpos)
    have hrounded : n / step * step ≤ roundedCount n := by
      rw [roundedCount_eq, ← hstep]
      exact Nat.mul_le_mul_right _ (Binary64.le_halfEven n step)
    have hn := Nat.div_add_mod' n step
    have hmod := Nat.mod_lt n hpos
    omega

/-! ## Accounts -/

namespace Account

variable (payAll : List Charge → Account → Option Account) {a : Account}

theorem add_content (isDirect : Bool) (name : String) :
    add payAll isDirect a (.content name) = a.payEntity payAll (·.content) name := rfl

theorem add_value (isDirect : Bool) (name : String) :
    add payAll isDirect a (.value name) = a.payEntity payAll (·.value) name := rfl

/-- A document that has been expanded to no more than twice its bytes may go on. -/
theorem isTolerated_of_le (h : a.expanded ≤ a.direct) : a.isTolerated = true := by
  have htotal := roundedCount_le (a.direct + a.expanded)
  have hdirect := le_roundedCount a.direct
  have hscale : Nat.pow 2 18 = 262144 := rfl
  simp only [isTolerated, Bool.or_eq_true, decide_eq_true_eq]
  right
  rw [hscale]
  omega

/-- While no more bytes are expanded than the document has, its own bytes are tolerated. -/
theorem pay_direct (h : a.expanded ≤ a.direct) (count : ℕ) :
    a.pay true count = some { a with direct := a.direct + count } := by
  have htolerated : isTolerated { a with direct := a.direct + count } = true :=
    isTolerated_of_le (h.trans (Nat.le_add_right _ _))
  simp only [pay, if_true, htolerated]

/-- Where nothing is defined an entity stands for one byte at most, and one covered byte pays for
it. -/
theorem exists_payEntity {spare : ℕ} (hknown : a.known = []) (hpaid : a.expanded + spare ≤ a.direct)
    (hspare : 0 < spare) (place : EntityCharges → List Charge) (name : String) :
    ∃ a', a.payEntity payAll place name = some a' ∧ a'.known = [] ∧
      a'.expanded + (spare - 1) ≤ a'.direct := by
  have hentity : a.entity? name = none := by
    rw [entity?, hknown]
    rfl
  rw [payEntity, hentity]
  split
  · refine ⟨{ a with expanded := a.expanded + 1 }, rfl, hknown, ?_⟩
    show a.expanded + 1 + (spare - 1) ≤ a.direct
    omega
  · exact ⟨a, rfl, hknown, by omega⟩

/-- Charges whose references are covered can be paid where nothing is defined. -/
theorem exists_foldlM_add {spare : ℕ} {charges : List Charge} (h : Charge.Covered spare charges)
    (hknown : a.known = []) (hpaid : a.expanded + spare ≤ a.direct) :
    ∃ a', charges.foldlM (add payAll true) a = some a' := by
  -- induction on the charges: bytes add to what is spare, and a reference takes one of it away
  induction charges generalizing spare a with
  | nil => exact ⟨a, rfl⟩
  | cons charge charges ih =>
      rw [List.foldlM_cons]
      cases charge with
      | bytes count =>
          rw [add, pay_direct ((Nat.le_add_right _ _).trans hpaid), Option.bind_eq_bind,
            Option.bind_some]
          refine ih h hknown ?_
          show a.expanded + (spare + count) ≤ a.direct + count
          omega
      | content name =>
          obtain ⟨a', hpay, hknown, hpaid⟩ :=
            exists_payEntity payAll hknown hpaid h.1 (·.content) name
          rw [add_content, hpay]
          exact ih h.2 hknown hpaid
      | value name =>
          obtain ⟨a', hpay, hknown, hpaid⟩ :=
            exists_payEntity payAll hknown hpaid h.1 (·.value) name
          rw [add_value, hpay]
          exact ih h.2 hknown hpaid
      | part token => exact absurd h id

end Account

/-! ## Documents -/

section Documents

variable {size size' : Char → ℕ} {before : ℕ} {standalone : Bool} {cs : List Char}

/-- The limit depends on the bytes of the characters of the document only. -/
theorem isWithinLimit_congr (h : ∀ c ∈ cs, size c = size' c) :
    isWithinLimit size before standalone cs = isWithinLimit size' before standalone cs := by
  rw [isWithinLimit, isWithinLimit, Sign.ofChars_congr h]

/-- A document without a document type is within the limit. -/
theorem isWithinLimit_of_tokens (hsize : ∀ c ∈ cs, 0 < size c) {tokens : List Token}
    (htokens : Token.ofChars? .wide (unifyLineEnds cs) = some tokens)
    (hnone : ∀ parts, .doctype parts ∉ tokens) (before : ℕ) (standalone : Bool) :
    isWithinLimit size before standalone cs = true := by
  rw [← Sign.map_char_ofChars size] at htokens
  obtain ⟨spans, hspans, hamong⟩ := exists_spans (Sign.size_pos_of_mem_ofChars hsize) htokens
  obtain ⟨a, ha⟩ := Account.exists_foldlM_add Account.payExpansion
    (a := { direct := before, standalone }) (covered_contentCharges hamong hnone 0) rfl
    (Nat.zero_le _)
  rw [isWithinLimit, contentCharges?, hspans, Option.bind_eq_bind, Option.bind_some]
  exact Option.isSome_iff_exists.2 ⟨a, ha⟩

end Documents

end RackElevation.Markup
