import RackElevation.Proofs.Binary64.Range
import RackElevation.Proofs.Number.Arithmetic

/-!
# The range of arithmetic

Arithmetic fails when an integer out of range meets a binary64 number, and it leaves the finite
numbers when a binary64 result is too large.  Both are one thing in an arithmetic that never fails,
where an integer out of range counts as infinite: an operation has a finite result exactly when it
has one there.
-/

namespace RackElevation

namespace Binary64

/-- An operation whose result is finite only on finite numbers. -/
def IsStrict (g : Binary64 → Binary64 → Binary64) : Prop :=
  ∀ x y, (g x y).isFinite = true → x.isFinite = true ∧ y.isFinite = true

/-- A sum is finite only if both of its terms are. -/
theorem isStrict_add : IsStrict add := by
  intro x y h
  cases x with
  | nan => contradiction
  | infinite s =>
      cases y with
      | nan => contradiction
      | infinite t =>
          -- two infinite terms make an infinite number or no number at all
          rw [add] at h
          split at h <;> contradiction
      | finite t n hn => contradiction
  | finite s m hm =>
      cases y with
      | nan => contradiction
      | infinite t => contradiction
      | finite t n hn => exact ⟨rfl, rfl⟩

theorem isFinite_neg (x : Binary64) : x.neg.isFinite = x.isFinite := by
  cases x <;> rfl

/-- A difference is finite only if both of its terms are. -/
theorem isStrict_sub : IsStrict sub := by
  intro x y h
  have hstrict := isStrict_add x y.neg h
  rwa [isFinite_neg] at hstrict

/-- A product is finite only if both of its factors are. -/
theorem isStrict_mul : IsStrict mul := by
  intro x y h
  cases x with
  | nan => contradiction
  | infinite s =>
      cases y with
      | nan => contradiction
      | infinite t => contradiction
      | finite t n hn =>
          -- an infinite factor leaves an infinite product, or none where the other factor is zero
          rw [mul] at h
          split at h <;> contradiction
  | finite s m hm =>
      cases y with
      | nan => contradiction
      | infinite t =>
          rw [mul] at h
          split at h <;> contradiction
      | finite t n hn => exact ⟨rfl, rfl⟩

theorem unit_pos : 0 < unit := by
  rw [unit_eq_pow]
  positivity

/-- The integers that are rounded to finite numbers. -/
theorem isFinite_ofInt_iff (n : ℤ) :
    (ofInt n).isFinite = true ↔ n.natAbs < (2 ^ 54 - 1) * 2 ^ 970 := by
  have hoverflow : overflow * 1 = (2 ^ 54 - 1) * 2 ^ 970 * unit := by
    have hcount : 2 * (2 ^ 53 - 1) + 1 = 2 ^ 54 - 1 := by norm_num
    rw [overflow, unit_eq_pow, mul_one, mul_assoc, ← pow_add, hcount]
  rw [ofInt, isFinite_ofRatio_iff one_pos, hoverflow]
  exact Nat.mul_lt_mul_right unit_pos

/-- An integer that is no larger than one in range is in range. -/
theorem isFinite_ofInt_of_natAbs_le {m n : ℤ} (h : m.natAbs ≤ n.natAbs)
    (hn : (ofInt n).isFinite = true) : (ofInt m).isFinite = true :=
  (isFinite_ofInt_iff m).2 (lt_of_le_of_lt h ((isFinite_ofInt_iff n).1 hn))

/-- A quotient that is rounded to a finite number is rounded to the nearest steps. -/
theorem ofRatio_of_isFinite {s : Bool} {n d : ℕ} (h : (ofRatio s n d).isFinite = true) :
    ∃ hfits, ofRatio s n d = .finite s (nearestSteps n d) hfits :=
  ⟨fits_nearestSteps_iff.2 (isFinite_ofRatio.1 h), ofSteps_of_fits s _⟩

/-- A smaller integer has a finite product when a greater one has. -/
theorem isFinite_mul_of_natAbs_le {x : Binary64} {m n : ℤ} (h : m.natAbs ≤ n.natAbs)
    (hn : (x.mul (ofInt n)).isFinite = true) : ((ofInt m).mul x).isFinite = true := by
  obtain ⟨hx, hfinite⟩ := isStrict_mul x (ofInt n) hn
  obtain ⟨_, hofn⟩ := ofRatio_of_isFinite hfinite
  obtain ⟨_, hofm⟩ := ofRatio_of_isFinite (isFinite_ofInt_of_natAbs_le h hfinite)
  cases x with
  | nan => contradiction
  | infinite s => contradiction
  | finite s k hk =>
      rw [ofInt] at hn ⊢
      rw [hofn, mul, isFinite_ofRatio_iff unit_pos] at hn
      rw [hofm, mul, isFinite_ofRatio_iff unit_pos]
      -- rounding keeps the order, so the rounded factors compare as the integers do
      have hsteps := nearestSteps_mono (d := 1) (Nat.mul_le_mul_right unit h)
      calc _ ≤ nearestSteps (n.natAbs * unit) 1 * k := Nat.mul_le_mul_right k hsteps
        _ = k * nearestSteps (n.natAbs * unit) 1 := Nat.mul_comm _ _
        _ < overflow * unit := hn

/-- The steps of two. -/
theorem ofNat_two : ∃ hfits, ofNat 2 = .finite false (2 * unit) hfits := by
  have hfits : Fits (2 * unit) := by
    rw [unit_eq_pow]
    exact fits_mul_pow (by norm_num) (by norm_num)
  refine ⟨hfits, ?_⟩
  rw [ofNat, ofInt, Int.natAbs_natCast, ofRatio_of_fits _ hfits]
  rfl

end Binary64

namespace Number

/-- A number with a finite value: every integer has one. -/
def HasValue : Number → Prop
  | .int _ => True
  | .real x => x.isFinite = true

instance : DecidablePred HasValue
  | .int _ => .isTrue trivial
  | .real x => inferInstanceAs (Decidable (x.isFinite = true))

/-- A number rounded to binary64, infinite if it is an integer out of range. -/
def rounded : Number → Binary64
  | .int n => Binary64.ofInt n
  | .real x => x

/-- A number whose rounding is finite has a value. -/
theorem hasValue_of_rounded {a : Number} (h : a.rounded.isFinite = true) : a.HasValue := by
  cases a with
  | int n => trivial
  | real x => exact h

/-- A number that can be made a binary64 number is made the one that it is rounded to. -/
theorem toReal_eq_rounded {a : Number} {x : Binary64} (h : a.toReal = .ok x) : a.rounded = x := by
  cases a with
  | real y => exact Except.ok.inj h
  | int n =>
      rw [toReal_int] at h
      split at h
      · exact Except.ok.inj h
      · contradiction

/-- A number whose rounding is finite can be made a binary64 number. -/
theorem toReal_of_isFinite {a : Number} (h : a.rounded.isFinite = true) :
    a.toReal = .ok a.rounded := by
  cases a with
  | real x => rfl
  | int n => exact if_pos h

/-! ## Arithmetic that never fails -/

/-- An operation that is exact on two integers and rounds otherwise, where an integer out of range
counts as infinite. -/
def join (exact : ℤ → ℤ → ℤ) (round : Binary64 → Binary64 → Binary64) : Number → Number → Number
  | .int m, .int n => .int (exact m n)
  | a, b => .real (round a.rounded b.rounded)

/-- The sum. -/
def plus : Number → Number → Number :=
  join (· + ·) Binary64.add

/-- The difference. -/
def minus : Number → Number → Number :=
  join (· - ·) Binary64.sub

/-- The product. -/
def times : Number → Number → Number :=
  join (· * ·) Binary64.mul

/-- Half of a number. -/
def halved : Number → Number
  | .real x => .real (x.div (Binary64.ofNat 2))
  | .int n => .real (Binary64.ofRatio (decide (n < 0)) (n.natAbs * Binary64.unit) 2)

/-- A computation whose result, if it has one, is a given number, and that has a result if that
number has a value. -/
structure Computes (x : Except Failure Number) (a : Number) : Prop where
  eq_of_ok : ∀ b, x = .ok b → b = a
  ok : a.HasValue → x = .ok a

/-- A computation gives a number with a value exactly when its result without checks has one. -/
theorem Computes.hasValue_iff {x : Except Failure Number} {a : Number} (h : Computes x a) :
    (∃ b, x = .ok b ∧ b.HasValue) ↔ a.HasValue := by
  constructor
  · rintro ⟨b, hb, hvalue⟩
    rwa [← h.eq_of_ok b hb]
  · exact fun hvalue => ⟨a, h.ok hvalue, hvalue⟩

/-- What follows on a computation follows on its result. -/
theorem Computes.exists_ok_iff {x : Except Failure Number} {a : Number} (h : Computes x a)
    {p : Number → Prop} : (∃ b, x = .ok b ∧ p b) ↔ x = .ok a ∧ p a := by
  constructor
  · rintro ⟨b, hb, hp⟩
    obtain rfl := h.eq_of_ok b hb
    exact ⟨hb, hp⟩
  · exact fun hok => ⟨a, hok⟩

/-- A computation is continued on its result, when the whole has a value only if that result has. -/
theorem Computes.bind {x : Except Failure Number} {a b : Number}
    {f : Number → Except Failure Number} (hx : Computes x a) (hf : Computes (f a) b)
    (h : b.HasValue → a.HasValue) : Computes (x >>= f) b where
  eq_of_ok := by
    intro c hc
    obtain ⟨a', ha', hc⟩ := bind_eq_ok.1 hc
    obtain rfl := hx.eq_of_ok a' ha'
    exact hf.eq_of_ok c hc
  ok := by
    intro hvalue
    rw [hx.ok (h hvalue), ok_bind]
    exact hf.ok hvalue

section Join

variable {f : ℤ → ℤ → ℤ} {g : Binary64 → Binary64 → Binary64} {a b : Number}

theorem join_real_left (x : Binary64) (b : Number) :
    join f g (.real x) b = .real (g x b.rounded) := rfl

/-- With a binary64 number on the right, the other number is rounded first. -/
theorem join_real_right (a : Number) (y : Binary64) :
    join f g a (.real y) = .real (g a.rounded y) := by
  cases a <;> rfl

/-- Where numbers are combined without a failure, the checks make no difference. -/
theorem join_of_combine {c : Number} (h : combine f g a b = .ok c) : join f g a b = c := by
  cases b with
  -- the right number decides first whether the integers are combined exactly
  | real y =>
      rw [combine_real_right] at h
      obtain ⟨x, hx, h⟩ := bind_eq_ok.1 h
      rw [join_real_right, toReal_eq_rounded hx]
      exact pure_eq_ok.1 h
  | int n =>
      cases a with
      | int m => exact Except.ok.inj h
      | real x =>
          rw [combine_real_left] at h
          obtain ⟨y, hy, h⟩ := bind_eq_ok.1 h
          rw [join_real_left, toReal_eq_rounded hy]
          exact pure_eq_ok.1 h

/-- Numbers in range are combined. -/
theorem combine_of_isFinite (ha : a.rounded.isFinite = true) (hb : b.rounded.isFinite = true) :
    combine f g a b = .ok (join f g a b) := by
  cases b with
  | real y =>
      rw [combine_real_right, toReal_of_isFinite ha, join_real_right]
      rfl
  | int n =>
      cases a with
      | int m => rfl
      | real x =>
          rw [combine_real_left, toReal_of_isFinite hb, join_real_left]
          rfl

/-- The result of an operation, as far as it has one. -/
theorem computes_combine (hg : Binary64.IsStrict g) (a b : Number) :
    Computes (combine f g a b) (join f g a b) where
  eq_of_ok := fun _ hc => (join_of_combine hc).symm
  ok := by
    intro hvalue
    cases b with
    | real y =>
        rw [join_real_right] at hvalue
        -- a strict operation has a value only on numbers in range, so neither conversion fails
        obtain ⟨ha, hb⟩ := hg _ _ hvalue
        exact combine_of_isFinite ha hb
    | int n =>
        cases a with
        | int m => rfl
        | real x =>
            obtain ⟨ha, hb⟩ := hg _ _ hvalue
            exact combine_of_isFinite ha hb

/-- An operation has a value only on values. -/
theorem hasValue_of_join (hg : Binary64.IsStrict g) (h : (join f g a b).HasValue) :
    a.HasValue ∧ b.HasValue := by
  cases a with
  | real x =>
      obtain ⟨hx, hy⟩ := hg _ _ h
      exact ⟨hx, hasValue_of_rounded hy⟩
  | int m =>
      cases b with
      | int n => exact ⟨trivial, trivial⟩
      | real y => exact ⟨trivial, (hg _ _ h).2⟩

end Join

/-- The sum of two numbers, without its checks. -/
theorem computes_add (a b : Number) : Computes (a.add b) (a.plus b) :=
  computes_combine Binary64.isStrict_add a b

/-- The difference of two numbers, without its checks. -/
theorem computes_sub (a b : Number) : Computes (a.sub b) (a.minus b) :=
  computes_combine Binary64.isStrict_sub a b

/-- The product of two numbers, without its checks. -/
theorem computes_mul (a b : Number) : Computes (a.mul b) (a.times b) :=
  computes_combine Binary64.isStrict_mul a b

/-- The terms of a sum with a value have values. -/
theorem hasValue_of_plus {a b : Number} (h : (a.plus b).HasValue) : a.HasValue ∧ b.HasValue :=
  hasValue_of_join Binary64.isStrict_add h

/-- The terms of a difference with a value have values. -/
theorem hasValue_of_minus {a b : Number} (h : (a.minus b).HasValue) : a.HasValue ∧ b.HasValue :=
  hasValue_of_join Binary64.isStrict_sub h

/-! ## Halves -/

/-- The half of a number, without its checks. -/
theorem computes_half (a : Number) : Computes a.half a.halved := by
  cases a with
  | real x => exact ⟨fun b hb => (Except.ok.inj hb).symm, fun _ => rfl⟩
  | int n =>
      constructor
      · intro b hb
        rw [half] at hb
        split at hb
        · exact (Except.ok.inj hb).symm
        · contradiction
      · exact fun hvalue => if_pos hvalue

/-- A number whose half has a value has one itself. -/
theorem hasValue_of_halved {a : Number} (h : a.halved.HasValue) : a.HasValue := by
  cases a with
  | int n => trivial
  | real x =>
      obtain ⟨_, htwo⟩ := Binary64.ofNat_two
      cases x with
      | finite s m hm => rfl
      | nan => contradiction
      | infinite s =>
          -- half of an infinite number is infinite
          rw [halved, htwo] at h
          contradiction

/-- Half of a number in range has a value. -/
theorem halved_hasValue {a : Number} (h : a.rounded.isFinite = true) : a.halved.HasValue := by
  cases a with
  | int n =>
      -- halving an integer divides its rounded size, so it cannot leave the range
      rw [rounded, Binary64.ofInt, Binary64.isFinite_ofRatio_iff one_pos] at h
      rw [halved, HasValue, Binary64.isFinite_ofRatio_iff two_pos]
      exact h.trans_le (Nat.mul_le_mul_left _ (by decide))
  | real x =>
      obtain ⟨_, htwo⟩ := Binary64.ofNat_two
      cases x with
      | nan => contradiction
      | infinite s => contradiction
      | finite s m hm =>
          have hunit : 0 < 2 * Binary64.unit := Nat.mul_pos two_pos Binary64.unit_pos
          have hlimit : m < Binary64.overflow * 2 :=
            (Binary64.fits_iff.1 hm).2.trans_le Binary64.limit_le_mul_overflow
          rw [halved, htwo, HasValue, Binary64.div, if_neg hunit.ne',
            Binary64.isFinite_ofRatio_iff hunit, ← mul_assoc]
          exact Nat.mul_lt_mul_of_pos_right hlimit Binary64.unit_pos

end Number

end RackElevation
