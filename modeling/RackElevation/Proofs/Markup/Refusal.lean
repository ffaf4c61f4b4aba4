import RackElevation.Proofs.Outcome
import RackElevation.Rack.Reading

/-!
# Refused encodings

Reading a source ends with a rack set or with the failure of malformed markup, except when the
source is given as bytes that declare an encoding which cannot be used.  Such an encoding is refused
before anything after the declaration is looked at, with a failure of its own.
-/

namespace RackElevation.Markup

/-! ## Names of encodings -/

/-- The names of the encodings that are looked up in no table. -/
def builtInNames : List String :=
  ["ISO-8859-1", "US-ASCII", "UTF-8", "UTF-16", "UTF-16BE", "UTF-16LE"]

/-- The failures with which the name of an encoding can be refused. -/
def refusals (name : String) : List Failure :=
  [.unknownEncoding name, .notTextEncoding name, .multiByteEncoding]

/-- A name stands for no code page, and a failure tells why. -/
def RefusesName (name : String) (failure : Failure) : Prop :=
  name.map Char.toUpper ∉ builtInNames ∧ codePage name = .error failure ∧ failure ∈ refusals name

section Names

variable {name : String}

/-- An encoding that is looked up by its key is found or refused. -/
theorem failsOnly_encodingOfKey? {key : String} {inNames inAliases : Bool}
    {found : Except Failure Encoding} (h : encodingOfKey? key inNames inAliases name = some found) :
    FailsOnly (fun failure => failure = .malformedMarkup ∨ failure ∈ refusals name) found := by
  simp only [encodingOfKey?] at h
  split at h
  · rw [← Option.some.inj h]
    exact .ok
  · split_ifs at h
    · rw [← Option.some.inj h]
      exact .error (.inr (by simp only [refusals, List.mem_cons, true_or, or_true]))
    · rw [← Option.some.inj h]
      exact .error (.inr (by simp only [refusals, List.mem_cons, true_or, or_true]))
    · rw [← Option.some.inj h]
      exact .error (.inl rfl)

/-- The first candidate that there is fails as the candidates do. -/
theorem failsOnly_findSome? {sort : Failure → Prop} {last : Except Failure Encoding}
    (hlast : FailsOnly sort last) {candidates : List (Option (Except Failure Encoding))}
    (h : ∀ candidate ∈ candidates, ∀ found, candidate = some found → FailsOnly sort found) :
    FailsOnly sort ((candidates.findSome? id).getD last) := by
  induction candidates with
  | nil => exact hlast
  | cons candidate rest ih =>
      obtain ⟨hfirst, hrest⟩ := List.forall_mem_cons.1 h
      cases candidate with
      | none => exact ih hrest
      | some found => exact hfirst found rfl

/-- A name that is looked up stands for a code page, or it is refused, or it stands for a page that
no markup can be written in. -/
theorem failsOnly_codePage :
    FailsOnly (fun failure => failure = .malformedMarkup ∨ failure ∈ refusals name)
      (codePage name) := by
  have hlast : FailsOnly (fun failure => failure = .malformedMarkup ∨ failure ∈ refusals name)
      (.error (.unknownEncoding name) : Except Failure Encoding) :=
    .error (.inr List.mem_cons_self)
  unfold codePage
  apply failsOnly_findSome? hlast
  intro candidate hmem found hfound
  simp only [List.mem_cons, List.not_mem_nil, or_false] at hmem
  -- the name as an alias, the same with underscores for points, and the name as a name
  rcases hmem with rfl | rfl | rfl
  · exact failsOnly_encodingOfKey? hfound
  · exact failsOnly_encodingOfKey? hfound
  · split_ifs at hfound
    exact failsOnly_encodingOfKey? hfound

/-- A name that is not built in is looked up. -/
theorem declared_eq_codePage (shown : Encoding) (h : name.map Char.toUpper ∉ builtInNames) :
    shown.declared name = codePage name := by
  unfold Encoding.declared
  split
  case h_7 => rfl
  all_goals
    next heq =>
      rw [heq] at h
      exact absurd (by decide) h

/-- A built in name chooses its encoding or does not fit the bytes. -/
theorem failsOnly_declared (shown : Encoding) (h : name.map Char.toUpper ∈ builtInNames) :
    FailsOnly (· = .malformedMarkup) (shown.declared name) := by
  have hamong : ∀ (encoding : Encoding) (fits : Bool), FailsOnly (· = .malformedMarkup)
      (if fits then .ok encoding else .error .malformedMarkup : Except Failure Encoding) := by
    intro encoding fits
    cases fits with
    | true => exact .ok
    | false => exact .error rfl
  simp only [builtInNames, List.mem_cons, List.not_mem_nil, or_false] at h
  unfold Encoding.declared
  rcases h with h | h | h | h | h | h <;>
    rw [h] <;>
    exact hamong _ _

end Names

/-! ## Sources -/

/-- A declaration is read, or the document is malformed. -/
theorem Declaration.failsOnly_ofStart (cs : List Char) :
    FailsOnly (· = .malformedMarkup) (Declaration.ofStart cs) := by
  unfold Declaration.ofStart
  split
  · split_ifs
    · split
      · exact .error rfl
      · split
        · exact .error rfl
        · exact .ok
    · exact .ok
  · exact .ok

/-- The encoding that a source declares.  Text has none, whatever it declares. -/
def Source.declaredName? : Source → Option String
  | .text _ => none
  | .bytes content =>
      match Declaration.ofStart ((detect content).1.asciiStart (detect content).2) with
      | .ok (declaration, _) => declaration.encoding
      | .error _ => none

/-- A source declares an encoding that is refused with a failure. -/
def Source.Refuses (source : Source) (failure : Failure) : Prop :=
  ∃ name, source.declaredName? = some name ∧ RefusesName name failure

/-- An encoding that is refused is another failure than malformed markup. -/
theorem Source.Refuses.ne_malformedMarkup {source : Source} {failure : Failure}
    (h : source.Refuses failure) : failure ≠ .malformedMarkup := by
  obtain ⟨name, -, -, -, hmem⟩ := h
  rintro rfl
  simp only [refusals, List.mem_cons, reduceCtorEq, List.not_mem_nil, or_self] at hmem

section Sources

variable {source : Source}

/-- A source that declares a refused encoding is refused. -/
theorem readTree_of_refuses {failure : Failure} (h : source.Refuses failure) :
    readTree source = .error failure := by
  obtain ⟨name, hname, hbuiltIn, hpage, -⟩ := h
  cases source with
  | text content => contradiction
  | bytes content =>
      rw [Source.declaredName?] at hname
      cases hstart : Declaration.ofStart ((detect content).1.asciiStart (detect content).2) with
      | error failure' =>
          rw [hstart] at hname
          contradiction
      | ok started =>
          rw [hstart] at hname
          have hencoding : (Source.bytes content).encoding (detect content).1 started.1.encoding =
              .error failure := by
            rw [show started.1.encoding = some name from hname, Source.encoding,
              declared_eq_codePage _ hbuiltIn, hpage]
          simp only [readTree, Source.toBytes, hstart, ok_bind, hencoding, error_bind]

/-- A declared encoding is refused, or it does not fit the bytes. -/
theorem failsOnly_declared_or_refused (shown : Encoding) (name : String) :
    FailsOnly (fun failure => failure = .malformedMarkup ∨ RefusesName name failure)
      (shown.declared name) := by
  by_cases hbuiltIn : name.map Char.toUpper ∈ builtInNames
  · exact (failsOnly_declared shown hbuiltIn).mono fun failure h => .inl h
  · rw [declared_eq_codePage shown hbuiltIn]
    intro failure h
    rcases failsOnly_codePage failure h with hmalformed | hrefusal
    · exact .inl hmalformed
    · exact .inr ⟨hbuiltIn, h, hrefusal⟩

/-- The encoding of a source is refused, or it does not fit the bytes. -/
theorem failsOnly_encoding {started : Declaration × Nat}
    (hstart : Declaration.ofStart ((detect source.toBytes).1.asciiStart (detect source.toBytes).2) =
      .ok started) :
    FailsOnly (fun failure => failure = .malformedMarkup ∨ source.Refuses failure)
      (source.encoding (detect source.toBytes).1 started.1.encoding) := by
  cases source with
  | text content => exact .ok
  | bytes content =>
      cases hname : started.1.encoding with
      | none => exact .ok
      | some name =>
          have hdeclared : (Source.bytes content).declaredName? = some name := by
            rw [← hname, Source.declaredName?]
            -- the name is looked up in the declaration that has been read already
            show (match Declaration.ofStart ((detect (Source.bytes content).toBytes).1.asciiStart
              (detect (Source.bytes content).toBytes).2) with
              | .ok (declaration, _) => declaration.encoding
              | .error _ => none) = _
            rw [hstart]
          refine FailsOnly.mono (failsOnly_declared_or_refused _ name) ?_
          rintro failure (hmalformed | hrefuses)
          · exact .inl hmalformed
          · exact .inr ⟨name, hdeclared, hrefuses⟩

/-- A document in an encoding that nobody knows. -/
def unknownBytes : List UInt8 :=
  "<?xml version=\"1.0\" encoding=\"x-unknown\"?><racks/>".toUTF8.data.toList

/-- A document is refused whose declared encoding is unknown. -/
theorem refuses_unknownBytes :
    (Source.bytes unknownBytes).Refuses (.unknownEncoding "x-unknown") := by
  have hpage : codePage "x-unknown" = .error (.unknownEncoding "x-unknown") := by
    have hkey : encodingKey "x-unknown" = "x_unknown" := by decide +kernel
    have hplain : "x_unknown".contains '.' = false := by simp
    rw [codePage, hkey, hplain]
    decide +kernel
  exact ⟨"x-unknown", by decide +kernel, by decide +kernel, hpage, List.mem_cons_self⟩

/-- A source is read, or it is malformed, or it declares a refused encoding. -/
theorem failsOnly_readTree :
    FailsOnly (fun failure => failure = .malformedMarkup ∨ source.Refuses failure)
      (readTree source) := by
  -- the declaration is read first, then the encoding is chosen; all that follows is malformed or
  -- read
  unfold readTree
  refine ((Declaration.failsOnly_ofStart _).mono fun _ h => .inl h).bind fun started hstart => ?_
  refine (failsOnly_encoding hstart).bind fun encoding _ => ?_
  dsimp only
  split
  · exact .ok
  · exact .error (.inl rfl)

end Sources

end RackElevation.Markup

namespace RackElevation

open Markup

namespace RackSet

variable {source : Source}

/-- A document that is refused is not read. -/
theorem read_of_refuses {failure : Failure} (h : source.Refuses failure) :
    RackSet.read source = .error failure := by
  rw [RackSet.read, readTree_of_refuses h]
  rfl

/-- A document is read, malformed, or refused. -/
theorem failsOnly_read :
    FailsOnly (fun failure => failure = .malformedMarkup ∨ source.Refuses failure)
      (RackSet.read source) :=
  failsOnly_readTree.map

/-- Text is read or malformed. -/
theorem read_text (content : String) :
    (∃ set, RackSet.read (.text content) = .ok set) ∨
      RackSet.read (.text content) = .error .malformedMarkup := by
  rcases ok_or_error failsOnly_read with hset | ⟨failure, hmalformed | ⟨name, hname, -⟩, herror⟩
  · exact .inl hset
  · exact .inr (hmalformed ▸ herror)
  · contradiction

end RackSet

/-- Reading a source fails with the failure of a refused encoding that it declares.  Otherwise it
gives a rack set or fails as malformed markup does. -/
theorem RackSet.read_cases (source : Source) :
    (∀ failure, source.Refuses failure → RackSet.read source = .error failure) ∧
      ((∃ set, RackSet.read source = .ok set) ∨ RackSet.read source = .error .malformedMarkup ↔
        ∀ failure, ¬ source.Refuses failure) := by
  refine ⟨fun failure => RackSet.read_of_refuses, ?_, ?_⟩
  · intro h failure hrefuses
    have herror := RackSet.read_of_refuses hrefuses
    rcases h with ⟨set, hset⟩ | hmalformed
    · rw [herror] at hset
      contradiction
    · obtain rfl := Except.error.inj (herror.symm.trans hmalformed)
      exact hrefuses.ne_malformedMarkup rfl
  · intro h
    rcases ok_or_error RackSet.failsOnly_read with hset | ⟨failure, hmalformed | hrefuses, herror⟩
    · exact .inl hset
    · exact .inr (hmalformed ▸ herror)
    · exact absurd hrefuses (h failure)

/-- A document whose declared encoding is unknown fails with the name of the encoding. -/
theorem RackSet.read_unknownEncoding :
    RackSet.read (.bytes unknownBytes) = .error (.unknownEncoding "x-unknown") :=
  RackSet.read_of_refuses refuses_unknownBytes

end RackElevation
