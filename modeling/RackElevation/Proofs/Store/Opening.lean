import RackElevation.Proofs.Store

/-!
# Opening files for writing

A file is written in two steps: it is opened, which makes it if it is not there and empties it if it
is, and then it is filled.  What was done to a store stays done when a later step fails, so that a
step is described by the store that it leaves as well as by its outcome.

Files may fail to open for reasons that a store does not know, such as a disk that cannot be written
to.  So the steps are described for any way of opening files; that of a store itself is
`Store.opening`.
-/

namespace RackElevation

/-- How files are opened for writing: the names of the file that a path leads to, or why it cannot
be opened, where failures show a given text. -/
abbrev Opening :=
  Path → String → Except Failure (List String)

namespace Store

/-- How a store opens files.  A slash at the end of the shown text asks for a directory. -/
def opening (store : Store) : Opening := fun path shown => do
  match ← store.find path shown with
  | .directory _ => throw (.isDirectory shown)
  | .file names old =>
      if shown.toList.getLast? == some '/' then
        throw (if old.isSome then .notDirectory shown else .isDirectory shown)
      else return names

/-- A content written to the file that a path leads to: the store after it, and the outcome. -/
def writeThrough (opening : Opening) (store : Store) (path : Path) (shown : String)
    (content : Content) : Store × Except Failure Unit :=
  match opening path shown with
  | .error failure => (store, .error failure)
  | .ok names =>
      let opened := store.put names (.text "")
      (opened.put names content, .ok ())

/-- A store that differs from an earlier one in one file, which has a given content. -/
structure ChangedAt (before after : Store) (names : List String) (content : Content) : Prop where
  directories : after.directories = before.directories
  written : after.file? names = some content
  others : ∀ other, other ≠ names → after.file? other = before.file? other

section Changes

variable (store : Store) (names : List String) (content : Content)

theorem file?_put_self : (store.put names content).file? names = some content := by
  have hnone : (store.files.filter (·.1 != names)).find? (·.1 == names) = none := by
    rw [List.find?_eq_none]
    intro entry hentry
    simpa using (List.mem_filter.1 hentry).2
  rw [file?, put, List.find?_append, hnone]
  simp

theorem file?_put_of_ne {other : List String} (h : other ≠ names) :
    (store.put names content).file? other = store.file? other := by
  have hfilter : (store.files.filter (·.1 != names)).find? (·.1 == other) =
      store.files.find? (·.1 == other) := by
    rw [List.find?_filter]
    congr 1
    funext entry
    by_cases hentry : entry.1 = other <;> simp [hentry, h]
  rw [file?, put, List.find?_append, hfilter, file?]
  simp [h.symm]

/-- A file that is put in is the only change. -/
theorem changedAt_put : store.ChangedAt (store.put names content) names content where
  directories := rfl
  written := store.file?_put_self names content
  others := fun _ hne => store.file?_put_of_ne names content hne

/-- Of two contents put in for one file the second one stays. -/
theorem put_put (content' : Content) :
    (store.put names content).put names content' = store.put names content' := by
  rw [put, put, put, List.filter_append, List.filter_filter]
  simp

end Changes

section Writing

variable (opening : Opening) (store : Store) (path : Path) (shown : String) (content : Content)

/-- Writing does nothing where the file cannot be opened, and else it ends with the content put
in. -/
theorem writeThrough_cases :
    (∃ failure, opening path shown = .error failure ∧
      store.writeThrough opening path shown content = (store, .error failure)) ∨
    ∃ names, opening path shown = .ok names ∧
      store.writeThrough opening path shown content = (store.put names content, .ok ()) := by
  unfold writeThrough
  cases opening path shown with
  | error failure => exact .inl ⟨failure, rfl, rfl⟩
  | ok names => exact .inr ⟨names, rfl, Prod.ext (store.put_put names (.text "") content) rfl⟩

/-- In the way of the store itself a file is opened and filled as it is written at once. -/
theorem writeShown_eq : store.writeShown path shown content =
    (store.opening path shown).map fun names => store.put names content := by
  rw [writeShown, opening]
  cases store.find path shown with
  | error failure => rfl
  | ok place =>
      cases place with
      | directory names => rfl
      | file names old =>
          rw [ok_bind, ok_bind]
          dsimp only
          split <;> rfl

end Writing

end Store

end RackElevation
