import RackElevation.Proofs.Outcome
import RackElevation.Store

/-!
# Failures of files

Reading and writing fail because of the path, which may lead nowhere or be none.  What is written
does not matter for whether it can be.
-/

namespace RackElevation

/-- A failure of looking up a path, or of a path that is none. -/
def IsFileFailure (failure : Failure) : Prop :=
  failure.isPathFailure = true ∨ failure = .nullInPath

namespace Store

variable (store : Store) (path : Path) (shown : String)

/-- Going into a directory fails on its path only. -/
theorem failsOnly_enter (here : List String) (name : String) :
    FailsOnly IsFileFailure (store.enter shown here name) := by
  unfold enter
  dsimp only
  split_ifs
  · exact .ok
  · exact .error (.inl rfl)
  · exact .ok
  · exact .ok

/-- Following a path fails on the path only. -/
theorem failsOnly_follow (here names : List String) :
    FailsOnly IsFileFailure (store.follow shown here names) := by
  fun_induction follow store shown here names with
  | case1 here => exact .ok
  | case2 here name => exact store.failsOnly_enter shown here name
  | case3 here name rest _ ih =>
      apply (store.failsOnly_enter shown here name).bind
      intro place _
      cases place with
      | directory names => exact ih names
      | file names content =>
          cases content with
          | none => exact .error (.inl rfl)
          | some content => exact .error (.inl rfl)

/-- Looking up a file fails on its path only. -/
theorem failsOnly_find : FailsOnly IsFileFailure (store.find path shown) := by
  unfold find
  split_ifs
  · exact .error (.inr rfl)
  · exact .error (.inl rfl)
  · exact .error (.inl rfl)
  · exact store.failsOnly_follow shown [] path.names
  · exact .ok
  · exact .error (.inl rfl)

/-- Reading a file fails on its path only. -/
theorem failsOnly_read : FailsOnly IsFileFailure (store.read path) := by
  unfold read
  apply (store.failsOnly_find path path.text).bind
  intro place _
  cases place with
  | directory names => exact .error (.inl rfl)
  | file names content =>
      cases content with
      | none => exact .error (.inl rfl)
      | some content => exact .ok

/-- Writing a file fails on its path only. -/
theorem failsOnly_write (content : Content) :
    FailsOnly IsFileFailure (store.write path content) := by
  unfold write writeShown
  apply (store.failsOnly_find path path.text).bind
  intro place _
  cases place with
  | directory names => exact .error (.inl rfl)
  | file names old =>
      dsimp only
      by_cases hslash : (path.text.toList.getLast? == some '/') = true
      · rw [if_pos hslash]
        cases old with
        | none => exact .error (.inl rfl)
        | some content => exact .error (.inl rfl)
      · rw [if_neg hslash]
        exact .ok

/-- Every content can be written where one can be. -/
theorem map_write (content other : Content) :
    (store.write path content).map (fun _ => ()) = (store.write path other).map fun _ => () := by
  unfold write writeShown
  cases store.find path path.text with
  | error failure => rfl
  | ok place =>
      cases place with
      | directory names => rfl
      | file names old =>
          rw [ok_bind, ok_bind]
          dsimp only
          by_cases hslash : (path.text.toList.getLast? == some '/') = true
          · rw [if_pos hslash, if_pos hslash]
          · rw [if_neg hslash, if_neg hslash]
            rfl

end Store

end RackElevation
