import VersionStamp.Files.Path

/-! Paths that are put together.

What stands between a base and a relative name follows from the base alone. Joining keeps
the end of the name for later names, so paths can be joined in either order.
-/

namespace VersionStamp.Files.Path

variable {base middle name other : Path}

/-- What separates a base from a relative name. -/
def gap (base : Path) : List UInt8 :=
  if base.bytes.isEmpty || base.endsInSlash then [] else [slash]

theorem join_of_absolute (base : Path) (absolute : name.isAbsolute = true) :
    base.join name = name := by
  rw [join, if_pos absolute]

theorem join_of_relative (base : Path) (relative : name.isAbsolute = false) :
    base.join name = ⟨base.bytes ++ (base.gap ++ name.bytes)⟩ := by
  rw [join, if_neg (by simp [relative]), gap]
  split <;> rfl

theorem isAbsolute_join (base name : Path) :
    (base.join name).isAbsolute = (name.isAbsolute || base.isAbsolute) := by
  cases absolute : name.isAbsolute with
  | true => rw [join_of_absolute base absolute, absolute, Bool.true_or]
  | false =>
      rw [join_of_relative base absolute, Bool.false_or]
      rcases base with ⟨_ | ⟨byte, bytes⟩⟩
      · exact absolute
      · rfl

/-- A name that is joined to a base ends as the name does; where it is empty, it leaves
nothing that would have to be separated from a further name. -/
theorem gap_join (base middle : Path) : (base.join middle).gap = middle.gap := by
  cases absolute : middle.isAbsolute with
  | true => rw [join_of_absolute base absolute]
  | false =>
      rw [join_of_relative base absolute]
      rcases middle with ⟨_ | ⟨byte, bytes⟩⟩
      · have closed : (⟨base.bytes ++ (base.gap ++ [])⟩ : Path).gap = [] := by
          unfold gap endsInSlash
          split <;> simp_all
        exact closed
      · simp [gap, endsInSlash, List.getLast?_append]

theorem join_join (base middle name : Path) :
    (base.join middle).join name = base.join (middle.join name) := by
  cases absolute : name.isAbsolute with
  | true =>
      rw [join_of_absolute _ absolute, join_of_absolute _ absolute, join_of_absolute _ absolute]
  | false =>
      cases rooted : middle.isAbsolute with
      | true =>
          have whole : (middle.join name).isAbsolute = true := by
            rw [isAbsolute_join, rooted, Bool.or_true]
          rw [join_of_absolute base rooted, join_of_absolute base whole]
      | false =>
          have whole : (middle.join name).isAbsolute = false := by
            rw [isAbsolute_join, absolute, rooted, Bool.or_false]
          rw [join_of_relative _ absolute, join_of_relative base whole, gap_join,
            join_of_relative base rooted, join_of_relative middle absolute]
          simp only [List.append_assoc]

/-- Of bases with one length, only the same base leads a relative name to the same path. -/
theorem join_left_inj (relative : name.isAbsolute = false)
    (length : base.bytes.length = other.bytes.length) :
    base.join name = other.join name ↔ base = other := by
  refine ⟨fun same => ?_, fun same => by rw [same]⟩
  rw [join_of_relative base relative, join_of_relative other relative] at same
  have bytes : base.bytes = other.bytes := List.append_inj_left (Path.mk.inj same) length
  exact congrArg Path.mk bytes

end VersionStamp.Files.Path
