import VersionStamp.Text.Lines

/-! Splitting a text whose lines have been rewritten.

A rewriting that keeps a line or puts a terminated line in its place keeps the
division into lines. The terminator of a line can be told from the line alone, and
a tag that fits into a line never stands across the end of one.
-/

namespace VersionStamp.Text

/-- A line whose only line feed is at its end. -/
def IsTerminated (line : List Char) : Prop :=
  ∃ body, line = body ++ ['\n'] ∧ '\n' ∉ body

theorem splitLines_append {line : List Char} (terminated : IsTerminated line)
    (rest : List Char) : splitLines (line ++ rest) = line :: splitLines rest := by
  obtain ⟨body, rfl, unbroken⟩ := terminated
  induction body with
  | nil => simp [splitLines]
  | cons c body ih =>
      rw [List.mem_cons, not_or] at unbroken
      have tail := ih unbroken.2
      simp only [List.append_assoc, List.cons_append, List.nil_append] at tail ⊢
      simp [splitLines, Ne.symm unbroken.1, tail]

theorem splitLines_flatten {lines : List (List Char)}
    (terminated : ∀ line ∈ lines, IsTerminated line) : splitLines lines.flatten = lines := by
  induction lines with
  | nil => rfl
  | cons line lines ih =>
      rw [List.forall_mem_cons] at terminated
      rw [List.flatten_cons, splitLines_append terminated.1, ih terminated.2]

theorem splitLines_of_notMem {line : List Char} (nonempty : line ≠ [])
    (unbroken : '\n' ∉ line) : splitLines line = [line] := by
  induction line with
  | nil => contradiction
  | cons c line ih =>
      rw [List.mem_cons, not_or] at unbroken
      cases line with
      | nil => simp [splitLines, Ne.symm unbroken.1]
      | cons d line => simp [splitLines.eq_2, Ne.symm unbroken.1, ih (by simp) unbroken.2]

/-- A text is empty, or an unterminated line, or a terminated line before a text. -/
theorem lines_induction {motive : List Char → Prop} (empty : motive [])
    (unterminated : ∀ line, line ≠ [] → '\n' ∉ line → motive line)
    (terminated : ∀ line rest, IsTerminated line → motive rest → motive (line ++ rest))
    (text : List Char) : motive text := by
  induction size : text.length using Nat.strongRecOn generalizing text with
  | ind size ih =>
      subst size
      by_cases broken : '\n' ∈ text
      · obtain ⟨body, rest, rfl, unbroken⟩ := List.eq_append_cons_of_mem broken
        have shorter : rest.length < (body ++ '\n' :: rest).length := by
          simp only [List.length_append, List.length_cons]
          omega
        have first := terminated (body ++ ['\n']) rest ⟨body, rfl, unbroken⟩
          (ih rest.length shorter rest rfl)
        simpa using first
      · cases text with
        | nil => exact empty
        | cons c rest => exact unterminated (c :: rest) (by simp) broken

/-- Texts are divided one after the other, unless the first stops within a line. -/
theorem splitLines_append_of_whole {text : List Char}
    (whole : text = [] ∨ text.getLast? = some '\n') (rest : List Char) :
    splitLines (text ++ rest) = splitLines text ++ splitLines rest := by
  induction text using lines_induction with
  | empty => rfl
  | unterminated line nonempty unbroken =>
      rcases whole with empty | ended
      · contradiction
      · exact absurd (List.mem_of_getLast? ended) unbroken
  | terminated line more terminated ih =>
      have remains : more = [] ∨ more.getLast? = some '\n' := by
        cases more with
        | nil => exact .inl rfl
        | cons c more =>
            rcases whole with empty | ended
            · simp at empty
            · exact .inr (by simpa [List.getLast?_append] using ended)
      rw [List.append_assoc, splitLines_append terminated, splitLines_append terminated,
        ih remains, List.cons_append]

theorem splitLines_flatMap {rewrite : List Char → List Char}
    (keeps : ∀ line, rewrite line = line ∨ IsTerminated (rewrite line)) (text : List Char) :
    splitLines ((splitLines text).flatMap rewrite) = (splitLines text).map rewrite := by
  induction text using lines_induction with
  | empty => rfl
  | unterminated line nonempty unbroken =>
      have single := splitLines_of_notMem nonempty unbroken
      rw [single]
      rcases keeps line with same | terminated
      · simp [same, single]
      · simpa [splitLines] using splitLines_append terminated []
  | terminated line rest terminated ih =>
      have rewritten : IsTerminated (rewrite line) := by
        rcases keeps line with same | ended
        · rwa [same]
        · exact ended
      rw [splitLines_append terminated, List.flatMap_cons, splitLines_append rewritten, ih,
        List.map_cons]

theorem infix_of_mem_splitLines {line text : List Char} (member : line ∈ splitLines text) :
    line <:+: text := by
  rw [← flatten_splitLines text]
  exact List.infix_of_mem_flatten member

/-- What does not have a character in it cannot stand across that character. -/
theorem infix_append_cons {tag before after : List Char} {c : Char} (absent : c ∉ tag)
    (inside : tag <:+: before ++ c :: after) : tag <:+: before ∨ tag <:+: after := by
  rcases List.infix_append_iff.mp inside with left | right | ⟨left, right, rfl, ends, begins⟩
  · exact .inl left
  · rcases List.infix_cons_iff.mp right with begins | later
    · rcases List.prefix_cons_iff.mp begins with rfl | ⟨rest, rfl, _⟩
      · exact .inl (List.nil_infix)
      · exact absurd List.mem_cons_self absent
    · exact .inr later
  · rcases List.prefix_cons_iff.mp begins with rfl | ⟨rest, rfl, _⟩
    · exact .inl (by simpa using ends.isInfix)
    · exact absurd (List.mem_append_right left List.mem_cons_self) absent

/-- A tag without a line feed that is not empty stands in a text exactly when it stands in one
of its lines. -/
theorem exists_mem_splitLines_iff {tag : List Char} (nonempty : tag ≠ [])
    (unbroken : '\n' ∉ tag) {text : List Char} :
    (∃ line ∈ splitLines text, tag <:+: line) ↔ tag <:+: text := by
  constructor
  · rintro ⟨line, member, stands⟩
    exact stands.trans (infix_of_mem_splitLines member)
  · intro stands
    induction text using lines_induction with
    | empty => exact absurd (List.infix_nil.mp stands) nonempty
    | unterminated line filled whole =>
        rw [splitLines_of_notMem filled whole]
        exact ⟨line, List.mem_singleton_self line, stands⟩
    | terminated line rest terminated ih =>
        rw [splitLines_append terminated]
        obtain ⟨body, rfl, _⟩ := terminated
        rw [List.append_assoc, List.singleton_append] at stands
        rcases infix_append_cons unbroken stands with within | behind
        · exact ⟨_, List.mem_cons_self, List.infix_append_of_infix_left within⟩
        · obtain ⟨later, member, there⟩ := ih behind
          exact ⟨later, List.mem_cons_of_mem _ member, there⟩

theorem terminator_cases (line : List Char) :
    terminator line = ['\r', '\n'] ∨ terminator line = ['\n'] := by
  rw [terminator]
  split
  · exact .inl rfl
  · exact .inr rfl

theorem not_suffix_append {body : List Char} (returns : body.getLast? ≠ some '\r') :
    ¬ ['\r', '\n'] <:+ body ++ ['\n'] := by
  intro suffix
  rcases List.suffix_concat_iff.mp suffix with none | ⟨before, split, suffix⟩
  · cases none
  · have single : before = ['\r'] := (List.append_left_inj ['\n']).mp split.symm
    rw [single] at suffix
    exact returns (List.singleton_suffix_iff_getLast?_eq_some.mp suffix)

theorem withoutTerminator_append {body : List Char} (returns : body.getLast? ≠ some '\r') :
    withoutTerminator (body ++ ['\n']) = body := by
  have kept := not_suffix_append returns
  simp [withoutTerminator, kept]

/-- The terminator of a line stays when all before it is replaced by a text without a
carriage return at its end. -/
theorem terminator_append {body : List Char} (returns : body.getLast? ≠ some '\r')
    (line : List Char) : terminator (body ++ terminator line) = terminator line := by
  rcases terminator_cases line with ending | ending
  · rw [ending]
    simp [terminator]
  · have kept := not_suffix_append returns
    rw [ending]
    simp [terminator, kept]

end VersionStamp.Text
