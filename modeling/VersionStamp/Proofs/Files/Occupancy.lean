import VersionStamp.Files.Operations
import VersionStamp.Proofs.Files.Joining
import VersionStamp.Proofs.Files.Walking
import VersionStamp.Proofs.Outcome

/-! Paths at which something is.

A path without a slash at its end leads to a name without one, whichever links are on the
way. No file is created where that name is taken, be it by a directory or by a link that
leads nowhere. What is stored in a directory is at every path that leads to the directory and
goes on with its name, as long as the path is not too long.
-/

namespace VersionStamp.Files.FileSystem

variable {files : FileSystem} {here directory : Location} {path : Path} {name : Name}

/-- Where a link at the end is kept, a path stops at its last name alone, and a link on the
way leaves that name and the slash after it. -/
theorem stride_kept (files : FileSystem) (start : Location) (next : Name) (rest : List Name)
    (slash : Bool) :
    match files.stride .kept start next rest slash with
    | .stop outcome => ∀ directory name ends, outcome = .ok (.entry directory name ends) →
        ends = slash ∧ rest = [] ∧ name = next
    | .enter _ => True
    | .jump _ pieces ends => ends = slash ∧ rest ≠ [] ∧ ∃ target, pieces = target ++ rest := by
  rw [stride]
  by_cases closed : files.isClosed start = true
  · simp [closed]
  · by_cases dot : next = Path.dot
    · simp [closed, dot]
    · by_cases dotDot : next = Path.dotDot
      · simp [closed, dotDot, Path.dot, Path.dotDot]
      · cases rest with
        | nil =>
            simp only [closed, dot, dotDot, LastLink.follows, List.isEmpty_nil, Bool.not_false,
              Bool.and_self, if_true, if_false, Bool.false_eq_true]
            rintro directory name ends ⟨⟩
            exact ⟨rfl, trivial, rfl⟩
        | cons further rest =>
            simp only [closed, dot, dotDot, List.isEmpty_cons, Bool.false_and, if_false,
              Bool.false_eq_true]
            cases files.lookUp start next with
            | error failure => simp
            | ok found =>
                rcases found with _ | (⟨content, access⟩ | ⟨access⟩ | ⟨target⟩)
                · simp
                · simp
                · trivial
                · exact ⟨rfl, List.cons_ne_nil further rest, target.pieces, rfl⟩

/-- The entry that a path names, a link at its end not followed, has the path's last name. -/
theorem resolve_kept_entry {ends : Bool}
    (resolved : files.resolve here .kept path = .ok (.entry directory name ends)) :
    ends = path.endsInSlash ∧ path.pieces.getLast? = some name := by
  have follow (links : Nat) (start : Location) (pieces : List Name) (slash : Bool)
      (followed : files.follow .kept links start pieces slash =
        .ok (.entry directory name ends)) : ends = slash ∧ pieces.getLast? = some name := by
    induction links generalizing start pieces with
    | zero => cases followed
    | succ links again =>
        rw [follow] at followed
        induction pieces generalizing start with
        | nil => cases followed
        | cons next rest ih =>
            have kept := files.stride_kept start next rest slash
            rw [walk_cons] at followed
            generalize files.stride .kept start next rest slash = stride at kept followed
            cases stride with
            | stop outcome =>
                obtain ⟨same, rfl, rfl⟩ := kept directory name ends followed
                exact ⟨same, rfl⟩
            | enter inner =>
                obtain ⟨same, last⟩ := ih inner followed
                exact ⟨same, by rw [List.getLast?_cons, last]; rfl⟩
            | jump start pieces other =>
                obtain ⟨rfl, more, target, rfl⟩ := kept
                obtain ⟨same, last⟩ := again start _ followed
                have final := List.getLast?_eq_some_getLast more
                rw [List.getLast?_append, final, Option.some_or, ← final] at last
                exact ⟨same, by rw [List.getLast?_cons, last]; rfl⟩
  exact follow _ _ _ _ (resolve_eq_ok.mp resolved).2.2.2

/-- Something is at a path, without following a link at its end: a directory that the root
or dots name, or an entry of a directory that can be searched. -/
def IsOccupied (files : FileSystem) (here : Location) (path : Path) : Prop :=
  (∃ location, files.resolve here .kept path = .ok (.directory location)) ∨
  ∃ directory name slash entry,
    files.resolve here .kept path = .ok (.entry directory name slash) ∧
      files.lookUp directory name = .ok (some entry)

/-- A name that can stand for an entry of a directory. -/
structure IsOrdinary (name : Name) : Prop where
  nonempty : name ≠ []
  noSlash : Path.slash ∉ name
  noNul : 0 ∉ name
  noDot : name ≠ Path.dot
  noDotDot : name ≠ Path.dotDot
  short : name.length ≤ nameLimit

instance (name : Name) : Decidable (IsOrdinary name) :=
  decidable_of_iff (name ≠ [] ∧ Path.slash ∉ name ∧ 0 ∉ name ∧ name ≠ Path.dot ∧
      name ≠ Path.dotDot ∧ name.length ≤ nameLimit)
    ⟨fun ⟨nonempty, noSlash, noNul, noDot, noDotDot, short⟩ =>
      ⟨nonempty, noSlash, noNul, noDot, noDotDot, short⟩,
    fun ⟨nonempty, noSlash, noNul, noDot, noDotDot, short⟩ =>
      ⟨nonempty, noSlash, noNul, noDot, noDotDot, short⟩⟩

/-- Something is stored under the last name of a path, in a directory that can be searched.
What comes before that name leads to the directory; where nothing comes before it, that is
the current one. -/
inductive Sits (files : FileSystem) (here : Location) : Path → Prop where
  | inside {parent : Path} {directory : Location} {name : Name} {access : Access} {entry : Entry}
      (ordinary : IsOrdinary name)
      (leads : parent.bytes = [] ∧ directory = here ∨
        files.find here parent = .ok (directory, .directory access))
      (there : files.node? directory = some (.directory access))
      (searchable : access ≠ .none)
      (stored : files.stored? (name :: directory) = some entry) :
      Sits files here (parent.join ⟨name⟩)

section Child

variable {lastLink : LastLink} {place : Place} {access : Access}
  {jump childJump : Location → List Name → Bool → Except FileFailure Place}

/-- A place that is, or holds, the directory at a location. -/
def IsDirectory (files : FileSystem) (directory : Location) : Place → Prop
  | .directory location => location = directory
  | .entry outer name _ => name :: outer = directory ∧
      ∃ access, files.lookUp outer name = .ok (some (.directory access))

/-- With a name added at its end a path is followed as before, and enters the directory
that it has led to. -/
theorem stride_child (files : FileSystem) (directory : Location) (name : Name)
    (start : Location) (next : Name) (rest : List Name) (slash : Bool) :
    match files.stride .followed start next rest slash with
    | .stop outcome => ∀ place, outcome = .ok place → files.IsDirectory directory place →
        files.stride .kept start next (rest ++ [name]) false = .enter directory ∧ rest = []
    | .enter inner => files.stride .kept start next (rest ++ [name]) false = .enter inner
    | .jump inner pieces _ =>
        files.stride .kept start next (rest ++ [name]) false =
          .jump inner (pieces ++ [name]) false := by
  have more : (rest ++ [name]).isEmpty = false := by simp
  rw [stride, stride]
  by_cases closed : files.isClosed start = true
  · simp [closed]
  · by_cases dot : next = Path.dot
    · simp [closed, dot]
    · by_cases dotDot : next = Path.dotDot
      · simp [closed, dotDot, Path.dot, Path.dotDot]
      · simp only [closed, dot, dotDot, more, LastLink.follows, Bool.not_true, Bool.and_false,
          Bool.false_and, if_false, Bool.false_eq_true]
        cases looked : files.lookUp start next with
        | error failure => simp
        | ok found =>
            rcases found with _ | (⟨content, access⟩ | ⟨access⟩ | ⟨target⟩)
            · cases rest with
              | nil => simp [IsDirectory, looked]
              | cons further rest => simp
            · cases rest with
              | nil => simp [IsDirectory, looked]
              | cons further rest => simp
            · cases rest with
              | nil => simp +contextual [IsDirectory]
              | cons further rest => simp
            · simp

theorem walk_child (ordinary : IsOrdinary name)
    (openDirectory : files.isClosed directory = false)
    (jumps : ∀ start pieces slash, jump start pieces slash = .ok place →
      childJump start (pieces ++ [name]) false = .ok (.entry directory name false))
    (reached : files.IsDirectory directory place) (start : Location) (pieces : List Name)
    (slash : Bool) (walked : files.walk .followed jump start pieces slash = .ok place) :
    files.walk .kept childJump start (pieces ++ [name]) false =
      .ok (.entry directory name false) := by
  have last : files.walk .kept childJump directory [name] false =
      .ok (.entry directory name false) := by
    rw [walk_cons]
    simp [stride, openDirectory, ordinary.noDot, ordinary.noDotDot, LastLink.follows]
  induction pieces generalizing start slash with
  | nil =>
      cases walked
      obtain rfl : start = directory := reached
      exact last
  | cons next rest ih =>
      have child := files.stride_child directory name start next rest slash
      rw [walk_cons] at walked
      rw [List.cons_append, walk_cons]
      generalize files.stride .followed start next rest slash = stride at child walked
      cases stride with
      | stop outcome =>
          obtain ⟨entered, rfl⟩ := child place walked reached
          rw [entered]
          exact last
      | enter inner =>
          rw [child]
          exact ih inner slash walked
      | jump inner pieces other =>
          rw [child]
          exact jumps inner pieces other walked

theorem follow_child (ordinary : IsOrdinary name)
    (openDirectory : files.isClosed directory = false)
    (reached : files.IsDirectory directory place) (links : Nat) (start : Location)
    (pieces : List Name) (slash : Bool)
    (followed : files.follow .followed links start pieces slash = .ok place) :
    files.follow .kept links start (pieces ++ [name]) false =
      .ok (.entry directory name false) := by
  induction links generalizing start pieces slash with
  | zero => cases followed
  | succ links ih =>
      exact walk_child ordinary openDirectory ih reached start pieces slash followed

theorem splitOnSlash_of_notMem (noSlash : Path.slash ∉ name) :
    Path.splitOnSlash name = [name] := by
  induction name with
  | nil => rfl
  | cons byte name ih =>
      rw [List.mem_cons, not_or] at noSlash
      simp [Path.splitOnSlash, Ne.symm noSlash.1, ih noSlash.2]

theorem splitOnSlash_ne_nil (bytes : List UInt8) : Path.splitOnSlash bytes ≠ [] := by
  cases bytes with
  | nil => simp [Path.splitOnSlash]
  | cons byte bytes =>
      unfold Path.splitOnSlash
      split
      · simp
      · split <;> simp

theorem splitOnSlash_append (bytes : List UInt8) (noSlash : Path.slash ∉ name) :
    Path.splitOnSlash (bytes ++ Path.slash :: name) = Path.splitOnSlash bytes ++ [name] := by
  induction bytes with
  | nil => simp [Path.splitOnSlash, splitOnSlash_of_notMem noSlash]
  | cons byte bytes ih =>
      by_cases same : byte = Path.slash
      · simp [Path.splitOnSlash, same, ih]
      · obtain ⟨piece, pieces, split⟩ := List.exists_cons_of_ne_nil (splitOnSlash_ne_nil bytes)
        simp [Path.splitOnSlash, same, ih, split]

theorem isAbsolute_of_isOrdinary (ordinary : IsOrdinary name) :
    Path.isAbsolute ⟨name⟩ = false := by
  obtain ⟨byte, rest, rfl⟩ := List.exists_cons_of_ne_nil ordinary.nonempty
  have other : byte ≠ Path.slash := fun same => ordinary.noSlash (by simp [same])
  simp [Path.isAbsolute, other]

theorem bytes_join (parent : Path) (ordinary : IsOrdinary name) :
    (parent.join ⟨name⟩).bytes = parent.bytes ++ (parent.gap ++ name) := by
  rw [Path.join_of_relative parent (isAbsolute_of_isOrdinary ordinary)]

theorem pieces_join (parent : Path) (ordinary : IsOrdinary name) :
    (parent.join ⟨name⟩).pieces = parent.pieces ++ [name] := by
  have last (bytes : List UInt8) :
      (Path.splitOnSlash (bytes ++ Path.slash :: name)).filter (fun piece => !piece.isEmpty) =
        (Path.splitOnSlash bytes).filter (fun piece => !piece.isEmpty) ++ [name] := by
    simp [splitOnSlash_append bytes ordinary.noSlash, ordinary.nonempty]
  rw [Path.pieces, bytes_join parent ordinary, Path.gap, Path.pieces]
  by_cases closed : parent.endsInSlash = true
  · -- the slash at the end of the parent separates the name
    obtain ⟨before, bytes⟩ := List.getLast?_eq_some_iff.mp (beq_iff_eq.mp closed)
    have empty : Path.splitOnSlash (before ++ [Path.slash]) =
        Path.splitOnSlash before ++ [[]] := splitOnSlash_append before List.not_mem_nil
    simp only [closed, Bool.or_true, if_true, List.nil_append, bytes, List.append_assoc,
      List.singleton_append, last, empty, List.filter_append]
    simp
  · cases bytes : parent.bytes with
    | nil => simp [Path.splitOnSlash, splitOnSlash_of_notMem ordinary.noSlash, ordinary.nonempty]
    | cons byte rest =>
        simp only [List.isEmpty_cons, closed, Bool.or_self, Bool.false_eq_true, if_false,
          List.singleton_append, last]

theorem endsInSlash_join (parent : Path) (ordinary : IsOrdinary name) :
    (parent.join ⟨name⟩).endsInSlash = false := by
  obtain ⟨last, final⟩ := List.getLast?_isSome.mpr ordinary.nonempty |> Option.isSome_iff_exists.mp
  have other : last ≠ Path.slash := fun same =>
    ordinary.noSlash (same ▸ List.mem_of_getLast? final)
  simp [Path.endsInSlash, bytes_join parent ordinary, List.getLast?_append, final, other]

theorem noNul_join {parent : Path} (ordinary : IsOrdinary name) (noNul : 0 ∉ parent.bytes) :
    0 ∉ (parent.join ⟨name⟩).bytes := by
  have distinct : (0 : UInt8) ≠ Path.slash := by decide
  rw [bytes_join parent ordinary, Path.gap]
  split <;> simp [noNul, ordinary.noNul, distinct]

theorem resolve_join {parent : Path} (ordinary : IsOrdinary name)
    (fits : (parent.join ⟨name⟩).bytes.length < pathLimit) (noNul : 0 ∉ parent.bytes)
    (openDirectory : files.isClosed directory = false)
    (reached : files.IsDirectory directory place)
    (followed : files.follow .followed (linkLimit + 1) (parent.start here) parent.pieces
      parent.endsInSlash = .ok place) :
    files.resolve here .kept (parent.join ⟨name⟩) = .ok (.entry directory name false) := by
  have start : (parent.join ⟨name⟩).start here = parent.start here := by
    rw [Path.start, Path.start, Path.isAbsolute_join, isAbsolute_of_isOrdinary ordinary,
      Bool.false_or]
  refine resolve_eq_ok.mpr ⟨noNul_join ordinary noNul, ?_, fits, ?_⟩
  · simp [bytes_join parent ordinary, ordinary.nonempty]
  · rw [start, pieces_join parent ordinary, endsInSlash_join parent ordinary]
    exact follow_child ordinary openDirectory reached _ _ _ _ followed

theorem isDirectory_of_find {parent : Path}
    (found : files.find here parent = .ok (directory, .directory access)) :
    ∃ place, files.resolve here .followed parent = .ok place ∧
      files.IsDirectory directory place := by
  obtain ⟨place, resolved, found⟩ := bind_eq_ok.mp found
  refine ⟨place, resolved, ?_⟩
  cases place with
  | directory location =>
      simp only [pure, Except.pure, Except.ok.injEq, Prod.mk.injEq] at found
      exact found.1
  | entry outer last slash =>
      obtain ⟨inner, looked, found⟩ := bind_eq_ok.mp found
      rcases inner with _ | (⟨content, other⟩ | ⟨other⟩ | ⟨target⟩)
      · cases found
      · cases slash <;> cases found
      · cases found
        exact ⟨rfl, access, looked⟩
      · cases slash <;> cases found

/-- Something is at the path of an entry whose directory can be searched. -/
theorem isOccupied_of_sits (sits : files.Sits here path) (fits : path.bytes.length < pathLimit) :
    files.IsOccupied here path ∧ path.endsInSlash = false := by
  obtain ⟨ordinary, leads, there, searchable, stored⟩ := sits
  rename_i parent directory name access entry
  have openDirectory : files.isClosed directory = false := by
    cases access <;> first | contradiction | simp [isClosed, there]
  have taken : files.lookUp directory name = .ok (some entry) :=
    lookUp_eq_ok.mpr ⟨by simp [there], ordinary.short, by simpa [node?, stored?] using stored⟩
  refine ⟨.inr ⟨directory, name, false, entry, ?_, taken⟩, endsInSlash_join parent ordinary⟩
  rcases leads with ⟨empty, rfl⟩ | found
  · -- following no piece at all stays in the current directory
    have stays : files.follow .followed (linkLimit + 1) (parent.start directory) parent.pieces
        parent.endsInSlash = .ok (.directory directory) := by
      simp [Path.start, Path.isAbsolute, Path.pieces, Path.splitOnSlash, empty, follow, walk]
    have reached : files.IsDirectory directory (.directory directory) := rfl
    exact resolve_join ordinary fits (by simp [empty]) openDirectory reached stays
  · obtain ⟨place, resolved, reached⟩ := isDirectory_of_find found
    obtain ⟨noNul, _, _, followed⟩ := resolve_eq_ok.mp resolved
    exact resolve_join ordinary fits noNul openDirectory reached followed

theorem Sits.noNul (sits : files.Sits here path) : 0 ∉ path.bytes := by
  obtain ⟨ordinary, ⟨empty, _⟩ | found, _, _, _⟩ := sits
  · exact noNul_join ordinary (by simp [empty])
  · obtain ⟨_, resolved, _⟩ := isDirectory_of_find found
    exact noNul_join ordinary (resolve_eq_ok.mp resolved).1

end Child

theorem creatable_of_occupied (unslashed : path.endsInSlash = false)
    (occupied : files.IsOccupied here path) :
    files.creatable here path = .error .alreadyExists := by
  rcases occupied with ⟨location, resolved⟩ | ⟨directory, name, slash, entry, resolved, taken⟩
  · simp [creatable, resolved, bind, Except.bind]
  · obtain rfl : slash = false := (resolve_kept_entry resolved).1.trans unslashed
    simp [creatable, resolved, taken, bind, Except.bind]

/-- What is stored at a path is in the way of a new file, unless the path is too long. -/
theorem creatable_of_sits (sits : files.Sits here path) :
    files.creatable here path =
      .error (if path.bytes.length < pathLimit then .alreadyExists else .nameTooLong) := by
  split
  · rename_i fits
    obtain ⟨occupied, unslashed⟩ := isOccupied_of_sits sits fits
    exact creatable_of_occupied unslashed occupied
  · rename_i long
    have nonempty : path.bytes ≠ [] := by
      rintro empty
      simp [empty, pathLimit] at long
    simp [creatable, resolve, sits.noNul, nonempty, Nat.le_of_not_lt long, bind, Except.bind]

theorem pieces_of_slashes (count : Nat) : Path.pieces ⟨List.replicate count Path.slash⟩ = [] := by
  have split : Path.splitOnSlash (List.replicate count Path.slash) =
      List.replicate (count + 1) [] := by
    induction count with
    | zero => rfl
    | succ count ih => rw [List.replicate_succ, Path.splitOnSlash, if_pos rfl, ih]; rfl
  simp [Path.pieces, split]

/-- However many slashes are before its name, an entry of the root is there. -/
theorem sits_behind_slashes {count : Nat} {name : Path} {entry : Entry} (some : 0 < count)
    (fits : count < pathLimit) (ordinary : IsOrdinary name.bytes)
    (stored : files.stored? [name.bytes] = .some entry) :
    files.Sits here (Path.join ⟨List.replicate count Path.slash⟩ name) := by
  have resolved : files.resolve here .followed ⟨List.replicate count Path.slash⟩ =
      .ok (.directory []) := by
    have absolute : Path.isAbsolute ⟨List.replicate count Path.slash⟩ = true := by
      obtain ⟨count, rfl⟩ := Nat.exists_eq_succ_of_ne_zero (Nat.ne_of_gt some)
      rfl
    refine resolve_eq_ok.mpr ⟨by simp [Path.slash], ?_, by simpa using fits, ?_⟩
    · simp [Nat.ne_of_gt some]
    · rw [pieces_of_slashes, Path.start, if_pos absolute]
      rfl
  have root : files.find here ⟨List.replicate count Path.slash⟩ =
      .ok ([], .directory .full) := by
    simp [find, resolved, bind, Except.bind, pure, Except.pure, node?]
  exact .inside ordinary (.inr root) rfl (by decide) stored

theorem length_behind_slashes (count : Nat) {name : Path}
    (ordinary : IsOrdinary name.bytes) :
    count + name.bytes.length ≤
      (Path.join ⟨List.replicate count Path.slash⟩ name).bytes.length := by
  rw [show name = ⟨name.bytes⟩ from rfl, bytes_join _ ordinary]
  simp

end VersionStamp.Files.FileSystem
