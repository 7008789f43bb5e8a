import VersionStamp.Files.Resolution

/-! Following the same path in two file systems.

One name of a path ends the walk, enters a directory, or jumps to where a link leads.
Two walks that take related strides at every name have related outcomes.
-/

namespace VersionStamp.Files

/-- What one name of a path does. -/
inductive Stride where
  | stop (outcome : Except FileFailure Place)
  | enter (directory : Location)
  | jump (start : Location) (pieces : List Name) (slash : Bool)

namespace FileSystem

def stride (files : FileSystem) (lastLink : LastLink) (directory : Location) (name : Name)
    (rest : List Name) (slash : Bool) : Stride :=
  if files.isClosed directory then .stop (.error .permissionDenied)
  else if name = Path.dot then .enter directory
  else if name = Path.dotDot then .enter directory.tail
  else if rest.isEmpty && !lastLink.follows slash then .stop (.ok (.entry directory name slash))
  else
    match files.lookUp directory name with
    | .error failure => .stop (.error failure)
    | .ok (some (.link target)) =>
        .jump (target.start directory) (target.pieces ++ rest)
          (if rest.isEmpty then slash || target.endsInSlash else slash)
    | .ok found =>
        if rest.isEmpty then .stop (.ok (.entry directory name slash))
        else
          match found with
          | some (.directory _) => .enter (name :: directory)
          | some _ => .stop (.error .notADirectory)
          | none => .stop (.error .notFound)

variable {files others : FileSystem} {lastLink otherLink : LastLink}
  {jump otherJump : Location → List Name → Bool → Except FileFailure Place}

theorem walk_cons (files : FileSystem) (lastLink : LastLink)
    (jump : Location → List Name → Bool → Except FileFailure Place) (directory : Location)
    (name : Name) (rest : List Name) (slash : Bool) :
    files.walk lastLink jump directory (name :: rest) slash =
      match files.stride lastLink directory name rest slash with
      | .stop outcome => outcome
      | .enter inner => files.walk lastLink jump inner rest slash
      | .jump start pieces slash => jump start pieces slash := by
  simp only [walk, stride]
  split
  · rfl
  · split
    · rfl
    · split
      · rfl
      · cases rest with
        | nil =>
            cases lastLink.follows slash with
            | false => rfl
            | true =>
                cases files.lookUp directory name with
                | error failure => rfl
                | ok found =>
                    match found with
                    | none | some (.file _ _) | some (.directory _) => rfl
                    | some (.link target) => simp [bind, Except.bind]
        | cons next rest =>
            cases files.lookUp directory name with
            | error failure => rfl
            | ok found =>
                match found with
                | none | some (.file _ _) | some (.directory _) | some (.link _) => rfl

/-- Strides after which two walks stay related: the same stride, ends that are related,
or an end on one side that is related to everything. -/
inductive Related (relation : Except FileFailure Place → Except FileFailure Place → Prop) :
    Stride → Stride → Prop where
  | same (stride : Stride) : Related relation stride stride
  | left {outcome : Except FileFailure Place} (any : ∀ other, relation outcome other)
      (stride : Stride) : Related relation (.stop outcome) stride
  | right {outcome : Except FileFailure Place} (any : ∀ other, relation other outcome)
      (stride : Stride) : Related relation stride (.stop outcome)

section Simulation

variable (relation : Except FileFailure Place → Except FileFailure Place → Prop)

theorem walk_related (reflexive : ∀ outcome, relation outcome outcome)
    (strides : ∀ directory name rest slash, Related relation
      (files.stride lastLink directory name rest slash)
      (others.stride otherLink directory name rest slash))
    (jumps : ∀ start pieces slash, relation (jump start pieces slash)
      (otherJump start pieces slash))
    (directory : Location) (pieces : List Name) (slash : Bool) :
    relation (files.walk lastLink jump directory pieces slash)
      (others.walk otherLink otherJump directory pieces slash) := by
  induction pieces generalizing directory slash with
  | nil => exact reflexive _
  | cons name rest ih =>
      have related := strides directory name rest slash
      rw [walk_cons, walk_cons]
      generalize files.stride lastLink directory name rest slash = one at related ⊢
      generalize others.stride otherLink directory name rest slash = other at related ⊢
      cases related with
      | same =>
          cases one with
          | stop outcome => exact reflexive outcome
          | enter inner => exact ih inner slash
          | jump start pieces slash => exact jumps start pieces slash
      | left any => exact any _
      | right any => exact any _

theorem resolve_related (reflexive : ∀ outcome, relation outcome outcome)
    (strides : ∀ directory name rest slash, Related relation
      (files.stride lastLink directory name rest slash)
      (others.stride otherLink directory name rest slash))
    (here : Location) (path : Path) :
    relation (files.resolve here lastLink path) (others.resolve here otherLink path) := by
  have follow (links : Nat) (start : Location) (pieces : List Name) (slash : Bool) :
      relation (files.follow lastLink links start pieces slash)
        (others.follow otherLink links start pieces slash) := by
    induction links generalizing start pieces slash with
    | zero => exact reflexive _
    | succ links ih => exact walk_related relation reflexive strides ih start pieces slash
  rw [FileSystem.resolve, FileSystem.resolve]
  split
  · exact reflexive _
  · split
    · exact reflexive _
    · split
      · exact reflexive _
      · exact follow _ _ _ _

end Simulation

theorem resolve_eq_ok {files : FileSystem} {here : Location} {lastLink : LastLink} {path : Path}
    {place : Place} :
    files.resolve here lastLink path = .ok place ↔
      0 ∉ path.bytes ∧ path.bytes ≠ [] ∧ path.bytes.length < pathLimit ∧
        files.follow lastLink (linkLimit + 1) (path.start here) path.pieces path.endsInSlash =
          .ok place := by
  rw [FileSystem.resolve]
  by_cases nul : 0 ∈ path.bytes
  · simp [nul]
  · by_cases empty : path.bytes = []
    · simp [empty]
    · by_cases long : pathLimit ≤ path.bytes.length
      · simp [nul, empty, long, Nat.not_lt.mpr long]
      · simp [nul, empty, long, Nat.not_le.mp long]

theorem lookUp_eq_ok {files : FileSystem} {directory : Location} {name : Name}
    {found : Option Entry} :
    files.lookUp directory name = .ok found ↔
      files.node? directory ≠ none ∧ name.length ≤ nameLimit ∧
        files.node? (name :: directory) = found := by
  rw [lookUp]
  cases there : files.node? directory with
  | none => simp
  | some entry =>
      by_cases long : nameLimit < name.length
      · have short : ¬ name.length ≤ nameLimit := Nat.not_le.mpr long
        simp [long, short]
      · have short : name.length ≤ nameLimit := Nat.not_lt.mp long
        simp [long, short]

/-- A path that leads to a name without a slash leads there as well when a link before
a slash is followed. -/
theorem resolve_followed {here directory : Location} {name : Name} {path : Path}
    (resolved : files.resolve here .followedUnlessSlash path =
      .ok (.entry directory name false)) :
    files.resolve here .followed path = .ok (.entry directory name false) := by
  have strides (start : Location) (next : Name) (rest : List Name) (slash : Bool) :
      Related (fun one other => one = .ok (.entry directory name false) → other = one)
        (files.stride .followedUnlessSlash start next rest slash)
        (files.stride .followed start next rest slash) := by
    cases slash with
    | false => exact .same _
    | true =>
        cases rest with
        | cons further rest => exact .same _
        | nil =>
            simp only [stride]
            split
            · exact .same _
            · split
              · exact .same _
              · split
                · exact .same _
                · exact .left (fun _ reached => by cases reached) _
  exact (resolve_related _ (fun _ _ => rfl) strides here path resolved).trans resolved

end FileSystem

end VersionStamp.Files
