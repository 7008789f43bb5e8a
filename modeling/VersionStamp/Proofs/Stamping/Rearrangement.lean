import VersionStamp.Proofs.Stamping.Contents

/-! Stamping targets in another order.

Targets whose paths find different files do not depend on each other. Seen from one file,
all that counts is the order of the targets that lead to it, so every order that keeps
that one leaves the same files and replaces the same lines for each target.
-/

namespace VersionStamp

open VersionStamp.Artifact VersionStamp.Files

namespace Files.FileSystem

variable {files : FileSystem} {here location : Location} {path other : Path}

/-- Whether two paths find what is at one location. -/
def findsSame (files : FileSystem) (here : Location) (path other : Path) : Bool :=
  match files.find here path with
  | .ok (location, _) => files.leads here other location
  | .error _ => false

theorem findsSame_of_leads (first : files.leads here path location = true)
    (second : files.leads here other location = true) :
    files.findsSame here path other = true := by
  rw [findsSame]
  rw [leads] at first
  cases found : files.find here path with
  | error failure => simp [found] at first
  | ok place =>
      simp only [found, beq_iff_eq] at first
      subst first
      exact second

end Files.FileSystem

namespace Stamping

variable {world after : World} {files : FileSystem} {here location : Location}
  {chosen : List Target} {counts : List Nat}

/-- The same targets in another order, each with its place in the first one. Those that
find one file keep their order. -/
structure Rearrangement (files : FileSystem) (here : Location) (chosen : List Target) where
  order : List (Target × Nat)
  complete : order.Perm chosen.zipIdx
  inOrder : order.Pairwise fun one other =>
    files.findsSame here one.1.path other.1.path = true → one.2 < other.2

theorem linesAt_map_fst (order : List (Target × Nat)) :
    linesAt files here (order.map (·.1)) location =
      (order.filter fun each => files.leads here each.1.path location).map (·.1.line) := by
  rw [linesAt, List.filter_map, List.map_map]
  rfl

namespace Rearrangement

def targets (rearranged : Rearrangement files here chosen) : List Target :=
  rearranged.order.map (·.1)

theorem perm_targets (rearranged : Rearrangement files here chosen) :
    rearranged.targets.Perm chosen := by
  simpa [targets] using rearranged.complete.map (·.1)

theorem filter_order (rearranged : Rearrangement files here chosen) (location : Location) :
    rearranged.order.filter (fun each => files.leads here each.1.path location) =
      chosen.zipIdx.filter fun each => files.leads here each.1.path location := by
  have places : chosen.zipIdx.Pairwise fun one other => one.2 < other.2 := by
    rw [← List.pairwise_map, List.zipIdx_map_snd]
    exact List.pairwise_lt_range'
  have kept : (rearranged.order.filter fun each =>
      files.leads here each.1.path location).Pairwise fun one other => one.2 < other.2 := by
    refine List.pairwise_filter.mpr (rearranged.inOrder.imp ?_)
    intro one other inOrder first second
    exact inOrder (FileSystem.findsSame_of_leads first second)
  refine List.Perm.eq_of_pairwise ?_ kept (places.filter _) (rearranged.complete.filter _)
  intro one other _ _ before after
  omega

theorem linesAt_targets (rearranged : Rearrangement files here chosen) :
    linesAt files here rearranged.targets = linesAt files here chosen := by
  funext location
  rw [targets, linesAt_map_fst, rearranged.filter_order, ← linesAt_map_fst, List.zipIdx_map_fst]

end Rearrangement

/-- What is counted for the targets that lead to a file are the lines that they replace
in its text one after another. -/
theorem zip_stampTargets {order : List (Target × Nat)} {text : String} {access : Access}
    (done : world.perform (stampTargets (order.map (·.1))) = (.ok counts, after))
    (there : world.files.stored? location = some (.file text.toUTF8 access)) :
    (order.zip counts).filter (fun each =>
        world.files.leads world.directory each.1.1.path location) =
      (order.filter fun each => world.files.leads world.directory each.1.path location).zip
        (stampEach (linesAt world.files world.directory (order.map (·.1)) location) text).2 := by
  induction order generalizing world counts text access with
  | nil => rfl
  | cons first others ih =>
      obtain ⟨replaced, rest, middle, stamped, remaining, rfl⟩ := stampTargets_cons_ok done
      obtain ⟨sameHere, place, old, found, changed, counted⟩ := stampTarget_ok stamped
      have alike := (stampTarget_ok_alike stamped).2
      have leads := FileSystem.leads_of_find found location
      rw [List.map_cons, List.zip_cons_cons]
      by_cases reached : place = location
      · subst reached
        have same : some (Entry.file text.toUTF8 access) = some (.file old.toUTF8 .full) :=
          there.symm.trans (FileSystem.stored?_of_find found)
        obtain ⟨texts, rfl⟩ := Entry.file.inj (Option.some.inj same)
        obtain rfl := toUTF8_inj texts
        have stamped : middle.files.stored? place =
            some (.file (first.1.line.stampText text).content.toUTF8 .full) := by
          rw [changed, FileSystem.stored?_set, if_pos rfl]
        have left := ih remaining stamped
        simp only [sameHere, alike.leads, linesAt_alike alike] at left
        rw [linesAt_cons_of_leads (by simp [leads]), List.filter_cons_of_pos (by simp [leads]),
          List.filter_cons_of_pos (by simp [leads]), left, counted]
        rfl
      · have kept : middle.files.stored? location = some (.file text.toUTF8 access) := by
          rw [changed, FileSystem.stored?_set, if_neg reached, there]
        have left := ih remaining kept
        simp only [sameHere, alike.leads, linesAt_alike alike] at left
        rw [linesAt_cons_of_not_leads (by simp [leads, reached]),
          List.filter_cons_of_neg (by simp [leads, reached]),
          List.filter_cons_of_neg (by simp [leads, reached]), left]

namespace Rearrangement

variable {otherAfter : World} {otherCounts : List Nat}

theorem filter_zip_targets {text : String} {access : Access}
    (rearranged : Rearrangement world.files world.directory chosen)
    (done : world.perform (stampTargets chosen) = (.ok counts, after))
    (otherDone : world.perform (stampTargets rearranged.targets) = (.ok otherCounts, otherAfter))
    (there : world.files.stored? location = some (.file text.toUTF8 access)) :
    (rearranged.order.zip otherCounts).filter (fun each =>
        world.files.leads world.directory each.1.1.path location) =
      (chosen.zipIdx.zip counts).filter fun each =>
        world.files.leads world.directory each.1.1.path location := by
  have first := zip_stampTargets otherDone there
  have second := zip_stampTargets ((List.zipIdx_map_fst 0 chosen).symm ▸ done) there
  rw [first, second, rearranged.filter_order, ← targets, rearranged.linesAt_targets,
    List.zipIdx_map_fst]

theorem perm_counts (rearranged : Rearrangement world.files world.directory chosen)
    (done : world.perform (stampTargets chosen) = (.ok counts, after))
    (otherDone : world.perform (stampTargets rearranged.targets) = (.ok otherCounts, otherAfter)) :
    (rearranged.order.zip otherCounts).Perm (chosen.zipIdx.zip counts) := by
  classical
  -- each entry is counted among those of the location that its target leads to
  refine List.perm_iff_count.mpr fun each => ?_
  by_cases member : each.1 ∈ chosen.zipIdx
  · obtain ⟨location, text, found⟩ :=
      find_of_stampTargets done each.1.1 (List.fst_mem_of_mem_zipIdx member)
    have same := rearranged.filter_zip_targets done otherDone (FileSystem.stored?_of_find found)
    have reached : world.files.leads world.directory each.1.1.path location = true := by
      simp [FileSystem.leads_of_find found]
    have counted (list : List ((Target × Nat) × Nat)) :
        (list.filter fun other =>
          world.files.leads world.directory other.1.1.path location).count each =
          list.count each := List.count_filter (a := each) reached
    rw [← counted, same, counted]
  · have missing := mt rearranged.complete.mem_iff.mp member
    rw [List.count_eq_zero_of_not_mem fun found => missing (List.of_mem_zip found).1,
      List.count_eq_zero_of_not_mem fun found => member (List.of_mem_zip found).1]

end Rearrangement

/-- Targets that were stamped can be stamped in every order that keeps the order of those
whose paths find one file. It leaves the same files, and each target replaces as many lines
as before. What becomes of a file follows from what it was and from the targets that lead
to it. -/
theorem stampTargets_rearranged
    (done : world.perform (stampTargets chosen) = (.ok counts, after))
    (rearranged : Rearrangement world.files world.directory chosen) :
    (∃ otherCounts otherAfter,
      world.perform (stampTargets rearranged.targets) = (.ok otherCounts, otherAfter) ∧
      after.SameFiles otherAfter ∧
      (rearranged.order.zip otherCounts).Perm (chosen.zipIdx.zip counts)) ∧
    (∀ location : Location, after.files.stored? location =
      (world.files.stored? location).map
        (stampEntry (linesAt world.files world.directory chosen location))) ∧
    ∀ location : Location,
      (∀ target ∈ chosen, world.files.leads world.directory target.path location = false) →
      after.files.stored? location = world.files.stored? location := by
  have contents := stored?_stampTargets done
  refine ⟨?_, contents, fun location unled => ?_⟩
  · have lengths := rearranged.perm_targets.length_eq
    obtain ⟨stampable, complete⟩ := exists_stampTargets_ok_iff.mp ⟨counts, after, done⟩
    obtain ⟨otherCounts, otherAfter, otherDone⟩ := exists_stampTargets_ok_iff.mpr
      ⟨fun target member => stampable target (rearranged.perm_targets.mem_iff.mp member),
        by rwa [lengths]⟩
    refine ⟨otherCounts, otherAfter, otherDone, ⟨?_, ?_, ?_⟩,
      rearranged.perm_counts done otherDone⟩
    · refine FileSystem.ext_stored fun location => ?_
      rw [contents, stored?_stampTargets otherDone, rearranged.linesAt_targets]
    · rw [(stampTargets_ok_alike done).1, (stampTargets_ok_alike otherDone).1]
    · rw [stampTargets_ok_interruptions done, stampTargets_ok_interruptions otherDone, lengths]
  · have none : linesAt world.files world.directory chosen location = [] := by
      simpa [linesAt] using unled
    rw [contents, none, map_stampEntry_nil]

/-- Two of the paths lead to one file, where the second target finds what the first one
left. The third target goes before both. -/
theorem stampTargets_rearranged_of_links :
    let resource := Path.ofString "app.rc"
    let header := Path.ofString "app.h"
    let link := Path.ofString "updater.rc"
    let files := ((FileSystem.empty.set [resource.bytes]
      (.file "A 1\r\nA 2\r\n".toUTF8 .full)).set [header.bytes]
      (.file "B 1\nA 1".toUTF8 .full)).set [link.bytes] (.link resource)
    let world : World := { files, directory := [] }
    let first : Target := ⟨resource, ⟨"A ", "B 1"⟩⟩
    let second : Target := ⟨link, ⟨"B ", "2"⟩⟩
    let third : Target := ⟨header, ⟨"A ", "2"⟩⟩
    ∃ rearranged : Rearrangement files [] [first, second, third],
      rearranged.targets = [third, first, second] ∧
      ∃ after otherAfter,
        world.perform (stampTargets [first, second, third]) = (.ok [2, 2, 1], after) ∧
        world.perform (stampTargets [third, first, second]) = (.ok [1, 2, 2], otherAfter) ∧
        after.SameFiles otherAfter := by
  intro resource header link files world first second third
  let rearranged : Rearrangement files [] [first, second, third] :=
    ⟨[(third, 2), (first, 0), (second, 1)], by decide +kernel, by decide +kernel⟩
  have counted : (world.perform (stampTargets [first, second, third])).1 = .ok [2, 2, 1] := by
    decide +kernel
  have otherCounted : (world.perform (stampTargets rearranged.targets)).1 = .ok [1, 2, 2] := by
    decide +kernel
  rcases ended : world.perform (stampTargets [first, second, third]) with ⟨outcome, after⟩
  rw [ended] at counted
  subst counted
  obtain ⟨⟨otherCounts, otherAfter, done, same, _⟩, _⟩ := stampTargets_rearranged ended rearranged
  rw [done] at otherCounted
  obtain rfl := Except.ok.inj otherCounted
  exact ⟨rearranged, rfl, after, otherAfter, rfl, done, same⟩

end Stamping

end VersionStamp
