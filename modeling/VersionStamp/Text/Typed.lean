import VersionStamp.Text.Cluster

/-! Texts as they are typed, with backspaces that take back what was typed before.

A backspace takes back a whole cluster. How many bytes a cluster has is remembered in
one byte, so of a cluster that is longer only that many bytes go.
-/

namespace VersionStamp.Text

/-- What remains of typed clusters: the characters, the last one first, and the
remembered sizes of the clusters. -/
structure Typed where
  characters : List Char := []
  sizes : List UInt8 := []

/-- Drops characters that have the given number of bytes. -/
def dropBytes : Nat → List Char → List Char
  | 0, characters => characters
  | _, [] => []
  | count + 1, c :: rest => dropBytes (count + 1 - c.utf8Size) rest

namespace Typed

def press (typed : Typed) (cluster : List Char) : Typed :=
  if cluster = ['\x08'] then
    match typed.sizes with
    | [] => typed
    | size :: sizes => { characters := dropBytes size.toNat typed.characters, sizes }
  else
    { characters := cluster.reverse ++ typed.characters
      sizes := .ofNat (String.ofList cluster).utf8ByteSize :: typed.sizes }

theorem foldl_press_of_ne (typed : Typed) {clusters : List (List Char)}
    (plain : ∀ cluster ∈ clusters, cluster ≠ ['\x08']) :
    (clusters.foldl press typed).characters =
      clusters.flatten.reverse ++ typed.characters := by
  induction clusters generalizing typed with
  | nil => rfl
  | cons cluster rest ih =>
      simp only [List.forall_mem_cons] at plain
      simp [ih _ plain.2, press, plain.1]

end Typed

def withoutBackspaces (text : List Char) : List Char :=
  ((clusters text).foldl Typed.press {}).characters.reverse

theorem withoutBackspaces_of_notMem {text : List Char} (plain : '\x08' ∉ text) :
    withoutBackspaces text = text := by
  have clean : ∀ cluster ∈ clusters text, cluster ≠ ['\x08'] := by
    rintro cluster member rfl
    apply plain
    rw [← flatten_clusters text]
    exact List.mem_flatten_of_mem member (List.mem_singleton.mpr rfl)
  simp [withoutBackspaces, Typed.foldl_press_of_ne {} clean]

end VersionStamp.Text
