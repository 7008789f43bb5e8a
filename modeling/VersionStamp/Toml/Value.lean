/-! Values of TOML documents.

Entries of a table keep the order in which they were written. How a table came to be
is recorded, because it decides what may still be added to it.
-/

namespace VersionStamp.Toml

/-- Values of which only the kind matters here. -/
inductive Kind where
  | integer
  | float
  | boolean
  | dateTime
deriving Repr, DecidableEq

/-- How a table came to be: written as a value, opened by a header, passed through by
a longer header, or made by a dotted key. -/
inductive Origin where
  | inline
  | header
  | implicit
  | dotted
deriving Repr, DecidableEq

inductive Value where
  | string (text : String)
  | plain (kind : Kind)
  | array (items : List Value)
  | table (origin : Origin) (entries : List (String × Value))
  | tables (items : List (List (String × Value)))

abbrev Entries := List (String × Value)

namespace Entries

def get? (entries : Entries) (key : String) : Option Value := entries.lookup key

def add (entries : Entries) (key : String) (value : Value) : Entries :=
  entries ++ [(key, value)]

def replace (entries : Entries) (key : String) (value : Value) : Entries :=
  entries.map fun (other, old) => (other, if other = key then value else old)

/-- Changes the table that a path leads to. Tables missing on the way are made. A path
of dotted keys must not enter a table that was opened by a header, no path enters a
table that was written as a value, and a path to an array of tables enters its last
one. -/
def alter (dotted : Bool) (change : Origin → Entries → Option Entries) :
    List String → Origin → Entries → Option Entries
  | [], origin, entries => change origin entries
  | key :: path, _, entries =>
      match entries.get? key with
      | none => do
          let fresh := if dotted then Origin.dotted else Origin.implicit
          let made ← alter dotted change path fresh []
          return entries.add key (.table fresh made)
      | some (.table origin inner) =>
          if origin = .inline ∨ (dotted ∧ origin = .header) then none
          else do
            let altered ← alter dotted change path origin inner
            return entries.replace key (.table origin altered)
      | some (.tables items) => do
          let altered ← alter dotted change path .header (← items.getLast?)
          return entries.replace key (.tables (items.dropLast ++ [altered]))
      | some _ => none

/-- Adds a value. A dotted key only adds to a table made by dotted keys, and a plain
key to any other. -/
def assign (path : List String) (key : String) (value : Value) :
    Origin → Entries → Option Entries :=
  alter true
    (fun origin entries =>
      if decide (origin = .dotted) = path.isEmpty then none
      else if (entries.get? key).isSome then none
      else some (entries.add key value))
    path

/-- Opens a table by its header: a new one, or one that longer headers passed through. -/
def openTable (path : List String) (key : String) : Origin → Entries → Option Entries :=
  alter false
    (fun _ entries =>
      match entries.get? key with
      | none => some (entries.add key (.table .header []))
      | some (.table .implicit inner) => some (entries.replace key (.table .header inner))
      | some _ => none)
    path

/-- Opens a further table of an array of tables. -/
def openElement (path : List String) (key : String) : Origin → Entries → Option Entries :=
  alter false
    (fun _ entries =>
      match entries.get? key with
      | none => some (entries.add key (.tables [[]]))
      | some (.tables items) => some (entries.replace key (.tables (items ++ [[]])))
      | some _ => none)
    path

end Entries

end VersionStamp.Toml
