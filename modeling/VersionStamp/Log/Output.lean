import VersionStamp.Files.Path
import VersionStamp.Log.Filter
import VersionStamp.Text.ControlSequences

/-! How a run's records come to be shown.

Variables of the environment say which records are shown, and whether their texts
keep what controls a terminal.
-/

namespace VersionStamp.Log

open VersionStamp.Files

structure Output where
  filter : Filter
  keepsControls : Bool

namespace Output

/-- Without a specification in the environment the standard one holds. -/
def specification (environment : List (String × Path)) : String :=
  ((environment.lookup "RUST_LOG").bind Path.toString?).getD standardSpecification

/-- Whether colours are asked for although nothing that is shown goes to a terminal. -/
def forcesColours (environment : List (String × Path)) : Bool :=
  let refused := (environment.lookup "NO_COLOR").any fun value => !value.bytes.isEmpty
  let forced := (environment.lookup "CLICOLOR_FORCE").any fun value => value.toString? != some "0"
  forced && !refused

def keeps (environment : List (String × Path)) : Bool :=
  match (environment.lookup "RUST_LOG_STYLE").bind Path.toString? with
  | some "always" => true
  | some "never" => false
  | _ => forcesColours environment

/-- The variables that matter here. -/
def consulted : List String := ["RUST_LOG", "RUST_LOG_STYLE", "NO_COLOR", "CLICOLOR_FORCE"]

def ofEnvironment (environment : List (String × Path)) : Output where
  filter := .ofText (specification environment)
  keepsControls := keeps environment

/-- Remarks on what the specification cannot mean. -/
def remarks (environment : List (String × Path)) : List String :=
  Filter.remarks (specification environment)

/-- A record as it is shown, with a line feed that a sequence without an end hides. -/
def shownText (output : Output) (record : Record) : String :=
  let line := record.line ++ "\n"
  if output.keepsControls then line else Text.withoutControls line

/-- What a run shows for a record. -/
def show? (output : Output) (record : Record) : Option String :=
  if output.filter.shows record then some (output.shownText record) else none

end Output

end VersionStamp.Log
