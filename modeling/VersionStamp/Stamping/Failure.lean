import VersionStamp.Dialogue

/-! Why a run stops. The first failure ends it, and what was written stays written. -/

namespace VersionStamp

open VersionStamp.Files

inductive StampFailure where
  | metadataExists (path : Path)
  | metadata (path : Path) (cause : FileFailure)
  | readTarget (path : Path) (cause : FileFailure)
  | writeTarget (path : Path) (cause : FileFailure)
deriving Repr, DecidableEq

namespace StampFailure

def message : StampFailure → String
  | .metadataExists path => "Metadata file '" ++ path.display ++ "' already exists"
  | .metadata path cause =>
      "Failed to write metadata file '" ++ path.display ++ "': " ++ cause.message
  | .readTarget path cause =>
      "Failed to read target file '" ++ path.display ++ "': " ++ cause.message
  | .writeTarget path cause =>
      "Failed to write target file '" ++ path.display ++ "': " ++ cause.message

def cause? : StampFailure → Option FileFailure
  | .metadataExists _ => none
  | .metadata _ cause | .readTarget _ cause | .writeTarget _ cause => some cause

/-- The message and, though the message already ends in it, the cause. -/
def chain (failure : StampFailure) : List String :=
  failure.message :: (failure.cause?.map FileFailure.message).toList

end StampFailure

inductive RunFailure where
  | dialogue (failure : DialogueFailure)
  | stamp (failure : StampFailure)
deriving Repr, DecidableEq

def RunFailure.chain : RunFailure → List String
  | .dialogue failure => failure.chain
  | .stamp failure => failure.chain

end VersionStamp
