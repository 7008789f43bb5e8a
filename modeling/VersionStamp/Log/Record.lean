/-! What a run logs. -/

namespace VersionStamp.Log

inductive Level where
  | error
  | warn
  | info
  | debug
  | trace
deriving Repr, DecidableEq

namespace Level

def all : List Level := [.error, .warn, .info, .debug, .trace]

def name : Level → String
  | .error => "ERROR"
  | .warn => "WARN"
  | .info => "INFO"
  | .debug => "DEBUG"
  | .trace => "TRACE"

/-- Higher levels say more. -/
def verbosity : Level → Nat
  | .error => 1
  | .warn => 2
  | .info => 3
  | .debug => 4
  | .trace => 5

end Level

/-- The part of the program that a record comes from. -/
inductive Origin where
  | command
  | settings
  | metadata
  | lines
  | stamping
  | terminal
deriving Repr, DecidableEq

/-- The name that a filter selects an origin by. -/
def Origin.name : Origin → String
  | .command => "set_version"
  | .settings => "set_version::config"
  | .metadata => "set_version::metadata"
  | .lines => "set_version::patch"
  | .stamping => "set_version::stamper"
  | .terminal => "rustyline"

structure Record where
  level : Level
  origin : Origin
  text : String
deriving Repr, DecidableEq

end VersionStamp.Log
