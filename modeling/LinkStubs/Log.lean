import LinkStubs.Collision
import LinkStubs.ImportTool
import LinkStubs.GenerationError

/-!
The log: what a command reports on its way, as data with a level.
-/

namespace LinkStubs

inductive Level where
  | debug
  | info
  | warn
  | error
  deriving DecidableEq, Repr

namespace Level

def text : Level → String
  | .debug => "DEBUG"
  | .info => "INFO"
  | .warn => "WARN"
  | .error => "ERROR"

def rank : Level → Nat
  | .debug => 0
  | .info => 1
  | .warn => 2
  | .error => 3

end Level

inductive LogEvent where
  | loadedDefaults (path : String)
  | starting (kind : ArtifactKind) (inputs : Nat) (output : String)
  | parsed (file module : String) (signatures : Nat)
  | collision (c : Collision)
  | emitting (module : String) (signatures : Nat)
  | generatedPair (nameSpace : String) (modules signatures : Nat)
  | generatedExports (library : String) (exports : Nat)
  | wroteFile (path : String) (size : Nat)
  | runningTool (invocation : Invocation)
  | wroteLibrary (path : String)
  | failed (code : Int)
  deriving DecidableEq, Repr

namespace LogEvent

def level : LogEvent → Level
  | .loadedDefaults .. | .starting .. | .parsed .. | .emitting .. | .generatedPair ..
  | .generatedExports .. | .runningTool .. => .debug
  | .wroteFile .. | .wroteLibrary .. => .info
  | .collision .. => .warn
  | .failed .. => .error

def text : LogEvent → String
  | .loadedDefaults path => "loaded configuration path=" ++ path
  | .starting kind inputs output =>
    "starting generation type=" ++ kind.text ++ " inputs=" ++ toString inputs ++ " output=" ++ output
  | .parsed file module signatures =>
    "parsed signature file " ++ file ++ " module=" ++ module ++ " signatures="
      ++ toString signatures
  | .collision (.sharedIdentifier first second identifier) =>
    "modules derive the same C identifier first=" ++ first ++ " second=" ++ second
      ++ " identifier=" ++ identifier
  | .collision (.repeatedSignature module signature) =>
    "signature declared more than once module=" ++ module ++ " signature=" ++ signature
  | .emitting module signatures =>
    "emitting module stubs module=" ++ module ++ " signatures=" ++ toString signatures
  | .generatedPair nameSpace modules signatures =>
    "generated posix stubs namespace=" ++ nameSpace ++ " modules=" ++ toString modules
      ++ " signatures=" ++ toString signatures
  | .generatedExports library exports =>
    "generated module definition library=" ++ library ++ " exports=" ++ toString exports
  | .wroteFile path size => "wrote file path=" ++ path ++ " bytes=" ++ toString size
  | .runningTool invocation =>
    "running lib tool " ++ " ".intercalate (invocation.program :: invocation.arguments)
  | .wroteLibrary path => "wrote import library path=" ++ path
  | .failed code => "dotstub failed code=" ++ toString code

/-- The collisions that a log reports. -/
def collision? : LogEvent → Option Collision
  | .collision c => some c
  | _ => none

/-- The events of a log that are shown from a level upwards. -/
def shown (threshold : Level) (log : List LogEvent) : List LogEvent :=
  log.filter (fun e => threshold.rank ≤ e.level.rank)

end LogEvent

/-- A result, with what is logged on the way to it. -/
abbrev Logged (α : Type) := ExceptT GenerationError (StateM (List LogEvent)) α

def note (e : LogEvent) : Logged Unit :=
  modify (· ++ [e])

def noteAll (es : List LogEvent) : Logged Unit :=
  modify (· ++ es)

end LinkStubs
