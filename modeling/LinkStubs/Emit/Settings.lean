import LinkStubs.Text.Blank

/-!
What can be set about generated stubs, and which settings are accepted.
-/

namespace LinkStubs

/-- Why stubs cannot be generated. -/
inductive EmitError where
  | noModules
  | blankLoggingFunction
  | blankLoggingInclude
  deriving DecidableEq, Repr

def EmitError.message : EmitError → String
  | .noModules => "No modules to generate stubs for"
  | .blankLoggingFunction => "Configuration error: logging function must not be empty"
  | .blankLoggingInclude => "Configuration error: logging include must not be empty"

namespace Settings

def defaultLoggingFunction : String := "VLOG(1)"

def defaultLoggingInclude : String := "base/logging.h"

end Settings

structure Settings where
  /-- The annotation of every stub; none if empty. -/
  exportMark : String := ""
  /-- The expression that log messages are streamed to. -/
  loggingFunction : String := Settings.defaultLoggingFunction
  /-- The header that declares the logging expression. -/
  loggingInclude : String := Settings.defaultLoggingInclude
  /-- Text for the implementation, behind its includes. -/
  extraHeader : Option String := none
  deriving DecidableEq, Repr

namespace Settings

def withExportMark (s : Settings) (mark : String) : Settings :=
  { s with exportMark := mark }

def withLogging (s : Settings) (function file : String) : Settings :=
  { s with loggingFunction := function, loggingInclude := file }

def withExtraHeader (s : Settings) (text : String) : Settings :=
  { s with extraHeader := some text }

def fault? (s : Settings) : Option EmitError :=
  if Text.blank s.loggingFunction then some .blankLoggingFunction
  else if Text.blank s.loggingInclude then some .blankLoggingInclude
  else none

end Settings

end LinkStubs
