import LinkStubs.Emit.Settings
import LinkStubs.FileTree
import LinkStubs.Toml.Document

/-!
Defaults for options that are not given: built in, or from a file.
-/

namespace LinkStubs

structure Defaults where
  exportMark : String := ""
  loggingFunction : String := Settings.defaultLoggingFunction
  loggingInclude : String := Settings.defaultLoggingInclude
  libTool : String := "lib"
  deriving DecidableEq, Repr

/-- Why a file of defaults cannot be used. -/
inductive DefaultsFault where
  | unreadable (path : String) (reason : FileError)
  | invalid (path : String)
  deriving DecidableEq, Repr

def DefaultsFault.message : DefaultsFault → String
  | .unreadable path reason => "cannot read " ++ path ++ ": " ++ reason.message
  | .invalid path => "invalid " ++ path

namespace Defaults

def variableName : String := "DOTSTUB_CONFIG"

/-- What the environment tells, where it names a file of defaults or none. -/
def surroundings (path : Option String) : List (String × String) :=
  (path.map (variableName, ·)).toList

/-- The string under a key; `none` if something else stands there. -/
def string? (items : Toml.Items) (key default : String) : Option String :=
  match items.lookup key with
  | none => some default
  | some (.text s) => some s
  | some _ => none

/-- The defaults that a document gives; keys that it leaves out keep the built-in value, and other
keys do not matter. -/
def ofDocument? (items : Toml.Items) : Option Defaults := do
  let builtIn : Defaults := {}
  return {
    exportMark := ← string? items "export_macro" builtIn.exportMark
    loggingFunction := ← string? items "logging_function" builtIn.loggingFunction
    loggingInclude := ← string? items "logging_include" builtIn.loggingInclude
    libTool := ← string? items "lib_tool" builtIn.libTool }

def ofFile (tree : FileTree) (path : String) : Except DefaultsFault Defaults :=
  match tree.readText path with
  | .error reason => .error (.unreadable path reason)
  | .ok text =>
    match (Toml.read? text).bind ofDocument? with
    | some defaults => .ok defaults
    | none => .error (.invalid path)

end Defaults

end LinkStubs
