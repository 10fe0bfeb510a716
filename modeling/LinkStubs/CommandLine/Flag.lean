import LinkStubs.Options

/-!
The flags of the command line: their short and long names, and the values that they accept.
-/

namespace LinkStubs.CommandLine

/-- Flags with a value. -/
inductive Setting where
  | output
  | intermediateDir
  | kind
  | stubfileName
  | pathFromSource
  | extraStubHeader
  | moduleName
  | exportMark
  | loggingFunction
  | loggingInclude
  | libTool
  | config
  deriving DecidableEq, Repr

/-- Flags without a value. -/
inductive Switch where
  | help
  | version
  | verbose
  | quiet
  deriving DecidableEq, Repr

inductive Flag where
  | setting (s : Setting)
  | switch (s : Switch)
  deriving DecidableEq, Repr

structure FlagName where
  flag : Flag
  short : Option Char
  long : String
  deriving DecidableEq, Repr

abbrev Grammar := List FlagName

namespace Grammar

def short? (g : Grammar) (c : Char) : Option Flag :=
  (g.find? (fun f => f.short = some c)).map (·.flag)

def long? (g : Grammar) (name : String) : Option Flag :=
  (g.find? (fun f => f.long = name)).map (·.flag)

def help : Grammar := [⟨.switch .help, some 'h', "help"⟩]

def version : Grammar := [⟨.switch .version, some 'V', "version"⟩]

/-- The flags that may stand before a command and behind it. -/
def shared : Grammar := [
  ⟨.switch .verbose, some 'v', "verbose"⟩,
  ⟨.switch .quiet, some 'q', "quiet"⟩]

def check : Grammar := help

def generate : Grammar := help ++ [
  ⟨.setting .output, some 'o', "output"⟩,
  ⟨.setting .intermediateDir, some 'i', "intermediate-dir"⟩,
  ⟨.setting .kind, some 't', "type"⟩,
  ⟨.setting .stubfileName, some 's', "stubfile-name"⟩,
  ⟨.setting .pathFromSource, some 'p', "path-from-source"⟩,
  ⟨.setting .extraStubHeader, some 'e', "extra-stub-header"⟩,
  ⟨.setting .moduleName, some 'm', "module-name"⟩,
  ⟨.setting .exportMark, some 'x', "export-macro"⟩,
  ⟨.setting .loggingFunction, some 'l', "logging-function"⟩,
  ⟨.setting .loggingInclude, some 'n', "logging-include"⟩,
  ⟨.setting .libTool, none, "lib-tool"⟩,
  ⟨.setting .config, none, "config"⟩]

end Grammar

/-- Paths must not be empty, and a kind of artifact must be one that there is. -/
def Setting.accepts : Setting → String → Bool
  | .output, v | .intermediateDir, v | .extraStubHeader, v | .config, v => !v.isEmpty
  | .kind, v => (ArtifactKind.ofText? v).isSome
  | _, _ => true

end LinkStubs.CommandLine
