import LinkStubs.Emit.Block

/-!
The frame of a file: banner, includes, guards and the blocks around the parts of modules.
-/

namespace LinkStubs.Emit

def banner : String := comment "This is generated file. Do not modify directly."

def includeSystem (file : String) : String :=
  "#include <" ++ file ++ ">"

def includeOwn (file : String) : String :=
  "#include " ++ quoted file

def headerPreamble (guard nameSpace loggingInclude : String) : List String :=
  [banner, blank, "#ifndef " ++ guard, "#define " ++ guard, blank]
    ++ ["stdarg.h", "map", "string", "vector"].map includeSystem
    ++ [ blank, includeOwn loggingInclude, blank, opening ("namespace " ++ nameSpace),
      comment "Individual module initializer functions." ]

def headerCloser (guard nameSpace : String) : List String :=
  [nameSpaceEnd nameSpace, blank, "#endif  // " ++ guard]

/-- The start of an implementation; `extra` follows the includes as it is. -/
def implementationPreamble (headerPath : String) (extra : Option String) : List String :=
  [ banner, blank, includeOwn headerPath, blank,
    "#include <stdlib.h>  // For NULL.", "#include <dlfcn.h>   // For dlsym, dlopen.", blank,
    includeSystem "map", includeSystem "vector", blank,
    includeOwn "base/compiler_specific.h" ]
    ++ match extra with
      | none => []
      | some text => [blank, text]

def externCOpen : List String :=
  [opening "extern \"C\"", blank]

def externCClose : List String :=
  [blank, closing ++ "  // extern \"C\"", blank, blank]

def nameSpaceOpen (name : String) : List String :=
  [opening ("namespace " ++ name), blank]

def nameSpaceClose (name : String) : List String :=
  [blank, nameSpaceEnd name]

end LinkStubs.Emit
