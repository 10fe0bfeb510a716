import LinkStubs.Emit.Block
import LinkStubs.StubUnit

/-!
The umbrella: an enumeration of the modules and one function that opens the library of each, loads
them all, and on any failure closes what it opened.
-/

namespace LinkStubs.Emit

/-- The enumerator behind the last module. -/
def moduleCount : String := "kNumStubModules"

/-- The enumerators of modules; only the first has its value written out. -/
def enumerators : List StubModule → List String
  | [] => []
  | m :: ms =>
    ("  " ++ m.identifiers.enumerator ++ " = 0,")
      :: ms.map (fun m => "  " ++ m.identifiers.enumerator ++ ",")

def umbrellaEnum (ms : List StubModule) : List String :=
  [comment "Enum and typedef for umbrella initializer.", opening "enum StubModules"]
    ++ enumerators ms
    ++ ["  " ++ moduleCount, closing ++ ";", blank]

def umbrellaHead : String := "bool InitializeStubs(const StubPathMap& path_map)"

def umbrellaPrototype : List String :=
  [ "typedef std::map<StubModules, std::vector<std::string> > StubPathMap;",
    blank,
    comment "Umbrella initializer for all the modules in this stub file.",
    umbrellaHead ++ ";" ]

def closeLibraries : List String :=
  [ "typedef std::map<StubModules, void*> StubHandleMap;",
    blank,
    opening "static void CloseLibraries(StubHandleMap* stub_handles)",
    "  for (StubHandleMap::const_iterator it = stub_handles->begin();",
    "       it != stub_handles->end();",
    opening "       ++it)",
    "    dlclose(it->second);",
    "  " ++ closing,
    blank,
    "  stub_handles->clear();",
    closing,
    blank ]

/-- Opening the libraries in the order of the modules; no module is loaded yet. -/
def openLibraries (log : String) : List String :=
  [ opening umbrellaHead,
    "  StubHandleMap opened_libraries;",
    opening ("  for (int i = 0; i < " ++ moduleCount ++ "; ++i)"),
    "    StubModules cur_module = static_cast<StubModules>(i);",
    "    // If a module is missing, we fail.",
    "    StubPathMap::const_iterator it = path_map.find(cur_module);",
    opening "    if (it == path_map.end())",
    "      CloseLibraries(&opened_libraries);",
    "      return false;",
    "    " ++ closing,
    blank,
    "    // Otherwise, attempt to dlopen the library.",
    "    const std::vector<std::string>& paths = it->second;",
    "    bool module_opened = false;",
    "    for (std::vector<std::string>::const_iterator dso_path = paths.begin();",
    "         !module_opened && dso_path != paths.end();",
    opening "         ++dso_path)",
    "      void* handle = dlopen(dso_path->c_str(), RTLD_LAZY);",
    opening "      if (handle != NULL)",
    "        module_opened = true;",
    "        opened_libraries[cur_module] = handle;",
    opening ("      " ++ closing ++ " else"),
    "        " ++ log ++ " << \"dlopen(\" << dso_path->c_str() << \") failed.\";",
    "        " ++ log ++ " << \"dlerror() says:\\n\" << dlerror();",
    "      " ++ closing,
    "    " ++ closing,
    blank,
    opening "    if (!module_opened)",
    "      CloseLibraries(&opened_libraries);",
    "      return false;",
    "    " ++ closing,
    "  " ++ closing,
    blank ]

def someNotReady (ms : List StubModule) : String :=
  " ||\n      ".intercalate (ms.map (fun m => "!" ++ m.identifiers.readyCheck ++ "()"))

/-- Loading every module; if one is not ready then, all are unloaded. -/
def loadAndCheck (ms : List StubModule) : List String :=
  ["  // Initialize each module if we have not already failed."]
    ++ ms.map (fun m =>
      "  " ++ m.identifiers.loader ++ "(opened_libraries[" ++ m.identifiers.enumerator ++ "]);")
    ++ [ blank,
      "  // Check that each module is initialized correctly.",
      "  // Close all previously opened libraries on failure.",
      opening ("  if (" ++ someNotReady ms ++ ")") ]
    ++ ms.map (fun m => "    " ++ m.identifiers.unloader ++ "();")
    ++ [ "    CloseLibraries(&opened_libraries);",
      "    return false;",
      "  " ++ closing,
      blank,
      "  return true;",
      closing ]

def umbrella (ms : List StubModule) (log : String) : List String :=
  closeLibraries ++ openLibraries log ++ loadAndCheck ms

end LinkStubs.Emit
