import LinkStubs.Emit.Stub
import LinkStubs.StubUnit

/-!
What a module contributes: its pointers and stubs, the three functions that manage the pointers,
and the prototypes of those.
-/

namespace LinkStubs.Emit

/-- The pointers and stubs of a module, each annotated with `mark`. -/
def moduleStubs (m : StubModule) (mark : String) : List String :=
  let signatures := m.signatures.map (·.withExport mark)
  [ comment ("Module " ++ m.name ++ "."),
    comment "Static pointers that will hold the location of the real function",
    comment "implementations after the module has been loaded." ]
    ++ signatures.map pointerDeclaration
    ++ [blank, comment "Stubs that dispatch to the real implementations."]
    ++ signatures.flatMap stub
    ++ [blank]

def allLoaded (m : StubModule) : String :=
  match m.signatures with
  | [] => "true"
  | ss => " &&\n      ".intercalate (ss.map (·.pointerName))

/-- The function that tells whether every pointer of a module is set. -/
def readyCheck (m : StubModule) : List String :=
  [ comment "Returns true if all stubs have been properly initialized.",
    opening ("bool " ++ m.identifiers.readyCheck ++ "()"),
    opening ("  if (" ++ allLoaded m ++ ")"),
    "    return true;",
    opening ("  " ++ closing ++ " else"),
    "    return false;",
    "  " ++ closing,
    closing,
    blank ]

/-- Loading one symbol, with a log message where it is missing. -/
def loadSymbol (log : String) (s : Signature) : List String :=
  [ "  " ++ s.pointerName ++ " =",
    "    reinterpret_cast<" ++ s.returnType ++ " (*)(" ++ s.joinedParams ++ ")>(",
    "      dlsym(module, " ++ quoted s.name ++ "));",
    opening ("  if (!" ++ s.pointerName ++ ")"),
    "    " ++ log ++ " << " ++ quoted ("Couldn't load " ++ s.name ++ ", dlerror() says:\\n"),
    "      << dlerror();",
    "  " ++ closing ]

def loader (m : StubModule) (log : String) : List String :=
  [ comment "Initializes the module stubs.",
    opening ("void " ++ m.identifiers.loader ++ "(void* module)") ]
    ++ m.signatures.flatMap (loadSymbol log)
    ++ [closing, blank]

def unloader (m : StubModule) : List String :=
  [ comment "Uninitialize the module stubs.  Reset pointers to NULL.",
    opening ("void " ++ m.identifiers.unloader ++ "()") ]
    ++ m.signatures.map (fun s => "  " ++ s.pointerName ++ " = NULL;")
    ++ [closing, blank]

def prototypes (m : StubModule) : List String :=
  [ "bool " ++ m.identifiers.readyCheck ++ "();",
    "void " ++ m.identifiers.loader ++ "(void* module);",
    "void " ++ m.identifiers.unloader ++ "();",
    blank ]

end LinkStubs.Emit
