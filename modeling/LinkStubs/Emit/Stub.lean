import LinkStubs.Emit.Block
import LinkStubs.Signature

/-!
Stubs: for every signature a pointer to the real function and a function that calls through it.
-/

namespace LinkStubs

/-- The statements of a stub. Of a variadic tail only the first value is passed on, as a pointer. -/
inductive StubBody where
  | plain (returnsValue : Bool) (args : String)
  | variadicReturn (fixedArgs lastNamedArg : String)
  | variadicVoid (fixedArgs lastNamedArg : String)
  deriving DecidableEq, Repr

namespace StubBody

def joined (names : List String) : String :=
  ", ".intercalate names

/-- A list of argument names that a stub treats as variadic. -/
def hasTail (names : List String) : Bool :=
  1 < names.length && names.getLast? == some ellipsis

def ofSignature (s : Signature) : StubBody :=
  let names := s.argumentNames
  if hasTail names then
    let fixed := names.dropLast
    if s.returnsVoid then .variadicVoid (joined fixed) (fixed.getLast?.getD "")
    else .variadicReturn (joined fixed) (fixed.getLast?.getD "")
  else
    -- A lone `void` declares no parameter.
    .plain (!s.returnsVoid) (if joined names = "void" then "" else joined names)

def isVariadic : StubBody → Bool
  | .plain .. => false
  | _ => true

/-- The statements, for a stub with the return type and the pointer of `s`. -/
def lines (s : Signature) : StubBody → List String
  | .plain returnsValue args =>
    ["  " ++ (if returnsValue then "return " else "") ++ s.pointerName ++ "(" ++ args ++ ");"]
  | .variadicReturn fixed last =>
    [ "  va_list args___;",
      "  va_start(args___, " ++ last ++ ");",
      "  " ++ s.returnType ++ " ret___ = " ++ s.pointerName ++ "(" ++ fixed
        ++ ", va_arg(args___, void*));",
      "  va_end(args___);",
      "  return ret___;" ]
  | .variadicVoid fixed last =>
    [ "  va_list args___;",
      "  va_start(args___, " ++ last ++ ");",
      "  " ++ s.pointerName ++ "(" ++ fixed ++ ", va_arg(args___, void*));",
      "  va_end(args___);" ]

theorem lines_withExport (s : Signature) (mark : String) (b : StubBody) :
    b.lines (s.withExport mark) = b.lines s := by
  cases b <;> rfl

end StubBody

namespace Emit

/-- The pointer behind a stub, empty until its library is loaded. -/
def pointerDeclaration (s : Signature) : String :=
  "static " ++ s.returnType ++ " (*" ++ s.pointerName ++ ")(" ++ s.joinedParams ++ ") = NULL;"

theorem pointerDeclarations_withExport (signatures : List Signature) (mark : String) :
    (signatures.map (·.withExport mark)).map pointerDeclaration =
      signatures.map pointerDeclaration := by
  rw [List.map_map]
  rfl

/-- A weak declaration, so that a real definition in the same program wins. -/
def weakDeclaration (s : Signature) : String :=
  "extern " ++ s.returnType ++ " " ++ s.name ++ "(" ++ s.joinedParams
    ++ ") __attribute__((weak));"

def stubHead (s : Signature) : String :=
  let mark := match s.exportMark with
    | none => ""
    | some mark => mark ++ " "
  opening (s.returnType ++ " " ++ mark ++ s.name ++ "(" ++ s.joinedParams ++ ")")

/-- The target of a stub is known only when it is called. -/
def indirectCallMark : String := "DISABLE_CFI_ICALL"

def stub (s : Signature) : List String :=
  [weakDeclaration s, indirectCallMark, stubHead s]
    ++ (StubBody.ofSignature s).lines s ++ [closing]

end Emit

end LinkStubs
