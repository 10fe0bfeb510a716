import LinkStubs.Signature
import LinkStubs.Signature.Split
import LinkStubs.SourceError
import LinkStubs.Text.Lines

/-!
Reading signatures: one line holds one signature, a comment or nothing.
-/

namespace LinkStubs.Signature

open LinkStubs.Text

inductive ParamFault where
  | emptyParam
  | gluedEllipsis
  | ellipsisNotLast
  | ellipsisAlone
  deriving DecidableEq, Repr

def ParamFault.reason : ParamFault → String
  | .emptyParam => "empty parameter"
  | .gluedEllipsis => "'...' must be a parameter of its own"
  | .ellipsisNotLast => "'...' must be the last parameter"
  | .ellipsisAlone => "'...' needs a named parameter before it"

def endsInEllipsis (name : String) : Bool :=
  ['.', '.', '.'].isSuffixOf name.toList

/-- The first fault of a parameter list. -/
def paramFault? (params : List String) : Option ParamFault :=
  let names := params.map argumentName
  if 1 < params.length && params.any String.isEmpty then some .emptyParam
  else if names.any (fun n => endsInEllipsis n && n != ellipsis) then some .gluedEllipsis
  else
    match names.idxOf? ellipsis with
    | none => none
    | some i =>
      if i + 1 ≠ params.length then some .ellipsisNotLast
      else if i = 0 then some .ellipsisAlone
      else none

/-- Blank lines and comments hold no signature. -/
def isSkipped (line : List Char) : Bool :=
  line.isEmpty || ['#'].isPrefixOf line || ['/', '/'].isPrefixOf line

def ofSplit (split : Split) : Signature :=
  { returnType := String.ofList (trim split.result)
    name := String.ofList split.name
    params := (pieces (· == ',') split.params).map (fun p => String.ofList (trim p)) }

/-- The signature on a line; `none` where the line holds none. -/
def readLine (line : String) (position : Position) : Except SourceError (Option Signature) :=
  let text := trim line.toList
  if isSkipped text then .ok none
  else
    match split? text with
    | none => .error (.unparsable position (String.ofList text))
    | some split =>
      let signature := ofSplit split
      match paramFault? signature.params with
      | some fault => .error (.unsupported position (String.ofList text) fault.reason)
      | none => .ok (some signature)

/-- The signatures on lines, the first of which stands at `position`. -/
def readLines (position : Position) : List (List Char) → Except SourceError (List Signature)
  | [] => .ok []
  | line :: rest => do
    let found ← readLine (String.ofList line) position
    let others ← readLines position.nextLine rest
    return found.toList ++ others

/-- The signatures of a text, in order, or the fault of its first line that has one. -/
def readSource (source : String) : Except SourceError (List Signature) :=
  readLines .start (lines source.toList)

end LinkStubs.Signature
