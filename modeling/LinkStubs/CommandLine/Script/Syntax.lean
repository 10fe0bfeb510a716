import LinkStubs.Text.Octets

/-!
Scripts of the command language: words with quotes and substitutions, and the commands made of them.
-/

namespace LinkStubs.Script

/-- What is made of the value of a parameter, with a word. -/
inductive Usage where
  | value
  | length
  /-- A stretch that fits the word is cut off at one end. -/
  | trim (atEnd longest : Bool)
  /-- The word serves where there is a value, or where there is none, as a sign tells. With `nul`, an
  empty value is none. -/
  | choice (sign : Char) (nul : Bool)

inductive Piece where
  | text (quoted : Bool) (cs : Octets)
  | parameter (quoted : Bool) (name : Octets) (usage : Usage) (word : List Piece)
  | output (quoted : Bool) (script : Octets)
  | arithmetic (quoted : Bool) (word : List Piece)

abbrev Word := List Piece

def Word.literal? : Word → Option Octets
  | [] => some []
  | .text _ cs :: ps => (Word.literal? ps).map (cs ++ ·)
  | _ => none

inductive OpenMode where
  | read
  | write
  | append
  deriving DecidableEq, Repr

inductive Redirection where
  | file (descriptor : Nat) (mode : OpenMode) (name : Word)
  | copy (descriptor : Nat) (source : Word)
  | document (text : Word)

inductive Command where
  | simple (assignments : List (Octets × Word)) (words : List Word)
      (redirections : List Redirection)
  | redirected (body : Command) (redirections : List Redirection)
  | sequence (first second : Command)
  | both (first second : Command)
  | either (first second : Command)
  | negation (body : Command)
  | pipe (source target : Command)
  | subshell (body : Command)
  | conditional (condition body alternative : Command)
  | loop (goal : Bool) (condition body : Command)
  | forEach (name : Octets) (words : List Word) (body : Command)
  | choose (subject : Word) (arms : List (List Word × Command))
  | define (name : Octets) (body : Command)

def Command.idle : Command :=
  .simple [] [] []

end LinkStubs.Script
