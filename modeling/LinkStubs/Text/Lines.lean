/-!
Lines: cutting a text at marked characters, reading a text as lines, and writing lines as a text.
-/

namespace LinkStubs.Text

/-- The pieces of a text between the characters that `cut` marks; there is at least one piece. -/
def pieces (cut : Char → Bool) : List Char → List (List Char)
  | [] => [[]]
  | c :: cs =>
    if cut c then [] :: pieces cut cs
    else
      match pieces cut cs with
      | [] => [[c]]
      | p :: ps => (c :: p) :: ps

/-- A piece is what is left of the text. -/
theorem sublist_of_mem_pieces {cut : Char → Bool} {cs p : List Char} (h : p ∈ pieces cut cs) :
    p.Sublist cs := by
  induction cs generalizing p with
  | nil => simp_all [pieces]
  | cons c cs ih =>
    simp only [pieces] at h
    split at h
    · rcases List.mem_cons.mp h with rfl | h
      · exact List.nil_sublist _
      · exact (ih h).cons _
    · split at h
      · simp only [List.mem_singleton] at h
        subst h
        exact (List.nil_sublist cs).cons_cons c
      · rename_i q qs hq
        rcases List.mem_cons.mp h with rfl | h
        · exact (ih (hq ▸ List.mem_cons_self)).cons_cons c
        · exact (ih (hq ▸ List.mem_cons_of_mem _ h)).cons _

/-- A line read backwards, without the carriage return that belongs to its line break. -/
def closeLine : List Char → List Char
  | '\r' :: line => line.reverse
  | line => line.reverse

/-- The lines of a text that follows `line`, a line under way, read backwards. -/
def linesFrom (line : List Char) : List Char → List (List Char)
  | [] => if line.isEmpty then [] else [line.reverse]
  | c :: cs =>
    if c = '\n' then closeLine line :: linesFrom [] cs
    else linesFrom (c :: line) cs

/-- The lines of a text. A line ends with a newline, or with a carriage return and a newline;
text after the last newline is a line too. -/
def lines (cs : List Char) : List (List Char) :=
  linesFrom [] cs

/-- Lines written one after the other, each ended by a newline. -/
def unlines (ls : List String) : String :=
  String.join (ls.map (· ++ "\n"))

def newlines (s : String) : Nat :=
  s.toList.count '\n'

end LinkStubs.Text
