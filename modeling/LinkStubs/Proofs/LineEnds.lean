import LinkStubs.Proofs.Source

/-!
Where the lines of a source end. A source that is put together at the end of a line is read part by
part, and a fault of the second part stands as many lines further down as the first part has. How
the lines end makes no difference.
-/

namespace LinkStubs

open LinkStubs.Text

def SourceError.below (n : Nat) (e : SourceError) : SourceError :=
  { e with position := .lineStart (e.position.line + n) }

namespace Signature

theorem readLine_below (line : String) (n k : Nat) :
    readLine line (.lineStart (n + k)) =
      (readLine line (.lineStart n)).mapError (SourceError.below k) := by
  rw [readLine_placed line .start (.lineStart (n + k)), readLine_placed line .start (.lineStart n)]
  cases readLine line .start with
  | ok found => rfl
  | error e => rfl

/-- Lines that stand further down have their faults further down. -/
theorem readLines_below (n k : Nat) (ls : List (List Char)) :
    readLines (.lineStart (n + k)) ls =
      (readLines (.lineStart n) ls).mapError (SourceError.below k) := by
  induction ls generalizing n with
  | nil => rfl
  | cons line rest ih =>
    have hrest := ih (n + 1)
    rw [Nat.add_right_comm] at hrest
    simp only [readLines, Position.nextLine_lineStart, readLine_below, hrest]
    cases readLine (String.ofList line) (.lineStart n) with
    | error e => rfl
    | ok found =>
      cases readLines (.lineStart (n + 1)) rest with
      | error e => rfl
      | ok others => rfl

theorem readLines_append (n : Nat) (ls ks : List (List Char)) :
    readLines (.lineStart n) (ls ++ ks) = (do
      let ss ← readLines (.lineStart n) ls
      let ts ← readLines (.lineStart (n + ls.length)) ks
      return ss ++ ts) := by
  -- The second part starts as many lines further down as the first has, wherever that starts.
  induction ls generalizing n with
  | nil =>
    simp only [List.nil_append, readLines, List.length_nil, Nat.add_zero]
    cases readLines (.lineStart n) ks with
    | error e => rfl
    | ok ts => rfl
  | cons line rest ih =>
    have hlength : n + (line :: rest).length = n + 1 + rest.length := by
      rw [List.length_cons]
      omega
    simp only [List.cons_append, readLines, Position.nextLine_lineStart, hlength, ih]
    cases readLine (String.ofList line) (.lineStart n) with
    | error e => rfl
    | ok found =>
      cases readLines (.lineStart (n + 1)) rest with
      | error e => rfl
      | ok others =>
        cases readLines (.lineStart (n + 1 + rest.length)) ks with
        | error e => rfl
        | ok ts => exact congrArg Except.ok (List.append_assoc _ _ _).symm

/-- Reading a source that is put together at the end of a line, told by reading its parts. -/
theorem readSource_joined {a : String} (b : String) (ha : Ended a.toList) :
    readSource (a ++ b) = (do
      let ss ← readSource a
      let ts ← (readSource b).mapError (SourceError.below (newlines a))
      return ss ++ ts) := by
  have hlines : lines (a ++ b).toList = lines a.toList ++ lines b.toList := by
    rw [String.toList_append, lines_append ha]
  rw [readSource, hlines, Position.start_eq_lineStart, readLines_append, readLines_below,
    length_lines ha]
  rfl

/-- A source that is put together at the end of a line has the signatures of its parts, or the fault
of the first part that has one. -/
theorem readSource_append {a : String} (b : String) (ha : Ended a.toList) :
    (∀ e, readSource a = .error e → readSource (a ++ b) = .error e) ∧
    (∀ ss ts, readSource a = .ok ss → readSource b = .ok ts →
      readSource (a ++ b) = .ok (ss ++ ts)) ∧
    (∀ ss e, readSource a = .ok ss → readSource b = .error e →
      readSource (a ++ b) = .error
        { e with position := ⟨e.position.line + newlines a, 1⟩ }) := by
  rw [readSource_joined b ha]
  refine ⟨fun e he => ?_, fun ss ts hs ht => ?_, fun ss e hs he => ?_⟩
  · rw [he]
    rfl
  · rw [hs, ht]
    rfl
  · rw [hs, he]
    rfl

/-- Skipped lines of the first part count as well, and the second part needs no newline. -/
theorem readSource_append_of_comment :
    Ended "int ab(void)\r\n\n# c\n".toList ∧
      readSource "int ab(void)\r\n\n# c\nchar* cd()" =
        .ok [⟨"int", "ab", ["void"], none⟩, ⟨"char*", "cd", [""], none⟩] ∧
      readSource "int ab(void)\r\n\n# c\n\nint f(int x)\n" =
        .error (.unparsable ⟨5, 1⟩ "int f(int x)") := by
  have ha : Ended "int ab(void)\r\n\n# c\n".toList := by decide
  have hs : readSource "int ab(void)\r\n\n# c\n" = .ok [⟨"int", "ab", ["void"], none⟩] := by rfl
  have ht : readSource "char* cd()" = .ok [⟨"char*", "cd", [""], none⟩] := by rfl
  have he : readSource "\nint f(int x)\n" = .error (.unparsable ⟨2, 1⟩ "int f(int x)") := by rfl
  exact ⟨ha, (readSource_append "char* cd()" ha).2.1 _ _ hs ht,
    (readSource_append "\nint f(int x)\n" ha).2.2 _ _ hs he⟩

/-- The blanks around a line make no difference to what is read from it. -/
theorem readLine_trimmed {line other : List Char} (h : trim line = trim other)
    (position : Position) :
    readLine (String.ofList line) position = readLine (String.ofList other) position := by
  simp only [readLine, String.toList_ofList, h]

theorem readLines_trimmed {ls ks : List (List Char)} (h : ls.map trim = ks.map trim)
    (position : Position) : readLines position ls = readLines position ks := by
  induction ls generalizing ks position with
  | nil =>
    obtain rfl := List.map_eq_nil_iff.mp h.symm
    rfl
  | cons line rest ih =>
    obtain ⟨other, others, rfl, hline, hrest⟩ := List.map_eq_cons_iff.mp h.symm
    simp only [readLines, readLine_trimmed hline, ih hrest.symm]

def returned (cs : List Char) : List Char :=
  cs.flatMap (fun c => if c = '\n' then ['\r', '\n'] else [c])

/-- A carriage return goes with the newline it stands before, or it is a blank at the line's end. -/
theorem trim_closeLine (before : List Char) : trim (closeLine before) = trim before.reverse := by
  unfold closeLine
  split
  · rw [List.reverse_cons, trim_concat_blank (by decide)]
  · rfl

/-- More carriage returns give the same lines, up to the blanks at their ends. -/
theorem trim_linesFrom_returned (before cs : List Char) :
    (linesFrom before (returned cs)).map trim = (linesFrom before cs).map trim := by
  induction cs generalizing before with
  | nil => rfl
  | cons c cs ih =>
    by_cases hc : c = '\n'
    · subst hc
      have hlines : linesFrom before (returned ('\n' :: cs)) =
          before.reverse :: linesFrom [] (returned cs) := rfl
      rw [hlines, linesFrom, if_pos rfl, List.map_cons, List.map_cons, ih, trim_closeLine]
    · have hlines :
          linesFrom before (returned (c :: cs)) = linesFrom (c :: before) (returned cs) := by
        rw [returned, List.flatMap_cons, if_neg hc, List.singleton_append, linesFrom, if_neg hc,
          ← returned]
      rw [hlines, ih, linesFrom, if_neg hc]

/-- A source whose lines end with carriage returns as well is read as it is without. -/
theorem readSource_returned (source : String) :
    readSource (String.ofList (returned source.toList)) = readSource source := by
  rw [readSource, readSource, String.toList_ofList]
  exact readLines_trimmed (trim_linesFrom_returned [] source.toList) .start

end Signature

end LinkStubs
