import LinkStubs.ImportTool
import LinkStubs.Proofs.Text

/-!
What is passed on of a tool's output: the lines that do not report progress, each with a newline
behind it. A text falls into its lines in one way only, and behind a newline it does so as if it
stood alone.
-/

namespace LinkStubs

open LinkStubs.Text

namespace Text

/-- How a text falls into lines. A carriage return belongs to the newline behind it, and what stands
behind the last newline is a line unless it is nothing. -/
inductive InLines : List Char → List (List Char) → Prop where
  | nil : InLines [] []
  | unended {line : List Char} (hne : line ≠ []) (h : '\n' ∉ line) : InLines line [line]
  | ended {line rest : List Char} {ls : List (List Char)} (h : '\n' ∉ line)
      (hr : line.getLast? ≠ some '\r') (later : InLines rest ls) :
      InLines (line ++ '\n' :: rest) (line :: ls)
  | returned {line rest : List Char} {ls : List (List Char)} (h : '\n' ∉ line)
      (later : InLines rest ls) : InLines (line ++ '\r' :: '\n' :: rest) (line :: ls)

theorem linesFrom_unended {line : List Char} (h : '\n' ∉ line) {before : List Char}
    (hne : before.reverse ++ line ≠ []) : linesFrom before line = [before.reverse ++ line] := by
  induction line generalizing before with
  | nil =>
    rw [List.append_nil] at hne ⊢
    rw [linesFrom, if_neg (by simpa using hne)]
  | cons c line ih =>
    simp only [List.mem_cons, not_or] at h
    rw [linesFrom, if_neg (Ne.symm h.1), ih h.2 (by simp)]
    simp

theorem lines_unended {line : List Char} (h : '\n' ∉ line) (hne : line ≠ []) :
    lines line = [line] :=
  linesFrom_unended h hne

theorem lines_append_newline {line : List Char} (h : '\n' ∉ line) (rest : List Char) :
    lines (line ++ '\n' :: rest) = closeLine line.reverse :: lines rest := by
  rw [lines, linesFrom_append_newline h, List.append_nil, lines]

theorem closeLine_returned (line : List Char) : closeLine (line ++ ['\r']).reverse = line := by
  rw [List.reverse_concat]
  exact List.reverse_reverse line

theorem inLines_lines (cs : List Char) : InLines cs (lines cs) := by
  by_cases hm : '\n' ∈ cs
  · obtain ⟨line, rest, hcs, h⟩ := List.eq_append_cons_of_mem hm
    have later := inLines_lines rest
    rw [hcs, lines_append_newline h]
    by_cases hr : line.getLast? = some '\r'
    · obtain ⟨front, rfl⟩ := List.getLast?_eq_some_iff.mp hr
      rw [closeLine_returned, List.append_assoc]
      exact .returned (fun hf => h (List.mem_append_left _ hf)) later
    · rw [closeLine_reverse hr]
      exact .ended h hr later
  · by_cases hn : cs = []
    · subst hn
      exact .nil
    · rw [lines_unended hm hn]
      exact .unended hn hm
termination_by cs.length
decreasing_by
  rw [hcs, List.length_append, List.length_cons]
  omega

/-- A text falls into the lines that are read and into no others. -/
theorem inLines_iff {cs : List Char} {ls : List (List Char)} : InLines cs ls ↔ ls = lines cs := by
  constructor
  · intro h
    induction h with
    | nil => rfl
    | unended hne h => exact (lines_unended h hne).symm
    | ended h hr _ ih => rw [lines_append_newline h, closeLine_reverse hr, ih]
    | @returned line rest ls h _ ih =>
      have hline : '\n' ∉ line ++ ['\r'] := by simp [h]
      have hbreak := lines_append_newline hline rest
      rw [List.append_assoc, List.singleton_append, closeLine_returned] at hbreak
      rw [hbreak, ih]
  · rintro rfl
    exact inLines_lines cs

/-- Lines that hold no newline are the pieces of what is written of them, and an empty piece stands
behind the last. -/
theorem pieces_unlines {ls : List String} (h : ∀ l ∈ ls, '\n' ∉ l.toList) :
    pieces (· == '\n') (unlines ls).toList = ls.map String.toList ++ [[]] := by
  induction ls with
  | nil => rfl
  | cons l ls ih =>
    rw [List.forall_mem_cons] at h
    rw [unlines_cons, pieces_append_cut (uncut_of_not_mem h.1) (by decide), ih h.2, List.map_cons,
      List.cons_append]

theorem unlines_eq_empty_iff {ls : List String} : unlines ls = "" ↔ ls = [] := by
  cases ls with
  | nil => exact iff_of_true rfl rfl
  | cons l ls =>
    refine iff_of_false (fun h => ?_) (by simp)
    have hempty := congrArg String.toList h
    rw [unlines_cons] at hempty
    simp at hempty

end Text

namespace ImportTool

/-- A line that only says which library is made. -/
def IsProgress (line : List Char) : Prop :=
  progress.toList <+: line

instance IsProgress.decidable (line : List Char) : Decidable (IsProgress line) :=
  inferInstanceAs (Decidable (_ <+: _))

theorem filterOutput_eq (output : String) :
    filterOutput output =
      unlines (((lines output.toList).filter (fun line => ¬ IsProgress line)).map String.ofList) := by
  have hkept : (fun line => !progress.toList.isPrefixOf line) =
      fun line => decide (¬ IsProgress line) := by
    funext line
    rw [decide_not, Bool.not_inj_iff, Bool.eq_iff_iff, decide_eq_true_iff, IsProgress,
      List.isPrefixOf_iff_prefix]
  rw [filterOutput, hkept]

/-- Behind a newline a text is passed on as if it stood alone. -/
theorem filterOutput_append (a b : String) :
    filterOutput (a ++ "\n" ++ b) = filterOutput (a ++ "\n") ++ filterOutput b := by
  have hended : Ended (a ++ "\n").toList := Or.inr (by simp)
  rw [filterOutput_eq, String.toList_append, lines_append hended, List.filter_append,
    List.map_append, unlines_append, ← filterOutput_eq, ← filterOutput_eq]

/-- What is passed on of an output with the lines `ls`. -/
structure Forwards (output : String) (ls : List (List Char)) : Prop where
  pieces : pieces (· == '\n') (filterOutput output).toList =
    ls.filter (fun line => ¬ IsProgress line) ++ [[]]
  nothing : filterOutput output = "" ↔ ∀ line ∈ ls, IsProgress line

theorem forwards_lines (output : String) : Forwards output (lines output.toList) := by
  have hread : ∀ l ∈ ((lines output.toList).filter (fun line => ¬ IsProgress line)).map
      String.ofList, '\n' ∉ l.toList := by
    rw [List.forall_mem_map]
    intro line hline
    rw [String.toList_ofList]
    exact newline_not_mem_of_mem_lines (List.mem_filter.mp hline).1
  constructor
  · rw [filterOutput_eq, pieces_unlines hread, List.map_map]
    simp [Function.comp_def]
  · rw [filterOutput_eq, unlines_eq_empty_iff, List.map_eq_nil_iff, List.filter_eq_nil_iff]
    simp

/-- A tool's output falls into lines in one way; those of them that do not report progress are passed
on in order, nothing is lost at a newline, and nothing is passed on just where all report progress. -/
theorem filterOutput_forwards :
    (∀ output : String, ∃ ls, (∀ other, InLines output.toList other ↔ other = ls) ∧
      Forwards output ls) ∧
    ∀ a b : String, filterOutput (a ++ "\n" ++ b) = filterOutput (a ++ "\n") ++ filterOutput b :=
  ⟨fun output => ⟨lines output.toList, fun _ => inLines_iff, forwards_lines output⟩,
    filterOutput_append⟩

example : filterOutput "a\r\n   Creating library x\n\n\rb\r" = "a\n\n\rb\r\n" := by decide +kernel

end ImportTool

end LinkStubs
