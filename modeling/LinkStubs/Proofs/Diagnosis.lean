import LinkStubs.Proofs.Planning

/-!
What is said of inputs that cannot be read. Reading stops at the first file that is no text or has a
line that is refused, and the error tells that file and the number of the first such line, counted
among all lines of the file.
-/

namespace LinkStubs

open LinkStubs.Text

namespace Signature

def Refused (line : List Char) : Prop :=
  ∀ position, ∃ e, readLine (String.ofList line) position = .error e

/-- The fault of a line is at the place where the line is read, and ends in what the line holds. -/
theorem fault_of_readLine {line : String} {position : Position} {e : SourceError}
    (h : readLine line position = .error e) :
    e.kind = .badSignature ∧ e.position = position ∧ e.context = none ∧
      trim line.toList <:+ e.detail.toList := by
  have hends : ∀ front : String,
      trim line.toList <:+ (front ++ String.ofList (trim line.toList)).toList := by
    intro front
    rw [String.toList_append, String.toList_ofList]
    exact List.suffix_append _ _
  rcases readLine_cases line position with
    ⟨_, hr⟩ | ⟨_, ⟨_, hr⟩ | ⟨s, _, ⟨_, hr⟩ | ⟨fault, _, hr⟩⟩⟩
  all_goals
    rw [hr] at h
    cases h
  · exact ⟨rfl, rfl, rfl, hends _⟩
  · exact ⟨rfl, rfl, rfl, hends _⟩

theorem refused_of_readLine {line : List Char} {position : Position} {e : SourceError}
    (h : readLine (String.ofList line) position = .error e) : Refused line := by
  intro other
  cases ho : readLine (String.ofList line) other with
  | error d => exact ⟨d, rfl⟩
  | ok found =>
    rw [readLine_ok_position ho position] at h
    cases h

theorem not_refused_of_readLine {line : List Char} {position : Position} {found : Option Signature}
    (h : readLine (String.ofList line) position = .ok found) : ¬ Refused line := by
  intro hr
  obtain ⟨e, he⟩ := hr position
  rw [h] at he
  cases he

/-- Whether a line holds more than blanks and is no comment. -/
def isKept (line : List Char) : Bool :=
  !isSkipped (trim line)

/-- A signature stands on a line, wherever the line stands. -/
def StandsOn (line : List Char) (s : Signature) : Prop :=
  ∀ position, readLine (String.ofList line) position = .ok (some s)

/-- Lines that can be read hold no refused line, and each line that is kept has its signature. -/
theorem readLines_ok {position : Position} {ls : List (List Char)} {ss : List Signature}
    (h : readLines position ls = .ok ss) :
    (∀ line ∈ ls, ¬ Refused line) ∧ List.Forall₂ StandsOn (ls.filter isKept) ss := by
  induction ls generalizing position ss with
  | nil =>
    cases h
    exact ⟨by simp, .nil⟩
  | cons line rest ih =>
    obtain ⟨found, others, hl, hr, rfl⟩ := readLines_cons h
    obtain ⟨hrest, hstands⟩ := ih hr
    refine ⟨List.forall_mem_cons.mpr ⟨not_refused_of_readLine hl, hrest⟩, ?_⟩
    cases found with
    | none =>
      have hk := skipped_of_readLine hl
      rw [String.toList_ofList] at hk
      rw [List.filter_cons_of_neg (by simp [isKept, isSkipped_iff.mpr hk])]
      exact hstands
    | some s =>
      have hk := (division_of_readLine hl).1
      rw [String.toList_ofList] at hk
      rw [List.filter_cons_of_pos (by simp [isKept, isSkipped_eq_false hk])]
      exact .cons (fun other => readLine_ok_position hl other) hstands

/-- Reading lines stops at the first that is refused, by whose number the fault is placed. -/
theorem readLines_error {n : Nat} {ls : List (List Char)} {e : SourceError}
    (h : readLines (.lineStart n) ls = .error e) :
    ∃ front line back, ls = front ++ line :: back ∧ (∀ other ∈ front, ¬ Refused other) ∧
      readLine (String.ofList line) (.lineStart (n + front.length)) = .error e := by
  induction ls generalizing n with
  | nil => cases h
  | cons line rest ih =>
    cases hl : readLine (String.ofList line) (.lineStart n) with
    | error d =>
      simp only [readLines, hl] at h
      cases h
      exact ⟨[], line, rest, rfl, by simp, hl⟩
    | ok found =>
      cases hr : readLines (.lineStart (n + 1)) rest with
      | ok others =>
        simp only [readLines, hl, Position.nextLine_lineStart, hr] at h
        cases h
      | error d =>
        simp only [readLines, hl, Position.nextLine_lineStart, hr] at h
        cases h
        obtain ⟨front, first, back, rfl, hfront, hfirst⟩ := ih hr
        -- The line in front can be read, and the others are counted from the one behind it.
        refine ⟨line :: front, first, back, rfl,
          List.forall_mem_cons.mpr ⟨not_refused_of_readLine hl, hfront⟩, ?_⟩
        rw [List.length_cons, ← Nat.add_assoc, Nat.add_right_comm]
        exact hfirst

end Signature

def FileTree.Faulty (tree : FileTree) (path : String) : Prop :=
  (∃ reason, tree.readText path = .error reason) ∨
    ∃ source, tree.readText path = .ok source ∧
      ∃ line ∈ lines source.toList, Signature.Refused line

/-- An error that tells what is wrong with the file at a path. -/
structure SourceError.Diagnoses (tree : FileTree) (path : String) (e : SourceError) : Prop where
  context : e.context = some path
  unreadable : ∀ reason, tree.readText path = .error reason →
    e.kind = .unreadable ∧ e.position = ⟨0, 0⟩
  refused : ∀ source, tree.readText path = .ok source →
    ∃ front line back, lines source.toList = front ++ line :: back ∧
      (∀ other ∈ front, ¬ Signature.Refused other) ∧ Signature.Refused line ∧
      e.kind = .badSignature ∧ e.position = ⟨front.length + 1, 1⟩ ∧
      trim line <:+ e.detail.toList ∧
      e.message =
        "Bad signature at " ++ path ++ ":" ++ toString (front.length + 1) ++ ": " ++ e.detail

/-- A module holds the signatures of the lines that are kept of the file at a path, in their order,
and is named after that file. -/
def StubModule.Holds (tree : FileTree) (path : String) (m : StubModule) : Prop :=
  m.name = Path.moduleName path ∧ ∃ source, tree.readText path = .ok source ∧
    List.Forall₂ Signature.StandsOn ((lines source.toList).filter Signature.isKept) m.signatures

theorem SourceError.message_of_line {e : SourceError} {path : String} {n : Nat}
    (hkind : e.kind = .badSignature) (hposition : e.position = .lineStart (n + 1))
    (hcontext : e.context = some path) :
    e.message = "Bad signature at " ++ path ++ ":" ++ toString (n + 1) ++ ": " ++ e.detail := by
  have hvalid : (Position.lineStart (n + 1)).isValid = true := by
    simp [Position.isValid, Position.lineStart]
  have hlocation : e.location = path ++ ":" ++ toString (n + 1) := by
    rw [location, hcontext, hposition, hvalid]
    rfl
  rw [message, hkind, hlocation, Kind.text]
  simp only [String.append_assoc]
  rfl

variable {tree : FileTree} {path : String} {paths : List String} {m : StubModule}
  {ms : List StubModule} {e : SourceError}

namespace StubModule

theorem readFile_error (h : readFile tree path = .error e) :
    tree.Faulty path ∧ e.Diagnoses tree path := by
  rw [readFile, Signature.readFile] at h
  cases hr : tree.readText path with
  | error reason =>
    rw [hr] at h
    cases h
    refine ⟨Or.inl ⟨reason, hr⟩, rfl, fun _ _ => ⟨rfl, rfl⟩, fun source hs => ?_⟩
    rw [hr] at hs
    cases hs
  | ok source =>
    cases hs : Signature.readSource source with
    | ok signatures =>
      simp only [hr, hs] at h
      cases h
    | error d =>
      simp only [hr, hs] at h
      cases h
      obtain ⟨front, line, back, hlines, hfront, hline⟩ := Signature.readLines_error (n := 1) hs
      rw [Nat.add_comm] at hline
      obtain ⟨hkind, hposition, -, hdetail⟩ := Signature.fault_of_readLine hline
      rw [String.toList_ofList] at hdetail
      have hrefused := Signature.refused_of_readLine hline
      refine ⟨Or.inr ⟨source, hr, line, by simp [hlines], hrefused⟩, rfl, fun reason he => ?_,
        fun other ho => ?_⟩
      · rw [hr] at he
        cases he
      · rw [hr] at ho
        cases ho
        exact ⟨front, line, back, hlines, hfront, hrefused, hkind, hposition, hdetail,
          SourceError.message_of_line hkind hposition rfl⟩

theorem readFile_ok (h : readFile tree path = .ok m) : ¬ tree.Faulty path ∧ m.Holds tree path := by
  obtain ⟨hname, source, hr, hs⟩ := readAt_of_readFile h
  obtain ⟨hlines, hstands⟩ := Signature.readLines_ok hs
  refine ⟨?_, hname, source, hr, hstands⟩
  rintro (⟨reason, he⟩ | ⟨other, ho, line, hline, hrefused⟩)
  · rw [hr] at he
    cases he
  · rw [hr] at ho
    cases ho
    exact hlines line hline hrefused

theorem readFiles_error (h : readFiles tree paths = (ms, some e)) :
    ∃ front path back, paths = front ++ path :: back ∧ (∀ other ∈ front, ¬ tree.Faulty other) ∧
      tree.Faulty path ∧ e.Diagnoses tree path := by
  induction paths generalizing ms with
  | nil => cases h
  | cons path paths ih =>
    rw [readFiles] at h
    cases hm : readFile tree path with
    | error d =>
      rw [hm] at h
      cases h
      obtain ⟨hfaulty, hdiagnosed⟩ := readFile_error hm
      exact ⟨[], path, paths, rfl, by simp, hfaulty, hdiagnosed⟩
    | ok m =>
      cases hms : readFiles tree paths with
      | mk others fault =>
        rw [hm, hms] at h
        cases h
        obtain ⟨front, first, back, rfl, hfront, hfirst⟩ := ih hms
        exact ⟨path :: front, first, back, rfl,
          List.forall_mem_cons.mpr ⟨(readFile_ok hm).1, hfront⟩, hfirst⟩

theorem readFiles_ok (h : readFiles tree paths = (ms, none)) :
    (∀ path ∈ paths, ¬ tree.Faulty path) ∧ List.Forall₂ (Holds tree) paths ms := by
  induction paths generalizing ms with
  | nil =>
    cases h
    exact ⟨by simp, .nil⟩
  | cons path paths ih =>
    rw [readFiles] at h
    cases hm : readFile tree path with
    | error d =>
      rw [hm] at h
      cases h
    | ok m =>
      cases hms : readFiles tree paths with
      | mk others fault =>
        rw [hm, hms] at h
        cases h
        obtain ⟨hfaultless, hholds⟩ := readFile_ok hm
        obtain ⟨hothers, hrest⟩ := ih hms
        exact ⟨List.forall_mem_cons.mpr ⟨hfaultless, hothers⟩, .cons hholds hrest⟩

end StubModule

/-- What reading inputs comes to. -/
structure Diagnosed (tree : FileTree) (inputs : List String)
    (result : Except GenerationError (List StubModule)) : Prop where
  fails_iff : (∃ e, result = .error e) ↔ ∃ path ∈ inputs, tree.Faulty path
  /-- The first faulty input is the one that the error is about. -/
  error : ∀ e, result = .error e → ∃ front path back fault,
    inputs = front ++ path :: back ∧ (∀ other ∈ front, ¬ tree.Faulty other) ∧
      tree.Faulty path ∧ e = .source fault ∧ fault.Diagnoses tree path
  ok : ∀ modules, result = .ok modules → List.Forall₂ (StubModule.Holds tree) inputs modules

/-- Inputs are read without an error or the first fault of the first faulty one is told. -/
theorem Plan.readModules_diagnosed (tree : FileTree) (inputs : List String) (log : List LogEvent) :
    Diagnosed tree inputs ((readModules tree inputs).run.run log).1 where
  fails_iff := by
    cases hms : StubModule.readFiles tree inputs with
    | mk ms fault =>
      cases fault with
      | some d =>
        obtain ⟨front, path, back, rfl, -, hfaulty, -⟩ := StubModule.readFiles_error hms
        refine ⟨fun _ => ⟨path, by simp, hfaulty⟩, fun _ => ⟨.source d, ?_⟩⟩
        exact readModules_eq_error_iff.mpr ⟨d, congrArg Prod.snd hms, rfl⟩
      | none =>
        have hfaultless := (StubModule.readFiles_ok hms).1
        rw [readModules_eq_ok_iff.mpr hms]
        constructor
        · rintro ⟨e, he⟩
          cases he
        · rintro ⟨path, hpath, hfaulty⟩
          exact absurd hfaulty (hfaultless path hpath)
  error e he := by
    obtain ⟨fault, hfault, rfl⟩ := readModules_eq_error_iff.mp he
    obtain ⟨front, path, back, hinputs, hfront, hfaulty, hdiagnosed⟩ :=
      StubModule.readFiles_error (Prod.ext rfl hfault)
    exact ⟨front, path, back, fault, hinputs, hfront, hfaulty, rfl, hdiagnosed⟩
  ok modules hm := (StubModule.readFiles_ok (readModules_eq_ok_iff.mp hm)).2

end LinkStubs
