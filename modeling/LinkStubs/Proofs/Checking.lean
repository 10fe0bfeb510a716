import LinkStubs.Check
import LinkStubs.Proofs.Agreement
import LinkStubs.Proofs.Planning
import LinkStubs.Proofs.Untouched

/-!
Checking inputs and generating from them. Each reads the inputs on its own, and both fail for the
same fault or see the same modules, which an umbrella then numbers in the order of the summaries.
-/

namespace LinkStubs

open LinkStubs.Emit LinkStubs.Identifier LinkStubs.Run LinkStubs.Text

namespace Listing

def enumeratorOn (row : String) : String :=
  String.ofList ((row.toList.dropWhile isBlank).takeWhile isIdentChar)

/-- The rows between the head of the enumeration of modules and its end. -/
def enumerationRows (rows : List String) : List String :=
  ((rows.dropWhile (· ≠ opening "enum StubModules")).drop 1).takeWhile (· ≠ closing ++ ";")

def enumeratorsOn (rows : List String) : List String :=
  (enumerationRows rows).map enumeratorOn

/-- An identifier between blanks and what is no part of it is found as a whole. -/
theorem run_of_frame {front name back : String} (hfront : ∀ c ∈ front.toList, isBlank c = true)
    (hname : IsIdentifier name) (hback : ∀ c ∈ back.toList.head?, isIdentChar c = false) :
    ((front ++ name ++ back).toList.dropWhile isBlank).takeWhile isIdentChar = name.toList ∧
      ((front ++ name ++ back).toList.dropWhile isBlank).dropWhile isIdentChar = back.toList := by
  have hstart : ∀ c ∈ (name.toList ++ back.toList).head?, isBlank c = false := by
    obtain ⟨d, ds, he, hd, -⟩ := hname
    rw [he, List.cons_append, List.head?_cons]
    rintro c ⟨⟩
    exact Signature.not_blank_of_identChar (Signature.isIdentChar_of_start hd)
  rw [String.toList_append, String.toList_append, List.append_assoc,
    dropWhile_blanks _ _ hfront hstart]
  exact Signature.takeWhile_run _ _ _ hname.identText hback

theorem enumeratorOn_frame {front name back : String}
    (hfront : ∀ c ∈ front.toList, isBlank c = true) (hname : IsIdentifier name)
    (hback : ∀ c ∈ back.toList.head?, isIdentChar c = false) :
    enumeratorOn (front ++ name ++ back) = name := by
  rw [enumeratorOn, (run_of_frame hfront hname hback).1, String.ofList_toList]

theorem enumerationRows_umbrellaEnum (ms : List StubModule) :
    enumerationRows (Section.umbrellaEnum ms).rows = enumerators ms ++ ["  " ++ moduleCount] := by
  have hstart : ∀ row ∈ enumerators ms ++ ["  " ++ moduleCount], row.toList.head? = some ' ' := by
    rw [List.forall_mem_append]
    refine ⟨fun row hrow => ?_, by decide⟩
    obtain ⟨m, -, back, rfl, -⟩ := Agreement.enumerators_row ms row hrow
    simp
  have hinside : ∀ row ∈ enumerators ms ++ ["  " ++ moduleCount],
      decide (row ≠ closing ++ ";") = true := by
    intro row hrow
    rw [decide_eq_true_iff]
    rintro rfl
    exact absurd (hstart _ hrow) (by decide)
  have hrows : (Section.umbrellaEnum ms).rows.dropWhile (· ≠ opening "enum StubModules") =
      opening "enum StubModules" ::
        ((enumerators ms ++ ["  " ++ moduleCount]) ++ (closing ++ ";") :: [blank]) := by
    rw [Agreement.rows_umbrellaEnum, umbrellaEnum, List.append_assoc, List.append_assoc,
      List.cons_append, List.dropWhile_cons_of_pos (by decide), List.singleton_append,
      List.dropWhile_cons_of_neg (by simp)]
    rfl
  rw [enumerationRows, hrows, List.drop_succ_cons, List.drop_zero,
    List.takeWhile_append_of_pos hinside, List.takeWhile_cons_of_neg (by simp), List.append_nil]

theorem enumeratorsOn_umbrellaEnum (ms : List StubModule) :
    enumeratorsOn (Section.umbrellaEnum ms).rows =
      ms.map (·.identifiers.enumerator) ++ [moduleCount] := by
  have hname : ∀ (m : StubModule) (back : String),
      (∀ c ∈ back.toList.head?, isIdentChar c = false) →
        enumeratorOn ("  " ++ m.identifiers.enumerator ++ back) = m.identifiers.enumerator :=
    fun m back hback =>
      enumeratorOn_frame (List.all_eq_true.mp (by decide)) (enumerator_isIdentifier m.name) hback
  have hnames : (enumerators ms).map enumeratorOn = ms.map (·.identifiers.enumerator) := by
    cases ms with
    | nil => rfl
    | cons m ms =>
      rw [enumerators, List.map_cons, hname m _ (by simp [isIdentChar]), List.map_map, List.map_cons]
      exact congrArg _ (List.map_congr_left fun n _ => hname n _ (by simp [isIdentChar]))
  rw [enumeratorsOn, enumerationRows_umbrellaEnum, List.map_append, hnames]
  exact congrArg _ (by decide)

end Listing

namespace Check

open ModuleSummary

variable {tree : FileTree}

theorem shared_ofModule (earlier : List StubModule) (m : StubModule) :
    (ofModule m).shared (earlier.map ofModule) = Collision.shared (earlier.map (·.name)) m.name := by
  rw [ModuleSummary.shared, Collision.shared, List.find?_map, List.find?_map, Option.map_map,
    Option.map_map]
  rfl

theorem summariesAfter_run (earlier : List StubModule) (inputs : List String)
    (log : List LogEvent) :
    (summariesAfter tree (earlier.map ofModule) inputs).run.run log =
      ((match (StubModule.readFiles tree inputs).2 with
        | none => .ok ((earlier ++ (StubModule.readFiles tree inputs).1).map ofModule)
        | some e => .error (.source e)),
      log ++ (Collision.ofFilesAfter (earlier.map (·.name))
        (StubModule.readFiles tree inputs).1).map .collision) := by
  induction inputs generalizing earlier log with
  | nil =>
    simp only [StubModule.readFiles, Collision.ofFilesAfter, List.map_nil, List.append_nil]
    rfl
  | cons path paths ih =>
    rw [summariesAfter, StubModule.readFiles, StubModule.readFile]
    cases hr : Signature.readFile tree path with
    | error e =>
      simp only [Collision.ofFilesAfter, List.map_nil, List.append_nil]
      rfl
    | ok signatures =>
      dsimp only
      rw [run_bind, shared_ofModule]
      change (summariesAfter tree (earlier.map ofModule ++
        [ofModule ⟨Path.moduleName path, signatures⟩]) paths).run.run (log ++ _) = _
      rw [← List.map_singleton, ← List.map_append, ih]
      simp only [Collision.ofFilesAfter, List.map_append, List.map_cons, List.map_nil,
        List.append_assoc, List.singleton_append]

theorem summaries_run (inputs : List String) (log : List LogEvent) :
    (summaries tree inputs).run.run log =
      ((match (StubModule.readFiles tree inputs).2 with
        | none => .ok ((StubModule.readFiles tree inputs).1.map ofModule)
        | some e => .error (.source e)),
      log ++ (Collision.ofFiles (StubModule.readFiles tree inputs).1).map .collision) :=
  summariesAfter_run [] inputs log

theorem summaries_eq_ok_iff {inputs : List String} {log : List LogEvent}
    {found : List ModuleSummary} :
    ((summaries tree inputs).run.run log).1 = .ok found ↔
      ∃ ms, StubModule.readFiles tree inputs = (ms, none) ∧ found = ms.map ofModule := by
  rw [summaries_run]
  rcases StubModule.readFiles tree inputs with ⟨ms, _ | fault⟩
  · simp [eq_comm]
  · simp

theorem summaries_eq_error_iff {inputs : List String} {log : List LogEvent}
    {e : GenerationError} :
    ((summaries tree inputs).run.run log).1 = .error e ↔
      ∃ fault, (StubModule.readFiles tree inputs).2 = some fault ∧ e = .source fault := by
  rw [summaries_run]
  rcases StubModule.readFiles tree inputs with ⟨ms, _ | fault⟩
  · simp
  · simp [eq_comm]

/-- Nothing is printed before all files are read. -/
theorem start_run (inputs : List String) (s : Session) :
    start (run inputs) s =
      match (summaries s.tree inputs).run.run s.log with
      | (.ok found, log) => start (printLines (found.map (·.text))) { s with log }
      | (.error e, log) => (.error e, { s with log }) := by
  rw [run, start_bind, start_get]
  dsimp only
  rw [start_bind, start_ofLogged]
  cases (summaries s.tree inputs).run.run s.log with
  | mk result log => cases result <;> rfl

theorem start_printLines_cons (line : String) (lines : List String) (s : Session) :
    start (printLines (line :: lines)) s =
      match s.console.pass s.output (line ++ "\n") with
      | (none, taken) => start (printLines lines) { s with output := s.output ++ taken }
      | (some reason, taken) => (.ok (some reason), { s with output := s.output ++ taken }) := by
  rw [printLines, start_bind, start_print]
  dsimp only
  cases s.console.pass s.output (line ++ "\n") with
  | mk refusal taken => cases refusal <;> rfl

/-- What printing lines comes to: the first lines are printed, and where one is refused, a part of
it. -/
inductive Prints (before : String) (lines : List String) : Option FileError → String → Prop where
  | all : Prints before lines none (before ++ unlines lines)
  | cut {whole later : List String} {line part : String} {reason : FileError}
      (order : lines = whole ++ line :: later) (begun : part.toList <+: (line ++ "\n").toList) :
      Prints before lines (some reason) (before ++ unlines whole ++ part)

theorem Prints.eq_of_none {before after : String} {lines : List String}
    (h : Prints before lines none after) : after = before ++ unlines lines := by
  cases h
  rfl

/-- A line that is printed before all others is one more of the first lines. -/
theorem Prints.cons {before line after : String} {lines : List String} {refusal : Option FileError}
    (h : Prints (before ++ (line ++ "\n")) lines refusal after) :
    Prints before (line :: lines) refusal after := by
  have hunlines : ∀ ls, before ++ (line ++ "\n") ++ unlines ls = before ++ unlines (line :: ls) := by
    intro ls
    rw [unlines, unlines, List.map_cons, String.join_cons, String.append_assoc]
  cases h with
  | all =>
    rw [hunlines]
    exact .all
  | cut order begun =>
    rw [hunlines]
    exact .cut (by rw [order, List.cons_append]) begun

/-- Printing fails in no way but by a refusal, and touches nothing but the output. -/
theorem start_printLines (lines : List String) (s : Session) :
    ∃ refusal after, start (printLines lines) s = (.ok refusal, { s with output := after }) ∧
      Prints s.output lines refusal after ∧ (s.console.TakesAll → refusal = none) := by
  induction lines generalizing s with
  | nil =>
    have hall := @Prints.all s.output []
    rw [unlines, List.map_nil, String.join_nil, String.append_empty] at hall
    exact ⟨none, s.output, rfl, hall, fun _ => rfl⟩
  | cons line lines ih =>
    rw [start_printLines_cons]
    cases hpass : s.console.pass s.output (line ++ "\n") with
    | mk refusal taken =>
      cases refusal with
      | none =>
        have htaken := Console.pass_snd_of_fst (congrArg Prod.fst hpass)
        rw [hpass] at htaken
        dsimp only at htaken ⊢
        subst htaken
        obtain ⟨refusal, after, hrun, hprints, htakes⟩ :=
          ih { s with output := s.output ++ (line ++ "\n") }
        exact ⟨refusal, after, hrun, hprints.cons, htakes⟩
      | some reason =>
        have hpart := Console.pass_snd_prefix s.console s.output (line ++ "\n")
        rw [hpass] at hpart
        have hcut := @Prints.cut s.output _ [] lines line taken reason rfl hpart
        rw [unlines, List.map_nil, String.join_nil, String.append_empty] at hcut
        refine ⟨some reason, _, rfl, hcut, fun hall => ?_⟩
        rw [hall.pass] at hpass
        cases hpass

theorem start_run_ok {inputs : List String} {s t : Session} {refusal : Option FileError}
    (h : start (run inputs) s = (.ok refusal, t)) :
    ∃ found, ((summaries s.tree inputs).run.run s.log).1 = .ok found ∧
      Prints s.output (found.map (·.text)) refusal t.output := by
  rw [start_run] at h
  split at h
  · rename_i found log hrun
    obtain ⟨_, _, hprinted, hprints, -⟩ := start_printLines (found.map (·.text)) { s with log }
    rw [h] at hprinted
    cases hprinted
    exact ⟨found, congrArg Prod.fst hrun, hprints⟩
  · cases h

theorem start_run_error {inputs : List String} {s t : Session} {e : GenerationError}
    (h : start (run inputs) s = (.error e, t)) :
    ((summaries s.tree inputs).run.run s.log).1 = .error e ∧ t.output = s.output := by
  rw [start_run] at h
  split at h
  · rename_i found log hrun
    obtain ⟨_, _, hprinted, -, -⟩ := start_printLines (found.map (·.text)) { s with log }
    rw [h] at hprinted
    cases hprinted
  · rename_i d log hrun
    cases h
    exact ⟨congrArg Prod.fst hrun, rfl⟩

/-- A check calls no tool, and is refused nothing by a standard output that takes everything. -/
theorem start_run_quiet {inputs : List String} {s t : Session}
    {result : Except GenerationError (Option FileError)} (h : start (run inputs) s = (result, t)) :
    t.invocations = s.invocations ∧ t.console = s.console ∧
      (s.console.TakesAll → ∀ reason, result ≠ .ok (some reason)) := by
  rw [start_run] at h
  split at h
  · rename_i found log hrun
    obtain ⟨refusal, _, hprinted, -, htakes⟩ :=
      start_printLines (found.map (·.text)) { s with log }
    rw [h] at hprinted
    cases hprinted
    refine ⟨rfl, rfl, fun hall reason he => ?_⟩
    rw [htakes hall] at he
    cases he
  · cases h
    exact ⟨rfl, rfl, fun _ _ => nofun⟩

end Check

namespace Run

/-- A generation fails for what an input holds just where its options fit together and some input
has a fault, which is the fault of the first such input. -/
theorem generate_source_iff {tools : Toolbox} {o : GenerateOptions} {d : Defaults} {s : Session}
    {fault : SourceError} :
    (start (generate tools o d) s).1 = .error (.source fault) ↔
      o.fault? = none ∧ (StubModule.readFiles s.tree o.inputs).2 = some fault := by
  rw [start_generate, ← @Plan.make_source_iff _ _ d s.log]
  cases hplan : (Plan.make s.tree o d).run.run s.log with
  | mk result log =>
    cases result with
    | error e => simp only [Except.error.injEq]
    | ok plan =>
      constructor
      · intro h
        exact absurd trivial (carryOut_pastPlan tools o d plan _ _ _ (start_eq_of_fst h))
      · intro h
        cases h

end Run

namespace Check

open ModuleSummary

/-- What checking inputs has in common with generating from them. -/
structure Alike (tree : FileTree) (inputs : List String) : Prop where
  /-- Both fail with one error, or neither does. -/
  error_iff : ∀ (log other : List LogEvent) (e : GenerationError),
    ((summaries tree inputs).run.run log).1 = .error e ↔
      ((Plan.readModules tree inputs).run.run other).1 = .error e
  source : ∀ (log : List LogEvent) (e : GenerationError),
    ((summaries tree inputs).run.run log).1 = .error e → ∃ fault, e = .source fault
  /-- Summaries stand in the order in which an umbrella numbers the modules. -/
  listed : ∀ (log other : List LogEvent) (found : List ModuleSummary) (modules : List StubModule),
    ((summaries tree inputs).run.run log).1 = .ok found →
      ((Plan.readModules tree inputs).run.run other).1 = .ok modules →
        found.map (·.module) = modules.map (·.name) ∧
        found.map (·.signatures) = modules.map (·.signatures.length) ∧
        found.map (·.enumerator) ++ [moduleCount] =
          Listing.enumeratorsOn (Section.umbrellaEnum modules).rows
  /-- A generation whose options fit together finds the fault that checking finds, and no other. -/
  generated : ∀ (tools : Toolbox) (o : GenerateOptions) (d : Defaults) (s : Session)
    (log : List LogEvent) (fault : SourceError), s.tree = tree → o.inputs = inputs →
      ((start (generate tools o d) s).1 = .error (.source fault) ↔
        o.fault? = none ∧ ((summaries tree inputs).run.run log).1 = .error (.source fault))
  /-- A line is printed for every input, in order; a name without newlines leaves it one row. -/
  printed : ∀ s t : Session, s.tree = tree → start (run inputs) s = (.ok none, t) →
    ∃ found lines, ((summaries tree inputs).run.run s.log).1 = .ok found ∧
      found.map (·.module) = inputs.map Path.moduleName ∧
      lines = found.map (fun m =>
        m.module ++ ": " ++ toString m.signatures ++ " signatures (" ++ m.enumerator ++ ")") ∧
      lines.length = inputs.length ∧
      t.output = s.output ++ unlines lines ∧
      ((∀ path ∈ inputs, '\n' ∉ (Path.moduleName path).toList) →
        Listing.rowsOf (unlines lines) = lines)
  /-- Printing stops at the first line that is refused. -/
  stopped : ∀ (s t : Session) (reason : FileError), s.tree = tree →
    start (run inputs) s = (.ok (some reason), t) →
      ¬ s.console.TakesAll ∧ ∃ found, ((summaries tree inputs).run.run s.log).1 = .ok found ∧
        Prints s.output (found.map (·.text)) (some reason) t.output
  unprinted : ∀ (s t : Session) (e : GenerationError), s.tree = tree →
    start (run inputs) s = (.error e, t) →
      ((summaries tree inputs).run.run s.log).1 = .error e ∧ t.output = s.output

/-- The modules of files that can all be read are named after those files. -/
theorem names_of_readAt {paths : List String} {ms : List StubModule}
    (h : List.Forall₂ (StubModule.ReadAt tree) paths ms) :
    ms.map (·.name) = paths.map Path.moduleName := by
  induction h with
  | nil => rfl
  | cons hm _ ih => rw [List.map_cons, List.map_cons, hm.1, ih]

theorem newline_not_mem_digits (n : Nat) : '\n' ∉ Nat.toDigits 10 n := by
  intro h
  exact absurd (Nat.isDigit_of_mem_toDigits (by decide) (by decide) h) (by decide)

theorem text_oneLine (m : StubModule) (h : '\n' ∉ m.name.toList) :
    Listing.OneLine (ofModule m).text := by
  have henumerator : '\n' ∉ m.identifiers.enumerator.toList :=
    (enumerator_identText m.name).not_mem (by decide)
  rw [ModuleSummary.text]
  refine Listing.OneLine.append ?_ (by decide) (by decide)
  simp [ofModule, h, henumerator, newline_not_mem_digits]

/-- Checking and generating read the same of the same files. -/
theorem check_alike (tree : FileTree) (inputs : List String) : Alike tree inputs where
  error_iff log other e := by rw [summaries_eq_error_iff, Plan.readModules_eq_error_iff]
  source log e h := by
    obtain ⟨fault, -, rfl⟩ := summaries_eq_error_iff.mp h
    exact ⟨fault, rfl⟩
  listed log other found modules hfound hmodules := by
    have hms := Plan.readModules_eq_ok_iff.mp hmodules
    obtain ⟨ms, hread, rfl⟩ := summaries_eq_ok_iff.mp hfound
    obtain rfl : ms = modules := congrArg Prod.fst (hread.symm.trans hms)
    rw [Listing.enumeratorsOn_umbrellaEnum, List.map_map, List.map_map, List.map_map]
    exact ⟨rfl, rfl, rfl⟩
  generated tools o d s log fault htree hinputs := by
    subst htree hinputs
    rw [generate_source_iff, summaries_eq_error_iff]
    simp only [GenerationError.source.injEq, exists_eq_right']
  printed s t htree h := by
    subst htree
    obtain ⟨found, hfound, hprints⟩ := start_run_ok h
    obtain ⟨ms, hms, rfl⟩ := summaries_eq_ok_iff.mp hfound
    have hnames := names_of_readAt (StubModule.readAt_of_readFiles hms)
    refine ⟨ms.map .ofModule, _, hfound, ?_, rfl, ?_, hprints.eq_of_none, fun hinputs => ?_⟩
    · rw [List.map_map]
      exact hnames
    · rw [List.length_map, List.length_map, ← List.length_map (·.name), hnames, List.length_map]
    · refine Listing.rowsOf_unlines fun line hline => ?_
      rw [List.map_map] at hline
      obtain ⟨m, hm, rfl⟩ := List.mem_map.mp hline
      -- A row is broken by nothing but the name, which is that of some input.
      refine text_oneLine m ?_
      have hname : m.name ∈ inputs.map Path.moduleName := hnames ▸ List.mem_map_of_mem hm
      obtain ⟨path, hpath, he⟩ := List.mem_map.mp hname
      exact he ▸ hinputs path hpath
  stopped s t reason htree h := by
    subst htree
    exact ⟨fun hall => (start_run_quiet h).2.2 hall reason rfl, start_run_ok h⟩
  unprinted s t e htree h := by
    subst htree
    exact start_run_error h

end Check

end LinkStubs
