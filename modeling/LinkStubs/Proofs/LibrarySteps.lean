import LinkStubs.Proofs.Steps
import LinkStubs.Proofs.Tree

/-!
Making import libraries one after the other. Whatever the tool does, a run is a prefix of the steps
for all libraries, and it goes on for as long as the tool succeeds.
-/

namespace LinkStubs

open LinkStubs.FileTree

namespace ToolRun

def Succeeded (run : ToolRun) : Prop :=
  ∃ output, run = .finished (some 0) output

def forwarded : ToolRun → String
  | .refused _ => ""
  | .finished _ output => ImportTool.filterOutput (Text.decodeLossy output)

def exitCode : ToolRun → Int
  | .refused _ => 1
  | .finished status _ => status.getD 1

def faultOf (program : String) (job : LibraryJob) : ToolRun → ToolFault
  | .refused reason => .notStarted program reason
  | .finished status _ => .failed job.library job.definitions.path status

theorem code_faultOf (program : String) (job : LibraryJob) (run : ToolRun) :
    (run.faultOf program job).code = run.exitCode := by
  cases run with
  | refused reason => rfl
  | finished status output => rfl

theorem not_succeeded_refused (reason : FileError) : ¬ (refused reason).Succeeded := by
  rintro ⟨output, h⟩
  cases h

theorem succeeded_finished_iff {status : Option Int} {output : ByteArray} :
    (finished status output).Succeeded ↔ status = some 0 := by
  constructor
  · rintro ⟨_, h⟩
    cases h
    rfl
  · rintro rfl
    exact ⟨output, rfl⟩

end ToolRun

/-- The making of one library: its definitions are written, the tool is called for it, and what the
tool prints is passed on. -/
structure LibraryStep where
  job : LibraryJob
  /-- The files when the tool is called. -/
  ready : FileTree
  run : ToolRun
  /-- Why standard output has not taken all that is passed on. -/
  refusal : Option FileError

def LibraryStep.invocation (program : String) (machine : TargetMachine) (step : LibraryStep) :
    Invocation :=
  .makeLibrary program machine step.job.definitions.path step.job.library

/-- A step that makes its library: what the tool prints is taken, and the tool succeeds. -/
def LibraryStep.Succeeded (step : LibraryStep) : Prop :=
  step.refusal = none ∧ step.run.Succeeded

/-- A step that takes one session to another. The definitions are all that it writes; what else
becomes of the files is up to the tool. -/
structure LibraryStep.Leads (tools : Toolbox) (program : String) (machine : TargetMachine)
    (step : LibraryStep) (s t : Session) : Prop where
  written : s.tree.writeText step.job.definitions.path step.job.definitions.contents =
    .ok step.ready
  called : tools s.invocations (step.invocation program machine) step.ready = (step.run, t.tree)
  counted : t.invocations = s.invocations ++ [step.invocation program machine]
  refused : (s.console.pass s.output step.run.forwarded).1 = step.refusal
  printed : t.output = s.output ++ (s.console.pass s.output step.run.forwarded).2
  console : t.console = s.console

/-- Steps that lead from one session to another, each from where the one before it has led. -/
inductive LibrarySteps (tools : Toolbox) (program : String) (machine : TargetMachine) :
    Session → List LibraryStep → Session → Prop where
  | nil (s : Session) : LibrarySteps tools program machine s [] s
  | cons {s t u : Session} {step : LibraryStep} {steps : List LibraryStep}
      (first : step.Leads tools program machine s u)
      (rest : LibrarySteps tools program machine u steps t) :
      LibrarySteps tools program machine s (step :: steps) t

/-- What a run ends with behind its steps, which leave the files `tree`. -/
inductive LibraryEnd (program : String) (jobs : List LibraryJob) (tree : FileTree) :
    List LibraryStep → Except GenerationError (List String) → Prop where
  /-- The tool has succeeded for every library. -/
  | made {steps : List LibraryStep} (complete : steps.map (·.job) = jobs)
      (succeeded : ∀ step ∈ steps, step.Succeeded) :
      LibraryEnd program jobs tree steps
        (.ok (jobs.flatMap (fun job => [job.definitions.path, job.library])))
  /-- The tool has failed for the library of the last step, and for no other. -/
  | failed {done : List LibraryStep} {last : LibraryStep}
      (succeeded : ∀ step ∈ done, step.Succeeded) (taken : last.refusal = none)
      (fails : ¬ last.run.Succeeded)
      (code : (last.run.faultOf program last.job).code = last.run.exitCode) :
      LibraryEnd program jobs tree (done ++ [last])
        (.error (.tool (last.run.faultOf program last.job)))
  /-- What the tool has printed about the last library is refused, whatever the tool came to. -/
  | unforwarded {done : List LibraryStep} {last : LibraryStep} {reason : FileError}
      (succeeded : ∀ step ∈ done, step.Succeeded) (refused : last.refusal = some reason) :
      LibraryEnd program jobs tree (done ++ [last]) (.error (.files (.output program reason)))
  /-- The definitions of the next library cannot be written. -/
  | unwritten {steps : List LibraryStep} {next : LibraryJob} {later : List LibraryJob}
      {reason : FileError} (succeeded : ∀ step ∈ steps, step.Succeeded)
      (order : jobs = steps.map (·.job) ++ next :: later)
      (refused : tree.writeText next.definitions.path next.definitions.contents = .error reason) :
      LibraryEnd program jobs tree steps (.error (.files (.file next.definitions.path reason)))

/-- A run that takes steps from one session to another, and the result that it comes to. -/
structure Stepwise (tools : Toolbox) (program : String) (machine : TargetMachine)
    (jobs : List LibraryJob) (s : Session) (steps : List LibraryStep)
    (result : Except GenerationError (List String)) (t : Session) : Prop where
  run : LibrarySteps tools program machine s steps t
  order : steps.map (·.job) <+: jobs
  calls : t.invocations = s.invocations ++ steps.map (·.invocation program machine)
  /-- The definitions of a library are there in full when the tool is called for it. -/
  definitions : ∀ step ∈ steps,
    step.ready.readText step.job.definitions.path = .ok step.job.definitions.contents
  /-- A standard output that refuses nothing gets what is passed on of every call. -/
  output : (∀ step ∈ steps, step.refusal = none) →
    t.output = s.output ++ String.join (steps.map (·.run.forwarded))
  taken : s.console.TakesAll → ∀ step ∈ steps, step.refusal = none
  ending : LibraryEnd program jobs t.tree steps result

namespace LibrarySteps

variable {tools : Toolbox} {program : String} {machine : TargetMachine} {s t : Session}
  {steps : List LibraryStep}

theorem calls (h : LibrarySteps tools program machine s steps t) :
    t.invocations = s.invocations ++ steps.map (·.invocation program machine) := by
  induction h with
  | nil s => simp
  | cons first _ ih =>
    rw [ih, first.counted, List.map_cons, List.append_assoc, List.singleton_append]

theorem definitions (h : LibrarySteps tools program machine s steps t) :
    ∀ step ∈ steps,
      step.ready.readText step.job.definitions.path = .ok step.job.definitions.contents := by
  induction h with
  | nil s => simp
  | cons first _ ih => exact List.forall_mem_cons.mpr ⟨readText_writeText first.written, ih⟩

theorem output (h : LibrarySteps tools program machine s steps t)
    (htaken : ∀ step ∈ steps, step.refusal = none) :
    t.output = s.output ++ String.join (steps.map (·.run.forwarded)) := by
  induction h with
  | nil s => simp
  | cons first _ ih =>
    obtain ⟨hfirst, hrest⟩ := List.forall_mem_cons.mp htaken
    rw [ih hrest, first.printed, Console.pass_snd_of_fst (first.refused.trans hfirst),
      List.map_cons, String.join_cons, String.append_assoc]

theorem taken (h : LibrarySteps tools program machine s steps t) (hs : s.console.TakesAll) :
    ∀ step ∈ steps, step.refusal = none := by
  induction h with
  | nil s => simp
  | cons first _ ih =>
    refine List.forall_mem_cons.mpr ⟨?_, ih (by rwa [first.console])⟩
    rw [← first.refused, hs.pass]

end LibrarySteps

namespace LibraryEnd

variable {program : String} {jobs : List LibraryJob} {tree : FileTree} {steps : List LibraryStep}
  {step : LibraryStep} {result : Except GenerationError (List String)}

/-- A library that is made before all others changes no ending but by its paths. -/
theorem cons (h : LibraryEnd program jobs tree steps result) (hstep : step.Succeeded) :
    LibraryEnd program (step.job :: jobs) tree (step :: steps)
      (result.map ([step.job.definitions.path, step.job.library] ++ ·)) := by
  cases h with
  | made complete succeeded =>
    exact .made (by rw [List.map_cons, complete])
      (List.forall_mem_cons.mpr ⟨hstep, succeeded⟩)
  | failed succeeded taken fails code =>
    exact .failed (List.forall_mem_cons.mpr ⟨hstep, succeeded⟩) taken fails code
  | unforwarded succeeded refused =>
    exact .unforwarded (List.forall_mem_cons.mpr ⟨hstep, succeeded⟩) refused
  | unwritten succeeded order refused =>
    exact .unwritten (List.forall_mem_cons.mpr ⟨hstep, succeeded⟩)
      (by rw [order, List.map_cons, List.cons_append]) refused

end LibraryEnd

namespace Run

variable {tools : Toolbox} {program : String} {machine : TargetMachine} {s t : Session}
  {job : LibraryJob} {jobs : List LibraryJob}
  {result : Except GenerationError (List String)}

/-- Once the definitions are written, the tool is called. What it prints is passed on before anyone
looks at its status, so a refusal hides that. -/
theorem makeLibrary_called {ready after : FileTree} {run : ToolRun}
    (hw : s.tree.writeText job.definitions.path job.definitions.contents = .ok ready)
    (hcall : tools s.invocations
      (.makeLibrary program machine job.definitions.path job.library) ready = (run, after))
    (h : start (makeLibrary tools program machine job) s = (result, t)) :
    LibraryStep.Leads tools program machine
        ⟨job, ready, run, (s.console.pass s.output run.forwarded).1⟩ s t ∧
      match (s.console.pass s.output run.forwarded).1 with
      | some reason => result = .error (.files (.output program reason))
      | none =>
        run.Succeeded ∧ result = .ok [job.definitions.path, job.library] ∨
          ¬ run.Succeeded ∧ result = .error (.tool (run.faultOf program job)) := by
  rw [makeLibrary, start_bind, start_writeFile, hw] at h
  dsimp only at h
  rw [start_bind, start_invoke] at h
  dsimp only at h
  rw [hcall] at h
  cases run with
  | refused reason =>
    cases h
    -- A tool that has not started has nothing to pass on, which no console refuses.
    exact ⟨⟨hw, hcall, rfl, rfl, String.append_empty.symm, rfl⟩,
      .inr ⟨ToolRun.not_succeeded_refused reason, rfl⟩⟩
  | finished status output =>
    rw [ToolRun.succeeded_finished_iff, ToolRun.forwarded]
    dsimp only at h
    rw [start_bind, start_forward] at h
    dsimp only at h
    cases hpass : s.console.pass s.output (ImportTool.filterOutput (Text.decodeLossy output)) with
    | mk refusal taken =>
      rw [hpass] at h
      have hrefused := congrArg Prod.fst hpass
      have hprinted := congrArg (s.output ++ ·.2) hpass
      cases refusal with
      | some reason =>
        cases h
        exact ⟨⟨hw, hcall, rfl, hrefused, hprinted.symm, rfl⟩, rfl⟩
      | none =>
        dsimp only at h
        split at h
        · rename_i hzero
          rw [start_bind, start_log] at h
          cases h
          exact ⟨⟨hw, hcall, rfl, hrefused, hprinted.symm, rfl⟩, .inl ⟨hzero, rfl⟩⟩
        · rename_i hzero
          cases h
          exact ⟨⟨hw, hcall, rfl, hrefused, hprinted.symm, rfl⟩, .inr ⟨hzero, rfl⟩⟩

/-- Either the definitions of a library cannot be written and nothing is done, or the tool is called
once, whatever comes of that and of what it prints. -/
theorem makeLibrary_cases (h : start (makeLibrary tools program machine job) s = (result, t)) :
    (∃ reason, s.tree.writeText job.definitions.path job.definitions.contents = .error reason ∧
      result = .error (.files (.file job.definitions.path reason)) ∧ t = s) ∨
    ∃ step : LibraryStep, step.job = job ∧ step.Leads tools program machine s t ∧
      (step.Succeeded ∧ result = .ok [job.definitions.path, job.library] ∨
        step.refusal = none ∧ ¬ step.run.Succeeded ∧
          result = .error (.tool (step.run.faultOf program job)) ∨
        ∃ reason, step.refusal = some reason ∧
          result = .error (.files (.output program reason))) := by
  cases hw : s.tree.writeText job.definitions.path job.definitions.contents with
  | error reason =>
    rw [makeLibrary, start_bind, start_writeFile, hw] at h
    cases h
    exact .inl ⟨reason, rfl, rfl, rfl⟩
  | ok ready =>
    obtain ⟨hleads, hresult⟩ := makeLibrary_called hw rfl h
    refine .inr ⟨_, rfl, hleads, ?_⟩
    split at hresult
    · rename_i reason hrefused
      exact .inr (.inr ⟨reason, hrefused, hresult⟩)
    · rename_i htaken
      rcases hresult with ⟨hsucceeded, hresult⟩ | ⟨hfails, hresult⟩
      · exact .inl ⟨⟨htaken, hsucceeded⟩, hresult⟩
      · exact .inr (.inl ⟨htaken, hfails, hresult⟩)

/-- A library that is made is made before the others. -/
theorem makeLibraries_cons (job : LibraryJob) (jobs : List LibraryJob) (s : Session) :
    start (makeLibraries tools program machine (job :: jobs)) s =
      match start (makeLibrary tools program machine job) s with
      | (.ok paths, u) =>
        ((start (makeLibraries tools program machine jobs) u).1.map (paths ++ ·),
          (start (makeLibraries tools program machine jobs) u).2)
      | (.error e, u) => (.error e, u) := by
  rw [makeLibraries, start_bind]
  rcases start (makeLibrary tools program machine job) s with ⟨e | paths, u⟩
  · rfl
  · dsimp only
    rw [start_bind]
    rcases start (makeLibraries tools program machine jobs) u with ⟨e | others, v⟩ <;> rfl

/-- What is done for libraries is done in steps, each but the last with success. -/
theorem makeLibraries_steps
    (h : start (makeLibraries tools program machine jobs) s = (result, t)) :
    ∃ steps, LibrarySteps tools program machine s steps t ∧ steps.map (·.job) <+: jobs ∧
      LibraryEnd program jobs t.tree steps result := by
  -- The induction is on the libraries that are left, from whatever session the first has led to.
  induction jobs generalizing s result with
  | nil =>
    cases h
    exact ⟨[], .nil _, List.nil_prefix, .made rfl (by simp)⟩
  | cons job jobs ih =>
    rw [makeLibraries_cons] at h
    cases hjob : start (makeLibrary tools program machine job) s with
    | mk made u =>
      rw [hjob] at h
      rcases makeLibrary_cases hjob with ⟨reason, hw, rfl, rfl⟩ |
        ⟨step, rfl, hleads, ⟨hsucceeded, rfl⟩ | ⟨htaken, hfails, rfl⟩ | ⟨reason, hrefused, rfl⟩⟩
      · cases h
        exact ⟨[], .nil _, List.nil_prefix, .unwritten (by simp) rfl hw⟩
      · cases h
        obtain ⟨steps, hsteps, horder, hend⟩ := ih (s := u) rfl
        exact ⟨step :: steps, .cons hleads hsteps, (List.prefix_cons_inj _).mpr horder,
          hend.cons hsucceeded⟩
      · cases h
        exact ⟨[step], .cons hleads (.nil _), (List.prefix_cons_inj _).mpr List.nil_prefix,
          @LibraryEnd.failed _ _ _ [] step (by simp) htaken hfails (ToolRun.code_faultOf _ _ _)⟩
      · cases h
        exact ⟨[step], .cons hleads (.nil _), (List.prefix_cons_inj _).mpr List.nil_prefix,
          @LibraryEnd.unforwarded _ _ _ [] step _ (by simp) hrefused⟩

theorem makeLibraries_stepwise
    (h : start (makeLibraries tools program machine jobs) s = (result, t)) :
    ∃ steps, Stepwise tools program machine jobs s steps result t := by
  obtain ⟨steps, hsteps, horder, hend⟩ := makeLibraries_steps h
  exact ⟨steps, hsteps, horder, hsteps.calls, hsteps.definitions, hsteps.output, hsteps.taken, hend⟩

/-- Directories are made without output and without calls. -/
theorem makeDirectory_quiet {path : String} {made : Except GenerationError Unit}
    (h : start (makeDirectory path) s = (made, t)) :
    t.invocations = s.invocations ∧ t.output = s.output ∧ t.console = s.console := by
  rw [start_makeDirectory] at h
  split at h
  · cases h
    exact ⟨rfl, rfl, rfl⟩
  · cases h
    exact ⟨rfl, rfl, rfl⟩

theorem makeDirectories_quiet {o : GenerateOptions}
    (h : start (makeDirectories o) s = (.ok (), t)) :
    t.invocations = s.invocations ∧ t.output = s.output ∧ t.console = s.console := by
  obtain ⟨_, u, houtput, hintermediate⟩ := start_bind_eq_ok.mp h
  obtain ⟨hcalls, hprinted, hconsole⟩ := makeDirectory_quiet houtput
  obtain ⟨hcalls', hprinted', hconsole'⟩ := makeDirectory_quiet hintermediate
  exact ⟨hcalls'.trans hcalls, hprinted'.trans hprinted, hconsole'.trans hconsole⟩

/-- Once the directories are there, a run makes the libraries of the first modules, up to one that
it fails for, and does nothing for the modules behind that. -/
theorem carryOut_stepwise {o : GenerateOptions} {d : Defaults} {modules : List StubModule}
    {u : Session} (hmade : start (makeDirectories o) s = (.ok (), u))
    (hrun : start (carryOut tools o d
      (.libraries machine (modules.map (Plan.libraryJob o)))) s = (result, t)) :
    u.invocations = s.invocations ∧ u.output = s.output ∧ u.console = s.console ∧
      ∃ steps, Stepwise tools (o.libTool.getD d.libTool) machine
        (modules.map (Plan.libraryJob o)) u steps result t := by
  obtain ⟨hcalls, houtput, hconsole⟩ := makeDirectories_quiet hmade
  rw [carryOut, start_bind, hmade] at hrun
  exact ⟨hcalls, houtput, hconsole, makeLibraries_stepwise hrun⟩

/-- A tool that fails for the second of three modules is not called for the third, and what it has
printed about the second is passed on. -/
theorem carryOut_stepwise_of_three :
    ∃ u t : Session,
      start (makeDirectories { inputs := [], output := "out", kind := .windowsLib })
          { tree := {} } = (.ok (), u) ∧
        start (carryOut
            (fun earlier _ tree =>
              if earlier.length = 0 then
                (.finished (some 0) "   Creating library x\nnote\n".toUTF8, tree)
              else (.finished (some 3) "no memory".toUTF8, tree))
            { inputs := [], output := "out", kind := .windowsLib } {}
            (.libraries .x86
              ([⟨"x", [⟨"int", "f2", ["int a"], none⟩]⟩, ⟨"y", []⟩, ⟨"z", []⟩].map
                (Plan.libraryJob { inputs := [], output := "out", kind := .windowsLib }))))
          { tree := {} } = (.error (.tool (.failed "out/y.lib" "out/y.def" (some 3))), t) ∧
        t.output = "note\nno memory\n" ∧
        ∃ steps, Stepwise
          (fun earlier _ tree =>
            if earlier.length = 0 then
              (.finished (some 0) "   Creating library x\nnote\n".toUTF8, tree)
            else (.finished (some 3) "no memory".toUTF8, tree))
          "lib" .x86
          ([⟨"x", [⟨"int", "f2", ["int a"], none⟩]⟩, ⟨"y", []⟩, ⟨"z", []⟩].map
            (Plan.libraryJob { inputs := [], output := "out", kind := .windowsLib }))
          u steps (.error (.tool (.failed "out/y.lib" "out/y.def" (some 3)))) t := by
  have hmade : (start (makeDirectories { inputs := [], output := "out", kind := .windowsLib })
      { tree := {} }).1 = .ok () := by
    decide +kernel
  have hrun : (start (carryOut
        (fun earlier _ tree =>
          if earlier.length = 0 then
            (.finished (some 0) "   Creating library x\nnote\n".toUTF8, tree)
          else (.finished (some 3) "no memory".toUTF8, tree))
        { inputs := [], output := "out", kind := .windowsLib } {}
        (.libraries .x86
          ([⟨"x", [⟨"int", "f2", ["int a"], none⟩]⟩, ⟨"y", []⟩, ⟨"z", []⟩].map
            (Plan.libraryJob { inputs := [], output := "out", kind := .windowsLib }))))
      { tree := {} }).1 = .error (.tool (.failed "out/y.lib" "out/y.def" (some 3))) := by
    decide +kernel
  exact ⟨_, _, start_eq_of_fst hmade, start_eq_of_fst hrun, by decide +kernel,
    (carryOut_stepwise (start_eq_of_fst hmade) (start_eq_of_fst hrun)).2.2.2⟩

end Run

end LinkStubs
