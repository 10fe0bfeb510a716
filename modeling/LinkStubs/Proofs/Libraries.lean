import LinkStubs.Proofs.LibrarySteps
import LinkStubs.Proofs.ModuleName
import LinkStubs.Proofs.Refinement
import Mathlib.Data.List.Flatten
import Mathlib.Data.List.Nodup

/-!
What a generation of import libraries leaves. Definitions go to a file that is named after their
module, so modules of one name write over each other: the definitions of the last of them are left,
and the paths of all of them are the same.
-/

namespace LinkStubs

open LinkStubs.FileTree

/-- A tool that leaves every file of definitions as it is when it is to make a library. -/
def Toolbox.SparesDefinitions (tools : Toolbox) (program : String) : Prop :=
  ∀ (earlier : List Invocation) (machine : TargetMachine) (definitions library : String)
    (tree : FileTree) (path : String) (content : ByteArray), ".lib".toList <:+ library.toList →
      ".def".toList <:+ path.toList → tree.readBytes path = .ok content →
        (tools earlier (.makeLibrary program machine definitions library) tree).2.readBytes path =
          .ok content

theorem Toolbox.SparesDefinitions.readText {tools : Toolbox} {program : String}
    (h : tools.SparesDefinitions program) {tree : FileTree} {library path text : String}
    (hlibrary : ".lib".toList <:+ library.toList) (hpath : ".def".toList <:+ path.toList)
    (hr : tree.readText path = .ok text) (earlier : List Invocation) (machine : TargetMachine)
    (definitions : String) :
    (tools earlier (.makeLibrary program machine definitions library) tree).2.readText path =
      .ok text := by
  obtain ⟨content, hc, hd⟩ := readText_eq_ok_iff.mp hr
  exact readText_eq_ok_iff.mpr ⟨content, h _ _ _ _ _ _ _ hlibrary hpath hc, hd⟩

/-- A tool spares definitions if it writes no files whose names end like theirs. -/
theorem Toolbox.sparesDefinitions_of_changed {tools : Toolbox} {program : String}
    (h : ∀ earlier machine definitions library tree, ".lib".toList <:+ library.toList →
      ∃ directories written,
        Changed directories written tree
            (tools earlier (.makeLibrary program machine definitions library) tree).2 ∧
          ∀ p ∈ written, ∃ c, p.toList.getLast? = some c ∧ Path.IsEnding [c] ∧ c ≠ 'f') :
    tools.SparesDefinitions program := by
  intro earlier machine definitions library tree path content hlibrary hpath hr
  obtain ⟨directories, written, hchanged, hwritten⟩ :=
    h earlier machine definitions library tree hlibrary
  have hf : path.toList.getLast? = some 'f' := by
    obtain ⟨front, hfront⟩ := hpath
    rw [← hfront, List.getLast?_append]
    rfl
  refine hchanged.readBytes (fun p hp => ?_) hr
  obtain ⟨c, hc, hending, hne⟩ := hwritten p hp
  exact Path.apart_of_getLast?_ne (Path.isEnding_singleton (by decide) (by decide)) hending hf hc
    hne.symm

def GenerateOptions.definitionsPath (o : GenerateOptions) (m : StubModule) : String :=
  Path.join o.intermediate (m.name ++ ".def")

def GenerateOptions.libraryPath (o : GenerateOptions) (m : StubModule) : String :=
  Path.join o.output (m.name ++ ".lib")

/-- What a generation of libraries comes to. -/
structure MakesLibraries (o : GenerateOptions) (before after : FileTree) (written : List String)
    (modules : List StubModule) : Prop where
  read : List.Forall₂ (StubModule.ReadAt before) o.inputs modules
  paths : written = modules.flatMap (fun m => [o.definitionsPath m, o.libraryPath m])
  /-- The last module of a name has its definitions there. -/
  held : ∀ front m back, modules = front ++ m :: back → m.name ∉ back.map (·.name) →
    after.readText (o.definitionsPath m) = .ok (ExportList.ofModule m).text
  distinct : written.Nodup ↔ (modules.map (·.name)).Nodup

/-- Where no path is returned twice, every module has its definitions. -/
theorem MakesLibraries.all_held {o : GenerateOptions} {before after : FileTree}
    {written : List String} {modules : List StubModule}
    (h : MakesLibraries o before after written modules) (hwritten : written.Nodup) :
    ∀ m ∈ modules, after.readText (o.definitionsPath m) = .ok (ExportList.ofModule m).text := by
  intro m hm
  obtain ⟨front, back, hsplit⟩ := List.append_of_mem hm
  have hnames := h.distinct.mp hwritten
  rw [hsplit, List.map_append, List.map_cons] at hnames
  exact h.held front m back hsplit (List.nodup_cons.mp (List.nodup_append.mp hnames).2.1).1

section Steps

variable {tools : Toolbox} {program : String} {machine : TargetMachine} {s t : Session}
  {step : LibraryStep} {steps : List LibraryStep} {path text : String}

/-- The tool leaves the definitions that it finds. -/
theorem LibraryStep.Leads.spared (h : step.Leads tools program machine s t)
    (htools : tools.SparesDefinitions program) (hlibrary : ".lib".toList <:+ step.job.library.toList)
    (hpath : ".def".toList <:+ path.toList) (hr : step.ready.readText path = .ok text) :
    t.tree.readText path = .ok text := by
  have hafter : (tools s.invocations (step.invocation program machine) step.ready).2.readText path =
      .ok text :=
    htools.readText hlibrary hpath hr _ _ _
  rwa [h.called] at hafter

/-- A step changes what is read at definitions only where its own are written. -/
theorem LibraryStep.Leads.readText (h : step.Leads tools program machine s t)
    (htools : tools.SparesDefinitions program) (hlibrary : ".lib".toList <:+ step.job.library.toList)
    (hpath : ".def".toList <:+ path.toList) (ha : Path.Apart path step.job.definitions.path)
    (hr : s.tree.readText path = .ok text) : t.tree.readText path = .ok text :=
  h.spared htools hlibrary hpath ((changed_writeText h.written).readText (by simpa using ha) hr)

theorem LibrarySteps.readText (h : LibrarySteps tools program machine s steps t)
    (htools : tools.SparesDefinitions program)
    (hlibraries : ∀ step ∈ steps, ".lib".toList <:+ step.job.library.toList)
    (hpath : ".def".toList <:+ path.toList)
    (ha : ∀ step ∈ steps, Path.Apart path step.job.definitions.path)
    (hr : s.tree.readText path = .ok text) : t.tree.readText path = .ok text := by
  induction h with
  | nil s => exact hr
  | cons first _ ih =>
    rw [List.forall_mem_cons] at ha hlibraries
    exact ih hlibraries.2 ha.2 (first.readText htools hlibraries.1 hpath ha.1 hr)

theorem LibrarySteps.held {front back : List LibraryStep}
    (h : LibrarySteps tools program machine s (front ++ step :: back) t)
    (htools : tools.SparesDefinitions program)
    (hlibraries : ∀ other ∈ step :: back, ".lib".toList <:+ other.job.library.toList)
    (hpath : ".def".toList <:+ step.job.definitions.path.toList)
    (ha : ∀ other ∈ back, Path.Apart step.job.definitions.path other.job.definitions.path) :
    t.tree.readText step.job.definitions.path = .ok step.job.definitions.contents := by
  -- Libraries made before this one do not matter, since its definitions are written after them.
  induction front generalizing s with
  | nil =>
    cases h with
    | cons first rest =>
      rw [List.forall_mem_cons] at hlibraries
      exact rest.readText htools hlibraries.2 hpath ha
        (first.spared htools hlibraries.1 hpath (readText_writeText first.written))
  | cons other front ih =>
    cases h with
    | cons _ rest => exact ih rest

end Steps

namespace Run

variable {tools : Toolbox} {program : String} {machine : TargetMachine} {s t : Session}
  {written : List String}

theorem makeLibraries_paths {jobs : List LibraryJob}
    (h : start (makeLibraries tools program machine jobs) s = (.ok written, t)) :
    written = jobs.flatMap (fun job => [job.definitions.path, job.library]) := by
  obtain ⟨steps, -, -, hend⟩ := makeLibraries_steps h
  cases hend
  rfl

theorem makeLibraries_held (htools : tools.SparesDefinitions program) {front back : List LibraryJob}
    {job : LibraryJob} (hlibraries : ∀ other ∈ job :: back, ".lib".toList <:+ other.library.toList)
    (hpath : ".def".toList <:+ job.definitions.path.toList)
    (ha : ∀ other ∈ back, Path.Apart job.definitions.path other.definitions.path)
    (h : start (makeLibraries tools program machine (front ++ job :: back)) s = (.ok written, t)) :
    t.tree.readText job.definitions.path = .ok job.definitions.contents := by
  obtain ⟨steps, hsteps, -, hend⟩ := makeLibraries_steps h
  have hjobs : steps.map (·.job) = front ++ job :: back := by
    cases hend
    assumption
  obtain ⟨before, rest, rfl, -, hrest⟩ := List.map_eq_append_iff.mp hjobs
  obtain ⟨step, behind, rfl, rfl, rfl⟩ := List.map_eq_cons_iff.mp hrest
  refine hsteps.held htools (fun other hother => ?_) hpath
    (fun other hother => ha other.job (List.mem_map_of_mem hother))
  exact hlibraries other.job (List.mem_map_of_mem hother)

end Run

namespace GenerateOptions

variable {m n : StubModule}

theorem isEnding_definitions {name : String} (h : '/' ∉ name.toList) :
    Path.IsEnding (name ++ ".def").toList := by
  rw [String.toList_append]
  exact .append h ⟨by decide, 'f', rfl, by decide⟩

theorem definitions_suffix (o : GenerateOptions) (m : StubModule) :
    ".def".toList <:+ (o.definitionsPath m).toList := by
  have hname : ".def".toList <:+ (m.name ++ ".def").toList := by
    rw [String.toList_append]
    exact List.suffix_append _ _
  exact hname.trans (Path.suffix_join _ _)

theorem library_suffix (o : GenerateOptions) (m : StubModule) :
    ".lib".toList <:+ (o.libraryPath m).toList := by
  have hname : ".lib".toList <:+ (m.name ++ ".lib").toList := by
    rw [String.toList_append]
    exact List.suffix_append _ _
  exact hname.trans (Path.suffix_join _ _)

theorem apart_definitions (o : GenerateOptions) (hm : '/' ∉ m.name.toList)
    (hn : '/' ∉ n.name.toList) (hne : m.name ≠ n.name) :
    Path.Apart (o.definitionsPath m) (o.definitionsPath n) := by
  have hpath : ∀ k : StubModule, '/' ∉ k.name.toList →
      (o.definitionsPath k).toList =
        (Path.front o.intermediate).toList ++ (k.name ++ ".def").toList := by
    intro k hk
    rw [definitionsPath, Path.join_of_single _ (isEnding_definitions hk).1, String.toList_append]
  apply Path.apart_of_ending_ne (isEnding_definitions hm) (isEnding_definitions hn) (hpath m hm)
    (hpath n hn)
  simpa [String.toList_inj] using hne

theorem join_extension_inj {directory a b extension : String} (ha : '/' ∉ (a ++ extension).toList)
    (hb : '/' ∉ (b ++ extension).toList)
    (h : Path.join directory (a ++ extension) = Path.join directory (b ++ extension)) : a = b := by
  rw [Path.join_of_single _ ha, Path.join_of_single _ hb, ← String.toList_inj] at h
  simpa [String.toList_inj] using h

theorem definitionsPath_ne_libraryPath (o : GenerateOptions) (m n : StubModule) :
    o.definitionsPath m ≠ o.libraryPath n := by
  intro h
  have hf : (o.definitionsPath m).toList.getLast? = some 'f' :=
    Path.getLast?_join _ (by simp [List.getLast?_append])
  have hb : (o.libraryPath n).toList.getLast? = some 'b' :=
    Path.getLast?_join _ (by simp [List.getLast?_append])
  rw [h, hb] at hf
  cases hf

/-- Paths are told apart by the names of modules and by nothing else. -/
theorem nodup_paths_iff (o : GenerateOptions) {ms : List StubModule}
    (hms : ∀ m ∈ ms, '/' ∉ m.name.toList) :
    (ms.flatMap (fun m => [o.definitionsPath m, o.libraryPath m])).Nodup ↔
      (ms.map (·.name)).Nodup := by
  rw [List.nodup_flatMap, List.Nodup, List.pairwise_map]
  constructor
  · rintro ⟨-, hpairs⟩
    refine hpairs.imp fun {m n} hdisjoint he => ?_
    have hpath : o.definitionsPath m = o.definitionsPath n := by
      rw [definitionsPath, definitionsPath, he]
    exact hdisjoint List.mem_cons_self (by simp [hpath])
  · intro hnames
    refine ⟨fun m _ => by simp [o.definitionsPath_ne_libraryPath m m], ?_⟩
    refine hnames.imp_of_mem fun {m n} hm hn hne => ?_
    have hdefinitions : o.definitionsPath m ≠ o.definitionsPath n := by
      intro he
      exact hne (join_extension_inj (by simp [hms m hm]) (by simp [hms n hn]) he)
    have hlibraries : o.libraryPath m ≠ o.libraryPath n := by
      intro he
      exact hne (join_extension_inj (by simp [hms m hm]) (by simp [hms n hn]) he)
    simp [Function.onFun, hdefinitions.symm, hlibraries.symm,
      o.definitionsPath_ne_libraryPath n m, (o.definitionsPath_ne_libraryPath m n).symm]

end GenerateOptions

theorem StubModule.slash_not_mem_of_readAt {tree : FileTree} {paths : List String}
    {ms : List StubModule} (h : List.Forall₂ (StubModule.ReadAt tree) paths ms) :
    ∀ m ∈ ms, '/' ∉ m.name.toList := by
  induction h with
  | nil => simp
  | cons hm _ ih =>
    rw [List.forall_mem_cons]
    exact ⟨hm.1 ▸ Path.slash_not_mem_moduleName _, ih⟩

namespace Run

variable {tools : Toolbox} {s t : Session} {o : GenerateOptions} {d : Defaults}
  {written : List String}

/-- A generation of libraries makes those of the modules of its inputs. -/
theorem generate_libraries (hkind : o.kind = .windowsLib ∨ o.kind = .windowsLibX64)
    (h : start (generate tools o d) s = (.ok written, t)) :
    ∃ modules, List.Forall₂ (StubModule.ReadAt s.tree) o.inputs modules ∧
      written = modules.flatMap (fun m => [o.definitionsPath m, o.libraryPath m]) ∧
      ∃ machine u, start (makeLibraries tools (o.libTool.getD d.libTool) machine
        (modules.map (Plan.libraryJob o))) u = (.ok written, t) := by
  obtain ⟨plan, log, hplan, hrun⟩ := generate_ok h
  obtain ⟨-, modules, hread, mid, hmade⟩ := Plan.make_ok hplan
  obtain ⟨machine, rfl⟩ : ∃ machine,
      plan = .libraries machine (modules.map (Plan.libraryJob o)) := by
    rcases hkind with hk | hk
    · rw [Plan.ofKind, hk] at hmade
      exact ⟨_, Plan.windowsLibraries_ok hmade⟩
    · rw [Plan.ofKind, hk] at hmade
      exact ⟨_, Plan.windowsLibraries_ok hmade⟩
  obtain ⟨_, u, -, hjobs⟩ := start_bind_eq_ok.mp hrun
  refine ⟨modules, hread, ?_, machine, u, hjobs⟩
  rw [makeLibraries_paths hjobs, List.flatMap_map]
  rfl

/-- With a tool that spares definitions, those of a module are lost just where a later module has
its name, and only then two of the paths are the same. -/
theorem generate_makesLibraries (hkind : o.kind = .windowsLib ∨ o.kind = .windowsLibX64)
    (htools : tools.SparesDefinitions (o.libTool.getD d.libTool))
    (h : start (generate tools o d) s = (.ok written, t)) :
    ∃ modules, MakesLibraries o s.tree t.tree written modules := by
  obtain ⟨modules, hread, hpaths, machine, u, hjobs⟩ := generate_libraries hkind h
  have hslash := StubModule.slash_not_mem_of_readAt hread
  refine ⟨modules, hread, hpaths, ?_, hpaths ▸ o.nodup_paths_iff hslash⟩
  rintro front m back rfl hlast
  rw [List.map_append, List.map_cons] at hjobs
  change t.tree.readText (Plan.libraryJob o m).definitions.path =
    .ok (Plan.libraryJob o m).definitions.contents
  have hlibraries : ∀ job ∈ Plan.libraryJob o m :: back.map (Plan.libraryJob o),
      ".lib".toList <:+ job.library.toList := by
    rw [← List.map_cons, List.forall_mem_map]
    exact fun n _ => o.library_suffix n
  refine makeLibraries_held htools hlibraries (o.definitions_suffix m) ?_ hjobs
  rw [List.forall_mem_map]
  intro n hn
  have hne : m.name ≠ n.name := fun he => hlast (he ▸ List.mem_map_of_mem hn)
  exact o.apart_definitions (hslash m (by simp)) (hslash n (by simp [hn])) hne

/-- The path that an argument names behind a slash, a word of three letters and a colon. -/
def pathIn (argument : String) : String :=
  String.ofList (argument.toList.drop 5)

/-- A tool that writes a library where it is told to. -/
def libraryMaker : Toolbox := fun _ invocation tree =>
  match invocation.arguments with
  | [_, _, _, out] =>
    (.finished (some 0) .empty, (tree.writeText (pathIn out) "!<arch>\n").toOption.getD tree)
  | _ => (.finished (some 1) .empty, tree)

theorem pathIn_out (library : String) : pathIn ("/out:" ++ library) = library := by
  simp [pathIn]

theorem sparesDefinitions_libraryMaker (program : String) :
    libraryMaker.SparesDefinitions program := by
  apply Toolbox.sparesDefinitions_of_changed
  intro earlier machine definitions library tree hlibrary
  simp only [libraryMaker, Invocation.makeLibrary, pathIn_out]
  cases hw : tree.writeText library "!<arch>\n" with
  | error e => exact ⟨[], [], .refl tree, by simp⟩
  | ok after =>
    refine ⟨[], [library], changed_writeText hw, ?_⟩
    rw [List.forall_mem_singleton]
    refine ⟨'b', ?_, Path.isEnding_singleton (by decide) (by decide), by decide⟩
    obtain ⟨front, hfront⟩ := hlibrary
    rw [← hfront, List.getLast?_append]
    rfl

/-- Two libraries are made, and the definitions of both are left. -/
theorem generate_makesLibraries_of_two :
    libraryMaker.SparesDefinitions "lib" ∧
      ∃ t : Session,
        start (generate libraryMaker
            { inputs := ["a/x.sigs", "y.dll.sigs"], output := "out", kind := .windowsLib,
              intermediateDir := some "gen/" } {})
          { tree := { entries :=
              [ (["a"], .directory),
                (["a", "x.sigs"], .file "int f2(int a)\n".toUTF8 false),
                (["y.dll.sigs"], .file "int g_3(void)\n".toUTF8 true) ] } } =
          (.ok ["gen/x.def", "out/x.lib", "gen/y.def", "out/y.lib"], t) ∧
        t.tree.readText "out/x.lib" = .ok "!<arch>\n" ∧
        ∃ modules, MakesLibraries
          { inputs := ["a/x.sigs", "y.dll.sigs"], output := "out", kind := .windowsLib,
            intermediateDir := some "gen/" }
          { entries :=
              [ (["a"], .directory),
                (["a", "x.sigs"], .file "int f2(int a)\n".toUTF8 false),
                (["y.dll.sigs"], .file "int g_3(void)\n".toUTF8 true) ] }
          t.tree ["gen/x.def", "out/x.lib", "gen/y.def", "out/y.lib"] modules := by
  have h : (start (generate libraryMaker
        { inputs := ["a/x.sigs", "y.dll.sigs"], output := "out", kind := .windowsLib,
          intermediateDir := some "gen/" } {})
      { tree := { entries :=
          [ (["a"], .directory),
            (["a", "x.sigs"], .file "int f2(int a)\n".toUTF8 false),
            (["y.dll.sigs"], .file "int g_3(void)\n".toUTF8 true) ] } }).1 =
      .ok ["gen/x.def", "out/x.lib", "gen/y.def", "out/y.lib"] := by
    decide +kernel
  have hrun := start_eq_of_fst h
  refine ⟨sparesDefinitions_libraryMaker "lib", _, hrun, by decide +kernel,
    generate_makesLibraries (Or.inl rfl) ?_ hrun⟩
  exact sparesDefinitions_libraryMaker "lib"

/-- Two inputs of one name in different directories give one file of definitions: those of the first
are lost, and both its paths are returned twice. -/
theorem definitions_lost_of_shared_name :
    Toolbox.SparesDefinitions (fun _ _ tree => (.finished (some 0) .empty, tree)) "true" ∧
      ∃ s t : Session,
        StubModule.ReadAt s.tree "a/x.sigs" ⟨"x", [⟨"int", "f2", ["int a"], none⟩]⟩ ∧
        StubModule.ReadAt s.tree "b/x.sigs" ⟨"x", [⟨"int", "g_3", ["void"], none⟩]⟩ ∧
        start (generate (fun _ _ tree => (.finished (some 0) .empty, tree))
            { inputs := ["a/x.sigs", "b/x.sigs"], output := "out", kind := .windowsLib,
              libTool := some "true" } {}) s =
          (.ok ["out/x.def", "out/x.lib", "out/x.def", "out/x.lib"], t) ∧
        t.tree.readText "out/x.def" = .ok "LIBRARY x\nEXPORTS\n  g_3\n" ∧
        (ExportList.ofModule ⟨"x", [⟨"int", "f2", ["int a"], none⟩]⟩).text =
          "LIBRARY x\nEXPORTS\n  f2\n" := by
  refine ⟨fun _ _ _ _ _ _ _ _ _ hr => hr,
    { tree := { entries :=
        [ (["a"], .directory),
          (["a", "x.sigs"], .file "int f2(int a)\n".toUTF8 false),
          (["b"], .directory),
          (["b", "x.sigs"], .file "int g_3(void)\n".toUTF8 false) ] } },
    _, ⟨by decide +kernel, "int f2(int a)\n", by decide +kernel, by rfl⟩,
    ⟨by decide +kernel, "int g_3(void)\n", by decide +kernel, by rfl⟩,
    start_eq_of_fst ?_, ?_, by rfl⟩
  · decide +kernel
  · decide +kernel

end Run

end LinkStubs
