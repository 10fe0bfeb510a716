import LinkStubs.Proofs.Planning
import LinkStubs.Proofs.Tree
import LinkStubs.Proofs.Untouched

/-!
A generation that succeeds leaves what the generator gives for the modules of its inputs, and
changes nothing else: the files are read before the first is written, and no more directories are
made than the paths to them need.
-/

namespace LinkStubs

open LinkStubs.FileTree

def upwards (path : String) : List String :=
  (Path.ancestors path.toList).map String.ofList

/-- What a generation of stubs or of definitions comes to. -/
structure Refines (o : GenerateOptions) (d : Defaults) (before after : FileTree)
    (written : List String) (modules : List StubModule) : Prop where
  read : List.Forall₂ (StubModule.ReadAt before) o.inputs modules
  posix : o.kind = .posixStubs → ∃ stub path settings pair,
    o.stubfileName = some stub ∧ o.pathFromSource = some path ∧
      settings.Effective before o d ∧
      StubPair.generate settings (.ofModules modules path stub) = .ok pair ∧
      written = [Path.join o.intermediate (stub ++ ".cc"), Path.join o.output (stub ++ ".h")] ∧
      after.readText (Path.join o.intermediate (stub ++ ".cc")) = .ok pair.implementation ∧
      after.readText (Path.join o.output (stub ++ ".h")) = .ok pair.header
  windowsDef : o.kind = .windowsDef → ∃ name stem,
    o.moduleName = some name ∧ Path.fileStem? name.toList = some stem ∧
      written = [Path.join o.output (String.ofList stem ++ ".def")] ∧
      after.readText (Path.join o.output (String.ofList stem ++ ".def")) =
        .ok (ExportList.ofSignatures name (modules.flatMap (·.signatures))).text
  /-- Elsewhere everything is as it was, but for directories on the way to the two that the options
  name. -/
  frame : Changed (upwards o.output ++ upwards o.intermediate) written before after

namespace Run

variable {s t : Session} {o : GenerateOptions} {d : Defaults} {written : List String}

theorem makeDirectory_changed {path : String} {result : Unit}
    (h : start (makeDirectory path) s = (.ok result, t)) :
    Changed (upwards path) [] s.tree t.tree := by
  rw [start_makeDirectory] at h
  have hchanged := changed_makeDirectories s.tree path
  cases hm : s.tree.makeDirectories path with
  | mk failure tree =>
    rw [hm] at h hchanged
    cases failure with
    | some reason => cases h
    | none =>
      cases h
      exact hchanged

theorem makeDirectories_changed {result : Unit}
    (h : start (makeDirectories o) s = (.ok result, t)) :
    Changed (upwards o.output ++ upwards o.intermediate) [] s.tree t.tree := by
  obtain ⟨_, u, hout, hinter⟩ := start_bind_eq_ok.mp h
  exact (makeDirectory_changed hout).trans (makeDirectory_changed hinter)

theorem writeFile_ok {f : PendingFile} {path : String}
    (h : start (writeFile f) s = (.ok path, t)) :
    path = f.path ∧ s.tree.writeText f.path f.contents = .ok t.tree := by
  rw [start_writeFile] at h
  split at h
  · cases h
  · rename_i tree hw
    cases h
    exact ⟨rfl, hw⟩

/-- Files that are apart all hold what was written last to each of them. -/
theorem writeFiles_ok {pending : List PendingFile}
    (h : start (writeFiles pending) s = (.ok written, t)) :
    written = pending.map (·.path) ∧ Changed [] (pending.map (·.path)) s.tree t.tree ∧
      (pending.Pairwise (fun f g => Path.Apart f.path g.path) →
        ∀ f ∈ pending, t.tree.readText f.path = .ok f.contents) := by
  induction pending generalizing s written with
  | nil =>
    cases h
    exact ⟨rfl, .refl _, by simp⟩
  | cons f fs ih =>
    obtain ⟨path, u, hf, h⟩ := start_bind_eq_ok.mp h
    obtain ⟨paths, v, hfs, h⟩ := start_bind_eq_ok.mp h
    cases h
    obtain ⟨rfl, hw⟩ := writeFile_ok hf
    obtain ⟨rfl, hchanged, hread⟩ := ih hfs
    refine ⟨rfl, (changed_writeText hw).trans hchanged, ?_⟩
    rw [List.pairwise_cons, List.forall_mem_cons]
    rintro ⟨hapart, hpairs⟩
    -- The first file is read back behind the others, which are all apart from it.
    refine ⟨hchanged.readText ?_ (readText_writeText hw), hread hpairs⟩
    simpa using hapart

/-- A plan of files is carried out by its directories and by its files. -/
theorem carryOut_files {tools : Toolbox} {pending : List PendingFile}
    (h : start (carryOut tools o d (.files pending)) s = (.ok written, t)) :
    written = pending.map (·.path) ∧
      Changed (upwards o.output ++ upwards o.intermediate) (pending.map (·.path)) s.tree t.tree ∧
      (pending.Pairwise (fun f g => Path.Apart f.path g.path) →
        ∀ f ∈ pending, t.tree.readText f.path = .ok f.contents) := by
  obtain ⟨_, u, hdirectories, hfiles⟩ := start_bind_eq_ok.mp h
  obtain ⟨hwritten, hchanged, hread⟩ := writeFiles_ok hfiles
  refine ⟨hwritten, ?_, hread⟩
  simpa using (makeDirectories_changed hdirectories).trans hchanged

theorem generate_ok {tools : Toolbox} (h : start (generate tools o d) s = (.ok written, t)) :
    ∃ plan log, (Plan.make s.tree o d).run.run s.log = (.ok plan, log) ∧
      start (carryOut tools o d plan) { s with log } = (.ok written, t) := by
  rw [start_generate] at h
  split at h
  · rename_i plan log hplan
    exact ⟨plan, log, hplan, h⟩
  · cases h

/-- The implementation and the header are two files wherever they go. -/
theorem apart_posixFiles (o : GenerateOptions) (pair : StubPair) :
    (Plan.posixFiles o pair).Pairwise (fun f g => Path.Apart f.path g.path) := by
  have hapart : ∀ stub : String, Path.Apart (Path.join o.intermediate (stub ++ ".cc"))
      (Path.join o.output (stub ++ ".h")) := by
    intro stub
    have hc : (stub ++ ".cc").toList.getLast? = some 'c' := by simp [List.getLast?_append]
    have hh : (stub ++ ".h").toList.getLast? = some 'h' := by simp [List.getLast?_append]
    exact Path.apart_of_getLast?_ne (Path.isEnding_singleton (by decide) (by decide))
      (Path.isEnding_singleton (by decide) (by decide)) (Path.getLast?_join _ hc)
      (Path.getLast?_join _ hh) (by decide)
  exact List.pairwise_pair.mpr (hapart _)

theorem options_of_posix (hfault : o.fault? = none) (hk : o.kind = .posixStubs) :
    ∃ stub path, o.stubfileName = some stub ∧ o.pathFromSource = some path := by
  rw [GenerateOptions.fault?, hk] at hfault
  cases hs : o.stubfileName with
  | none => simp [hs] at hfault
  | some stub =>
    cases hp : o.pathFromSource with
    | none =>
      simp only [hs, hp, Option.isNone_none, if_true] at hfault
      split_ifs at hfault
    | some path => exact ⟨stub, path, rfl, rfl⟩

theorem options_of_windowsDef (hfault : o.fault? = none) (hk : o.kind = .windowsDef) :
    ∃ name, o.moduleName = some name := by
  rw [GenerateOptions.fault?, hk] at hfault
  cases hm : o.moduleName with
  | none => simp [hm] at hfault
  | some name => exact ⟨name, rfl⟩

/-- What was generated is what the generator gives for the files as they were, whichever of them it
is written over. -/
theorem generate_refines {tools : Toolbox} (hkind : o.kind = .posixStubs ∨ o.kind = .windowsDef)
    (h : start (generate tools o d) s = (.ok written, t)) :
    ∃ modules, Refines o d s.tree t.tree written modules := by
  obtain ⟨plan, log, hplan, hrun⟩ := generate_ok h
  obtain ⟨hfault, modules, hread, mid, hmade⟩ := Plan.make_ok hplan
  refine ⟨modules, ?_⟩
  -- Both kinds write files; the two of a pair have to be apart for either to be read back.
  rcases hkind with hk | hk
  · rw [Plan.ofKind, hk] at hmade
    obtain ⟨settings, pair, heffective, hpair, rfl⟩ := Plan.posix_ok hmade
    obtain ⟨rfl, hchanged, hfiles⟩ := carryOut_files hrun
    obtain ⟨stub, path, hstub, hpath⟩ := options_of_posix hfault hk
    have hheld := hfiles (apart_posixFiles o pair)
    simp only [Plan.unitOf, Plan.posixFiles, hstub, hpath, Option.getD_some, List.map_cons,
      List.map_nil, List.forall_mem_cons] at hpair hchanged hheld
    exact
      { read := hread
        posix := fun _ => ⟨stub, path, settings, pair, hstub, hpath, heffective, hpair,
          by simp [Plan.posixFiles, hstub], hheld.1, hheld.2.1⟩
        windowsDef := fun hk' => by simp [hk] at hk'
        frame := by simpa [Plan.posixFiles, hstub] using hchanged }
  · rw [Plan.ofKind, hk] at hmade
    obtain ⟨stem, hstem, rfl⟩ := Plan.windowsDef_ok hmade
    obtain ⟨rfl, hchanged, hfiles⟩ := carryOut_files hrun
    obtain ⟨name, hname⟩ := options_of_windowsDef hfault hk
    have hheld := hfiles (List.pairwise_singleton _ _) _ (List.mem_singleton_self _)
    rw [hname, Option.getD_some] at hstem hheld
    exact
      { read := hread
        posix := fun hk' => by simp [hk] at hk'
        windowsDef := fun _ => ⟨name, stem, hname, hstem, rfl, hheld⟩
        frame := hchanged }

/-- An input that the header is written over is read before that. -/
theorem generate_refines_over_input :
    ∃ t : Session,
      start (generate (fun _ _ tree => (.refused .notFound, tree))
          { inputs := ["a.sigs", "out/stubs.h"], output := "out", kind := .posixStubs,
            intermediateDir := some "out/gen/cc", stubfileName := some "stubs",
            pathFromSource := some "media", extraStubHeader := some "x.inc", exportMark := some "" }
          { exportMark := "X" })
        { tree := { entries :=
            [ (["a.sigs"], .file "int f2(int a)\n".toUTF8 false),
              (["out"], .directory),
              (["out", "stubs.h"], .file "void g_3(void)\n".toUTF8 true),
              (["x.inc"], .file "// x\n".toUTF8 false) ] } } =
        (.ok ["out/gen/cc/stubs.cc", "out/stubs.h"], t) ∧
      ∃ modules, Refines
        { inputs := ["a.sigs", "out/stubs.h"], output := "out", kind := .posixStubs,
          intermediateDir := some "out/gen/cc", stubfileName := some "stubs",
          pathFromSource := some "media", extraStubHeader := some "x.inc", exportMark := some "" }
        { exportMark := "X" }
        { entries :=
            [ (["a.sigs"], .file "int f2(int a)\n".toUTF8 false),
              (["out"], .directory),
              (["out", "stubs.h"], .file "void g_3(void)\n".toUTF8 true),
              (["x.inc"], .file "// x\n".toUTF8 false) ] }
        t.tree ["out/gen/cc/stubs.cc", "out/stubs.h"] modules := by
  have h : (start (generate (fun _ _ tree => (.refused .notFound, tree))
        { inputs := ["a.sigs", "out/stubs.h"], output := "out", kind := .posixStubs,
          intermediateDir := some "out/gen/cc", stubfileName := some "stubs",
          pathFromSource := some "media", extraStubHeader := some "x.inc", exportMark := some "" }
        { exportMark := "X" })
      { tree := { entries :=
          [ (["a.sigs"], .file "int f2(int a)\n".toUTF8 false),
            (["out"], .directory),
            (["out", "stubs.h"], .file "void g_3(void)\n".toUTF8 true),
            (["x.inc"], .file "// x\n".toUTF8 false) ] } }).1 =
      .ok ["out/gen/cc/stubs.cc", "out/stubs.h"] := by
    decide +kernel
  exact ⟨_, start_eq_of_fst h, generate_refines (Or.inl rfl) (start_eq_of_fst h)⟩

end Run

end LinkStubs
