import LinkStubs.Proofs.Checking
import LinkStubs.Proofs.Libraries

/-!
Where the artifacts for Windows go. Their names come from paths that may be rooted, dotted or end in
slashes, and yet each of them goes into one of the two directories of its generation, under a name
that leads out of neither.
-/

namespace LinkStubs

open LinkStubs.FileTree

/-- A path of a single name inside a directory. -/
structure Path.Inside (directory name path : String) : Prop where
  joined : path = Path.join directory name
  nonempty : name ≠ ""
  single : '/' ∉ name.toList
  ne_self : name ≠ "."
  ne_up : name ≠ ".."
  names : Path.names path.toList = Path.names directory.toList ++ [name.toList]
  /-- Wherever the path leads, the directory is right above. -/
  located : ∀ (t : FileTree) (place : Place), t.locate path = .ok place →
    ∃ above, place = above ++ [name] ∧ t.entryAt? above = some .directory ∧
      if directory = "" then above = t.home else t.locate directory = .ok above

namespace Path

open LinkStubs.Text

variable {directory name : String}

theorem names_append_slash (cs rest : List Char) :
    names (cs ++ '/' :: rest) = names cs ++ names rest := by
  rw [names, pieces_append_cons (by decide), List.filter_append, names, names]

theorem names_join (directory : String) (h : '/' ∉ name.toList) (hne : name.toList ≠ []) :
    names (join directory name).toList = names directory.toList ++ [name.toList] := by
  rw [← names_of_single h hne, join_of_single directory h, String.toList_append]
  rcases front_cases directory with ⟨rfl, he⟩ | ⟨above, hd, he⟩ | ⟨-, he⟩
  · rw [he]
    rfl
  · -- The slash at the end of the directory is followed by no name.
    rw [he, hd, List.append_assoc, List.singleton_append, names_append_slash, names_append_slash]
    exact congrArg (· ++ _) (List.append_nil _).symm
  · rw [he, String.toList_append, List.append_assoc]
    exact names_append_slash _ _

theorem join_starts (hd : directory ≠ "") (h : '/' ∉ name.toList) :
    ∃ rest, join directory name = directory ++ rest := by
  rw [join_of_single directory h]
  rcases front_cases directory with ⟨rfl, -⟩ | ⟨above, -, he⟩ | ⟨-, he⟩
  · exact absurd rfl hd
  · exact ⟨_, by rw [he]⟩
  · exact ⟨_, by rw [he, String.append_assoc]⟩

theorem isRooted_append {cs : List Char} (h : cs ≠ []) (rest : List Char) :
    isRooted (cs ++ rest) = isRooted cs := by
  obtain ⟨c, cs, rfl⟩ := List.exists_cons_of_ne_nil h
  rfl

theorem located_join (h : '/' ∉ name.toList) (hne : name.toList ≠ []) (hself : name ≠ ".")
    (hup : name ≠ "..") {t : FileTree} {place : Place}
    (hl : t.locate (join directory name) = .ok place) :
    ∃ above, place = above ++ [name] ∧ t.entryAt? above = some .directory ∧
      if directory = "" then above = t.home else t.locate directory = .ok above := by
  obtain ⟨hnul, -, hlong, hf⟩ := locate_eq_ok_iff.mp hl
  rw [names_join directory h hne, List.map_append, List.map_singleton, String.ofList_toList] at hf
  obtain ⟨above, habove, hentry, rfl⟩ := follow_concat hf hself hup
  refine ⟨above, rfl, hentry, ?_⟩
  -- Without a directory the name is looked up where relative paths start.
  split_ifs with hd
  · subst hd
    have hrooted : isRooted (join "" name).toList = false := by
      rw [join_of_single "" h, isRooted, decide_eq_false_iff_not]
      exact fun hhead => h (List.mem_of_head? hhead)
    rw [hrooted] at habove
    exact (Except.ok.inj habove).symm
  · obtain ⟨rest, he⟩ := join_starts hd h
    rw [he] at hnul hlong habove
    rw [String.toList_append, List.mem_append, not_or] at hnul
    rw [String.utf8ByteSize_append] at hlong
    rw [String.toList_append, isRooted_append (by simpa using hd)] at habove
    exact locate_eq_ok_iff.mpr ⟨hnul.1, hd, by omega, habove⟩

/-- What ends like the name of a file stays in the directory that it is joined to. -/
theorem inside_join (directory : String) (h : IsEnding name.toList) :
    Inside directory name (join directory name) := by
  obtain ⟨hslash, c, hc, hdot⟩ := h
  have hne : name.toList ≠ [] := by
    intro he
    simp [he] at hc
  have hself : name ≠ "." := by
    rintro rfl
    exact hdot (Option.some.inj hc).symm
  have hup : name ≠ ".." := by
    rintro rfl
    exact hdot (Option.some.inj hc).symm
  exact
    { joined := rfl
      nonempty := by simpa using hne
      single := hslash
      ne_self := hself
      ne_up := hup
      names := names_join directory hslash hne
      located := fun _ _ hl => located_join hslash hne hself hup hl }

theorem slash_not_mem_of_fileStem {path stem : List Char} (h : fileStem? path = some stem) :
    '/' ∉ stem := by
  obtain ⟨name, hname, rfl⟩ := Option.map_eq_some_iff.mp h
  obtain ⟨hmem, -, -⟩ := mem_names_of_fileName hname
  exact fun hm => slash_not_mem_of_mem_names hmem ((dropExtension_sublist name).mem hm)

end Path

namespace GenerateOptions

/-- A path of a file of definitions or of a library in a directory of the generation. -/
def Artifact (o : GenerateOptions) (path : String) : Prop :=
  ∃ directory name, (directory = o.output ∨ directory = o.intermediate) ∧
    Path.Inside directory name path ∧
      (".def".toList <:+ name.toList ∨ ".lib".toList <:+ name.toList)

/-- What becomes of definitions that are to go by a name no file can have. The inputs are read
before anything but the emptiness of that name is looked at. -/
def namelessError (o : GenerateOptions) (tree : FileTree) : GenerationError :=
  if o.moduleName.getD "" = "" then .options .noModuleName
  else
    match (StubModule.readFiles tree o.inputs).2 with
    | some fault => .source fault
    | none => .options (.noFileName (o.moduleName.getD ""))

variable {o : GenerateOptions} {directory bare : String}

theorem artifact_definitions (hd : directory = o.output ∨ directory = o.intermediate)
    (h : '/' ∉ bare.toList) : o.Artifact (Path.join directory (bare ++ ".def")) := by
  refine ⟨directory, _, hd, Path.inside_join directory (isEnding_definitions h), .inl ?_⟩
  rw [String.toList_append]
  exact List.suffix_append _ _

theorem artifact_library (hd : directory = o.output ∨ directory = o.intermediate)
    (h : '/' ∉ bare.toList) : o.Artifact (Path.join directory (bare ++ ".lib")) := by
  have hending : Path.IsEnding (bare ++ ".lib").toList := by
    rw [String.toList_append]
    exact .append h ⟨by decide, 'b', rfl, by decide⟩
  refine ⟨directory, _, hd, Path.inside_join directory hending, .inr ?_⟩
  rw [String.toList_append]
  exact List.suffix_append _ _

end GenerateOptions

namespace Plan

variable {tree : FileTree} {o : GenerateOptions} {d : Defaults} {log : List LogEvent}

theorem make_nameless (hkind : o.kind = .windowsDef)
    (h : Path.fileName? (o.moduleName.getD "").toList = none) :
    ((make tree o d).run.run log).1 = .error (o.namelessError tree) := by
  have hfits : o.fault? = if o.moduleName.getD "" = "" then some .noModuleName else none := by
    rw [GenerateOptions.fault?, hkind]
    cases o.moduleName <;> simp
  have hstem : Path.fileStem? (o.moduleName.getD "").toList = none := by
    rw [Path.fileStem?, h, Option.map_none]
  rw [GenerateOptions.namelessError]
  split_ifs at hfits ⊢
  · exact make_of_fault hfits
  · rcases make_cases tree o d log with
      ⟨fault, hfault, -⟩ | ⟨fault, -, hfirst, he⟩ | ⟨modules, mid, -, hread, hrun⟩
    · rw [hfits] at hfault
      cases hfault
    · rw [he, hfirst]
    · rw [hrun, hread, ofKind, hkind]
      simp only [windowsDef, hstem]
      rfl

end Plan

namespace Run

variable {tools : Toolbox} {s t : Session} {o : GenerateOptions} {d : Defaults}
  {written : List String}

theorem generate_artifacts
    (hkind : o.kind = .windowsDef ∨ o.kind = .windowsLib ∨ o.kind = .windowsLibX64)
    (h : start (generate tools o d) s = (.ok written, t)) : ∀ path ∈ written, o.Artifact path := by
  rcases hkind with hk | hk
  · obtain ⟨plan, log, hplan, hrun⟩ := generate_ok h
    obtain ⟨-, modules, -, mid, hmade⟩ := Plan.make_ok hplan
    rw [Plan.ofKind, hk] at hmade
    obtain ⟨stem, hstem, rfl⟩ := Plan.windowsDef_ok hmade
    obtain ⟨rfl, -, -⟩ := carryOut_files hrun
    rw [List.map_singleton, List.forall_mem_singleton]
    refine GenerateOptions.artifact_definitions (.inl rfl) ?_
    rw [String.toList_ofList]
    exact Path.slash_not_mem_of_fileStem hstem
  · obtain ⟨modules, hread, rfl, -⟩ := generate_libraries hk h
    intro path hpath
    obtain ⟨m, hm, hpath⟩ := List.mem_flatMap.mp hpath
    have hslash := StubModule.slash_not_mem_of_readAt hread m hm
    rcases List.mem_pair.mp hpath with rfl | rfl
    · exact GenerateOptions.artifact_definitions (.inr rfl) hslash
    · exact GenerateOptions.artifact_library (.inl rfl) hslash

/-- What a generation for Windows keeps to, from a session and under given defaults. -/
structure Contained (tools : Toolbox) (o : GenerateOptions) (d : Defaults) (s : Session) :
    Prop where
  artifacts : ∀ (written : List String) (t : Session),
    start (generate tools o d) s = (.ok written, t) → ∀ path ∈ written, o.Artifact path
  /-- Only definitions take their name from the options. -/
  nameless : o.kind = .windowsDef → Path.fileName? (o.moduleName.getD "").toList = none →
    (start (generate tools o d) s).1 = .error (o.namelessError s.tree)

/-- Whatever the paths and names that it is given, a generation for Windows leaves nothing outside
its two directories. -/
theorem generate_contained
    (hkind : o.kind = .windowsDef ∨ o.kind = .windowsLib ∨ o.kind = .windowsLibX64) :
    Contained tools o d s where
  artifacts _ _ h := generate_artifacts hkind h
  nameless hdef hname := by
    have hplan := @Plan.make_nameless s.tree o d s.log hdef hname
    rw [start_generate]
    cases hrun : (Plan.make s.tree o d).run.run s.log with
    | mk result log =>
      rw [hrun] at hplan
      dsimp only at hplan
      subst hplan
      rfl

/-- Files without a name before their dots, libraries above the working directory and definitions in
a rooted one. -/
def dottedOptions : GenerateOptions where
  inputs := ["a/...sigs", "./a/../a/.x.so"]
  output := "../w"
  kind := .windowsLib
  intermediateDir := some "/gen/"

def dottedTree : FileTree where
  entries :=
    [ (["a"], .directory),
      (["a", "...sigs"], .file "int f2(int a)\n".toUTF8 false),
      (["a", ".x.so"], .file "int g_3(void)\n".toUTF8 false) ]

theorem generate_contained_of_dotted :
    ∃ t : Session,
      start (generate (fun _ _ tree => (.finished (some 0) .empty, tree)) dottedOptions {})
          { tree := dottedTree } =
        (.ok ["/gen/.def", "../w/.lib", "/gen/.x.def", "../w/.x.lib"], t) ∧
      Contained (fun _ _ tree => (.finished (some 0) .empty, tree)) dottedOptions {}
        { tree := dottedTree } ∧
      (start (generate (fun _ _ tree => (.finished (some 0) .empty, tree))
          { dottedOptions with kind := .windowsDef, moduleName := some "a/.." } {})
        { tree := dottedTree }).1 = .error (.options (.noFileName "a/..")) := by
  have h : (start (generate (fun _ _ tree => (.finished (some 0) .empty, tree)) dottedOptions {})
      { tree := dottedTree }).1 =
        .ok ["/gen/.def", "../w/.lib", "/gen/.x.def", "../w/.x.lib"] := by
    decide +kernel
  refine ⟨_, start_eq_of_fst h, generate_contained (.inr (.inl rfl)), ?_⟩
  rw [(generate_contained (.inl rfl)).nameless rfl (by decide +kernel)]
  exact congrArg _ (by decide +kernel)

/-- A name that no file can have is not always refused: a faulty input is found before it, and
libraries are made without a look at it. -/
theorem no_fileName_unrefused :
    Path.fileName? "..".toList = none ∧
      (start (generate (fun _ _ tree => (.finished (some 0) .empty, tree))
          { inputs := ["a.sigs"], output := "out", kind := .windowsDef, moduleName := some ".." }
          {})
        { tree := { entries := [(["a.sigs"], .file "no signature\n".toUTF8 false)] } }).1 =
          .error (.source ⟨.badSignature, ⟨1, 1⟩, "Unparsable line: no signature",
            some "a.sigs"⟩) ∧
      (start (generate (fun _ _ tree => (.finished (some 0) .empty, tree))
          { inputs := ["a.sigs"], output := "out", kind := .windowsLib, moduleName := some ".." }
          {})
        { tree := { entries := [(["a.sigs"], .file "int f2(int a)\n".toUTF8 false)] } }).1 =
          .ok ["out/a.def", "out/a.lib"] := by
  refine ⟨by decide +kernel, ?_, ?_⟩
  · decide +kernel
  · decide +kernel

end Run

end LinkStubs
