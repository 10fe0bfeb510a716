import LinkStubs.Proofs.Source
import LinkStubs.Proofs.Steps
import Mathlib.Data.List.Forall2

/-!
What is planned: a plan that can be made consists of what the inputs declare, under the settings
that options and defaults come to.
-/

namespace LinkStubs

variable {tree : FileTree} {o : GenerateOptions} {d : Defaults} {log after : List LogEvent}

/-- A module holds what the file at a path declares, and is named after that file. -/
def StubModule.ReadAt (tree : FileTree) (path : String) (m : StubModule) : Prop :=
  m.name = Path.moduleName path ∧ ∃ source, tree.readText path = .ok source ∧ m.ReadFrom source

/-- Options count before defaults, even where they are empty, and the extra header is that of the
file which the options name. -/
structure Settings.Effective (tree : FileTree) (o : GenerateOptions) (d : Defaults)
    (settings : Settings) : Prop where
  exportMark : settings.exportMark = o.exportMark.getD d.exportMark
  loggingFunction : settings.loggingFunction = o.loggingFunction.getD d.loggingFunction
  loggingInclude : settings.loggingInclude = o.loggingInclude.getD d.loggingInclude
  extraHeader : match o.extraStubHeader with
    | none => settings.extraHeader = none
    | some path => ∃ text, tree.readText path = .ok text ∧ settings.extraHeader = some text

theorem StubModule.readAt_of_readFile {path : String} {m : StubModule}
    (h : StubModule.readFile tree path = .ok m) : m.ReadAt tree path := by
  rw [StubModule.readFile, Signature.readFile] at h
  cases hr : tree.readText path with
  | error e =>
    rw [hr] at h
    cases h
  | ok source =>
    cases hs : Signature.readSource source with
    | error e =>
      simp only [hr, hs] at h
      cases h
    | ok signatures =>
      simp only [hr, hs] at h
      cases h
      exact ⟨rfl, source, hr, hs⟩

theorem StubModule.readAt_of_readFiles {paths : List String} {ms : List StubModule}
    (h : StubModule.readFiles tree paths = (ms, none)) :
    List.Forall₂ (StubModule.ReadAt tree) paths ms := by
  induction paths generalizing ms with
  | nil =>
    cases h
    exact .nil
  | cons path paths ih =>
    rw [StubModule.readFiles] at h
    cases hm : StubModule.readFile tree path with
    | error e =>
      rw [hm] at h
      cases h
    | ok m =>
      cases hms : StubModule.readFiles tree paths with
      | mk others fault =>
        rw [hm, hms] at h
        cases h
        exact .cons (StubModule.readAt_of_readFile hm) (ih hms)

namespace Plan

open LinkStubs.Run

theorem effective_of_fullSettings {settings : Settings}
    (h : fullSettings tree o d = .ok settings) : settings.Effective tree o d := by
  rw [fullSettings] at h
  cases hx : o.extraStubHeader with
  | none =>
    rw [hx] at h
    cases h
    exact ⟨rfl, rfl, rfl, by rw [hx]; rfl⟩
  | some path =>
    cases ht : tree.readText path with
    | error e =>
      simp only [hx, ht] at h
      cases h
    | ok text =>
      simp only [hx, ht] at h
      cases h
      exact ⟨rfl, rfl, rfl, by rw [hx]; exact ⟨text, ht, rfl⟩⟩

/-- What is logged on the way makes no difference to the modules of inputs. -/
theorem readModules_result (tree : FileTree) (inputs : List String) (log : List LogEvent) :
    ((readModules tree inputs).run.run log).1 =
      match StubModule.readFiles tree inputs with
      | (modules, none) => .ok modules
      | (_, some e) => .error (.source e) := by
  rw [readModules]
  cases StubModule.readFiles tree inputs with
  | mk modules fault => cases fault <;> rfl

theorem readModules_eq_ok_iff {inputs : List String} {modules : List StubModule} :
    ((readModules tree inputs).run.run log).1 = .ok modules ↔
      StubModule.readFiles tree inputs = (modules, none) := by
  rw [readModules_result]
  rcases StubModule.readFiles tree inputs with ⟨ms, _ | fault⟩
  · simp
  · simp

theorem readModules_eq_error_iff {inputs : List String} {e : GenerationError} :
    ((readModules tree inputs).run.run log).1 = .error e ↔
      ∃ fault, (StubModule.readFiles tree inputs).2 = some fault ∧ e = .source fault := by
  rw [readModules_result]
  rcases StubModule.readFiles tree inputs with ⟨ms, _ | fault⟩
  · simp
  · simp [eq_comm]

theorem posix_ok {modules : List StubModule} {plan : Plan}
    (h : (posix tree o d modules).run.run log = (.ok plan, after)) :
    ∃ settings pair, settings.Effective tree o d ∧
      StubPair.generate settings (unitOf o modules) = .ok pair ∧
        plan = .files (posixFiles o pair) := by
  rw [posix] at h
  cases hs : fullSettings tree o d with
  | error fault =>
    rw [hs] at h
    cases h
  | ok settings =>
    cases hg : StubPair.generate settings (unitOf o modules) with
    | error e =>
      simp only [hs, hg] at h
      cases h
    | ok pair =>
      simp only [hs, hg] at h
      cases h
      exact ⟨settings, pair, effective_of_fullSettings hs, hg, rfl⟩

theorem windowsDef_ok {modules : List StubModule} {plan : Plan}
    (h : (windowsDef o modules).run.run log = (.ok plan, after)) :
    ∃ stem, Path.fileStem? (o.moduleName.getD "").toList = some stem ∧
      plan = .files [⟨Path.join o.output (String.ofList stem ++ ".def"),
        (ExportList.ofSignatures (o.moduleName.getD "")
          (modules.flatMap (·.signatures))).text⟩] := by
  simp only [windowsDef] at h
  cases hf : Path.fileStem? (o.moduleName.getD "").toList with
  | none =>
    rw [hf] at h
    cases h
  | some stem =>
    rw [hf] at h
    cases h
    exact ⟨stem, rfl, rfl⟩

theorem windowsLibraries_ok {machine : TargetMachine} {modules : List StubModule} {plan : Plan}
    (h : (windowsLibraries machine o modules).run.run log = (.ok plan, after)) :
    plan = .libraries machine (modules.map (libraryJob o)) := by
  cases h
  rfl

/-- A result that is none of the errors of reading inputs or of carrying out a plan. -/
def BehindInputs {α : Type} : Except GenerationError α → Prop
  | .error (.emit _) | .error (.options _) | .error (.files (.extraHeader ..)) | .ok _ => True
  | _ => False

theorem fullSettings_fault {fault : FileFault} (h : fullSettings tree o d = .error fault) :
    ∃ path reason, fault = .extraHeader path reason := by
  rw [fullSettings] at h
  split at h
  · cases h
  · split at h
    · cases h
    · cases h
      exact ⟨_, _, rfl⟩

theorem posix_behindInputs (modules : List StubModule) :
    BehindInputs ((posix tree o d modules).run.run log).1 := by
  rw [posix]
  cases hs : fullSettings tree o d with
  | error fault =>
    obtain ⟨path, reason, rfl⟩ := fullSettings_fault hs
    trivial
  | ok settings =>
    dsimp only
    cases StubPair.generate settings (unitOf o modules) with
    | error e => trivial
    | ok pair => trivial

theorem windowsDef_behindInputs (modules : List StubModule) :
    BehindInputs ((windowsDef o modules).run.run log).1 := by
  simp only [windowsDef]
  cases Path.fileStem? (o.moduleName.getD "").toList with
  | none => trivial
  | some stem => trivial

theorem windowsLibraries_behindInputs (machine : TargetMachine) (modules : List StubModule) :
    BehindInputs ((windowsLibraries machine o modules).run.run log).1 :=
  trivial

def ofKind (tree : FileTree) (o : GenerateOptions) (d : Defaults) (modules : List StubModule) :
    Logged Plan :=
  match o.kind with
  | .posixStubs => posix tree o d modules
  | .windowsDef => windowsDef o modules
  | .windowsLib => windowsLibraries .x86 o modules
  | .windowsLibX64 => windowsLibraries .x64 o modules

/-- What comes behind the reading of inputs finds no fault in them. -/
theorem ofKind_behindInputs (tree : FileTree) (o : GenerateOptions) (d : Defaults)
    (log : List LogEvent) (modules : List StubModule) :
    BehindInputs ((ofKind tree o d modules).run.run log).1 := by
  rw [ofKind]
  cases o.kind with
  | posixStubs => exact posix_behindInputs modules
  | windowsDef => exact windowsDef_behindInputs modules
  | windowsLib => exact windowsLibraries_behindInputs .x86 modules
  | windowsLibX64 => exact windowsLibraries_behindInputs .x64 modules

theorem make_of_fault {fault : OptionFault} (hfault : o.fault? = some fault) :
    ((make tree o d).run.run log).1 = .error (.options fault) := by
  rw [make, hfault]
  rfl

/-- Where the options fit together, the inputs are read and the kind decides about the rest. -/
theorem make_run (hfault : o.fault? = none) :
    (make tree o d).run.run log =
      match (readModules tree o.inputs).run.run
        (log ++ [.starting o.kind o.inputs.length o.output]) with
      | (.ok modules, mid) => (ofKind tree o d modules).run.run mid
      | (.error e, after) => (.error e, after) := by
  rw [make, hfault]
  dsimp only
  rw [run_bind]
  change (readModules tree o.inputs >>= ofKind tree o d : Logged Plan).run.run (log ++ [_]) = _
  rw [run_bind]
  cases (readModules tree o.inputs).run.run
      (log ++ [.starting o.kind o.inputs.length o.output]) with
  | mk result mid => cases result <;> rfl

/-- Options that do not fit together are refused, else the first faulty input is, and else the kind
decides about the modules of the inputs. -/
theorem make_cases (tree : FileTree) (o : GenerateOptions) (d : Defaults) (log : List LogEvent) :
    (∃ fault, o.fault? = some fault ∧
        ((make tree o d).run.run log).1 = .error (.options fault)) ∨
      (∃ fault, o.fault? = none ∧ (StubModule.readFiles tree o.inputs).2 = some fault ∧
        ((make tree o d).run.run log).1 = .error (.source fault)) ∨
      ∃ modules mid, o.fault? = none ∧ StubModule.readFiles tree o.inputs = (modules, none) ∧
        (make tree o d).run.run log = (ofKind tree o d modules).run.run mid := by
  cases hfault : o.fault? with
  | some fault =>
    exact .inl ⟨fault, rfl, make_of_fault hfault⟩
  | none =>
    refine .inr ?_
    rw [make_run hfault]
    cases hread : (readModules tree o.inputs).run.run
        (log ++ [.starting o.kind o.inputs.length o.output]) with
    | mk result mid =>
      cases result with
      | error e =>
        obtain ⟨fault, hfirst, rfl⟩ := readModules_eq_error_iff.mp (congrArg Prod.fst hread)
        exact .inl ⟨fault, rfl, hfirst, rfl⟩
      | ok modules =>
        exact .inr ⟨modules, mid, rfl, readModules_eq_ok_iff.mp (congrArg Prod.fst hread), rfl⟩

/-- A plan is made by the kind that is asked for, from the modules of the inputs. -/
theorem make_ok {plan : Plan} (h : (make tree o d).run.run log = (.ok plan, after)) :
    o.fault? = none ∧ ∃ modules, List.Forall₂ (StubModule.ReadAt tree) o.inputs modules ∧
      ∃ mid, (ofKind tree o d modules).run.run mid = (.ok plan, after) := by
  rcases make_cases tree o d log with ⟨_, -, he⟩ | ⟨_, -, -, he⟩ | ⟨ms, mid, hfault, hread, hrun⟩
  · rw [h] at he
    cases he
  · rw [h] at he
    cases he
  · exact ⟨hfault, ms, StubModule.readAt_of_readFiles hread, mid, hrun.symm.trans h⟩

/-- The plan fails for the fault of an input just where its options fit together. -/
theorem make_source_iff {fault : SourceError} :
    ((make tree o d).run.run log).1 = .error (.source fault) ↔
      o.fault? = none ∧ (StubModule.readFiles tree o.inputs).2 = some fault := by
  rcases make_cases tree o d log with
    ⟨_, hfault, he⟩ | ⟨first, hfault, hfirst, he⟩ | ⟨ms, mid, -, hread, hrun⟩
  · simp [he, hfault]
  · simp [he, hfault, hfirst]
  · have hkind := ofKind_behindInputs tree o d mid ms
    rw [hrun, hread]
    constructor
    · intro h
      rw [h] at hkind
      cases hkind
    · rintro ⟨-, h⟩
      cases h

end Plan

end LinkStubs
