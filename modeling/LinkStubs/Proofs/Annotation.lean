import LinkStubs.Proofs.Size

/-!
What the annotation of stubs and the data of signatures can reach. A header is told by the names of
the modules alone, and an annotation shows on the row that opens a stub and nowhere else.
-/

namespace LinkStubs

open LinkStubs.Emit LinkStubs.Text

namespace Listing

/-- Two listings, read side by side, with the rows of both wherever they differ. -/
inductive Differ : List String → List String → List (String × String) → Prop
  | nil : Differ [] [] []
  | same {rows others : List String} {ds : List (String × String)} (row : String) :
      Differ rows others ds → Differ (row :: rows) (row :: others) ds
  | apart {rows others : List String} {ds : List (String × String)} {row other : String} :
      row ≠ other → Differ rows others ds →
        Differ (row :: rows) (other :: others) ((row, other) :: ds)

namespace Differ

variable {rows others rows' others' : List String} {ds ds' : List (String × String)}

theorem refl (rows : List String) : Differ rows rows [] := by
  induction rows with
  | nil => exact .nil
  | cons row rows ih => exact .same row ih

theorem append (h : Differ rows others ds) (h' : Differ rows' others' ds') :
    Differ (rows ++ rows') (others ++ others') (ds ++ ds') := by
  induction h with
  | nil => exact h'
  | same row _ ih => exact .same row ih
  | apart hne _ ih => exact .apart hne ih

theorem append_left (h : Differ rows others ds) (front : List String) :
    Differ (front ++ rows) (front ++ others) ds :=
  (refl front).append h

theorem append_right (h : Differ rows others ds) (back : List String) :
    Differ (rows ++ back) (others ++ back) ds := by
  have hback := h.append (refl back)
  rwa [List.append_nil] at hback

theorem flatMap {α : Type} {f g : α → List String} {d : α → List (String × String)} {xs : List α}
    (h : ∀ x ∈ xs, Differ (f x) (g x) (d x)) :
    Differ (xs.flatMap f) (xs.flatMap g) (xs.flatMap d) := by
  induction xs with
  | nil => exact .nil
  | cons x xs ih =>
    rw [List.forall_mem_cons] at h
    rw [List.flatMap_cons, List.flatMap_cons, List.flatMap_cons]
    exact h.1.append (ih h.2)

theorem length_eq (h : Differ rows others ds) : rows.length = others.length := by
  induction h with
  | nil => rfl
  | same row _ ih => rw [List.length_cons, List.length_cons, ih]
  | apart _ _ ih => rw [List.length_cons, List.length_cons, ih]

end Differ

theorem rowsOf_unlines_singleton {l : String} (h : OneLine l) : rowsOf (unlines [l]) = [l] :=
  rowsOf_unlines (List.forall_mem_singleton.mpr h)

end Listing

open LinkStubs.Listing

/-- Two units that a header is the same for: their modules bear the same names, and stand in one
namespace under one guard. -/
structure StubUnit.SameOutline (u v : StubUnit) : Prop where
  names : v.modules.map (·.name) = u.modules.map (·.name)
  nameSpace : v.nameSpace = u.nameSpace
  guard : v.guard = u.guard

namespace Signature

variable {s : Signature}

theorem IsRead.unmarked (h : s.IsRead) : s.exportMark = none := by
  obtain ⟨line, position, hline⟩ := h
  obtain ⟨-, u, -, -, rfl⟩ := division_of_readLine hline
  rfl

/-- An annotation is added to a signature and takes nothing from it. -/
theorem IsRead.withExport_empty (h : s.IsRead) (mark : String) :
    (s.withExport mark).withExport "" = s := by
  obtain ⟨returnType, name, params, exportMark⟩ := s
  obtain rfl : exportMark = none := h.unmarked
  rfl

end Signature

namespace Emit

def plainHead (s : Signature) : String :=
  opening (s.returnType ++ " " ++ s.name ++ "(" ++ s.joinedParams ++ ")")

def markedHead (mark : String) (s : Signature) : String :=
  opening (s.returnType ++ " " ++ mark ++ " " ++ s.name ++ "(" ++ s.joinedParams ++ ")")

variable {s : Signature} {mark : String}

theorem stubHead_withExport_empty (s : Signature) : stubHead (s.withExport "") = plainHead s := by
  simp [stubHead, plainHead, opening, Signature.withExport, Signature.joinedParams,
    String.append_assoc]

theorem stubHead_withExport (s : Signature) (hmark : mark ≠ "") :
    stubHead (s.withExport mark) = markedHead mark s := by
  simp [stubHead, markedHead, opening, Signature.withExport, Signature.joinedParams,
    String.append_assoc, hmark]

/-- Of the lines of a stub, one is told by the annotation. -/
theorem stub_withExport (s : Signature) (mark : String) :
    stub (s.withExport mark) =
      [weakDeclaration s, indirectCallMark] ++ [stubHead (s.withExport mark)] ++
        ((StubBody.ofSignature s).lines s ++ [closing]) := by
  rw [← StubBody.lines_withExport s mark]
  rfl

theorem oneLine_plainHead (h : s.Unbroken) : OneLine (plainHead s) := by
  refine OneLine.append ?_ (OneLine.of_literal (by decide)) (by decide)
  simp only [String.toList_append, List.mem_append, not_or]
  exact ⟨⟨⟨⟨⟨h.result, by decide⟩, h.name_line⟩, by decide⟩, h.joinedParams⟩, by decide⟩

theorem oneLine_markedHead (h : s.Unbroken) (hmark : '\n' ∉ mark.toList) :
    OneLine (markedHead mark s) := by
  refine OneLine.append ?_ (OneLine.of_literal (by decide)) (by decide)
  simp only [String.toList_append, List.mem_append, not_or]
  exact ⟨⟨⟨⟨⟨⟨⟨h.result, by decide⟩, hmark⟩, by decide⟩, h.name_line⟩, by decide⟩,
    h.joinedParams⟩, by decide⟩

theorem markedHead_ne_plainHead (s : Signature) (mark : String) :
    markedHead mark s ≠ plainHead s := by
  intro he
  have hlength := congrArg String.length he
  have hspace : " ".length = 1 := rfl
  simp only [markedHead, plainHead, opening, String.length_append, hspace] at hlength
  omega

theorem differ_stub (h : s.Unbroken) (hne : mark ≠ "") (hmark : '\n' ∉ mark.toList) :
    Differ (rowsOf (unlines (stub (s.withExport mark))))
      (rowsOf (unlines (stub (s.withExport "")))) [(markedHead mark s, plainHead s)] := by
  rw [stub_withExport, stub_withExport, stubHead_withExport s hne, stubHead_withExport_empty]
  simp only [rowsOf_unlines_append]
  rw [rowsOf_unlines_singleton (oneLine_markedHead h hmark),
    rowsOf_unlines_singleton (oneLine_plainHead h)]
  exact ((Differ.apart (markedHead_ne_plainHead s mark) .nil).append_left _).append_right _

theorem differ_moduleStubs {m : StubModule} (hm : ∀ s ∈ m.signatures, s.Unbroken)
    (hne : mark ≠ "") (hmark : '\n' ∉ mark.toList) :
    Differ (rowsOf (unlines (moduleStubs m mark))) (rowsOf (unlines (moduleStubs m "")))
      (m.signatures.map (fun s => (markedHead mark s, plainHead s))) := by
  have hstubs : Differ
      (rowsOf (unlines ((m.signatures.map (·.withExport mark)).flatMap stub)))
      (rowsOf (unlines ((m.signatures.map (·.withExport "")).flatMap stub)))
      (m.signatures.map (fun s => (markedHead mark s, plainHead s))) := by
    rw [List.flatMap_map, List.flatMap_map, rowsOf_unlines_flatMap, rowsOf_unlines_flatMap,
      List.map_eq_flatMap]
    exact Differ.flatMap fun s hs => differ_stub (hm s hs) hne hmark
  simp only [moduleStubs, rowsOf_unlines_append, pointerDeclarations_withExport]
  exact (hstubs.append_left _).append_right _

end Emit

namespace StubPair

variable {u : StubUnit} {settings : Settings} {mark : String}

theorem differ_implementation (hu : ∀ s ∈ u.signatures, s.Unbroken) (hne : mark ≠ "")
    (hmark : '\n' ∉ mark.toList) :
    Differ (rowsOf (ofUnit u (settings.withExportMark mark)).implementation)
      (rowsOf (ofUnit u (settings.withExportMark "")).implementation)
      (u.signatures.map (fun s => (markedHead mark s, plainHead s))) := by
  have hmodules : Differ
      ((u.modules.map (Section.moduleStubs · mark)).flatMap Section.rows)
      ((u.modules.map (Section.moduleStubs · "")).flatMap Section.rows)
      (u.signatures.map (fun s => (markedHead mark s, plainHead s))) := by
    rw [List.flatMap_map, List.flatMap_map, StubUnit.signatures, List.map_flatMap]
    exact Differ.flatMap fun m hm => differ_moduleStubs
      (fun s hs => hu s (List.mem_flatMap.mpr ⟨m, hm, hs⟩)) hne hmark
  rw [rowsOf_implementation, rowsOf_implementation]
  simp only [StubUnit.implementationSections, List.flatMap_append]
  exact (((hmodules.append_left _).append_right _).append_right _).append_right _

def nameless (m : StubModule) : StubModule :=
  ⟨m.name, []⟩

/-- A header is told by the names of the modules, whatever is in them. -/
theorem header_names (u : StubUnit) (settings : Settings) :
    (ofUnit u settings).header =
      (ofUnit { u with modules := u.modules.map nameless } settings).header := by
  have hprototypes : (u.modules.map Section.prototypes).flatMap Section.lines =
      ((u.modules.map nameless).map Section.prototypes).flatMap Section.lines := by
    rw [List.flatMap_map, List.flatMap_map, List.flatMap_map]
    rfl
  have henumerators : enumerators u.modules = enumerators (u.modules.map nameless) := by
    cases u.modules with
    | nil => rfl
    | cons m ms =>
      rw [List.map_cons, enumerators, enumerators, List.map_map]
      rfl
  have henum : (Section.umbrellaEnum u.modules).lines =
      (Section.umbrellaEnum (u.modules.map nameless)).lines := by
    rw [Section.lines, Section.lines, umbrellaEnum, umbrellaEnum, henumerators]
  simp only [ofUnit, text_render, StubUnit.headerSections, List.flatMap_append,
    List.flatMap_cons, hprototypes, henum]

theorem header_outline {v : StubUnit} {other : Settings} (h : u.SameOutline v)
    (hfile : other.loggingInclude = settings.loggingInclude) :
    (ofUnit v other).header = (ofUnit u settings).header := by
  have hmodules : v.modules.map nameless = u.modules.map nameless := by
    have hnames := congrArg (List.map (fun name => (⟨name, []⟩ : StubModule))) h.names
    rw [List.map_map, List.map_map] at hnames
    exact hnames
  rw [header_names v, header_names u, hmodules]
  simp only [ofUnit, StubUnit.headerSections, h.nameSpace, h.guard, hfile]

/-- A rendering has as many rows as newlines. -/
theorem length_rowsOf_render (sections : List Section) :
    (rowsOf (render sections).text).length = (render sections).lineCount := by
  rw [lineCount_render, text_render, rowsOf, List.length_map, length_lines (ended_unlines _),
    newlines]

/-- How two pairs for the same signatures go together of which one is annotated with `mark`. -/
structure Annotated (mark : String) (signatures : List Signature) (marked plain : StubPair) :
    Prop where
  header : marked.header = plain.header
  statistics : marked.statistics = plain.statistics
  rows : (rowsOf marked.implementation).length = (rowsOf plain.implementation).length
  /-- One row for each signature, module by module, and no other. -/
  implementation : Differ (rowsOf marked.implementation) (rowsOf plain.implementation)
    (signatures.map (fun s => (markedHead mark s, plainHead s)))
  /-- Signatures are as they were before they were annotated. -/
  kept : ∀ s ∈ signatures, (s.withExport mark).withExport "" = s

theorem annotated_ofUnit (hread : ∀ s ∈ u.signatures, s.IsRead) (hne : mark ≠ "")
    (hmark : '\n' ∉ mark.toList) :
    Annotated mark u.signatures (ofUnit u (settings.withExportMark mark))
      (ofUnit u (settings.withExportMark "")) := by
  have hdiffer : Differ (rowsOf (ofUnit u (settings.withExportMark mark)).implementation)
      (rowsOf (ofUnit u (settings.withExportMark "")).implementation)
      (u.signatures.map (fun s => (markedHead mark s, plainHead s))) :=
    differ_implementation (fun s hs => (hread s hs).unbroken) hne hmark
  refine
    { header := rfl
      statistics := ?_
      rows := hdiffer.length_eq
      implementation := hdiffer
      kept := fun s hs => (hread s hs).withExport_empty mark }
  have hlines := hdiffer.length_eq
  simp only [ofUnit, length_rowsOf_render] at hlines
  simp only [ofUnit, hlines]
  rfl

/-- What the data of symbols and their annotation make a difference to in the pair of a unit. -/
structure InPlace (u : StubUnit) (settings : Settings) (pair : StubPair) : Prop where
  /-- Neither signatures nor the settings that are about implementations get into a header. -/
  header : ∀ (v : StubUnit) (other : Settings) (second : StubPair), u.SameOutline v →
    other.loggingInclude = settings.loggingInclude → generate other v = .ok second →
      second.header = pair.header
  /-- An annotation is seen where stubs are opened. -/
  marked : (∀ s ∈ u.signatures, s.IsRead) → ∀ mark : String, mark ≠ "" →
    '\n' ∉ mark.toList →
      ∃ marked plain, generate (settings.withExportMark mark) u = .ok marked ∧
        generate (settings.withExportMark "") u = .ok plain ∧
          Annotated mark u.signatures marked plain

theorem generate_inPlace {pair : StubPair} (h : generate settings u = .ok pair) :
    InPlace u settings pair := by
  obtain ⟨haccepted, hms, rfl⟩ := generate_eq_ok h
  constructor
  case header =>
    intro v other second hsame hfile hsecond
    obtain ⟨-, -, rfl⟩ := generate_eq_ok hsecond
    exact header_outline hsame hfile
  case marked =>
    intro hread mark hne hmark
    exact ⟨_, _, generate_of_accepted haccepted hms, generate_of_accepted haccepted hms,
      annotated_ofUnit hread hne hmark⟩

/-- A function with as many arguments as parameters, and one with a tail. -/
def twoStubs : StubUnit :=
  .ofModules [⟨"a", [⟨"int", "f2", ["int a"], none⟩]⟩,
    ⟨"b", [⟨"void", "log_v", ["char *f", "..."], none⟩]⟩] "media" "stubs"

/-- Other signatures in modules of the same names. -/
def otherStubs : StubUnit :=
  .ofModules [⟨"a", []⟩, ⟨"b", [⟨"int", "g_3", [""], some "Y"⟩]⟩] "media" "other"

theorem generate_inPlace_of_two :
    ∃ marked plain second,
      generate (({} : Settings).withExportMark "STUB_EXPORT") twoStubs = .ok marked ∧
      generate (({} : Settings).withExportMark "") twoStubs = .ok plain ∧
      generate ⟨"X", "LOG(1)", Settings.defaultLoggingInclude, some "#x"⟩ otherStubs =
        .ok second ∧
      Differ (rowsOf marked.implementation) (rowsOf plain.implementation)
        [ (opening "int STUB_EXPORT f2(int a)", opening "int f2(int a)"),
          (opening "void STUB_EXPORT log_v(char *f, ...)", opening "void log_v(char *f, ...)") ] ∧
      second.header = plain.header := by
  have hf : Signature.IsRead ⟨"int", "f2", ["int a"], none⟩ := ⟨"int f2(int a)", .start, by rfl⟩
  have hlog : Signature.IsRead ⟨"void", "log_v", ["char *f", "..."], none⟩ :=
    ⟨"void log_v(char *f, ...)", .start, by rfl⟩
  have hread : ∀ s ∈ twoStubs.signatures, s.IsRead := by
    simpa [twoStubs, StubUnit.signatures, StubUnit.ofModules] using ⟨hf, hlog⟩
  have hpair : generate (({} : Settings).withExportMark "") twoStubs = .ok _ :=
    generate_of_accepted (by decide) (by simp [twoStubs, StubUnit.ofModules])
  obtain ⟨second, hsecond⟩ : ∃ second,
      generate ⟨"X", "LOG(1)", Settings.defaultLoggingInclude, some "#x"⟩ otherStubs =
        .ok second :=
    ⟨_, generate_of_accepted (by decide) (by simp [otherStubs, StubUnit.ofModules])⟩
  obtain ⟨marked, plain, hmarked, hplain, hannotated⟩ :=
    (generate_inPlace hpair).marked hread "STUB_EXPORT" (by decide) (by decide)
  have hdiffer : Differ (rowsOf marked.implementation) (rowsOf plain.implementation) _ :=
    hannotated.implementation
  have hheads : twoStubs.signatures.map
      (fun s => (markedHead "STUB_EXPORT" s, plainHead s)) =
      [ (opening "int STUB_EXPORT f2(int a)", opening "int f2(int a)"),
        (opening "void STUB_EXPORT log_v(char *f, ...)", opening "void log_v(char *f, ...)") ] := by
    decide
  rw [hheads] at hdiffer
  refine ⟨marked, plain, second, hmarked, hplain, hsecond, hdiffer, ?_⟩
  have hsame : twoStubs.SameOutline otherStubs := ⟨rfl, rfl, rfl⟩
  exact (generate_inPlace hplain).header _ _ _ hsame (by rfl) hsecond

end StubPair

end LinkStubs
