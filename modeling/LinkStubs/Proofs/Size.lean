import LinkStubs.Proofs.Agreement
import LinkStubs.Proofs.Variadic
import Mathlib.Algebra.BigOperators.Group.List.Basic
import Mathlib.Algebra.GroupWithZero.Nat

/-!
The size of a generated pair. Each section fills the rows of its layout, and a text that is set into
it adds its own newlines; what was read from a source adds none. The statistics of a pair report
what is in its two files.
-/

namespace LinkStubs

open LinkStubs.Emit LinkStubs.Identifier LinkStubs.Listing LinkStubs.Signature LinkStubs.Text

namespace Text

theorem newlines_eq_zero {text : String} (h : '\n' ∉ text.toList) : newlines text = 0 :=
  List.count_eq_zero.mpr h

/-- A literal is told by the characters it is written with. -/
theorem newlines_literal {cs : List Char} (h : cs.count '\n' = 0) :
    newlines (no_index (String.ofList cs)) = 0 := by
  rw [newlines, String.toList_ofList, h]

/-- How many rows some lines fill; a line may hold newlines of its own. -/
def height (ls : List String) : Nat :=
  newlines (unlines ls)

theorem height_nil : height [] = 0 := rfl

theorem height_cons (l : String) (ls : List String) :
    height (l :: ls) = newlines l + 1 + height ls := by
  rw [height, newlines, unlines_cons, List.count_append, List.count_cons_self, height, newlines,
    newlines]
  omega

theorem height_append (ls ks : List String) : height (ls ++ ks) = height ls + height ks := by
  rw [height, unlines_append, newlines_append, height, height]

theorem height_flatMap {α : Type} (f : α → List String) (xs : List α) :
    height (xs.flatMap f) = (xs.map (fun x => height (f x))).sum := by
  induction xs with
  | nil => rfl
  | cons x xs ih => rw [List.flatMap_cons, height_append, ih, List.map_cons, List.sum_cons]

theorem height_of_single {ls : List String} (h : ∀ l ∈ ls, newlines l = 0) :
    height ls = ls.length := by
  induction ls with
  | nil => rfl
  | cons l ls ih =>
    rw [List.forall_mem_cons] at h
    rw [height_cons, h.1, ih h.2, List.length_cons]
    omega

theorem height_of_unbroken {ls : List String} (h : ∀ l ∈ ls, '\n' ∉ l.toList) :
    height ls = ls.length :=
  height_of_single (fun l hl => newlines_eq_zero (h l hl))

theorem newlines_identText {text : String} (h : IdentText text) : newlines text = 0 :=
  newlines_eq_zero (h.not_mem (by decide))

end Text

theorem Section.newlines_text (s : Section) : newlines s.text = s.rows.length := by
  rw [rows, text, List.length_map, length_lines (ended_unlines _), newlines]

namespace Emit

theorem height_headerPreamble (guard nameSpace file : String) :
    height (headerPreamble guard nameSpace file) =
      14 + 2 * newlines guard + newlines nameSpace + newlines file := by
  simp only [headerPreamble, banner, comment, Writer.commentText, Emit.blank, includeSystem,
    includeOwn, quoted, opening, List.map_cons, List.map_nil, height_append, height_cons,
    height_nil, newlines_append]
  simp (disch := decide) only [newlines_literal]
  omega

theorem height_headerCloser (guard nameSpace : String) :
    height (headerCloser guard nameSpace) = 3 + newlines nameSpace + newlines guard := by
  simp only [headerCloser, nameSpaceEnd, closing, Emit.blank, height_cons, height_nil,
    newlines_append]
  simp (disch := decide) only [newlines_literal]
  omega

/-- The rows of a text that stands between blank lines, where there is one. -/
def extraHeight : Option String → Nat
  | none => 0
  | some text => 2 + newlines text

theorem height_implementationPreamble (path : String) (extra : Option String) :
    height (implementationPreamble path extra) = 11 + newlines path + extraHeight extra := by
  cases extra with
  | none =>
    simp only [implementationPreamble, banner, comment, Writer.commentText, Emit.blank,
      includeSystem, includeOwn, quoted, List.append_nil, height_cons, height_nil, newlines_append,
      extraHeight]
    simp (disch := decide) only [newlines_literal]
    omega
  | some text =>
    simp only [implementationPreamble, banner, comment, Writer.commentText, Emit.blank,
      includeSystem, includeOwn, quoted, height_append, height_cons, height_nil, newlines_append,
      extraHeight]
    simp (disch := decide) only [newlines_literal]
    omega

theorem height_externCOpen : height externCOpen = 2 := by decide

theorem height_externCClose : height externCClose = 4 := by decide

theorem height_nameSpaceOpen (name : String) :
    height (nameSpaceOpen name) = 2 + newlines name := by
  simp only [nameSpaceOpen, opening, Emit.blank, height_cons, height_nil, newlines_append]
  simp (disch := decide) only [newlines_literal]
  omega

theorem height_nameSpaceClose (name : String) :
    height (nameSpaceClose name) = 2 + newlines name := by
  simp only [nameSpaceClose, nameSpaceEnd, closing, Emit.blank, height_cons, height_nil,
    newlines_append]
  simp (disch := decide) only [newlines_literal]
  omega

theorem height_openLibraries (log : String) :
    height (openLibraries log) = 33 + 2 * newlines log := by
  simp only [openLibraries, umbrellaHead, moduleCount, opening, closing, Emit.blank, height_cons,
    height_nil, newlines_append]
  simp (disch := decide) only [newlines_literal]
  omega

theorem height_closeLibraries : height closeLibraries = 12 := by
  simp only [closeLibraries, opening, closing, Emit.blank, height_cons, height_nil, newlines_append]
  simp (disch := decide) only [newlines_literal]

end Emit

namespace StubBody

/-- The rows of a stub with this body. -/
def stubHeight : StubBody → Nat
  | .plain .. => 5
  | .variadicReturn .. => 9
  | .variadicVoid .. => 8

/-- A body that passes nothing on that would break a row. -/
def Unbroken : StubBody → Prop
  | .plain _ args => '\n' ∉ args.toList
  | .variadicReturn fixed last | .variadicVoid fixed last =>
    '\n' ∉ fixed.toList ∧ '\n' ∉ last.toList

theorem newline_not_mem_joined {names : List String} (h : ∀ name ∈ names, '\n' ∉ name.toList) :
    '\n' ∉ (joined names).toList := by
  intro hm
  rw [joined, String.toList_intercalate] at hm
  rcases mem_intercalate hm with hs | ⟨cs, hcs, hm⟩
  · exact absurd hs (by decide)
  · obtain ⟨name, hname, rfl⟩ := List.mem_map.mp hcs
    exact h name hname hm

end StubBody

namespace Signature

variable {s : Signature}

theorem Unbroken.argumentNames (h : s.Unbroken) :
    ∀ name ∈ s.argumentNames, '\n' ∉ name.toList := by
  intro name hname hm
  obtain ⟨p, hp, rfl⟩ := List.mem_map.mp hname
  rw [argumentName, String.toList_ofList] at hm
  exact h.params p hp (argumentChars_subset _ hm)

theorem Unbroken.withExport (h : s.Unbroken) (mark : String) : (s.withExport mark).Unbroken where
  result := h.result
  name := h.name
  params := h.params

theorem Unbroken.ofSignature (h : s.Unbroken) : (StubBody.ofSignature s).Unbroken := by
  have hfixed : ∀ name ∈ s.argumentNames.dropLast, '\n' ∉ name.toList :=
    fun name hname => h.argumentNames name (List.dropLast_subset _ hname)
  have hlast : '\n' ∉ (s.argumentNames.dropLast.getLast?.getD "").toList := by
    cases hl : s.argumentNames.dropLast.getLast? with
    | none => simp
    | some name => exact hfixed name (List.mem_of_getLast? hl)
  have hjoined := StubBody.newline_not_mem_joined hfixed
  rw [StubBody.ofSignature]
  split
  · split
    · exact ⟨hjoined, hlast⟩
    · exact ⟨hjoined, hlast⟩
  · show '\n' ∉ _
    split
    · simp
    · exact StubBody.newline_not_mem_joined h.argumentNames

end Signature

namespace Emit

variable {s : Signature} {m : StubModule}

theorem newlines_pointerName (h : s.Unbroken) : newlines s.pointerName = 0 := by
  rw [Signature.pointerName, newlines_append, newlines_eq_zero h.name_line,
    newlines_literal (by decide)]

theorem newlines_pointerDeclaration (h : s.Unbroken) : newlines (pointerDeclaration s) = 0 := by
  simp only [pointerDeclaration, newlines_append, newlines_eq_zero h.result,
    newlines_eq_zero h.joinedParams, newlines_pointerName h]
  simp (disch := decide) only [newlines_literal]

theorem newlines_weakDeclaration (h : s.Unbroken) : newlines (weakDeclaration s) = 0 := by
  simp only [weakDeclaration, newlines_append, newlines_eq_zero h.result,
    newlines_eq_zero h.joinedParams, newlines_eq_zero h.name_line]
  simp (disch := decide) only [newlines_literal]

theorem newlines_stubHead (h : s.Unbroken) :
    newlines (stubHead s) = newlines (s.exportMark.getD "") := by
  cases hmark : s.exportMark with
  | none =>
    simp only [stubHead, hmark, opening, newlines_append, newlines_eq_zero h.result,
      newlines_eq_zero h.joinedParams, newlines_eq_zero h.name_line, Option.getD_none]
    simp (disch := decide) only [newlines_literal]
  | some mark =>
    simp only [stubHead, hmark, opening, newlines_append, newlines_eq_zero h.result,
      newlines_eq_zero h.joinedParams, newlines_eq_zero h.name_line, Option.getD_some]
    simp (disch := decide) only [newlines_literal]
    omega

theorem height_body {b : StubBody} (h : s.Unbroken) (hb : b.Unbroken) :
    height (b.lines s) + 4 = b.stubHeight := by
  cases b with
  | plain returnsValue args =>
    have hreturn : newlines (if returnsValue then "return " else "") = 0 := by
      cases returnsValue <;> decide
    simp only [StubBody.lines, StubBody.stubHeight, height_cons, height_nil, newlines_append,
      hreturn, newlines_pointerName h, newlines_eq_zero hb]
    simp (disch := decide) only [newlines_literal]
  | variadicReturn fixed last =>
    simp only [StubBody.lines, StubBody.stubHeight, height_cons, height_nil, newlines_append,
      newlines_pointerName h, newlines_eq_zero h.result, newlines_eq_zero hb.1,
      newlines_eq_zero hb.2]
    simp (disch := decide) only [newlines_literal]
  | variadicVoid fixed last =>
    simp only [StubBody.lines, StubBody.stubHeight, height_cons, height_nil, newlines_append,
      newlines_pointerName h, newlines_eq_zero hb.1, newlines_eq_zero hb.2]
    simp (disch := decide) only [newlines_literal]

theorem height_stub (h : s.Unbroken) :
    height (stub s) =
      (StubBody.ofSignature s).stubHeight + newlines (s.exportMark.getD "") := by
  have hbody := height_body h h.ofSignature
  have hmark : newlines indirectCallMark = 0 := by decide
  have hclosing : newlines closing = 0 := by decide
  simp only [stub, height_append, height_cons, height_nil, newlines_weakDeclaration h,
    newlines_stubHead h, hmark, hclosing]
  omega

/-- The annotation is the one text that a stub does not have from its signature. -/
theorem height_stub_withExport (h : s.Unbroken) (mark : String) :
    height (stub (s.withExport mark)) = (StubBody.ofSignature s).stubHeight + newlines mark := by
  have hmark : newlines ((s.withExport mark).exportMark.getD "") = newlines mark := by
    rw [Signature.withExport]
    by_cases he : mark = ""
    · subst he
      rfl
    · simp [he]
  rw [height_stub (h.withExport mark), hmark]
  rfl

theorem height_moduleStubs (hm : ∀ s ∈ m.signatures, s.Unbroken) (mark : String) :
    height (moduleStubs m mark) = 6 + newlines m.name + m.signatures.length +
      (m.signatures.map (fun s => (StubBody.ofSignature s).stubHeight + newlines mark)).sum := by
  have hpointers : height ((m.signatures.map (·.withExport mark)).map pointerDeclaration) =
      m.signatures.length := by
    rw [List.map_map, height_of_single, List.length_map]
    intro row hrow
    obtain ⟨s, hs, rfl⟩ := List.mem_map.mp hrow
    exact newlines_pointerDeclaration ((hm s hs).withExport mark)
  have hstubs : height ((m.signatures.map (·.withExport mark)).flatMap stub) =
      (m.signatures.map (fun s => (StubBody.ofSignature s).stubHeight + newlines mark)).sum := by
    rw [height_flatMap, List.map_map]
    exact congrArg List.sum
      (List.map_congr_left (fun s hs => height_stub_withExport (hm s hs) mark))
  simp only [moduleStubs, comment, Writer.commentText, Emit.blank, height_append, height_cons,
    height_nil, newlines_append, hpointers, hstubs]
  simp (disch := decide) only [newlines_literal]
  omega

theorem height_readyCheck (hm : ∀ s ∈ m.signatures, s.Unbroken) :
    height (readyCheck m) = 8 + max 1 m.signatures.length := by
  have hterms : (Symbols.terms (m.signatures.map (·.name))).length =
      max 1 m.signatures.length := by
    cases hs : m.signatures with
    | nil => rfl
    | cons s ss => simp [Symbols.terms]
  have hrows : height (readyCheck m) = (Section.readyCheck m).rows.length :=
    (Section.readyCheck m).newlines_text
  rw [hrows, Symbols.rows_readyCheck hm, List.length_append, List.length_append, length_headRows,
    hterms]
  simp only [List.length_cons, List.length_nil]
  omega

theorem height_loadSymbol (h : s.Unbroken) (log : String) :
    height (loadSymbol log s) = 7 + newlines log := by
  simp only [loadSymbol, quoted, opening, closing, height_cons, height_nil, newlines_append,
    newlines_eq_zero h.result, newlines_eq_zero h.joinedParams, newlines_eq_zero h.name_line,
    newlines_pointerName h]
  simp (disch := decide) only [newlines_literal]
  omega

theorem height_loader (hm : ∀ s ∈ m.signatures, s.Unbroken) (log : String) :
    height (loader m log) = 4 + (m.signatures.map (fun _ => 7 + newlines log)).sum := by
  have hname : newlines m.identifiers.loader = 0 :=
    newlines_identText (loader_identText m.name)
  have hsymbols : height (m.signatures.flatMap (loadSymbol log)) =
      (m.signatures.map (fun _ => 7 + newlines log)).sum := by
    rw [height_flatMap]
    exact congrArg List.sum
      (List.map_congr_left (fun s hs => height_loadSymbol (hm s hs) log))
  simp only [loader, comment, Writer.commentText, opening, closing, Emit.blank, height_append,
    height_cons, height_nil, newlines_append, hname, hsymbols]
  simp (disch := decide) only [newlines_literal]
  omega

theorem height_unloader (hm : ∀ s ∈ m.signatures, s.Unbroken) :
    height (unloader m) = 4 + m.signatures.length := by
  have hrows : ∀ row ∈ unloader m, '\n' ∉ row.toList :=
    fun row hrow => (Symbols.unloader_oneLine hm row hrow).1
  rw [height_of_unbroken hrows, unloader, List.length_append, List.length_append, List.length_map]
  simp only [List.length_cons, List.length_nil]
  omega

theorem height_prototypes (m : StubModule) : height (prototypes m) = 4 := by
  have hready : newlines m.identifiers.readyCheck = 0 :=
    newlines_identText (readyCheck_identText m.name)
  have hload : newlines m.identifiers.loader = 0 :=
    newlines_identText (loader_identText m.name)
  have hunload : newlines m.identifiers.unloader = 0 :=
    newlines_identText (unloader_identText m.name)
  simp only [prototypes, Emit.blank, height_cons, height_nil, newlines_append, hready, hload,
    hunload]
  simp (disch := decide) only [newlines_literal]

theorem height_umbrellaEnum (ms : List StubModule) :
    height (umbrellaEnum ms) = 5 + ms.length := by
  have hrows : height (umbrellaEnum ms) = (Section.umbrellaEnum ms).rows.length :=
    (Section.umbrellaEnum ms).newlines_text
  have hentries : (enumerators ms).length = ms.length := by
    cases ms with
    | nil => rfl
    | cons m ms => rw [enumerators, List.length_cons, List.length_map, List.length_cons]
  rw [hrows, Agreement.rows_umbrellaEnum, umbrellaEnum, List.length_append, List.length_append,
    hentries]
  simp only [List.length_cons, List.length_nil]
  omega

theorem height_umbrellaPrototype : height umbrellaPrototype = 4 := by
  simp only [umbrellaPrototype, umbrellaHead, comment, Writer.commentText, Emit.blank, height_cons,
    height_nil, newlines_append]
  simp (disch := decide) only [newlines_literal]

theorem height_umbrella {ms : List StubModule} (hms : ms ≠ []) (log : String) :
    height (umbrella ms log) = 55 + 2 * newlines log + 3 * ms.length := by
  have hopening : height (Umbrella.openingRows log) = 46 + 2 * newlines log := by
    rw [Umbrella.openingRows, height_append, height_append, height_closeLibraries,
      height_openLibraries, height_cons, height_nil, newlines_literal (by decide)]
    omega
  have hloads : height (Umbrella.loadCalls ms) = ms.length := by
    rw [height_of_unbroken (fun row hrow => (Umbrella.loadCalls_row ms row hrow).1.1),
      Umbrella.loadCalls, List.length_map]
  have hgap : height Umbrella.gapRows = 3 :=
    height_of_unbroken (fun row hrow => (Umbrella.plain_gapRows row hrow).1.1)
  have hhead : height (headRows " ||" ifFront (Umbrella.terms ms)) = ms.length := by
    have hpos := List.length_pos_iff.mpr hms
    rw [height_of_unbroken (fun row hrow => (Umbrella.headRows_oneLine_terms hms row hrow).1),
      length_headRows, Umbrella.terms, List.length_map]
    omega
  have hunloads : height (Umbrella.unloadCalls ms) = ms.length := by
    rw [height_of_unbroken (fun row hrow => (Umbrella.plain_unloadCalls ms row hrow).1.1),
      Umbrella.unloadCalls, List.length_map]
  have hclosing : height Umbrella.closingRows = 6 :=
    height_of_unbroken (fun row hrow => (Umbrella.plain_closingRows row hrow).1.1)
  have htext : height (umbrella ms log) = height
      ((Umbrella.openingRows log ++ Umbrella.loadCalls ms ++ Umbrella.gapRows)
        ++ (headRows " ||" ifFront (Umbrella.terms ms)
          ++ (Umbrella.unloadCalls ms ++ Umbrella.closingRows))) :=
    congrArg newlines (Umbrella.text_umbrella ms log)
  rw [htext]
  simp only [height_append, hopening, hloads, hgap, hhead, hunloads, hclosing]
  omega

end Emit

namespace StubPair

variable {u : StubUnit} {settings : Settings}

/-- The rows of a module in an implementation. -/
def moduleHeight (settings : Settings) (m : StubModule) : Nat :=
  25 + newlines m.name + 9 * m.signatures.length + max 1 m.signatures.length +
    (m.signatures.map (fun s => (StubBody.ofSignature s).stubHeight +
      newlines settings.loggingFunction + newlines settings.exportMark)).sum

/-- A module has its stubs, the functions that manage it, and three rows of the umbrella. -/
theorem moduleHeight_eq {m : StubModule} (hm : ∀ s ∈ m.signatures, s.Unbroken)
    (settings : Settings) :
    moduleHeight settings m = height (moduleStubs m settings.exportMark) +
      height ((StubUnit.lifecycle settings m).flatMap Section.lines) + 3 := by
  have hrows : (m.signatures.map (fun _ => 7)).sum = 7 * m.signatures.length := by
    simp [Nat.mul_comm]
  simp only [StubUnit.lifecycle, List.flatMap_cons, List.flatMap_nil, List.append_nil,
    Section.lines, height_append, height_moduleStubs hm, height_readyCheck hm, height_loader hm,
    height_unloader hm, moduleHeight, List.sum_map_add, hrows]
  omega

theorem sum_moduleHeight {ms : List StubModule} (hms : ∀ m ∈ ms, ∀ s ∈ m.signatures, s.Unbroken)
    (settings : Settings) :
    (ms.map (moduleHeight settings)).sum =
      (ms.map (fun m => height (moduleStubs m settings.exportMark))).sum +
        height ((ms.flatMap (StubUnit.lifecycle settings)).flatMap Section.lines) +
        3 * ms.length := by
  induction ms with
  | nil => rfl
  | cons m ms ih =>
    rw [List.forall_mem_cons] at hms
    have hm := moduleHeight_eq hms.1 settings
    have hrest := ih hms.2
    simp only [List.map_cons, List.sum_cons, List.flatMap_cons, List.flatMap_append, height_append,
      List.length_cons]
    omega

theorem height_header (u : StubUnit) (settings : Settings) :
    height ((u.headerSections settings).flatMap Section.lines) =
      26 + 5 * u.modules.length + 3 * newlines u.guard + 2 * newlines u.nameSpace +
        newlines settings.loggingInclude := by
  have hprototypes : height (u.modules.flatMap prototypes) = 4 * u.modules.length := by
    induction u.modules with
    | nil => rfl
    | cons m ms ih =>
      rw [List.flatMap_cons, height_append, height_prototypes, ih, List.length_cons]
      omega
  simp only [StubUnit.headerSections, List.flatMap_append, List.flatMap_cons, List.flatMap_nil,
    List.flatMap_map, List.append_nil, Section.lines, height_append, height_headerPreamble,
    hprototypes, height_umbrellaEnum, height_umbrellaPrototype, height_headerCloser]
  omega

theorem height_implementation (hms : u.modules ≠ [])
    (hu : ∀ m ∈ u.modules, ∀ s ∈ m.signatures, s.Unbroken) (settings : Settings) :
    height ((u.implementationSections settings).flatMap Section.lines) =
      76 + extraHeight settings.extraHeader + newlines u.includePath + 2 * newlines u.nameSpace +
        2 * newlines settings.loggingFunction + (u.modules.map (moduleHeight settings)).sum := by
  have hmodules := sum_moduleHeight hu settings
  simp only [StubUnit.implementationSections, List.flatMap_append, List.flatMap_cons,
    List.flatMap_nil, List.flatMap_map, List.append_nil, Section.lines, height_append,
    height_implementationPreamble, height_externCOpen, height_externCClose, height_nameSpaceOpen,
    height_nameSpaceClose, height_umbrella hms, height_flatMap (fun m => moduleStubs m _)]
  omega

theorem lineCount_render (sections : List Section) :
    (render sections).lineCount = newlines (render sections).text :=
  (Section.appended_renderAll sections {}).counted

theorem text_render (sections : List Section) :
    (render sections).text = unlines (sections.flatMap Section.lines) := by
  rw [render, Section.text_renderAll, String.empty_append]

theorem newlines_render (sections : List Section) :
    newlines (render sections).text = height (sections.flatMap Section.lines) := by
  rw [text_render, height]

theorem getLast?_render {sections : List Section}
    (h : 0 < height (sections.flatMap Section.lines)) :
    (render sections).text.toList.getLast? = some '\n' := by
  have hended := ended_unlines (sections.flatMap Section.lines)
  rw [text_render]
  rcases hended with hn | hl
  · rw [height, newlines, hn] at h
    cases h
  · exact hl

/-- For modules that were read from sources, a pair is generated whose statistics are the newlines
of its files, which are as many as the texts that are set into the files come to. -/
theorem generate_size (hms : u.modules ≠ [])
    (hread : ∀ m ∈ u.modules, ∃ source, m.ReadFrom source) (haccepted : settings.fault? = none) :
    ∃ pair, generate settings u = .ok pair ∧
      pair.statistics.headerLines =
        26 + 5 * u.modules.length + 3 * newlines u.guard + 2 * newlines u.nameSpace +
          newlines settings.loggingInclude ∧
      pair.statistics.implementationLines =
        76 + extraHeight settings.extraHeader + newlines u.includePath +
          2 * newlines u.nameSpace + 2 * newlines settings.loggingFunction +
          (u.modules.map (moduleHeight settings)).sum ∧
      pair.statistics.headerLines = newlines pair.header ∧
      pair.statistics.implementationLines = newlines pair.implementation ∧
      pair.header.toList.getLast? = some '\n' ∧
      pair.implementation.toList.getLast? = some '\n' := by
  have hu : ∀ m ∈ u.modules, ∀ s ∈ m.signatures, s.Unbroken := by
    intro m hm s hs
    obtain ⟨source, hsource⟩ := hread m hm
    exact (normal_of_readSource hsource s hs).unbroken
  have hheader := height_header u settings
  have himplementation := height_implementation hms hu settings
  refine ⟨ofUnit u settings, generate_of_accepted haccepted hms, ?_, ?_, lineCount_render _,
    lineCount_render _, getLast?_render (by omega), getLast?_render (by omega)⟩
  · exact (lineCount_render _).trans ((newlines_render _).trans hheader)
  · exact (lineCount_render _).trans ((newlines_render _).trans himplementation)

/-- Newlines count wherever a text is set in, and a module without signatures has a row for its
test. -/
theorem generate_size_of_two :
    (⟨"lib\n.foo", [⟨"int", "f2", ["int a"], none⟩, ⟨"void", "log_v", ["char *f", "..."], none⟩,
        ⟨"int", "sn", ["char *b", "..."], none⟩]⟩ : StubModule).ReadFrom
        "int f2(int a)\r\nvoid log_v(char *f, ...)\n# none\nint sn(char *b, ...)" ∧
      (⟨"", []⟩ : StubModule).ReadFrom "" ∧
      ∃ pair,
        generate ⟨"X\n", "LOG(\n1)", "l\n.h", some "#x\n"⟩
          ⟨[ ⟨"lib\n.foo", [⟨"int", "f2", ["int a"], none⟩,
                ⟨"void", "log_v", ["char *f", "..."], none⟩,
                ⟨"int", "sn", ["char *b", "..."], none⟩]⟩,
              ⟨"", []⟩ ], "a\nb", "G\n", "x\n\ny"⟩ = .ok pair ∧
        pair.statistics.headerLines = 42 ∧ pair.statistics.implementationLines = 195 ∧
        newlines pair.header = 42 ∧ newlines pair.implementation = 195 := by
  have hfoo : (⟨"lib\n.foo", [⟨"int", "f2", ["int a"], none⟩,
      ⟨"void", "log_v", ["char *f", "..."], none⟩,
      ⟨"int", "sn", ["char *b", "..."], none⟩]⟩ : StubModule).ReadFrom
        "int f2(int a)\r\nvoid log_v(char *f, ...)\n# none\nint sn(char *b, ...)" := rfl
  have hempty : (⟨"", []⟩ : StubModule).ReadFrom "" := rfl
  have haccepted :
      (⟨"X\n", "LOG(\n1)", "l\n.h", some "#x\n"⟩ : Settings).fault? = none := by decide
  refine ⟨hfoo, hempty, ?_⟩
  obtain ⟨pair, hpair, hheader, himplementation, hcounted, hwritten, -⟩ :=
    generate_size (u := ⟨[ ⟨"lib\n.foo", [⟨"int", "f2", ["int a"], none⟩,
            ⟨"void", "log_v", ["char *f", "..."], none⟩,
            ⟨"int", "sn", ["char *b", "..."], none⟩]⟩,
          ⟨"", []⟩ ], "a\nb", "G\n", "x\n\ny"⟩)
      (by simp) (by simp only [List.forall_mem_cons]; exact ⟨⟨_, hfoo⟩, ⟨_, hempty⟩, by simp⟩)
      haccepted
  have h42 : pair.statistics.headerLines = 42 := hheader.trans (by decide +kernel)
  have h195 : pair.statistics.implementationLines = 195 := himplementation.trans (by decide +kernel)
  exact ⟨pair, hpair, h42, h195, hcounted ▸ h42, hwritten ▸ h195⟩

end StubPair

end LinkStubs
