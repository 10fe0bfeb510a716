import LinkStubs.Proofs.Rollback
import LinkStubs.Proofs.Symbols

/-!
The header and the implementation of a unit agree: what the one declares the other defines behind
the row that opens its namespace, in the same order, and it defines nothing else that can be called
from outside. Only rows that start with a word at the left margin count for this, and those of every
section are known, whatever its signatures and its texts are.
-/

namespace LinkStubs.Agreement

open LinkStubs.Emit LinkStubs.Identifier LinkStubs.Listing LinkStubs.Signature LinkStubs.Text

/-- A row that starts with a word at the left margin. -/
def atMargin (row : String) : Bool :=
  row.toList.head?.any isIdentStart

def margin (rows : List String) : List String :=
  rows.filter atMargin

/-- A row that starts with the type of a function that manages modules. -/
def isHead (row : String) : Bool :=
  startsWith "bool " row || startsWith "void " row

/-- A row that opens a function which is not kept to its own file. -/
def exports (row : String) : Bool :=
  atMargin row && endsIn (String.ofList [' ', '{']) row && !startsWith "static " row

/-- The rows behind the last that equals `mark`; all of them where none does. -/
def behindLast (mark : String) (rows : List String) : List String :=
  (rows.reverse.takeWhile (· ≠ mark)).reverse

def bodied (row : String) : String :=
  if endsIn ";" row then opening (String.ofList row.toList.dropLast) else row

def moduleManagers (m : StubModule) : List String :=
  [ "bool " ++ m.identifiers.readyCheck ++ "()",
    "void " ++ m.identifiers.loader ++ "(void* module)",
    "void " ++ m.identifiers.unloader ++ "()" ]

def managers (ms : List StubModule) : List String :=
  ms.flatMap moduleManagers ++ ["bool InitializeStubs(const StubPathMap& path_map)"]

/-- What is declared is what is defined. -/
structure Agrees (u : StubUnit) (header implementation : String) : Prop where
  opened : opening ("namespace " ++ u.nameSpace) ∈ rowsOf implementation
  same : ((rowsOf header).filter isHead).map bodied =
    (behindLast (opening ("namespace " ++ u.nameSpace)) (rowsOf implementation)).filter isHead
  declared : (rowsOf header).filter isHead = (managers u.modules).map (· ++ ";")
  defined :
    (behindLast (opening ("namespace " ++ u.nameSpace)) (rowsOf implementation)).filter isHead =
      (managers u.modules).map opening
  /-- Behind that row no other function is defined that is not static. -/
  exported :
    (behindLast (opening ("namespace " ++ u.nameSpace)) (rowsOf implementation)).filter exports =
      (managers u.modules).map opening

theorem margin_append (rows more : List String) :
    margin (rows ++ more) = margin rows ++ margin more := by
  rw [margin, margin, margin, List.filter_append]

theorem margin_of_quiet {rows : List String} (h : ∀ row ∈ rows, atMargin row = false) :
    margin rows = [] :=
  List.filter_eq_nil_iff.mpr (fun row hrow => by simp [h row hrow])

theorem margin_cons_of_word {row : String} (h : atMargin row = true) (rows : List String) :
    margin (row :: rows) = row :: margin rows :=
  List.filter_cons_of_pos h

theorem margin_cons_of_quiet {row : String} (h : atMargin row = false) (rows : List String) :
    margin (row :: rows) = margin rows :=
  List.filter_cons_of_neg (by simp [h])

theorem atMargin_append {front : String} (h : front ≠ "") (rest : String) :
    atMargin (front ++ rest) = atMargin front := by
  obtain ⟨c, cs, hc⟩ := List.exists_cons_of_ne_nil (fun he => h (String.toList_eq_nil_iff.mp he))
  rw [atMargin, atMargin, String.toList_append, hc]
  rfl

variable {m : StubModule} {log : String}

theorem quiet_loadSymbol (log : String) (s : Signature) :
    ∀ row ∈ loadSymbol log s, atMargin row = false := by
  simp (disch := decide) only [Symbols.loadSymbol_eq, List.forall_mem_cons, String.append_assoc,
    atMargin_append]
  decide

theorem word_opening {front : String} (h : front ≠ "") (hw : atMargin front = true)
    (rest : String) : atMargin (opening (front ++ rest)) = true := by
  rw [opening, String.append_assoc, atMargin_append h, hw]

theorem margin_loader (m : StubModule) (log : String) :
    margin (Section.loader m log).lines =
      [opening ("void " ++ m.identifiers.loader ++ "(void* module)")] := by
  have hsymbols : margin (m.signatures.flatMap (loadSymbol log)) = [] := by
    apply margin_of_quiet
    intro row hrow
    obtain ⟨s, -, hrow⟩ := List.mem_flatMap.mp hrow
    exact quiet_loadSymbol log s row hrow
  rw [String.append_assoc, Section.lines, Emit.loader, String.append_assoc, margin_append,
    margin_append, hsymbols, margin_cons_of_quiet (by decide),
    margin_cons_of_word (word_opening (by decide) (by decide) _)]
  rfl

theorem margin_unloader (m : StubModule) :
    margin (Section.unloader m).lines =
      [opening ("void " ++ m.identifiers.unloader ++ "()")] := by
  have hresets : margin (m.signatures.map (fun s => "  " ++ s.pointerName ++ " = NULL;")) = [] := by
    apply margin_of_quiet
    intro row hrow
    obtain ⟨s, -, rfl⟩ := List.mem_map.mp hrow
    rw [String.append_assoc, atMargin_append (by decide)]
    decide
  rw [String.append_assoc, Section.lines, Emit.unloader, String.append_assoc, margin_append,
    margin_append, hresets, margin_cons_of_quiet (by decide),
    margin_cons_of_word (word_opening (by decide) (by decide) _)]
  rfl

theorem quiet_headRows (op : String) {front : String} {ts : List String} (hne : ts ≠ [])
    (hf : front ≠ "") (hq : atMargin front = false) :
    ∀ row ∈ headRows op front ts, atMargin row = false := by
  intro row hrow
  obtain ⟨start, term, back, rfl, hs, -, -⟩ := mem_headRows hrow hne
  rcases hs with rfl | rfl
  · rw [String.append_assoc, atMargin_append hf, hq]
  · rw [String.append_assoc, atMargin_append (by decide)]
    decide

theorem margin_readyCheck (hm : ∀ s ∈ m.signatures, s.Unbroken) :
    margin (Section.readyCheck m).rows =
      [opening ("bool " ++ m.identifiers.readyCheck ++ "()")] := by
  have hcondition := margin_of_quiet
    (quiet_headRows " &&" (Symbols.terms_ne_nil (m.signatures.map (·.name)))
      (show ifFront ≠ "" by decide) (by decide))
  rw [Symbols.rows_readyCheck hm, String.append_assoc, margin_append, margin_append, hcondition,
    margin_cons_of_quiet (by decide), margin_cons_of_word (word_opening (by decide) (by decide) _)]
  rfl

def umbrellaMargin : List String :=
  [ "typedef std::map<StubModules, void*> StubHandleMap;",
    opening "static void CloseLibraries(StubHandleMap* stub_handles)",
    opening umbrellaHead ]

theorem margin_rowsBeforeLog : margin Umbrella.rowsBeforeLog = umbrellaMargin := by
  simp only [margin, umbrellaMargin, Umbrella.rowsBeforeLog, closeLibraries, openLibraries,
    moduleCount, umbrellaHead, opening, Emit.closing, Emit.blank, List.take_succ_cons,
    List.take_zero, List.cons_append, List.nil_append, List.filter_cons, List.filter_nil, atMargin,
    String.toList_append, toList_literal, List.head?_cons, List.head?_nil, Option.any_some,
    Option.any_none]
  rfl

theorem margin_rowsBehindLog :
    margin (Umbrella.rowsAfterLog ++ Umbrella.gapRows ++ Umbrella.closingRows) = [] := by
  simp only [margin, Umbrella.rowsAfterLog, Umbrella.gapRows, Umbrella.closingRows, openLibraries,
    opening, Emit.closing, Emit.blank, List.drop_succ_cons, List.drop_zero, List.cons_append,
    List.nil_append, List.filter_cons, List.filter_nil, atMargin, String.toList_append,
    toList_literal, List.head?_cons, List.head?_nil, Option.any_some, Option.any_none]
  rfl

theorem margin_umbrella {ms : List StubModule} (hms : ms ≠ []) (hlog : '\n' ∉ log.toList) :
    margin (Section.umbrella ms log).rows = umbrellaMargin := by
  have hlogs : margin (Umbrella.logRows log) = [] := by
    apply margin_of_quiet
    simp (disch := decide) only [Umbrella.logRows, List.forall_mem_cons, String.append_assoc,
      atMargin_append]
    decide
  have hloads : margin (Umbrella.loadCalls ms) = [] := by
    apply margin_of_quiet
    intro row hrow
    obtain ⟨m, -, rfl⟩ := List.mem_map.mp hrow
    simp only [Umbrella.loadCall, String.append_assoc]
    rw [atMargin_append (by decide)]
    decide
  have hunloads : margin (Umbrella.unloadCalls ms) = [] := by
    apply margin_of_quiet
    intro row hrow
    obtain ⟨m, -, rfl⟩ := List.mem_map.mp hrow
    rw [String.append_assoc, atMargin_append (by decide)]
    decide
  have hterms : Umbrella.terms ms ≠ [] := by simpa [Umbrella.terms] using hms
  have hcheck := margin_of_quiet
    (quiet_headRows " ||" hterms (show ifFront ≠ "" by decide) (by decide))
  have hbehind := margin_rowsBehindLog
  simp only [margin_append, List.append_eq_nil_iff] at hbehind
  obtain ⟨⟨hafter, hgap⟩, hclosing⟩ := hbehind
  rw [Umbrella.rows_umbrella hms hlog, Umbrella.openingRows_eq]
  simp only [margin_append, margin_rowsBeforeLog, hlogs, hafter, hloads, hgap, hcheck, hunloads,
    hclosing, List.append_nil]

/-- A carriage return that belongs to a line break is no word. -/
theorem atMargin_closeLine (row : String) :
    atMargin (String.ofList (closeLine row.toList.reverse)) = atMargin row := by
  rw [atMargin, atMargin, String.toList_ofList]
  unfold closeLine
  split
  · rename_i line hline
    have hrow : row.toList = line.reverse ++ ['\r'] := by
      rw [← List.reverse_reverse row.toList, hline, List.reverse_cons]
    rw [hrow, List.head?_append]
    cases line.reverse.head? with
    | none => rfl
    | some c => rfl
  · rw [List.reverse_reverse]

theorem margin_rows {s : Section} (h : ∀ l ∈ s.lines, '\n' ∉ l.toList)
    (hm : ∀ l ∈ margin s.lines, OneLine l) : margin s.rows = margin s.lines := by
  have hrows : s.rows = s.lines.map (fun l => String.ofList (closeLine l.toList.reverse)) := by
    rw [Section.rows, Section.text, lines_unlines_closed h, List.map_map]
    rfl
  have hword : (margin s.lines).map (fun l : String => String.ofList (closeLine l.toList.reverse)) =
      (margin s.lines).map id := by
    apply List.map_congr_left
    intro l hl
    rw [closeLine_reverse (hm l hl).2, String.ofList_toList]
    rfl
  rw [hrows, margin, List.filter_map]
  simp only [Function.comp_def, atMargin_closeLine]
  exact hword.trans (List.map_id _)

theorem margin_loader_rows (hm : ∀ s ∈ m.signatures, s.Unbroken) (hlog : '\n' ∉ log.toList) :
    margin (Section.loader m log).rows =
      [opening ("void " ++ m.identifiers.loader ++ "(void* module)")] := by
  rw [rows_of_text rfl (Symbols.loader_oneLine hm hlog), margin_loader]

theorem margin_unloader_rows (hm : ∀ s ∈ m.signatures, s.Unbroken) :
    margin (Section.unloader m).rows = [opening ("void " ++ m.identifiers.unloader ++ "()")] := by
  rw [rows_of_text rfl (Symbols.unloader_oneLine hm), margin_unloader]

theorem rows_nameSpaceOpen {name : String} (h : '\n' ∉ name.toList) :
    (Section.nameSpaceOpen name).rows = [opening ("namespace " ++ name), Emit.blank] := by
  apply rows_of_text rfl
  intro row hrow
  simp only [Section.lines, Emit.nameSpaceOpen, List.mem_cons, List.not_mem_nil, or_false] at hrow
  rcases hrow with rfl | rfl
  · exact OneLine.append (by simp [h]) (by decide) (by decide)
  · decide

theorem margin_nameSpaceClose {name : String} (h : '\n' ∉ name.toList) :
    margin (Section.nameSpaceClose name).rows = [] := by
  have hquiet : margin (Section.nameSpaceClose name).lines = [] := by
    apply margin_of_quiet
    simp (disch := decide) only [Section.lines, Emit.nameSpaceClose, nameSpaceEnd,
      List.forall_mem_cons, String.append_assoc, atMargin_append]
    decide
  rw [margin_rows _ (by simp [hquiet]), hquiet]
  simp [Section.lines, Emit.nameSpaceClose, nameSpaceEnd, closing, Emit.blank, h]

theorem margin_headerPreamble {guard name file : String} (hg : '\n' ∉ guard.toList)
    (hn : '\n' ∉ name.toList) (hf : '\n' ∉ file.toList) :
    margin (Section.headerPreamble guard name file).rows = [opening ("namespace " ++ name)] := by
  have hguard : margin [banner, Emit.blank, "#ifndef " ++ guard, "#define " ++ guard, Emit.blank] =
      [] := by
    apply margin_of_quiet
    simp (disch := decide) only [List.forall_mem_cons, atMargin_append]
    decide
  have hsystem : margin (["stdarg.h", "map", "string", "vector"].map includeSystem) = [] := by
    decide
  have hfile : atMargin (includeOwn file) = false := by
    rw [includeOwn, atMargin_append (by decide)]
    decide
  have hlines : margin (Section.headerPreamble guard name file).lines =
      [opening ("namespace " ++ name)] := by
    rw [Section.lines, Emit.headerPreamble, margin_append, margin_append, hguard, hsystem,
      margin_cons_of_quiet (by decide), margin_cons_of_quiet hfile,
      margin_cons_of_quiet (by decide),
      margin_cons_of_word (word_opening (by decide) (by decide) _)]
    rfl
  rw [margin_rows, hlines]
  · simp [Section.lines, Emit.headerPreamble, banner, comment, Writer.commentText, includeSystem,
      includeOwn, quoted, opening, Emit.blank, hg, hn, hf]
  · rw [hlines, List.forall_mem_singleton]
    exact OneLine.append (by simp [hn]) (by decide) (by decide)

theorem margin_headerCloser {guard name : String} (hg : '\n' ∉ guard.toList)
    (hn : '\n' ∉ name.toList) : margin (Section.headerCloser guard name).rows = [] := by
  have hlines : margin (Section.headerCloser guard name).lines = [] := by
    apply margin_of_quiet
    simp (disch := decide) only [Section.lines, Emit.headerCloser, nameSpaceEnd,
      List.forall_mem_cons, String.append_assoc, atMargin_append]
    decide
  rw [margin_rows _ (by simp [hlines]), hlines]
  simp [Section.lines, Emit.headerCloser, nameSpaceEnd, closing, Emit.blank, hg, hn]

/-- A function of a module is declared by the text that it is defined with. -/
theorem prototypes_eq (m : StubModule) :
    Emit.prototypes m = (moduleManagers m).map (· ++ ";") ++ [Emit.blank] := by
  simp [Emit.prototypes, moduleManagers, String.append_assoc]

theorem margin_prototypes (m : StubModule) :
    margin (Section.prototypes m).rows = (moduleManagers m).map (· ++ ";") := by
  have hready : '\n' ∉ m.identifiers.readyCheck.toList :=
    (readyCheck_identText m.name).not_mem (by decide)
  have hload : '\n' ∉ m.identifiers.loader.toList := (loader_identText m.name).not_mem (by decide)
  have hunload : '\n' ∉ m.identifiers.unloader.toList :=
    (unloader_identText m.name).not_mem (by decide)
  have hone : ∀ row ∈ (Section.prototypes m).lines, OneLine row := by
    simp only [Section.lines, Emit.prototypes, List.forall_mem_cons]
    exact ⟨OneLine.append (by simp [hready]) (by decide) (by decide),
      OneLine.append (by simp [hload]) (by decide) (by decide),
      OneLine.append (by simp [hunload]) (by decide) (by decide), by decide, by simp⟩
  have hword : ∀ row ∈ (moduleManagers m).map (· ++ ";"), atMargin row = true := by
    simp (disch := decide) only [moduleManagers, List.map_cons, List.map_nil, List.forall_mem_cons,
      String.append_assoc, atMargin_append]
    decide
  rw [rows_of_text rfl hone, Section.lines, prototypes_eq, margin_append, margin,
    List.filter_eq_self.mpr hword]
  exact List.append_nil _

theorem enumerators_row (ms : List StubModule) :
    ∀ row ∈ enumerators ms, ∃ m ∈ ms, ∃ back : String,
      row = "  " ++ m.identifiers.enumerator ++ back ∧ (back = " = 0," ∨ back = ",") := by
  cases ms with
  | nil => simp [enumerators]
  | cons m ms =>
    intro row hrow
    rcases List.mem_cons.mp hrow with rfl | hrow
    · exact ⟨m, List.mem_cons_self, _, rfl, Or.inl rfl⟩
    · obtain ⟨n, hn, rfl⟩ := List.mem_map.mp hrow
      exact ⟨n, List.mem_cons_of_mem m hn, _, rfl, Or.inr rfl⟩

theorem rows_umbrellaEnum (ms : List StubModule) :
    (Section.umbrellaEnum ms).rows = Emit.umbrellaEnum ms := by
  have hone : ∀ row ∈ enumerators ms, OneLine row := by
    intro row hrow
    obtain ⟨m, -, back, rfl, hback⟩ := enumerators_row ms row hrow
    have hname : '\n' ∉ m.identifiers.enumerator.toList :=
      (enumerator_identText m.name).not_mem (by decide)
    rcases hback with rfl | rfl
    · exact OneLine.append (by simp [hname]) (by decide) (by decide)
    · exact OneLine.append (by simp [hname]) (by decide) (by decide)
  apply rows_of_text rfl
  simp only [Section.lines, Emit.umbrellaEnum, List.forall_mem_append]
  exact ⟨⟨by decide, hone⟩, by decide⟩

theorem margin_umbrellaEnum (ms : List StubModule) :
    margin (Section.umbrellaEnum ms).rows = [opening "enum StubModules"] := by
  have hquiet : margin (enumerators ms) = [] := by
    apply margin_of_quiet
    intro row hrow
    obtain ⟨m, -, back, rfl, -⟩ := enumerators_row ms row hrow
    rw [String.append_assoc, atMargin_append (by decide)]
    decide
  rw [rows_umbrellaEnum, Emit.umbrellaEnum, margin_append, margin_append, hquiet]
  decide

theorem margin_umbrellaPrototype :
    margin Section.umbrellaPrototype.rows =
      [ "typedef std::map<StubModules, std::vector<std::string> > StubPathMap;",
        "bool InitializeStubs(const StubPathMap& path_map);" ] := by
  have hrows : Section.umbrellaPrototype.rows = Section.umbrellaPrototype.lines := by
    apply rows_of_text rfl
    simp only [Section.lines, Emit.umbrellaPrototype, comment, Writer.commentText, umbrellaHead,
      Emit.blank, OneLine, List.forall_mem_cons, String.toList_append, toList_literal]
    decide
  rw [hrows]
  simp only [margin, Section.lines, Emit.umbrellaPrototype, comment, Writer.commentText,
    umbrellaHead, Emit.blank, List.filter_cons, List.filter_nil, atMargin, String.toList_append,
    toList_literal]
  rfl

theorem behindLast_append {mark : String} (rows : List String) {more : List String}
    (h : mark ∉ more) : behindLast mark (rows ++ mark :: more) = more := by
  have hne : ∀ row ∈ more.reverse, decide (row ≠ mark) = true := by
    intro row hrow
    rw [decide_eq_true_iff]
    rintro rfl
    exact h (List.mem_reverse.mp hrow)
  rw [behindLast, List.reverse_append, List.reverse_cons, List.append_assoc,
    List.takeWhile_append_of_pos hne, List.singleton_append, List.takeWhile_cons_of_neg (by simp),
    List.append_nil, List.reverse_reverse]

theorem filter_margin {p : String → Bool} (hp : ∀ row, p row = true → atMargin row = true)
    (rows : List String) : (margin rows).filter p = rows.filter p := by
  rw [margin, List.filter_filter]
  apply List.filter_congr
  intro row _
  cases h : p row with
  | false => rfl
  | true => simp [hp row h]

theorem margin_flatMap {α : Type} (f : α → List String) (xs : List α) :
    margin (xs.flatMap f) = xs.flatMap (fun x => margin (f x)) :=
  List.filter_flatMap

theorem atMargin_of_isHead {row : String} (h : isHead row = true) : atMargin row = true := by
  have hword : ∀ front : String, front ≠ "" → atMargin front = true →
      startsWith front row = true → atMargin row = true := by
    intro front hne hw hs
    obtain ⟨rest, hrest⟩ := startsWith_iff.mp hs
    have hrow : row = front ++ String.ofList rest := by
      rw [← String.toList_inj, String.toList_append, String.toList_ofList, hrest]
    rw [hrow, atMargin_append hne, hw]
  rcases Bool.or_eq_true_iff.mp h with h | h
  · exact hword "bool " (by decide) (by decide) h
  · exact hword "void " (by decide) (by decide) h

theorem atMargin_of_exports {row : String} (h : exports row = true) : atMargin row = true := by
  simp only [exports, Bool.and_eq_true] at h
  exact h.1.1

theorem isHead_managers (ms : List StubModule) :
    ∀ head ∈ managers ms, ∀ rest : String, isHead (head ++ rest) = true := by
  simp only [managers, List.forall_mem_append, List.mem_flatMap, List.forall_mem_singleton]
  refine ⟨?_, fun rest => by simp [isHead, startsWith]⟩
  rintro head ⟨m, -, hhead⟩ rest
  simp only [moduleManagers, List.mem_cons, List.not_mem_nil, or_false] at hhead
  rcases hhead with rfl | rfl | rfl <;> simp [isHead, startsWith]

theorem isHead_nameSpace (name : String) : isHead (opening ("namespace " ++ name)) = false := by
  simp [isHead, startsWith, opening, List.isPrefixOf]

theorem exports_opening (ms : List StubModule) :
    ∀ head ∈ managers ms, exports (opening head) = true := by
  intro head hhead
  have hhead := isHead_managers ms head hhead (String.ofList [' ', '{'])
  have hback : endsIn (String.ofList [' ', '{']) (opening head) = true := by
    rw [opening, endsIn_append (Nat.le_refl _)]
    decide
  have hstatic : startsWith "static " (opening head) = false := by
    rw [Bool.eq_false_iff]
    intro hs
    rcases Bool.or_eq_true_iff.mp hhead with hb | hb
    all_goals
      rcases List.prefix_or_prefix_of_prefix (startsWith_iff.mp hs) (startsWith_iff.mp hb)
        with h | h
      all_goals
        revert h
        decide
  rw [exports, hback, hstatic, opening, atMargin_of_isHead hhead]
  rfl

theorem nameSpaceOf_line {path : String} (h : '\n' ∉ path.toList) :
    '\n' ∉ (StubUnit.nameSpaceOf path).toList := by
  apply newline_not_mem_lower
  rw [String.toList_ofList, List.mem_map]
  rintro ⟨c, hc, he⟩
  split at he
  · exact absurd he (by decide)
  · exact h (he ▸ hc)

variable {u : StubUnit} {settings : Settings}

/-- The rows of an implementation behind the one that opens its namespace. -/
def blockRows (u : StubUnit) (settings : Settings) : List String :=
  Emit.blank :: ((u.modules.flatMap (StubUnit.lifecycle settings)
    ++ [Section.umbrella u.modules settings.loggingFunction, .nameSpaceClose u.nameSpace]).flatMap
      Section.rows)

theorem implementation_layout (settings : Settings) (hname : '\n' ∉ u.nameSpace.toList) :
    ∃ before, rowsOf (StubPair.ofUnit u settings).implementation =
      before ++ opening ("namespace " ++ u.nameSpace) :: blockRows u settings := by
  have hopen := rows_nameSpaceOpen hname
  refine ⟨(Section.implementationPreamble u.includePath settings.extraHeader).rows
    ++ (Section.externCOpen.rows
      ++ (u.modules.flatMap (fun m => (Section.moduleStubs m settings.exportMark).rows)
        ++ Section.externCClose.rows)), ?_⟩
  rw [rowsOf_implementation]
  simp only [StubUnit.implementationSections, blockRows, List.flatMap_append, List.flatMap_cons,
    List.flatMap_nil, List.flatMap_map, hopen, List.append_nil, List.append_assoc, List.cons_append,
    List.nil_append]

theorem margin_blockRows (hms : u.modules ≠ []) (hu : ∀ s ∈ u.signatures, s.Unbroken)
    (hname : '\n' ∉ u.nameSpace.toList) (hlog : '\n' ∉ settings.loggingFunction.toList) :
    margin (blockRows u settings) =
      (u.modules.flatMap moduleManagers).map opening ++ umbrellaMargin := by
  have hmodule : ∀ m ∈ u.modules, margin ((StubUnit.lifecycle settings m).flatMap Section.rows) =
      (moduleManagers m).map opening := by
    intro m hm
    have hsignatures : ∀ s ∈ m.signatures, s.Unbroken :=
      fun s hs => hu s (List.mem_flatMap.mpr ⟨m, hm, hs⟩)
    rw [margin_flatMap]
    simp only [StubUnit.lifecycle, List.flatMap_cons, List.flatMap_nil,
      margin_readyCheck hsignatures, margin_loader_rows hsignatures hlog,
      margin_unloader_rows hsignatures]
    rfl
  rw [blockRows, margin_cons_of_quiet (by decide), List.flatMap_append, margin_append,
    List.flatMap_assoc, margin_flatMap, List.map_flatMap, List.flatMap_congr hmodule]
  simp only [List.flatMap_cons, List.flatMap_nil, List.append_nil, margin_append,
    margin_umbrella hms hlog, margin_nameSpaceClose hname]

/-- Behind the row that opens a namespace there is no other like it. -/
theorem nameSpace_not_mem (hms : u.modules ≠ []) (hu : ∀ s ∈ u.signatures, s.Unbroken)
    (hname : '\n' ∉ u.nameSpace.toList) (hlog : '\n' ∉ settings.loggingFunction.toList) :
    opening ("namespace " ++ u.nameSpace) ∉ blockRows u settings := by
  intro hmem
  have hmargin : opening ("namespace " ++ u.nameSpace) ∈ margin (blockRows u settings) :=
    List.mem_filter.mpr ⟨hmem, word_opening (by decide) (by decide) _⟩
  rw [margin_blockRows hms hu hname hlog, List.mem_append] at hmargin
  rcases hmargin with hrow | hrow
  · obtain ⟨head, hhead, he⟩ := List.mem_map.mp hrow
    have hfunction :=
      isHead_managers u.modules head (List.mem_append_left _ hhead) (String.ofList [' ', '{'])
    rw [← opening, he, isHead_nameSpace] at hfunction
    cases hfunction
  · have hstart : ∀ row ∈ umbrellaMargin, startsWith "namespace " row = false := by decide
    have hrow := hstart _ hrow
    simp [startsWith, opening] at hrow

/-- The rows of a form that the functions which manage modules have, and nothing else at the margin
but the umbrella function. -/
theorem filter_blockRows (hms : u.modules ≠ []) (hu : ∀ s ∈ u.signatures, s.Unbroken)
    (hname : '\n' ∉ u.nameSpace.toList) (hlog : '\n' ∉ settings.loggingFunction.toList)
    {p : String → Bool} (hp : ∀ row, p row = true → atMargin row = true)
    (hheads : ∀ head ∈ managers u.modules, p (opening head) = true)
    (hrest : umbrellaMargin.filter p = [opening umbrellaHead]) :
    (blockRows u settings).filter p = (managers u.modules).map opening := by
  have hmodules : ((u.modules.flatMap moduleManagers).map opening).filter p =
      (u.modules.flatMap moduleManagers).map opening := by
    apply List.filter_eq_self.mpr
    intro row hrow
    obtain ⟨head, hhead, rfl⟩ := List.mem_map.mp hrow
    exact hheads head (List.mem_append_left _ hhead)
  rw [← filter_margin hp, margin_blockRows hms hu hname hlog, List.filter_append, hmodules, hrest,
    managers, List.map_append]
  rfl

theorem margin_header (hname : '\n' ∉ u.nameSpace.toList) (hguard : '\n' ∉ u.guard.toList)
    (hfile : '\n' ∉ settings.loggingInclude.toList) :
    margin (rowsOf (StubPair.ofUnit u settings).header) =
      opening ("namespace " ++ u.nameSpace) :: ((u.modules.flatMap moduleManagers).map (· ++ ";")
        ++ [ opening "enum StubModules",
          "typedef std::map<StubModules, std::vector<std::string> > StubPathMap;",
          "bool InitializeStubs(const StubPathMap& path_map);" ]) := by
  have hprototypes : margin (u.modules.flatMap (fun m => (Section.prototypes m).rows)) =
      (u.modules.flatMap moduleManagers).map (· ++ ";") := by
    rw [margin_flatMap, List.map_flatMap]
    exact List.flatMap_congr (fun m _ => margin_prototypes m)
  rw [rowsOf_header, StubUnit.headerSections, List.flatMap_append, List.flatMap_append,
    List.flatMap_map, margin_append, margin_append, hprototypes]
  simp only [List.flatMap_cons, List.flatMap_nil, List.append_nil, margin_append,
    margin_headerPreamble hguard hname hfile, margin_umbrellaEnum, margin_umbrellaPrototype,
    margin_headerCloser hguard hname]
  rfl

theorem declared_header (hname : '\n' ∉ u.nameSpace.toList) (hguard : '\n' ∉ u.guard.toList)
    (hfile : '\n' ∉ settings.loggingInclude.toList) :
    (rowsOf (StubPair.ofUnit u settings).header).filter isHead =
      (managers u.modules).map (· ++ ";") := by
  have hmodules : ((u.modules.flatMap moduleManagers).map (· ++ ";")).filter isHead =
      (u.modules.flatMap moduleManagers).map (· ++ ";") := by
    apply List.filter_eq_self.mpr
    intro row hrow
    obtain ⟨head, hhead, rfl⟩ := List.mem_map.mp hrow
    exact isHead_managers u.modules head (List.mem_append_left _ hhead) ";"
  rw [← filter_margin (fun _ => atMargin_of_isHead), margin_header hname hguard hfile,
    List.filter_cons_of_neg (by simp [isHead_nameSpace]), List.filter_append, hmodules, managers,
    List.map_append]
  rfl

theorem bodied_declaration (head : String) : bodied (head ++ ";") = opening head := by
  have hend : endsIn ";" (head ++ ";") = true := by
    rw [endsIn_append (Nat.le_refl _)]
    decide
  rw [bodied, hend, if_pos rfl, String.toList_append]
  simp

/-- For modules with any names and signatures that were read from any lines, a header and an
implementation that agree are generated. -/
theorem generate_agrees {modules : List StubModule} {path stubName : String} {settings : Settings}
    (hms : modules ≠ []) (hread : ∀ m ∈ modules, ∀ s ∈ m.signatures, s.IsRead)
    (hpath : '\n' ∉ path.toList) (haccepted : settings.fault? = none)
    (hlog : '\n' ∉ settings.loggingFunction.toList)
    (hfile : '\n' ∉ settings.loggingInclude.toList) :
    ∃ pair, StubPair.generate settings (.ofModules modules path stubName) = .ok pair ∧
      Agrees (.ofModules modules path stubName) pair.header pair.implementation := by
  set u := StubUnit.ofModules modules path stubName with hunit
  have hgenerate : StubPair.generate settings u = .ok (.ofUnit u settings) :=
    StubPair.generate_of_accepted haccepted hms
  have hu : ∀ s ∈ u.signatures, s.Unbroken := by
    intro s hs
    obtain ⟨m, hm, hs⟩ := List.mem_flatMap.mp hs
    exact (hread m hm s hs).unbroken
  have hname : '\n' ∉ u.nameSpace.toList := nameSpaceOf_line hpath
  have hguard : '\n' ∉ u.guard.toList := by
    simpa [hunit, StubUnit.ofModules] using newline_not_mem_upper (nameSpaceOf_line hpath)
  -- What stands before the namespace is passed over, so the includes need not be read.
  obtain ⟨before, hrows⟩ := implementation_layout settings hname
  have hbehind := behindLast_append before (nameSpace_not_mem hms hu hname hlog)
  rw [← hrows] at hbehind
  have hdeclared := declared_header hname hguard hfile
  have hdefined := filter_blockRows hms hu hname hlog (fun _ => atMargin_of_isHead)
    (fun head hhead => isHead_managers _ head hhead (String.ofList [' ', '{'])) (by decide)
  have hexported := filter_blockRows hms hu hname hlog (fun _ => atMargin_of_exports)
    (exports_opening u.modules) (by decide)
  refine ⟨.ofUnit u settings, hgenerate, ?_⟩
  constructor
  case opened => simp [hrows]
  case same =>
    rw [hbehind, hdeclared, hdefined, List.map_map]
    exact List.map_congr_left (fun head _ => bodied_declaration head)
  case declared => exact hdeclared
  case defined => rw [hbehind, hdefined]
  case exported => rw [hbehind, hexported]

/-- Neither a result type nor texts that look like functions of the namespace get in the way. -/
theorem generate_agrees_of_two :
    (Signature.readLine (opening "bool IsDlInitialized" ++ " bool f2(int a)") .start =
        .ok (some ⟨opening "bool IsDlInitialized" ++ " bool", "f2", ["int a"], none⟩)) ∧
      ∃ pair,
        StubPair.generate
            { exportMark := "X\n" ++ opening "namespace media" ++ "\n" ++ opening "bool Y()" ++ "\n",
              extraHeader := some (opening "namespace media" ++ "\n" ++ opening "void Z()" ++ "\n") }
            (.ofModules
              [ ⟨"dl", [⟨opening "bool IsDlInitialized" ++ " bool", "f2", ["int a"], none⟩]⟩,
                ⟨"", []⟩ ] "Media" "stubs") = .ok pair ∧
          Agrees
            (.ofModules
              [ ⟨"dl", [⟨opening "bool IsDlInitialized" ++ " bool", "f2", ["int a"], none⟩]⟩,
                ⟨"", []⟩ ] "Media" "stubs") pair.header pair.implementation := by
  have hline : Signature.readLine (opening "bool IsDlInitialized" ++ " bool f2(int a)") .start =
      .ok (some ⟨opening "bool IsDlInitialized" ++ " bool", "f2", ["int a"], none⟩) := by rfl
  refine ⟨hline, generate_agrees (by decide) ?_ (by decide) (by decide) (by decide) (by decide)⟩
  intro m hm s hs
  simp only [List.mem_cons, List.not_mem_nil, or_false] at hm
  rcases hm with rfl | rfl
  · obtain rfl := List.mem_singleton.mp hs
    exact ⟨_, _, hline⟩
  · cases hs

end LinkStubs.Agreement
