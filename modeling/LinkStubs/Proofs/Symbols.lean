import LinkStubs.Proofs.Identifiers
import LinkStubs.Proofs.Listing
import LinkStubs.Proofs.Source
import Mathlib.Data.List.Forall2

/-!
The symbols of a module. The functions that load, test and clear the pointers of a module are read
as listings; each names the symbols that the module's source declares, in the order of its lines.
-/

namespace LinkStubs.Symbols

open LinkStubs.Emit LinkStubs.Identifier LinkStubs.Listing LinkStubs.Signature LinkStubs.Text

/-- A symbol's load: the pointer that takes the place found, the symbol that is looked up, and the
pointer that is tested next. -/
structure Load where
  pointer : String
  symbol : String
  tested : String
  deriving DecidableEq, Repr

/-- The load on four rows: an assignment over three of them, and a test. -/
def load? (target cast lookup test : String) : Option Load := do
  let pointer ← framed? "  " " =" target
  let _ ← framed? "    reinterpret_cast<" ">(" cast
  let symbol ← framed? "      dlsym(module, \"" "\"));" lookup
  let tested ← framed? "  if (!" (opening ")") test
  return ⟨pointer, symbol, tested⟩

/-- The loads of a listing, in order. -/
def loads : List String → List Load
  | [] => []
  | target :: rows =>
    match rows with
    | cast :: lookup :: test :: _ => (load? target cast lookup test).toList ++ loads rows
    | _ => []

/-- The functions that manage a module name these symbols and no others, in this order. -/
structure Manages (m : StubModule) (log : String) (names : List String) : Prop where
  /-- Unloading resets one pointer after another. -/
  cleared : entries "  " "_ptr = NULL;" (Section.unloader m).rows = names
  /-- Loading looks up one symbol after another. -/
  sought : entries "      dlsym(module, \"" "\"));" (Section.loader m log).rows = names
  /-- Loading tests one pointer after another. -/
  judged : entries "  if (!" (opening "_ptr)") (Section.loader m log).rows = names
  /-- What is looked up is assigned to the pointer of its name, and that pointer is tested. -/
  loaded : loads (Section.loader m log).rows =
    names.map (fun name => ⟨name ++ "_ptr", name, name ++ "_ptr"⟩)
  /-- The test joins the pointers, and for want of any it is always met. -/
  tested : (condition? (Section.readyCheck m).rows).map (operands " &&") =
    some (if names.isEmpty then ["true"] else names.map (· ++ "_ptr"))

theorem loadSymbol_eq (log : String) (s : Signature) :
    loadSymbol log s =
      [ "  " ++ s.name ++ "_ptr =",
        "    reinterpret_cast<" ++ s.returnType ++ " (*)(" ++ s.joinedParams ++ ")>(",
        "      dlsym(module, \"" ++ s.name ++ "\"));",
        "  if (!" ++ s.name ++ opening "_ptr)",
        "    " ++ log ++ " << \"Couldn't load " ++ s.name ++ ", dlerror() says:\\n\"",
        "      << dlerror();",
        "  " ++ closing ] := by
  simp only [loadSymbol, pointerName, quoted, opening, closing, List.cons.injEq, ← String.toList_inj,
    String.toList_append, toList_literal, List.append_assoc, List.cons_append, List.nil_append,
    and_self]

theorem loads_cons_of_none {row : String} (h : framed? "  " " =" row = none)
    (rows : List String) : loads (row :: rows) = loads rows := by
  match rows with
  | [] | [_] | [_, _] => rfl
  | cast :: lookup :: test :: rest => simp [loads, load?, h]

/-- A row that ends otherwise starts no load. -/
theorem loads_cons_of_end {a b : String} (h : Apart " =" b) (rows : List String) :
    loads ((a ++ b) :: rows) = loads rows :=
  loads_cons_of_none (framed?_of_end h) rows

/-- The rows of one symbol hold one load, and the rows behind them begin anew. -/
theorem loads_loadSymbol (log : String) (s : Signature) (rows : List String) :
    loads (loadSymbol log s ++ rows) =
      ⟨s.name ++ "_ptr", s.name, s.name ++ "_ptr"⟩ :: loads rows := by
  have htarget : framed? "  " " =" ("  " ++ s.name ++ "_ptr =") = some (s.name ++ "_ptr") :=
    framed?_eq_some_iff.mpr (by rw [← String.toList_inj]; simp)
  have hcast : framed? "    reinterpret_cast<" ">("
      ("    reinterpret_cast<" ++ s.returnType ++ " (*)(" ++ s.joinedParams ++ ")>(") =
        some (s.returnType ++ " (*)(" ++ s.joinedParams ++ ")") :=
    framed?_eq_some_iff.mpr (by rw [← String.toList_inj]; simp)
  have htest : framed? "  if (!" (opening ")") ("  if (!" ++ s.name ++ opening "_ptr)") =
      some (s.name ++ "_ptr") :=
    framed?_eq_some_iff.mpr (by rw [← String.toList_inj]; simp [opening])
  have hload : load? ("  " ++ s.name ++ "_ptr =")
      ("    reinterpret_cast<" ++ s.returnType ++ " (*)(" ++ s.joinedParams ++ ")>(")
      ("      dlsym(module, \"" ++ s.name ++ "\"));") ("  if (!" ++ s.name ++ opening "_ptr)") =
        some ⟨s.name ++ "_ptr", s.name, s.name ++ "_ptr"⟩ := by
    simp [load?, htarget, hcast, htest]
  simp only [loadSymbol_eq, List.cons_append, List.nil_append]
  rw [loads]
  simp only [hload, Option.toList_some, List.singleton_append]
  rw [loads_cons_of_end (by decide), loads_cons_of_end (by decide), loads_cons_of_end (by decide),
    loads_cons_of_end (by decide), loads_cons_of_none (by decide), loads_cons_of_none (by decide)]

theorem loads_flatMap (log : String) (ss : List Signature) (rows : List String) :
    loads (ss.flatMap (loadSymbol log) ++ rows) =
      ss.map (fun s => ⟨s.name ++ "_ptr", s.name, s.name ++ "_ptr"⟩) ++ loads rows := by
  induction ss with
  | nil => rfl
  | cons s ss ih =>
    rw [List.flatMap_cons, List.append_assoc, loads_loadSymbol, ih, List.map_cons, List.cons_append]

theorem entries_lookups (log : String) (s : Signature) :
    entries "      dlsym(module, \"" "\"));" (loadSymbol log s) = [s.name] := by
  rw [loadSymbol_eq, entries_cons_of_end (by decide), entries_cons_of_end (by decide),
    entries_cons_frame, entries_cons_of_end (by decide), entries_cons_of_end (by decide)]
  rfl

theorem entries_tests (log : String) (s : Signature) :
    entries "  if (!" (opening "_ptr)") (loadSymbol log s) = [s.name] := by
  rw [loadSymbol_eq, entries_cons_of_end (by decide), entries_cons_of_end (by decide),
    entries_cons_of_end (by decide), entries_cons_frame, entries_cons_of_end (by decide)]
  rfl

theorem entries_flatMap {front back : String} {f : Signature → List String} {ss : List Signature}
    (h : ∀ s ∈ ss, entries front back (f s) = [s.name]) :
    entries front back (ss.flatMap f) = ss.map (·.name) := by
  induction ss with
  | nil => rfl
  | cons s ss ih =>
    rw [List.flatMap_cons, entries_append, h s List.mem_cons_self,
      ih (fun t ht => h t (List.mem_cons_of_mem s ht)), List.map_cons, List.singleton_append]

variable {m : StubModule} {log : String}

theorem loader_oneLine (hm : ∀ s ∈ m.signatures, s.Unbroken) (hlog : '\n' ∉ log.toList) :
    ∀ row ∈ (Section.loader m log).lines, OneLine row := by
  have hname : '\n' ∉ m.identifiers.loader.toList := (loader_identText m.name).not_mem (by decide)
  intro row hrow
  simp only [Section.lines, Emit.loader, List.mem_append, List.mem_flatMap, List.mem_cons,
    List.not_mem_nil, or_false] at hrow
  rcases hrow with ((rfl | rfl) | ⟨s, hs, hrow⟩) | rfl | rfl
  · exact OneLine.append (by decide) (OneLine.of_literal (by decide)) (by decide)
  · exact OneLine.append (by simp [hname]) (by decide) (by decide)
  · have hsname := (hm s hs).name_line
    simp only [loadSymbol_eq, List.mem_cons, List.not_mem_nil, or_false] at hrow
    rcases hrow with rfl | rfl | rfl | rfl | rfl | rfl | rfl
    · exact OneLine.append (by simp [hsname]) (by decide) (by decide)
    · exact OneLine.append (by simp [(hm s hs).result, (hm s hs).joinedParams]) (by decide)
        (by decide)
    · exact OneLine.append (by simp [hsname]) (by decide) (by decide)
    · exact OneLine.append (by simp [hsname]) (by decide) (by decide)
    · exact OneLine.append (by simp [hsname, hlog]) (by decide) (by decide)
    · decide
    · decide
  · decide
  · decide

theorem unloader_oneLine (hm : ∀ s ∈ m.signatures, s.Unbroken) :
    ∀ row ∈ (Section.unloader m).lines, OneLine row := by
  have hname : '\n' ∉ m.identifiers.unloader.toList :=
    (unloader_identText m.name).not_mem (by decide)
  intro row hrow
  simp only [Section.lines, Emit.unloader, List.mem_append, List.mem_map, List.mem_cons,
    List.not_mem_nil, or_false] at hrow
  rcases hrow with ((rfl | rfl) | ⟨s, hs, rfl⟩) | rfl | rfl
  · exact OneLine.append (by decide) (OneLine.of_literal (by decide)) (by decide)
  · exact OneLine.append (by simp [hname]) (by decide) (by decide)
  · exact OneLine.append (by simp [pointerName, (hm s hs).name_line]) (by decide) (by decide)
  · decide
  · decide

def terms (names : List String) : List String :=
  if names.isEmpty then ["true"] else names.map (· ++ "_ptr")

theorem allLoaded_eq (m : StubModule) :
    allLoaded m = (" &&" ++ "\n      ").intercalate (terms (m.signatures.map (·.name))) := by
  cases h : m.signatures with
  | nil => simp [allLoaded, h, terms]
  | cons s ss => simp [allLoaded, h, terms, pointerName, Function.comp_def]

/-- The test of a module, with its condition spread over rows. -/
theorem text_readyCheck (m : StubModule) :
    (Section.readyCheck m).text = unlines
      ([comment "Returns true if all stubs have been properly initialized.",
          opening ("bool " ++ m.identifiers.readyCheck ++ "()")]
        ++ (headRows " &&" ifFront (terms (m.signatures.map (·.name)))
          ++ ["    return true;", opening ("  " ++ closing ++ " else"), "    return false;",
            "  " ++ closing, closing, blank])) := by
  rw [← unlines_condition, ← allLoaded_eq]
  rfl

theorem terms_ne_nil (names : List String) : terms names ≠ [] := by
  cases names <;> simp [terms]

/-- Terms are made of the characters of identifiers. -/
theorem terms_identText {names : List String} (h : ∀ name ∈ names, IsName name.toList) :
    ∀ t ∈ terms names, t ≠ "" ∧ IdentText t := by
  intro t ht
  cases names with
  | nil =>
    obtain rfl : t = "true" := by simpa [terms] using ht
    decide
  | cons name names =>
    obtain ⟨n, hn, rfl⟩ := List.mem_map.mp (show t ∈ (name :: names).map (· ++ "_ptr") from ht)
    refine ⟨fun he => ?_, IdentText.append (h n hn).identChar (by decide)⟩
    have hl := congrArg String.toList he
    simp at hl

theorem names_isName (hm : ∀ s ∈ m.signatures, s.Unbroken) :
    ∀ name ∈ m.signatures.map (·.name), IsName name.toList := by
  intro name hname
  obtain ⟨s, hs, rfl⟩ := List.mem_map.mp hname
  exact (hm s hs).name

theorem rows_readyCheck (hm : ∀ s ∈ m.signatures, s.Unbroken) :
    (Section.readyCheck m).rows =
      [comment "Returns true if all stubs have been properly initialized.",
          opening ("bool " ++ m.identifiers.readyCheck ++ "()")]
        ++ (headRows " &&" ifFront (terms (m.signatures.map (·.name)))
          ++ ["    return true;", opening ("  " ++ closing ++ " else"), "    return false;",
            "  " ++ closing, closing, blank]) := by
  have hterms := terms_identText (names_isName hm)
  have hcheck : '\n' ∉ m.identifiers.readyCheck.toList :=
    (readyCheck_identText m.name).not_mem (by decide)
  have hhead : ∀ row ∈ headRows " &&" ifFront (terms (m.signatures.map (·.name))), OneLine row :=
    headRows_oneLine (by decide) (by decide) (by decide) (terms_ne_nil _)
      (fun t ht => (hterms t ht).2.not_mem (by decide))
  apply rows_of_text (text_readyCheck m)
  intro row hrow
  rw [List.mem_append, List.mem_append] at hrow
  rcases hrow with hrow | hrow | hrow
  · simp only [List.mem_cons, List.not_mem_nil, or_false] at hrow
    rcases hrow with rfl | rfl
    · exact OneLine.append (by decide) (OneLine.of_literal (by decide)) (by decide)
    · exact OneLine.append (by simp [hcheck]) (by decide) (by decide)
  · exact hhead row hrow
  · revert row
    simp only [closing, opening, Emit.blank, OneLine, List.forall_mem_cons, String.toList_append,
      toList_literal]
    decide

/-- The test of a module reads as a conjunction of its pointers. -/
theorem condition?_readyCheck (hm : ∀ s ∈ m.signatures, s.Unbroken) :
    (condition? (Section.readyCheck m).rows).map (operands " &&") =
      some (terms (m.signatures.map (·.name))) := by
  have hterms := terms_identText (names_isName hm)
  have hbefore : ∀ row ∈ [comment "Returns true if all stubs have been properly initialized.",
      opening ("bool " ++ m.identifiers.readyCheck ++ "()")], startsWith ifFront row = false := by
    simp [startsWith, ifFront, comment, Writer.commentText, opening, List.isPrefixOf]
  rw [rows_readyCheck hm, condition?_of_layout (by decide) (by decide) hbefore, Option.map_some,
    operands_intercalate rfl (terms_ne_nil _)]
  intro t ht
  refine ⟨(hterms t ht).1, fun c hc => not_blank_of_identChar ((hterms t ht).2 c hc)⟩

theorem entries_unloader (m : StubModule) :
    entries "  " "_ptr = NULL;" (Section.unloader m).lines = m.signatures.map (·.name) := by
  have hrow : ∀ s : Signature, framed? "  " "_ptr = NULL;" ("  " ++ s.pointerName ++ " = NULL;") =
      some s.name := fun s =>
    framed?_eq_some_iff.mpr (by rw [← String.toList_inj]; simp [pointerName])
  have hhead : entries "  " "_ptr = NULL;"
      [comment "Uninitialize the module stubs.  Reset pointers to NULL.",
        opening ("void " ++ m.identifiers.unloader ++ "()")] = [] := by
    rw [entries_cons_of_none (by decide), opening, entries_cons_of_end (by decide)]
    rfl
  have hrest : entries "  " "_ptr = NULL;" [closing, blank] = [] := by decide
  simp only [Section.lines, Emit.unloader, entries_append, hhead, hrest, List.nil_append,
    List.append_nil]
  rw [entries, List.filterMap_map, ← List.filterMap_eq_map]
  exact congrArg (List.filterMap · m.signatures) (funext hrow)

theorem entries_loader {front back : String}
    (h : ∀ s, entries front back (loadSymbol log s) = [s.name])
    (hhead : entries front back [comment "Initializes the module stubs.",
      opening ("void " ++ m.identifiers.loader ++ "(void* module)")] = [])
    (hrest : entries front back [closing, blank] = []) :
    entries front back (Section.loader m log).lines = m.signatures.map (·.name) := by
  simp only [Section.lines, Emit.loader, entries_append, hhead, hrest, List.nil_append,
    List.append_nil]
  exact entries_flatMap (fun s _ => h s)

theorem loads_loader (m : StubModule) (log : String) :
    loads (Section.loader m log).lines =
      m.signatures.map (fun s => ⟨s.name ++ "_ptr", s.name, s.name ++ "_ptr"⟩) := by
  simp only [Section.lines, Emit.loader, List.cons_append, List.nil_append]
  rw [loads_cons_of_none (by decide), opening, loads_cons_of_end (by decide), loads_flatMap]
  exact List.append_nil _

/-- The functions that manage a module name the symbols of its signatures. -/
theorem manages_of_unbroken (hm : ∀ s ∈ m.signatures, s.Unbroken) (hlog : '\n' ∉ log.toList) :
    Manages m log (m.signatures.map (·.name)) := by
  have hloader : (Section.loader m log).rows = (Section.loader m log).lines :=
    rows_of_text rfl (loader_oneLine hm hlog)
  have hunloader : (Section.unloader m).rows = (Section.unloader m).lines :=
    rows_of_text rfl (unloader_oneLine hm)
  refine ⟨?_, ?_, ?_, ?_, condition?_readyCheck hm⟩
  · rw [hunloader, entries_unloader]
  · rw [hloader]
    apply entries_loader (entries_lookups log)
    · rw [entries_cons_of_none (by decide), opening, entries_cons_of_end (by decide)]
      rfl
    · decide
  · rw [hloader]
    apply entries_loader (entries_tests log)
    · rw [entries_cons_of_none (by decide),
        entries_cons_of_none (framed?_of_start (by simp [startsWith, opening, List.isPrefixOf]))]
      rfl
    · decide
  · rw [hloader, loads_loader, List.map_map]
    rfl

/-- In a unit of modules that are read from sources, every module is managed by the names that its
source declares, whatever else stands on the lines of the source. -/
theorem managed_symbols {modules : List StubModule} {sources : List String}
    (h : List.Forall₂ StubModule.ReadFrom modules sources)
    (sourcePath stubName : String) {log : String} (hlog : '\n' ∉ log.toList) :
    List.Forall₂ (fun m source => Manages m log (declaredNames source))
      (StubUnit.ofModules modules sourcePath stubName).modules sources := by
  apply h.imp
  intro m source hread
  rw [← declaredNames_of_readSource hread]
  exact manages_of_unbroken (fun s hs => (normal_of_readSource hread s hs).unbroken) hlog

/-- A name that is declared twice is loaded, tested and cleared twice, and a return type that looks
like a row of a listing is no such row. -/
theorem managed_symbols_of_two :
    List.Forall₂ StubModule.ReadFrom
        [ ⟨"lib.foo", [⟨"int", "f2", ["int a"], none⟩,
            ⟨"x_ptr = NULL; T *", "g_3", ["void"], none⟩, ⟨"int", "f2", [""], none⟩]⟩,
          ⟨"", []⟩ ]
        ["int f2(int a)\r\n\nx_ptr = NULL; T *g_3 (void) ;\nint f2()", "# none"] ∧
      '\n' ∉ "  dlsym(module, \"a\"));".toList ∧
      List.Forall₂ (Manages · "  dlsym(module, \"a\"));")
        [ ⟨"lib.foo", [⟨"int", "f2", ["int a"], none⟩,
            ⟨"x_ptr = NULL; T *", "g_3", ["void"], none⟩, ⟨"int", "f2", [""], none⟩]⟩,
          ⟨"", []⟩ ]
        [["f2", "g_3", "f2"], []] := by
  have hread : List.Forall₂ StubModule.ReadFrom
      [ ⟨"lib.foo", [⟨"int", "f2", ["int a"], none⟩,
          ⟨"x_ptr = NULL; T *", "g_3", ["void"], none⟩, ⟨"int", "f2", [""], none⟩]⟩,
        ⟨"", []⟩ ]
      ["int f2(int a)\r\n\nx_ptr = NULL; T *g_3 (void) ;\nint f2()", "# none"] :=
    .cons rfl (.cons rfl .nil)
  have hlog : '\n' ∉ "  dlsym(module, \"a\"));".toList := by decide
  refine ⟨hread, hlog, ?_⟩
  have hnames : ["int f2(int a)\r\n\nx_ptr = NULL; T *g_3 (void) ;\nint f2()", "# none"].map
      declaredNames = [["f2", "g_3", "f2"], []] := by rfl
  rw [← hnames, List.forall₂_map_right_iff]
  exact managed_symbols hread "" "" hlog

end LinkStubs.Symbols
