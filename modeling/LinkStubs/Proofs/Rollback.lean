import LinkStubs.Proofs.Identifiers
import LinkStubs.Proofs.Listing
import Mathlib.Data.List.Chain

/-!
The umbrella function as a listing: it opens everything before it loads anything, every failing
return comes right behind the call that closes the libraries, and where the final check fails every
module is unloaded before that.
-/

namespace LinkStubs.Umbrella

open LinkStubs.Emit LinkStubs.Identifier LinkStubs.Listing LinkStubs.Signature LinkStubs.Text

def closingCall : String := "CloseLibraries(&opened_libraries);"

def failure : String := "return false;"

def success : String := "return true;"

/-- What a row does to the outcome. -/
inductive Mark where
  | closing
  | failure
  | success
  | other
  deriving DecidableEq, Repr

/-- The mark of a row, by its text without the indentation. -/
def mark (row : String) : Mark :=
  if trim row.toList = closingCall.toList then .closing
  else if trim row.toList = failure.toList then .failure
  else if trim row.toList = success.toList then .success
  else .other

/-- A failing return stands behind the closing call. -/
def Closes (above m : Mark) : Prop :=
  m = .failure → above = .closing

instance Closes.decidable (above m : Mark) : Decidable (Closes above m) :=
  inferInstanceAs (Decidable (_ → _))

/-- A row that returns, whatever it returns. -/
def returns (row : String) : Bool :=
  "return".toList.isPrefixOf (trim row.toList)

/-- A row with the text of a call that opens a library. -/
def Opens (row : String) : Prop :=
  "dlopen(".toList <:+: row.toList

/-- A call that loads a module from the library kept at a place. -/
def loadCall (function place : String) : String :=
  "  " ++ function ++ "(opened_libraries[" ++ place ++ "]);"

def loadCalls (ms : List StubModule) : List String :=
  ms.map (fun m => loadCall m.identifiers.loader m.identifiers.enumerator)

def unloadCalls (ms : List StubModule) : List String :=
  ms.map (fun m => "    " ++ m.identifiers.unloader ++ "();")

def terms (ms : List StubModule) : List String :=
  ms.map (fun m => "!" ++ m.identifiers.readyCheck ++ "()")

/-- Every module is loaded from an opened library, or else everything is undone. -/
structure RollsBack (ms : List StubModule) (rows opened gap rest : List String) : Prop where
  /-- Behind the opening stand the loads, the check, and the unloads for where it fails. -/
  layout : rows = opened ++ loadCalls ms ++ gap ++ ifHead rows ++ unloadCalls ms ++ rest
  failures : (rows.map mark).count .failure = 3
  failures_opening : (opened.map mark).count .failure = 2
  /-- The mark in front stands for there being no row, so that a failing return is never first. -/
  failures_close : (Mark.other :: rows.map mark).IsChain Closes
  successes : (rows.map mark).count .success = 1
  success_last : (rows.map mark).Pairwise (fun above m => above = .success → m ≠ .failure)
  /-- No other row is a load, however it is read. -/
  loads_only : ∀ row ∈ opened ++ gap ++ ifHead rows ++ unloadCalls ms ++ rest,
    ∀ function place : String, row ≠ loadCall function place
  loads_read : ∀ m ∈ ms, ∀ function place : String,
    loadCall m.identifiers.loader m.identifiers.enumerator = loadCall function place →
      function = m.identifiers.loader ∧ place = m.identifiers.enumerator
  /-- Behind the opening, only calls of a module's own functions can read like one that opens. -/
  opens_first : ∀ row ∈ gap ++ ifHead rows ++ rest, ¬ Opens row
  no_return : ∀ row ∈ loadCalls ms ++ gap, returns row = false
  check : (condition? rows).map (operands " ||") = some (terms ms)
  check_only : ∀ row ∈ opened ++ loadCalls ms ++ gap ++ unloadCalls ms ++ rest,
    startsWith ifFront row = false
  /-- The closing call behind the unloads is the third. -/
  closes : ((opened ++ loadCalls ms ++ gap ++ ifHead rows ++ unloadCalls ms).map mark).count
    .closing = 2
  closes_last : (rest.map mark).head? = some .closing

def openingRows (log : String) : List String :=
  closeLibraries ++ openLibraries log
    ++ ["  // Initialize each module if we have not already failed."]

def gapRows : List String :=
  [ Emit.blank,
    "  // Check that each module is initialized correctly.",
    "  // Close all previously opened libraries on failure." ]

def closingRows : List String :=
  [ "    CloseLibraries(&opened_libraries);",
    "    return false;",
    "  " ++ Emit.closing,
    Emit.blank,
    "  return true;",
    Emit.closing ]

theorem text_umbrella (ms : List StubModule) (log : String) :
    (Section.umbrella ms log).text = unlines
      ((openingRows log ++ loadCalls ms ++ gapRows)
        ++ (headRows " ||" ifFront (terms ms) ++ (unloadCalls ms ++ closingRows))) := by
  have hsep : " ||\n      " = " ||" ++ "\n      " := by decide
  rw [← unlines_condition, Section.text]
  apply congrArg unlines
  simp only [Section.lines, umbrella, loadAndCheck, openingRows, gapRows, closingRows, loadCalls,
    unloadCalls, loadCall, someNotReady, terms, hsep, List.append_assoc, List.cons_append,
    List.nil_append]

def logRows (log : String) : List String :=
  [ "        " ++ log ++ " << \"dlopen(\" << dso_path->c_str() << \") failed.\";",
    "        " ++ log ++ " << \"dlerror() says:\\n\" << dlerror();" ]

def rowsBeforeLog : List String :=
  closeLibraries ++ (openLibraries "").take 22

def rowsAfterLog : List String :=
  (openLibraries "").drop 24 ++ ["  // Initialize each module if we have not already failed."]

theorem openingRows_eq (log : String) :
    openingRows log = rowsBeforeLog ++ logRows log ++ rowsAfterLog := rfl

/-- A single row that is neither a load nor the head of the check. -/
def Plain (row : String) : Prop :=
  OneLine row ∧ endsIn "]);" row = false ∧ startsWith ifFront row = false

theorem plain_fixedRows : ∀ row ∈ rowsBeforeLog ++ rowsAfterLog ++ gapRows ++ closingRows,
    Plain row := by
  suffices h : ∀ cs ∈ (rowsBeforeLog ++ rowsAfterLog ++ gapRows ++ closingRows).map String.toList,
      ('\n' ∉ cs ∧ cs.getLast? ≠ some '\r') ∧ "]);".toList.isSuffixOf cs = false ∧
        ifFront.toList.isPrefixOf cs = false from
    fun row hrow => h row.toList (List.mem_map_of_mem hrow)
  simp only [rowsBeforeLog, rowsAfterLog, closeLibraries, openLibraries, gapRows, closingRows,
    moduleCount, umbrellaHead, opening, Emit.closing, Emit.blank, List.take_succ_cons,
    List.take_zero, List.drop_succ_cons, List.drop_zero, List.cons_append, List.nil_append,
    List.map_cons, List.map_nil, ifFront, String.toList_append, toList_literal]
  decide

theorem plain_logRows {log : String} (hlog : '\n' ∉ log.toList) :
    ∀ row ∈ logRows log, Plain row := by
  simp only [logRows, List.forall_mem_cons, List.not_mem_nil, false_implies, implies_true, and_true]
  refine ⟨⟨OneLine.append ?_ (by decide) (by decide),
    Apart.endsIn_append (by decide) _, ?_⟩,
    OneLine.append ?_ (by decide) (by decide),
    Apart.endsIn_append (by decide) _, ?_⟩
  · simp [hlog]
  · simp [startsWith, ifFront, List.isPrefixOf]
  · simp [hlog]
  · simp [startsWith, ifFront, List.isPrefixOf]

theorem plain_unloadCalls (ms : List StubModule) : ∀ row ∈ unloadCalls ms, Plain row := by
  intro row hrow
  obtain ⟨m, -, rfl⟩ := List.mem_map.mp hrow
  have hname : '\n' ∉ m.identifiers.unloader.toList :=
    (unloader_identText m.name).not_mem (by decide)
  refine ⟨OneLine.append (by simp [hname]) (by decide) (by decide),
    Apart.endsIn_append (by decide) _, ?_⟩
  simp [startsWith, ifFront, List.isPrefixOf]

theorem loadCalls_row (ms : List StubModule) :
    ∀ row ∈ loadCalls ms, OneLine row ∧ startsWith ifFront row = false ∧ returns row = false := by
  intro row hrow
  obtain ⟨m, -, rfl⟩ := List.mem_map.mp hrow
  have hload : '\n' ∉ m.identifiers.loader.toList :=
    (loader_identText m.name).not_mem (by decide)
  have hplace : '\n' ∉ m.identifiers.enumerator.toList :=
    (enumerator_identText m.name).not_mem (by decide)
  obtain ⟨rest, he⟩ : ∃ rest, (loadCall m.identifiers.loader m.identifiers.enumerator).toList =
      ' ' :: ' ' :: 'I' :: rest := by
    simp [loadCall, StubModule.identifiers, Identifier.Family.ofModule, Identifier.loader]
  refine ⟨OneLine.append (by simp [hload, hplace]) (by decide) (by decide), ?_, ?_⟩
  · simp [startsWith, ifFront, he, List.isPrefixOf]
  · have hstart : trim ('I' :: rest) <+: 'I' :: rest := trim_starts (by simp; decide)
    rw [returns, he, trim_cons_blank (by decide), trim_cons_blank (by decide), Bool.eq_false_iff]
    intro hp
    have hreturn := (List.isPrefixOf_iff_prefix.mp hp).trans hstart
    simp at hreturn

/-- A term of the check stands on a row of its own. -/
theorem headRows_row {ms : List StubModule} (hms : ms ≠ []) :
    ∀ row ∈ headRows " ||" ifFront (terms ms), ∃ start back : String, ∃ m ∈ ms,
      row = start ++ "!" ++ m.identifiers.readyCheck ++ "()" ++ back ∧
        (start = ifFront ∨ start = "      ") ∧ (back = " ||" ∨ back = ifBack) := by
  intro row hrow
  obtain ⟨start, term, back, rfl, hs, hterm, hb⟩ := mem_headRows hrow (by simpa [terms] using hms)
  obtain ⟨m, hm, rfl⟩ := List.mem_map.mp hterm
  exact ⟨start, back, m, hm, by simp only [String.append_assoc], hs, hb⟩

theorem endsIn_loadCall (function place : String) :
    endsIn "]);" (loadCall function place) = true := by
  rw [loadCall, endsIn_append (Nat.le_refl _)]
  decide

theorem ne_loadCall {row : String} (h : endsIn "]);" row = false) (function place : String) :
    row ≠ loadCall function place := by
  rintro rfl
  rw [endsIn_loadCall] at h
  cases h

/-- The rows of the check end in its operator, and the last in what opens the block. -/
theorem endsIn_headRows {text : String} (hop : Apart text " ||") (hif : Apart text ifBack)
    {ms : List StubModule} (hms : ms ≠ []) :
    ∀ row ∈ headRows " ||" ifFront (terms ms), endsIn text row = false := by
  intro row hrow
  obtain ⟨start, back, m, -, rfl, -, hb⟩ := headRows_row hms row hrow
  rcases hb with rfl | rfl
  · exact hop.endsIn_append _
  · exact hif.endsIn_append _

/-- A term is not empty and has no blanks. -/
theorem terms_solid (ms : List StubModule) :
    ∀ t ∈ terms ms, t ≠ "" ∧ ∀ c ∈ t.toList, isBlank c = false := by
  intro t ht
  obtain ⟨m, -, rfl⟩ := List.mem_map.mp ht
  refine ⟨fun he => ?_, fun c hc => ?_⟩
  · have hl := congrArg String.toList he
    simp at hl
  · simp only [String.toList_append, toList_literal, List.mem_append, List.mem_cons,
      List.not_mem_nil, or_false] at hc
    rcases hc with (rfl | hc) | rfl | rfl
    · decide
    · exact not_blank_of_identChar (readyCheck_identText m.name c hc)
    · decide
    · decide

/-- A call with identifiers for function and place has one bracket, so it is read in one way. -/
theorem loadCall_read {function place f p : String} (hf : IdentText function)
    (hp : IdentText place) (h : loadCall function place = loadCall f p) :
    f = function ∧ p = place := by
  have hff : '(' ∉ function.toList := hf.not_mem (by decide)
  have hpp : '(' ∉ place.toList := hp.not_mem (by decide)
  have hchars :
      function.toList ++ '(' :: ("opened_libraries[".toList ++ place.toList ++ "]);".toList) =
        f.toList ++ '(' :: ("opened_libraries[".toList ++ p.toList ++ "]);".toList) := by
    simpa [loadCall] using congrArg String.toList h
  have hcount : 1 = f.toList.count '(' + (p.toList.count '(' + 1) := by
    simpa [List.count_eq_zero_of_not_mem hff, List.count_eq_zero_of_not_mem hpp] using
      congrArg (List.count '(') hchars
  have hone : '(' ∉ f.toList := List.count_eq_zero.mp (by omega)
  obtain ⟨hfun, hrest⟩ := append_cons_cancel hff hone hchars
  refine ⟨String.toList_inj.mp hfun.symm, String.toList_inj.mp ?_⟩
  simpa using hrest.symm

/-- An end that no marked row has. -/
def Unmarked (back : String) : Prop :=
  back.toList.getLast?.any isBlank = false ∧
    ∀ text ∈ [closingCall, failure, success], Apart text back

theorem unmarked_ends : ∀ back ∈ ["]);", "();", " ||", ifBack,
    " << \"dlopen(\" << dso_path->c_str() << \") failed.\";",
    " << \"dlerror() says:\\n\" << dlerror();"], Unmarked back := by
  simp only [Unmarked, Apart, closingCall, failure, success, ifBack, endsIn, List.forall_mem_cons,
    List.not_mem_nil, false_implies, implies_true, and_true, toList_literal]
  decide

/-- How a row ends decides that it has no mark. -/
theorem mark_append {back : String} (hb : Unmarked back) (front : String) :
    mark (front ++ back) = .other := by
  have hne : back.toList ≠ [] := by
    intro he
    have hends := (hb.2 failure (by simp)).2
    simp [endsIn, he] at hends
  have hlast : ∀ c ∈ (front ++ back).toList.getLast?, isBlank c = false := by
    rw [String.toList_append, List.getLast?_append_of_ne_nil _ hne]
    intro c hc
    have hblank := hb.1
    rw [Option.mem_def.mp hc] at hblank
    exact hblank
  have htext : ∀ text ∈ [closingCall, failure, success],
      trim (front ++ back).toList ≠ text.toList := by
    intro text ht he
    have hs : endsIn text (front ++ back) = true := endsIn_iff.mpr (he ▸ trim_ends hlast)
    rw [(hb.2 text ht).endsIn_append] at hs
    cases hs
  simp only [List.forall_mem_cons] at htext
  rw [mark, if_neg htext.1, if_neg htext.2.1, if_neg htext.2.2.1]

theorem mark_loadCalls (ms : List StubModule) : ∀ row ∈ loadCalls ms, mark row = .other := by
  intro row hrow
  obtain ⟨m, -, rfl⟩ := List.mem_map.mp hrow
  exact mark_append (unmarked_ends _ (by simp)) _

theorem mark_unloadCalls (ms : List StubModule) : ∀ row ∈ unloadCalls ms, mark row = .other := by
  intro row hrow
  obtain ⟨m, -, rfl⟩ := List.mem_map.mp hrow
  exact mark_append (unmarked_ends _ (by simp)) _

theorem mark_headRows {ms : List StubModule} (hms : ms ≠ []) :
    ∀ row ∈ headRows " ||" ifFront (terms ms), mark row = .other := by
  intro row hrow
  obtain ⟨start, back, m, -, rfl, -, hb⟩ := headRows_row hms row hrow
  apply mark_append
  rcases hb with rfl | rfl
  · exact unmarked_ends _ (by simp)
  · exact unmarked_ends _ (by simp)

def openingMarks : List Mark :=
  List.replicate 19 Mark.other ++ [Mark.closing, Mark.failure] ++ List.replicate 19 Mark.other
    ++ [Mark.closing, Mark.failure] ++ List.replicate 4 Mark.other

def closingMarks : List Mark := [.closing, .failure, .other, .other, .success, .other]

theorem marks_openingRows (log : String) : (openingRows log).map mark = openingMarks := by
  have hlog : (logRows log).map mark = [.other, .other] := by
    simp only [logRows, List.map_cons, List.map_nil]
    rw [mark_append (unmarked_ends _ (by simp)), mark_append (unmarked_ends _ (by simp))]
  have hbefore : rowsBeforeLog.map mark =
      List.replicate 19 Mark.other ++ [Mark.closing, Mark.failure]
        ++ List.replicate 13 Mark.other := by
    simp only [rowsBeforeLog, closeLibraries, openLibraries, moduleCount, umbrellaHead, opening,
      Emit.closing, Emit.blank, List.take_succ_cons, List.take_zero, List.cons_append,
      List.nil_append, List.map_cons, List.map_nil, mark, closingCall, failure, success,
      String.toList_append, toList_literal]
    decide
  have hafter : rowsAfterLog.map mark =
      List.replicate 4 Mark.other ++ [Mark.closing, Mark.failure]
        ++ List.replicate 4 Mark.other := by
    simp only [rowsAfterLog, openLibraries, moduleCount, umbrellaHead, opening, Emit.closing,
      Emit.blank, List.drop_succ_cons, List.drop_zero, List.cons_append, List.nil_append,
      List.map_cons, List.map_nil, mark, closingCall, failure, success, String.toList_append,
      toList_literal]
    decide
  rw [openingRows_eq, List.map_append, List.map_append, hbefore, hlog, hafter]
  rfl

theorem marks_gapRows : gapRows.map mark = List.replicate 3 .other := by
  simp only [gapRows, Emit.blank, List.map_cons, List.map_nil, mark, closingCall, failure, success,
    toList_literal]
  decide

theorem marks_closingRows : closingRows.map mark = closingMarks := by
  simp only [closingRows, Emit.closing, Emit.blank, List.map_cons, List.map_nil, mark, closingCall,
    failure, success, String.toList_append, toList_literal]
  decide

def middleRows (ms : List StubModule) : List String :=
  loadCalls ms ++ gapRows ++ headRows " ||" ifFront (terms ms) ++ unloadCalls ms

theorem mark_middleRows {ms : List StubModule} (hms : ms ≠ []) :
    ∀ row ∈ middleRows ms, mark row = .other := by
  simp only [middleRows, List.forall_mem_append]
  refine ⟨⟨⟨mark_loadCalls ms, ?_⟩, mark_headRows hms⟩, mark_unloadCalls ms⟩
  intro row hrow
  have hmem : mark row ∈ List.replicate 3 Mark.other := marks_gapRows ▸ List.mem_map_of_mem hrow
  exact List.eq_of_mem_replicate hmem

/-- The marks of an umbrella function with some rows between its opening and its last rows. -/
def outcome (n : Nat) : List Mark :=
  openingMarks ++ (List.replicate n .other ++ closingMarks)

theorem outcome_count (n : Nat) {m : Mark} (hm : m ≠ .other) :
    (outcome n).count m = openingMarks.count m + closingMarks.count m := by
  rw [outcome, List.count_append, List.count_append, List.count_replicate]
  simp [Ne.symm hm]

/-- Unmarked rows behind an unmarked row neither close nor fail. -/
theorem isChain_replicate (n : Nat) {marks : List Mark} (h : (Mark.other :: marks).IsChain Closes) :
    (Mark.other :: (List.replicate n .other ++ marks)).IsChain Closes := by
  induction n with
  | zero => exact h
  | succ n ih => exact List.isChain_cons_cons.mpr ⟨by simp [Closes], ih⟩

theorem outcome_isChain (n : Nat) : (Mark.other :: outcome n).IsChain Closes := by
  have hopening : (Mark.other :: openingMarks).IsChain Closes := by decide
  have hclosing : (Mark.other :: closingMarks).IsChain Closes := by decide
  -- The opening ends unmarked, and there the chain is cut in two.
  have hlast : Mark.other :: openingMarks = Mark.other :: openingMarks.dropLast ++ [.other] := by
    decide
  have hsplit : Mark.other :: outcome n = Mark.other :: openingMarks.dropLast
      ++ Mark.other :: (List.replicate n .other ++ closingMarks) := by
    rw [outcome, ← List.cons_append, hlast, List.append_assoc, List.singleton_append]
  rw [hsplit, List.isChain_split, ← hlast]
  exact ⟨hopening, isChain_replicate n hclosing⟩

theorem outcome_pairwise (n : Nat) :
    (outcome n).Pairwise (fun above m => above = .success → m ≠ .failure) := by
  have hopening : ∀ m ∈ openingMarks, m ≠ .success := by decide
  have hquiet : ∀ m ∈ openingMarks ++ List.replicate n .other, m ≠ .success := by
    intro m hm
    rcases List.mem_append.mp hm with hm | hm
    · exact hopening m hm
    · simp [List.eq_of_mem_replicate hm]
  have hclosing : closingMarks.Pairwise (fun above m => above = .success → m ≠ .failure) := by
    decide
  rw [outcome, ← List.append_assoc, List.pairwise_append]
  exact ⟨List.pairwise_of_forall_mem_list (fun m hm _ _ he => absurd he (hquiet m hm)), hclosing,
    fun m hm _ _ he => absurd he (hquiet m hm)⟩

theorem returns_gapRows : ∀ row ∈ gapRows, returns row = false := by
  simp only [gapRows, Emit.blank, returns, List.forall_mem_cons, List.not_mem_nil, toList_literal,
    false_implies, implies_true, and_true]
  decide

theorem closed_fixedRows : ∀ row ∈ gapRows ++ closingRows, ¬ Opens row := by
  suffices h : ∀ cs ∈ (gapRows ++ closingRows).map String.toList, ¬ "dlopen(".toList <:+: cs from
    fun row hrow => h row.toList (List.mem_map_of_mem hrow)
  simp only [gapRows, closingRows, Emit.closing, Emit.blank, List.cons_append, List.nil_append,
    List.map_cons, List.map_nil, String.toList_append, toList_literal]
  decide

/-- A term of the check has no word before its bracket that would open anything. -/
theorem closed_term (m : StubModule) {start : List Char} (hs : '(' ∉ start) {back : List Char}
    (hb : '(' ∉ back) :
    ¬ "dlopen".toList ++ ['('] <:+:
      start ++ m.identifiers.readyCheck.toList ++ '(' :: ')' :: back := by
  have hready : '(' ∉ m.identifiers.readyCheck.toList :=
    (readyCheck_identText m.name).not_mem (by decide)
  intro h
  rcases infix_of_infix_append_cons (by decide) (by simp [hs, hready]) h with hword | hrest
  · have hend : endsIn "dlopen"
        (String.ofList start ++ ("Is" ++ camel m.name) ++ "Initialized") = true := by
      rw [endsIn_iff]
      simpa [StubModule.identifiers, Identifier.Family.ofModule, Identifier.readyCheck] using hword
    rw [endsIn_append (by decide)] at hend
    revert hend
    decide
  · have hbracket : '(' ∈ ')' :: back := hrest.subset (by simp)
    simp [hb] at hbracket

theorem closed_headRows {ms : List StubModule} (hms : ms ≠ []) :
    ∀ row ∈ headRows " ||" ifFront (terms ms), ¬ Opens row := by
  intro row hrow hopen
  obtain ⟨start, back, m, -, rfl, hs, hb⟩ := headRows_row hms row hrow
  have hback : '(' ∉ back.toList := by
    rcases hb with rfl | rfl <;> decide
  rcases hs with rfl | rfl
  · have hsplit : "dlopen".toList ++ ['('] <:+: "  if ".toList ++ '(' ::
        (['!'] ++ m.identifiers.readyCheck.toList ++ '(' :: ')' :: back.toList) := by
      simpa [Opens, ifFront] using hopen
    rcases infix_of_infix_append_cons (by decide) (by decide) hsplit with hword | hrest
    · revert hword
      decide
    · exact closed_term m (by decide) hback hrest
  · have hsplit : "dlopen".toList ++ ['('] <:+:
        "      !".toList ++ m.identifiers.readyCheck.toList ++ '(' :: ')' :: back.toList := by
      simpa [Opens] using hopen
    exact closed_term m (by decide) hback hsplit

variable {ms : List StubModule} {log : String}

theorem plain_openingRows (hlog : '\n' ∉ log.toList) : ∀ row ∈ openingRows log, Plain row := by
  intro row hrow
  rw [openingRows_eq, List.mem_append, List.mem_append] at hrow
  rcases hrow with (hrow | hrow) | hrow
  · exact plain_fixedRows row (by simp [hrow])
  · exact plain_logRows hlog row hrow
  · exact plain_fixedRows row (by simp [hrow])

theorem plain_gapRows : ∀ row ∈ gapRows, Plain row :=
  fun row hrow => plain_fixedRows row (by simp [hrow])

theorem plain_closingRows : ∀ row ∈ closingRows, Plain row :=
  fun row hrow => plain_fixedRows row (by simp [hrow])

theorem headRows_oneLine_terms (hms : ms ≠ []) :
    ∀ row ∈ headRows " ||" ifFront (terms ms), OneLine row := by
  have hterms : ∀ t ∈ terms ms, '\n' ∉ t.toList := by
    intro t ht
    obtain ⟨m, -, rfl⟩ := List.mem_map.mp ht
    have hready : '\n' ∉ m.identifiers.readyCheck.toList :=
      (readyCheck_identText m.name).not_mem (by decide)
    simp [hready]
  exact headRows_oneLine (by decide) (by decide) (by decide) (by simpa [terms] using hms) hterms

/-- The rows of the umbrella function, part by part. -/
theorem rows_umbrella (hms : ms ≠ []) (hlog : '\n' ∉ log.toList) :
    (Section.umbrella ms log).rows = (openingRows log ++ loadCalls ms ++ gapRows)
      ++ (headRows " ||" ifFront (terms ms) ++ (unloadCalls ms ++ closingRows)) := by
  apply rows_of_text (text_umbrella ms log)
  simp only [List.forall_mem_append]
  exact ⟨⟨⟨fun row hrow => (plain_openingRows hlog row hrow).1,
    fun row hrow => (loadCalls_row ms row hrow).1⟩, fun row hrow => (plain_gapRows row hrow).1⟩,
    headRows_oneLine_terms hms, fun row hrow => (plain_unloadCalls ms row hrow).1,
    fun row hrow => (plain_closingRows row hrow).1⟩

theorem marks_umbrella (hms : ms ≠ []) (hlog : '\n' ∉ log.toList) :
    (Section.umbrella ms log).rows.map mark = outcome (middleRows ms).length := by
  have hmiddle := List.map_eq_replicate_iff.mpr (mark_middleRows hms)
  rw [rows_umbrella hms hlog, outcome, ← hmiddle, ← marks_openingRows log, ← marks_closingRows,
    ← List.map_append, ← List.map_append, middleRows]
  simp only [List.append_assoc]

theorem not_check_before (hlog : '\n' ∉ log.toList) :
    ∀ row ∈ openingRows log ++ loadCalls ms ++ gapRows, startsWith ifFront row = false := by
  simp only [List.forall_mem_append]
  exact ⟨⟨fun row hrow => (plain_openingRows hlog row hrow).2.2,
    fun row hrow => (loadCalls_row ms row hrow).2.1⟩, fun row hrow => (plain_gapRows row hrow).2.2⟩

theorem ifHead_umbrella (hms : ms ≠ []) (hlog : '\n' ∉ log.toList) :
    ifHead (Section.umbrella ms log).rows = headRows " ||" ifFront (terms ms) := by
  rw [rows_umbrella hms hlog]
  exact ifHead_of_layout (by decide) (by decide) (not_check_before hlog) _ _

/-- The check reads as a disjunction over the modules. -/
theorem condition?_umbrella (hms : ms ≠ []) (hlog : '\n' ∉ log.toList) :
    (condition? (Section.umbrella ms log).rows).map (operands " ||") = some (terms ms) := by
  rw [rows_umbrella hms hlog,
    condition?_of_layout (by decide) (by decide) (not_check_before hlog), Option.map_some,
    operands_intercalate rfl (by simpa [terms] using hms)]
  exact terms_solid ms

theorem not_load (hms : ms ≠ []) (hlog : '\n' ∉ log.toList) :
    ∀ row ∈ openingRows log ++ gapRows ++ headRows " ||" ifFront (terms ms) ++ unloadCalls ms
      ++ closingRows, endsIn "]);" row = false := by
  simp only [List.forall_mem_append]
  exact ⟨⟨⟨⟨fun row hrow => (plain_openingRows hlog row hrow).2.1,
    fun row hrow => (plain_gapRows row hrow).2.1⟩, endsIn_headRows (by decide) (by decide) hms⟩,
    fun row hrow => (plain_unloadCalls ms row hrow).2.1⟩,
    fun row hrow => (plain_closingRows row hrow).2.1⟩

/-- Libraries are closed twice before the last rows, both times while opening. -/
theorem count_closing (hms : ms ≠ []) (log : String) :
    ((openingRows log ++ middleRows ms).map mark).count .closing = 2 := by
  have hmiddle := List.map_eq_replicate_iff.mpr (mark_middleRows hms)
  rw [List.map_append, marks_openingRows, hmiddle, List.count_append, List.count_replicate,
    if_neg (by decide)]
  decide

/-- Whatever the modules are called and hold, the umbrella function rolls back. -/
theorem umbrella_rollsBack (hms : ms ≠ []) (hlog : '\n' ∉ log.toList) :
    ∃ opened gap rest, RollsBack ms (Section.umbrella ms log).rows opened gap rest := by
  have hmarks := marks_umbrella hms hlog
  have hhead := ifHead_umbrella hms hlog
  -- Which rows close, fail or succeed is told by their marks, the rest by the rows themselves.
  refine ⟨openingRows log, gapRows, closingRows, ?_⟩
  constructor
  case layout =>
    rw [hhead, rows_umbrella hms hlog]
    simp only [List.append_assoc]
  case failures => rw [hmarks, outcome_count _ (by decide)]; decide
  case failures_opening => rw [marks_openingRows]; decide
  case failures_close => rw [hmarks]; exact outcome_isChain _
  case successes => rw [hmarks, outcome_count _ (by decide)]; decide
  case success_last => rw [hmarks]; exact outcome_pairwise _
  case loads_only =>
    rw [hhead]
    exact fun row hrow => ne_loadCall (not_load hms hlog row hrow)
  case loads_read =>
    intro m _ function place
    exact loadCall_read (loader_identText m.name) (enumerator_identText m.name)
  case opens_first =>
    rw [hhead]
    simp only [List.forall_mem_append]
    exact ⟨⟨fun row hrow => closed_fixedRows row (by simp [hrow]), closed_headRows hms⟩,
      fun row hrow => closed_fixedRows row (by simp [hrow])⟩
  case no_return =>
    simp only [List.forall_mem_append]
    exact ⟨fun row hrow => (loadCalls_row ms row hrow).2.2, returns_gapRows⟩
  case check => exact condition?_umbrella hms hlog
  case check_only =>
    intro row hrow
    rcases List.mem_append.mp hrow with hrow | hrow
    · rcases List.mem_append.mp hrow with hrow | hrow
      · exact not_check_before hlog row hrow
      · exact (plain_unloadCalls ms row hrow).2.2
    · exact (plain_closingRows row hrow).2.2
  case closes =>
    have hcount := count_closing hms log
    simpa only [hhead, middleRows, List.append_assoc] using hcount
  case closes_last => rw [marks_closingRows]; rfl

/-- Two modules, one of which has calls that read like opening a library. -/
theorem umbrella_rollsBack_of_two :
    ([⟨"libdlopen", []⟩, ⟨"Stubs", [⟨"int", "f2", ["int a"], none⟩]⟩] : List StubModule) ≠ [] ∧
      '\n' ∉ "VLOG(1)".toList ∧
      ∃ opened gap rest, RollsBack [⟨"libdlopen", []⟩, ⟨"Stubs", [⟨"int", "f2", ["int a"], none⟩]⟩]
        (Section.umbrella [⟨"libdlopen", []⟩, ⟨"Stubs", [⟨"int", "f2", ["int a"], none⟩]⟩]
          "VLOG(1)").rows opened gap rest :=
  have hms : ([⟨"libdlopen", []⟩, ⟨"Stubs", [⟨"int", "f2", ["int a"], none⟩]⟩] :
      List StubModule) ≠ [] := by decide
  have hlog : '\n' ∉ "VLOG(1)".toList := by decide
  ⟨hms, hlog, umbrella_rollsBack hms hlog⟩

/-- A module's identifier can end in the name of the opening call, and its load then does not come
after every row with the text of that call. -/
theorem load_of_opening_name :
    ¬ ∀ (ms : List StubModule) (log : String), ms ≠ [] → '\n' ∉ log.toList →
      ∀ (i j : Nat) (function place row : String),
        (Section.umbrella ms log).rows[i]? = some (loadCall function place) →
        (Section.umbrella ms log).rows[j]? = some row → Opens row → j < i := by
  intro h
  have hlog : '\n' ∉ "VLOG(1)".toList := by decide
  have hcall : loadCalls [⟨"libdlopen", []⟩] =
      [loadCall "InitializeLibdlopen" "kModuleLibdlopen"] := by rfl
  have hmem : loadCall "InitializeLibdlopen" "kModuleLibdlopen" ∈
      (Section.umbrella [⟨"libdlopen", []⟩] "VLOG(1)").rows := by
    rw [rows_umbrella (by simp) hlog, hcall]
    simp
  have hopens : Opens (loadCall "InitializeLibdlopen" "kModuleLibdlopen") := by
    simp only [Opens, loadCall, String.toList_append, toList_literal]
    decide
  obtain ⟨i, hi⟩ := List.mem_iff_getElem?.mp hmem
  exact Nat.lt_irrefl i (h _ _ (by simp) hlog i i _ _ _ hi hi hopens)

end LinkStubs.Umbrella
