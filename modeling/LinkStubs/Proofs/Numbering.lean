import LinkStubs.Proofs.Checking
import LinkStubs.Proofs.Collisions

/-!
The numbers of modules. The enumeration gives the modules the numbers from zero on and ends with how
many there are, so the loop that opens libraries comes to every module once, in the order in which
the calls behind it load them.
-/

namespace LinkStubs

open LinkStubs.Emit LinkStubs.Identifier LinkStubs.Text

namespace Listing

/-- The value that is written out behind an enumerator. -/
def written? (behind : List Char) : Option Nat :=
  match behind.dropWhile isBlank with
  | '=' :: rest => some (Nat.ofDigitChars 10 ((rest.dropWhile isBlank).takeWhile Char.isDigit) 0)
  | _ => none

def enumeratorWith (row : String) : String × Option Nat :=
  (enumeratorOn row, written? ((row.toList.dropWhile isBlank).dropWhile isIdentChar))

/-- The values of enumerators: the one that is written out, or else one more than the last. -/
def numberedFrom (next : Nat) : List (String × Option Nat) → List (String × Nat)
  | [] => []
  | (name, value) :: rest => (name, value.getD next) :: numberedFrom (value.getD next + 1) rest

/-- The enumerators of the modules, with their values. -/
def numbering (rows : List String) : List (String × Nat) :=
  numberedFrom 0 ((enumerationRows rows).map enumeratorWith)

/-- The enumerators of a value. -/
def valued (numbers : List (String × Nat)) (value : Nat) : List String :=
  (numbers.filter (·.2 = value)).map (·.1)

theorem enumeratorWith_frame {front name back : String}
    (hfront : ∀ c ∈ front.toList, isBlank c = true) (hname : IsIdentifier name)
    (hback : ∀ c ∈ back.toList.head?, isIdentChar c = false) :
    enumeratorWith (front ++ name ++ back) = (name, written? back.toList) := by
  rw [enumeratorWith, enumeratorOn_frame hfront hname hback, (run_of_frame hfront hname hback).2]

theorem numberedFrom_unwritten (next : Nat) (names : List String) :
    numberedFrom next (names.map (·, none)) = names.zipIdx next := by
  induction names generalizing next with
  | nil => rfl
  | cons name names ih =>
    rw [List.map_cons, numberedFrom, ih, List.zipIdx_cons]
    rfl

theorem numbering_umbrellaEnum (ms : List StubModule) :
    numbering (Section.umbrellaEnum ms).rows =
      (ms.map (·.identifiers.enumerator) ++ [moduleCount]).zipIdx := by
  have hname : ∀ (m : StubModule) (back : String),
      (∀ c ∈ back.toList.head?, isIdentChar c = false) →
        enumeratorWith ("  " ++ m.identifiers.enumerator ++ back) =
          (m.identifiers.enumerator, written? back.toList) :=
    fun m back hback => enumeratorWith_frame (List.all_eq_true.mp (by decide))
      (enumerator_isIdentifier m.name) hback
  have hcount : enumeratorWith ("  " ++ moduleCount) = (moduleCount, none) := by decide
  rw [numbering, enumerationRows_umbrellaEnum, List.map_append, List.map_singleton, hcount]
  cases ms with
  | nil => rfl
  | cons m ms =>
    have hrest : (ms.map (fun m => "  " ++ m.identifiers.enumerator ++ ",")).map enumeratorWith
        ++ [(moduleCount, none)] =
          (ms.map (·.identifiers.enumerator) ++ [moduleCount]).map (·, none) := by
      rw [List.map_append, List.map_map, List.map_map]
      exact congrArg (· ++ _) (List.map_congr_left fun n _ => hname n _ (by simp [isIdentChar]))
    rw [enumerators, List.map_cons, hname m _ (by simp [isIdentChar]), List.cons_append, hrest,
      numberedFrom]
    have hzero : written? " = 0,".toList = some 0 := by decide
    rw [hzero, numberedFrom_unwritten, List.map_cons, List.cons_append, List.zipIdx_cons]
    rfl

/-- Behind names of its own, a name has their number. -/
theorem lookup_concat {name : String} {names : List String} (h : name ∉ names) (start : Nat) :
    ((names ++ [name]).zipIdx start).lookup name = some (start + names.length) := by
  induction names generalizing start with
  | nil => simp
  | cons other names ih =>
    simp only [List.mem_cons, not_or] at h
    have hne : (name == other) = false := beq_false_of_ne h.1
    rw [List.cons_append, List.zipIdx_cons, List.lookup_cons, hne]
    dsimp only
    rw [ih h.2, List.length_cons, Nat.add_right_comm, Nat.add_assoc]

/-- Of names that are counted through, one has each number. -/
theorem valued_zipIdx (names : List String) (start i : Nat) :
    valued (names.zipIdx start) (start + i) = names[i]?.toList := by
  induction names generalizing start i with
  | nil => rfl
  | cons name names ih =>
    cases i with
    | zero =>
      have hlater : (names.zipIdx (start + 1)).filter (·.2 = start) = [] := by
        apply List.filter_eq_nil_iff.mpr
        intro number hnumber
        have hle := List.le_snd_of_mem_zipIdx hnumber
        simp only [decide_eq_true_iff]
        omega
      rw [Nat.add_zero, List.zipIdx_cons, valued, List.filter_cons_of_pos (by simp), hlater]
      rfl
    | succ i =>
      rw [List.zipIdx_cons, valued, List.filter_cons_of_neg (by simp), ← valued,
        show start + (i + 1) = start + 1 + i by omega, ih, List.getElem?_cons_succ]

def loopFront : String := "  for (int i = 0; i < "

def loopBack : String := opening "; ++i)"

/-- The rows from the head of that loop to its end. -/
def loopRows (rows : List String) : List String :=
  (rows.dropWhile (fun row => (framed? loopFront loopBack row).isNone)).takeWhile
    (· ≠ "  " ++ closing)

/-- What that loop does with the numbers it counts through. -/
structure LibraryLoop where
  bound : String
  /-- The variable that has the module of a number. -/
  counted : String
  /-- The module whose paths are tried. -/
  searched : String
  /-- The module whose place the library is kept at. -/
  kept : String
  deriving DecidableEq, Repr

/-- The loop that opens libraries, by the first row of each of its forms. -/
def libraryLoop? (rows : List String) : Option LibraryLoop := do
  let body := loopRows rows
  let bound ← (entries loopFront loopBack body).head?
  let counted ← (entries "    StubModules " " = static_cast<StubModules>(i);" body).head?
  let searched ← (entries "    StubPathMap::const_iterator it = path_map.find(" ");" body).head?
  let kept ← (entries "        opened_libraries[" "] = handle;" body).head?
  return ⟨bound, counted, searched, kept⟩

theorem loopRows_append {rows : List String} (h : loopRows rows ≠ []) (more : List String) :
    ∃ rest, loopRows (rows ++ more) = loopRows rows ++ rest := by
  unfold loopRows at h ⊢
  have hloop : (rows.dropWhile (fun row => (framed? loopFront loopBack row).isNone)).isEmpty =
      false := by
    rw [List.isEmpty_eq_false_iff]
    intro he
    rw [he] at h
    exact h rfl
  rw [List.dropWhile_append, hloop, if_neg Bool.false_ne_true, List.takeWhile_append]
  split
  · rename_i hall
    rw [(List.takeWhile_prefix _).eq_of_length hall]
    exact ⟨_, rfl⟩
  · exact ⟨[], (List.append_nil _).symm⟩

/-- The loop is the first of a listing, whatever follows. -/
theorem libraryLoop?_append {rows : List String} {loop : LibraryLoop}
    (h : libraryLoop? rows = some loop) (more : List String) :
    libraryLoop? (rows ++ more) = some loop := by
  simp only [libraryLoop?, Option.bind_eq_bind, Option.bind_eq_some_iff] at h
  obtain ⟨bound, hbound, counted, hcounted, searched, hsearched, kept, hkept, hloop⟩ := h
  have hne : loopRows rows ≠ [] := by
    intro he
    rw [he] at hbound
    cases hbound
  obtain ⟨rest, hrest⟩ := loopRows_append hne more
  simp only [libraryLoop?, hrest, entries_append, List.head?_append, hbound, hcounted, hsearched,
    hkept, Option.some_or, Option.bind_eq_bind, Option.bind_some, hloop]

/-- The call on a row that loads a module: its function and the place of the library. -/
def loadOn? (row : String) : Option (String × String) :=
  (framed? ("  " ++ enumeratorOn row ++ "(opened_libraries[") "]);" row).map (enumeratorOn row, ·)

def loadsBegin : String := "  // Initialize each module if we have not already failed."

def loads (rows : List String) : List (String × String) :=
  (Agreement.behindLast loadsBegin rows).filterMap loadOn?

theorem loadOn?_loadCall {function : String} (h : IsIdentifier function) (place : String) :
    loadOn? (Umbrella.loadCall function place) = some (function, place) := by
  have hname : enumeratorOn (Umbrella.loadCall function place) = function := by
    rw [Umbrella.loadCall, String.append_assoc, String.append_assoc]
    exact enumeratorOn_frame (List.all_eq_true.mp (by decide)) h (by simp [isIdentChar])
  rw [loadOn?, hname, Umbrella.loadCall, framed?_frame, Option.map_some]

theorem loadOn?_of_not_endsIn {row : String} (h : endsIn "]);" row = false) :
    loadOn? row = none := by
  rw [loadOn?, framed?_of_not_endsIn h, Option.map_none]

end Listing

namespace Umbrella

open LinkStubs.Listing

variable (ms : List StubModule) (log : String)

/-- The rows behind the loads: the check, and what follows it. -/
def rowsBehindLoads : List String :=
  gapRows ++ headRows " ||" ifFront (terms ms) ++ unloadCalls ms ++ closingRows

/-- The rows of the check, also where there is no module to check. -/
theorem headRows_ends {text : String} (hop : Apart text " ||") (hif : Apart text ifBack) :
    ∀ row ∈ headRows " ||" ifFront (terms ms), OneLine row ∧ endsIn text row = false := by
  cases ms with
  | nil =>
    rw [terms, List.map_nil, headRows, List.forall_mem_singleton]
    exact ⟨by decide, hif.endsIn_append _⟩
  | cons m ms =>
    have hms : m :: ms ≠ [] := List.cons_ne_nil m ms
    exact fun row hrow =>
      ⟨headRows_oneLine_terms hms row hrow, endsIn_headRows hop hif hms row hrow⟩

/-- None of them is a load. -/
theorem rowsBehindLoads_plain :
    ∀ row ∈ rowsBehindLoads ms, OneLine row ∧ endsIn "]);" row = false := by
  simp only [rowsBehindLoads, List.forall_mem_append]
  exact ⟨⟨⟨fun row hrow => ⟨(plain_gapRows row hrow).1, (plain_gapRows row hrow).2.1⟩,
    headRows_ends ms (by decide) (by decide)⟩,
    fun row hrow => ⟨(plain_unloadCalls ms row hrow).1, (plain_unloadCalls ms row hrow).2.1⟩⟩,
    fun row hrow => ⟨(plain_closingRows row hrow).1, (plain_closingRows row hrow).2.1⟩⟩

/-- Whatever the logging expression holds, only the rows between two known parts depend on it. -/
theorem rows_umbrella_marked : ∃ middle, (Section.umbrella ms log).rows =
    rowsBeforeLog ++ (middle ++ loadsBegin :: (loadCalls ms ++ rowsBehindLoads ms)) := by
  have hbefore : ∀ row ∈ rowsBeforeLog, OneLine row :=
    fun row hrow => (plain_fixedRows row (by simp [hrow])).1
  have hbehind : ∀ row ∈ loadsBegin :: (loadCalls ms ++ rowsBehindLoads ms), OneLine row := by
    rw [List.forall_mem_cons, List.forall_mem_append]
    exact ⟨by decide, fun row hrow => (loadCalls_row ms row hrow).1,
      fun row hrow => (rowsBehindLoads_plain ms row hrow).1⟩
  have htext : (Section.umbrella ms log).text = unlines (rowsBeforeLog
      ++ ((logRows log ++ (openLibraries "").drop 24)
        ++ loadsBegin :: (loadCalls ms ++ rowsBehindLoads ms))) := by
    rw [text_umbrella, openingRows_eq]
    simp only [rowsAfterLog, loadsBegin, rowsBehindLoads, List.append_assoc, List.cons_append,
      List.nil_append]
  have hrows : (Section.umbrella ms log).rows = rowsOf (Section.umbrella ms log).text := rfl
  refine ⟨rowsOf (unlines (logRows log ++ (openLibraries "").drop 24)), ?_⟩
  rw [hrows, htext, rowsOf_unlines_append, rowsOf_unlines_append, rowsOf_unlines hbefore,
    rowsOf_unlines hbehind]

theorem loadsBegin_not_mem : loadsBegin ∉ loadCalls ms ++ rowsBehindLoads ms := by
  have hends : ∀ rows : List String, (∀ row ∈ rows, endsIn "failed." row = false) →
      loadsBegin ∉ rows := fun rows hrows h => absurd (hrows _ h) (by decide)
  simp only [rowsBehindLoads, List.mem_append, not_or]
  refine ⟨hends _ ?_, ⟨⟨?_, hends _ ?_⟩, hends _ ?_⟩, ?_⟩
  · intro row hrow
    obtain ⟨m, -, rfl⟩ := List.mem_map.mp hrow
    exact Apart.endsIn_append (by decide) _
  · simp [gapRows, loadsBegin, Emit.blank]
  · exact fun row hrow => (headRows_ends ms (by decide) (by decide) row hrow).2
  · intro row hrow
    obtain ⟨m, -, rfl⟩ := List.mem_map.mp hrow
    exact Apart.endsIn_append (by decide) _
  · simp [closingRows, loadsBegin, Emit.blank, Emit.closing]

theorem filterMap_loadOn?_loadCalls : (loadCalls ms).filterMap loadOn? =
    ms.map (fun m => (m.identifiers.loader, m.identifiers.enumerator)) := by
  induction ms with
  | nil => rfl
  | cons m ms ih =>
    have hload : loadOn? (loadCall m.identifiers.loader m.identifiers.enumerator) =
        some (m.identifiers.loader, m.identifiers.enumerator) :=
      loadOn?_loadCall (loader_isIdentifier m.name) _
    rw [loadCalls, List.map_cons, List.filterMap_cons_some hload, ← loadCalls, ih]
    rfl

theorem loads_umbrella : loads (Section.umbrella ms log).rows =
    ms.map (fun m => (m.identifiers.loader, m.identifiers.enumerator)) := by
  obtain ⟨middle, hrows⟩ := rows_umbrella_marked ms log
  have hothers : (rowsBehindLoads ms).filterMap loadOn? = [] := by
    apply List.filterMap_eq_nil_iff.mpr
    intro row hrow
    exact loadOn?_of_not_endsIn (rowsBehindLoads_plain ms row hrow).2
  rw [loads, hrows, ← List.append_assoc, Agreement.behindLast_append _ (loadsBegin_not_mem ms),
    List.filterMap_append, filterMap_loadOn?_loadCalls, hothers, List.append_nil]

/-- The loop counts up to the enumerator behind the modules, and one variable has the module of a
number. -/
theorem libraryLoop?_umbrella : libraryLoop? (Section.umbrella ms log).rows =
    some ⟨moduleCount, "cur_module", "cur_module", "cur_module"⟩ := by
  obtain ⟨middle, hrows⟩ := rows_umbrella_marked ms log
  rw [hrows]
  exact libraryLoop?_append (by decide +kernel) _

/-- What the enumeration and the umbrella function of some modules make of their numbers. -/
structure Counts (ms : List StubModule) (enumeration umbrella : List String) : Prop where
  /-- The modules have the numbers from zero on, and the enumerator behind them is how many. -/
  numbered : numbering enumeration = (ms.map (·.identifiers.enumerator) ++ [moduleCount]).zipIdx
  looped : ∃ loop, libraryLoop? umbrella = some loop ∧ loop.searched = loop.counted ∧
    loop.kept = loop.counted ∧ (numbering enumeration).lookup loop.bound = some ms.length
  called : loads umbrella = ms.map (fun m => (m.identifiers.loader, m.identifiers.enumerator))
  /-- The module that a number of the loop stands for is loaded by the call at that number. -/
  visited : ∀ (loop : LibraryLoop) (count i : Nat), libraryLoop? umbrella = some loop →
    (numbering enumeration).lookup loop.bound = some count → i < count →
      ∃ m, ms[i]? = some m ∧ valued (numbering enumeration) i = [m.identifiers.enumerator] ∧
        (loads umbrella)[i]? = some (m.identifiers.loader, m.identifiers.enumerator)

theorem lookup_moduleCount :
    (numbering (Section.umbrellaEnum ms).rows).lookup moduleCount = some ms.length := by
  have hnot : moduleCount ∉ ms.map (·.identifiers.enumerator) := by
    intro h
    obtain ⟨m, -, hm⟩ := List.mem_map.mp h
    have hname : m.identifiers.enumerator ∈ (Family.ofModule m.name).names := List.mem_cons_self
    exact Family.ne_moduleCount hname hm
  rw [numbering_umbrellaEnum, lookup_concat hnot, List.length_map, Nat.zero_add]

/-- The loop that opens libraries comes to every module once, in the order of the calls that load
them. -/
theorem umbrella_counts :
    Counts ms (Section.umbrellaEnum ms).rows (Section.umbrella ms log).rows where
  numbered := numbering_umbrellaEnum ms
  looped := ⟨_, libraryLoop?_umbrella ms log, rfl, rfl, lookup_moduleCount ms⟩
  called := loads_umbrella ms log
  visited loop count i hloop hcount hi := by
    obtain rfl : _ = loop := Option.some.inj ((libraryLoop?_umbrella ms log).symm.trans hloop)
    obtain rfl : _ = count := Option.some.inj ((lookup_moduleCount ms).symm.trans hcount)
    -- Below the count, the number of a place belongs to the enumerator at that place alone.
    have hvalued := valued_zipIdx (ms.map (·.identifiers.enumerator) ++ [moduleCount]) 0 i
    rw [Nat.zero_add, List.getElem?_append_left (by simpa using hi), List.getElem?_map,
      List.getElem?_eq_getElem hi] at hvalued
    refine ⟨ms[i], List.getElem?_eq_getElem hi, ?_, ?_⟩
    · rw [numbering_umbrellaEnum, hvalued]
      rfl
    · rw [loads_umbrella, List.getElem?_map, List.getElem?_eq_getElem hi]
      rfl

end Umbrella

end LinkStubs
