import LinkStubs.Proofs.Declaration
import LinkStubs.StubUnit

/-!
Whole sources: what a source is read as is what its lines are read as, one by one.
-/

namespace LinkStubs

/-- A module holds just what a source is read as. -/
def StubModule.ReadFrom (m : StubModule) (source : String) : Prop :=
  Signature.readSource source = .ok m.signatures

namespace Signature

open LinkStubs.Text

/-- A signature that was read from some line. -/
def IsRead (s : Signature) : Prop :=
  ∃ line position, readLine line position = .ok (some s)

/-- A signature that no row is broken by, wherever it is written. -/
structure Unbroken (s : Signature) : Prop where
  result : '\n' ∉ s.returnType.toList
  name : IsName s.name.toList
  params : ∀ p ∈ s.params, '\n' ∉ p.toList

theorem Normal.unbroken {s : Signature} (h : s.Normal) : s.Unbroken where
  result := h.result_line
  name := h.name
  params p hp hc := ((h.params_plain p hp).2 _ hc).2.2 rfl

/-- Even where a line holds newlines, none gets into what is read from it. -/
theorem IsRead.unbroken {s : Signature} (h : s.IsRead) : s.Unbroken := by
  obtain ⟨line, position, hline⟩ := h
  obtain ⟨-, u, hu, -, rfl⟩ := division_of_readLine hline
  exact
    { result := by simpa using fun hm => hu.result_line (mem_of_mem_trim hm)
      name := by simpa using hu.name
      params := fun p hp hc => ((Split.parameters_plain hu.toDivides p hp).2 _ hc).2.2 rfl }

theorem Unbroken.name_line {s : Signature} (h : s.Unbroken) : '\n' ∉ s.name.toList :=
  h.name.not_mem (by decide)

theorem Unbroken.joinedParams {s : Signature} (h : s.Unbroken) : '\n' ∉ s.joinedParams.toList := by
  intro hc
  rw [toList_joinedParams] at hc
  rcases mem_intercalate hc with hs | ⟨p, hp, hc⟩
  · exact absurd hs (by decide)
  · obtain ⟨q, hq, rfl⟩ := List.mem_map.mp hp
    exact h.params q hq hc

def onLine? (line : List Char) : Option Signature :=
  match readLine (String.ofList line) .start with
  | .ok found => found
  | .error _ => none

/-- The names that the lines of a source declare, in order. -/
def declaredNames (source : String) : List String :=
  ((lines source.toList).filterMap onLine?).map (·.name)

/-- The place of a line is told in its fault and makes no other difference. -/
theorem readLine_placed (line : String) (position other : Position) :
    readLine line other =
      (readLine line position).mapError (fun e => { e with position := other }) := by
  simp only [readLine]
  split
  · rfl
  · split
    · rfl
    · split <;> rfl

theorem readLine_ok_position {line : String} {position : Position} {found : Option Signature}
    (h : readLine line position = .ok found) (other : Position) :
    readLine line other = .ok found := by
  rw [readLine_placed line position other, h]
  rfl

theorem onLine?_of_readLine {line : List Char} {position : Position} {found : Option Signature}
    (h : readLine (String.ofList line) position = .ok found) : onLine? line = found := by
  rw [onLine?, readLine_ok_position h .start]

theorem readLines_cons {position : Position} {line : List Char} {rest : List (List Char)}
    {ss : List Signature} (h : readLines position (line :: rest) = .ok ss) :
    ∃ found others, readLine (String.ofList line) position = .ok found ∧
      readLines position.nextLine rest = .ok others ∧ ss = found.toList ++ others := by
  simp only [readLines] at h
  cases hl : readLine (String.ofList line) position with
  | error e =>
    rw [hl] at h
    cases h
  | ok found =>
    cases hr : readLines position.nextLine rest with
    | error e =>
      rw [hl, hr] at h
      cases h
    | ok others =>
      rw [hl, hr] at h
      cases h
      exact ⟨found, others, rfl, rfl, rfl⟩

theorem filterMap_onLine?_of_readLines {position : Position} {ls : List (List Char)}
    {ss : List Signature} (h : readLines position ls = .ok ss) : ls.filterMap onLine? = ss := by
  induction ls generalizing position ss with
  | nil =>
    cases h
    rfl
  | cons line rest ih =>
    obtain ⟨found, others, hl, hr, rfl⟩ := readLines_cons h
    cases found with
    | none => rw [List.filterMap_cons_none (onLine?_of_readLine hl), ih hr, Option.toList_none,
        List.nil_append]
    | some s => rw [List.filterMap_cons_some (onLine?_of_readLine hl), ih hr, Option.toList_some,
        List.singleton_append]

theorem declaredNames_of_readSource {source : String} {ss : List Signature}
    (h : readSource source = .ok ss) : ss.map (·.name) = declaredNames source := by
  rw [declaredNames, filterMap_onLine?_of_readLines h]

/-- Every signature of a source is normal, since a source is read by lines. -/
theorem normal_of_readSource {source : String} {ss : List Signature}
    (h : readSource source = .ok ss) : ∀ s ∈ ss, s.Normal := by
  intro s hs
  rw [← filterMap_onLine?_of_readLines h] at hs
  obtain ⟨line, hline, hon⟩ := List.mem_filterMap.mp hs
  unfold onLine? at hon
  split at hon
  · rename_i found hread
    subst hon
    apply (normal_of_readLine _ hread).1
    rw [String.toList_ofList]
    exact newline_not_mem_of_mem_lines hline
  · cases hon

end Signature

end LinkStubs
