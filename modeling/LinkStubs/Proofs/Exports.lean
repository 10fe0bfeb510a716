import LinkStubs.Emit.ExportList
import LinkStubs.Proofs.Listing
import LinkStubs.Proofs.Source
import Mathlib.Data.List.Forall2

/-!
Export lists as texts. Behind a front that names the library there is a row for each name and
nothing else, so that a text tells its library and its names, and the rows for a unit are those of
its modules put together.
-/

namespace LinkStubs

open LinkStubs.Listing LinkStubs.Signature LinkStubs.Text

namespace ExportList

def front (library : String) : String :=
  "LIBRARY " ++ library ++ "\nEXPORTS\n"

def exportRow (name : String) : String :=
  "  " ++ name

theorem text_eq (e : ExportList) :
    e.text = front e.library ++ unlines (e.exports.map exportRow) := by
  have hrows : exportRow = ("  " ++ ·) := rfl
  rw [text, lines, unlines_append, ← hrows]
  refine congrArg (· ++ _) ?_
  rw [← String.toList_inj]
  simp [front, unlines]

theorem text_ofSignatures (library : String) (signatures : List Signature) :
    (ofSignatures library signatures).text =
      front library ++ unlines (signatures.map (fun s => exportRow s.name)) := by
  rw [text_eq, ofSignatures, List.map_map]
  rfl

theorem exportRow_injective : Function.Injective exportRow := by
  intro a b h
  rw [← String.toList_inj] at h ⊢
  simpa [exportRow] using h

theorem exportRow_oneLine {name : String} (h : IsName name.toList) : OneLine (exportRow name) := by
  have hname : name ≠ "" := by
    rintro rfl
    exact absurd h (by decide)
  refine OneLine.append (by decide) ⟨h.not_mem (by decide), fun hl => ?_⟩ hname
  exact h.not_mem (by decide) (List.mem_of_getLast? hl)

theorem rowsOf_exports {signatures : List Signature}
    (h : ∀ s ∈ signatures, IsName s.name.toList) :
    rowsOf (unlines (signatures.map (fun s => exportRow s.name))) =
      signatures.map (fun s => exportRow s.name) := by
  have hone : ∀ row ∈ signatures.map (fun s => exportRow s.name), OneLine row := by
    intro row hrow
    obtain ⟨s, hs, rfl⟩ := List.mem_map.mp hrow
    exact exportRow_oneLine (h s hs)
  exact rowsOf_unlines hone

/-- The name of a library ends at the first newline of a text, unless it holds one. -/
theorem front_cancel {library other body rest : String} (hl : '\n' ∉ library.toList)
    (ho : '\n' ∉ other.toList) (h : front library ++ body = front other ++ rest) :
    library = other ∧ body = rest := by
  have hchars : library.toList ++ '\n' :: ("EXPORTS\n".toList ++ body.toList) =
      other.toList ++ '\n' :: ("EXPORTS\n".toList ++ rest.toList) := by
    simpa [front] using congrArg String.toList h
  obtain ⟨hlibrary, hbehind⟩ := append_cons_cancel hl ho hchars
  exact ⟨String.toList_inj.mp hlibrary, String.toList_inj.mp (List.append_cancel_left hbehind)⟩

/-- The text of all names that a unit exports, of which `body` is what stands behind the front. -/
structure Faithful (library : String) (u : StubUnit) (body : String) : Prop where
  text : (ofSignatures library u.signatures).text = front library ++ body
  rows : rowsOf body = u.signatures.map (fun s => exportRow s.name)
  /-- Every row has its newline. -/
  ended : body = unlines (rowsOf body)
  named : ∀ s ∈ u.signatures, IsName s.name.toList
  counted : (rowsOf body).length = (ofSignatures library u.signatures).exportCount
  /-- The texts of the modules hold the same behind fronts of their own. -/
  parts : ∃ parts, List.Forall₂ (fun m part => (ofModule m).text = front m.name ++ part)
    u.modules parts ∧ body = String.join parts

variable {u v : StubUnit} {library other : String}

theorem faithful (hu : ∀ s ∈ u.signatures, s.IsRead) (library : String) :
    Faithful library u (unlines (u.signatures.map (fun s => exportRow s.name))) := by
  have hnamed : ∀ s ∈ u.signatures, IsName s.name.toList := fun s hs => (hu s hs).unbroken.name
  have hrows := rowsOf_exports hnamed
  refine ⟨text_ofSignatures library u.signatures, hrows, by rw [hrows], hnamed, ?_, ?_⟩
  · rw [hrows, List.length_map, exportCount, ofSignatures, List.length_map]
  · refine ⟨u.modules.map (fun m => unlines (m.signatures.map (fun s => exportRow s.name))), ?_, ?_⟩
    · rw [List.forall₂_map_right_iff, List.forall₂_same]
      exact fun m _ => text_ofSignatures m.name m.signatures
    · rw [StubUnit.signatures, List.map_flatMap, unlines_flatMap]

/-- Texts that are the same list the same names for the same library. -/
theorem text_inj (hu : ∀ s ∈ u.signatures, s.IsRead) (hv : ∀ s ∈ v.signatures, s.IsRead)
    (hl : '\n' ∉ library.toList) (ho : '\n' ∉ other.toList) :
    (ofSignatures library u.signatures).text = (ofSignatures other v.signatures).text ↔
      library = other ∧ u.signatures.map (·.name) = v.signatures.map (·.name) := by
  constructor
  · intro h
    have hsplit := h
    rw [(faithful hu library).text, (faithful hv other).text] at hsplit
    obtain ⟨rfl, hbody⟩ := front_cancel hl ho hsplit
    have hrows := congrArg rowsOf hbody
    rw [(faithful hu library).rows, (faithful hv library).rows] at hrows
    refine ⟨rfl, exportRow_injective.list_map ?_⟩
    rw [List.map_map, List.map_map]
    exact hrows
  · rintro ⟨rfl, hnames⟩
    rw [ofSignatures, ofSignatures, hnames]

/-- What a unit exports can be read off its export list, which is nothing but that. -/
theorem exports_faithful (hu : ∀ s ∈ u.signatures, s.IsRead) (library : String) :
    (∃ body, Faithful library u body) ∧
      ∀ (v : StubUnit) (other : String), (∀ s ∈ v.signatures, s.IsRead) →
        '\n' ∉ library.toList → '\n' ∉ other.toList →
          ((ofSignatures library u.signatures).text = (ofSignatures other v.signatures).text ↔
            library = other ∧ u.signatures.map (·.name) = v.signatures.map (·.name)) :=
  ⟨⟨_, faithful hu library⟩, fun _ _ hv hl ho => text_inj hu hv hl ho⟩

/-- Three modules, one of which declares a name twice and one nothing. -/
def spread : StubUnit :=
  .ofModules
    [ ⟨"a", [⟨"int", "f2", ["int a"], none⟩, ⟨"int", "f2", ["void"], none⟩]⟩, ⟨"b", []⟩,
      ⟨"c", [⟨"char*", "g_3", [""], none⟩]⟩ ] "media" "stubs"

/-- The same signatures in one module. -/
def gathered : StubUnit :=
  .ofModules
    [ ⟨"a", [⟨"int", "f2", ["int a"], none⟩, ⟨"int", "f2", ["void"], none⟩,
        ⟨"char*", "g_3", [""], none⟩]⟩ ] "" ""

/-- Names are listed as often as they are declared, and alike in one module or in several. -/
theorem exports_faithful_of_spread :
    (∀ s ∈ spread.signatures, s.IsRead) ∧ (∃ body, Faithful "foo-1.dll" spread body) ∧
      (ofSignatures "foo-1.dll" spread.signatures).text =
        (ofSignatures "foo-1.dll" gathered.signatures).text := by
  have hread : ∀ s ∈ spread.signatures, s.IsRead := by
    simp only [spread, StubUnit.ofModules, StubUnit.signatures, List.flatMap_cons,
      List.flatMap_nil, List.append_nil, List.cons_append, List.nil_append, List.forall_mem_cons]
    exact ⟨⟨"int f2(int a)", .start, by rfl⟩, ⟨"int f2(void)", .start, by rfl⟩,
      ⟨"char* g_3()", .start, by rfl⟩, by simp⟩
  have hfaithful := exports_faithful hread "foo-1.dll"
  exact ⟨hread, hfaithful.1, (hfaithful.2 gathered "foo-1.dll" hread (by decide) (by decide)).mpr
    ⟨rfl, rfl⟩⟩

end ExportList

end LinkStubs
