import LinkStubs.Emit.StubPair
import LinkStubs.Proofs.Text

/-!
Writing only adds. What a writer holds stays in front of what comes behind it, and its two counts
are those of its text; so a section is the same text wherever it is written, and a file is the
texts of its sections.
-/

namespace LinkStubs

open LinkStubs.Text

namespace Text

theorem newlines_append (a b : String) : newlines (a ++ b) = newlines a + newlines b := by
  rw [newlines, String.toList_append, List.count_append, newlines, newlines]

/-- A text as it is stored, character by character. -/
def octets (text : String) : List UInt8 :=
  text.toList.flatMap String.utf8EncodeChar

theorem length_octets (text : String) : (octets text).length = text.utf8ByteSize := by
  rw [← String.size_toByteArray, ← String.utf8Encode_toList, octets, List.utf8Encode,
    List.size_toByteArray]

end Text

namespace Writer

/-- What a command adds to a text. -/
def Command.text : Command → String
  | .write text => text
  | .line text => text ++ "\n"
  | .comment text => commentText text ++ "\n"
  | .newline | .blankLine => "\n"

/-- A writer that holds what another holds and `added` behind it, with its newlines counted. -/
structure Appended (added : String) (before after : Writer) : Prop where
  text : after.text = before.text ++ added
  lineCount : after.lineCount = before.lineCount + newlines added

namespace Appended

variable {a b : String} {u v w : Writer}

theorem refl (w : Writer) : Appended "" w w :=
  ⟨String.append_empty.symm, rfl⟩

theorem trans (h : Appended a u v) (h' : Appended b v w) : Appended (a ++ b) u w := by
  refine ⟨?_, ?_⟩
  · rw [h'.text, h.text, String.append_assoc]
  · rw [h'.lineCount, h.lineCount, newlines_append, Nat.add_assoc]

/-- The count of a writer that was empty is that of its text. -/
theorem counted (h : Appended a {} w) : w.lineCount = newlines w.text := by
  rw [h.lineCount, h.text, newlines_append]
  rfl

end Appended

theorem appended_write (w : Writer) (text : String) : Appended text w (w.write text) :=
  ⟨rfl, rfl⟩

theorem appended_newline (w : Writer) : Appended "\n" w w.newline :=
  ⟨rfl, by rw [newline, show newlines "\n" = 1 by decide]⟩

theorem appended_line (w : Writer) (text : String) : Appended (text ++ "\n") w (w.line text) :=
  (appended_write w text).trans (appended_newline _)

theorem appended_apply (w : Writer) (c : Command) : Appended c.text w (w.apply c) := by
  cases c with
  | write text => exact appended_write w text
  | line text => exact appended_line w text
  | comment text => exact appended_line w (commentText text)
  | newline => exact appended_newline w
  | blankLine => exact appended_newline w

theorem appended_run (w : Writer) (commands : List Command) :
    Appended (String.join (commands.map Command.text)) w (w.run commands) := by
  induction commands generalizing w with
  | nil => exact .refl w
  | cons c commands ih =>
    rw [List.map_cons, String.join_cons]
    exact (appended_apply w c).trans (ih _)

theorem appended_lines (w : Writer) (ls : List String) :
    Appended (unlines ls) w (w.lines ls) := by
  induction ls generalizing w with
  | nil => exact .refl w
  | cons l ls ih =>
    rw [unlines, List.map_cons, String.join_cons]
    exact (appended_line w l).trans (ih _)

theorem blankLine_eq_line (w : Writer) : w.blankLine = w.line "" := by
  rw [blankLine, line, write, String.append_empty]
  rfl

theorem lines_eq_run (w : Writer) (ls : List String) : w.lines ls = w.run (ls.map .line) := by
  rw [lines, run, List.foldl_map]
  rfl

end Writer

namespace Section

open LinkStubs.Writer

theorem appended_render (s : Section) (w : Writer) : Appended s.text w (s.render w) :=
  appended_lines w s.lines

theorem text_render_empty (s : Section) : (s.render {}).text = s.text := by
  rw [(s.appended_render {}).text, String.empty_append]

theorem appended_renderAll (sections : List Section) (w : Writer) :
    Appended (String.join (sections.map text)) w (renderAll sections w) := by
  induction sections generalizing w with
  | nil => exact .refl w
  | cons s sections ih =>
    rw [List.map_cons, String.join_cons]
    exact (s.appended_render w).trans (ih _)

/-- An extra header is written as it is, between two newlines. -/
theorem render_extraHeader (path extra : String) (w : Writer) :
    (implementationPreamble path (some extra)).render w =
      ((implementationPreamble path none).render w).run [.newline, .write extra, .newline] := by
  have hlines : (implementationPreamble path (some extra)).lines =
      (implementationPreamble path none).lines ++ [Emit.blank, extra] := by
    simp [Section.lines, Emit.implementationPreamble]
  rw [render, render, hlines, Writer.lines, List.foldl_append]
  change ((w.lines _).line "").line extra = _
  rw [← blankLine_eq_line]
  rfl

end Section

namespace StubPair

/-- Sections are written into a file as each would be alone. -/
theorem text_render_sections (sections : List Section) :
    (render sections).text = String.join (sections.map (fun s => (s.render {}).text)) := by
  rw [render, (Section.appended_renderAll sections {}).text, String.empty_append]
  simp only [Section.text_render_empty]

end StubPair

namespace Writer

/-- Commands add their texts, and the counts of a writer are those of its text, whatever it was told
to write. A section adds the same text behind all that, and files are made of nothing else. -/
theorem run_appended :
    (∀ commands : List Command,
      Appended (String.join (commands.map Command.text)) {} (run {} commands) ∧
      (run {} commands).lineCount = newlines (run {} commands).text ∧
      (run {} commands).size = (octets (run {} commands).text).length ∧
      ∀ s : Section, Appended (s.render {}).text (run {} commands) (s.render (run {} commands))) ∧
    (∀ (u : StubUnit) (settings : Settings) (pair : StubPair),
      StubPair.generate settings u = .ok pair →
        pair.header = String.join ((u.headerSections settings).map (fun s => (s.render {}).text)) ∧
        pair.implementation =
          String.join ((u.implementationSections settings).map (fun s => (s.render {}).text))) ∧
    ∀ e : ExportList, e.text = ((Section.exportList e).render {}).text := by
  refine ⟨fun commands => ?_, ?_, ?_⟩
  · have h := appended_run {} commands
    refine ⟨h, h.counted, (length_octets _).symm, fun s => ?_⟩
    rw [s.text_render_empty]
    exact s.appended_render _
  · intro u settings pair h
    obtain ⟨-, -, rfl⟩ := StubPair.generate_eq_ok h
    exact ⟨StubPair.text_render_sections _, StubPair.text_render_sections _⟩
  · exact fun e => (Section.exportList e).text_render_empty.symm

/-- Newlines are counted wherever they are written, and octets and not characters are counted. -/
theorem run_appended_of_one :
    (run {} [.write "a\né", .comment "x\ny", .blankLine]).lineCount = 4 ∧
      (octets (run {} [.write "a\né", .comment "x\ny", .blankLine]).text).length = 12 ∧
      ∃ pair, StubPair.generate { extraHeader := some "#x\n" }
          (.ofModules [⟨"m", []⟩] "media" "stubs") = .ok pair ∧
        pair.header = String.join (((StubUnit.ofModules [⟨"m", []⟩] "media" "stubs").headerSections
          { extraHeader := some "#x\n" }).map (fun s => (s.render {}).text)) := by
  obtain ⟨-, hcount, -, -⟩ :=
    run_appended.1 [.write "a\né", .comment "x\ny", .blankLine]
  have hpair : StubPair.generate { extraHeader := some "#x\n" }
      (.ofModules [⟨"m", []⟩] "media" "stubs") = .ok (StubPair.ofUnit
        (.ofModules [⟨"m", []⟩] "media" "stubs") { extraHeader := some "#x\n" }) :=
    StubPair.generate_of_accepted (by decide) (by simp [StubUnit.ofModules])
  exact ⟨by decide, by decide, _, hpair, (run_appended.2.1 _ _ _ hpair).1⟩

end Writer

end LinkStubs
