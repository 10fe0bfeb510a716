import LinkStubs.FileError

/-!
Standard output, which may take a text, or a part of it, or nothing.
-/

namespace LinkStubs

/-- Why a text is refused behind what has been printed before it, and how many of its characters are
taken nevertheless. -/
abbrev Console := String → String → Option (FileError × Nat)

namespace Console

/-- What comes of printing `text`, with the part of it that is taken. An empty text is not printed
at all. -/
def pass (c : Console) (before text : String) : Option FileError × String :=
  if text.isEmpty then (none, "")
  else
    match c before text with
    | none => (none, text)
    | some (reason, taken) => (some reason, String.ofList (text.toList.take taken))

def TakesAll (c : Console) : Prop :=
  ∀ before text, c before text = none

/-- A text that is not refused is taken in full. -/
theorem pass_snd_of_fst {c : Console} {before text : String}
    (h : (c.pass before text).1 = none) : (c.pass before text).2 = text := by
  revert h
  rw [pass]
  split
  · rename_i hempty
    exact fun _ => (String.isEmpty_iff.mp hempty).symm
  · cases c before text with
    | none => exact fun _ => rfl
    | some refusal => exact nofun

theorem pass_snd_prefix (c : Console) (before text : String) :
    (c.pass before text).2.toList <+: text.toList := by
  rw [pass]
  split
  · exact List.nil_prefix
  · cases c before text with
    | none => exact List.prefix_rfl
    | some refusal =>
      obtain ⟨reason, taken⟩ := refusal
      rw [String.toList_ofList]
      exact List.take_prefix taken text.toList

theorem TakesAll.pass {c : Console} (h : c.TakesAll) (before text : String) :
    c.pass before text = (none, text) := by
  rw [Console.pass, h before text]
  split
  · rename_i hempty
    rw [String.isEmpty_iff.mp hempty]
  · rfl

/-- A device without space. -/
def full : Console := fun _ _ => some (.noSpace, 0)

end Console

end LinkStubs
