import LinkStubs.Proofs.LibrarySteps

/-!
A generation that cannot be planned does nothing. Carrying out a plan has faults of its own, so the
kind of an error tells whether anything was made.
-/

namespace LinkStubs

/-- The errors that a plan can end in: signatures that cannot be read, stubs that cannot be generated,
options that do not fit together, and an extra header that cannot be read. -/
def GenerationError.OfPlan : GenerationError → Prop
  | .source _ | .emit _ | .options _ | .files (.extraHeader ..) => True
  | .files (.directory ..) | .files (.file ..) | .files (.output ..) | .defaults _ | .tool _ => False

namespace Run

variable {α β : Type}

def PastPlan (x : Run α) : Prop :=
  ∀ (s t : Session) (e : GenerationError), start x s = (.error e, t) → ¬ e.OfPlan

theorem pastPlan_pure (a : α) : PastPlan (pure a : Run α) := by
  intro s t e he
  rw [start_pure] at he
  cases he

theorem PastPlan.bind {x : Run α} {f : α → Run β} (hx : PastPlan x)
    (hf : ∀ a, PastPlan (f a)) : PastPlan (x >>= f) := by
  intro s t e he
  rw [start_bind] at he
  cases h : start x s with
  | mk result u =>
    rw [h] at he
    cases result with
    | ok a => exact hf a u t e he
    | error d =>
      cases he
      exact hx s t e h

theorem makeDirectory_pastPlan (path : String) : PastPlan (makeDirectory path) := by
  intro s t e he
  rw [start_makeDirectory] at he
  split at he
  · cases he
  · cases he
    exact id

theorem writeFile_pastPlan (f : PendingFile) : PastPlan (writeFile f) := by
  intro s t e he
  rw [start_writeFile] at he
  split at he
  · cases he
    exact id
  · cases he

theorem writeFiles_pastPlan (pending : List PendingFile) : PastPlan (writeFiles pending) := by
  induction pending with
  | nil => exact pastPlan_pure []
  | cons f fs ih =>
    exact (writeFile_pastPlan f).bind (fun _ => ih.bind (fun _ => pastPlan_pure _))

theorem makeLibraries_pastPlan (tools : Toolbox) (program : String) (machine : TargetMachine)
    (jobs : List LibraryJob) : PastPlan (makeLibraries tools program machine jobs) := by
  intro s t e h
  obtain ⟨steps, -, -, hend⟩ := makeLibraries_steps h
  cases hend with
  | failed _ _ _ _ => exact id
  | unforwarded _ _ => exact id
  | unwritten _ _ _ => exact id

theorem carryOut_pastPlan (tools : Toolbox) (o : GenerateOptions) (d : Defaults) (plan : Plan) :
    PastPlan (carryOut tools o d plan) := by
  apply PastPlan.bind
  · exact (makeDirectory_pastPlan o.output).bind (fun _ => makeDirectory_pastPlan o.intermediate)
  · intro _
    cases plan with
    | files pending => exact writeFiles_pastPlan pending
    | libraries machine jobs => exact makeLibraries_pastPlan tools _ machine jobs

/-- A generation makes its plan first, and writes no more than the log over it. -/
theorem start_generate (tools : Toolbox) (o : GenerateOptions) (d : Defaults) (s : Session) :
    start (generate tools o d) s =
      match (Plan.make s.tree o d).run.run s.log with
      | (.ok plan, log) => start (carryOut tools o d plan) { s with log }
      | (.error e, log) => (.error e, { s with log }) := by
  rw [generate, start_bind, start_get]
  dsimp only
  rw [start_bind, start_ofLogged]
  cases (Plan.make s.tree o d).run.run s.log with
  | mk result log => cases result <;> rfl

/-- A generation that ends in an error of its plan leaves the files as they were, has called no tool
and has printed nothing. -/
theorem generate_untouched (tools : Toolbox) (o : GenerateOptions) (d : Defaults) (s t : Session)
    (e : GenerationError) (h : start (generate tools o d) s = (.error e, t)) (he : e.OfPlan) :
    t.tree = s.tree ∧ t.invocations = s.invocations ∧ t.output = s.output := by
  rw [start_generate] at h
  split at h
  · exact absurd he (carryOut_pastPlan tools o d _ _ t e h)
  · cases h
    exact ⟨rfl, rfl, rfl⟩

/-- A fault in the second of two files stops the libraries of both. -/
theorem generate_untouched_of_faulty_input :
    ∃ t : Session,
      start (generate (fun _ _ tree => (.finished (some 0) .empty, tree))
          { inputs := ["a.sigs", "b.sigs"], output := "out", kind := .windowsLib } {})
        { tree := { entries :=
            [ (["a.sigs"], .file "int f2(int a)\n".toUTF8 false),
              (["b.sigs"], .file "\nno signature\n".toUTF8 true) ] } } =
        (.error (.source ⟨.badSignature, ⟨2, 1⟩, "Unparsable line: no signature", some "b.sigs"⟩),
          t) ∧
      t.tree = { entries :=
        [ (["a.sigs"], .file "int f2(int a)\n".toUTF8 false),
          (["b.sigs"], .file "\nno signature\n".toUTF8 true) ] } ∧
      t.invocations = [] ∧ t.output = "" := by
  have h : (start (generate (fun _ _ tree => (.finished (some 0) .empty, tree))
        { inputs := ["a.sigs", "b.sigs"], output := "out", kind := .windowsLib } {})
      { tree := { entries :=
          [ (["a.sigs"], .file "int f2(int a)\n".toUTF8 false),
            (["b.sigs"], .file "\nno signature\n".toUTF8 true) ] } }).1 =
      .error (.source
        ⟨.badSignature, ⟨2, 1⟩, "Unparsable line: no signature", some "b.sigs"⟩) := by rfl
  exact ⟨_, Prod.ext h rfl, generate_untouched _ _ _ _ _ _ (Prod.ext h rfl) trivial⟩

end Run

end LinkStubs
