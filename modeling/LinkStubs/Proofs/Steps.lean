import LinkStubs.Generation.Run

/-!
What each step of a command does to a session, one equation a step.
-/

namespace LinkStubs.Run

variable {α β : Type}

@[simp] theorem start_pure (a : α) (s : Session) : start (pure a : Run α) s = (.ok a, s) := rfl

@[simp] theorem start_get (s : Session) : start (get : Run Session) s = (.ok s, s) := rfl

/-- A failure keeps what was done before it, in a command as in a plan. -/
theorem run_bind {σ : Type} (x : ExceptT GenerationError (StateM σ) α)
    (f : α → ExceptT GenerationError (StateM σ) β) (s : σ) :
    (x >>= f).run.run s =
      match x.run.run s with
      | (.ok a, t) => (f a).run.run t
      | (.error e, t) => (.error e, t) := by
  have hx : (x >>= f).run.run s = ((x.run >>= ExceptT.bindCont f : StateM σ _).run s) := rfl
  rw [hx, StateT.run_bind]
  change (match x.run.run s with
    | (result, t) => (ExceptT.bindCont f result : StateM σ _).run t) = _
  rcases x.run.run s with ⟨_ | _, t⟩ <;> rfl

theorem start_bind (x : Run α) (f : α → Run β) (s : Session) :
    start (x >>= f) s =
      match start x s with
      | (.ok a, t) => start (f a) t
      | (.error e, t) => (.error e, t) := by
  rw [start, run_bind, start]
  rcases x.run.run s with ⟨_ | _, t⟩ <;> rfl

/-- What follows a step is done just where the step has a result. -/
theorem run_bind_eq_ok {σ : Type} {x : ExceptT GenerationError (StateM σ) α}
    {f : α → ExceptT GenerationError (StateM σ) β} {b : β} {s t : σ} :
    (x >>= f).run.run s = (.ok b, t) ↔
      ∃ a u, x.run.run s = (.ok a, u) ∧ (f a).run.run u = (.ok b, t) := by
  rw [run_bind]
  rcases x.run.run s with ⟨e | a, u⟩
  · constructor
    · intro h
      cases h
    · rintro ⟨a, v, h, -⟩
      cases h
  · constructor
    · exact fun h => ⟨a, u, rfl, h⟩
    · rintro ⟨c, v, h, hf⟩
      cases h
      exact hf

theorem start_bind_eq_ok {x : Run α} {f : α → Run β} {b : β} {s t : Session} :
    start (x >>= f) s = (.ok b, t) ↔
      ∃ a u, start x s = (.ok a, u) ∧ start (f a) u = (.ok b, t) :=
  run_bind_eq_ok

/-- The result of a step, and whatever session it leaves. -/
theorem start_eq_of_fst {x : Run α} {s : Session} {result : Except GenerationError α}
    (h : (start x s).1 = result) : start x s = (result, (start x s).2) :=
  Prod.ext h rfl

/-- A logged result writes the log and nothing else. -/
theorem start_ofLogged (x : Logged α) (s : Session) :
    start (ofLogged x) s =
      ((x.run.run s.log).1, { s with log := (x.run.run s.log).2 }) := by
  rw [ofLogged, start_bind, start_get]
  dsimp only
  cases x.run.run s.log with
  | mk result log => cases result <;> rfl

theorem start_log (e : LogEvent) (s : Session) :
    start (log e) s = (.ok (), { s with log := s.log ++ [e] }) := by
  rw [log, start_ofLogged]
  rfl

theorem start_print (text : String) (s : Session) :
    start (print text) s =
      (.ok (s.console.pass s.output text).1,
        { s with output := s.output ++ (s.console.pass s.output text).2 }) := rfl

/-- What is refused of a text is a failure, and what is taken of it stays printed. -/
theorem start_forward (program text : String) (s : Session) :
    start (forward program text) s =
      match s.console.pass s.output text with
      | (none, taken) => (.ok (), { s with output := s.output ++ taken })
      | (some reason, taken) =>
        (.error (.files (.output program reason)), { s with output := s.output ++ taken }) := by
  rw [forward, start_bind, start_print]
  dsimp only
  cases s.console.pass s.output text with
  | mk refusal taken => cases refusal <;> rfl

theorem start_makeDirectory (path : String) (s : Session) :
    start (makeDirectory path) s =
      match s.tree.makeDirectories path with
      | (none, tree) => (.ok (), { s with tree })
      | (some reason, tree) => (.error (.files (.directory path reason)), { s with tree }) := by
  rw [makeDirectory, start_bind, start_get]
  dsimp only
  cases s.tree.makeDirectories path with
  | mk failure tree => cases failure <;> rfl

/-- A file that cannot be written leaves the session as it was. -/
theorem start_writeFile (f : PendingFile) (s : Session) :
    start (writeFile f) s =
      match s.tree.writeText f.path f.contents with
      | .error reason => (.error (.files (.file f.path reason)), s)
      | .ok tree =>
        (.ok f.path,
          { s with tree, log := s.log ++ [.wroteFile f.path f.contents.utf8ByteSize] }) := by
  rw [writeFile, start_bind, start_get]
  dsimp only
  cases s.tree.writeText f.path f.contents with
  | error reason => rfl
  | ok tree => rfl

theorem start_invoke (tools : Toolbox) (invocation : Invocation) (s : Session) :
    start (invoke tools invocation) s =
      (.ok (tools s.invocations invocation s.tree).1,
        { s with
          tree := (tools s.invocations invocation s.tree).2
          invocations := s.invocations ++ [invocation]
          log := s.log ++ [.runningTool invocation] }) := by
  rw [invoke, start_bind, start_log]
  rfl

end LinkStubs.Run
