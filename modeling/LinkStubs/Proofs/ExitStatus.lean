import LinkStubs.CommandLine.Outcome
import LinkStubs.Proofs.Checking

/-!
The status that the process of a command leaves with. All calls of the import tool in a command are
steps of one run over libraries, of which only the last can fail; its code is passed on where it is
a status, and no other error, nor a code that does not fit, is taken for a success.
-/

namespace LinkStubs

open LinkStubs.Run

namespace GenerationError

variable {code : Int}

theorem statusOf_of_fits (h : 0 ≤ code) (h' : code ≤ 255) : (statusOf code : Int) = code := by
  rw [statusOf, if_pos (by simp [h, h'])]
  exact Int.toNat_of_nonneg h

theorem statusOf_of_unfit (h : code < 0 ∨ 255 < code) : statusOf code = 1 := by
  rw [statusOf, if_neg]
  simp only [Bool.and_eq_true, decide_eq_true_eq]
  omega

theorem statusOf_le (code : Int) : statusOf code ≤ 255 := by
  by_cases h : 0 ≤ code ∧ code ≤ 255
  · have hcode := statusOf_of_fits h.1 h.2
    omega
  · have hstatus : statusOf code = 1 := statusOf_of_unfit (by omega)
    omega

/-- Narrowing makes no success of another code. -/
theorem statusOf_eq_zero_iff : statusOf code = 0 ↔ code = 0 := by
  by_cases h : 0 ≤ code ∧ code ≤ 255
  · have hcode := statusOf_of_fits h.1 h.2
    omega
  · have hstatus : statusOf code = 1 := statusOf_of_unfit (by omega)
    omega

end GenerationError

namespace ToolRun

variable {run : ToolRun}

/-- A run that has no code to pass on: the tool has not started, or it was killed, or its code is no
status. -/
def Codeless : ToolRun → Prop
  | .refused _ | .finished none _ => True
  | .finished (some code) _ => code < 0 ∨ 255 < code

theorem exitCode_eq_zero_iff : run.exitCode = 0 ↔ run.Succeeded := by
  cases run with
  | refused reason => exact iff_of_false Int.one_ne_zero (not_succeeded_refused reason)
  | finished status output =>
    rw [succeeded_finished_iff]
    cases status with
    | none => exact iff_of_false Int.one_ne_zero (by simp)
    | some code => simp [exitCode]

theorem statusOf_codeless (h : run.Codeless) : GenerationError.statusOf run.exitCode = 1 := by
  cases run with
  | refused reason => rfl
  | finished status output =>
    cases status with
    | none => rfl
    | some code => exact GenerationError.statusOf_of_unfit h

theorem not_succeeded_of_codeless (h : run.Codeless) : ¬ run.Succeeded := by
  intro hs
  have hstatus := statusOf_codeless h
  rw [exitCode_eq_zero_iff.mpr hs] at hstatus
  cases hstatus

end ToolRun

/-- What goes wrong with a plan is none of what can go wrong with carrying it out. -/
theorem Plan.make_ofPlan {tree : FileTree} {o : GenerateOptions} {d : Defaults}
    {log : List LogEvent} {e : GenerationError} (h : ((make tree o d).run.run log).1 = .error e) :
    e.OfPlan := by
  rcases make_cases tree o d log with ⟨_, -, he⟩ | ⟨_, -, -, he⟩ | ⟨modules, mid, -, -, hrun⟩
  · rw [h] at he
    cases he
    trivial
  · rw [h] at he
    cases he
    trivial
  · have hkind := ofKind_behindInputs tree o d mid modules
    rw [← hrun, h] at hkind
    cases e with
    | files fault =>
      cases fault with
      | extraHeader path reason => trivial
      | directory path reason => exact hkind
      | file path reason => exact hkind
      | output program reason => exact hkind
    | source fault => trivial
    | emit fault => trivial
    | options fault => trivial
    | defaults fault => exact hkind
    | tool fault => exact hkind

def failure? {α : Type} : Except GenerationError α → Option GenerationError
  | .error e => some e
  | .ok _ => none

/-- How a command ends behind the steps that have called the tool: with none of them failed, with
the failure of the last, or with what the last has printed refused. -/
inductive ToolEnd (program : String) : List LibraryStep → Option GenerationError → Prop where
  | failed {done : List LibraryStep} {last : LibraryStep}
      (succeeded : ∀ step ∈ done, step.Succeeded) (taken : last.refusal = none)
      (fails : ¬ last.run.Succeeded) :
      ToolEnd program (done ++ [last]) (some (.tool (last.run.faultOf program last.job)))
  | unforwarded {done : List LibraryStep} {last : LibraryStep} {reason : FileError}
      (succeeded : ∀ step ∈ done, step.Succeeded) (refused : last.refusal = some reason) :
      ToolEnd program (done ++ [last]) (some (.files (.output program reason)))
  | other {steps : List LibraryStep} {failure : Option GenerationError}
      (succeeded : ∀ step ∈ steps, step.Succeeded)
      (untold : ∀ fault, failure ≠ some (.tool fault)) : ToolEnd program steps failure

theorem LibraryEnd.toolEnd {program : String} {jobs : List LibraryJob} {tree : FileTree}
    {steps : List LibraryStep} {result : Except GenerationError (List String)}
    (h : LibraryEnd program jobs tree steps result) : ToolEnd program steps (failure? result) := by
  cases h with
  | made _ succeeded => exact .other succeeded (by simp [failure?])
  | failed succeeded taken fails _ => exact .failed succeeded taken fails
  | unforwarded succeeded refused => exact .unforwarded succeeded refused
  | unwritten succeeded _ _ => exact .other succeeded (by simp [failure?])

theorem GenerationError.status_of_untold {e : GenerationError} (h : ∀ fault, e ≠ .tool fault) :
    e.status = 1 := by
  cases e with
  | tool fault => exact absurd rfl (h fault)
  | _ => rfl

namespace ToolEnd

variable {program : String} {steps : List LibraryStep} {e : GenerationError}
  {failure : Option GenerationError}

theorem succeeded (h : ToolEnd program steps none) : ∀ step ∈ steps, step.Succeeded := by
  cases h with
  | other succeeded _ => exact succeeded

/-- Of steps that go on for as long as they succeed, only the last can fail. -/
theorem eq_last {done : List LibraryStep} {step last : LibraryStep}
    (succeeded : ∀ step ∈ done, step.Succeeded) (hstep : step ∈ done ++ [last])
    (hfails : ¬ step.Succeeded) : step = last := by
  rcases List.mem_append.mp hstep with hdone | hlast
  · exact absurd (succeeded step hdone) hfails
  · exact List.mem_singleton.mp hlast

/-- The status is that of the call that has failed, if what it printed is taken. -/
theorem failing (h : ToolEnd program steps (some e)) :
    ∀ step ∈ steps, step.refusal = none → ¬ step.run.Succeeded →
      e.status = GenerationError.statusOf step.run.exitCode := by
  intro step hstep htaken hfails
  have hunsuccessful : ¬ step.Succeeded := fun hs => hfails hs.2
  cases h with
  | failed succeeded _ _ =>
    rw [eq_last succeeded hstep hunsuccessful]
    exact congrArg GenerationError.statusOf (ToolRun.code_faultOf _ _ _)
  | unforwarded succeeded refused =>
    rw [eq_last succeeded hstep hunsuccessful, refused] at htaken
    cases htaken
  | other succeeded _ => exact absurd (succeeded step hstep) hunsuccessful

theorem status_ne_zero (h : ToolEnd program steps (some e)) : e.status ≠ 0 := by
  cases h with
  | @failed done last succeeded taken fails =>
    rw [failing (.failed succeeded taken fails) last (by simp) taken fails]
    rwa [ne_eq, GenerationError.statusOf_eq_zero_iff, ToolRun.exitCode_eq_zero_iff]
  | unforwarded _ _ => exact Nat.one_ne_zero
  | other _ untold =>
    rw [GenerationError.status_of_untold (fun fault he => untold fault (congrArg some he))]
    decide

theorem status_of_succeeded (h : ToolEnd program steps (some e))
    (hall : ∀ step ∈ steps, step.run.Succeeded) : e.status = 1 := by
  cases h with
  | @failed done last _ _ fails => exact absurd (hall last (by simp)) fails
  | unforwarded _ _ => rfl
  | other _ untold =>
    exact GenerationError.status_of_untold (fun fault he => untold fault (congrArg some he))

/-- Where anything is refused, that is the failure. -/
theorem refused (h : ToolEnd program steps failure) {step : LibraryStep} {reason : FileError}
    (hstep : step ∈ steps) (hrefused : step.refusal = some reason) :
    failure = some (.files (.output program reason)) := by
  have hunsuccessful : ¬ step.Succeeded := by
    intro hs
    rw [hs.1] at hrefused
    cases hrefused
  cases h with
  | failed succeeded taken _ =>
    rw [eq_last succeeded hstep hunsuccessful, taken] at hrefused
    cases hrefused
  | unforwarded succeeded refused =>
    rw [eq_last succeeded hstep hunsuccessful, refused] at hrefused
    cases hrefused
    rfl
  | other succeeded _ => exact absurd (succeeded step hstep) hunsuccessful

theorem result_refused {α : Type} {result : Except GenerationError α}
    (h : ToolEnd program steps (failure? result)) {step : LibraryStep} {reason : FileError}
    (hstep : step ∈ steps) (hrefused : step.refusal = some reason) :
    result = .error (.files (.output program reason)) := by
  have hfailure := h.refused hstep hrefused
  cases result with
  | ok _ => cases hfailure
  | error e => exact congrArg Except.error (Option.some.inj hfailure)

end ToolEnd

/-- The calls of a tool up to a session: they are those of steps that started without calls. A
console that takes everything refuses nothing that they have printed. -/
structure Accounts (tools : Toolbox) (program : String) (machine : TargetMachine)
    (steps : List LibraryStep) (console : Console) (t : Session) : Prop where
  calls : t.invocations = steps.map (·.invocation program machine)
  run : ∃ u : Session, u.invocations = [] ∧ u.console = console ∧
    LibrarySteps tools program machine u steps t
  taken : console.TakesAll → ∀ step ∈ steps, step.refusal = none

namespace Run

variable {α β : Type} {tools : Toolbox} {x : Run α} {f : α → Run β}

/-- A step that calls no tool and does not fail for one. -/
def Toolless (x : Run α) : Prop :=
  ∀ (s t : Session) (result : Except GenerationError α), start x s = (result, t) →
    t.invocations = s.invocations ∧ t.console = s.console ∧
      ∀ fault, failure? result ≠ some (.tool fault)

/-- A step whose calls, where it is the first to make any, go on for as long as the tool
succeeds. -/
def Accounted (tools : Toolbox) (x : Run α) : Prop :=
  ∀ (s t : Session) (result : Except GenerationError α), s.invocations = [] →
    start x s = (result, t) →
      ∃ program machine steps, Accounts tools program machine steps s.console t ∧
        ToolEnd program steps (failure? result)

theorem Toolless.accounted (hx : Toolless x) : Accounted tools x := by
  intro s t result hs h
  obtain ⟨hcalls, hconsole, huntold⟩ := hx s t result h
  have ht : t.invocations = [] := hcalls.trans hs
  exact ⟨"", .x86, [], ⟨ht, ⟨t, ht, hconsole, .nil t⟩, by simp⟩, .other (by simp) huntold⟩

theorem Toolless.bind_accounted (hx : Toolless x) (hf : ∀ a, Accounted tools (f a)) :
    Accounted tools (x >>= f) := by
  intro s t result hs h
  rw [start_bind] at h
  cases hstart : start x s with
  | mk first u =>
    rw [hstart] at h
    cases first with
    | error e =>
      cases h
      exact hx.accounted s _ _ hs hstart
    | ok a =>
      obtain ⟨hcalls, hconsole, -⟩ := hx s u _ hstart
      rw [← hconsole]
      exact hf a u t result (hcalls.trans hs) h

theorem Toolless.bind (hx : Toolless x) (hf : ∀ a, Toolless (f a)) : Toolless (x >>= f) := by
  intro s t result h
  rw [start_bind] at h
  cases hstart : start x s with
  | mk first u =>
    obtain ⟨hcalls, hconsole, huntold⟩ := hx s u first hstart
    rw [hstart] at h
    cases first with
    | error e =>
      cases h
      exact ⟨hcalls, hconsole, huntold⟩
    | ok a =>
      obtain ⟨hcalls', hconsole', huntold'⟩ := hf a u t result h
      exact ⟨hcalls'.trans hcalls, hconsole'.trans hconsole, huntold'⟩

/-- What a result is made into makes no difference to the calls before. -/
theorem Accounted.bind_pure (hx : Accounted tools x) (b : β) :
    Accounted tools (x >>= fun _ => (pure b : Run β)) := by
  intro s t result hs h
  rw [start_bind] at h
  cases hstart : start x s with
  | mk first u =>
    have hfirst := hx s u first hs hstart
    rw [hstart] at h
    cases first with
    | error e =>
      cases h
      exact hfirst
    | ok a =>
      cases h
      exact hfirst

theorem toolless_pure (a : α) : Toolless (pure a : Run α) := by
  intro s t result h
  cases h
  exact ⟨rfl, rfl, nofun⟩

theorem toolless_get : Toolless (get : Run Session) := by
  intro s t result h
  cases h
  exact ⟨rfl, rfl, nofun⟩

theorem toolless_ofLogged {y : Logged α}
    (h : ∀ log fault, failure? (y.run.run log).1 ≠ some (.tool fault)) : Toolless (ofLogged y) := by
  intro s t result hstart
  rw [start_ofLogged] at hstart
  cases hstart
  exact ⟨rfl, rfl, h s.log⟩

theorem toolless_makeDirectory (path : String) : Toolless (makeDirectory path) := by
  intro s t result h
  rw [start_makeDirectory] at h
  split at h
  · cases h
    exact ⟨rfl, rfl, nofun⟩
  · cases h
    exact ⟨rfl, rfl, nofun⟩

theorem toolless_writeFile (f : PendingFile) : Toolless (writeFile f) := by
  intro s t result h
  rw [start_writeFile] at h
  split at h
  · cases h
    exact ⟨rfl, rfl, nofun⟩
  · cases h
    exact ⟨rfl, rfl, nofun⟩

theorem toolless_writeFiles (pending : List PendingFile) : Toolless (writeFiles pending) := by
  induction pending with
  | nil => exact toolless_pure []
  | cons f fs ih =>
    exact (toolless_writeFile f).bind (fun _ => ih.bind (fun _ => toolless_pure _))

theorem toolless_check (inputs : List String) : Toolless (Check.run inputs) := by
  intro s t result h
  obtain ⟨hcalls, hconsole, -⟩ := Check.start_run_quiet h
  refine ⟨hcalls, hconsole, ?_⟩
  cases result with
  | ok _ => exact nofun
  | error e =>
    obtain ⟨first, -, rfl⟩ := Check.summaries_eq_error_iff.mp (Check.start_run_error h).1
    exact nofun

theorem toolless_loadDefaults (named surrounding : Option String) :
    Toolless (loadDefaults named surrounding) := by
  rw [loadDefaults]
  cases named <|> surrounding with
  | none => exact toolless_pure _
  | some path =>
    refine toolless_get.bind (fun s => ?_)
    cases Defaults.ofFile s.tree path with
    | error fault =>
      intro s t result h
      cases h
      exact ⟨rfl, rfl, nofun⟩
    | ok defaults =>
      refine Toolless.bind (toolless_ofLogged ?_) (fun _ => toolless_pure _)
      intro log fault he
      cases he

theorem accounted_makeLibraries (tools : Toolbox) (program : String) (machine : TargetMachine)
    (jobs : List LibraryJob) : Accounted tools (makeLibraries tools program machine jobs) := by
  intro s t result hs h
  obtain ⟨steps, hsteps, -, hend⟩ := makeLibraries_steps h
  have hcalls := hsteps.calls
  rw [hs, List.nil_append] at hcalls
  exact ⟨program, machine, steps, ⟨hcalls, ⟨s, hs, rfl, hsteps⟩, hsteps.taken⟩, hend.toolEnd⟩

theorem accounted_carryOut (tools : Toolbox) (o : GenerateOptions) (d : Defaults) (plan : Plan) :
    Accounted tools (carryOut tools o d plan) := by
  refine ((toolless_makeDirectory o.output).bind
    (fun _ => toolless_makeDirectory o.intermediate)).bind_accounted (fun _ => ?_)
  cases plan with
  | files pending => exact (toolless_writeFiles pending).accounted
  | libraries machine jobs => exact accounted_makeLibraries tools _ machine jobs

theorem accounted_generateWith (tools : Toolbox) (surrounding : Option String)
    (o : GenerateOptions) : Accounted tools (generateWith tools surrounding o) := by
  refine (toolless_loadDefaults o.config surrounding).bind_accounted (fun d => ?_)
  refine toolless_get.bind_accounted (fun s => ?_)
  refine Toolless.bind_accounted (toolless_ofLogged ?_)
    (fun plan => accounted_carryOut tools o d plan)
  intro log fault he
  cases hplan : ((Plan.make s.tree o d).run.run log).1 with
  | ok plan => simp [hplan, failure?] at he
  | error e =>
    have hof := Plan.make_ofPlan hplan
    rw [hplan] at he
    cases he
    exact hof

end Run

namespace CommandLine

variable {tools : Toolbox} {surrounding : Option String} {tree : FileTree} {args : List String}
  {call : Call} {host : Host} {result : Except GenerationError (Option FileError)} {s t : Session}

theorem Command.accounted_run (tools : Toolbox) (surrounding : Option String) (c : Command) :
    Accounted tools (c.run tools surrounding) := by
  cases c with
  | generate o => exact (accounted_generateWith tools surrounding o).bind_pure none
  | check inputs => exact (toolless_check inputs).accounted

/-- A command that may print all it has to is not refused. -/
theorem Command.unrefused {c : Command} (h : start (c.run tools surrounding) s = (result, t))
    (hs : s.console.TakesAll) (reason : FileError) : result ≠ .ok (some reason) := by
  cases c with
  | check inputs => exact (Check.start_run_quiet h).2.2 hs reason
  | generate o =>
    rintro rfl
    obtain ⟨_, _, -, hpure⟩ := start_bind_eq_ok.mp h
    cases hpure

/-- A process that cannot write what its command has to say: a line of its own, or the message of an
error. -/
def Host.Panics (host : Host) : Except GenerationError (Option FileError) → Prop
  | .ok refusal => refusal ≠ none
  | .error e => host.messages (failureText e) ≠ none

theorem statusOf_of_panics (h : host.Panics result) : statusOf host result = host.panic.status := by
  cases result with
  | ok refusal =>
    obtain ⟨reason, rfl⟩ := Option.ne_none_iff_exists'.mp h
    rfl
  | error e =>
    obtain ⟨reason, hreason⟩ := Option.ne_none_iff_exists'.mp h
    rw [statusOf, hreason]

theorem statusOf_error {e : GenerationError} (h : ¬ host.Panics (.error e)) :
    statusOf host (.error e) = e.status := by
  rw [statusOf, not_not.mp h]

theorem PanicStrategy.status_ne_zero (p : PanicStrategy) : p.status ≠ 0 ∧ p.status ≤ 255 := by
  cases p <;> decide

/-- A status that tells what the calls of a tool and the command came to. -/
structure Tells (host : Host) (program : String) (steps : List LibraryStep)
    (result : Except GenerationError (Option FileError)) (status : Nat) : Prop where
  success : status = 0 ↔ result = .ok none
  fits : status ≤ 255
  panicked : host.Panics result → status = host.panic.status
  unpanicked : host.console.TakesAll → (∀ text, host.messages text = none) → ¬ host.Panics result
  passed : ¬ host.Panics result → ∀ step ∈ steps, step.refusal = none →
    ∀ (code : Int) (output : ByteArray), step.run = .finished (some code) output →
      1 ≤ code → code ≤ 255 → (status : Int) = code
  lost : ¬ host.Panics result → ∀ step ∈ steps, step.refusal = none → step.run.Codeless →
    status = 1
  /-- A tool whose output is refused is not asked for its status. -/
  unforwarded : ∀ step ∈ steps, ∀ reason, step.refusal = some reason →
    result = .error (.files (.output program reason)) ∧ (¬ host.Panics result → status = 1)
  other : ¬ host.Panics result → (∀ step ∈ steps, step.run.Succeeded) → result ≠ .ok none →
    status = 1

theorem passed_of_failing (steps : List LibraryStep) (status : Nat)
    (failing : ∀ step ∈ steps, step.refusal = none → ¬ step.run.Succeeded →
      status = GenerationError.statusOf step.run.exitCode) :
    (∀ step ∈ steps, step.refusal = none → ∀ (code : Int) (output : ByteArray),
      step.run = .finished (some code) output → 1 ≤ code → code ≤ 255 → (status : Int) = code) ∧
    ∀ step ∈ steps, step.refusal = none → step.run.Codeless → status = 1 := by
  constructor
  · intro step hstep htaken code output hrun hone hfits
    have hcode : step.run.exitCode = code := by rw [hrun]; rfl
    have hfails : ¬ step.run.Succeeded := by
      rw [← ToolRun.exitCode_eq_zero_iff]
      omega
    rw [failing step hstep htaken hfails, hcode]
    exact GenerationError.statusOf_of_fits (by omega) hfits
  · intro step hstep htaken hcodeless
    rw [failing step hstep htaken (ToolRun.not_succeeded_of_codeless hcodeless)]
    exact ToolRun.statusOf_codeless hcodeless

theorem not_panics_of_takesAll
    (hprinted : host.console.TakesAll → ∀ reason, result ≠ .ok (some reason))
    (htakes : host.console.TakesAll) (hmessages : ∀ text, host.messages text = none) :
    ¬ host.Panics result := by
  intro hpanics
  cases result with
  | ok refusal =>
    obtain ⟨reason, rfl⟩ := Option.ne_none_iff_exists'.mp hpanics
    exact hprinted htakes reason rfl
  | error e => exact hpanics (hmessages _)

theorem tells_of_panics {program : String} {steps : List LibraryStep}
    (h : ToolEnd program steps (failure? result))
    (hprinted : host.console.TakesAll → ∀ reason, result ≠ .ok (some reason))
    (hpanics : host.Panics result) : Tells host program steps result (statusOf host result) := by
  obtain ⟨hne, hle⟩ := host.panic.status_ne_zero
  have hstatus := statusOf_of_panics hpanics
  have hfailed : result ≠ .ok none := by
    rintro rfl
    exact hpanics rfl
  rw [hstatus]
  exact
    { success := iff_of_false hne hfailed
      fits := hle
      panicked := fun _ => rfl
      unpanicked := not_panics_of_takesAll hprinted
      passed := absurd hpanics
      lost := absurd hpanics
      unforwarded := fun step hstep reason hreason =>
        ⟨h.result_refused hstep hreason, absurd hpanics⟩
      other := absurd hpanics }

theorem tells_of_toolEnd {program : String} {steps : List LibraryStep}
    (h : ToolEnd program steps (failure? result))
    (hprinted : host.console.TakesAll → ∀ reason, result ≠ .ok (some reason)) :
    Tells host program steps result (statusOf host result) := by
  by_cases hpanics : host.Panics result
  · exact tells_of_panics h hprinted hpanics
  have hunpanicked := not_panics_of_takesAll hprinted
  cases result with
  | ok refusal =>
    -- Without a panic nothing of the program's own was refused, so the command has succeeded.
    obtain rfl : refusal = none := not_not.mp hpanics
    obtain ⟨hpassed, hlost⟩ := passed_of_failing steps 0
      (fun step hstep _ hfails => absurd (h.succeeded step hstep).2 hfails)
    refine ⟨iff_of_true rfl rfl, Nat.zero_le _, fun hp => absurd hp hpanics, hunpanicked,
      fun _ => hpassed, fun _ => hlost, ?_, fun _ _ hne => absurd rfl hne⟩
    intro step hstep reason hreason
    cases h.result_refused hstep hreason
  | error e =>
    obtain ⟨hpassed, hlost⟩ := passed_of_failing steps e.status h.failing
    rw [statusOf_error hpanics]
    refine ⟨iff_of_false h.status_ne_zero nofun, GenerationError.statusOf_le _,
      fun hp => absurd hp hpanics, hunpanicked, fun _ => hpassed, fun _ => hlost, ?_,
      fun _ hall _ => h.status_of_succeeded hall⟩
    intro step hstep reason hreason
    cases h.result_refused hstep hreason
    exact ⟨rfl, fun _ => rfl⟩

/-- The status of a process is zero just where its command has succeeded. It is the code of the call
that has failed, where that is a status and what the tool has printed could be passed on; it is one
for any other error, unless the process cannot even say so. -/
theorem run_tells (hargs : Call.ofArguments args = .ok call)
    (hrun : (call.command.run tools surrounding).start { tree, console := host.console } =
      (result, t)) :
    ∃ program machine steps, Accounts tools program machine steps host.console t ∧
      Tells host program steps result
        (CommandLine.run tools surrounding tree args host).status := by
  obtain ⟨program, machine, steps, haccounts, hend⟩ :=
    call.command.accounted_run tools surrounding _ t result rfl hrun
  refine ⟨program, machine, steps, haccounts, ?_⟩
  have hstatus : (CommandLine.run tools surrounding tree args host).status =
      statusOf host result := by
    rw [CommandLine.run, hargs]
    dsimp only
    rw [hrun]
    cases result <;> rfl
  rw [hstatus]
  exact tells_of_toolEnd hend (fun htakes => Command.unrefused hrun htakes)

def wideTool : Toolbox := fun earlier _ tree =>
  (.finished (some (if earlier.isEmpty then 0 else 256)) .empty, tree)

def twoInputs : FileTree :=
  { entries :=
      [ (["a.sigs"], .file "int f2(int a)\n".toUTF8 false),
        (["b.sigs"], .file "void g_3(void)\n".toUTF8 false) ] }

/-- A code of which the low eight bits are zero is no success. -/
theorem run_tells_of_wide_code :
    ∃ (call : Call) (t : Session),
      Call.ofArguments ["-q", "generate", "-t", "windows_lib", "-oout", "a.sigs", "b.sigs"] =
        .ok call ∧
      (call.command.run wideTool none).start { tree := twoInputs } =
        (.error (.tool (.failed "out/b.lib" "out/b.def" (some 256))), t) ∧
      (∃ program machine steps, Accounts wideTool program machine steps ({} : Host).console t ∧
        Tells {} program steps (.error (.tool (.failed "out/b.lib" "out/b.def" (some 256))))
          (CommandLine.run wideTool none twoInputs
            ["-q", "generate", "-t", "windows_lib", "-oout", "a.sigs", "b.sigs"]).status) ∧
      (CommandLine.run wideTool none twoInputs
        ["-q", "generate", "-t", "windows_lib", "-oout", "a.sigs", "b.sigs"]).status = 1 := by
  have hargs :
      Call.ofArguments ["-q", "generate", "-t", "windows_lib", "-oout", "a.sigs", "b.sigs"] =
        .ok ⟨.generate
          { inputs := ["a.sigs", "b.sigs"], output := "out", kind := .windowsLib }, .warn⟩ := by
    decide +kernel
  have hrun : (start (Command.run wideTool none (.generate
        { inputs := ["a.sigs", "b.sigs"], output := "out", kind := .windowsLib }))
      { tree := twoInputs }).1 =
      .error (.tool (.failed "out/b.lib" "out/b.def" (some 256))) := by
    decide +kernel
  exact ⟨_, _, hargs, start_eq_of_fst hrun,
    @run_tells _ _ _ _ _ {} _ _ hargs (start_eq_of_fst hrun), by decide +kernel⟩

/-- A tool that complains and fails. -/
def brokenTool : Toolbox := fun _ _ tree =>
  (.finished (some 5) "no memory\n".toUTF8, tree)

/-- The code of a tool is lost where its output cannot be passed on, though it is a status. A check
whose output is refused ends with the status of a panic, and a generation whose arguments are
incomplete with neither success nor one. -/
theorem run_loses_code_of_full_output :
    (∀ earlier invocation tree, (brokenTool earlier invocation tree).1 =
      .finished (some 5) "no memory\n".toUTF8) ∧
    (CommandLine.run brokenTool none twoInputs ["generate", "-t", "windows_lib", "-oout", "a.sigs"]
      { console := Console.full }).status = 1 ∧
    (CommandLine.run brokenTool none twoInputs ["generate", "-t", "windows_lib", "-oout", "a.sigs"]
      { console := Console.full }).failure =
        some "dotstub: File system error: Cannot forward lib output: No space left on device (os error 28)" ∧
    (CommandLine.run brokenTool none twoInputs
      ["generate", "-t", "windows_lib", "-oout", "a.sigs"]).status = 5 ∧
    (CommandLine.run brokenTool none twoInputs ["check", "a.sigs"]
      { console := Console.full }).status = 101 ∧
    (CommandLine.run brokenTool none twoInputs ["generate"]).status = 2 := by
  refine ⟨fun _ _ _ => rfl, ?_, ?_, ?_, ?_, ?_⟩
  · decide +kernel
  · decide +kernel
  · decide +kernel
  · decide +kernel
  · decide +kernel

end CommandLine

end LinkStubs
