import TaskclusterWorker.Runtime.Atomics

/-!
# The native sandbox (`engines/native/sandbox.go`)

A sandbox as a transition system over every interleaving of its goroutines:

* the natural-completion watcher `waitForTermination`, which `newSandbox` starts;
* calls of `Kill`, `Abort`, `WaitForResult` and `NewShell`, any number of each, arriving at
  any time;
* the completion hook of every shell `NewShell` started (its `go func()`);
* the one resolution body the `resolve` gate admits. It runs on its caller's goroutine; its
  program counter is kept in the gate, the only place where a body can be;
* the processes: the primary process and each shell's process exit at any time.

`s.step a` is one atomic step of actor `a`, or `none` when `a` is blocked or has finished.
Taking a mutex is a step of its own, so the states in which `mShells` is held are there;
`NewShell`'s critical section is split at `newShell`, so the state in which `Add(1)` has
counted a shell that is not yet spawned is there too. `abortShells` aborts a shell with
`go S.Abort()`: the model records the request in `abortRequests`.
-/

namespace TaskclusterWorker.Native

open TaskclusterWorker.Atomics

/-- The errors of a sandbox call: `engines.ErrSandboxTerminated`,
`engines.ErrSandboxAborted`, and the `MalformedPayloadError` of a failed spawn. -/
inductive SandboxError
  | sandboxTerminated
  | sandboxAborted
  | malformedPayload
  deriving DecidableEq, Repr

/-- A `system.User`, by name. -/
structure User where
  name : String
  deriving DecidableEq, Repr

/-- A `runtime.TemporaryFolder`, by path. -/
structure TemporaryFolder where
  path : String
  deriving DecidableEq, Repr

/-- The fields of a `resultSet` that depend on the run (engine, context and monitor are the
sandbox's own references). -/
structure ResultSet where
  workingFolder : Option TemporaryFolder
  user : User
  success : Bool
  deriving DecidableEq, Repr

/-- The teardown calls the resolution bodies make. -/
inductive Teardown
  | killProcessTree
  | abortShells
  | killByOwner
  | removeUser
  | removeFolder
  deriving DecidableEq, Repr

/-- The three bodies passed to `s.resolve.Do`: natural completion (with the primary
process's exit status), `Kill` and `Abort`. -/
inductive Resolution
  | completion (success : Bool)
  | kill
  | abort
  deriving DecidableEq, Repr

/-- Where a running body is. The completion body is its last step only; `Kill` and
`Abort` first kill the process tree and run `abortShells`. -/
inductive BodyPc
  | killProcessTree
  /-- `abortShells`: `s.mShells.Lock()`. -/
  | lockShells
  /-- `abortShells`, holding `mShells`: `Drain`, `go S.Abort()` for every shell, clear. -/
  | abortShells
  /-- `abortShells`: `s.sessions.Wait()`. -/
  | waitShells
  /-- The rest of the body, and the gate's return. -/
  | finish
  deriving DecidableEq, Repr

/-- A body admitted by the gate. -/
structure Body where
  resolution : Resolution
  pc : BodyPc
  deriving DecidableEq, Repr

/-- `waitForTermination`; `success` is its local copy of `s.process.Wait()`. -/
inductive WatcherPc
  | waitProcess
  /-- `WaitAndDrain`: `Drain`. -/
  | drain (success : Bool)
  /-- `WaitAndDrain`: `Wait`. -/
  | waitShells (success : Bool)
  /-- `s.resolve.Do(...)`. -/
  | resolve (success : Bool)
  /-- Inside `Do`, until the gate is done. -/
  | inResolve
  | finished
  deriving DecidableEq, Repr

/-- `Kill` and `Abort`: `s.resolve.Do(...)`, then `s.resolve.Wait()` and the read of the
field they return. -/
inductive CallPc
  | resolve
  | inResolve
  | returned (err : Option SandboxError)
  deriving DecidableEq, Repr

/-- `NewShell`: the lock, `s.sessions.Add(1)`, `newShell` and what follows it. A shell is
named by its index in `shellProcs`; a call returns a shell or an error, as the Go pair. -/
inductive ShellPc
  | lock
  | add
  | spawn
  | returned (shell : Option Nat) (err : Option SandboxError)
  deriving DecidableEq, Repr

/-- One call made on the sandbox. `waitForResult` holds what it returned, once it has. -/
inductive Call
  | kill (pc : CallPc)
  | abort (pc : CallPc)
  | waitForResult (result : Option (Option ResultSet × Option SandboxError))
  | newShell (pc : ShellPc)
  deriving DecidableEq, Repr

/-- A shell's completion hook: `S.Wait()`, `s.mShells.Lock()`, then the removal from
`s.shells` with `s.sessions.Done()`. -/
inductive HookPc
  | wait
  | lock
  | remove
  | finished
  deriving DecidableEq, Repr

/-- A shell `NewShell` spawned: its process and its completion hook. -/
structure Shell where
  exited : Bool
  hook : HookPc
  deriving DecidableEq, Repr

/-- Who holds `mShells`: the body running `abortShells`, a `NewShell` call, or a hook. -/
inductive Holder
  | body
  | call (i : Nat)
  | hook (k : Nat)
  deriving DecidableEq, Repr

/-- The sandbox: the fields of `sandbox` the goroutines share, the goroutines' program
counters, and the teardown calls made so far. -/
structure Sandbox where
  createUser : Bool
  user : User
  workingFolder : Option TemporaryFolder
  /-- The primary process's exit status, once it has exited. -/
  primary : Option Bool
  watcher : WatcherPc
  calls : List Call
  /-- Every shell `NewShell` spawned, by index. -/
  shellProcs : List Shell
  shells : List Nat
  abortRequests : List Nat
  sessions : WaitGroup
  mShells : Option Holder
  resolve : Once Body
  resultSet : Option ResultSet
  resultErr : Option SandboxError
  abortErr : Option SandboxError
  teardown : List Teardown
  deriving Repr

/-- The sandbox `newSandbox` returns: its primary process started, its watcher launched. -/
def Sandbox.start (createUser : Bool) (user : User)
    (workingFolder : Option TemporaryFolder) : Sandbox where
  createUser := createUser
  user := user
  workingFolder := workingFolder
  primary := none
  watcher := .waitProcess
  calls := []
  shellProcs := []
  shells := []
  abortRequests := []
  sessions := .empty
  mShells := none
  resolve := .idle
  resultSet := none
  resultErr := none
  abortErr := none
  teardown := []

/-! ## The goroutines' steps -/

/-- `system.KillByOwner(s.user)`, made when the sandbox created its user. -/
def killByOwner (createUser : Bool) : List Teardown :=
  if createUser then [.killByOwner] else []

/-- The end of each body: its calls after `abortShells` and its writes to `resultSet`,
`abortErr` and `resultErr`. -/
def Sandbox.finishBody (s : Sandbox) : Resolution → Sandbox
  | .completion success =>
    { s with
      teardown := s.teardown ++ killByOwner s.createUser
      resultSet := some ⟨s.workingFolder, s.user, success⟩
      abortErr := some .sandboxTerminated }
  | .kill =>
    { s with
      teardown := s.teardown ++ killByOwner s.createUser
      resultSet := some ⟨s.workingFolder, s.user, false⟩
      abortErr := some .sandboxTerminated }
  | .abort =>
    { s with
      teardown := s.teardown ++ (if s.createUser then [.killByOwner, .removeUser] else []) ++
        (if s.workingFolder.isSome then [.removeFolder] else [])
      resultErr := some .sandboxAborted }

section FinishBody

variable (s : Sandbox) (r : Resolution)

@[simp] theorem finishBody_createUser : (s.finishBody r).createUser = s.createUser := by
  cases r <;> rfl
@[simp] theorem finishBody_user : (s.finishBody r).user = s.user := by cases r <;> rfl
@[simp] theorem finishBody_workingFolder : (s.finishBody r).workingFolder = s.workingFolder := by
  cases r <;> rfl
@[simp] theorem finishBody_primary : (s.finishBody r).primary = s.primary := by cases r <;> rfl
@[simp] theorem finishBody_watcher : (s.finishBody r).watcher = s.watcher := by cases r <;> rfl
@[simp] theorem finishBody_calls : (s.finishBody r).calls = s.calls := by cases r <;> rfl
@[simp] theorem finishBody_shellProcs : (s.finishBody r).shellProcs = s.shellProcs := by
  cases r <;> rfl
@[simp] theorem finishBody_shells : (s.finishBody r).shells = s.shells := by cases r <;> rfl
@[simp] theorem finishBody_abortRequests : (s.finishBody r).abortRequests = s.abortRequests := by
  cases r <;> rfl
@[simp] theorem finishBody_sessions : (s.finishBody r).sessions = s.sessions := by cases r <;> rfl
@[simp] theorem finishBody_mShells : (s.finishBody r).mShells = s.mShells := by cases r <;> rfl

end FinishBody

/-- The running body's next step. -/
def Sandbox.bodyStep (s : Sandbox) : Option Sandbox :=
  match s.resolve with
  | .running ⟨r, .killProcessTree⟩ =>
    some { s with teardown := s.teardown ++ [.killProcessTree], resolve := .running ⟨r, .lockShells⟩ }
  | .running ⟨r, .lockShells⟩ =>
    if s.mShells = none then
      some { s with mShells := some .body, resolve := .running ⟨r, .abortShells⟩ }
    else none
  | .running ⟨r, .abortShells⟩ =>
    some { s with
      teardown := s.teardown ++ [.abortShells]
      sessions := s.sessions.drain
      abortRequests := s.abortRequests ++ s.shells
      shells := []
      mShells := none
      resolve := .running ⟨r, .waitShells⟩ }
  | .running ⟨r, .waitShells⟩ =>
    if s.sessions.count = 0 then some { s with resolve := .running ⟨r, .finish⟩ } else none
  | .running ⟨r, .finish⟩ => some { s.finishBody r with resolve := .done ⟨r, .finish⟩ }
  | _ => none

/-- `waitForTermination`'s next step. -/
def Sandbox.waitForTermination (s : Sandbox) : Option Sandbox :=
  match s.watcher, s.primary with
  | .waitProcess, some success => some { s with watcher := .drain success }
  | .waitProcess, none => none
  | .drain success, _ => some { s with sessions := s.sessions.drain, watcher := .waitShells success }
  | .waitShells success, _ =>
    if s.sessions.count = 0 then some { s with watcher := .resolve success } else none
  | .resolve success, _ =>
    some { s with
      resolve := s.resolve.start ⟨.completion success, .finish⟩
      watcher := .inResolve }
  | .inResolve, _ => if s.resolve.isDone then some { s with watcher := .finished } else none
  | .finished, _ => none

/-- Call `i`'s next step; `spawned` is whether `newShell` started the shell. -/
def Sandbox.callStep (s : Sandbox) (i : Nat) (spawned : Bool) : Option Sandbox :=
  match s.calls[i]? with
  | some (.kill .resolve) =>
    some { s with
      resolve := s.resolve.start ⟨.kill, .killProcessTree⟩
      calls := s.calls.set i (.kill .inResolve) }
  | some (.kill .inResolve) =>
    if s.resolve.isDone then some { s with calls := s.calls.set i (.kill (.returned s.resultErr)) }
    else none
  | some (.abort .resolve) =>
    some { s with
      resolve := s.resolve.start ⟨.abort, .killProcessTree⟩
      calls := s.calls.set i (.abort .inResolve) }
  | some (.abort .inResolve) =>
    if s.resolve.isDone then some { s with calls := s.calls.set i (.abort (.returned s.abortErr)) }
    else none
  | some (.waitForResult none) =>
    if s.resolve.isDone then
      some { s with calls := s.calls.set i (.waitForResult (some (s.resultSet, s.resultErr))) }
    else none
  | some (.newShell .lock) =>
    if s.mShells = none then
      some { s with mShells := some (.call i), calls := s.calls.set i (.newShell .add) }
    else none
  | some (.newShell .add) =>
    match s.sessions.add with
    | none =>
      some { s with
        mShells := none
        calls := s.calls.set i (.newShell (.returned none (some .sandboxTerminated))) }
    | some wg => some { s with sessions := wg, calls := s.calls.set i (.newShell .spawn) }
  | some (.newShell .spawn) =>
    if spawned then
      some { s with
        shellProcs := s.shellProcs ++ [⟨false, .wait⟩]
        shells := s.shells ++ [s.shellProcs.length]
        mShells := none
        calls := s.calls.set i (.newShell (.returned (some s.shellProcs.length) none)) }
    else
      some { s with
        sessions := s.sessions.done
        mShells := none
        calls := s.calls.set i (.newShell (.returned none (some .malformedPayload))) }
  | _ => none

/-- Shell `k`'s completion hook's next step. -/
def Sandbox.hookStep (s : Sandbox) (k : Nat) : Option Sandbox :=
  match s.shellProcs[k]? with
  | some ⟨true, .wait⟩ => some { s with shellProcs := s.shellProcs.set k ⟨true, .lock⟩ }
  | some ⟨exited, .lock⟩ =>
    if s.mShells = none then
      some { s with
        shellProcs := s.shellProcs.set k ⟨exited, .remove⟩
        mShells := some (.hook k) }
    else none
  | some ⟨exited, .remove⟩ =>
    some { s with
      shellProcs := s.shellProcs.set k ⟨exited, .finished⟩
      shells := s.shells.filter (· != k)
      sessions := s.sessions.done
      mShells := none }
  | _ => none

/-! ### What each goroutine's step can do -/

section Inversion

variable {s s' : Sandbox}

theorem waitForTermination_eq_some (h : s.waitForTermination = some s') :
    (∃ success, s.watcher = .waitProcess ∧ s.primary = some success ∧
      s' = { s with watcher := .drain success }) ∨
    (∃ success, s.watcher = .drain success ∧
      s' = { s with sessions := s.sessions.drain, watcher := .waitShells success }) ∨
    (∃ success, s.watcher = .waitShells success ∧ s.sessions.count = 0 ∧
      s' = { s with watcher := .resolve success }) ∨
    (∃ success, s.watcher = .resolve success ∧
      s' = { s with resolve := s.resolve.start ⟨.completion success, .finish⟩
                    watcher := .inResolve }) ∨
    (s.watcher = .inResolve ∧ s.resolve.isDone = true ∧ s' = { s with watcher := .finished }) := by
  unfold Sandbox.waitForTermination at h
  split at h <;> (try split at h) <;> (try cases h) <;> simp_all

theorem bodyStep_eq_some (h : s.bodyStep = some s') :
    ∃ r, (s.resolve = .running ⟨r, .killProcessTree⟩ ∧
      s' = { s with teardown := s.teardown ++ [.killProcessTree]
                    resolve := .running ⟨r, .lockShells⟩ }) ∨
    (s.resolve = .running ⟨r, .lockShells⟩ ∧ s.mShells = none ∧
      s' = { s with mShells := some .body, resolve := .running ⟨r, .abortShells⟩ }) ∨
    (s.resolve = .running ⟨r, .abortShells⟩ ∧
      s' = { s with
        teardown := s.teardown ++ [.abortShells]
        sessions := s.sessions.drain
        abortRequests := s.abortRequests ++ s.shells
        shells := []
        mShells := none
        resolve := .running ⟨r, .waitShells⟩ }) ∨
    (s.resolve = .running ⟨r, .waitShells⟩ ∧ s.sessions.count = 0 ∧
      s' = { s with resolve := .running ⟨r, .finish⟩ }) ∨
    (s.resolve = .running ⟨r, .finish⟩ ∧ s' = { s.finishBody r with resolve := .done ⟨r, .finish⟩ }) := by
  unfold Sandbox.bodyStep at h
  split at h <;> (try split at h) <;> (try cases h) <;> simp_all

theorem callStep_eq_some {i : Nat} {spawned : Bool} (h : s.callStep i spawned = some s') :
    (s.calls[i]? = some (.kill .resolve) ∧
      s' = { s with resolve := s.resolve.start ⟨.kill, .killProcessTree⟩
                    calls := s.calls.set i (.kill .inResolve) }) ∨
    (s.calls[i]? = some (.kill .inResolve) ∧ s.resolve.isDone = true ∧
      s' = { s with calls := s.calls.set i (.kill (.returned s.resultErr)) }) ∨
    (s.calls[i]? = some (.abort .resolve) ∧
      s' = { s with resolve := s.resolve.start ⟨.abort, .killProcessTree⟩
                    calls := s.calls.set i (.abort .inResolve) }) ∨
    (s.calls[i]? = some (.abort .inResolve) ∧ s.resolve.isDone = true ∧
      s' = { s with calls := s.calls.set i (.abort (.returned s.abortErr)) }) ∨
    (s.calls[i]? = some (.waitForResult none) ∧ s.resolve.isDone = true ∧
      s' = { s with calls := s.calls.set i (.waitForResult (some (s.resultSet, s.resultErr))) }) ∨
    (s.calls[i]? = some (.newShell .lock) ∧ s.mShells = none ∧
      s' = { s with mShells := some (.call i), calls := s.calls.set i (.newShell .add) }) ∨
    (s.calls[i]? = some (.newShell .add) ∧ s.sessions.draining = true ∧
      s' = { s with
        mShells := none
        calls := s.calls.set i (.newShell (.returned none (some .sandboxTerminated))) }) ∨
    (s.calls[i]? = some (.newShell .add) ∧ s.sessions.draining = false ∧
      s' = { s with
        sessions := ⟨s.sessions.count + 1, false⟩
        calls := s.calls.set i (.newShell .spawn) }) ∨
    (s.calls[i]? = some (.newShell .spawn) ∧ spawned = true ∧
      s' = { s with
        shellProcs := s.shellProcs ++ [⟨false, .wait⟩]
        shells := s.shells ++ [s.shellProcs.length]
        mShells := none
        calls := s.calls.set i (.newShell (.returned (some s.shellProcs.length) none)) }) ∨
    (s.calls[i]? = some (.newShell .spawn) ∧ spawned = false ∧
      s' = { s with
        sessions := s.sessions.done
        mShells := none
        calls := s.calls.set i (.newShell (.returned none (some .malformedPayload))) }) := by
  unfold Sandbox.callStep at h
  split at h <;> (try split at h) <;> (try cases h) <;> simp_all

theorem hookStep_eq_some {k : Nat} (h : s.hookStep k = some s') :
    (s.shellProcs[k]? = some ⟨true, .wait⟩ ∧
      s' = { s with shellProcs := s.shellProcs.set k ⟨true, .lock⟩ }) ∨
    (∃ exited, s.shellProcs[k]? = some ⟨exited, .lock⟩ ∧ s.mShells = none ∧
      s' = { s with
        shellProcs := s.shellProcs.set k ⟨exited, .remove⟩
        mShells := some (.hook k) }) ∨
    (∃ exited, s.shellProcs[k]? = some ⟨exited, .remove⟩ ∧
      s' = { s with
        shellProcs := s.shellProcs.set k ⟨exited, .finished⟩
        shells := s.shells.filter (· != k)
        sessions := s.sessions.done
        mShells := none }) := by
  unfold Sandbox.hookStep at h
  split at h <;> (try split at h) <;> (try cases h) <;> simp_all

end Inversion

/-- The calls a caller can make. -/
inductive CallKind
  | kill
  | abort
  | waitForResult
  | newShell
  deriving DecidableEq, Repr

/-- A call as it arrives. -/
def CallKind.entry : CallKind → Call
  | .kill => .kill .resolve
  | .abort => .abort .resolve
  | .waitForResult => .waitForResult none
  | .newShell => .newShell .lock

/-- The actors: the processes, a new call, and the goroutines. -/
inductive Action
  | processExit (success : Bool)
  | shellExit (k : Nat)
  | arrive (c : CallKind)
  | watcher
  | body
  | call (i : Nat) (spawned : Bool)
  | hook (k : Nat)
  deriving DecidableEq, Repr

/-- One step of the sandbox. -/
def Sandbox.step (s : Sandbox) : Action → Option Sandbox
  | .processExit success =>
    if s.primary = none then some { s with primary := some success } else none
  | .shellExit k =>
    match s.shellProcs[k]? with
    | some ⟨false, hook⟩ => some { s with shellProcs := s.shellProcs.set k ⟨true, hook⟩ }
    | _ => none
  | .arrive c => some { s with calls := s.calls ++ [c.entry] }
  | .watcher => s.waitForTermination
  | .body => s.bodyStep
  | .call i spawned => s.callStep i spawned
  | .hook k => s.hookStep k

section Inversion

variable {s s' : Sandbox}

theorem step_processExit_eq_some {success : Bool} (h : s.step (.processExit success) = some s') :
    s.primary = none ∧ s' = { s with primary := some success } := by
  simp only [Sandbox.step] at h
  split at h <;> cases h
  exact ⟨‹_›, rfl⟩

theorem step_shellExit_eq_some {k : Nat} (h : s.step (.shellExit k) = some s') :
    ∃ hook, s.shellProcs[k]? = some ⟨false, hook⟩ ∧
      s' = { s with shellProcs := s.shellProcs.set k ⟨true, hook⟩ } := by
  simp only [Sandbox.step] at h
  split at h <;> cases h
  exact ⟨_, ‹_›, rfl⟩

end Inversion

/-- The states a sandbox reaches from `newSandbox`'s return, under any interleaving. -/
inductive Reachable : Sandbox → Prop
  | start (createUser : Bool) (user : User) (workingFolder : Option TemporaryFolder) :
      Reachable (Sandbox.start createUser user workingFolder)
  | step {s s' : Sandbox} (a : Action) : Reachable s → s.step a = some s' → Reachable s'

/-- A schedule run from a state; `none` if some actor of it is blocked when scheduled. -/
def Sandbox.run (s : Sandbox) : List Action → Option Sandbox
  | [] => some s
  | a :: rest => (s.step a).bind (·.run rest)

theorem Reachable.run {s s' : Sandbox} (h : Reachable s) (as : List Action)
    (hr : s.run as = some s') : Reachable s' := by
  induction as generalizing s with
  | nil => cases hr; exact h
  | cons a rest ih =>
    obtain ⟨t, ht, hr⟩ := Option.bind_eq_some.mp hr
    exact ih (h.step a ht) hr

end TaskclusterWorker.Native
