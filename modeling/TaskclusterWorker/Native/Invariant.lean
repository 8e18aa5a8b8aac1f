import TaskclusterWorker.Native.Sandbox
import Mathlib.Data.List.Nodup

/-!
# The sandbox invariant

`Inv` holds in every reachable state (`Reachable.inv`). Its parts:

* `LockInv` — `mShells` is held by exactly the goroutine inside a critical section;
* `Counted` — the session count is the number of live hooks plus the `NewShell` call that
  has counted a shell it has not spawned yet;
* `ShellsInv` — `s.shells` lists live shells, each once; a live shell is listed or has had
  `Abort` requested; a hook past `S.Wait()` has seen its shell exit;
* `WatcherOk`, `GateOk`, `CallOk` — what each goroutine's position says about the shared
  fields: the teardown calls made so far, the fields the bodies write, and what every
  returned call returned.

`Stable` collects what no step undoes (the primary's exit status, a closed or drained
registry, a done gate). The positions' predicates are monotone along it, so a step lemma
only proves the predicate of the goroutine that moved.
-/

namespace TaskclusterWorker.Native

open TaskclusterWorker.Atomics

/-- The hook has not called `Done` yet. -/
def Shell.live (sh : Shell) : Bool := sh.hook != .finished

/-- A `NewShell` call that has counted a shell it has not spawned yet. -/
def Call.spawning : Call → Bool
  | .newShell .spawn => true
  | _ => false

/-- A `NewShell` call inside its critical section. -/
def Call.holdsShells : Call → Bool
  | .newShell .add | .newShell .spawn => true
  | _ => false

namespace Sandbox

/-- Shells whose hook has not called `Done`. -/
def liveShells (s : Sandbox) : Nat := s.shellProcs.countP Shell.live

/-- `NewShell` calls between `Add(1)` and the end of `newShell`. -/
def spawning (s : Sandbox) : Nat := s.calls.countP Call.spawning

/-- The goroutine is inside a critical section of `mShells`. -/
def InCritical (s : Sandbox) : Holder → Prop
  | .body => ∃ r, s.resolve = .running ⟨r, .abortShells⟩
  | .call i => ∃ c, s.calls[i]? = some c ∧ c.holdsShells = true
  | .hook k => ∃ sh, s.shellProcs[k]? = some sh ∧ sh.hook = .remove

/-- What `WaitForResult` returns once `r` has won, as the spec states it: the exit status
for natural completion, `success = false` for `Kill`, `ErrSandboxAborted` for `Abort`. -/
def expectedResult (s : Sandbox) : Resolution → Option ResultSet × Option SandboxError
  | .completion success => (some ⟨s.workingFolder, s.user, success⟩, none)
  | .kill => (some ⟨s.workingFolder, s.user, false⟩, none)
  | .abort => (none, some .sandboxAborted)

end Sandbox

/-- What `Kill` returns once `r` has won, as the spec states it. -/
def expectedKill : Resolution → Option SandboxError
  | .abort => some .sandboxAborted
  | _ => none

/-- What `Abort` returns once `r` has won, as the spec states it. -/
def expectedAbort : Resolution → Option SandboxError
  | .abort => none
  | _ => some .sandboxTerminated

/-- All the teardown calls of a body, in order. -/
def bodyTeardown (createUser : Bool) (workingFolder : Option TemporaryFolder) :
    Resolution → List Teardown
  | .completion _ => killByOwner createUser
  | .kill => [.killProcessTree, .abortShells] ++ killByOwner createUser
  | .abort => [.killProcessTree, .abortShells] ++
      (if createUser then [.killByOwner, .removeUser] else []) ++
      (if workingFolder.isSome then [.removeFolder] else [])

/-- The teardown calls a body has made before its position. -/
def Body.teardownBefore : Body → List Teardown
  | ⟨.completion _, _⟩ => []
  | ⟨_, .killProcessTree⟩ => []
  | ⟨_, .lockShells⟩ => [.killProcessTree]
  | ⟨_, .abortShells⟩ => [.killProcessTree]
  | ⟨_, .waitShells⟩ => [.killProcessTree, .abortShells]
  | ⟨_, .finish⟩ => [.killProcessTree, .abortShells]

/-! ## The parts of the invariant -/

/-- `mShells` is held by exactly the goroutine inside a critical section. -/
def LockInv (s : Sandbox) : Prop := ∀ h, s.mShells = some h ↔ s.InCritical h

/-- The session count: live hooks, and a shell counted but not spawned yet. -/
def Counted (s : Sandbox) : Prop := s.sessions.count = s.liveShells + s.spawning

/-- The registry `s.shells` against the shells spawned. -/
structure ShellsInv (s : Sandbox) : Prop where
  nodup : s.shells.Nodup
  live : ∀ k ∈ s.shells, ∃ sh, s.shellProcs[k]? = some sh ∧ sh.live = true
  covered : ∀ (k : Nat) (sh : Shell), s.shellProcs[k]? = some sh → sh.live = true →
    k ∈ s.shells ∨ k ∈ s.abortRequests
  exited : ∀ (k : Nat) (sh : Shell), s.shellProcs[k]? = some sh → sh.hook ≠ .wait → sh.exited = true

theorem ShellsInv.congr {s s' : Sandbox} (hi : ShellsInv s) (h1 : s'.shells = s.shells)
    (h2 : s'.shellProcs = s.shellProcs) (h3 : s'.abortRequests = s.abortRequests) :
    ShellsInv s' := by
  obtain ⟨a, b, c, d⟩ := hi
  exact ⟨h1 ▸ a, h1 ▸ h2 ▸ b, h1 ▸ h2 ▸ h3 ▸ c, h2 ▸ d⟩

/-- No shell can be added any more, none is listed, none is being spawned. -/
def Closed (s : Sandbox) : Prop :=
  s.sessions.draining = true ∧ s.shells = [] ∧ s.spawning = 0

/-- Closed, and every counted shell is done. -/
def Drained (s : Sandbox) : Prop := Closed s ∧ s.sessions.count = 0

/-- What a running body's position says. -/
def BodyOk (s : Sandbox) : Body → Prop
  | ⟨.completion success, pc⟩ => pc = .finish ∧ s.primary = some success ∧ Drained s
  | ⟨_, .waitShells⟩ => Closed s
  | ⟨_, .finish⟩ => Drained s
  | _ => True

/-- What the gate's state says. -/
def GateOk (s : Sandbox) : Once Body → Prop
  | .idle => s.teardown = [] ∧ s.resultSet = none ∧ s.resultErr = none ∧ s.abortErr = none
  | .running b => s.teardown = b.teardownBefore ∧ s.resultSet = none ∧ s.resultErr = none ∧
      s.abortErr = none ∧ BodyOk s b
  | .done b => s.teardown = bodyTeardown s.createUser s.workingFolder b.resolution ∧
      (s.resultSet, s.resultErr) = s.expectedResult b.resolution ∧
      s.resultErr = expectedKill b.resolution ∧ s.abortErr = expectedAbort b.resolution ∧
      Drained s ∧ ∀ success, b.resolution = .completion success → s.primary = some success

/-- What the watcher's position says. -/
def WatcherOk (s : Sandbox) : WatcherPc → Prop
  | .waitProcess => True
  | .drain success => s.primary = some success
  | .waitShells success => s.primary = some success ∧ s.sessions.draining = true
  | .resolve success => s.primary = some success ∧ Drained s
  | .inResolve => s.resolve ≠ .idle
  | .finished => s.resolve.isDone = true

/-- What a call's position says; a returned call returned what its winner leaves. -/
def CallOk (s : Sandbox) : Call → Prop
  | .kill .inResolve => s.resolve ≠ .idle
  | .abort .inResolve => s.resolve ≠ .idle
  | .kill (.returned err) => ∃ b, s.resolve = .done b ∧ err = expectedKill b.resolution
  | .abort (.returned err) => ∃ b, s.resolve = .done b ∧ err = expectedAbort b.resolution
  | .waitForResult (some result) =>
      ∃ b, s.resolve = .done b ∧ result = s.expectedResult b.resolution
  | _ => True

/-- The sandbox invariant. -/
structure Inv (s : Sandbox) : Prop where
  lock : LockInv s
  counted : Counted s
  shells : ShellsInv s
  watcher : WatcherOk s s.watcher
  gate : GateOk s s.resolve
  calls : ∀ c ∈ s.calls, CallOk s c

/-! ## What no step undoes -/

/-- The facts a step keeps. -/
structure Stable (s s' : Sandbox) : Prop where
  createUser : s'.createUser = s.createUser
  user : s'.user = s.user
  workingFolder : s'.workingFolder = s.workingFolder
  primary : ∀ success, s.primary = some success → s'.primary = some success
  draining : s.sessions.draining = true → s'.sessions.draining = true
  closed : Closed s → Closed s'
  drained : Drained s → Drained s'
  entered : s.resolve ≠ .idle → s'.resolve ≠ .idle
  done : ∀ b, s.resolve = .done b → s'.resolve = .done b ∧ s'.teardown = s.teardown ∧
    s'.resultSet = s.resultSet ∧ s'.resultErr = s.resultErr ∧ s'.abortErr = s.abortErr

namespace Stable

variable {s s' : Sandbox}

theorem expectedResult (h : Stable s s') (r : Resolution) :
    s'.expectedResult r = s.expectedResult r := by
  cases r <;> simp [Sandbox.expectedResult, h.user, h.workingFolder]

theorem watcherOk (h : Stable s s') {w : WatcherPc} (hw : WatcherOk s w) : WatcherOk s' w := by
  cases w with
  | waitProcess => trivial
  | drain success => exact h.primary _ hw
  | waitShells success => exact ⟨h.primary _ hw.1, h.draining hw.2⟩
  | resolve success => exact ⟨h.primary _ hw.1, h.drained hw.2⟩
  | inResolve => exact h.entered hw
  | finished =>
    obtain ⟨b, hb⟩ : ∃ b, s.resolve = .done b := by
      cases hr : s.resolve <;> simp_all [WatcherOk]
    simp [WatcherOk, (h.done b hb).1]

theorem bodyOk (h : Stable s s') {b : Body} (hb : BodyOk s b) : BodyOk s' b := by
  rcases b with ⟨_ | _ | _, _ | _ | _ | _ | _⟩ <;>
    first
    | exact ⟨hb.1, h.primary _ hb.2.1, h.drained hb.2.2⟩
    | exact h.closed hb
    | exact h.drained hb
    | exact trivial

theorem callOk (h : Stable s s') {c : Call} (hc : CallOk s c) : CallOk s' c := by
  match c, hc with
  | .kill .inResolve, hc | .abort .inResolve, hc => exact h.entered hc
  | .kill (.returned _), ⟨b, hb, he⟩ | .abort (.returned _), ⟨b, hb, he⟩ =>
    exact ⟨b, (h.done b hb).1, he⟩
  | .waitForResult (some _), ⟨b, hb, he⟩ =>
    exact ⟨b, (h.done b hb).1, by rw [h.expectedResult]; exact he⟩
  | .kill .resolve, _ | .abort .resolve, _ | .waitForResult none, _ | .newShell _, _ => trivial

/-- The gate's predicate carries over a step that leaves the gate, the teardown calls and
the fields the bodies write alone. -/
theorem gateOk (h : Stable s s') (hr : s'.resolve = s.resolve) (ht : s'.teardown = s.teardown)
    (hrs : s'.resultSet = s.resultSet) (hre : s'.resultErr = s.resultErr)
    (hae : s'.abortErr = s.abortErr) (hg : GateOk s s.resolve) : GateOk s' s'.resolve := by
  rw [hr]
  cases hres : s.resolve with
  | idle => rw [hres] at hg; simpa only [GateOk, ht, hrs, hre, hae] using hg
  | running b =>
    rw [hres] at hg
    obtain ⟨h1, h2, h3, h4, h5⟩ := hg
    exact ⟨ht ▸ h1, hrs ▸ h2, hre ▸ h3, hae ▸ h4, h.bodyOk h5⟩
  | done b =>
    rw [hres] at hg
    obtain ⟨h1, h2, h3, h4, h5, h6⟩ := hg
    refine ⟨?_, ?_, hre ▸ h3, hae ▸ h4, h.drained h5, fun x hx => h.primary _ (h6 x hx)⟩
    · rw [ht, h.createUser, h.workingFolder]; exact h1
    · rw [hrs, hre, h.expectedResult]; exact h2

/-- A step that keeps the count, the list and the spawns, and at most enters the gate. -/
theorem of_frame (hcu : s'.createUser = s.createUser) (hu : s'.user = s.user)
    (hw : s'.workingFolder = s.workingFolder) (hp : s'.primary = s.primary)
    (hcount : s'.sessions.count = s.sessions.count)
    (hdrain : s.sessions.draining = true → s'.sessions.draining = true)
    (hsh : s'.shells = s.shells) (hsp : s'.spawning = s.spawning)
    (hr : s'.resolve = s.resolve ∨ ∃ b, s'.resolve = s.resolve.start b)
    (ht : s'.teardown = s.teardown) (hrs : s'.resultSet = s.resultSet)
    (hre : s'.resultErr = s.resultErr) (hae : s'.abortErr = s.abortErr) : Stable s s' where
  createUser := hcu
  user := hu
  workingFolder := hw
  primary _ h := hp ▸ h
  draining := hdrain
  closed h := ⟨hdrain h.1, hsh ▸ h.2.1, hsp ▸ h.2.2⟩
  drained h := ⟨⟨hdrain h.1.1, hsh ▸ h.1.2.1, hsp ▸ h.1.2.2⟩, hcount ▸ h.2⟩
  entered h := by
    rcases hr with hr | ⟨b, hr⟩ <;> rw [hr]
    · exact h
    · exact Once.start_ne_idle _ _
  done b h := by
    refine ⟨?_, ht, hrs, hre, hae⟩
    rcases hr with hr | ⟨_, hr⟩ <;> rw [hr, h]
    rfl

/-- A step taken while the registry is still open keeps `Stable` vacuously on it. -/
theorem of_open (hcu : s'.createUser = s.createUser) (hu : s'.user = s.user)
    (hw : s'.workingFolder = s.workingFolder) (hp : s'.primary = s.primary)
    (hdrain : s.sessions.draining = true → s'.sessions.draining = true) (hopen : ¬ Closed s)
    (hr : s'.resolve = s.resolve) (ht : s'.teardown = s.teardown)
    (hrs : s'.resultSet = s.resultSet) (hre : s'.resultErr = s.resultErr)
    (hae : s'.abortErr = s.abortErr) : Stable s s' where
  createUser := hcu
  user := hu
  workingFolder := hw
  primary _ h := hp ▸ h
  draining := hdrain
  closed h := absurd h hopen
  drained h := absurd h.1 hopen
  entered h := hr ▸ h
  done _ h := ⟨hr ▸ h, ht, hrs, hre, hae⟩

end Stable

/-! ## Counting under a step -/

section Counting

variable {s : Sandbox}

theorem countP_set_add {α : Type} {p : α → Bool} {l : List α} {i : Nat} {a b : α}
    (h : l[i]? = some a) :
    (l.set i b).countP p + (if p a then 1 else 0) = l.countP p + (if p b then 1 else 0) := by
  obtain ⟨hi, rfl⟩ := List.getElem?_eq_some_iff.mp h
  have := List.boole_getElem_le_countP p l i hi
  rw [List.countP_set p l i b hi]
  omega

/-- Moving call `i` between two positions that are both spawning, or both not. -/
theorem spawning_set {i : Nat} {c c' : Call} (hc : s.calls[i]? = some c)
    (h : c.spawning = c'.spawning) : (s.calls.set i c').countP Call.spawning = s.spawning := by
  have := countP_set_add (p := Call.spawning) (b := c') hc
  rw [h] at this
  unfold Sandbox.spawning
  omega

/-- Call `i` moves to a spawning position. -/
theorem spawning_set_start {i : Nat} {c d : Call} (hc : s.calls[i]? = some c)
    (h1 : c.spawning = false) (h2 : d.spawning = true) :
    (s.calls.set i d).countP Call.spawning = s.spawning + 1 := by
  have := countP_set_add (p := Call.spawning) (b := d) hc
  simp only [h1, h2] at this
  exact this

/-- Call `i` leaves its spawning position. -/
theorem spawning_set_stop {i : Nat} {c d : Call} (hc : s.calls[i]? = some c)
    (h1 : c.spawning = true) (h2 : d.spawning = false) :
    (s.calls.set i d).countP Call.spawning + 1 = s.spawning := by
  have := countP_set_add (p := Call.spawning) (b := d) hc
  simp only [h1, h2] at this
  exact this

theorem getElem?_set_of_getElem? {α : Type} {l : List α} {i : Nat} {a b : α}
    (h : l[i]? = some a) : (l.set i b)[i]? = some b :=
  List.getElem?_set_self (List.getElem?_eq_some_iff.mp h).1

/-- Moving hook `k` between two positions that are both live, or both not. -/
theorem liveShells_set {k : Nat} {sh u : Shell} (hk : s.shellProcs[k]? = some sh)
    (h : sh.live = u.live) : (s.shellProcs.set k u).countP Shell.live = s.liveShells := by
  have := countP_set_add (p := Shell.live) (b := u) hk
  rw [h] at this
  unfold Sandbox.liveShells
  omega

theorem spawning_append_entry (c : CallKind) :
    (s.calls ++ [c.entry]).countP Call.spawning = s.spawning := by
  cases c <;> simp [Sandbox.spawning, CallKind.entry, Call.spawning]

theorem Call.holdsShells_of_spawning {c : Call} (h : c.spawning = true) :
    c.holdsShells = true := by
  match c, h with
  | .newShell .spawn, _ => rfl

theorem spawning_pos {i : Nat} {c : Call} (hc : s.calls[i]? = some c) (h : c.spawning = true) :
    0 < s.spawning :=
  List.countP_pos_iff.mpr ⟨c, List.getElem?_mem hc, h⟩

theorem liveShells_pos {k : Nat} {sh : Shell} (hk : s.shellProcs[k]? = some sh)
    (h : sh.live = true) : 0 < s.liveShells :=
  List.countP_pos_iff.mpr ⟨sh, List.getElem?_mem hk, h⟩

/-- With no `NewShell` call holding `mShells`, none is between `Add(1)` and `newShell`. -/
theorem LockInv.spawning_eq_zero (hl : LockInv s) (h : ∀ i, s.mShells ≠ some (.call i)) :
    s.spawning = 0 := by
  refine List.countP_eq_zero.mpr fun c hc hsp => ?_
  obtain ⟨i, hi⟩ := List.mem_iff_getElem?.mp hc
  exact h i ((hl (.call i)).mpr ⟨c, hi, Call.holdsShells_of_spawning hsp⟩)

/-- With no live shell, the registry list is empty. -/
theorem ShellsInv.shells_eq_nil (hs : ShellsInv s) (h : s.liveShells = 0) : s.shells = [] := by
  refine List.eq_nil_iff_forall_not_mem.mpr fun k hk => ?_
  obtain ⟨sh, hsh, hlive⟩ := hs.live k hk
  exact absurd h (liveShells_pos hsh hlive).ne'

/-- A counted registry with nothing counted is drained, once it drains. -/
theorem drained_of_count (hc : Counted s) (hs : ShellsInv s) (hd : s.sessions.draining = true)
    (h0 : s.sessions.count = 0) : Drained s := by
  unfold Counted at hc
  exact ⟨⟨hd, hs.shells_eq_nil (by omega), by omega⟩, h0⟩

end Counting

/-! ## Every step keeps `Stable` -/

section StableSteps

variable {s s' : Sandbox}

theorem Inv.stable_waitForTermination (h : s.waitForTermination = some s') : Stable s s' := by
  rcases waitForTermination_eq_some h with
    ⟨_, _, _, rfl⟩ | ⟨_, _, rfl⟩ | ⟨_, _, _, rfl⟩ | ⟨_, _, rfl⟩ | ⟨_, _, rfl⟩ <;>
    exact .of_frame rfl rfl rfl rfl rfl (fun h => by simp [h]) rfl rfl
      (by first | exact .inl rfl | exact .inr ⟨_, rfl⟩) rfl rfl rfl rfl

theorem Inv.stable_bodyStep (h : s.bodyStep = some s') : Stable s s' := by
  obtain ⟨r, ⟨hr, rfl⟩ | ⟨hr, -, rfl⟩ | ⟨hr, rfl⟩ | ⟨hr, -, rfl⟩ | ⟨hr, rfl⟩⟩ := bodyStep_eq_some h <;>
    refine ⟨?_, ?_, ?_, ?_, ?_, ?_, ?_, ?_, ?_⟩ <;>
    simp_all [Closed, Drained, Sandbox.spawning]

theorem Inv.stable_callStep {i : Nat} {spawned : Bool} (h : s.callStep i spawned = some s') :
    Stable s s' := by
  rcases callStep_eq_some h with ⟨hc, rfl⟩ | ⟨hc, -, rfl⟩ | ⟨hc, rfl⟩ | ⟨hc, -, rfl⟩ |
    ⟨hc, -, rfl⟩ | ⟨hc, -, rfl⟩ | ⟨hc, -, rfl⟩ | ⟨hc, hd, rfl⟩ | ⟨hc, -, rfl⟩ | ⟨hc, -, rfl⟩
  rotate_right 3
  · -- `Add(1)` counted a shell: the registry was not draining
    exact .of_open rfl rfl rfl rfl (by simp [hd]) (fun hcl => by simp [Closed, hd] at hcl)
      rfl rfl rfl rfl rfl
  all_goals first
    | exact .of_frame rfl rfl rfl rfl rfl id rfl (spawning_set hc rfl)
        (by first | exact .inl rfl | exact .inr ⟨_, rfl⟩) rfl rfl rfl rfl
    | exact .of_open rfl rfl rfl rfl id
        (fun hcl => absurd hcl.2.2 (Nat.pos_iff_ne_zero.mp (spawning_pos hc rfl))) rfl rfl rfl
        rfl rfl

theorem Inv.stable_hookStep (hi : Inv s) {k : Nat} (h : s.hookStep k = some s') :
    Stable s s' := by
  rcases hookStep_eq_some h with ⟨_, rfl⟩ | ⟨_, _, _, rfl⟩ | ⟨_, hk, rfl⟩
  · exact .of_frame rfl rfl rfl rfl rfl id rfl rfl (.inl rfl) rfl rfl rfl rfl
  · exact .of_frame rfl rfl rfl rfl rfl id rfl rfl (.inl rfl) rfl rfl rfl rfl
  · have hpos := liveShells_pos hk rfl
    have hc := hi.counted
    unfold Counted at hc
    refine ⟨rfl, rfl, rfl, fun _ h => h, id, fun ⟨h1, h2, h3⟩ => ⟨h1, by simp [h2], h3⟩,
      fun h => ?_, id, fun _ h => ⟨h, rfl, rfl, rfl, rfl⟩⟩
    exact absurd h.2 (by omega)

theorem Inv.stable (hi : Inv s) {a : Action} (h : s.step a = some s') : Stable s s' := by
  cases a with
  | processExit success =>
    obtain ⟨hp, rfl⟩ := step_processExit_eq_some h
    exact { createUser := rfl, user := rfl, workingFolder := rfl
            primary := fun _ h => by simp_all
            draining := id, closed := id, drained := id, entered := id
            done := fun _ h => ⟨h, rfl, rfl, rfl, rfl⟩ }
  | shellExit k =>
    obtain ⟨_, _, rfl⟩ := step_shellExit_eq_some h
    exact .of_frame rfl rfl rfl rfl rfl id rfl rfl (.inl rfl) rfl rfl rfl rfl
  | arrive c =>
    cases h
    exact .of_frame rfl rfl rfl rfl rfl id rfl (spawning_append_entry c) (.inl rfl) rfl rfl rfl rfl
  | watcher => exact Inv.stable_waitForTermination h
  | body => exact Inv.stable_bodyStep h
  | call i spawned => exact Inv.stable_callStep h
  | hook k => exact hi.stable_hookStep h

end StableSteps

/-! ## The lock discipline -/

section Lock

variable {s s' : Sandbox}

theorem exists_set_iff {α : Type} {l : List α} {i : Nat} {a b : α} {p : α → Prop}
    (hl : l[i]? = some a) (hab : p b ↔ p a) (j : Nat) :
    (∃ x, (l.set i b)[j]? = some x ∧ p x) ↔ (∃ x, l[j]? = some x ∧ p x) := by
  by_cases hij : i = j
  · subst hij
    simp [List.getElem?_set_self (List.getElem?_eq_some_iff.mp hl).1, hl, hab]
  · simp [List.getElem?_set_ne hij]

theorem exists_append_iff {α : Type} {l : List α} {a : α} {p : α → Prop} (ha : ¬ p a)
    (j : Nat) : (∃ x, (l ++ [a])[j]? = some x ∧ p x) ↔ (∃ x, l[j]? = some x ∧ p x) := by
  rcases lt_trichotomy j l.length with hj | rfl | hj
  · simp [List.getElem?_append_left hj]
  · simp [List.getElem?_concat_length, ha]
  · rw [List.getElem?_eq_none (by simp; omega), List.getElem?_eq_none (by omega)]

theorem getElem?_set_cases {α : Type} {l : List α} {i j : Nat} {b x : α}
    (h : (l.set i b)[j]? = some x) : (j = i ∧ x = b) ∨ (j ≠ i ∧ l[j]? = some x) := by
  by_cases hij : i = j
  · subst hij
    rw [List.getElem?_set_self'] at h
    cases hl : l[i]? <;> simp_all
  · exact .inr ⟨Ne.symm hij, by rwa [List.getElem?_set_ne hij] at h⟩

theorem getElem?_append_cases {α : Type} {l : List α} {j : Nat} {b x : α}
    (h : (l ++ [b])[j]? = some x) : (j = l.length ∧ x = b) ∨ l[j]? = some x := by
  rcases lt_trichotomy j l.length with hj | rfl | hj
  · exact .inr (by rwa [List.getElem?_append_left hj] at h)
  · simp [List.getElem?_concat_length] at h; exact .inl ⟨rfl, h.symm⟩
  · rw [List.getElem?_eq_none (by simp; omega)] at h; cases h

theorem running_abortShells_start {o : Once Body} {b : Body} (hb : b.pc ≠ .abortShells) :
    (∃ r, o.start b = .running ⟨r, .abortShells⟩) ↔ (∃ r, o = .running ⟨r, .abortShells⟩) := by
  cases o with
  | idle => simp only [Once.start_idle, Once.running.injEq, reduceCtorEq, exists_false,
      iff_false]; rintro ⟨r, rfl⟩; exact hb rfl
  | running a => simp
  | done a => simp

/-- A step that moves nobody into or out of a critical section, and leaves `mShells`. -/
theorem LockInv.frame (hl : LockInv s) (hm : s'.mShells = s.mShells)
    (hc : ∀ h, s'.InCritical h ↔ s.InCritical h) : LockInv s' := fun h => by
  rw [hm, hc]; exact hl h

/-- `h₀` takes the free `mShells` and enters its critical section. -/
theorem LockInv.acquire (hl : LockInv s) {h₀ : Holder} (hfree : s.mShells = none)
    (hm : s'.mShells = some h₀) (hin : s'.InCritical h₀)
    (hc : ∀ h, h ≠ h₀ → (s'.InCritical h ↔ s.InCritical h)) : LockInv s' := fun h => by
  by_cases hh : h = h₀
  · subst hh; exact ⟨fun _ => hin, fun _ => hm⟩
  · rw [hc h hh, ← hl h, hm, hfree]; simp [Ne.symm hh]

/-- `h₀` leaves its critical section and releases `mShells`. -/
theorem LockInv.release (hl : LockInv s) {h₀ : Holder} (hheld : s.mShells = some h₀)
    (hm : s'.mShells = none) (hout : ¬ s'.InCritical h₀)
    (hc : ∀ h, h ≠ h₀ → (s'.InCritical h ↔ s.InCritical h)) : LockInv s' := fun h => by
  by_cases hh : h = h₀
  · subst hh; simp [hm, hout]
  · rw [hc h hh, ← hl h, hm, hheld]; simp [Ne.symm hh]

end Lock

/-! ## Every step keeps `Inv` -/

section InvSteps

variable {s s' : Sandbox}

/-- The calls that did not move keep their predicate; `c'` is the one that moved to `i`. -/
theorem Inv.calls_set (hi : Inv s) (hst : Stable s s') {i : Nat} {c' : Call}
    (hc' : CallOk s' c') : ∀ c ∈ s.calls.set i c', CallOk s' c := fun c hc => by
  rcases List.mem_or_eq_of_mem_set hc with hc | rfl
  · exact hst.callOk (hi.calls c hc)
  · exact hc'

theorem Inv.processExit (hi : Inv s) {success : Bool}
    (h : s.step (.processExit success) = some s') : Inv s' := by
  have hst := hi.stable h
  obtain ⟨-, rfl⟩ := step_processExit_eq_some h
  exact ⟨hi.lock, hi.counted, hi.shells.congr rfl rfl rfl, hst.watcherOk hi.watcher,
    hst.gateOk rfl rfl rfl rfl rfl hi.gate, fun c hc => hst.callOk (hi.calls c hc)⟩

theorem Inv.shellExit (hi : Inv s) {k : Nat} (h : s.step (.shellExit k) = some s') : Inv s' := by
  have hst := hi.stable h
  obtain ⟨hook, hk, rfl⟩ := step_shellExit_eq_some h
  refine ⟨hi.lock.frame rfl fun h => ?_, ?_, ⟨hi.shells.nodup, fun j hj => ?_, ?_, ?_⟩,
    hst.watcherOk hi.watcher, hst.gateOk rfl rfl rfl rfl rfl hi.gate,
    fun c hc => hst.callOk (hi.calls c hc)⟩
  · cases h <;> simp only [Sandbox.InCritical]
    exact exists_set_iff (b := ⟨true, hook⟩) (p := fun sh => sh.hook = .remove) hk Iff.rfl _
  · unfold Counted Sandbox.liveShells
    rw [liveShells_set (u := ⟨true, hook⟩) hk rfl]; exact hi.counted
  · exact (exists_set_iff (b := ⟨true, hook⟩) hk (p := fun sh => sh.live = true) Iff.rfl j).mpr
      (hi.shells.live j hj)
  · intro j sh hsh hl
    rcases getElem?_set_cases hsh with ⟨rfl, rfl⟩ | ⟨-, hsh⟩
    · exact hi.shells.covered _ _ hk hl
    · exact hi.shells.covered _ _ hsh hl
  · intro j sh hsh hw
    rcases getElem?_set_cases hsh with ⟨rfl, rfl⟩ | ⟨-, hsh⟩
    · rfl
    · exact hi.shells.exited _ _ hsh hw

theorem Inv.arrive (hi : Inv s) {c : CallKind} (h : s.step (.arrive c) = some s') : Inv s' := by
  have hst := hi.stable h
  cases h
  have hentry : ¬ (c.entry.holdsShells = true) := by cases c <;> simp [CallKind.entry, Call.holdsShells]
  refine ⟨hi.lock.frame rfl fun h => ?_, ?_, hi.shells.congr rfl rfl rfl, hst.watcherOk hi.watcher,
    hst.gateOk rfl rfl rfl rfl rfl hi.gate, fun d hd => ?_⟩
  · cases h <;> simp only [Sandbox.InCritical]
    exact exists_append_iff (p := fun d : Call => d.holdsShells = true) hentry _
  · unfold Counted Sandbox.spawning; rw [spawning_append_entry]; exact hi.counted
  · rcases List.mem_append.mp hd with hd | hd
    · exact hst.callOk (hi.calls d hd)
    · rw [List.mem_singleton.mp hd]; cases c <;> trivial

/-- The gate after a `Do` entered with body `b`: `b` starts if the gate was idle. -/
theorem Inv.gateOk_start (hi : Inv s) (hst : Stable s s') {b : Body}
    (hr : s'.resolve = s.resolve.start b) (ht : s'.teardown = s.teardown)
    (hrs : s'.resultSet = s.resultSet) (hre : s'.resultErr = s.resultErr)
    (hae : s'.abortErr = s.abortErr) (hidle : s.resolve = .idle → GateOk s' (.running b)) :
    GateOk s' s'.resolve := by
  cases hres : s.resolve with
  | idle => rw [hr, hres]; exact hidle hres
  | running a => exact hst.gateOk (by rw [hr, hres]; rfl) ht hrs hre hae hi.gate
  | done a => exact hst.gateOk (by rw [hr, hres]; rfl) ht hrs hre hae hi.gate

/-- Entering `Do` with a body that does not start in `abortShells` moves nobody into a
critical section. -/
theorem inCritical_start {b : Body} (hb : b.pc ≠ .abortShells)
    (hr : s'.resolve = s.resolve.start b) (hc : s'.calls = s.calls)
    (hp : s'.shellProcs = s.shellProcs) (h : Holder) : s'.InCritical h ↔ s.InCritical h := by
  cases h <;> simp only [Sandbox.InCritical, hr, hc, hp]
  exact running_abortShells_start hb

theorem Inv.waitForTermination (hi : Inv s) (h : s.step .watcher = some s') : Inv s' := by
  have hst := hi.stable h
  rcases waitForTermination_eq_some h with ⟨success, hw, hp, rfl⟩ | ⟨success, hw, rfl⟩ |
    ⟨success, hw, h0, rfl⟩ | ⟨success, hw, rfl⟩ | ⟨hw, hd, rfl⟩
  all_goals refine ⟨?_, hi.counted, hi.shells.congr rfl rfl rfl, ?_, ?_,
    fun c hc => hst.callOk (hi.calls c hc)⟩
  all_goals have hwo := hi.watcher; rw [hw] at hwo
  -- the lock and the gate, for the four steps that leave the gate
  all_goals first
    | exact hi.lock
    | exact hst.gateOk rfl rfl rfl rfl rfl hi.gate
    | skip
  · exact hp
  · exact ⟨hst.primary _ hwo, rfl⟩
  · exact ⟨hwo.1, (drained_of_count hi.counted hi.shells hwo.2 h0 : Drained s)⟩
  · exact hi.lock.frame rfl (inCritical_start (by simp) rfl rfl rfl)
  · exact Once.start_ne_idle _ _
  · refine hi.gateOk_start hst rfl rfl rfl rfl rfl fun hidle => ?_
    have hg := hi.gate
    rw [hidle] at hg
    exact ⟨hg.1, hg.2.1, hg.2.2.1, hg.2.2.2, rfl, hwo.1, hwo.2⟩
  · exact hd

theorem Inv.running (hi : Inv s) {b : Body} (hr : s.resolve = .running b) :
    s.teardown = b.teardownBefore ∧ s.resultSet = none ∧ s.resultErr = none ∧
      s.abortErr = none ∧ BodyOk s b := by
  have hg := hi.gate; rw [hr] at hg; exact hg

theorem Inv.bodyStep (hi : Inv s) (h : s.step .body = some s') : Inv s' := by
  have hst := hi.stable h
  obtain ⟨r, ⟨hr, rfl⟩ | ⟨hr, hfree, rfl⟩ | ⟨hr, rfl⟩ | ⟨hr, h0, rfl⟩ | ⟨hr, rfl⟩⟩ :=
    bodyStep_eq_some h
  all_goals obtain ⟨ht, hrs, hre, hae, hb⟩ := hi.running hr
  · -- `KillProcessTree`
    refine ⟨hi.lock.frame rfl fun h => ?_, hi.counted, hi.shells.congr rfl rfl rfl,
      hst.watcherOk hi.watcher, ?_, fun c hc => hst.callOk (hi.calls c hc)⟩
    · cases h <;> simp [Sandbox.InCritical, hr]
    · rcases r with _ | _ | _
      · exact absurd hb.1 (by simp)
      all_goals exact ⟨by simp [ht, Body.teardownBefore], hrs, hre, hae, trivial⟩
  · -- `abortShells` takes `mShells`
    refine ⟨hi.lock.acquire hfree rfl ⟨r, rfl⟩ fun h hh => ?_, hi.counted,
      hi.shells.congr rfl rfl rfl, hst.watcherOk hi.watcher, ?_,
      fun c hc => hst.callOk (hi.calls c hc)⟩
    · cases h <;> simp_all [Sandbox.InCritical]
    · rcases r with _ | _ | _
      · exact absurd hb.1 (by simp)
      all_goals exact ⟨by simp [ht, Body.teardownBefore], hrs, hre, hae, trivial⟩
  · -- `abortShells` drains, aborts every listed shell and releases `mShells`
    have hheld : s.mShells = some .body := (hi.lock .body).mpr ⟨r, hr⟩
    refine ⟨hi.lock.release hheld rfl (by simp [Sandbox.InCritical]) fun h hh => ?_, hi.counted,
      ⟨List.nodup_nil, by simp, fun k sh hk hl => ?_, hi.shells.exited⟩,
      hst.watcherOk hi.watcher, ?_, fun c hc => hst.callOk (hi.calls c hc)⟩
    · cases h <;> simp_all [Sandbox.InCritical]
    · have := hi.shells.covered k sh hk hl
      simp only [List.mem_append, List.not_mem_nil, false_or]
      tauto
    · rcases r with _ | _ | _
      · exact absurd hb.1 (by simp)
      all_goals exact ⟨by simp [ht, Body.teardownBefore], hrs, hre, hae, rfl, rfl,
        hi.lock.spawning_eq_zero (by simp [hheld])⟩
  · -- `s.sessions.Wait()` returns
    refine ⟨hi.lock.frame rfl fun h => ?_, hi.counted, hi.shells.congr rfl rfl rfl,
      hst.watcherOk hi.watcher, ?_, fun c hc => hst.callOk (hi.calls c hc)⟩
    · cases h <;> simp [Sandbox.InCritical, hr]
    · rcases r with _ | _ | _
      · exact absurd hb.1 (by simp)
      all_goals exact ⟨by simp [ht, Body.teardownBefore], hrs, hre, hae, hb, h0⟩
  · -- the rest of the body, and the gate's return
    refine ⟨hi.lock.frame (by simp) fun h => ?_, by simpa [Counted, Sandbox.liveShells,
      Sandbox.spawning] using hi.counted, hi.shells.congr (by simp) (by simp) (by simp),
      hst.watcherOk (by simpa using hi.watcher), ?_,
      fun c hc => hst.callOk (hi.calls c (by simpa using hc))⟩
    · cases h <;> simp [Sandbox.InCritical, hr]
    · rcases r with success | _ | _
      · obtain ⟨-, hp, hd⟩ := hb
        refine ⟨by simp [Sandbox.finishBody, ht, bodyTeardown, Body.teardownBefore], ?_, ?_, ?_,
          ?_, fun _ h => ?_⟩ <;>
          simp_all [Sandbox.finishBody, Sandbox.expectedResult, expectedKill, expectedAbort,
            Drained, Closed, Sandbox.spawning]
      all_goals
        refine ⟨by simp [Sandbox.finishBody, ht, bodyTeardown, Body.teardownBefore], ?_, ?_, ?_,
          ?_, fun _ h => by cases h⟩ <;>
        simp_all [Sandbox.finishBody, Sandbox.expectedResult, expectedKill, expectedAbort, BodyOk,
          Drained, Closed, Sandbox.spawning]

/-- Who is in a critical section after a step of call `i`, other than call `i`. -/
theorem inCritical_setCall_ne {i : Nat} {c' : Call} (hcalls : s'.calls = s.calls.set i c')
    (hr : (∃ r, s'.resolve = .running ⟨r, .abortShells⟩) ↔
      (∃ r, s.resolve = .running ⟨r, .abortShells⟩))
    (hp : ∀ k : Nat, (∃ sh : Shell, s'.shellProcs[k]? = some sh ∧ sh.hook = .remove) ↔
      (∃ sh : Shell, s.shellProcs[k]? = some sh ∧ sh.hook = .remove))
    (h : Holder) (hh : h ≠ .call i) : s'.InCritical h ↔ s.InCritical h := by
  cases h with
  | body => exact hr
  | call j =>
    have hij : i ≠ j := fun e => hh (e ▸ rfl)
    simp only [Sandbox.InCritical, hcalls, List.getElem?_set_ne hij]
  | hook k => exact hp k

/-- A step of call `i` between two positions outside the critical section, or two inside. -/
theorem inCritical_setCall {i : Nat} {c c' : Call} (hc : s.calls[i]? = some c)
    (hcalls : s'.calls = s.calls.set i c') (hcc : c'.holdsShells = c.holdsShells)
    (hr : (∃ r, s'.resolve = .running ⟨r, .abortShells⟩) ↔
      (∃ r, s.resolve = .running ⟨r, .abortShells⟩))
    (hp : s'.shellProcs = s.shellProcs) (h : Holder) : s'.InCritical h ↔ s.InCritical h := by
  by_cases hh : h = .call i
  · subst hh
    simp only [Sandbox.InCritical, hcalls]
    exact exists_set_iff (p := fun d : Call => d.holdsShells = true) hc (by simp only [hcc]) i
  · exact inCritical_setCall_ne hcalls hr (fun k => by rw [hp]) h hh

/-- The count after a step of call `i` that leaves the shells alone. -/
theorem Counted.setCall (hco : Counted s) {i : Nat} {c c' : Call} (hc : s.calls[i]? = some c)
    (hcalls : s'.calls = s.calls.set i c') (hsp : c.spawning = c'.spawning)
    (hsess : s'.sessions.count = s.sessions.count) (hp : s'.shellProcs = s.shellProcs) :
    Counted s' := by
  unfold Counted Sandbox.liveShells at *
  rw [hsess, hp, Sandbox.spawning, hcalls, spawning_set hc hsp]
  exact hco

/-- A returned `Kill`, `Abort` or `WaitForResult` call read the fields of a done gate. -/
theorem Inv.done (hi : Inv s) (hd : s.resolve.isDone = true) :
    ∃ b, s.resolve = .done b ∧ (s.resultSet, s.resultErr) = s.expectedResult b.resolution ∧
      s.resultErr = expectedKill b.resolution ∧ s.abortErr = expectedAbort b.resolution := by
  cases hr : s.resolve with
  | done b =>
    have hg := hi.gate; rw [hr] at hg
    exact ⟨b, rfl, hg.2.1, hg.2.2.1, hg.2.2.2.1⟩
  | _ => simp [hr] at hd

/-- A step of call `i` from `c` to `c'` that may enter `Do`, leaving the lock, the count and the
shells alone: `Inv` holds once the gate and the moved call are right. -/
theorem Inv.setCall (hi : Inv s) {i : Nat} {c c' : Call} {g : Once Body}
    (hst : Stable s { s with resolve := g, calls := s.calls.set i c' })
    (hc : s.calls[i]? = some c) (hcc : c'.holdsShells = c.holdsShells)
    (hsp : c.spawning = c'.spawning)
    (hr : (∃ r, g = .running ⟨r, .abortShells⟩) ↔ (∃ r, s.resolve = .running ⟨r, .abortShells⟩))
    (hg : GateOk { s with resolve := g, calls := s.calls.set i c' } g)
    (hok : CallOk { s with resolve := g, calls := s.calls.set i c' } c') :
    Inv { s with resolve := g, calls := s.calls.set i c' } :=
  ⟨hi.lock.frame rfl (inCritical_setCall hc rfl hcc hr rfl), hi.counted.setCall hc rfl hsp rfl rfl,
    hi.shells.congr rfl rfl rfl, hst.watcherOk hi.watcher, hg, hi.calls_set hst hok⟩

theorem Inv.callStep (hi : Inv s) {i : Nat} {spawned : Bool} (h : s.step (.call i spawned) = some s') :
    Inv s' := by
  have hst := hi.stable h
  rcases callStep_eq_some h with ⟨hc, rfl⟩ | ⟨hc, hd, rfl⟩ | ⟨hc, rfl⟩ | ⟨hc, hd, rfl⟩ |
    ⟨hc, hd, rfl⟩ | ⟨hc, hfree, rfl⟩ | ⟨hc, hdr, rfl⟩ | ⟨hc, hdr, rfl⟩ | ⟨hc, -, rfl⟩ | ⟨hc, -, rfl⟩
  · -- `Kill` enters `Do`
    refine hi.setCall hst hc rfl rfl (running_abortShells_start (by simp))
      (hi.gateOk_start hst rfl rfl rfl rfl rfl fun hidle => ?_) (Once.start_ne_idle _ _)
    have hg := hi.gate; rw [hidle] at hg
    exact ⟨hg.1, hg.2.1, hg.2.2.1, hg.2.2.2, trivial⟩
  · -- `Kill` returns `resultErr`
    obtain ⟨b, hb, -, hk, -⟩ := hi.done hd
    exact hi.setCall hst hc rfl rfl Iff.rfl (hst.gateOk rfl rfl rfl rfl rfl hi.gate) ⟨b, hb, hk⟩
  · -- `Abort` enters `Do`
    refine hi.setCall hst hc rfl rfl (running_abortShells_start (by simp))
      (hi.gateOk_start hst rfl rfl rfl rfl rfl fun hidle => ?_) (Once.start_ne_idle _ _)
    have hg := hi.gate; rw [hidle] at hg
    exact ⟨hg.1, hg.2.1, hg.2.2.1, hg.2.2.2, trivial⟩
  · -- `Abort` returns `abortErr`
    obtain ⟨b, hb, -, -, ha⟩ := hi.done hd
    exact hi.setCall hst hc rfl rfl Iff.rfl (hst.gateOk rfl rfl rfl rfl rfl hi.gate) ⟨b, hb, ha⟩
  · -- `WaitForResult` returns
    obtain ⟨b, hb, hw, -, -⟩ := hi.done hd
    exact hi.setCall hst hc rfl rfl Iff.rfl (hst.gateOk rfl rfl rfl rfl rfl hi.gate) ⟨b, hb, hw⟩
  · -- `NewShell` takes `mShells`
    exact ⟨hi.lock.acquire hfree rfl ⟨.newShell .add, getElem?_set_of_getElem? hc, rfl⟩
        (inCritical_setCall_ne rfl Iff.rfl fun _ => Iff.rfl),
      hi.counted.setCall hc rfl rfl rfl rfl,
      hi.shells.congr rfl rfl rfl, hst.watcherOk hi.watcher, hst.gateOk rfl rfl rfl rfl rfl hi.gate,
      hi.calls_set hst trivial⟩
  · -- `Add(1)` refused: the registry is draining
    have hheld := (hi.lock (.call i)).mpr ⟨_, hc, rfl⟩
    exact ⟨hi.lock.release hheld rfl
        (by simp [Sandbox.InCritical, getElem?_set_of_getElem? hc, Call.holdsShells])
        (inCritical_setCall_ne rfl Iff.rfl fun _ => Iff.rfl),
      hi.counted.setCall hc rfl rfl rfl rfl,
      hi.shells.congr rfl rfl rfl, hst.watcherOk hi.watcher, hst.gateOk rfl rfl rfl rfl rfl hi.gate,
      hi.calls_set hst trivial⟩
  · -- `Add(1)` counts the shell about to be spawned
    have hco := hi.counted
    refine ⟨hi.lock.frame rfl (inCritical_setCall hc rfl rfl Iff.rfl rfl), ?_,
      hi.shells.congr rfl rfl rfl, hst.watcherOk hi.watcher, hst.gateOk rfl rfl rfl rfl rfl hi.gate,
      hi.calls_set hst trivial⟩
    unfold Counted at hco ⊢
    simp only [Sandbox.spawning, Sandbox.liveShells] at hco ⊢
    rw [spawning_set_start (d := .newShell .spawn) hc rfl rfl, Sandbox.spawning]
    push_cast
    omega
  · -- `newShell` started the shell: list it, start its hook, release `mShells`
    have hheld := (hi.lock (.call i)).mpr ⟨_, hc, rfl⟩
    have hco := hi.counted
    have hsp := spawning_set_stop (d := .newShell (.returned (some s.shellProcs.length) none)) hc
      rfl rfl
    have hfresh : s.shellProcs.length ∉ s.shells := fun hm => by
      obtain ⟨sh, hsh, -⟩ := hi.shells.live _ hm
      exact absurd (List.getElem?_eq_some_iff.mp hsh).1 (Nat.lt_irrefl _)
    refine ⟨hi.lock.release hheld rfl
        (by simp [Sandbox.InCritical, getElem?_set_of_getElem? hc, Call.holdsShells])
        (inCritical_setCall_ne rfl Iff.rfl fun k =>
          exists_append_iff (p := fun sh : Shell => sh.hook = .remove) (by simp) k), ?_,
      ⟨?_, fun k hk => ?_, fun k sh hk hl => ?_, fun k sh hk hw => ?_⟩,
      hst.watcherOk hi.watcher, hst.gateOk rfl rfl rfl rfl rfl hi.gate, hi.calls_set hst trivial⟩
    · unfold Counted Sandbox.spawning Sandbox.liveShells at *
      simp only [List.countP_append] at hco hsp ⊢
      simp [Shell.live] at hco hsp ⊢
      omega
    · exact List.nodup_append.mpr ⟨hi.shells.nodup, List.nodup_singleton _,
        List.disjoint_singleton.mpr hfresh⟩
    · rcases List.mem_append.mp hk with hk | hk
      · obtain ⟨sh, hsh, hl⟩ := hi.shells.live k hk
        exact ⟨sh, by rw [List.getElem?_append_left (List.getElem?_eq_some_iff.mp hsh).1, hsh], hl⟩
      · rw [List.mem_singleton.mp hk]
        exact ⟨_, List.getElem?_concat_length _ _, rfl⟩
    · rcases getElem?_append_cases hk with ⟨rfl, -⟩ | hk
      · exact .inl (List.mem_append_right _ (List.mem_singleton_self _))
      · rcases hi.shells.covered k sh hk hl with h | h
        · exact .inl (List.mem_append_left _ h)
        · exact .inr h
    · rcases getElem?_append_cases hk with ⟨-, rfl⟩ | hk
      · exact absurd rfl hw
      · exact hi.shells.exited k sh hk hw
  · -- `newShell` failed: `Done()` rolls the count back
    have hheld := (hi.lock (.call i)).mpr ⟨_, hc, rfl⟩
    have hco := hi.counted
    refine ⟨hi.lock.release hheld rfl
        (by simp [Sandbox.InCritical, getElem?_set_of_getElem? hc, Call.holdsShells])
        (inCritical_setCall_ne rfl Iff.rfl fun _ => Iff.rfl), ?_,
      hi.shells.congr rfl rfl rfl, hst.watcherOk hi.watcher, hst.gateOk rfl rfl rfl rfl rfl hi.gate,
      hi.calls_set hst trivial⟩
    have hsp := spawning_set_stop (d := .newShell (.returned none (some .malformedPayload))) hc rfl rfl
    unfold Counted Sandbox.spawning Sandbox.liveShells at *
    simp only [WaitGroup.done_count] at hco hsp ⊢
    omega

/-- Hook `k` moves between two live positions, past `S.Wait()` only once its shell exited. -/
theorem ShellsInv.setHook (hs : ShellsInv s) {k : Nat} {sh sh' : Shell}
    (hk : s.shellProcs[k]? = some sh) (hp : s'.shellProcs = s.shellProcs.set k sh')
    (hl : sh'.live = sh.live) (he : sh'.hook ≠ .wait → sh'.exited = true)
    (hsh : s'.shells = s.shells) (ha : s'.abortRequests = s.abortRequests) : ShellsInv s' := by
  refine ⟨hsh ▸ hs.nodup, fun j hj => ?_, fun j x hx hxl => ?_, fun j x hx hw => ?_⟩
  · rw [hp]; rw [hsh] at hj
    exact (exists_set_iff (p := fun x : Shell => x.live = true) hk (by simp only [hl]) j).mpr
      (hs.live j hj)
  · rw [hp] at hx; rw [hsh, ha]
    rcases getElem?_set_cases hx with ⟨rfl, rfl⟩ | ⟨-, hx⟩
    · exact hs.covered _ _ hk (hl ▸ hxl)
    · exact hs.covered _ _ hx hxl
  · rw [hp] at hx
    rcases getElem?_set_cases hx with ⟨rfl, rfl⟩ | ⟨-, hx⟩
    · exact he hw
    · exact hs.exited _ _ hx hw

/-- Who is in a critical section after a step of hook `k`, other than hook `k`. -/
theorem inCritical_setHook_ne {k : Nat} {sh : Shell} (hp : s'.shellProcs = s.shellProcs.set k sh)
    (hr : s'.resolve = s.resolve) (hc : s'.calls = s.calls) (h : Holder) (hh : h ≠ .hook k) :
    s'.InCritical h ↔ s.InCritical h := by
  cases h with
  | hook j =>
    have hkj : k ≠ j := fun e => hh (e ▸ rfl)
    simp only [Sandbox.InCritical, hp, List.getElem?_set_ne hkj]
  | _ => simp only [Sandbox.InCritical, hr, hc]

theorem Inv.hookStep (hi : Inv s) {k : Nat} (h : s.step (.hook k) = some s') : Inv s' := by
  have hst := hi.stable h
  rcases hookStep_eq_some h with ⟨hk, rfl⟩ | ⟨exited, hk, hfree, rfl⟩ | ⟨exited, hk, rfl⟩
  · -- `S.Wait()` returns
    exact ⟨hi.lock.frame rfl fun h => by
        cases h <;> simp only [Sandbox.InCritical]
        exact exists_set_iff (b := ⟨true, .lock⟩) (p := fun sh : Shell => sh.hook = .remove) hk
          (by simp) _,
      by unfold Counted Sandbox.liveShells; rw [liveShells_set (u := ⟨true, .lock⟩) hk rfl];
         exact hi.counted,
      hi.shells.setHook hk rfl rfl (fun _ => rfl) rfl rfl,
      hst.watcherOk hi.watcher, hst.gateOk rfl rfl rfl rfl rfl hi.gate,
      fun c hc => hst.callOk (hi.calls c hc)⟩
  · -- the hook takes `mShells`
    have hex := hi.shells.exited k _ hk (by simp)
    exact ⟨hi.lock.acquire hfree rfl ⟨_, getElem?_set_of_getElem? hk, rfl⟩
        (inCritical_setHook_ne rfl rfl rfl),
      by unfold Counted Sandbox.liveShells; rw [liveShells_set (u := ⟨exited, .remove⟩) hk rfl];
         exact hi.counted,
      hi.shells.setHook hk rfl rfl (fun _ => hex) rfl rfl,
      hst.watcherOk hi.watcher, hst.gateOk rfl rfl rfl rfl rfl hi.gate,
      fun c hc => hst.callOk (hi.calls c hc)⟩
  · -- the hook removes its shell from `s.shells`, calls `Done()` and releases `mShells`
    have hheld := (hi.lock (.hook k)).mpr ⟨_, hk, rfl⟩
    have hex := hi.shells.exited k _ hk (by simp)
    have hco := hi.counted
    have hlive := countP_set_add (p := Shell.live) (b := ⟨exited, .finished⟩) hk
    refine ⟨hi.lock.release hheld rfl
        (by simp [Sandbox.InCritical, getElem?_set_of_getElem? hk]) (inCritical_setHook_ne rfl rfl rfl), ?_,
      ⟨hi.shells.nodup.filter _, fun j hj => ?_, fun j x hx hxl => ?_, fun j x hx hw => ?_⟩,
      hst.watcherOk hi.watcher, hst.gateOk rfl rfl rfl rfl rfl hi.gate,
      fun c hc => hst.callOk (hi.calls c hc)⟩
    · simp only [Shell.live] at hlive
      unfold Counted Sandbox.liveShells Sandbox.spawning at *
      simp only [WaitGroup.done_count] at hco ⊢
      simp at hlive
      omega
    · obtain ⟨hj, hjk⟩ := List.mem_filter.mp hj
      have hkj : k ≠ j := fun e => by simp [e] at hjk
      simp only [List.getElem?_set_ne hkj]
      exact hi.shells.live j hj
    · rcases getElem?_set_cases hx with ⟨rfl, rfl⟩ | ⟨hjk, hx⟩
      · simp [Shell.live] at hxl
      · rcases hi.shells.covered j x hx hxl with h | h
        · exact .inl (List.mem_filter.mpr ⟨h, by simpa using hjk⟩)
        · exact .inr h
    · rcases getElem?_set_cases hx with ⟨rfl, rfl⟩ | ⟨-, hx⟩
      · exact hex
      · exact hi.shells.exited j x hx hw

theorem Inv.step (hi : Inv s) {a : Action} (h : s.step a = some s') : Inv s' := by
  cases a with
  | processExit _ => exact hi.processExit h
  | shellExit _ => exact hi.shellExit h
  | arrive _ => exact hi.arrive h
  | watcher => exact hi.waitForTermination h
  | body => exact hi.bodyStep h
  | call _ _ => exact hi.callStep h
  | hook _ => exact hi.hookStep h

end InvSteps

theorem Inv.start (createUser : Bool) (user : User) (workingFolder : Option TemporaryFolder) :
    Inv (Sandbox.start createUser user workingFolder) := by
  refine ⟨fun h => ?_, by simp [Counted, Sandbox.start, Sandbox.liveShells, Sandbox.spawning,
    WaitGroup.empty], ⟨List.nodup_nil, by simp [Sandbox.start], by simp [Sandbox.start],
    by simp [Sandbox.start]⟩, trivial, ⟨rfl, rfl, rfl, rfl⟩, by simp [Sandbox.start]⟩
  cases h <;> simp [Sandbox.start, Sandbox.InCritical]

/-- **The invariant.** Every state a sandbox reaches, under any interleaving, satisfies `Inv`. -/
theorem Reachable.inv {s : Sandbox} (h : Reachable s) : Inv s := by
  induction h with
  | start c u w => exact Inv.start c u w
  | step _ _ hs ih => exact ih.step hs

end TaskclusterWorker.Native
