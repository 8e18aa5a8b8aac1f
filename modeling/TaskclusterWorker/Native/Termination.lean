import Mathlib
import TaskclusterWorker.Native.Progress

/-!
# Termination: every schedule without new calls is finite

Between its waits each goroutine of the sandbox runs straight-line code; the loops of
`abortShells` and of a hook over `s.shells` run inside one step. So every step but a new call's
arrival moves a goroutine, a call or a process forward for good. `Sandbox.rank` counts the
steps they all have left — a `NewShell` call that has not spawned yet counts those of the
shell it may spawn — and every such step lowers it (`rank_step_lt`). Hence:

* `run_rank` — along a schedule in which no call arrives, each step uses up a unit of rank
  and every property such steps keep is kept;
* `run_length_le_rank` — from any state, such a schedule takes at most `s.rank` steps: no
  goroutine of the sandbox can spin. `Resolution` combines the bound with where such a
  schedule stops.
-/

namespace TaskclusterWorker.Native

open TaskclusterWorker.Atomics

/-! ## Steps left -/

/-- Steps the watcher has left. -/
def WatcherPc.rank : WatcherPc → Nat
  | .waitProcess => 5
  | .drain _ => 4
  | .waitShells _ => 3
  | .resolve _ => 2
  | .inResolve => 1
  | .finished => 0

/-- Steps a body has left, the gate's return included. -/
def BodyPc.rank : BodyPc → Nat
  | .killProcessTree => 5
  | .lockShells => 4
  | .abortShells => 3
  | .waitShells => 2
  | .finish => 1

/-- Steps left to the gate's body; an idle gate counts the longest body. -/
def gateRank : Once Body → Nat
  | .idle => 5
  | .running b => b.pc.rank
  | .done _ => 0

/-- Steps a `Kill` or `Abort` call has left. -/
def CallPc.rank : CallPc → Nat
  | .resolve => 2
  | .inResolve => 1
  | .returned _ => 0

/-- Steps a call has left; a `NewShell` call that has not spawned counts the shell's. -/
def Call.rank : Call → Nat
  | .kill pc | .abort pc => pc.rank
  | .waitForResult none => 1
  | .waitForResult (some _) => 0
  | .newShell .lock => 7
  | .newShell .add => 6
  | .newShell .spawn => 5
  | .newShell (.returned _ _) => 0

/-- Steps a shell has left: its process's exit, then its hook's. -/
def Shell.rank (sh : Shell) : Nat :=
  (if sh.exited then 0 else 1) +
    match sh.hook with
    | .wait => 3
    | .lock => 2
    | .remove => 1
    | .finished => 0

/-- Steps the sandbox has left without new calls. -/
def Sandbox.rank (s : Sandbox) : Nat :=
  (if s.primary = none then 1 else 0) + s.watcher.rank + gateRank s.resolve +
    (s.calls.map Call.rank).sum + (s.shellProcs.map Shell.rank).sum

theorem gateRank_start (o : Once Body) (b : Body) : gateRank (o.start b) ≤ gateRank o := by
  rcases o with _ | _ | _ <;> rcases b with ⟨_, _ | _ | _ | _ | _⟩ <;> simp [gateRank, BodyPc.rank]

/-- How a sum over a list changes when entry `i` moves from `a` to `b`. -/
theorem sum_map_set {α : Type} (f : α → Nat) {l : List α} {i : Nat} {a : α} (h : l[i]? = some a)
    (b : α) : ((l.set i b).map f).sum + f a = (l.map f).sum + f b := by
  induction l generalizing i with
  | nil => simp at h
  | cons x l ih =>
    cases i with
    | zero =>
      simp only [List.getElem?_cons_zero, Option.some.injEq] at h
      subst h
      simp only [List.set_cons_zero, List.map_cons, List.sum_cons]
      omega
    | succ i =>
      simp only [List.getElem?_cons_succ] at h
      simp only [List.set_cons_succ, List.map_cons, List.sum_cons]
      have := ih h
      omega

section Rank

variable {s s' : Sandbox}

/-- A step of call `i` from `c` to a call with fewer steps left, the gate not lengthened. -/
theorem rank_setCall {i : Nat} {c c' : Call} (hc : s.calls[i]? = some c)
    (hcalls : s'.calls = s.calls.set i c') (hlt : c'.rank < c.rank)
    (hgate : gateRank s'.resolve ≤ gateRank s.resolve) (hp : s'.primary = s.primary)
    (hw : s'.watcher = s.watcher) (hsh : s'.shellProcs = s.shellProcs) : s'.rank < s.rank := by
  have hsum := sum_map_set Call.rank hc c'
  simp only [Sandbox.rank, hcalls, hp, hw, hsh] at hsum ⊢
  omega

/-- A step of shell `k` to a position with fewer steps left. -/
theorem rank_setShell {k : Nat} {sh sh' : Shell} (hk : s.shellProcs[k]? = some sh)
    (hsh : s'.shellProcs = s.shellProcs.set k sh') (hlt : sh'.rank < sh.rank)
    (hr : s'.resolve = s.resolve) (hp : s'.primary = s.primary) (hw : s'.watcher = s.watcher)
    (hc : s'.calls = s.calls) : s'.rank < s.rank := by
  have hsum := sum_map_set Shell.rank hk sh'
  simp only [Sandbox.rank, hsh, hr, hp, hw, hc] at hsum ⊢
  omega

theorem rank_waitForTermination (h : s.waitForTermination = some s') : s'.rank < s.rank := by
  rcases waitForTermination_eq_some h with ⟨_, hw, -, rfl⟩ | ⟨_, hw, rfl⟩ | ⟨_, hw, -, rfl⟩ |
    ⟨_, hw, rfl⟩ | ⟨hw, -, rfl⟩
  all_goals
    have := gateRank_start s.resolve
    simp only [Sandbox.rank, hw, WatcherPc.rank]
  -- `Do` starts the completion body only on an idle gate
  all_goals
    try have := this ⟨.completion ‹_›, .finish⟩
    omega

theorem rank_bodyStep (h : s.bodyStep = some s') : s'.rank < s.rank := by
  obtain ⟨r, ⟨hr, rfl⟩ | ⟨hr, -, rfl⟩ | ⟨hr, rfl⟩ | ⟨hr, -, rfl⟩ | ⟨hr, rfl⟩⟩ :=
    bodyStep_eq_some h <;> simp [Sandbox.rank, hr, gateRank, BodyPc.rank]

theorem rank_callStep {i : Nat} {spawned : Bool} (h : s.callStep i spawned = some s') :
    s'.rank < s.rank := by
  rcases callStep_eq_some h with ⟨hc, rfl⟩ | ⟨hc, -, rfl⟩ | ⟨hc, rfl⟩ | ⟨hc, -, rfl⟩ |
    ⟨hc, -, rfl⟩ | ⟨hc, -, rfl⟩ | ⟨hc, -, rfl⟩ | ⟨hc, -, rfl⟩ | ⟨hc, -, rfl⟩ | ⟨hc, -, rfl⟩
  iterate 8
    exact rank_setCall hc rfl (by simp [Call.rank, CallPc.rank])
      (by first | exact le_rfl | exact gateRank_start _ _) rfl rfl rfl
  · -- `newShell` started the shell: the call's steps pass to the shell's
    have hsum := sum_map_set Call.rank hc (.newShell (.returned (some s.shellProcs.length) none))
    simp [Sandbox.rank, Call.rank, Shell.rank] at hsum ⊢
    omega
  · exact rank_setCall hc rfl (by simp [Call.rank]) le_rfl rfl rfl rfl

theorem rank_hookStep {k : Nat} (h : s.hookStep k = some s') : s'.rank < s.rank := by
  rcases hookStep_eq_some h with ⟨hk, rfl⟩ | ⟨_, hk, -, rfl⟩ | ⟨_, hk, rfl⟩ <;>
    exact rank_setShell hk rfl (by simp [Shell.rank]) rfl rfl rfl rfl

/-- Every step but a new call's arrival lowers the rank. -/
theorem rank_step_lt {a : Action} (h : s.step a = some s') (ha : a.isArrive = false) :
    s'.rank < s.rank := by
  cases a with
  | processExit _ =>
    obtain ⟨hp, rfl⟩ := step_processExit_eq_some h
    simp [Sandbox.rank, hp]
  | shellExit _ =>
    obtain ⟨_, hk, rfl⟩ := step_shellExit_eq_some h
    exact rank_setShell hk rfl (by simp [Shell.rank]) rfl rfl rfl rfl
  | arrive _ => cases ha
  | watcher => exact rank_waitForTermination h
  | body => exact rank_bodyStep h
  | call _ _ => exact rank_callStep h
  | hook _ => exact rank_hookStep h

end Rank

/-- Along a schedule in which no call arrives, every step uses up a unit of rank and keeps
each property `P` that such steps keep. -/
theorem run_rank {P : Sandbox → Prop}
    (hP : ∀ {s s' : Sandbox} {a : Action}, P s → a.isArrive = false → s.step a = some s' → P s')
    {s t : Sandbox} (as : List Action) (has : ∀ a ∈ as, a.isArrive = false)
    (hr : s.run as = some t) (hs : P s) : as.length + t.rank ≤ s.rank ∧ P t := by
  induction as generalizing s with
  | nil => cases hr; exact ⟨by simp, hs⟩
  | cons a rest ih =>
    obtain ⟨u, hu, hr⟩ := Option.bind_eq_some.mp hr
    have ha := has a (List.mem_cons_self _ _)
    have step := rank_step_lt hu ha
    obtain ⟨tail, ht⟩ := ih (fun b hb => has b (List.mem_cons_of_mem _ hb)) hr (hP hs ha hu)
    exact ⟨by simp only [List.length_cons]; omega, ht⟩

/-- **Every schedule without new calls is finite.** From any state, a schedule in which no
call arrives takes at most `s.rank` steps, and each one it takes uses one of them up. -/
theorem run_length_le_rank {s t : Sandbox} (as : List Action)
    (has : ∀ a ∈ as, a.isArrive = false) (hr : s.run as = some t) :
    as.length + t.rank ≤ s.rank :=
  (run_rank (P := fun _ => True) (fun _ _ _ => trivial) as has hr trivial).1

/-- The primary process exits and natural completion wins: seven steps of the eleven
`newSandbox`'s sandbox has left. -/
theorem run_length_le_rank_completion :
    ∃ t, (Sandbox.start false ⟨"worker"⟩ none).run
        [.processExit true, .watcher, .watcher, .watcher, .watcher, .body, .watcher] = some t ∧
      7 + t.rank ≤ (Sandbox.start false ⟨"worker"⟩ none).rank :=
  ⟨_, rfl, run_length_le_rank
    [.processExit true, .watcher, .watcher, .watcher, .watcher, .body, .watcher] (by decide) rfl⟩

end TaskclusterWorker.Native
