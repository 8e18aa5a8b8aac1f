import TaskclusterWorker.Native.Invariant

/-!
# Progress: a blocked goroutine always has someone to wait for

A goroutine of the sandbox blocks on one of four things: `mShells`, the session count
reaching zero, the `resolve` gate, or a process. Each wait points at a goroutine that can
move (`CanStep`), or at a shell process that has not exited yet:

* `mShells` — its holder is inside a critical section, and no critical section blocks
  (`LockInv.canStep`);
* the count — a counted shell's `NewShell` call is about to spawn it, or its hook can move,
  or its process can exit (`Inv.canStep_count`);
* the gate — it is done, or its body can move (`Inv.canStep_running`).

`Inv.canStep_of_unfinished` puts these together: in a reachable state where the primary
process has exited, any goroutine that has not finished leaves some step enabled. Every
notion of "nothing can move" is `Sandbox.Enabled` negated for one class of steps, and both
readings below come from `Inv.goroutine_of_unfinished`:

* `not_stuck_of_exited` — once every process has exited, nothing is deadlocked;
* `quiescent_finished` — where nothing but a new call can move, everything has finished.
-/

namespace TaskclusterWorker.Native

open TaskclusterWorker.Atomics

/-- A step that is not the primary process exiting and not a new call arriving: a
goroutine's step, or a shell's process exiting. -/
def Action.progress : Action → Bool
  | .processExit _ | .arrive _ => false
  | _ => true

/-- A goroutine's step: not a process, not a new call. -/
def Action.goroutine : Action → Bool
  | .watcher | .body | .call _ _ | .hook _ => true
  | _ => false

/-- A new call's arrival. -/
def Action.isArrive : Action → Bool
  | .arrive _ => true
  | _ => false

theorem Action.not_isArrive_of_goroutine {a : Action} (h : a.goroutine = true) :
    (!a.isArrive) = true := by
  cases a <;> cases h <;> rfl

/-- Some step of the class `p` is enabled. Each notion of "nothing can move" below is its
negation for one class: goroutines and shell processes (`CanStep`), goroutines alone
(`Stuck`), everything but a new call (`Quiescent`). -/
def Sandbox.Enabled (s : Sandbox) (p : Action → Bool) : Prop :=
  ∃ a s', p a = true ∧ s.step a = some s'

theorem Sandbox.Enabled.mono {s : Sandbox} {p q : Action → Bool} (h : s.Enabled p)
    (hpq : ∀ a, p a = true → q a = true) : s.Enabled q :=
  let ⟨a, s', ha, hs⟩ := h
  ⟨a, s', hpq a ha, hs⟩

/-- Some goroutine, or some shell process, can move. -/
def Sandbox.CanStep (s : Sandbox) : Prop := s.Enabled Action.progress

section Blame

variable {s : Sandbox}

theorem canStep_body (h : s.bodyStep ≠ none) : s.CanStep := by
  obtain ⟨s', hs'⟩ := Option.ne_none_iff_exists'.mp h
  exact ⟨.body, s', rfl, hs'⟩

theorem canStep_watcher (h : s.waitForTermination ≠ none) : s.CanStep := by
  obtain ⟨s', hs'⟩ := Option.ne_none_iff_exists'.mp h
  exact ⟨.watcher, s', rfl, hs'⟩

theorem canStep_call {i : Nat} (h : s.callStep i true ≠ none) : s.CanStep := by
  obtain ⟨s', hs'⟩ := Option.ne_none_iff_exists'.mp h
  exact ⟨.call i true, s', rfl, hs'⟩

theorem canStep_hook {k : Nat} (h : s.hookStep k ≠ none) : s.CanStep := by
  obtain ⟨s', hs'⟩ := Option.ne_none_iff_exists'.mp h
  exact ⟨.hook k, s', rfl, hs'⟩

theorem canStep_shellExit {k : Nat} {hook : HookPc}
    (hk : s.shellProcs[k]? = some ⟨false, hook⟩) : s.CanStep :=
  ⟨.shellExit k, { s with shellProcs := s.shellProcs.set k ⟨true, hook⟩ }, rfl,
    by simp [Sandbox.step, hk]⟩

/-- The holder of `mShells` can always move: no critical section blocks. -/
theorem LockInv.canStep (hl : LockInv s) {h : Holder} (hh : s.mShells = some h) : s.CanStep := by
  have hc := (hl h).mp hh
  cases h with
  | body =>
    obtain ⟨r, hr⟩ := hc
    exact canStep_body (by simp [Sandbox.bodyStep, hr])
  | call i =>
    obtain ⟨c, hc, hcs⟩ := hc
    refine canStep_call (i := i) ?_
    match c, hcs with
    | .newShell .add, _ => simp only [Sandbox.callStep, hc]; split <;> simp
    | .newShell .spawn, _ => simp [Sandbox.callStep, hc]
  | hook k =>
    obtain ⟨⟨e, _⟩, hk, rfl⟩ := hc
    exact canStep_hook (k := k) (by simp [Sandbox.hookStep, hk])

/-- A goroutine waiting for `mShells` takes it, or its holder moves. -/
theorem LockInv.canStep_or_free (hl : LockInv s) (hfree : s.mShells = none → s.CanStep) :
    s.CanStep := by
  cases hm : s.mShells with
  | none => exact hfree hm
  | some h => exact hl.canStep hm

/-- A live shell: its process can exit, or its hook can move. -/
theorem Inv.canStep_live (hi : Inv s) {k : Nat} {sh : Shell} (hk : s.shellProcs[k]? = some sh)
    (hl : sh.live = true) : s.CanStep := by
  rcases sh with ⟨_ | _, _ | _ | _ | _⟩
  all_goals first
    | exact canStep_shellExit hk
    | exact absurd hl (by decide)
    | exact hi.lock.canStep_or_free fun hm =>
        canStep_hook (k := k) (by simp [Sandbox.hookStep, hk, hm])

/-- A goroutine waiting for the count to reach zero: some counted shell can move. -/
theorem Inv.canStep_count (hi : Inv s) (h0 : s.sessions.count ≠ 0) : s.CanStep := by
  have hc := hi.counted
  unfold Counted at hc
  by_cases hsp : s.spawning = 0
  · obtain ⟨sh, hmem, hl⟩ := List.countP_pos_iff.mp (show 0 < s.liveShells by omega)
    obtain ⟨k, hk⟩ := List.mem_iff_getElem?.mp hmem
    exact hi.canStep_live hk hl
  · obtain ⟨c, hmem, hsp⟩ := List.countP_pos_iff.mp (Nat.pos_of_ne_zero hsp)
    obtain ⟨i, hi'⟩ := List.mem_iff_getElem?.mp hmem
    match c, hsp with
    | .newShell .spawn, _ => exact canStep_call (i := i) (by simp [Sandbox.callStep, hi'])

/-- A running body can always move, or a goroutine it waits for can. -/
theorem Inv.canStep_running (hi : Inv s) {b : Body} (hr : s.resolve = .running b) :
    s.CanStep := by
  rcases b with ⟨r, _ | _ | _ | _ | _⟩
  · exact canStep_body (by simp [Sandbox.bodyStep, hr])
  · exact hi.lock.canStep_or_free fun hm => canStep_body (by simp [Sandbox.bodyStep, hr, hm])
  · exact canStep_body (by simp [Sandbox.bodyStep, hr])
  · by_cases h0 : s.sessions.count = 0
    · exact canStep_body (by simp [Sandbox.bodyStep, hr, h0])
    · exact hi.canStep_count h0
  · exact canStep_body (by simp [Sandbox.bodyStep, hr])

/-- A goroutine inside `Do` or in `Wait`, with the gate entered: the gate is done, or its
body can move. -/
theorem Inv.canStep_entered (hi : Inv s) (hne : s.resolve ≠ .idle)
    (hdone : s.resolve.isDone = true → s.CanStep) : s.CanStep := by
  cases hr : s.resolve with
  | idle => exact absurd hr hne
  | running b => exact hi.canStep_running hr
  | done b => exact hdone (by simp [hr])

/-- The watcher, unless it waits for the primary process or has finished, can move or
waits for a goroutine that can. -/
theorem Inv.canStep_of_watcher (hi : Inv s) (hw : s.watcher ≠ .finished)
    (hp : s.primary ≠ none) : s.CanStep := by
  have hwo := hi.watcher
  cases hws : s.watcher with
  | waitProcess =>
    obtain ⟨b, hb⟩ := Option.ne_none_iff_exists'.mp hp
    exact canStep_watcher (by simp [Sandbox.waitForTermination, hws, hb])
  | drain _ => exact canStep_watcher (by simp [Sandbox.waitForTermination, hws])
  | waitShells _ =>
    by_cases h0 : s.sessions.count = 0
    · exact canStep_watcher (by simp [Sandbox.waitForTermination, hws, h0])
    · exact hi.canStep_count h0
  | resolve _ => exact canStep_watcher (by simp [Sandbox.waitForTermination, hws])
  | inResolve =>
    rw [hws] at hwo
    exact hi.canStep_entered hwo fun hd =>
      canStep_watcher (by simp [Sandbox.waitForTermination, hws, hd])
  | finished => exact absurd hws hw

end Blame

/-- The call has returned. -/
def Call.returned : Call → Bool
  | .kill (.returned _) | .abort (.returned _) | .waitForResult (some _) => true
  | .newShell (.returned _ _) => true
  | _ => false

/-- A goroutine of the sandbox, or a call made on it, has not finished. -/
def Sandbox.Unfinished (s : Sandbox) : Prop :=
  s.watcher ≠ .finished ∨ (∃ b, s.resolve = .running b) ∨ (∃ c ∈ s.calls, c.returned = false) ∨
    ∃ sh ∈ s.shellProcs, sh.hook ≠ .finished

/-- Deadlock: something has not finished, and no goroutine can take a step. -/
def Sandbox.Stuck (s : Sandbox) : Prop := s.Unfinished ∧ ¬ s.Enabled Action.goroutine

/-- Nothing but a new call can move. -/
def Sandbox.Quiescent (s : Sandbox) : Prop := ¬ s.Enabled (!·.isArrive)

section Unfinished

variable {s : Sandbox}

/-- An unfinished call can move, or waits for a goroutine that can. -/
theorem Inv.canStep_of_call (hi : Inv s) (hp : s.primary ≠ none) {c : Call} (hc : c ∈ s.calls)
    (hu : c.returned = false) : s.CanStep := by
  obtain ⟨i, hci⟩ := List.mem_iff_getElem?.mp hc
  have hok := hi.calls c hc
  have call_ok : s.callStep i true ≠ none → s.CanStep := canStep_call
  match c, hu, hok with
  | .kill .resolve, _, _ | .abort .resolve, _, _ | .newShell .spawn, _, _ =>
    exact call_ok (by simp [Sandbox.callStep, hci])
  | .kill .inResolve, _, hok | .abort .inResolve, _, hok =>
    exact hi.canStep_entered hok fun hd => call_ok (by simp [Sandbox.callStep, hci, hd])
  | .waitForResult none, _, _ =>
    by_cases hw : s.watcher = .finished
    · have hd : s.resolve.isDone = true := by simpa [hw, WatcherOk] using hi.watcher
      exact call_ok (by simp [Sandbox.callStep, hci, hd])
    · exact hi.canStep_of_watcher hw hp
  | .newShell .lock, _, _ =>
    exact hi.lock.canStep_or_free fun hm => call_ok (by simp [Sandbox.callStep, hci, hm])
  | .newShell .add, _, _ => exact call_ok (by simp only [Sandbox.callStep, hci]; split <;> simp)

/-- Once the primary process has exited, an unfinished goroutine or call leaves some
goroutine, or some shell process, able to move. -/
theorem Inv.canStep_of_unfinished (hi : Inv s) (hp : s.primary ≠ none) (hu : s.Unfinished) :
    s.CanStep := by
  rcases hu with hw | ⟨b, hb⟩ | ⟨c, hc, hcu⟩ | ⟨sh, hsh, hf⟩
  · exact hi.canStep_of_watcher hw hp
  · exact hi.canStep_running hb
  · exact hi.canStep_of_call hp hc hcu
  · obtain ⟨k, hk⟩ := List.mem_iff_getElem?.mp hsh
    exact hi.canStep_live hk (by simpa [Shell.live] using hf)

end Unfinished

/-- Once the primary process and every shell process have exited, something unfinished
leaves a goroutine able to move: a shell's exit is the only other step
`canStep_of_unfinished` can name, and none is left. -/
theorem Inv.goroutine_of_unfinished {s : Sandbox} (hi : Inv s) (hp : s.primary ≠ none)
    (hsh : ∀ sh ∈ s.shellProcs, sh.exited = true) (hu : s.Unfinished) :
    s.Enabled Action.goroutine := by
  obtain ⟨a, s', ha, hs'⟩ := hi.canStep_of_unfinished hp hu
  cases a with
  | shellExit k =>
    obtain ⟨hook, hk, -⟩ := step_shellExit_eq_some hs'
    exact absurd (hsh _ (List.getElem?_mem hk)) (by simp)
  | processExit _ | arrive _ => cases ha
  | watcher | body | call _ _ | hook _ => exact ⟨_, s', by rfl, hs'⟩

/-- **No deadlock, no lost wake-up.** In a reachable state where the primary process and
every shell process have exited, no goroutine or call of the sandbox is stuck: if any of
them has not finished, some goroutine can take a step — whatever it waits on, `mShells`,
the session count or the `resolve` gate. -/
theorem not_stuck_of_exited {s : Sandbox} (h : Reachable s) (hp : s.primary ≠ none)
    (hsh : ∀ sh ∈ s.shellProcs, sh.exited = true) : ¬ s.Stuck :=
  fun ⟨hu, hg⟩ => hg (h.inv.goroutine_of_unfinished hp hsh hu)

/-- A shell spawned, then the primary process and the shell's process exit: its hook and the
watcher have not finished, and they are not stuck. -/
theorem not_stuck_of_exited_shell : ∃ s, (Sandbox.start false ⟨"worker"⟩ none).run
    [.arrive .newShell, .call 0 true, .call 0 true, .call 0 true, .processExit true,
      .shellExit 0] = some s ∧ ¬ s.Stuck :=
  ⟨_, rfl, not_stuck_of_exited ((Reachable.start false ⟨"worker"⟩ none).run
    [.arrive .newShell, .call 0 true, .call 0 true, .call 0 true, .processExit true,
      .shellExit 0] rfl) (by simp) (by simp [Sandbox.start])⟩

/-- **Quiescent states are finished.** In a reachable state in which nothing but a new call
can move, the primary process and every shell have exited, every hook and the watcher have
finished, the gate is done, and every call has returned: the processes' exits are steps a
quiescent state no longer has, so `goroutine_of_unfinished` leaves nothing unfinished. -/
theorem quiescent_finished {s : Sandbox} (h : Reachable s) (hq : s.Quiescent) :
    s.primary ≠ none ∧ (∀ sh ∈ s.shellProcs, sh = ⟨true, .finished⟩) ∧ s.watcher = .finished ∧
      (∃ b, s.resolve = .done b) ∧ ∀ c ∈ s.calls, c.returned = true := by
  have hi := h.inv
  have hp : s.primary ≠ none := fun hp =>
    hq ⟨.processExit true, { s with primary := some true }, rfl, by simp [Sandbox.step, hp]⟩
  have hexit : ∀ sh ∈ s.shellProcs, sh.exited = true := fun ⟨e, hook⟩ hsh => by
    obtain ⟨k, hk⟩ := List.mem_iff_getElem?.mp hsh
    cases e
    · exact absurd ⟨.shellExit k, { s with shellProcs := s.shellProcs.set k ⟨true, hook⟩ }, rfl,
        by simp [Sandbox.step, hk]⟩ hq
    · rfl
  have hfin : ¬ s.Unfinished := fun hu =>
    hq ((hi.goroutine_of_unfinished hp hexit hu).mono fun _ => Action.not_isArrive_of_goroutine)
  simp only [Sandbox.Unfinished, not_or, not_not, not_exists, not_and, Bool.not_eq_false] at hfin
  obtain ⟨hw, -, hcalls, hhooks⟩ := hfin
  have hd : s.resolve.isDone = true := by simpa [hw, WatcherOk] using hi.watcher
  refine ⟨hp, fun ⟨e, hook⟩ hsh => ?_, hw, ?_, hcalls⟩
  · rw [Shell.mk.injEq]
    exact ⟨hexit _ hsh, hhooks _ hsh⟩
  · cases hr : s.resolve <;> simp_all

/-- The primary process exits and natural completion wins: nothing is left to move. -/
theorem quiescent_finished_completion :
    ∃ t, (Sandbox.start false ⟨"worker"⟩ none).run
        [.processExit true, .watcher, .watcher, .watcher, .watcher, .body, .watcher] = some t ∧
      t.Quiescent ∧ t.primary ≠ none ∧ (∀ sh ∈ t.shellProcs, sh = ⟨true, .finished⟩) ∧
      t.watcher = .finished ∧ (∃ b, t.resolve = .done b) ∧ ∀ c ∈ t.calls, c.returned = true := by
  refine ⟨_, rfl, ?quiescent, quiescent_finished ((Reachable.start false ⟨"worker"⟩ none).run
    [.processExit true, .watcher, .watcher, .watcher, .watcher, .body, .watcher] rfl) ?quiescent⟩
  rintro ⟨a, s', ha, hs⟩
  cases a <;> simp_all [Action.isArrive, Sandbox.step, Sandbox.start, Sandbox.waitForTermination,
    Sandbox.bodyStep, Sandbox.callStep, Sandbox.hookStep]

end TaskclusterWorker.Native
