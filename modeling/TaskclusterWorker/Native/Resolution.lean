import TaskclusterWorker.Native.Termination

/-!
# Resolution: one body, once, and what every caller sees

The three bodies passed to `s.resolve.Do` race: natural completion (from
`waitForTermination`), `Kill` and `Abort`. Over every interleaving with any number of calls:

* at most one body runs: the teardown calls made so far are a prefix of one body's calls,
  all of them once that body has finished, each call at most once;
* once the primary process has exited, or a `Kill` or `Abort` call has been made, every
  schedule in which no new call arrives is at most `s.rank` steps long, and a body has
  finished by the time nothing can move any more;
* `Kill`, `Abort` and `WaitForResult` return only after the winning body has finished, with
  the values the winner decides.

`resolution_once` states all of it; the parts are `Inv` read at a done gate, the progress
lemmas of `Progress`, and `run_rank` with a trigger that no step undoes.
-/

namespace TaskclusterWorker.Native

open TaskclusterWorker.Atomics

/-- A `Kill` or an `Abort` call: one that enters the gate with its own body. -/
def Call.resolves : Call → Bool
  | .kill _ | .abort _ => true
  | _ => false

/-- The primary process has exited, or a `Kill` or an `Abort` call has been made. -/
def Sandbox.Triggered (s : Sandbox) : Prop :=
  s.primary ≠ none ∨ ∃ c ∈ s.calls, c.resolves = true

/-- What a step does to the calls: nothing, a call arrives, or the acting call moves on from
a position where it had not returned, within its kind: a `Kill` or `Abort` call stays one,
and no other call becomes one. -/
theorem step_calls {s s' : Sandbox} {a : Action} (hs : s.step a = some s') :
    s'.calls = s.calls ∨ (∃ c : CallKind, s'.calls = s.calls ++ [c.entry]) ∨
    ∃ i sp c c', a = .call i sp ∧ s.calls[i]? = some c ∧ c.returned = false ∧
      s'.calls = s.calls.set i c' ∧ c'.resolves = c.resolves := by
  cases a with
  | processExit _ => obtain ⟨-, rfl⟩ := step_processExit_eq_some hs; exact .inl rfl
  | shellExit _ => obtain ⟨_, -, rfl⟩ := step_shellExit_eq_some hs; exact .inl rfl
  | arrive c => cases hs; exact .inr (.inl ⟨c, rfl⟩)
  | watcher =>
    rcases waitForTermination_eq_some hs with
      ⟨_, _, _, rfl⟩ | ⟨_, _, rfl⟩ | ⟨_, _, _, rfl⟩ | ⟨_, _, rfl⟩ | ⟨_, _, rfl⟩ <;>
      exact .inl rfl
  | body =>
    obtain ⟨r, ⟨_, rfl⟩ | ⟨_, _, rfl⟩ | ⟨_, rfl⟩ | ⟨_, _, rfl⟩ | ⟨_, rfl⟩⟩ :=
      bodyStep_eq_some hs <;> simp
  | call i sp =>
    rcases callStep_eq_some hs with ⟨hc, rfl⟩ | ⟨hc, _, rfl⟩ | ⟨hc, rfl⟩ | ⟨hc, _, rfl⟩ |
      ⟨hc, _, rfl⟩ | ⟨hc, _, rfl⟩ | ⟨hc, _, rfl⟩ | ⟨hc, _, rfl⟩ | ⟨hc, _, rfl⟩ | ⟨hc, _, rfl⟩ <;>
      exact .inr (.inr ⟨i, sp, _, _, rfl, hc, rfl, rfl, rfl⟩)
  | hook k =>
    rcases hookStep_eq_some hs with ⟨_, rfl⟩ | ⟨_, _, _, rfl⟩ | ⟨_, _, rfl⟩ <;> exact .inl rfl

/-- A trigger stays: the primary's exit status is kept, and a `Kill` or `Abort` call stays
one. -/
theorem Inv.step_triggered {s s' : Sandbox} {a : Action} (hi : Inv s)
    (hs : s.step a = some s') (ht : s.Triggered) : s'.Triggered := by
  rcases ht with hp | ⟨c, hc, hr⟩
  · obtain ⟨b, hb⟩ := Option.ne_none_iff_exists'.mp hp
    exact .inl (by simp [(hi.stable hs).primary b hb])
  · right
    rcases step_calls hs with h | ⟨_, h⟩ | ⟨i, -, c₀, c', -, hc₀, -, h, hk⟩ <;> rw [h]
    · exact ⟨c, hc, hr⟩
    · exact ⟨c, List.mem_append_left _ hc, hr⟩
    · obtain ⟨j, hj⟩ := List.mem_iff_getElem?.mp hc
      obtain ⟨x, hx, hxr⟩ := (exists_set_iff (p := fun x => x.resolves = true) hc₀
        (iff_of_eq (congrArg (· = true) hk)) j).mpr ⟨c, hj, hr⟩
      exact ⟨x, List.getElem?_mem hx, hxr⟩

/-- A running body has made a prefix of its teardown calls. -/
theorem Body.teardownBefore_prefix (createUser : Bool) (workingFolder : Option TemporaryFolder)
    (b : Body) : b.teardownBefore <+: bodyTeardown createUser workingFolder b.resolution := by
  rcases b with ⟨_ | _ | _, _ | _ | _ | _ | _⟩ <;>
    simp [Body.teardownBefore, bodyTeardown, List.prefix_append]

/-- No body makes a teardown call twice. -/
theorem bodyTeardown_nodup (createUser : Bool) (workingFolder : Option TemporaryFolder)
    (r : Resolution) : (bodyTeardown createUser workingFolder r).Nodup := by
  cases r <;> cases createUser <;> cases workingFolder <;> simp [bodyTeardown, killByOwner]

section Quiescent

variable {s : Sandbox}

/-- The teardown calls made so far are a prefix of one body's calls. -/
theorem Inv.teardown_prefix (hi : Inv s) :
    ∃ r, s.teardown <+: bodyTeardown s.createUser s.workingFolder r := by
  have hg := hi.gate
  cases hr : s.resolve with
  | idle => rw [hr] at hg; exact ⟨.kill, hg.1 ▸ List.nil_prefix⟩
  | running b => rw [hr] at hg; exact ⟨b.resolution, hg.1 ▸ Body.teardownBefore_prefix _ _ b⟩
  | done b => rw [hr] at hg; exact ⟨b.resolution, hg.1 ▸ List.prefix_refl _⟩

theorem Inv.teardown_nodup (hi : Inv s) : s.teardown.Nodup := by
  obtain ⟨r, hp⟩ := hi.teardown_prefix
  exact hp.sublist.nodup (bodyTeardown_nodup _ _ r)

/-- A `Kill` or `Abort` call has entered the gate, or can. -/
theorem Inv.entered_of_resolves (hi : Inv s) (hq : ¬ s.CanStep) {c : Call} (hc : c ∈ s.calls)
    (hr : c.resolves = true) : s.resolve ≠ .idle := by
  obtain ⟨i, hci⟩ := List.mem_iff_getElem?.mp hc
  have hok := hi.calls c hc
  match c, hr, hok with
  | .kill .resolve, _, _ | .abort .resolve, _, _ =>
    exact absurd (canStep_call (i := i) (by simp [Sandbox.callStep, hci])) hq
  | .kill .inResolve, _, hok | .abort .inResolve, _, hok => exact hok
  | .kill (.returned _), _, ⟨b, hb, _⟩ | .abort (.returned _), _, ⟨b, hb, _⟩ => simp [hb]

/-- The watcher has entered the gate once the primary process has exited. -/
theorem Inv.entered_of_primary (hi : Inv s) (hq : ¬ s.CanStep) (hp : s.primary ≠ none) :
    s.resolve ≠ .idle := by
  by_cases hw : s.watcher = .finished
  · have hd : s.resolve.isDone = true := by simpa [hw, WatcherOk] using hi.watcher
    intro hidle
    simp [hidle] at hd
  · exact absurd (hi.canStep_of_watcher hw hp) hq

/-- When nothing can move, an entered gate is done. -/
theorem Inv.done_of_entered (hi : Inv s) (hq : ¬ s.CanStep) (he : s.resolve ≠ .idle) :
    ∃ b, s.resolve = .done b := by
  cases hr : s.resolve with
  | idle => exact absurd hr he
  | running b => exact absurd (hi.canStep_running hr) hq
  | done b => exact ⟨b, rfl⟩

/-- When nothing can move after a trigger, a body has finished. -/
theorem Inv.done_of_triggered (hi : Inv s) (hq : ¬ s.CanStep) (ht : s.Triggered) :
    ∃ b, s.resolve = .done b := by
  refine hi.done_of_entered hq ?_
  rcases ht with hp | ⟨c, hc, hr⟩
  · exact hi.entered_of_primary hq hp
  · exact hi.entered_of_resolves hq hc hr

end Quiescent

/-- Exactly-once resolution, read in one state. -/
structure ResolvedOnce (s : Sandbox) : Prop where
  /-- No teardown call has been made twice. -/
  nodup : s.teardown.Nodup
  /-- Before a body is admitted, no teardown call has been made. -/
  idle : s.resolve = .idle → s.teardown = []
  /-- While a body runs, only its own teardown calls have been made, in its order. -/
  running : ∀ b, s.resolve = .running b →
    s.teardown <+: bodyTeardown s.createUser s.workingFolder b.resolution
  /-- Once it has finished, exactly its calls have been made, and no other body's. -/
  done : ∀ b, s.resolve = .done b →
    s.teardown = bodyTeardown s.createUser s.workingFolder b.resolution
  /-- Once the primary process has exited or a `Kill` or `Abort` call has been made, every
  schedule in which no new call arrives takes at most `s.rank` steps, and one that stops
  where nothing can move any more stops with a body finished. -/
  live : s.Triggered → ∀ as t, (∀ a ∈ as, a.isArrive = false) → s.run as = some t →
    as.length ≤ s.rank ∧ (¬ t.CanStep → ∃ b, t.resolve = .done b)
  /-- A returned `Kill` returned after the winner finished: `ErrSandboxAborted` if `Abort`
  won, `nil` otherwise. -/
  kill : ∀ err, .kill (.returned err) ∈ s.calls →
    ∃ b, s.resolve = .done b ∧ err = expectedKill b.resolution
  /-- A returned `Abort` returned after the winner finished: `nil` if `Abort` won,
  `ErrSandboxTerminated` otherwise. -/
  abort : ∀ err, .abort (.returned err) ∈ s.calls →
    ∃ b, s.resolve = .done b ∧ err = expectedAbort b.resolution
  /-- A returned `WaitForResult` returned the winner's pair after it finished, with the
  primary process's exit status if natural completion won. -/
  waitForResult : ∀ result, .waitForResult (some result) ∈ s.calls →
    ∃ b, s.resolve = .done b ∧ result = s.expectedResult b.resolution ∧
      ∀ success, b.resolution = .completion success → s.primary = some success

/-- **Exactly-once resolution.** Every reachable state of a sandbox, under any interleaving
of the watcher with any number of `Kill`, `Abort`, `WaitForResult` and `NewShell` calls, is
`ResolvedOnce`: at most one body's teardown ever runs; once a trigger has happened, every
schedule without new calls is finite and one has run by the time nothing can move; and every
returned call returned the winner's values. -/
theorem resolution_once {s : Sandbox} (h : Reachable s) : ResolvedOnce s := by
  have hi := h.inv
  have hg := hi.gate
  refine ⟨hi.teardown_nodup, fun hr => ?_, fun b hr => ?_, fun b hr => ?_,
    fun ht as t has hr => ?_, fun err hc => hi.calls _ hc, fun err hc => hi.calls _ hc,
    fun result hc => ?_⟩
  · rw [hr] at hg; exact hg.1
  · rw [hr] at hg; exact hg.1 ▸ Body.teardownBefore_prefix _ _ b
  · rw [hr] at hg; exact hg.1
  · -- the trigger and reachability ride along the schedule
    obtain ⟨hlen, ht', ht⟩ := run_rank (P := fun s => Reachable s ∧ s.Triggered)
      (fun ⟨hs, ht⟩ _ hstep => ⟨hs.step _ hstep, hs.inv.step_triggered hstep ht⟩) as has hr ⟨h, ht⟩
    exact ⟨by omega, fun hq => ht'.inv.done_of_triggered hq ht⟩
  · obtain ⟨b, hb, hres⟩ := hi.calls _ hc
    rw [hb] at hg
    exact ⟨b, hb, hres, hg.2.2.2.2.2⟩

/-- `Kill` wins while the primary process runs, and a `WaitForResult` call returns after
it: the run is resolved once. -/
theorem resolution_once_killed : ∃ s, (Sandbox.start true ⟨"worker"⟩ (some ⟨"/home/task"⟩)).run
    [.arrive .kill, .arrive .waitForResult, .call 0 true, .body, .body, .body, .body, .body,
      .call 0 true, .call 1 true] = some s ∧ ResolvedOnce s :=
  ⟨_, rfl, resolution_once ((Reachable.start true ⟨"worker"⟩ (some ⟨"/home/task"⟩)).run
    [.arrive .kill, .arrive .waitForResult, .call 0 true, .body, .body, .body, .body, .body,
      .call 0 true, .call 1 true] rfl)⟩

end TaskclusterWorker.Native
