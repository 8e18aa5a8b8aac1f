import TaskclusterWorker.Native.Resolution

/-!
# The shell registry: `mShells`, the session count and `s.shells`

`NewShell`, the shells' completion hooks and `abortShells` share the session count and
`s.shells` under `mShells`. Over every interleaving:

* `Inv.guarded` — while a goroutine holds `mShells`, no other actor changes the count,
  `s.shells` or `mShells`;
* `Reachable.returned_iff` — the shells spawned are exactly the shells `NewShell` calls
  returned;
* `registry_unlocked` — wherever `mShells` is free, the count is the number of returned shells
  whose hook has not called `Done`, and `s.shells` lists, once each, returned shells whose
  hook has not run; a refused or failed `NewShell` leaves the count and `s.shells` as it
  found them;
* `drained_when_resolved` — once the winning body has finished, the registry is drained and
  every shell has completed; every shell live when `abortShells` drained the registry had
  `Abort` requested; and no later `NewShell` spawns, counts or lists a shell.
-/

namespace TaskclusterWorker.Native

open TaskclusterWorker.Atomics

/-- The goroutine an action runs on, when it is one that can hold `mShells`. -/
def Action.holder : Action → Option Holder
  | .body => some .body
  | .call i _ => some (.call i)
  | .hook k => some (.hook k)
  | _ => none

section Guarded

variable {s s' : Sandbox}

/-- A goroutine in its critical section is the one holding `mShells`. -/
theorem Inv.holder_eq (hi : Inv s) {h h' : Holder} (hm : s.mShells = some h)
    (hin : s.InCritical h') : h' = h :=
  Option.some.inj (((hi.lock h').mpr hin).symm.trans hm)

/-- **`mShells` guards the count and `s.shells`.** While `h` holds `mShells`, a step of any
other actor leaves the session count, `s.shells` and `mShells` as they are. -/
theorem Inv.guarded (hi : Inv s) {h : Holder} (hm : s.mShells = some h) {a : Action}
    (ha : a.holder ≠ some h) (hs : s.step a = some s') :
    s'.sessions.count = s.sessions.count ∧ s'.shells = s.shells ∧ s'.mShells = s.mShells := by
  have other : ∀ h', s.InCritical h' → a.holder = some h' → False := fun _ hin hh =>
    ha (hh.trans (congrArg some (hi.holder_eq hm hin)))
  cases a with
  | processExit _ => obtain ⟨-, rfl⟩ := step_processExit_eq_some hs; exact ⟨rfl, rfl, rfl⟩
  | shellExit _ => obtain ⟨_, -, rfl⟩ := step_shellExit_eq_some hs; exact ⟨rfl, rfl, rfl⟩
  | arrive _ => cases hs; exact ⟨rfl, rfl, rfl⟩
  | watcher =>
    rcases waitForTermination_eq_some hs with
      ⟨_, _, _, rfl⟩ | ⟨_, _, rfl⟩ | ⟨_, _, _, rfl⟩ | ⟨_, _, rfl⟩ | ⟨_, _, rfl⟩ <;>
      exact ⟨rfl, rfl, rfl⟩
  | body =>
    obtain ⟨r, ⟨_, rfl⟩ | ⟨_, hfree, rfl⟩ | ⟨hr, rfl⟩ | ⟨_, _, rfl⟩ | ⟨_, rfl⟩⟩ :=
      bodyStep_eq_some hs
    · exact ⟨rfl, rfl, rfl⟩
    · simp [hfree] at hm
    · exact (other .body ⟨r, hr⟩ rfl).elim
    · exact ⟨rfl, rfl, rfl⟩
    · simp
  | call i _ =>
    rcases callStep_eq_some hs with ⟨_, rfl⟩ | ⟨_, _, rfl⟩ | ⟨_, rfl⟩ | ⟨_, _, rfl⟩ |
      ⟨_, _, rfl⟩ | ⟨_, hfree, rfl⟩ | ⟨hc, _, rfl⟩ | ⟨hc, _, rfl⟩ | ⟨hc, _, rfl⟩ | ⟨hc, _, rfl⟩
    iterate 5 exact ⟨rfl, rfl, rfl⟩
    · simp [hfree] at hm
    all_goals exact (other (.call _) ⟨_, hc, rfl⟩ rfl).elim
  | hook k =>
    rcases hookStep_eq_some hs with ⟨_, rfl⟩ | ⟨_, _, hfree, rfl⟩ | ⟨_, hk, rfl⟩
    · exact ⟨rfl, rfl, rfl⟩
    · simp [hfree] at hm
    · exact (other (.hook _) ⟨_, hk, rfl⟩ rfl).elim

end Guarded

/-! ## The calls, and the shells they returned -/

section Calls

variable {s s' : Sandbox} {a : Action}

theorem mem_set_of_ne {α : Type} {l : List α} {i : Nat} {c c' x : α} (hx : x ∈ l)
    (hc : l[i]? = some c) (hne : c ≠ x) : x ∈ l.set i c' := by
  obtain ⟨j, hj⟩ := List.mem_iff_getElem?.mp hx
  have hij : i ≠ j := by rintro rfl; exact hne (Option.some.inj (hc.symm.trans hj))
  exact List.mem_iff_getElem?.mpr ⟨j, by rw [List.getElem?_set_ne hij]; exact hj⟩

/-- A call keeps its position under every step but its own, and a returned call keeps it
under every step. -/
theorem step_getElem?_calls (hs : s.step a = some s') {i : Nat} {c : Call}
    (hc : s.calls[i]? = some c) (hr : c.returned = true ∨ ∀ sp, a ≠ .call i sp) :
    s'.calls[i]? = some c := by
  rcases step_calls hs with h | ⟨_, h⟩ | ⟨j, sp, c₀, _, rfl, hc₀, hr₀, h, -⟩ <;> rw [h]
  · exact hc
  · rw [List.getElem?_append_left (List.getElem?_eq_some_iff.mp hc).1]; exact hc
  · have hji : j ≠ i := by
      rintro rfl
      rw [hc] at hc₀; cases hc₀
      rcases hr with hr | hr
      · simp [hr] at hr₀
      · exact hr sp rfl
    rw [List.getElem?_set_ne hji]; exact hc

/-- A returned call stays returned along any schedule. -/
theorem run_getElem?_calls_of_returned {as : List Action} (hr : s.run as = some s') {i : Nat}
    {c : Call} (hc : s.calls[i]? = some c) (hret : c.returned = true) :
    s'.calls[i]? = some c := by
  induction as generalizing s with
  | nil => cases hr; exact hc
  | cons a rest ih =>
    obtain ⟨t, ht, hr⟩ := Option.bind_eq_some.mp hr
    exact ih hr (step_getElem?_calls ht hc (.inl hret))

/-- A returned call takes no step. -/
theorem callStep_returned {i : Nat} {c : Call} (hc : s.calls[i]? = some c)
    (hret : c.returned = true) (sp : Bool) : s.callStep i sp = none := by
  unfold Sandbox.callStep
  rcases c with (_ | _ | _) | (_ | _ | _) | (_ | _) | (_ | _ | _ | _) <;>
    simp_all [Call.returned]

/-- `NewShell` returned shell `k`. -/
def Sandbox.Returned (s : Sandbox) (k : Nat) : Prop :=
  Call.newShell (.returned (some k) none) ∈ s.calls

theorem returned_set {i k : Nat} {c c' : Call} (hc : s.calls[i]? = some c)
    (hne : c ≠ .newShell (.returned (some k) none)) :
    Call.newShell (.returned (some k) none) ∈ s.calls.set i c' ↔
      s.Returned k ∨ c' = .newShell (.returned (some k) none) := by
  constructor
  · intro hm
    rcases List.mem_or_eq_of_mem_set hm with h | h
    · exact .inl h
    · exact .inr h.symm
  · rintro (h | rfl)
    · exact mem_set_of_ne h hc hne
    · exact (List.mem_set _ _ (List.getElem?_eq_some_iff.mp hc).1 _)

/-- One step keeps "the shells spawned are the shells returned". -/
theorem step_returned_iff (hs : s.step a = some s')
    (ih : ∀ k, k < s.shellProcs.length ↔ s.Returned k) :
    ∀ k, k < s'.shellProcs.length ↔ s'.Returned k := by
  intro k
  cases a with
  | processExit _ => obtain ⟨-, rfl⟩ := step_processExit_eq_some hs; exact ih k
  | shellExit _ => obtain ⟨_, -, rfl⟩ := step_shellExit_eq_some hs; simpa using ih k
  | arrive c =>
    cases hs
    cases c <;> simpa [Sandbox.Returned, CallKind.entry] using ih k
  | watcher =>
    rcases waitForTermination_eq_some hs with
      ⟨_, _, _, rfl⟩ | ⟨_, _, rfl⟩ | ⟨_, _, _, rfl⟩ | ⟨_, _, rfl⟩ | ⟨_, _, rfl⟩ <;> exact ih k
  | body =>
    obtain ⟨r, ⟨_, rfl⟩ | ⟨_, _, rfl⟩ | ⟨_, rfl⟩ | ⟨_, _, rfl⟩ | ⟨_, rfl⟩⟩ :=
      bodyStep_eq_some hs <;> simpa [Sandbox.Returned] using ih k
  | call i sp =>
    rcases callStep_eq_some hs with ⟨hc, rfl⟩ | ⟨hc, _, rfl⟩ | ⟨hc, rfl⟩ | ⟨hc, _, rfl⟩ |
      ⟨hc, _, rfl⟩ | ⟨hc, _, rfl⟩ | ⟨hc, _, rfl⟩ | ⟨hc, _, rfl⟩ | ⟨hc, _, rfl⟩ | ⟨hc, _, rfl⟩ <;>
      simp only [Sandbox.Returned] at ih ⊢ <;> rw [returned_set hc (by simp)] <;>
      simp [← ih k]
    omega
  | hook _ =>
    rcases hookStep_eq_some hs with ⟨_, rfl⟩ | ⟨_, _, _, rfl⟩ | ⟨_, _, rfl⟩ <;>
      simpa [Sandbox.Returned] using ih k

/-- The shells spawned are exactly the shells `NewShell` calls returned. -/
theorem Reachable.returned_iff (h : Reachable s) : ∀ k, k < s.shellProcs.length ↔ s.Returned k := by
  induction h with
  | start => simp [Sandbox.start, Sandbox.Returned]
  | step _ _ hs ih => exact step_returned_iff hs ih

end Calls

/-! ## A `NewShell` call's critical section -/

section Critical

variable {t t' s' : Sandbox} {i : Nat} {count : Int} {shells : List Nat}

/-- `NewShell` call `i` inside its critical section, against the count and `s.shells` it
found when it took `mShells`: before `Add(1)`, or after it. -/
def Sandbox.CriticalFrom (t : Sandbox) (i : Nat) (count : Int) (shells : List Nat) : Prop :=
  Reachable t ∧ t.shells = shells ∧
    ((t.calls[i]? = some (.newShell .add) ∧ t.sessions.count = count) ∨
      (t.calls[i]? = some (.newShell .spawn) ∧ t.sessions.count = count + 1))

/-- Another actor's step: call `i` keeps `mShells`, so nothing it found changes. -/
theorem Sandbox.CriticalFrom.step_other (hc : t.CriticalFrom i count shells) {a : Action}
    (ha : ∀ sp, a ≠ .call i sp) (hs : t.step a = some t') : t'.CriticalFrom i count shells := by
  obtain ⟨hreach, hsh, hpc⟩ := hc
  have hi := hreach.inv
  obtain ⟨c, hci, hhold⟩ : ∃ c, t.calls[i]? = some c ∧ c.holdsShells = true := by
    rcases hpc with ⟨hci, -⟩ | ⟨hci, -⟩ <;> exact ⟨_, hci, rfl⟩
  have hh : a.holder ≠ some (.call i) := by
    cases a <;> simp only [Action.holder, ne_eq, reduceCtorEq, not_false_eq_true, Option.some.injEq,
      Holder.call.injEq]
    exact fun hji => ha _ (by rw [hji])
  obtain ⟨hcount, hshells, -⟩ := hi.guarded ((hi.lock (.call i)).mpr ⟨c, hci, hhold⟩) hh hs
  have hcalls : ∀ c', t.calls[i]? = some c' → t'.calls[i]? = some c' := fun _ h =>
    step_getElem?_calls hs h (.inr ha)
  refine ⟨hreach.step a hs, hshells.trans hsh, ?_⟩
  rw [hcount]
  rcases hpc with ⟨hci, h⟩ | ⟨hci, h⟩
  · exact .inl ⟨hcalls _ hci, h⟩
  · exact .inr ⟨hcalls _ hci, h⟩

/-- Call `i`'s own step: it counts its shell and goes on, or it returns; returning no shell,
it leaves the count and `s.shells` as it found them. -/
theorem Sandbox.CriticalFrom.step_self (hc : t.CriticalFrom i count shells) {sp : Bool}
    (hs : t.step (.call i sp) = some t') :
    t'.CriticalFrom i count shells ∨ ∃ shell err,
      t'.calls[i]? = some (.newShell (.returned shell err)) ∧
      (shell = none → t'.sessions.count = count ∧ t'.shells = shells) := by
  obtain ⟨hreach, hsh, ⟨hci, hcnt⟩ | ⟨hci, hcnt⟩⟩ := hc <;>
  rcases callStep_eq_some hs with ⟨hc, rfl⟩ | ⟨hc, _, rfl⟩ | ⟨hc, rfl⟩ | ⟨hc, _, rfl⟩ |
    ⟨hc, _, rfl⟩ | ⟨hc, _, rfl⟩ | ⟨hc, _, rfl⟩ | ⟨hc, _, rfl⟩ | ⟨hc, _, rfl⟩ | ⟨hc, _, rfl⟩ <;>
  rw [hci] at hc <;> cases hc
  · -- `Add(1)` refused: the registry is draining
    exact .inr ⟨_, _, getElem?_set_of_getElem? hci, fun _ => ⟨hcnt, hsh⟩⟩
  · -- `Add(1)` counted the shell
    exact .inl ⟨hreach.step _ hs, hsh, .inr ⟨getElem?_set_of_getElem? hci, by simp [hcnt]⟩⟩
  · -- `newShell` started the shell
    exact .inr ⟨_, _, getElem?_set_of_getElem? hci, nofun⟩
  · -- `newShell` failed: `Done()` undoes the `Add(1)`
    exact .inr ⟨_, _, getElem?_set_of_getElem? hci, fun _ => ⟨by simp [hcnt], hsh⟩⟩

/-- Over any schedule of other actors, a `NewShell` call that returns no shell leaves the
count and `s.shells` as it found them when it took `mShells`. -/
theorem Sandbox.CriticalFrom.run (hc : t.CriticalFrom i count shells) {pre : List Action}
    {u : Sandbox} (hr : t.run pre = some u) {sp : Bool} (hs : u.step (.call i sp) = some s')
    {e : SandboxError} (he : s'.calls[i]? = some (.newShell (.returned none (some e)))) :
    s'.sessions.count = count ∧ s'.shells = shells := by
  induction pre generalizing t with
  | nil =>
    cases hr
    rcases hc.step_self hs with ⟨-, -, ⟨hci, -⟩ | ⟨hci, -⟩⟩ | ⟨shell, err, hret, hunch⟩
    · rw [hci] at he; cases he
    · rw [hci] at he; cases he
    · rw [hret] at he; cases he; exact hunch rfl
  | cons a rest ih =>
    obtain ⟨t₁, ht₁, hrest⟩ := Option.bind_eq_some.mp hr
    by_cases ha : ∃ sp₁, a = .call i sp₁
    · obtain ⟨sp₁, rfl⟩ := ha
      rcases hc.step_self ht₁ with hc₁ | ⟨shell, err, hret, -⟩
      · exact ih hc₁ hrest
      · -- call `i` returned inside the schedule: it cannot take the last step
        have hu := run_getElem?_calls_of_returned hrest hret rfl
        simp [Sandbox.step, callStep_returned hu rfl] at hs
    · exact ih (hc.step_other (fun sp₁ h => ha ⟨sp₁, h⟩) ht₁) hrest

end Critical

/-! ## The registry wherever `mShells` is free -/

/-- What the shell registry guarantees in one state. -/
structure RegistryOk (s : Sandbox) : Prop where
  /-- The count is never negative. -/
  nonneg : 0 ≤ s.sessions.count
  /-- The shells spawned are exactly the shells `NewShell` returned. -/
  spawned_iff : ∀ k, k < s.shellProcs.length ↔ s.Returned k
  /-- Wherever `mShells` is free: the count is the number of returned shells whose hook has
  not called `Done`, and `s.shells` lists each of its shells once, and only returned shells
  whose hook has not run. -/
  unlocked : s.mShells = none →
    s.sessions.count = s.liveShells ∧ s.shells.Nodup ∧
    ∀ k ∈ s.shells, s.Returned k ∧
      ∃ sh, s.shellProcs[k]? = some sh ∧ (sh.hook = .wait ∨ sh.hook = .lock)
  /-- A `NewShell` call that takes `mShells` and, after any schedule of the other actors,
  returns an error (refused by a draining registry, or its spawn failed) leaves the count and
  `s.shells` as it found them. -/
  failed : ∀ i sp₀ sp s₁ u s' pre e, s.calls[i]? = some (.newShell .lock) →
    s.step (.call i sp₀) = some s₁ → s₁.run pre = some u → u.step (.call i sp) = some s' →
    s'.calls[i]? = some (.newShell (.returned none (some e))) →
    s'.sessions.count = s.sessions.count ∧ s'.shells = s.shells

/-- **The shell registry.** Every reachable state of a sandbox, under any interleaving of
`NewShell` calls (refused, failed or not), hooks finishing in any order, `abortShells` and
`WaitAndDrain`, is `RegistryOk`. -/
theorem registry_unlocked {s : Sandbox} (h : Reachable s) : RegistryOk s := by
  have hi := h.inv
  have hcount := hi.counted
  unfold Counted at hcount
  refine ⟨by omega, h.returned_iff, fun hm => ⟨?_, hi.shells.nodup, fun k hk => ?_⟩,
    fun i sp₀ sp s₁ u s' pre e hci hs₁ hr hs he => ?_⟩
  · rw [hcount, hi.lock.spawning_eq_zero (by simp [hm])]; rfl
  · obtain ⟨sh, hsh, hlive⟩ := hi.shells.live k hk
    refine ⟨(h.returned_iff k).mp (List.getElem?_eq_some_iff.mp hsh).1, sh, hsh, ?_⟩
    have hrem : sh.hook ≠ .remove := fun hrem => by
      simpa [hm] using (hi.lock (.hook k)).mpr ⟨sh, hsh, hrem⟩
    rcases sh with ⟨_, _ | _ | _ | _⟩ <;> simp_all [Shell.live]
  · -- taking `mShells` changes neither the count nor `s.shells`
    obtain ⟨hc, hfree, rfl⟩ : s.calls[i]? = some (.newShell .lock) ∧ s.mShells = none ∧
        s₁ = { s with mShells := some (.call i), calls := s.calls.set i (.newShell .add) } := by
      rcases callStep_eq_some hs₁ with ⟨hc, _⟩ | ⟨hc, _⟩ | ⟨hc, _⟩ | ⟨hc, _⟩ | ⟨hc, _⟩ |
        h6 | ⟨hc, _⟩ | ⟨hc, _⟩ | ⟨hc, _⟩ | ⟨hc, _⟩ <;> first | exact h6 | simp [hci] at hc
    exact (show Sandbox.CriticalFrom _ i s.sessions.count s.shells from
      ⟨h.step _ hs₁, rfl, .inl ⟨getElem?_set_of_getElem? hc, rfl⟩⟩).run hr hs he

/-- One `NewShell` call fails to spawn, another returns a shell: the registry is as
`RegistryOk` says. -/
theorem registry_unlocked_spawn : ∃ s, (Sandbox.start false ⟨"worker"⟩ none).run
    [.arrive .newShell, .arrive .newShell, .call 0 false, .call 0 false, .call 0 false,
      .call 1 true, .call 1 true, .call 1 true] = some s ∧ RegistryOk s :=
  ⟨_, rfl, registry_unlocked ((Reachable.start false ⟨"worker"⟩ none).run
    [.arrive .newShell, .arrive .newShell, .call 0 false, .call 0 false, .call 0 false,
      .call 1 true, .call 1 true, .call 1 true] rfl)⟩

/-! ## The registry once the winner has finished -/

/-- What the registry is once the winning body has finished. -/
structure DrainedOnResolve (s : Sandbox) : Prop where
  /-- Once the winner has finished (and so before any `Kill`, `Abort` or `WaitForResult`
  call returns), the registry is draining with count zero and `s.shells` is empty, and every
  shell `NewShell` returned has exited and had its hook call `Done`. -/
  done : ∀ b, s.resolve = .done b →
    Drained s ∧ ∀ sh ∈ s.shellProcs, sh.exited = true ∧ sh.hook = .finished
  /-- When `abortShells` drains the registry, every shell still live has `Abort` requested. -/
  aborted : ∀ r s', s.resolve = .running ⟨r, .abortShells⟩ → s.step .body = some s' →
    ∀ k sh, s.shellProcs[k]? = some sh → sh.live = true → k ∈ s'.abortRequests
  /-- After the winner has finished, no call's step spawns a shell or changes the count or
  `s.shells`, and a `NewShell` call that returns returns `ErrSandboxTerminated`. -/
  closed : ∀ b i sp s', s.resolve = .done b → s.step (.call i sp) = some s' →
    s'.shellProcs = s.shellProcs ∧ s'.sessions.count = s.sessions.count ∧
      s'.shells = s.shells ∧
      ∀ shell err, s'.calls[i]? = some (.newShell (.returned shell err)) →
        shell = none ∧ err = some .sandboxTerminated

/-- **Drained before anyone returns.** Every reachable state of a sandbox, under any
interleaving of `NewShell` calls, shell completions, the watcher and `Kill` or `Abort` calls,
is `DrainedOnResolve`. -/
theorem drained_when_resolved {s : Sandbox} (h : Reachable s) : DrainedOnResolve s := by
  have hi := h.inv
  have drained : ∀ b, s.resolve = .done b → Drained s := fun b hb => by
    have hg := hi.gate; rw [hb] at hg; exact hg.2.2.2.2.1
  refine ⟨fun b hb => ⟨drained b hb, fun sh hsh => ?_⟩, fun r s' hr hs k sh hk hl => ?_,
    fun b i sp s' hb hs => ?_⟩
  · -- nothing is counted, so every hook has called `Done`
    have hcount := hi.counted
    unfold Counted at hcount
    have hlive : s.liveShells = 0 := by have := (drained b hb).2; omega
    have hfin : sh.hook = .finished := by
      simpa [Shell.live] using List.countP_eq_zero.mp hlive sh hsh
    obtain ⟨k, hk⟩ := List.mem_iff_getElem?.mp hsh
    exact ⟨hi.shells.exited k sh hk (by simp [hfin]), hfin⟩
  · -- `abortShells` requests `Abort` for every listed shell, and every live shell is listed
    -- or already had it requested
    simp only [Sandbox.step, Sandbox.bodyStep, hr, Option.some.injEq] at hs
    subst hs
    rcases hi.shells.covered k sh hk hl with h | h <;> simp [h]
  · have hd := drained b hb
    obtain ⟨⟨hdr, -, hsp⟩, -⟩ := hd
    rcases callStep_eq_some hs with ⟨hc, rfl⟩ | ⟨hc, _, rfl⟩ | ⟨hc, rfl⟩ | ⟨hc, _, rfl⟩ |
      ⟨hc, _, rfl⟩ | ⟨hc, _, rfl⟩ | ⟨hc, _, rfl⟩ | ⟨hc, hdr', rfl⟩ | ⟨hc, _, rfl⟩ | ⟨hc, _, rfl⟩
    iterate 6
      exact ⟨rfl, rfl, rfl, fun _ _ hr => by rw [getElem?_set_of_getElem? hc] at hr; cases hr⟩
    · exact ⟨rfl, rfl, rfl, fun _ _ hr => by
        rw [getElem?_set_of_getElem? hc] at hr; cases hr; exact ⟨rfl, rfl⟩⟩
    · simp [hdr] at hdr'
    all_goals exact absurd hsp (Nat.pos_iff_ne_zero.mp (spawning_pos hc rfl))

/-- `Abort` wins while a shell runs: `abortShells` requests its abort, the shell exits, its
hook calls `Done`, and the body finishes on a drained registry. -/
theorem drained_when_resolved_abort : ∃ s, (Sandbox.start true ⟨"worker"⟩ none).run
    [.arrive .newShell, .call 0 true, .call 0 true, .call 0 true, .arrive .abort, .call 1 true,
      .body, .body, .body, .shellExit 0, .hook 0, .hook 0, .hook 0, .body, .body] = some s ∧
      DrainedOnResolve s :=
  ⟨_, rfl, drained_when_resolved ((Reachable.start true ⟨"worker"⟩ none).run
    [.arrive .newShell, .call 0 true, .call 0 true, .call 0 true, .arrive .abort, .call 1 true,
      .body, .body, .body, .shellExit 0, .hook 0, .hook 0, .hook 0, .body, .body] rfl)⟩

/-! ## Abort requests -/

section Abort

variable {s s' : Sandbox} {a : Action}

theorem BodyOk.closed {r : Resolution} (h : BodyOk s ⟨r, .waitShells⟩) : Closed s := by
  cases r with
  | completion _ => exact absurd h.1 nofun
  | _ => exact h

/-- Only `abortShells` requests aborts, and no step forgets a spawned shell. -/
theorem step_abortRequests (hs : s.step a = some s') :
    s.shellProcs.length ≤ s'.shellProcs.length ∧
      (s'.abortRequests = s.abortRequests ∨
        ∃ r, s'.abortRequests = s.abortRequests ++ s.shells ∧
          s'.resolve = .running ⟨r, .waitShells⟩) := by
  cases a with
  | processExit _ => obtain ⟨-, rfl⟩ := step_processExit_eq_some hs; simp
  | shellExit _ => obtain ⟨_, -, rfl⟩ := step_shellExit_eq_some hs; simp
  | arrive c => cases hs; simp
  | watcher =>
    rcases waitForTermination_eq_some hs with
      ⟨_, _, _, rfl⟩ | ⟨_, _, rfl⟩ | ⟨_, _, _, rfl⟩ | ⟨_, _, rfl⟩ | ⟨_, _, rfl⟩ <;> simp
  | body =>
    obtain ⟨r, ⟨_, rfl⟩ | ⟨_, _, rfl⟩ | ⟨_, rfl⟩ | ⟨_, _, rfl⟩ | ⟨_, rfl⟩⟩ :=
      bodyStep_eq_some hs <;> simp
  | call i sp =>
    rcases callStep_eq_some hs with ⟨_, rfl⟩ | ⟨_, _, rfl⟩ | ⟨_, rfl⟩ | ⟨_, _, rfl⟩ |
      ⟨_, _, rfl⟩ | ⟨_, _, rfl⟩ | ⟨_, _, rfl⟩ | ⟨_, _, rfl⟩ | ⟨_, _, rfl⟩ | ⟨_, _, rfl⟩ <;> simp
  | hook _ =>
    rcases hookStep_eq_some hs with ⟨_, rfl⟩ | ⟨_, _, _, rfl⟩ | ⟨_, _, rfl⟩ <;> simp

/-- The abort requests: none twice, each for a spawned shell, and once there is one the
registry is closed. -/
structure AbortInv (s : Sandbox) : Prop where
  nodup : s.abortRequests.Nodup
  spawned : ∀ k ∈ s.abortRequests, k < s.shellProcs.length
  closed : s.abortRequests ≠ [] → Closed s

theorem AbortInv.step (ha : AbortInv s) (hi : Inv s) (hi' : Inv s') (hs : s.step a = some s') :
    AbortInv s' := by
  obtain ⟨hlen, hab | ⟨r, hab, hr⟩⟩ := step_abortRequests hs
  · exact ⟨hab ▸ ha.nodup, fun k hk => Nat.lt_of_lt_of_le (ha.spawned k (hab ▸ hk)) hlen,
      fun hne => (hi.stable hs).closed (ha.closed (hab ▸ hne))⟩
  · -- `abortShells`: the body now waits on a closed registry
    have hcl : Closed s' := by
      have hg := hi'.gate
      rw [hr] at hg
      exact BodyOk.closed hg.2.2.2.2
    refine ⟨?_, fun k hk => ?_, fun _ => hcl⟩
    · -- a second `abortShells` would find `s.shells` empty
      rw [hab]
      by_cases h0 : s.abortRequests = []
      · simpa [h0] using hi.shells.nodup
      · simpa [(ha.closed h0).2.1] using ha.nodup
    · rw [hab, List.mem_append] at hk
      rcases hk with hk | hk
      · exact Nat.lt_of_lt_of_le (ha.spawned k hk) hlen
      · obtain ⟨sh, hsh, -⟩ := hi.shells.live k hk
        exact Nat.lt_of_lt_of_le (List.getElem?_eq_some_iff.mp hsh).1 hlen

theorem Reachable.abortInv (h : Reachable s) : AbortInv s := by
  induction h with
  | start => exact ⟨List.nodup_nil, nofun, fun h => absurd rfl h⟩
  | step a hr hs ih => exact ih.step hr.inv (hr.step a hs).inv hs

/-- **Each shell is aborted at most once, and only a shell `NewShell` returned.** Over every
interleaving of `Kill`, `Abort`, natural completion and `NewShell` calls, `go S.Abort()` is
requested for no shell twice, and for no shell but one a `NewShell` call returned. -/
theorem Reachable.abort_once (h : Reachable s) :
    s.abortRequests.Nodup ∧ ∀ k ∈ s.abortRequests, s.Returned k :=
  ⟨h.abortInv.nodup, fun k hk => (h.returned_iff k).mp (h.abortInv.spawned k hk)⟩

/-- A shell runs, then `Kill` and `Abort` race: one `Abort()` is requested for the shell. -/
theorem abort_once_raced : ∃ s, (Sandbox.start false ⟨"worker"⟩ none).run
    [.arrive .newShell, .call 0 true, .call 0 true, .call 0 true, .arrive .kill, .arrive .abort,
      .call 1 true, .call 2 true, .body, .body, .body] = some s ∧
      s.abortRequests = [0] ∧ s.abortRequests.Nodup ∧ ∀ k ∈ s.abortRequests, s.Returned k :=
  ⟨_, rfl, rfl, Reachable.abort_once ((Reachable.start false ⟨"worker"⟩ none).run
    [.arrive .newShell, .call 0 true, .call 0 true, .call 0 true, .arrive .kill, .arrive .abort,
      .call 1 true, .call 2 true, .body, .body, .body] rfl)⟩

end Abort

end TaskclusterWorker.Native
