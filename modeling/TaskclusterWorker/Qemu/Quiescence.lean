import TaskclusterWorker.Qemu.Lifecycle

/-!
# Where a VM comes to rest

A VM is quiescent when neither its goroutines (`Start`, the readiness monitor, the exit
watcher) nor QEMU can take a step: only `Kill` and `SetHTTPHandler` calls from outside
could. `VmReachable.quiescent_settled` says what every reachable quiescent VM is: `Start` has
returned, `vm.Done` is closed, QEMU is not running and the exit watcher is not waiting on it,
and the network and the image have been released exactly when QEMU was started: a `Start`
that failed before QEMU ran is the only way to rest with them held (`held_forever`).
The only goroutine a VM can leave behind is the monitor, blocked on its send on
`socketsReady` (`run_sending`); never `Start` and never the exit watcher.

`VmReachable.final_after_done`: once `vm.Done` is closed and `Start` has returned, no schedule
changes `vm.Error`, the network, the image or the socket folder.

Beside `VmInv` it rests on `VmStarted`, two more facts of every run: QEMU and its exit
watcher start in the same step, and a `Start` that returns with the exit watcher never
started has closed `vm.Done` itself.
-/

namespace TaskclusterWorker.Qemu

open VirtualMachine

/-- A step of one of the VM's goroutines or of QEMU: not a `Kill` or `SetHTTPHandler` call. -/
def VmAction.goroutine : VmAction → Bool
  | .kill | .setHTTPHandler => false
  | _ => true

/-- No goroutine of the VM, and not QEMU, can take a step. -/
def VirtualMachine.Quiescent (vm : VirtualMachine) : Prop :=
  ∀ a, a.goroutine = true → vm.step a = none

/-- Two facts of every run, beside `VmInv`. -/
structure VmStarted (vm : VirtualMachine) : Prop where
  /-- QEMU and its exit watcher start in the same step of `Start`. -/
  qemu : vm.qemu = .notStarted ↔ vm.exitWatcher = .notStarted
  /-- `Start` returns with the exit watcher never started only after `close(vm.qemuDone)`. -/
  early : vm.start = .returned → vm.exitWatcher = .notStarted → vm.done = true

section Steps

variable {vm vm' : VirtualMachine} {folder : String} {folderExists : Bool}

theorem kill_qemu_notStarted : vm.kill.qemu = .notStarted ↔ vm.qemu = .notStarted := by
  unfold kill
  split
  · rfl
  · split <;> simp_all

/-- The monitor, QEMU's exit and `Kill` neither start QEMU nor put it back before its
start. -/
theorem step_frame_qemu {a : VmAction}
    (ha : a = .monitorClose ∨ a = .kill ∨ (∃ b, a = .monitor b) ∨ ∃ f, a = .qemuExit f)
    (h : vm.step a = some vm') : vm'.qemu = .notStarted ↔ vm.qemu = .notStarted := by
  rcases ha with rfl | rfl | ⟨b, rfl⟩ | ⟨f, rfl⟩
  · simp only [VirtualMachine.step, VirtualMachine.monitorClose] at h
    split at h <;> cases h
    rfl
  · simp only [VirtualMachine.step] at h
    split at h <;> cases h
    exact kill_qemu_notStarted
  · simp only [VirtualMachine.step, monitorSelect] at h
    split at h
    · split at h
      · cases h
      · split at h <;> cases h <;> rfl
    · cases h
  · simp only [VirtualMachine.step, VirtualMachine.qemuExit] at h
    split at h <;> cases h
    simp_all

theorem VmStarted.startStep (hi : VmInv folder folderExists vm) (hs : VmStarted vm)
    {ok : Bool} (h : vm.step (.start ok) = some vm') : VmStarted vm' := by
  simp only [VirtualMachine.step, VirtualMachine.startStep] at h
  split at h
  · cases h; exact ⟨hs.qemu, nofun⟩
  · split at h <;> cases h
    · exact ⟨hs.qemu, nofun⟩
    · exact ⟨hs.qemu, fun _ _ => rfl⟩
  · -- `vm.qemu.Start()` starts QEMU and the exit watcher, or fails and closes `vm.Done`
    split at h <;> cases h
    · exact ⟨⟨nofun, nofun⟩, nofun⟩
    · exact ⟨hs.qemu, fun _ _ => rfl⟩
  · -- the `select` returns only with the exit watcher started
    rename_i hst
    have hrun := hi.running (by simp [hst, StartPc.running])
    split at h <;> (try split at h) <;> (try split at h) <;> cases h <;>
      exact ⟨hs.qemu, fun _ hw => absurd hw hrun⟩
  · cases h; exact ⟨hs.qemu, nofun⟩
  · -- `vm.Kill()`
    rename_i hst
    have hrun := hi.running (by simp [hst, StartPc.running])
    cases h
    rw [kill_eq]
    exact ⟨kill_qemu_notStarted.trans hs.qemu, fun _ hw => absurd hw hrun⟩
  · cases h

theorem VmStarted.step (hi : VmInv folder folderExists vm) (hs : VmStarted vm) {a : VmAction}
    (h : vm.step a = some vm') : VmStarted vm' := by
  cases a with
  | start _ => exact hs.startStep hi h
  | exitWatcher =>
    simp only [VirtualMachine.step, exitWatcherStep] at h
    split at h
    · rename_i hq
      cases h
      exact ⟨by simp [hq], nofun⟩
    · cases h
  | setHTTPHandler =>
    simp only [VirtualMachine.step, VirtualMachine.setHTTPHandler, Option.some.injEq] at h
    subst h
    split <;> exact ⟨hs.qemu, hs.early⟩
  | _ =>
    have hvm := step_frame (by simp) h
    have hq := step_frame_qemu (by simp) h
    rw [hvm]
    exact ⟨hq.trans hs.qemu, hs.early⟩

/-- Once `Start` has returned with `vm.Done` closed and the exit watcher not waiting, a step
changes none of `vm.Error`, the network, the image and the socket folder. -/
theorem step_final {a : VmAction} (hs : vm.start = .returned) (hd : vm.done = true)
    (hw : vm.exitWatcher ≠ .waitQemu) (h : vm.step a = some vm') :
    vm'.error = vm.error ∧ vm'.network = vm.network ∧ vm'.image = vm.image ∧
      vm'.socketFolder = vm.socketFolder ∧ vm'.done = true ∧ vm'.start = .returned := by
  cases a with
  | start _ => simp [VirtualMachine.step, startStep, hs] at h
  | exitWatcher =>
    simp only [VirtualMachine.step, exitWatcherStep] at h
    split at h
    · rename_i _ hw' _
      exact absurd hw' hw
    · cases h
  | setHTTPHandler =>
    simp only [VirtualMachine.step, VirtualMachine.setHTTPHandler, Option.some.injEq] at h
    subst h
    split <;> exact ⟨rfl, rfl, rfl, rfl, hd, hs⟩
  | _ =>
    rw [step_frame (by simp) h]
    exact ⟨rfl, rfl, rfl, rfl, hd, hs⟩

end Steps

section Reachable

variable {socketFolder slug : String} {folderExists : Bool} {vm : VirtualMachine}

theorem VmReachable.started (h : VmReachable socketFolder slug folderExists vm) :
    VmStarted vm := by
  induction h with
  | new => exact ⟨iff_of_true rfl rfl, nofun⟩
  | step _ hr hs ih => exact ih.step hr.inv hs

/-- Once the exit watcher has run, `vm.Done` is closed. -/
theorem VmReachable.done_of_finished (h : VmReachable socketFolder slug folderExists vm)
    (hw : vm.exitWatcher = .finished) : vm.done = true := by
  cases h.inv.shape with
  | live _ _ _ _ _ hw' => exact absurd hw hw'
  | early _ _ _ _ _ _ hw' => simp [hw] at hw'
  | released _ _ hdone => exact hdone

/-- **Where a VM comes to rest.** In a reachable state in which neither `Start`, the monitor,
the exit watcher nor QEMU can move, `Start` has returned and `vm.Done` is closed, QEMU is not
running and the exit watcher does not wait on it; the network and the image have been
released exactly when QEMU was started; the monitor has not started, has finished, or is
blocked on its send. -/
theorem VmReachable.quiescent_settled (h : VmReachable socketFolder slug folderExists vm)
    (hq : vm.Quiescent) :
    vm.start = .returned ∧ vm.done = true ∧ (∀ killed, vm.qemu ≠ .running killed) ∧
      vm.exitWatcher ≠ .waitQemu ∧
      (vm.network = false ↔ vm.qemu ≠ .notStarted) ∧ vm.image = vm.network ∧
      (vm.monitor = .notStarted ∨ vm.monitor = .finished ∨ ∃ err, vm.monitor = .sending err) := by
  have hi := h.inv
  have hs := h.started
  have hqemu : ∀ killed, vm.qemu ≠ .running killed := fun k hk => by
    simpa [VirtualMachine.step, VirtualMachine.qemuExit, hk] using hq (.qemuExit false) rfl
  -- a waiting exit watcher waits on a QEMU that has started, so has exited
  have hwait : vm.exitWatcher ≠ .waitQemu := fun hw => by
    cases hqe : vm.qemu with
    | notStarted => simp [hs.qemu.mp hqe] at hw
    | running k => exact hqemu k hqe
    | exited e => simpa [VirtualMachine.step, exitWatcherStep, hw, hqe] using hq .exitWatcher rfl
  have hstart : vm.start = .returned := by
    cases hst : vm.start with
    | select =>
      -- the exit watcher started with QEMU and has run: `vm.Done` is closed
      have hw : vm.exitWatcher = .finished := by
        have := hi.running (by simp [hst, StartPc.running])
        cases hw : vm.exitWatcher <;> simp_all
      simpa [VirtualMachine.step, startStep, hst, h.done_of_finished hw] using
        hq (.start false) rfl
    | returned => rfl
    | _ =>
      have := hq (.start true) rfl
      simp only [VirtualMachine.step, startStep, hst] at this
      (try split at this) <;> cases this
  have hdone : vm.done = true := by
    cases hw : vm.exitWatcher with
    | notStarted => exact hs.early hstart hw
    | waitQemu => exact absurd hw hwait
    | finished => exact h.done_of_finished hw
  -- the exit watcher, which QEMU's start started, has released both
  have hres : (vm.network = false ↔ vm.qemu ≠ .notStarted) ∧ vm.image = vm.network := by
    rw [Ne, hs.qemu]
    cases hi.shape with
    | live _ _ _ hnet himg hw =>
      cases hw' : vm.exitWatcher
      · simp [hnet, himg]
      · exact absurd hw' hwait
      · exact absurd hw' hw
    | early _ _ _ _ hnet himg hw => simp [hnet, himg, hw]
    | released _ _ _ hnet himg hw => simp [hnet, himg, hw]
  refine ⟨hstart, hdone, hqemu, hwait, hres.1, hres.2, ?_⟩
  cases hm : vm.monitor with
  | loop v q =>
    simpa [VirtualMachine.step, monitorSelect, monitorStep, hm] using hq (.monitor .timer) rfl
  | closing r =>
    simpa [VirtualMachine.step, VirtualMachine.monitorClose, hm] using hq .monitorClose rfl
  | _ => simp

/-- QEMU exits at once; the monitor sees `vm.Done` and returns, and `Start` takes `vm.Done`:
the VM is at rest, with nothing left running. -/
theorem quiescent_settled_exited :
    ∃ vm, (VirtualMachine.new "/tmp/sockets" "vm" true).run
        [.start true, .start true, .start true, .qemuExit false, .exitWatcher,
          .monitor (.input .done), .monitorClose, .start false] = some vm ∧
      vm.Quiescent ∧ vm.start = .returned ∧ vm.done = true ∧
      (∀ killed, vm.qemu ≠ .running killed) ∧ vm.exitWatcher ≠ .waitQemu ∧
      (vm.network = false ↔ vm.qemu ≠ .notStarted) ∧ vm.image = vm.network ∧
      (vm.monitor = .notStarted ∨ vm.monitor = .finished ∨ ∃ err, vm.monitor = .sending err) := by
  refine ⟨_, rfl, ?quiescent, VmReachable.quiescent_settled
    ((@VmReachable.new "/tmp/sockets" "vm" true).run
      [.start true, .start true, .start true, .qemuExit false, .exitWatcher,
        .monitor (.input .done), .monitorClose, .start false] rfl) ?quiescent⟩
  intro a ha
  cases a <;> simp_all [VmAction.goroutine, VirtualMachine.step, startStep, monitorSelect,
    VirtualMachine.monitorClose, VirtualMachine.qemuExit, exitWatcherStep]

/-! ## What is final once `Start` has returned with `vm.Done` closed -/

/-- With `vm.Done` closed the exit watcher does not wait: it has run, or never started. -/
theorem VmReachable.exitWatcher_ne_waitQemu (h : VmReachable socketFolder slug folderExists vm)
    (hd : vm.done = true) : vm.exitWatcher ≠ .waitQemu := by
  cases h.inv.shape with
  | live _ _ hd' => simp [hd] at hd'
  | early _ _ _ _ _ _ hw => simp [hw]
  | released _ _ _ _ _ hw => simp [hw]

/-- **Final once `Start` has returned.** Once `vm.Done` is closed and `Start` has returned, no
schedule of the monitor, QEMU, `Kill` and `SetHTTPHandler` changes `vm.Error`, the network,
the image or the socket folder: what a caller reads then is final. Before `Start` returns it
is not: `Start` may still write a readiness error over the one the exit watcher left. -/
theorem VmReachable.final_after_done (h : VmReachable socketFolder slug folderExists vm)
    (hs : vm.start = .returned) (hd : vm.done = true) :
    ∀ as vm', vm.run as = some vm' → vm'.error = vm.error ∧ vm'.network = vm.network ∧
      vm'.image = vm.image ∧ vm'.socketFolder = vm.socketFolder := by
  intro as
  induction as generalizing vm with
  | nil => intro vm' hr; cases hr; exact ⟨rfl, rfl, rfl, rfl⟩
  | cons a rest ih =>
    intro vm' hr
    obtain ⟨t, ht, hr⟩ := Option.bind_eq_some.mp hr
    obtain ⟨he, hn, hi, hf, hd', hs'⟩ := step_final hs hd (h.exitWatcher_ne_waitQemu hd) ht
    obtain ⟨he', hn', hi', hf'⟩ := ih (h.step a ht) hs' hd' vm' hr
    exact ⟨he'.trans he, hn'.trans hn, hi'.trans hi, hf'.trans hf⟩

/-- QEMU fails, the exit watcher records its error and closes `vm.Done`, and `Start` takes
`vm.Done`: the error is final, whatever the monitor does next. -/
theorem final_after_done_exited :
    ∃ vm, (VirtualMachine.new "/tmp/sockets" "vm" true).run
        [.start true, .start true, .start true, .qemuExit true, .exitWatcher, .start false] =
        some vm ∧ vm.start = .returned ∧ vm.done = true ∧
      ∀ as vm', vm.run as = some vm' → vm'.error = vm.error ∧ vm'.network = vm.network ∧
        vm'.image = vm.image ∧ vm'.socketFolder = vm.socketFolder :=
  ⟨_, rfl, rfl, rfl, VmReachable.final_after_done ((@VmReachable.new "/tmp/sockets" "vm" true).run
    [.start true, .start true, .start true, .qemuExit true, .exitWatcher, .start false] rfl)
    rfl rfl⟩

end Reachable

end TaskclusterWorker.Qemu
