import TaskclusterWorker.Qemu.VirtualMachine

/-!
# The life of a VM: `vm.Done`, the resources, `vm.Error` and the monitor

`VmInv` holds in every reachable state (`VmReachable.inv`). Its parts:

* `LogShape` — the log is some `SetHandler` calls, then either nothing, or `close(Done)`
  by `Start` on an early failure with the network and the image still held (and further
  `SetHandler` calls on that network), or the exit watcher's releases of the network and the
  image, the folder's removal, and `close(Done)`, last;
* the socket folder and its directory are cleared only by the exit watcher;
* `vm.Error` holds a readiness error only once the exit watcher has run;
* a monitor still running holds its fsnotify watcher open.

What follows, over every interleaving:

* `VmReachable.closeDone_count` — `vm.Done` is closed at most once;
* `VmReachable.vncSocket_eq` — `VNCSocket()` is empty exactly once the exit watcher has run;
* `VmReachable.readiness_error_done` — a readiness error reaches `vm.Error` only after
  `vm.Done` has closed;
* `run_sending` — a monitor blocked on `socketsReady` after `Start` has
  returned stays blocked, with its watcher open, under every schedule.
-/

namespace TaskclusterWorker.Qemu

open VirtualMachine

/-- `Start` has not passed `vm.qemu.Start()` yet. -/
def StartPc.early : StartPc → Bool
  | .idle | .waitForSockets | .qemuStart => true
  | _ => false

/-- `Start` is between a successful `vm.qemu.Start()` and its return. -/
def StartPc.running : StartPc → Bool
  | .select | .readinessError _ | .kill => true
  | _ => false

/-- The monitor runs and has not closed its watcher. -/
def MonitorPc.active : MonitorPc → Bool
  | .loop _ _ | .sending _ | .closing _ => true
  | _ => false

/-- The three shapes of the log. -/
inductive LogShape (vm : VirtualMachine) : Prop
  /-- `vm.Done` open, network and image held: `SetHandler` calls only. -/
  | live (n : Nat) (hlog : vm.log = .replicate n .setHandler) (hdone : vm.done = false)
      (hnet : vm.network = true) (himg : vm.image = true) (hw : vm.exitWatcher ≠ .finished)
  /-- `Start` failed before QEMU ran and closed `vm.Done`; the network and the image are still
  held, and `SetHandler` calls still reach the network. -/
  | early (n m : Nat)
      (hlog : vm.log = .replicate n .setHandler ++ .closeDone :: .replicate m .setHandler)
      (hdone : vm.done = true) (hnet : vm.network = true) (himg : vm.image = true)
      (hw : vm.exitWatcher = .notStarted)
  /-- The exit watcher released the network and the image, removed the folder, and closed
  `vm.Done`, last. -/
  | released (n : Nat)
      (hlog : vm.log = .replicate n .setHandler ++
        [.releaseNetwork, .releaseImage, .removeFolder, .closeDone])
      (hdone : vm.done = true) (hnet : vm.network = false) (himg : vm.image = false)
      (hw : vm.exitWatcher = .finished)

namespace LogShape

variable {vm vm' : VirtualMachine}

theorem congr (h : LogShape vm) (hlog : vm'.log = vm.log) (hdone : vm'.done = vm.done)
    (hnet : vm'.network = vm.network) (himg : vm'.image = vm.image)
    (hw : vm'.exitWatcher = vm.exitWatcher) : LogShape vm' := by
  cases h with
  | live n a b c d e =>
    exact .live n (hlog.trans a) (hdone.trans b) (hnet.trans c) (himg.trans d) (hw ▸ e)
  | early n m a b c d e =>
    exact .early n m (hlog.trans a) (hdone.trans b) (hnet.trans c) (himg.trans d) (hw.trans e)
  | released n a b c d e =>
    exact .released n (hlog.trans a) (hdone.trans b) (hnet.trans c) (himg.trans d) (hw.trans e)

/-- With `vm.Done` open, only `SetHandler` calls have happened. -/
theorem live_of_open (h : LogShape vm) (hdone : vm.done = false) :
    ∃ n, vm.log = .replicate n .setHandler ∧ vm.network = true ∧ vm.image = true := by
  cases h with
  | live n hlog _ hnet himg => exact ⟨n, hlog, hnet, himg⟩
  | early _ _ _ hd => simp [hdone] at hd
  | released _ _ hd => simp [hdone] at hd

end LogShape

/-- The VM invariant, for a VM made with the socket folder `folder`, whose directory exists
when `folderExists`. -/
structure VmInv (folder : String) (folderExists : Bool) (vm : VirtualMachine) : Prop where
  shape : LogShape vm
  early : vm.start.early = true →
    vm.done = false ∧ vm.exitWatcher = .notStarted ∧ vm.error = none
  unwatched : vm.start = .idle ∨ vm.start = .waitForSockets → vm.monitor = .notStarted
  running : vm.start.running = true → vm.exitWatcher ≠ .notStarted
  socketFolder : vm.socketFolder = if vm.exitWatcher = .finished then "" else folder
  exists_ : vm.folderExists = (folderExists && vm.exitWatcher != .finished)
  waiting : vm.exitWatcher = .waitQemu → vm.error = none
  readiness : ∀ err, vm.error = some (.monitor err) → vm.exitWatcher = .finished
  watcher : vm.monitor.active = true → vm.watcherOpen = true

section Steps

variable {vm vm' : VirtualMachine} {folder : String} {folderExists : Bool}

/-- The steps of the monitor, of QEMU and of `Kill` touch nothing but the monitor, the
watcher, `socketsReady` and QEMU. -/
theorem step_frame {a : VmAction}
    (ha : a = .monitorClose ∨ a = .kill ∨ (∃ b, a = .monitor b) ∨ ∃ f, a = .qemuExit f)
    (h : vm.step a = some vm') :
    vm' = { vm with
      monitor := vm'.monitor
      watcherOpen := vm'.watcherOpen
      socketsReadyClosed := vm'.socketsReadyClosed
      qemu := vm'.qemu } := by
  rcases ha with rfl | rfl | ⟨b, rfl⟩ | ⟨f, rfl⟩
  · simp only [VirtualMachine.step, VirtualMachine.monitorClose] at h
    split at h <;> cases h; rfl
  · simp only [VirtualMachine.step] at h
    split at h <;> cases h
    rw [kill_eq]
  · simp only [VirtualMachine.step, monitorSelect] at h
    split at h
    · split at h
      · cases h
      · split at h <;> cases h <;> rfl
    · cases h
  · simp only [VirtualMachine.step, VirtualMachine.qemuExit] at h
    split at h <;> cases h; rfl

/-- A frame step keeps the invariant when it keeps the monitor's watcher. -/
theorem VmInv.frame (hi : VmInv folder folderExists vm)
    (hvm : vm' = { vm with
      monitor := vm'.monitor
      watcherOpen := vm'.watcherOpen
      socketsReadyClosed := vm'.socketsReadyClosed
      qemu := vm'.qemu })
    (hmon : vm'.monitor.active = true → vm'.watcherOpen = true)
    (hunw : vm.start = .idle ∨ vm.start = .waitForSockets → vm'.monitor = .notStarted) :
    VmInv folder folderExists vm' := by
  obtain ⟨shape, early, -, running, sf, ex, waiting, readiness, -⟩ := hi
  rw [hvm]
  exact ⟨shape.congr rfl rfl rfl rfl rfl, early, hunw, running, sf, ex, waiting, readiness, hmon⟩

/-- The monitor has started once `Start` is past `waitForSockets`. -/
theorem VmInv.started (hi : VmInv folder folderExists vm) (hm : vm.monitor ≠ .notStarted) :
    ¬ (vm.start = .idle ∨ vm.start = .waitForSockets) := fun h => hm (hi.unwatched h)

theorem VmInv.monitorSelect (hi : VmInv folder folderExists vm) {b : Selected}
    (h : vm.step (.monitor b) = some vm') : VmInv folder folderExists vm' := by
  have hvm := step_frame (.inr (.inr (.inl ⟨b, rfl⟩))) h
  simp only [VirtualMachine.step, VirtualMachine.monitorSelect] at h
  split at h
  · rename_i v q hm
    have hw := hi.watcher (by simp [hm, MonitorPc.active])
    refine hi.frame hvm ?_ fun hs => absurd hs (hi.started (by simp [hm]))
    split at h
    · cases h
    · split at h <;> cases h <;> simp [MonitorPc.active, hw]
  · cases h

theorem VmInv.monitorClose (hi : VmInv folder folderExists vm)
    (h : vm.step .monitorClose = some vm') : VmInv folder folderExists vm' := by
  have hvm := step_frame (.inl rfl) h
  simp only [VirtualMachine.step, VirtualMachine.monitorClose] at h
  split at h
  · rename_i r hm
    cases h
    exact hi.frame hvm (by simp [MonitorPc.active])
      fun hs => absurd hs (hi.started (by simp [hm]))
  · cases h

theorem VmInv.qemuExit (hi : VmInv folder folderExists vm) {f : Bool}
    (h : vm.step (.qemuExit f) = some vm') : VmInv folder folderExists vm' := by
  have hvm := step_frame (.inr (.inr (.inr ⟨f, rfl⟩))) h
  simp only [VirtualMachine.step, VirtualMachine.qemuExit] at h
  split at h <;> cases h
  exact hi.frame hvm hi.watcher hi.unwatched

theorem VmInv.kill (hi : VmInv folder folderExists vm)
    (h : vm.step .kill = some vm') : VmInv folder folderExists vm' := by
  have hvm := step_frame (.inr (.inl rfl)) h
  have hmon : vm'.monitor = vm.monitor ∧ vm'.watcherOpen = vm.watcherOpen := by
    simp only [VirtualMachine.step] at h
    split at h <;> cases h
    rw [kill_eq]
    exact ⟨rfl, rfl⟩
  exact hi.frame hvm (by rw [hmon.1, hmon.2]; exact hi.watcher)
    fun hs => hmon.1 ▸ hi.unwatched hs

theorem VmInv.setHTTPHandler (hi : VmInv folder folderExists vm)
    (h : vm.step .setHTTPHandler = some vm') : VmInv folder folderExists vm' := by
  simp only [VirtualMachine.step, VirtualMachine.setHTTPHandler, Option.some.injEq] at h
  subst h
  obtain ⟨shape, early, unwatched, running, sf, ex, waiting, readiness, watcher⟩ := hi
  split
  · refine ⟨?_, early, unwatched, running, sf, ex, waiting, readiness, watcher⟩
    cases shape with
    | live n hlog a b c d => exact .live (n + 1) (by simp [hlog, List.replicate_succ']) a b c d
    | early n m hlog a b c d =>
      exact .early n (m + 1) (by simp [hlog, List.replicate_succ']) a b c d
    | released n _ _ hnet => simp_all
  · exact ⟨shape, early, unwatched, running, sf, ex, waiting, readiness, watcher⟩

theorem VmInv.exitWatcher (hi : VmInv folder folderExists vm)
    (h : vm.step .exitWatcher = some vm') : VmInv folder folderExists vm' := by
  simp only [VirtualMachine.step, VirtualMachine.exitWatcherStep] at h
  split at h
  · rename_i werr hw hq
    cases h
    obtain ⟨shape, early, unwatched, -, -, -, waiting, -, watcher⟩ := hi
    have hlate : vm.start.early = false := by
      cases he : vm.start.early
      · rfl
      · simp [(early he).2.1] at hw
    refine ⟨?_, by simp [hlate], unwatched, by simp, by simp, by simp, by simp, by simp, watcher⟩
    cases shape with
    | live n hlog _ hnet himg => exact .released n (by simp [hlog]) rfl rfl rfl rfl
    | early _ _ _ _ _ _ hw' => simp [hw] at hw'
    | released _ _ _ _ _ hw' => simp [hw] at hw'
  · cases h

theorem VmInv.startStep (hi : VmInv folder folderExists vm) {ok : Bool}
    (h : vm.step (.start ok) = some vm') : VmInv folder folderExists vm' := by
  obtain ⟨shape, early, unwatched, running, sf, ex, waiting, readiness, watcher⟩ := hi
  simp only [VirtualMachine.step, VirtualMachine.startStep] at h
  split at h
  · -- `started = true`
    rename_i hs
    cases h
    exact ⟨shape.congr rfl rfl rfl rfl rfl, fun _ => early (by simp [hs, StartPc.early]),
      fun _ => unwatched (.inl hs), nofun, sf, ex, waiting, readiness, watcher⟩
  · rename_i hs
    obtain ⟨hdone, hw, herr⟩ := early (by simp [hs, StartPc.early])
    obtain ⟨n, hlog, hnet, himg⟩ := shape.live_of_open hdone
    have hm := unwatched (.inr hs)
    split at h <;> cases h
    · -- `waitForSockets` set up the monitor
      exact ⟨shape.congr rfl rfl rfl rfl rfl, fun _ => ⟨hdone, hw, herr⟩, nofun, nofun, sf, ex,
        waiting, readiness, fun _ => rfl⟩
    · -- `waitForSockets` failed: `close(vm.qemuDone)`
      refine ⟨.early n 0 (by simp [hlog]) rfl hnet himg hw, nofun, nofun, nofun, sf, ex,
        by simp [hw], fun err herr' => ?_, by simp [hm, MonitorPc.active]⟩
      split at herr' <;> cases herr'
  · rename_i hs
    obtain ⟨hdone, hw, herr⟩ := early (by simp [hs, StartPc.early])
    obtain ⟨n, hlog, hnet, himg⟩ := shape.live_of_open hdone
    split at h <;> cases h
    · -- QEMU started, and the exit watcher with it
      exact ⟨.live n hlog hdone hnet himg nofun, nofun, nofun, fun _ => nofun,
        by simpa [hw] using sf, by simpa [hw] using ex, fun _ => herr, by simp [herr], watcher⟩
    · -- `vm.qemu.Start()` failed: `close(vm.qemuDone)`
      exact ⟨.early n 0 (by simp [hlog]) rfl hnet himg hw, nofun, nofun, nofun, sf, ex,
        by simp [hw], by simp, watcher⟩
  · rename_i hs
    have hrun := running (by simp [hs, StartPc.running])
    split at h
    · split at h
      · -- the monitor's error is received
        rename_i err hm
        cases h
        exact ⟨shape.congr rfl rfl rfl rfl rfl, nofun, nofun, fun _ => hrun, sf, ex, waiting,
          readiness, fun _ => watcher (by simp [hm, MonitorPc.active])⟩
      · split at h <;> cases h
        exact ⟨shape.congr rfl rfl rfl rfl rfl, nofun, nofun, nofun, sf, ex, waiting, readiness,
          watcher⟩
    · split at h <;> cases h
      exact ⟨shape.congr rfl rfl rfl rfl rfl, nofun, nofun, nofun, sf, ex, waiting, readiness,
        watcher⟩
  · -- the lock, the test of `vm.Error`, the unlock
    rename_i err hs
    cases h
    have hrun := running (by simp [hs, StartPc.running])
    refine ⟨shape.congr rfl rfl rfl rfl rfl, nofun, nofun, fun _ => hrun, sf, ex,
      fun hw => by simp [waiting hw], fun e he => ?_, watcher⟩
    cases hve : vm.error with
    | none => simp [hve] at he
    | some e' =>
      cases hw : vm.exitWatcher
      · exact absurd hw hrun
      · simp [waiting hw] at hve
      · rfl
  · -- `vm.Kill()`
    rename_i hs
    cases h
    have hrun := running (by simp [hs, StartPc.running])
    rw [kill_eq]
    exact ⟨shape.congr rfl rfl rfl rfl rfl, nofun, nofun, nofun, sf, ex, waiting, readiness,
      watcher⟩
  · cases h

theorem VmInv.step (hi : VmInv folder folderExists vm) {a : VmAction}
    (h : vm.step a = some vm') : VmInv folder folderExists vm' := by
  cases a with
  | start _ => exact hi.startStep h
  | monitor _ => exact hi.monitorSelect h
  | monitorClose => exact hi.monitorClose h
  | qemuExit _ => exact hi.qemuExit h
  | exitWatcher => exact hi.exitWatcher h
  | kill => exact hi.kill h
  | setHTTPHandler => exact hi.setHTTPHandler h

end Steps

theorem VmInv.new (socketFolder slug : String) (folderExists : Bool) :
    VmInv (joinPath socketFolder slug) folderExists
      (VirtualMachine.new socketFolder slug folderExists) :=
  ⟨.live 0 rfl rfl rfl rfl nofun, fun _ => ⟨rfl, rfl, rfl⟩, fun _ => rfl, nofun, rfl,
    by simp [VirtualMachine.new], nofun, nofun, nofun⟩

/-- **The VM invariant.** Every state a VM reaches, under any interleaving, satisfies
`VmInv`. -/
theorem VmReachable.inv {socketFolder slug : String} {folderExists : Bool} {vm : VirtualMachine}
    (h : VmReachable socketFolder slug folderExists vm) :
    VmInv (joinPath socketFolder slug) folderExists vm := by
  induction h with
  | new => exact VmInv.new socketFolder slug folderExists
  | step _ _ hs ih => exact ih.step hs

/-! ## What every run does -/

section Reachable

variable {socketFolder slug : String} {folderExists : Bool} {vm : VirtualMachine}

/-- `vm.Done` is closed at most once: the log holds one `close` once it is closed, none
before. -/
theorem VmReachable.closeDone_count (h : VmReachable socketFolder slug folderExists vm) :
    vm.log.count .closeDone = if vm.done then 1 else 0 := by
  cases h.inv.shape with
  | live n hlog hdone => simp [hlog, hdone, List.count_replicate]
  | early n m hlog hdone => simp [hlog, hdone, List.count_replicate]
  | released n hlog hdone => simp [hlog, hdone, List.count_replicate]

/-- QEMU exits and the exit watcher closes `vm.Done`: one `close` in the log. -/
theorem closeDone_count_exited :
    ∃ vm, (VirtualMachine.new "/tmp/sockets" "vm" true).run
        [.start true, .start true, .start true, .qemuExit false, .exitWatcher] = some vm ∧
      vm.log.count .closeDone = 1 :=
  ⟨_, rfl, VmReachable.closeDone_count ((@VmReachable.new "/tmp/sockets" "vm" true).run
    [.start true, .start true, .start true, .qemuExit false, .exitWatcher] rfl)⟩

/-- **No handler after the release.** Under every interleaving of `SetHTTPHandler` calls with
`Start` and the exit watcher, the network is released at most once, and from its release on
no `SetHandler` call reaches it: both run under `vm.m`, and `SetHTTPHandler` tests
`vm.network` there. -/
theorem VmReachable.no_handler_after_release (h : VmReachable socketFolder slug folderExists vm) :
    vm.log.count .releaseNetwork ≤ 1 ∧ .setHandler ∉ vm.log.dropWhile (· != .releaseNetwork) := by
  rcases h.inv.shape with ⟨n, hlog⟩ | ⟨n, m, hlog⟩ | ⟨n, hlog⟩ <;>
    simp [hlog, List.count_replicate, List.dropWhile_append, List.dropWhile_eq_nil_iff]

/-- QEMU exits, the exit watcher releases the network, and `SetHTTPHandler` is called
before and after: the later call finds `vm.network` nil. -/
theorem no_handler_after_release_exited :
    ∃ vm, (VirtualMachine.new "/tmp/sockets" "vm" true).run
        [.setHTTPHandler, .start true, .start true, .start true, .qemuExit false, .exitWatcher,
          .setHTTPHandler] = some vm ∧
      vm.log.count .releaseNetwork ≤ 1 ∧ .setHandler ∉ vm.log.dropWhile (· != .releaseNetwork) :=
  ⟨_, rfl, VmReachable.no_handler_after_release ((@VmReachable.new "/tmp/sockets" "vm" true).run
    [.setHTTPHandler, .start true, .start true, .start true, .qemuExit false, .exitWatcher,
      .setHTTPHandler] rfl)⟩

/-- Once `Start` has returned with the exit watcher never started, no step starts it. -/
theorem step_exitWatcher_notStarted {vm' : VirtualMachine} {a : VmAction}
    (hs : vm.start = .returned) (hw : vm.exitWatcher = .notStarted) (h : vm.step a = some vm') :
    vm'.start = .returned ∧ vm'.exitWatcher = .notStarted := by
  cases a with
  | start _ => simp [VirtualMachine.step, startStep, hs] at h
  | exitWatcher => simp [VirtualMachine.step, exitWatcherStep, hw] at h
  | setHTTPHandler =>
    simp only [VirtualMachine.step, VirtualMachine.setHTTPHandler, Option.some.injEq] at h
    subst h; split <;> exact ⟨hs, hw⟩
  | _ =>
    rw [step_frame (by simp) h]
    exact ⟨hs, hw⟩

/-- A `Start` that failed before QEMU ran leaves the network and the image held under every
later schedule: nothing will release them. -/
theorem VmReachable.held_forever (h : VmReachable socketFolder slug folderExists vm)
    (hs : vm.start = .returned) (hw : vm.exitWatcher = .notStarted) :
    ∀ as vm', vm.run as = some vm' → vm'.network = true ∧ vm'.image = true := by
  intro as
  induction as generalizing vm with
  | nil =>
    intro vm' hr
    cases hr
    cases h.inv.shape with
    | live _ _ _ hnet himg => exact ⟨hnet, himg⟩
    | early _ _ _ _ hnet himg => exact ⟨hnet, himg⟩
    | released _ _ _ _ _ hw' => simp [hw] at hw'
  | cons a rest ih =>
    intro vm' hr
    obtain ⟨t, ht, hr⟩ := Option.bind_eq_some.mp hr
    obtain ⟨hs', hw'⟩ := step_exitWatcher_notStarted hs hw ht
    exact ih (h.step a ht) hs' hw' vm' hr

/-- The socket folder named and missing, as `NewVirtualMachine` leaves it: `Start` fails at
`w.Add`, closes `vm.Done` with the network and the image still held, and no schedule releases
them. -/
theorem done_closed_resources_held :
    ∃ vm, (VirtualMachine.new "/tmp/sockets" "vm" false).run [.start true, .start true] =
      some vm ∧ vm.done = true ∧ vm.log = [.closeDone] ∧
      ∀ as vm', vm.run as = some vm' → vm'.network = true ∧ vm'.image = true :=
  ⟨_, rfl, rfl, rfl, VmReachable.held_forever
    ((@VmReachable.new "/tmp/sockets" "vm" false).run [.start true, .start true] rfl) rfl rfl⟩

theorem joinPath_ne_empty (dir name : String) : joinPath dir name ≠ "" := by
  intro h
  have : '/' ∈ (joinPath dir name).data := by simp [joinPath]
  simp [h] at this

/-- `VNCSocket()` returns the VM's folder joined with `vnc.sock` until the exit watcher has
run, the empty string after; the folder's directory exists until then exactly when it
existed at `NewVirtualMachine`. -/
theorem VmReachable.vncSocket_eq (h : VmReachable socketFolder slug folderExists vm) :
    vm.vncSocket = (if vm.exitWatcher = .finished then ""
      else joinPath (joinPath socketFolder slug) vncSocketFile) ∧
    vm.folderExists = (folderExists && vm.exitWatcher != .finished) := by
  have hi := h.inv
  refine ⟨?_, hi.exists_⟩
  unfold vncSocket
  rw [hi.socketFolder]
  split <;> simp [joinPath_ne_empty, *]

/-- Once the exit watcher has run, `VNCSocket()` is empty and the folder is gone. -/
theorem vncSocket_eq_exited :
    ∃ vm, (VirtualMachine.new "/tmp/sockets" "vm" true).run
        [.start true, .start true, .start true, .qemuExit false, .exitWatcher] = some vm ∧
      vm.vncSocket = "" ∧ vm.folderExists = false :=
  ⟨_, rfl, VmReachable.vncSocket_eq ((@VmReachable.new "/tmp/sockets" "vm" true).run
    [.start true, .start true, .start true, .qemuExit false, .exitWatcher] rfl)⟩

/-- `Start` fails at `w.Add` on the missing folder and returns with `vm.Done` closed, yet
`VNCSocket()` still returns a path, in a folder that does not exist. -/
theorem vncSocket_after_done :
    ∃ vm, (VirtualMachine.new "/tmp/sockets" "vm" false).run [.start true, .start true] =
      some vm ∧ vm.start = .returned ∧ vm.done = true ∧
      vm.vncSocket = joinPath (joinPath "/tmp/sockets" "vm") vncSocketFile ∧
      vm.folderExists = false :=
  ⟨_, rfl, rfl, rfl, by decide, rfl⟩

/-- A readiness error reaches `vm.Error` only after the exit watcher has run and closed
`vm.Done`: `Start` records it only over an error already there. -/
theorem VmReachable.readiness_error_done (h : VmReachable socketFolder slug folderExists vm)
    {err : MonitorError} (he : vm.error = some (.monitor err)) :
    vm.done = true ∧ vm.exitWatcher = .finished := by
  have hi := h.inv
  have hw := hi.readiness err he
  cases hi.shape with
  | live _ _ _ _ _ hw' => exact absurd hw hw'
  | early _ _ _ _ _ _ hw' => simp [hw] at hw'
  | released _ _ hdone => exact ⟨hdone, hw⟩

/-- The monitor times out after QEMU has exited: `Start` records the timeout in `vm.Error`,
with `vm.Done` already closed. -/
theorem readiness_error_done_late :
    ∃ vm, (VirtualMachine.new "/tmp/sockets" "vm" true).run
        [.start true, .start true, .start true, .qemuExit true, .exitWatcher, .monitor .timer,
          .start true, .start true] = some vm ∧
      vm.error = some (.monitor .timeout) ∧ vm.done = true ∧ vm.exitWatcher = .finished :=
  ⟨_, rfl, rfl, VmReachable.readiness_error_done
    ((@VmReachable.new "/tmp/sockets" "vm" true).run
      [.start true, .start true, .start true, .qemuExit true, .exitWatcher, .monitor .timer,
        .start true, .start true] rfl) rfl⟩

/-- Two schedules with the socket folder present. The monitor times out while `vm.Error` is
nil; `Start` drops the error, kills QEMU, and `vm.Done` closes with QEMU's exit error. And
QEMU exits with an error, the exit watcher records it and closes `vm.Done`, then the monitor
times out and `Start` takes its error: it overwrites `vm.Error` after `vm.Done` closed. -/
theorem readiness_error_lost :
    (∃ vm, (VirtualMachine.new "/tmp/sockets" "vm" true).run
        [.start true, .start true, .start true, .monitor .timer, .start true, .start true,
          .start true, .qemuExit false, .exitWatcher] = some vm ∧
      vm.done = true ∧ vm.error = some (.qemuExit true)) ∧
    (∃ vm vm', (VirtualMachine.new "/tmp/sockets" "vm" true).run
        [.start true, .start true, .start true, .qemuExit true, .exitWatcher, .monitor .timer,
          .start true] = some vm ∧
      vm.done = true ∧ vm.error = some (.qemuExit false) ∧
      vm.step (.start true) = some vm' ∧ vm'.error = some (.monitor .timeout)) :=
  ⟨⟨_, rfl, rfl, rfl⟩, ⟨_, _, rfl, rfl, rfl, rfl, rfl⟩⟩

/-- Once `Start` has returned, a monitor blocked on `socketsReady` takes no step, and nothing
else moves it or closes its watcher. -/
theorem step_sending {vm' : VirtualMachine} {a : VmAction} {err : MonitorError}
    (hs : vm.start = .returned) (hm : vm.monitor = .sending err) (h : vm.step a = some vm') :
    vm'.start = .returned ∧ vm'.monitor = .sending err ∧ vm'.watcherOpen = vm.watcherOpen := by
  cases a with
  | start _ => simp [VirtualMachine.step, startStep, hs] at h
  | monitor _ => simp [VirtualMachine.step, monitorSelect, hm] at h
  | monitorClose => simp [VirtualMachine.step, VirtualMachine.monitorClose, hm] at h
  | exitWatcher =>
    simp only [VirtualMachine.step, exitWatcherStep] at h
    split at h <;> cases h
    exact ⟨hs, hm, rfl⟩
  | setHTTPHandler =>
    simp only [VirtualMachine.step, VirtualMachine.setHTTPHandler, Option.some.injEq] at h
    subst h; split <;> exact ⟨hs, hm, rfl⟩
  | kill =>
    simp only [VirtualMachine.step, hs, if_true, Option.some.injEq] at h
    subst h
    rw [kill_eq]
    exact ⟨hs, hm, rfl⟩
  | qemuExit _ =>
    simp only [VirtualMachine.step, VirtualMachine.qemuExit] at h
    split at h <;> cases h
    exact ⟨hs, hm, rfl⟩

/-- **The monitor is stuck for good.** A monitor blocked on its send after `Start` has left
its `select` stays blocked under every schedule, and its watcher stays open. -/
theorem run_sending {err : MonitorError} (hs : vm.start = .returned)
    (hm : vm.monitor = .sending err) :
    ∀ as vm', vm.run as = some vm' → vm'.monitor = .sending err ∧ vm'.watcherOpen = vm.watcherOpen := by
  intro as
  induction as generalizing vm with
  | nil => intro vm' hr; cases hr; exact ⟨hm, rfl⟩
  | cons a rest ih =>
    intro vm' hr
    obtain ⟨t, ht, hr⟩ := Option.bind_eq_some.mp hr
    obtain ⟨hs', hm', hw'⟩ := step_sending hs hm ht
    rw [← hw']
    exact ih hs' hm' vm' hr

/-- With the socket folder present, QEMU exits at once and the exit watcher closes
`vm.Done`; the monitor's timer fires with `vm.Done` closed and its `select` takes the timer;
`Start`'s `select` takes `vm.Done` and returns. The monitor is then blocked on its send for
good, with its watcher open. -/
theorem monitor_leaked :
    ∃ vm, (VirtualMachine.new "/tmp/sockets" "vm" true).run
        [.start true, .start true, .start true, .qemuExit false, .exitWatcher, .monitor .timer,
          .start false] = some vm ∧
      vm.start = .returned ∧ vm.monitor = .sending .timeout ∧ vm.watcherOpen = true ∧
      ∀ as vm', vm.run as = some vm' → vm'.monitor = .sending .timeout ∧ vm'.watcherOpen = true :=
  ⟨_, rfl, rfl, rfl, rfl, run_sending rfl rfl⟩

end Reachable

end TaskclusterWorker.Qemu
