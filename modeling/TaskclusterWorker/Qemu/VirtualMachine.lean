import TaskclusterWorker.Qemu.Monitor

/-!
# A QEMU virtual machine (`engines/qemu/vm/vm.go`)

A `VirtualMachine` as a transition system over every interleaving of:

* `Start`, on its caller's goroutine: `waitForSockets`, `vm.qemu.Start()`, the final
  `select` on `socketsReady` and `vm.Done`, and on a readiness error the `vm.Error` update
  and `vm.Kill()`;
* the readiness monitor `waitForSockets` starts (its passes are `monitorStep`);
* QEMU itself, which exits at any time once started, and the exit watcher `Start` launches;
* `Kill` calls once `Start` has returned, and `SetHTTPHandler` calls at any time.

Every critical section of `vm.m` is one step. The exit watcher's closes `vm.Done` last,
so the goroutines that read `vm.Done` without the lock (`Kill`, the monitor, `Start`'s
`select`) find every release of that section already made. The stdout and stderr
forwarders only log.

`vm.log` records what happens to the network and the image, the socket folder's removal,
and the closing of `vm.Done`, in order.
-/

namespace TaskclusterWorker.Qemu

/-- The errors `vm.Error` holds. -/
inductive VmError
  /-- "Failed to setup file system monitoring, error: ..." (`fsnotify.NewWatcher()`). -/
  | watcherSetup
  /-- "Failed to monitor socket folder, error: ..." (`w.Add(vm.socketFolder)`). -/
  | monitorFolder
  /-- The error of `vm.qemu.Start()`. -/
  | qemuStart
  /-- An error the readiness monitor sent on `socketsReady`. -/
  | monitor (err : MonitorError)
  /-- The error of `vm.qemu.Wait()`: QEMU failed, or was killed. -/
  | qemuExit (killed : Bool)
  deriving DecidableEq, Repr

/-- What happens to the VM's resources, and the closing of `vm.Done`. -/
inductive VmEvent
  /-- `vm.network.SetHandler(handler)`. -/
  | setHandler
  /-- `vm.network.Release()`. -/
  | releaseNetwork
  /-- `vm.image.Release()`. -/
  | releaseImage
  /-- `os.RemoveAll(vm.socketFolder)`. -/
  | removeFolder
  /-- `close(vm.qemuDone)`. -/
  | closeDone
  deriving DecidableEq, Repr

/-- Where `Start` is. -/
inductive StartPc
  | idle
  /-- `vm.waitForSockets()`. -/
  | waitForSockets
  /-- `vm.Error = vm.qemu.Start()`. -/
  | qemuStart
  /-- The final `select` on `socketsReady` and `vm.Done`. -/
  | select
  /-- `socketsReady` delivered an error: lock, test `vm.Error`, unlock. -/
  | readinessError (err : MonitorError)
  /-- `vm.Kill()`. -/
  | kill
  | returned
  deriving DecidableEq, Repr

/-- Where the readiness monitor is. -/
inductive MonitorPc
  | notStarted
  /-- The loop, with the flags `vncReady` and `qmpReady`. -/
  | loop (vncReady qmpReady : Bool)
  /-- `done <- err`: blocked until `Start`'s `select` receives it. -/
  | sending (err : MonitorError)
  /-- About to `w.Close()` (and `close(done)` when `ready`) and return. -/
  | closing (ready : Bool)
  | finished
  deriving DecidableEq, Repr

/-- The QEMU process. -/
inductive QemuPc
  | notStarted
  /-- Running; `killed` once `Process.Kill()` has been sent. -/
  | running (killed : Bool)
  /-- Exited; what `vm.qemu.Wait()` returns. -/
  | exited (werr : Option VmError)
  deriving DecidableEq, Repr

/-- The exit watcher: `vm.qemu.Wait()`, then its critical section. -/
inductive WatcherPc
  | notStarted
  | waitQemu
  | finished
  deriving DecidableEq, Repr

/-- The VM: the fields its goroutines share, their program counters, and the log. -/
structure VirtualMachine where
  /-- `vm.network != nil`. -/
  network : Bool
  /-- `vm.image != nil`. -/
  image : Bool
  socketFolder : String
  /-- A directory named `socketFolder` exists. -/
  folderExists : Bool
  error : Option VmError
  /-- `vm.Done` is closed. -/
  done : Bool
  /-- `socketsReady` is closed. -/
  socketsReadyClosed : Bool
  /-- The fsnotify watcher is open. -/
  watcherOpen : Bool
  start : StartPc
  monitor : MonitorPc
  qemu : QemuPc
  exitWatcher : WatcherPc
  log : List VmEvent
  deriving DecidableEq, Repr

namespace VirtualMachine

/-- `NewVirtualMachine`: the VM's socket folder `filepath.Join(socketFolder, slugid.Nice())`
is named but not created; `folderExists` says whether a directory of that name exists. -/
def new (socketFolder slug : String) (folderExists : Bool) : VirtualMachine where
  network := true
  image := true
  socketFolder := joinPath socketFolder slug
  folderExists := folderExists
  error := none
  done := false
  socketsReadyClosed := false
  watcherOpen := false
  start := .idle
  monitor := .notStarted
  qemu := .notStarted
  exitWatcher := .notStarted
  log := []

/-- `VNCSocket()`: under `vm.m`, the empty string once the folder is cleared. -/
def vncSocket (vm : VirtualMachine) : String :=
  if vm.socketFolder = "" then "" else joinPath vm.socketFolder vncSocketFile

/-- The body of `Kill()`: nothing once `vm.Done` is closed, else `Process.Kill()`. -/
def kill (vm : VirtualMachine) : VirtualMachine :=
  if vm.done then vm
  else
    match vm.qemu with
    | .running _ => { vm with qemu := .running true }
    | _ => vm

/-- `Kill()` touches nothing but QEMU. -/
theorem kill_eq (vm : VirtualMachine) : vm.kill = { vm with qemu := vm.kill.qemu } := by
  unfold kill; split
  · rfl
  · split <;> rfl

/-- `Start`'s next step. `ok` is the outcome of the call the step makes
(`fsnotify.NewWatcher()`, `vm.qemu.Start()`), and at the `select` the branch it takes:
`socketsReady` when `true`, `vm.Done` when `false`. -/
def startStep (vm : VirtualMachine) (ok : Bool) : Option VirtualMachine :=
  match vm.start with
  | .idle => some { vm with start := .waitForSockets }
  | .waitForSockets =>
    if ok ∧ vm.folderExists then
      some { vm with monitor := .loop false false, watcherOpen := true, start := .qemuStart }
    else
      -- `w.Add` fails on a missing folder; a watcher `NewWatcher` made is not closed
      some { vm with
        watcherOpen := ok
        error := some (if ok then .monitorFolder else .watcherSetup)
        done := true
        log := vm.log ++ [.closeDone]
        start := .returned }
  | .qemuStart =>
    if ok then some { vm with qemu := .running false, exitWatcher := .waitQemu, start := .select }
    else
      some { vm with
        error := some .qemuStart
        done := true
        log := vm.log ++ [.closeDone]
        start := .returned }
  | .select =>
    if ok then
      match vm.monitor with
      | .sending err => some { vm with monitor := .closing false, start := .readinessError err }
      | _ => if vm.socketsReadyClosed then some { vm with start := .returned } else none
    else if vm.done then some { vm with start := .returned } else none
  | .readinessError err =>
    some { vm with
      error := if vm.error.isSome then some (.monitor err) else vm.error
      start := .kill }
  | .kill => some { vm.kill with start := .returned }
  | .returned => none

/-- The monitor's `select` takes `branch`; `<-vm.Done` only once it is closed. -/
def monitorSelect (vm : VirtualMachine) (branch : Selected) : Option VirtualMachine :=
  match vm.monitor with
  | .loop vncReady qmpReady =>
    if branch = .input .done ∧ vm.done = false then none
    else
      match monitorStep vncReady qmpReady branch with
      | .waiting vnc qmp => some { vm with monitor := .loop vnc qmp }
      | .ready => some { vm with monitor := .closing true }
      | .stopped => some { vm with monitor := .closing false }
      | .report err => some { vm with monitor := .sending err }
  | _ => none

/-- The monitor's `w.Close()`, `close(done)` when the sockets are ready, and return. -/
def monitorClose (vm : VirtualMachine) : Option VirtualMachine :=
  match vm.monitor with
  | .closing ready =>
    some { vm with
      watcherOpen := false
      socketsReadyClosed := vm.socketsReadyClosed || ready
      monitor := .finished }
  | _ => none

/-- QEMU exits: killed, failed, or with status 0. -/
def qemuExit (vm : VirtualMachine) (failed : Bool) : Option VirtualMachine :=
  match vm.qemu with
  | .running killed =>
    some { vm with
      qemu := .exited
        (if killed then some (.qemuExit true) else if failed then some (.qemuExit false) else none) }
  | _ => none

/-- The exit watcher's critical section, once QEMU has exited. -/
def exitWatcherStep (vm : VirtualMachine) : Option VirtualMachine :=
  match vm.exitWatcher, vm.qemu with
  | .waitQemu, .exited werr =>
    some { vm with
      error := if vm.error.isNone then werr else vm.error
      log := vm.log ++ [.releaseNetwork, .releaseImage, .removeFolder, .closeDone]
      network := false
      image := false
      folderExists := false
      socketFolder := ""
      done := true
      exitWatcher := .finished }
  | _, _ => none

/-- `SetHTTPHandler`: under `vm.m`, the handler goes to a network not yet released. -/
def setHTTPHandler (vm : VirtualMachine) : VirtualMachine :=
  if vm.network then { vm with log := vm.log ++ [.setHandler] } else vm

end VirtualMachine

/-- The actors of a VM. -/
inductive VmAction
  /-- `Start`'s next step, with the outcome or branch `ok` (see `startStep`). -/
  | start (ok : Bool)
  /-- The monitor's `select` takes this branch. -/
  | monitor (branch : Selected)
  /-- The monitor closes its watcher and returns. -/
  | monitorClose
  /-- QEMU exits; `failed` when not killed and with a failing status. -/
  | qemuExit (failed : Bool)
  | exitWatcher
  /-- A `Kill()` call, once `Start` has returned. -/
  | kill
  /-- A `SetHTTPHandler` call. -/
  | setHTTPHandler
  deriving DecidableEq, Repr

/-- One step of the VM; `none` when the actor is blocked or has finished. -/
def VirtualMachine.step (vm : VirtualMachine) : VmAction → Option VirtualMachine
  | .start ok => vm.startStep ok
  | .monitor branch => vm.monitorSelect branch
  | .monitorClose => vm.monitorClose
  | .qemuExit failed => vm.qemuExit failed
  | .exitWatcher => vm.exitWatcherStep
  | .kill => if vm.start = .returned then some vm.kill else none
  | .setHTTPHandler => some vm.setHTTPHandler

/-- A schedule run from a state; `none` if some actor of it is blocked when scheduled. -/
def VirtualMachine.run (vm : VirtualMachine) : List VmAction → Option VirtualMachine
  | [] => some vm
  | a :: rest => (vm.step a).bind (·.run rest)

/-- The states the VM `NewVirtualMachine(socketFolder, ...)` makes, with the slug it draws,
reaches under any interleaving. -/
inductive VmReachable (socketFolder slug : String) (folderExists : Bool) :
    VirtualMachine → Prop
  | new : VmReachable socketFolder slug folderExists
      (VirtualMachine.new socketFolder slug folderExists)
  | step {vm vm' : VirtualMachine} (a : VmAction) :
      VmReachable socketFolder slug folderExists vm → vm.step a = some vm' →
      VmReachable socketFolder slug folderExists vm'

section Run

variable {socketFolder slug : String} {folderExists : Bool}

theorem VmReachable.run {vm vm' : VirtualMachine}
    (h : VmReachable socketFolder slug folderExists vm) (as : List VmAction)
    (hr : vm.run as = some vm') : VmReachable socketFolder slug folderExists vm' := by
  induction as generalizing vm with
  | nil => cases hr; exact h
  | cons a rest ih =>
    obtain ⟨t, ht, hr⟩ := Option.bind_eq_some.mp hr
    exact ih (h.step a ht) hr

end Run

end TaskclusterWorker.Qemu
