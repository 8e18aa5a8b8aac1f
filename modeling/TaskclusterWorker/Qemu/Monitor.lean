import Mathlib.Data.List.Basic

/-!
# The readiness monitor of `waitForSockets` (`engines/qemu/vm/vm.go`)

`waitForSockets` starts a goroutine that watches the VM's socket folder until both
`vnc.sock` and `qmp.sock` have been created. Each pass of its loop `select`s on the
watcher's events, `vm.Done`, a fresh `time.After(90 * time.Second)`, and the watcher's
errors.

* `monitorStep` — one pass of the loop on what its `select` took; the interleaving model of
  the VM (`Qemu.VirtualMachine`) and the timed model below share it.
* `monitorRun` — the monitor over a timed input trace: every pass arms a new 90 s timer.

What it does, over every trace:

* `monitorRun_ne_ready` — on the events fsnotify delivers, whose `Name` is the watched
  folder joined with the file name, the monitor never reports the sockets ready: it compares
  `e.Name` with the bare file names;
* `monitorRun_rearmed` — events that do not complete readiness, each within 90 s of the one
  before, postpone the timeout to 90 s after the last of them.
-/

namespace TaskclusterWorker.Qemu

/-- `vncSocketFile`. -/
def vncSocketFile : String := "vnc.sock"

/-- `qmpSocketFile`. -/
def qmpSocketFile : String := "qmp.sock"

/-- `filepath.Join(dir, name)`, for a clean folder and a plain file name. -/
def joinPath (dir name : String) : String := dir ++ "/" ++ name

/-- `fsnotify.Create`, the lowest bit of the `fsnotify.Op` mask. -/
def opCreate : UInt32 := 1

/-- `fsnotify.Chmod`, the fifth bit of the `fsnotify.Op` mask. -/
def opChmod : UInt32 := 16

/-- What arrives on a channel the monitor reads. -/
inductive MonitorInput
  /-- `e := <-w.Events`: an event's `Op` mask and `Name`. -/
  | event (op : UInt32) (name : String)
  /-- `<-vm.Done`: the VM is done. -/
  | done
  /-- `err := <-w.Errors`. -/
  | error
  deriving DecidableEq, Repr

/-- The branch the monitor's `select` takes: a channel's input, or its 90 s timer. -/
inductive Selected
  | input (i : MonitorInput)
  | timer
  deriving DecidableEq, Repr

/-- The errors the monitor sends on `socketsReady`. -/
inductive MonitorError
  /-- "vnc and qmp sockets didn't show up in 90s" -/
  | timeout
  /-- "Error monitoring file system, error: ..." -/
  | watch
  deriving DecidableEq, Repr

/-- Where a pass of the loop leads. -/
inductive MonitorOutcome
  /-- The loop goes on with these flags. -/
  | waiting (vncReady qmpReady : Bool)
  /-- Both sockets seen: `w.Close()`, `close(done)`. -/
  | ready
  /-- `vm.Done` closed: `w.Close()`, return. -/
  | stopped
  /-- `done <- err`, then `w.Close()`, return. -/
  | report (err : MonitorError)
  deriving DecidableEq, Repr

/-- One pass of the monitor's loop, on the branch its `select` took. The loop condition
`!vncReady || !qmpReady` is checked after the flags change. -/
def monitorStep (vncReady qmpReady : Bool) : Selected → MonitorOutcome
  | .input (.event op name) =>
    let vnc := vncReady || (op == opCreate && name == vncSocketFile)
    let qmp := qmpReady || (op == opCreate && name == qmpSocketFile)
    if vnc && qmp then .ready else .waiting vnc qmp
  | .input .done => .stopped
  | .timer => .report .timeout
  | .input .error => .report .watch

/-- The monitor over a timed trace of inputs (seconds since it started, in order). A pass
that begins at `now` arms `time.After(90s)`; an input at `t < now + 90` is taken first,
otherwise the timer fires at `now + 90`. The outcome, and when it happened. -/
def monitorRun (now : Nat) (vncReady qmpReady : Bool) :
    List (Nat × MonitorInput) → MonitorOutcome × Nat
  | [] => (.report .timeout, now + 90)
  | (t, i) :: rest =>
    if now + 90 ≤ t then (.report .timeout, now + 90)
    else
      match monitorStep vncReady qmpReady (.input i) with
      | .waiting vnc qmp => monitorRun t vnc qmp rest
      | o => (o, t)

/-! ## What the monitor does on every trace -/

/-- An event fsnotify delivers names the watched folder joined with the file: never a bare
file name. -/
theorem joinPath_ne_socketFile (dir name : String) :
    joinPath dir name ≠ vncSocketFile ∧ joinPath dir name ≠ qmpSocketFile := by
  have slash : '/' ∈ (joinPath dir name).data := by simp [joinPath]
  constructor <;> intro h <;> rw [h] at slash <;> revert slash <;> decide

/-- An event for a path under `dir` leaves the flags as they are. -/
theorem monitorStep_joinPath (vncReady qmpReady : Bool) (op : UInt32) (dir name : String) :
    monitorStep vncReady qmpReady (.input (.event op (joinPath dir name))) =
      if vncReady && qmpReady then .ready else .waiting vncReady qmpReady := by
  obtain ⟨hv, hq⟩ := joinPath_ne_socketFile dir name
  simp [monitorStep, beq_eq_false_iff_ne.mpr hv, beq_eq_false_iff_ne.mpr hq]

/-- **Never ready.** On any trace whose events name paths under the socket folder, as
fsnotify's do, the monitor started with neither socket seen never reports them ready. -/
theorem monitorRun_ne_ready (dir : String) (now : Nat) (trace : List (Nat × MonitorInput))
    (hnames : ∀ p ∈ trace, ∀ op name, p.2 = .event op name → ∃ file, name = joinPath dir file) :
    (monitorRun now false false trace).1 ≠ .ready := by
  induction trace generalizing now with
  | nil => simp [monitorRun]
  | cons p rest ih =>
    obtain ⟨t, i⟩ := p
    have hrest := fun now => ih now (fun q hq => hnames q (List.mem_cons_of_mem _ hq))
    unfold monitorRun
    split
    · simp
    · cases i with
      | event op name =>
        obtain ⟨file, rfl⟩ := hnames _ (List.mem_cons_self _ _) op name rfl
        simpa [monitorStep_joinPath] using hrest t
      | done => simp [monitorStep]
      | error => simp [monitorStep]

/-- Both sockets of `/tmp/sockets/vm` created at once, named as fsnotify names them. -/
theorem monitorRun_ne_ready_created :
    (∀ p ∈ [(1, MonitorInput.event opCreate (joinPath "/tmp/sockets/vm" vncSocketFile)),
        (2, MonitorInput.event opCreate (joinPath "/tmp/sockets/vm" qmpSocketFile))],
      ∀ op name, p.2 = .event op name → ∃ file, name = joinPath "/tmp/sockets/vm" file) ∧
    (monitorRun 0 false false
      [(1, .event opCreate (joinPath "/tmp/sockets/vm" vncSocketFile)),
        (2, .event opCreate (joinPath "/tmp/sockets/vm" qmpSocketFile))]).1 ≠ .ready :=
  (fun h => ⟨h, monitorRun_ne_ready "/tmp/sockets/vm" 0 _ h⟩) <| by
    intro p hp op name he
    simp only [List.mem_cons, List.mem_singleton, List.not_mem_nil, or_false] at hp
    rcases hp with rfl | rfl <;> cases he <;> exact ⟨_, rfl⟩

/-- An event that completes no socket: not a `Create` of a bare socket file name. -/
def MonitorInput.Idle : MonitorInput → Prop
  | .event op name => ¬ (op = opCreate ∧ (name = vncSocketFile ∨ name = qmpSocketFile))
  | _ => False

/-- **The timer is re-armed.** Events that complete no socket, each arriving within 90 s of
the one before (the first within 90 s of `now`), keep the monitor waiting: it reports the
timeout 90 s after the last of them, however long the trace. -/
theorem monitorRun_rearmed (now : Nat) (trace : List (Nat × MonitorInput))
    (hidle : ∀ p ∈ trace, p.2.Idle)
    (hgaps : List.Chain (fun a b => b < a + 90) now (trace.map Prod.fst)) :
    monitorRun now false false trace = (.report .timeout, (now :: trace.map Prod.fst).getLast (by simp) + 90) := by
  induction trace generalizing now with
  | nil => simp [monitorRun]
  | cons p rest ih =>
    obtain ⟨t, i⟩ := p
    obtain ⟨hgap, hrest⟩ := List.chain_cons.mp hgaps
    cases i with
    | event op name =>
      have hi : ¬ (op = opCreate ∧ (name = vncSocketFile ∨ name = qmpSocketFile)) :=
        hidle _ (List.mem_cons_self _ _)
      have hstep : monitorStep false false (.input (.event op name)) = .waiting false false := by
        by_cases hop : op = opCreate <;> simp_all [monitorStep]
      simp only [monitorRun, if_neg (show ¬ now + 90 ≤ t by simpa using hgap), hstep]
      rw [ih t (fun q hq => hidle q (List.mem_cons_of_mem _ hq)) hrest]
      simp
    | done => exact absurd (hidle _ (List.mem_cons_self _ _)) id
    | error => exact absurd (hidle _ (List.mem_cons_self _ _)) id

/-- Two `Chmod` events on the folder, 60 s apart: the timeout moves to 210 s. -/
theorem monitorRun_rearmed_chmod :
    (∀ p ∈ [(60, MonitorInput.event opChmod "/tmp/sockets/vm"),
        (120, MonitorInput.event opChmod "/tmp/sockets/vm")], p.2.Idle) ∧
    List.Chain (fun a b => b < a + 90) 0 [60, 120] ∧
    monitorRun 0 false false
        [(60, .event opChmod "/tmp/sockets/vm"), (120, .event opChmod "/tmp/sockets/vm")] =
      (.report .timeout, 210) := by
  have hidle : ∀ p ∈ [(60, MonitorInput.event opChmod "/tmp/sockets/vm"),
      (120, MonitorInput.event opChmod "/tmp/sockets/vm")], p.2.Idle := by
    intro p hp
    simp only [List.mem_cons, List.mem_singleton, List.not_mem_nil, or_false] at hp
    rcases hp with rfl | rfl <;> exact fun h => absurd h.1 (by decide)
  have hgaps : List.Chain (fun a b => b < a + 90) 0 [60, 120] := by simp
  exact ⟨hidle, hgaps, monitorRun_rearmed 0 _ hidle hgaps⟩

/-- Both sockets of the folder `/tmp/sockets/vm` are created within 90 s, named as fsnotify
names them, yet the monitor reports the timeout at 92 s; and 90 s pass from its start
without either socket, yet two `Chmod` events on the folder put the timeout off to 210 s. -/
theorem monitorRun_diverges :
    monitorRun 0 false false
        [(1, .event opCreate (joinPath "/tmp/sockets/vm" vncSocketFile)),
          (2, .event opCreate (joinPath "/tmp/sockets/vm" qmpSocketFile))] =
      (.report .timeout, 92) ∧
    monitorRun 0 false false
        [(60, .event opChmod "/tmp/sockets/vm"), (120, .event opChmod "/tmp/sockets/vm")] =
      (.report .timeout, 210) := by
  decide

end TaskclusterWorker.Qemu
