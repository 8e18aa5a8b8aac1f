import Mathlib.Data.List.Basic

/-!
# `runtime/atomics`: the drainable wait group and the one-shot gate

The native sandbox guards its sessions with an `atomics.WaitGroup` and its resolution with
an `atomics.Once`. Neither package is in this tree, so both are modelled from the spec:

* `WaitGroup` — §4.2 (Session Registry) and §9: a counter and a "closed for new entries"
  flag under one lock. `Add` fails once draining has begun, `Done` decrements, `Drain`
  closes intake without blocking, `Wait` blocks until the count is zero.
* `Once` — §5 and §9: a gate that admits exactly one executor and makes every other caller
  of `Do` (and every caller of `Wait`) wait until that executor has finished.

Blocking operations are not functions here: the step relations of the callers carry them
as guards (`Wait` may return exactly when `count = 0`, `Once.Wait` when the gate is `done`).
-/

namespace TaskclusterWorker.Atomics

/-- Modelled from the spec: `atomics.WaitGroup` (§4.2, §9). The count is an `Int`, as in
Go, so that "never negative" is a statement about the model and not a property of its
type. -/
structure WaitGroup where
  count : Int
  draining : Bool
  deriving DecidableEq, Repr

namespace WaitGroup

/-- The zero value: accepting, nothing counted. -/
def empty : WaitGroup := ⟨0, false⟩

/-- `Add(1)`: refused (`none`) once draining has begun. -/
def add (wg : WaitGroup) : Option WaitGroup :=
  if wg.draining then none else some { wg with count := wg.count + 1 }

/-- `Done()`: one counted session has finished. -/
def done (wg : WaitGroup) : WaitGroup := { wg with count := wg.count - 1 }

/-- `Drain()`: stop accepting new sessions, without blocking. -/
def drain (wg : WaitGroup) : WaitGroup := { wg with draining := true }

@[simp] theorem add_eq_none (wg : WaitGroup) : wg.add = none ↔ wg.draining = true := by
  unfold add; split <;> simp_all

@[simp] theorem add_eq_some (wg wg' : WaitGroup) :
    wg.add = some wg' ↔ wg.draining = false ∧ wg' = ⟨wg.count + 1, false⟩ := by
  rcases wg with ⟨c, _ | _⟩ <;> simp only [add, if_true, reduceCtorEq, false_and, Option.some.injEq,
    true_and, Bool.false_eq_true, if_false]
  exact eq_comm

@[simp] theorem done_count (wg : WaitGroup) : wg.done.count = wg.count - 1 := rfl
@[simp] theorem done_draining (wg : WaitGroup) : wg.done.draining = wg.draining := rfl
@[simp] theorem drain_count (wg : WaitGroup) : wg.drain.count = wg.count := rfl
@[simp] theorem drain_draining (wg : WaitGroup) : wg.drain.draining = true := rfl

end WaitGroup

/-- Modelled from the spec: `atomics.Once` (§5, §9). `running b` holds the body of the one
admitted executor while it runs; `done b` keeps it once it has returned. -/
inductive Once (β : Type) where
  | idle
  | running (body : β)
  | done (body : β)
  deriving DecidableEq, Repr

namespace Once

variable {β : Type}

/-- `Do(body)` entered: the first caller is admitted and its body starts; any later caller
leaves the gate as it is (and waits for `done`). -/
def start (o : Once β) (body : β) : Once β :=
  match o with
  | .idle => .running body
  | o => o

/-- `Wait()` (and a losing `Do`) may return. -/
def isDone : Once β → Bool
  | .done _ => true
  | _ => false

@[simp] theorem start_idle (b : β) : (idle : Once β).start b = .running b := rfl
@[simp] theorem start_running (a b : β) : (running a).start b = .running a := rfl
@[simp] theorem start_done (a b : β) : (done a).start b = .done a := rfl
@[simp] theorem isDone_done (a : β) : (done a).isDone = true := rfl
@[simp] theorem isDone_idle : (idle : Once β).isDone = false := rfl
@[simp] theorem isDone_running (a : β) : (running a).isDone = false := rfl

theorem start_ne_idle (o : Once β) (b : β) : o.start b ≠ .idle := by
  cases o <;> simp

end Once

end TaskclusterWorker.Atomics
