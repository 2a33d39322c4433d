import UhpSql.Debt
import UhpSql.ThreadPool

/-!
# The idle threads of the pool (`network/thread_pool.cc`)

`_MonitorRoutine` takes `waiters_ - pendingStopSignal_` for the number of idle threads and queues a
task that stops one for each beyond `maxIdleThread_`. A worker that takes a task counts `waiters_`
down, whatever the task is, and `pendingStopSignal_` goes down later, where a worker that was told
to stop leaves. So the signals are a debt that the workers that wait cover : a pass takes on the
idle threads but for `maxIdleThread_`, and these may find other tasks before the stop tasks are
served.

`unwrapped_iff` : the subtraction is one of natural numbers at each pass of a run exactly if between
any two passes `waiters_` falls by at most `maxIdleThread_` and one for each worker that leaves.
-/

namespace UhpSql

namespace ThreadPool

variable {τ : Type}

/-- A pass of the monitor subtracts no more than there is, and queues at most `waiters_` tasks, each
of which stops a worker. -/
def Unwrapped (p : ThreadPool τ) : PoolAction τ → Prop
  | .monitor => p.pendingStopSignal ≤ p.waiters ∧
      ∃ n ≤ p.waiters.toNat, p.monitor.tasks = p.tasks ++ List.replicate n .stop
  | _ => True

/-- Between any two passes of the monitor, `waiters_` falls by at most `maxIdleThread_` and one for
each worker that leaves. -/
def Paced (p : ThreadPool τ) (actions : List (PoolAction τ)) : Prop :=
  Transition.Paced step (fun p => p.waiters.toNat) PoolAction.isLeave .monitor
    p.maxIdleThread.toNat p actions

theorem monitor_tasks (p : ThreadPool τ) :
    p.monitor.tasks = p.tasks ++ List.replicate p.surplus .stop := by
  rw [monitor, stopWorkers_eq]
  rfl

theorem monitor_maxIdleThread (p : ThreadPool τ) : p.monitor.maxIdleThread = p.maxIdleThread := by
  rw [monitor, stopWorkers_eq]

theorem step_maxIdleThread {p p' : ThreadPool τ} {a : PoolAction τ} (hstep : p.step a = some p') :
    p'.maxIdleThread = p.maxIdleThread := by
  cases step_eq_some hstep with
  | execute =>
    rw [executeTask]
    split_ifs <;> rfl
  | monitor => exact monitor_maxIdleThread p
  | _ => rfl

/-- The counters count, and there are no more signals than `pendingStopSignal_` can hold. -/
structure Tracked (maxIdleThread : UInt32) (p : ThreadPool τ) : Prop where
  counted : p.Counted
  stops_lt : p.stops < UInt32.size
  maxIdleThread_eq : p.maxIdleThread = maxIdleThread

namespace Tracked

variable {maxIdleThread : UInt32} {p p' : ThreadPool τ}

theorem new : (new maxIdleThread : ThreadPool τ).Tracked maxIdleThread :=
  ⟨counted_new maxIdleThread, show 0 < UInt32.size by decide, rfl⟩

theorem toNat_pendingStopSignal (h : p.Tracked maxIdleThread) :
    p.pendingStopSignal.toNat = p.stops := by
  rw [h.counted.pendingStopSignal]
  exact UInt32.toNat_ofNat_of_lt' h.stops_lt

theorem le_waiters_iff (h : p.Tracked maxIdleThread) :
    p.pendingStopSignal ≤ p.waiters ↔ p.stops ≤ p.waiters.toNat := by
  rw [UInt32.le_iff_toNat_le, h.toNat_pendingStopSignal]

/-- A pass that does not go below 0 stops the idle threads but for `maxIdleThread_`. -/
theorem surplus_eq (h : p.Tracked maxIdleThread) (hle : p.stops ≤ p.waiters.toNat) :
    p.surplus = p.waiters.toNat - p.stops - maxIdleThread.toNat := by
  rw [surplus, UInt32.toNat_sub_of_le _ _ (h.le_waiters_iff.2 hle), h.toNat_pendingStopSignal,
    h.maxIdleThread_eq]

theorem unwrapped_monitor (h : p.Tracked maxIdleThread) :
    p.Unwrapped .monitor ↔ p.stops ≤ p.waiters.toNat := by
  constructor
  · intro hp
    exact h.le_waiters_iff.1 hp.1
  · intro hle
    have hsurplus : p.surplus ≤ p.waiters.toNat := by
      rw [h.surplus_eq hle]
      exact (Nat.sub_le _ _).trans (Nat.sub_le _ _)
    exact ⟨h.le_waiters_iff.2 hle, p.surplus, hsurplus, monitor_tasks p⟩

/-- A pass of the monitor takes on what is covered, but for `maxIdleThread_`. -/
theorem monitor (h : p.Tracked maxIdleThread) (hle : p.stops ≤ p.waiters.toNat) :
    p.monitor.Tracked maxIdleThread ∧
      p.monitor.stops = max p.stops (p.waiters.toNat - maxIdleThread.toNat) := by
  have hstops : p.monitor.stops = max p.stops (p.waiters.toNat - maxIdleThread.toNat) := by
    rw [stops_monitor, h.surplus_eq hle]
    omega
  have hwaiters : p.waiters.toNat - maxIdleThread.toNat < UInt32.size :=
    (Nat.sub_le _ _).trans_lt p.waiters.toNat_lt_size
  exact ⟨⟨h.counted.monitor, hstops ▸ max_lt h.stops_lt hwaiters,
    (monitor_maxIdleThread p).trans h.maxIdleThread_eq⟩, hstops⟩

/-- A worker that leaves pays for itself, and nothing else does. -/
theorem step {a : PoolAction τ} (h : p.Tracked maxIdleThread) (ha : a ≠ .monitor)
    (hstep : p.step a = some p') :
    p'.Tracked maxIdleThread ∧ p.stops = p'.stops + a.isLeave.toNat := by
  have hstops := stops_step hstep ha
  exact ⟨⟨h.counted.step hstep, (Nat.le_of_add_right_le hstops.ge).trans_lt h.stops_lt,
    (step_maxIdleThread hstep).trans h.maxIdleThread_eq⟩, hstops⟩

end Tracked

theorem unwrapped_of_ne {p : ThreadPool τ} {a : PoolAction τ} (ha : a ≠ .monitor) :
    p.Unwrapped a := by
  cases a with
  | monitor => exact absurd rfl ha
  | _ => trivial

/-- No pass of the monitor in a run wraps, and each queues at most `waiters_` tasks, exactly if the
workers that wait are not taken up faster than workers leave, but for `maxIdleThread_` of them. -/
theorem unwrapped_iff {maxIdleThread : UInt32} {actions : List (PoolAction τ)} {p : ThreadPool τ}
    (hrun : Transition.run step (new maxIdleThread) actions = some p) :
    Transition.Allowed step Unwrapped (new maxIdleThread) actions ↔
      (new maxIdleThread).Paced actions := by
  have hpass {p p' : ThreadPool τ} (h : p.Tracked maxIdleThread)
      (hstep : p.step .monitor = some p') :
      (p.Unwrapped .monitor ↔ p.stops ≤ p.waiters.toNat) ∧
        (p.stops ≤ p.waiters.toNat → p'.Tracked maxIdleThread ∧
          p'.stops = max p.stops (p.waiters.toNat - maxIdleThread.toNat)) := by
    obtain rfl := Option.some.inj hstep
    exact ⟨h.unwrapped_monitor, h.monitor⟩
  have hother {p p' : ThreadPool τ} {a : PoolAction τ} (h : p.Tracked maxIdleThread)
      (ha : a ≠ .monitor) (hstep : p.step a = some p') :
      p.Unwrapped a ∧ p'.Tracked maxIdleThread ∧ p.stops = p'.stops + a.isLeave.toNat :=
    ⟨unwrapped_of_ne ha, h.step ha hstep⟩
  -- A new pool has nothing to pay, so that only what the passes take on is left.
  exact (Transition.allowed_iff_paced rfl hpass hother .new hrun).trans
    (and_iff_right Transition.covers_zero)

/-- A worker that comes back from its task waits, and a pass finds it idle. -/
theorem unwrapped_iff_one :
    Transition.Allowed step Unwrapped (new 1)
        [.executeTask 1, .enterWait 0, .finishTask 0, .enterWait 0, .monitor] ↔
      (new 1).Paced [.executeTask 1, .enterWait 0, .finishTask 0, .enterWait 0, .monitor] :=
  have hrun : Transition.run step (new 1)
      [.executeTask 1, .enterWait 0, .finishTask 0, .enterWait 0, .monitor] = some _ := rfl
  unwrapped_iff hrun

/-- Two workers come back from their tasks and wait, and there are two tasks for them. -/
def twoBack (f g : τ) : List (PoolAction τ) :=
  [.executeTask f, .executeTask g, .enterWait 0, .enterWait 1, .finishTask 0, .finishTask 1,
    .enterWait 0, .enterWait 1, .executeTask f, .executeTask g]

/-- A pass counts on one of the two to stop, but they take the tasks : the next pass finds a stop
task in the queue and no worker that waits, and queues 4294967294 more. -/
theorem not_unwrapped_two : ∃ p : ThreadPool ℕ,
    Transition.run step (new 1) (twoBack 1 2 ++ [.monitor, .takeTask 0, .takeTask 1]) = some p ∧
      p.workers = [.running 1, .running 2] ∧ p.tasks = [.stop] ∧ ¬p.Unwrapped .monitor ∧
      p.monitor.tasks = p.tasks ++ List.replicate 4294967294 .stop := by
  have hmonitor :
      (⟨1, 0, [.waiting, .waiting], 2, [.execute 1, .execute 2]⟩ : ThreadPool ℕ).monitor =
        ⟨1, 1, [.waiting, .waiting], 2, [.execute 1, .execute 2, .stop]⟩ :=
    (stopWorkers_eq 2 _).trans rfl
  refine ⟨⟨1, 1, [.running 1, .running 2], 0, [.stop]⟩, ?_, rfl, rfl,
    fun h => absurd h.1 (by decide), monitor_tasks _⟩
  have hrun : Transition.run step (new 1) (twoBack 1 2 ++ [.monitor, .takeTask 0, .takeTask 1]) =
      Transition.run step
        (⟨1, 0, [.waiting, .waiting], 2, [.execute 1, .execute 2]⟩ : ThreadPool ℕ).monitor
        [.takeTask 0, .takeTask 1] := rfl
  rw [hrun, hmonitor]
  rfl

end ThreadPool

end UhpSql
