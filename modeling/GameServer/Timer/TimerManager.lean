import Mathlib.Algebra.Order.Ring.Int
import Mathlib.Data.List.Basic

/-!
# TimerManager

`src/timer/timer_manager.cpp`. One thread polls the tasks and runs the callbacks of those that are
due, one after the other; what a callback does is left to its user. Times are milliseconds of the
steady clock.
-/

namespace Game

/-- A periodic task. -/
structure TimerTask (C : Type) where
  intervalMs : Int
  callback : C
  nextRun : Int

/-- `tasks_`, with the callbacks that the present round of `Loop` has still to run. -/
structure TimerManager (C : Type) where
  tasks : List (TimerTask C) := []
  callbacks : List C := []

variable {C : Type}

/-- A task after a poll. -/
def TimerTask.poll (now : Int) (task : TimerTask C) : TimerTask C :=
  if task.nextRun ≤ now then { task with nextRun := now + task.intervalMs } else task

namespace TimerManager

/-- `AddTimer` -/
def addTimer (now intervalMs : Int) (callback : C) (m : TimerManager C) : TimerManager C :=
  { m with tasks := m.tasks ++ [{ intervalMs, callback, nextRun := now + intervalMs }] }

/-- The locked part of a round of `Loop`. -/
def poll (now : Int) (m : TimerManager C) : TimerManager C :=
  { tasks := m.tasks.map (TimerTask.poll now)
    callbacks := (m.tasks.filter fun task => task.nextRun ≤ now).map (·.callback) }

/-- The next step of the timer thread, with the callback that it runs. -/
def next (now : Int) (m : TimerManager C) : Option C × TimerManager C :=
  match m.callbacks with
  | [] => (none, m.poll now)
  | callback :: callbacks => (some callback, { m with callbacks := callbacks })

end TimerManager
end Game
