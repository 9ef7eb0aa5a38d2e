import Mathlib.Logic.Function.Basic

/-!
# Periodic timers

A timer that is registered is due one interval later.  It fires at the first tick
when it is due, and is then due one interval later again, until it is not
registered any more.
-/

namespace PeriodicTimers

universe u

/-- A timer that is registered. -/
structure Registered where
  /-- It fires at the first tick at this time or later. -/
  due : Nat
  /-- It has fired since it was registered. -/
  hasFired : Bool
  deriving DecidableEq, Repr

/-- Timers, at the time of the last tick. -/
structure Timers (Timer : Type u) where
  now : Nat
  registered : Timer → Option Registered := fun _ => none
  /-- What the last tick has fired. -/
  fired : Timer → Bool := fun _ => false

namespace Timers

variable {Timer : Type u} (interval : Timer → Nat)

/-- A timer is registered, or registered anew. -/
def register [DecidableEq Timer] (timers : Timers Timer) (timer : Timer) :
    Timers Timer :=
  { timers with
    registered := Function.update timers.registered timer
      (some ⟨timers.now + interval timer, false⟩) }

/-- Some timers are not registered any more. -/
def unregister (timers : Timers Timer) (selected : Timer → Bool) :
    Timers Timer :=
  { timers with
    registered := fun timer =>
      if selected timer then none else timers.registered timer }

/-- A timer fires at a tick at this time. -/
def isDue (timers : Timers Timer) (time : Nat) (timer : Timer) : Bool :=
  match timers.registered timer with
  | some registered => registered.due ≤ time
  | none => false

/-- A tick fires what is due. -/
def tick (timers : Timers Timer) (time : Nat) : Timers Timer where
  now := time
  registered timer :=
    if timers.isDue time timer then some ⟨time + interval timer, true⟩
    else timers.registered timer
  fired := timers.isDue time

variable {interval} {timers : Timers Timer} {timer : Timer}

theorem isDue_iff {time : Nat} :
    timers.isDue time timer = true ↔
      ∃ registered, timers.registered timer = some registered ∧
        registered.due ≤ time := by
  unfold isDue
  cases timers.registered timer with
  | none => simp
  | some registered => simp

@[simp] theorem registered_register_self [DecidableEq Timer] :
    (timers.register interval timer).registered timer =
      some ⟨timers.now + interval timer, false⟩ :=
  Function.update_self ..

@[simp] theorem registered_register_of_ne [DecidableEq Timer]
    {other : Timer} (different : other ≠ timer) :
    (timers.register interval timer).registered other =
      timers.registered other :=
  Function.update_of_ne different ..

theorem registered_tick_of_isDue
    {time : Nat} (due : timers.isDue time timer = true) :
    (timers.tick interval time).registered timer =
      some ⟨time + interval timer, true⟩ :=
  if_pos due

theorem registered_tick_of_not_isDue
    {time : Nat} (early : ¬ timers.isDue time timer = true) :
    (timers.tick interval time).registered timer = timers.registered timer :=
  if_neg early

/-- A tick registers no timer, and every timer stays registered. -/
theorem isSome_registered_tick (time : Nat) :
    ((timers.tick interval time).registered timer).isSome =
      (timers.registered timer).isSome := by
  by_cases due : timers.isDue time timer = true
  · obtain ⟨registered, found, -⟩ := isDue_iff.mp due
    rw [registered_tick_of_isDue due, found]
    rfl
  · rw [registered_tick_of_not_isDue due]

theorem isSome_registered_unregister (selected : Timer → Bool) :
    ((timers.unregister selected).registered timer).isSome = true ↔
      selected timer = false ∧ (timers.registered timer).isSome = true := by
  cases chosen : selected timer <;> simp [unregister, chosen]

end Timers

end PeriodicTimers
