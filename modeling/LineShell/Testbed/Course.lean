/-
The course of something that a process does, in which other processes
have their turns. It goes on until it is done, or until it pauses: to
wait for something that another process has to bring about, or to let the
others go on.

At a pause the part of the machine that processes share is handed over,
and it is handed back, as the others have left it, to go on (`resume`).
A pause says whether anything has been done since the last one (`moved`).
When nobody has moved, nobody will.

Courses are finite trees, since the loops of all programs are bounded; so
going through one to its end (`Course.finish`) is recursion on the course.
-/
import LineShell.Testbed.System

namespace LineShell.Host

/-- The course of something that gives a value in the end. -/
inductive Course (α : Type) where
  | done (a : α)
  | pause (moved : Bool) (system : System) (resume : System → Course α)

namespace Course

variable {α β : Type}

/-- What comes after a course. -/
def andThen (c : Course α) (next : α → Course β) : Course β :=
  match c with
  | .done a => next a
  | .pause moved system resume => .pause moved system fun s => (resume s).andThen next

/-- What comes after a course, at once if the course is done. -/
@[inline]
def follow (c : Course α) (next : α → Course β) : Course β :=
  match c with
  | .done a => next a
  | .pause moved system resume => .pause moved system fun s => (resume s).andThen next

instance : Monad Course where
  pure := done
  bind := follow

theorem follow_eq_andThen (c : Course α) (next : α → Course β) :
    c.follow next = c.andThen next := by
  cases c <;> rfl

theorem andThen_done (c : Course α) : c.andThen done = c := by
  induction c with
  | done a => rfl
  | pause moved system resume ih => exact congrArg _ (funext ih)

theorem andThen_assoc {γ : Type} (c : Course α) (f : α → Course β) (g : β → Course γ) :
    (c.andThen f).andThen g = c.andThen fun a => (f a).andThen g := by
  induction c with
  | done a => rfl
  | pause moved system resume ih => exact congrArg _ (funext ih)

instance : LawfulMonad Course :=
  LawfulMonad.mk' Course
    (fun c => (follow_eq_andThen c done).trans (andThen_done c))
    (fun _ _ => rfl)
    (fun c f g => by
      change (c.follow f).follow g = c.follow fun a => (f a).follow g
      simp only [follow_eq_andThen, andThen_assoc])

/-- Goes through a course while nobody else is there. There is no end if
it waits for what nobody does; then the system is given as it is. -/
def finish : Course α → Except System α
  | .done a => .ok a
  | .pause true system resume => (resume system).finish
  | .pause false system _ => .error system

end Course

/-- What a process that has ended leaves behind: the system, how it ended,
and the processes it had started that go on. -/
structure Departure where
  system : System
  ending : Ending
  orphans : List (System → Course Departure)

/-- Lets processes have their turns, as long as one of them moves or for so
many rounds; gives the system as they leave it. -/
def settle : Nat → System → List (System → Course Departure) → System
  | 0, system, _ => system
  | _ + 1, system, [] => system
  | rounds + 1, system, processes =>
    let (system, left, moved) := processes.foldl (fun (system, left, moved) resume =>
      match resume system with
      | .pause movedNow system resume => (system, left ++ [resume], moved || movedNow)
      | .done departure => (departure.system, left ++ departure.orphans, true))
      (system, [], false)
    if moved then settle rounds system left else system

end LineShell.Host
