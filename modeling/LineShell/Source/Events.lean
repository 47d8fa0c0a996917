/-
A source with fixed contents: lines and faults in the order in which they
come, and then the end. It shows no prompt but remembers those that it
was to show.
-/
import LineShell.Source

namespace LineShell.Source

/-- A source that gives these events, each once. -/
structure Events where
  events : List (Except Fault String)
  /-- The prompts it was to show, the latest first. -/
  prompts : List String := []

namespace Events

/-- Gives the next event. -/
def next (prompt : String) (source : Events) : Reading × Events :=
  let prompts := prompt :: source.prompts
  match source.events with
  | [] => (.finished, { source with prompts })
  | .ok line :: events => (.line line, { events, prompts })
  | .error fault :: events => (.failed fault, { events, prompts })

instance : Source Events where
  read prompt source console :=
    let (reading, source) := source.next prompt
    (reading, source, console)
  size source := source.events.length
  size_lt prompt source console := by
    rcases source with ⟨_ | ⟨_ | _, _⟩, prompts⟩ <;> simp [next]

end Events
end LineShell.Source
