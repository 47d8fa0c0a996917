/-
A command that fails leaves the session as it was: the files, both
directories, the variables and what the standard input holds, and nothing
has been written to the output (`Session.Spared`). It makes no difference
how far the command had come. A `cd` looks for its directory and enters it
before it changes anything; a program is found and asked for, and a request
that is refused has no effects; and the flush before it moves bytes that
had been written already.

# What a failure may leave

There are two traces of it behind the diagnostics and the log. A request
for a program that could not be started was made, and is kept among the
requests. And where the failure is one of writing to the output, part of
what was to be printed may be there.
-/
import LineShell.Proofs.Conduct
import LineShell.Proofs.Outlet

namespace LineShell

-- ==================================================== what is left alone

namespace Outlet

/-- Nothing was written to an outlet: it holds what it held, or has handed
some of it on. One that holds nothing back has received nothing. -/
def Silent (o o' : Outlet) : Prop :=
  o'.written = o.written ∧ (o.byLine = false → o'.channel.received = o.channel.received)

theorem Silent.refl (o : Outlet) : Silent o o :=
  ⟨rfl, fun _ => rfl⟩

theorem Silent.flush (o : Outlet) : Silent o o.flush.2 := by
  refine ⟨written_flush o, fun hline => ?_⟩
  unfold Outlet.flush
  rw [if_neg (by simp [hline])]
  exact Channel.received_flush o.channel

/-- Handing the channel to a program writes nothing either. -/
theorem Silent.lend {o o' : Outlet} (h : Silent o o') : Silent o o'.lend := by
  refine ⟨(written_lend o').trans h.1, fun hline => (Eq.trans ?_ (h.2 hline))⟩
  simp [Outlet.lend, Channel.lend, Channel.received, Channel.Event.bytes]

end Outlet

/-- What a command that failed has left as it was. -/
structure Session.Spared (spawn : Spawner) (s s' : Session) : Prop where
  environment : s'.environment = s.environment
  prompt : s'.prompt = s.prompt
  files : s'.machine.files = s.machine.files
  directory : s'.machine.workingDirectory = s.machine.workingDirectory
  vars : s'.machine.vars = s.machine.vars
  /-- No program has run: if one was asked for, it could not be started. -/
  requests : s'.machine.requests = s.machine.requests ∨
    ∃ r scene cause, scene.files = s.machine.files ∧
      scene.directory = s.machine.workingDirectory ∧ spawn r scene = .error cause ∧
      s'.machine.requests = r :: s.machine.requests
  input : s'.console.input = s.console.input
  children : s'.console.children = s.console.children
  /-- Nothing was written to the output, unless the failure is that it
  could not be, and was reported as that. -/
  out : s.console.out.Silent s'.console.out ∨
    ∃ pieces cause, s.console.out.print pieces = (some cause, s'.console.out) ∧
      s'.console.log.head? = some (.failed (.outputFailed cause))

-- ==================================================== commands that fail

namespace Session

/-- A command that fails, in whatever way and with whatever words, changes
neither the environment of the session nor the files nor the directory of
the process, and runs no program. It has written nothing to the output,
unless what failed was to write to it. -/
theorem spared_of_failed (spawn : Spawner) (words : List String) (s : Session)
    (hfailed : (s.runWords spawn words).1 = .goOnAfterFault) :
    Spared spawn s (s.runWords spawn words).2 := by
  have hconduct := conduct_runWords spawn words s
  generalize s.runWords spawn words = ended at hconduct hfailed
  rcases ended with ⟨verdict, s'⟩
  obtain rfl : verdict = .goOnAfterFault := hfailed
  cases hconduct with
  | @notPrinted name rest _ pieces cause hname hprint =>
      exact ⟨rfl, rfl, rfl, rfl, rfl, .inl rfl, rfl, rfl,
        .inr ⟨pieces, cause, Prod.ext hprint rfl, rfl⟩⟩
  | refused _ hform hread =>
      exact ⟨rfl, rfl, rfl, rfl, rfl, .inl rfl, rfl, rfl, .inl (.refl _)⟩
  | notMoved hfault => exact ⟨rfl, rfl, rfl, rfl, rfl, .inl rfl, rfl, rfl, .inl (.refl _)⟩
  | notFlushed rest hname hflush =>
      exact ⟨rfl, rfl, rfl, rfl, rfl, .inl rfl, rfl, rfl, .inl (.flush _)⟩
  | notFound rest hname hflush hfind =>
      exact ⟨rfl, rfl, rfl, rfl, rfl, .inl rfl, rfl, rfl, .inl (.flush _)⟩
  | @notStarted name rest _ found r cause hname hflush hfind hrequest hspawn =>
      exact ⟨rfl, rfl, rfl, rfl, rfl, .inr ⟨r, _, cause, rfl, rfl, hspawn, rfl⟩, rfl, rfl,
        .inl (Outlet.Silent.flush _).lend⟩

/-- An output that takes one more byte and then breaks: of what is to be
printed the first byte is there, and all else is as it was. -/
theorem spared_of_failed_echo :
    let s : Session :=
      { machine := { files := .empty, workingDirectory := ⟨[], 0⟩ }
        environment := { directory := [47] }
        console := { out := { channel := { room := some 1, refusal := some .brokenPipe } } } }
    let spawn : Spawner := fun _ _ => .error .noEntry
    (s.runWords spawn ["echo", "hi"]).1 = .goOnAfterFault ∧
      Spared spawn s (s.runWords spawn ["echo", "hi"]).2 := by
  intro s spawn
  have hfailed : (s.runWords spawn ["echo", "hi"]).1 = .goOnAfterFault := by
    have hpiece : Bytes.ofText "hi" = [104, 105] := by decide
    have hrefused : (s.console.out.print [Bytes.ofText "hi", Builtin.lineEnd]).1
        = some .brokenPipe := by
      rw [hpiece]
      simp [s, Outlet.print, Outlet.write, Outlet.pass, Outlet.andThen, Channel.write,
        Channel.offer, Channel.accepts, Channel.take, Channel.answer]
    have hprint := print_of_refused (s := s.begun "echo") hrefused
    exact congrArg Prod.fst hprint
  exact ⟨hfailed, spared_of_failed spawn ["echo", "hi"] s hfailed⟩

end Session
end LineShell
