import Reimport.Text.Markup
import Reimport.Text.Terminal

/-!
# Console

What printing adds to a console.  A styled text is read as bracket markup, a
verbatim one is shown as it is, and a log line shows a message under its level.
Values that come from outside are escaped before they are put into a styled
text, so that they are shown as they are.
-/
namespace Reimport.Console

/-- The line feed that ends a printed line. -/
abbrev newline : Text := ['\n']

/-- What a styled text adds, with what is to follow it. -/
def styled (message ending : Text) : Except Markup.Fault Text :=
  (Markup.render message).map fun shown => Terminal.display shown ++ ending

/-- What a verbatim text adds, with what is to follow it. -/
def verbatim (text ending : Text) : Text := Terminal.display text ++ ending

/-- How much a log line matters. -/
inductive Level where
  /-- Something worth knowing. -/
  | info
  /-- Something that was done. -/
  | success
  /-- Something that was left undone. -/
  | warning
  /-- Something that went wrong. -/
  | error
  deriving DecidableEq, Repr

namespace Level

/-- The name of a level in a log line. -/
def name : Level → Text
  | .info => "INFO"
  | .success => "SUCCESS"
  | .warning => "WARNING"
  | .error => "ERROR"

/-- The symbol in front of a message of a level. -/
def symbol : Level → Text
  | .info => "ℹ️  "
  | .success => "✅ "
  | .warning => "⚠️  "
  | .error => "❌ "

end Level

/-- What logging a styled message adds. -/
def logged (level : Level) (message : Text) : Except Markup.Fault Text :=
  (Markup.render (level.symbol ++ message)).map (Terminal.logEntry level.name)

/-- What logging a verbatim message without a symbol adds. -/
def loggedVerbatim (level : Level) (message : Text) : Text :=
  Terminal.logEntry level.name message

end Reimport.Console
