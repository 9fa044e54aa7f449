/-
EditorAnalysis.Shell.Tool.All — the programs of the system by name.
-/
import EditorAnalysis.Shell.Tool.Condition
import EditorAnalysis.Shell.Tool.Expression
import EditorAnalysis.Shell.Tool.Files
import EditorAnalysis.Shell.Tool.Grep
import EditorAnalysis.Shell.Tool.Order
import EditorAnalysis.Shell.Tool.Sed
import EditorAnalysis.Shell.Tool.Surroundings
import EditorAnalysis.Shell.Tool.Text
import EditorAnalysis.Shell.Tool.Translate
import EditorAnalysis.Shell.Tool.Word

namespace EditorAnalysis.Shell.Tool

/-- Programs that show and change texts. -/
def textTools : List (String × Tool) :=
  [("cat", cat), ("head", head), ("tail", tail), ("wc", wc), ("tee", tee), ("tac", tac),
    ("rev", rev), ("yes", yes), ("tr", tr), ("cut", cut), ("sort", sort), ("uniq", uniq),
    ("seq", seq), ("grep", grep), ("egrep", egrep), ("fgrep", fgrep), ("sed", sed)]

/-- Programs that show and change files. -/
def fileTools : List (String × Tool) :=
  [("touch", touch), ("mkdir", mkdir), ("rm", rm), ("rmdir", rmdir), ("cp", cp), ("mv", mv),
    ("ln", ln), ("chmod", chmod), ("ls", ls), ("basename", basename), ("dirname", dirname),
    ("readlink", readlink), ("realpath", realpath)]

/-- Programs that look at words and surroundings. -/
def wordTools : List (String × Tool) :=
  [("true", succeed), ("false", fail), ("echo", echo), ("printf", printf), ("sleep", sleep),
    ("test", test), ("[", bracket), ("expr", expr), ("pwd", pwd), ("printenv", printenv),
    ("id", identity), ("whoami", whoami), ("uname", uname), ("tty", tty), ("which", which)]

/-- The programs that do their work alone. -/
def all : List (String × Tool) := textTools ++ fileTools ++ wordTools

/-- The program of a name. -/
def action? (name : String) : Option Tool := all.lookup name

end EditorAnalysis.Shell.Tool
