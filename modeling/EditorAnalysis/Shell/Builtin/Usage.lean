/-
EditorAnalysis.Shell.Builtin.Usage — how the commands of the shell are used.

A command that meets an option it does not have says so. In bash it also says how it is
used.
-/
import EditorAnalysis.Shell.State

namespace EditorAnalysis.Shell.Builtin

open Text (Octets)

/-- What follows the names of commands, where bash says how they are used. -/
def usages : List (String × String) :=
  [("alias", "[-p] [name[=value] ... ]"), ("builtin", "[shell-builtin [arg ...]]"),
    ("cd", "[-L|[-P [-e]] [-@]] [dir]"), ("command", "[-pVv] command [arg ...]"),
    ("declare",
      "[-aAfFgiIlnrtux] [name[=value] ...] or declare -p [-aAfFilnrtux] [name ...]"),
    ("enable", "[-a] [-dnps] [-f filename] [name ...]"), ("eval", "[arg ...]"),
    ("exec", "[-cl] [-a name] [command [argument ...]] [redirection ...]"),
    ("export", "[-fn] [name[=value] ...] or export -p"),
    ("getopts", "optstring name [arg ...]"), ("hash", "[-lr] [-p pathname] [-dt] [name ...]"),
    ("jobs", "[-lnprs] [jobspec ...] or jobs -x command [args]"),
    ("kill", "[-s sigspec | -n signum | -sigspec] pid | jobspec ... or kill -l [sigspec]"),
    ("local", "[option] name[=value] ..."),
    ("mapfile", "[-d delim] [-n count] [-O origin] [-s count] [-t] [-u fd] [-C callback] "
      ++ "[-c quantum] [array]"),
    ("printf", "[-v var] format [arguments]"), ("pwd", "[-LP]"),
    ("read", "[-ers] [-a array] [-d delim] [-i text] [-n nchars] [-N nchars] [-p prompt] "
      ++ "[-t timeout] [-u fd] [name ...]"),
    ("readarray", "[-d delim] [-n count] [-O origin] [-s count] [-t] [-u fd] [-C callback] "
      ++ "[-c quantum] [array]"),
    ("readonly", "[-aAf] [name[=value] ...] or readonly -p"),
    ("set", "[-abefhkmnptuvxBCEHPT] [-o option-name] [--] [-] [arg ...]"),
    ("shopt", "[-pqsu] [-o] [optname ...]"), ("source", "filename [arguments]"),
    (".", "filename [arguments]"), ("trap", "[-lp] [[arg] signal_spec ...]"),
    ("type", "[-afptP] name [name ...]"),
    ("typeset", "[-aAfFgiIlnrtux] name[=value] ... or typeset -p [-aAfFilnrtux] [name ...]"),
    ("umask", "[-p] [-S] [mode]"), ("unalias", "[-a] name [name ...]"),
    ("unset", "[-f] [-v] [-n] [name ...]"), ("wait", "[-fn] [-p var] [id ...]")]

/-- The status of a command that is used in a way that it does not have. -/
def usageStatus : Nat := 2

/-- Says how the command that complains is used, and ends it. -/
def showUsage {α : Type} : Step α := do
  let name := ((← get).complainant).getD []
  match usages.lookup (String.ofList name) with
  | some usage => Step.note (name ++ ": usage: ".toList ++ name ++ ' ' :: usage.toList)
  | none => pure ()
  Step.setStatus usageStatus
  throw .raised

/-- Refuses a word of bash, and says how the command is used. -/
def refuseUsage {α : Type} (text : Octets) : Step α := do
  Step.complain text
  showUsage

/-- The command does not have an option. -/
def refuseOption {α : Type} (c : Char) : Step α := do
  if (← get).isBash then refuseUsage ('-' :: c :: ": invalid option".toList)
  else Step.error ("Illegal option -".toList ++ [c])

/-- An option wants an argument that is not there. -/
def wantArgument {α : Type} (c : Char) : Step α := do
  if (← get).isBash then refuseUsage ('-' :: c :: ": option requires an argument".toList)
  else Step.error ("No arg for -".toList ++ c :: " option".toList)

end EditorAnalysis.Shell.Builtin
