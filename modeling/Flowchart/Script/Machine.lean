import Flowchart.Script.Program

set_option autoImplicit false

/-! # A machine

The files that a script finds around its own: the directories at the top, the standard programs, and
the device that takes everything. -/

namespace Flowchart.Machine

/-- The directories that every machine has. -/
def directories : List Place :=
  [["bin"], ["dev"], ["etc"], ["home"], ["root"], ["tmp"], ["usr"], ["usr", "bin"], ["var"]]

/-- The directories in which the standard programs are. -/
def programDirectories : List Place := [["bin"], ["usr", "bin"]]

/-- Where programs are looked for unless something else is said. -/
def searchPath : String := "/usr/local/sbin:/usr/local/bin:/usr/sbin:/usr/bin:/sbin:/bin"

/-- The programs with their places. -/
def programs : List (Place × FileNode) :=
  programDirectories.flatMap fun directory =>
    Program.names.map fun name => (directory ++ [name], .program name)

/-- The files of a machine on which nothing has been written yet. -/
def files : FileTree where
  nodes := directories.map (·, .directory) ++ programs ++ [(["dev", "null"], .device)]
  limits := .usual

end Flowchart.Machine
