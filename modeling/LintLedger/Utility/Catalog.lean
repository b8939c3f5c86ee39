import LintLedger.Shell.Start
import LintLedger.Utility.Awk.Execution
import LintLedger.Utility.Column
import LintLedger.Utility.Compare
import LintLedger.Utility.Copying
import LintLedger.Utility.Digests
import LintLedger.Utility.Dump
import LintLedger.Utility.Editor.Basic
import LintLedger.Utility.Expression
import LintLedger.Utility.Facts
import LintLedger.Utility.File
import LintLedger.Utility.Find
import LintLedger.Utility.Layout
import LintLedger.Utility.Lines
import LintLedger.Utility.Merge
import LintLedger.Utility.Removal
import LintLedger.Utility.Sequence

/-!
# The programs of the system

## Main Definitions

* `catalog` -- the programs by their names
* `utilities` -- what they do
* `withUtilities` -- a file tree in which they are found
-/

namespace LintLedger.Utility

open LintLedger.Machine

/-- A program of the system, given how it begins others, its words and its environment. -/
abbrev Entrance :=
  Launch → (words : List String) → (environment : List (String × String)) → Program

/-- A program that needs no more than its words; one that fails has that status. -/
def plain (failing : Nat) (body : List String → Work Unit) : Entrance :=
  fun _ words _ => Work.program failing words body

/-- A program that looks at its environment. -/
def settled (failing : Nat) (body : List (String × String) → List String → Work Unit) : Entrance :=
  fun _ words environment => Work.program failing words (body environment)

/-- A program that begins others. -/
def launching (failing : Nat) (body : Launch → List (String × String) → List String → Work Unit) :
    Entrance :=
  fun launch words environment => Work.program failing words (body launch environment)

/-- A program that is another one with more words. -/
def withWords (name : String) (more : List String) (entrance : Entrance) : Entrance :=
  fun launch words environment => entrance launch (name :: more ++ words.tail) environment

/-- The programs that print and change texts. -/
def textPrograms : List (String × Entrance) :=
  [("awk", launching 2 Awk.awk), ("base64", plain 1 base64), ("cat", plain 1 cat),
   ("cksum", plain 1 cksum), ("cmp", plain 2 cmp), ("comm", plain 1 comm), ("cut", plain 1 cut),
   ("diff", plain 2 diff), ("echo", plain 1 echo),
   ("egrep", withWords "grep" ["-E"] (plain 2 grep)), ("expand", plain 1 expand),
   ("fgrep", withWords "grep" ["-F"] (plain 2 grep)), ("fold", plain 1 fold),
   ("grep", plain 2 grep), ("head", plain 1 head), ("join", plain 1 join),
   ("mawk", launching 2 Awk.awk), ("md5sum", plain 1 (digests "MD5" Md5.hexOf)),
   ("nl", plain 1 nl), ("od", plain 1 Dump.od), ("paste", plain 1 paste),
   ("printf", plain 1 printf), ("rev", plain 1 rev), ("sed", plain 1 Editor.sed),
   ("sha1sum", plain 1 (digests "SHA1" Sha1.hexOf)),
   ("sha256sum", plain 1 (digests "SHA256" Sha256.hexOf)), ("sort", plain 2 sort),
   ("tac", plain 1 tac), ("tail", plain 1 tail), ("tee", plain 1 tee), ("tr", plain 1 tr),
   ("uniq", plain 1 uniq), ("wc", plain 1 wc), ("yes", plain 1 yes)]

/-- The programs that make and change files, and tell of them. -/
def filePrograms : List (String × Entrance) :=
  [("basename", plain 1 basename), ("chmod", plain 1 chmod), ("cp", plain 1 cp), ("dd", plain 1 dd),
   ("dirname", plain 1 dirname), ("find", launching 1 Find.find), ("link", plain 1 link),
   ("ln", plain 1 ln), ("ls", plain 2 ls), ("mkdir", plain 1 mkdir),
   ("mkfifo", plain 1 mkfifo), ("mktemp", settled 1 mktemp),
   ("mv", plain 1 mv), ("pwd", settled 1 pwd), ("readlink", plain 1 readlink),
   ("realpath", plain 1 realpath), ("rm", plain 1 rm), ("rmdir", plain 1 rmdir),
   ("stat", plain 1 stat), ("touch", plain 1 touch), ("truncate", plain 1 truncate),
   ("unlink", plain 1 unlink)]

/-- The programs that begin others, answer, or tell something else. -/
def otherPrograms : List (String × Entrance) :=
  [("[", plain 2 test), ("arch", plain 1 arch), ("bash", Shell.shell), ("dash", Shell.shell), ("date", plain 1 date),
   ("env", launching 125 env), ("expr", plain 2 Expression.expr), ("factor", plain 1 factor),
   ("false", plain 1 fun _ => answer 1), ("groups", plain 1 groupNames), ("id", plain 1 identity), ("nice", launching 125 nice),
   ("nohup", launching 125 nohup), ("printenv", settled 2 printenv), ("seq", plain 1 seq),
   ("setsid", launching 1 setsid), ("sh", Shell.shell), ("sleep", plain 1 sleep),
   ("stdbuf", launching 125 stdbuf), ("sync", plain 1 sync), ("test", plain 2 test),
   ("timeout", launching 125 timeout), ("true", plain 1 fun _ => answer 0), ("tty", plain 2 tty),
   ("uname", plain 1 uname), ("which", settled 1 which), ("whoami", plain 1 whoami),
   ("xargs", launching 1 xargs)]

/-- The programs by their names. -/
def catalog : List (String × Entrance) := textPrograms ++ filePrograms ++ otherPrograms

/-- What the programs of the system do. -/
def utilities : Utilities := fun launch name words environment =>
  match catalog.find? fun e => e.1 == name with
  | some (_, entrance) => entrance launch words environment
  | none => .exit 127

/-- The directories in which the programs are. -/
def catalogDirs : List (List String) := [["bin"], ["usr", "bin"]]

/-- A file tree with the programs in their directories. -/
def withUtilities (t : FileTree) : FileTree :=
  catalogDirs.foldl (fun t dir =>
    catalog.foldl (fun t e => Node.put (.file (.utility e.1) true) (dir ++ [e.1]) t) t) t

end LintLedger.Utility
