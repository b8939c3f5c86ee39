import LintLedger.Session.Run

/-!
# The program

The current directory and the tools on the search path are read into a file tree, a session is
run on it, and the files that the session made or changed are written back.  Tools are scripts,
which the shell of this library runs; a database lasts as long as the session.
-/

namespace LintLedger.Main

/-- How many levels of directories are read. -/
def readDepth : Nat := 12

/-- Whether bytes are a script. -/
def isScript (bytes : List UInt8) : Bool := bytes.take 2 == Text.encode "#!"

/-- A file with its bytes; scripts may be executed. -/
def fileOf (bytes : ByteArray) : Node :=
  let data := bytes.toList
  .file (.data data) (isScript data)

/-- The entry of a directory with everything below it. -/
def readEntry : Nat → IO.FS.DirEntry → IO (String × Node)
  | 0, e => return (e.fileName, .dir [])
  | depth + 1, e => do
    if ← e.path.isDir then
      let entries ← e.path.readDir
      let nodes ← entries.toList.mapM (readEntry depth)
      return (e.fileName, .dir (Assoc.ofList nodes))
    else
      let bytes ← try IO.FS.readBinFile e.path catch _ => pure ByteArray.empty
      return (e.fileName, fileOf bytes)

/-- The names that lead to a path from the root. -/
def namesOf (path : String) : List String := FileTree.steps path

/-- The tree with the tools that are found in a directory. -/
def readTools (t : FileTree) (dir : String) : IO FileTree :=
  Tool.all.foldlM (fun t tool => do
    let path := Path.join dir tool.name
    try
      let bytes ← IO.FS.readBinFile path
      return Node.put (fileOf bytes) (namesOf path) t
    catch _ => return t) t

/-- The variables that a session looks at. -/
def readEnvironment : IO Environment := do
  let mut env : Environment := []
  for name in ["AUDITOR_DB", "AUDITOR_DEBUG", "HOME", "PATH", "TMPDIR"] do
    match ← IO.getEnv name with
    | some value => env := env.insert name value
    | none => pure ()
  return env

/-- The tree with the settings file of the user. -/
def readHome (env : Environment) (t : FileTree) : IO FileTree := do
  match env.find? "HOME" with
  | none => return t
  | some home =>
    let path := Settings.homeFile home
    try
      let bytes ← IO.FS.readBinFile path
      return Node.put (fileOf bytes) (namesOf path) t
    catch _ => return t

/-- Writes the files below a directory that are not what they were. -/
def writeChanges (dir : String) (before after : FileTree) : IO Unit := do
  let place := namesOf dir
  for names in ((after.at? place).map Node.files).getD [] do
    let bytesIn (t : FileTree) : Option (List UInt8) :=
      match t.at? (place ++ names) with
      | some (.file (.data bytes) _) => some bytes
      | _ => none
    match bytesIn after with
    | none => pure ()
    | some bytes =>
      if bytesIn before != some bytes then
        let path := "/" ++ "/".intercalate (place ++ names)
        IO.FS.createDirAll ((Path.parent? path).getD "/")
        IO.FS.writeBinFile path ⟨bytes.toArray⟩

/-- The time, read off a file that is made for it, and a number that hardly comes twice. -/
def readClock : IO (Timestamp × Nat) := do
  let (_, path) ← IO.FS.createTempFile
  let modified := (← path.metadata).modified
  IO.FS.removeFile path
  return (.ofSeconds modified.sec, modified.nsec.toNat)

/-- The program: its arguments are a command line. -/
def run (args : List String) : IO UInt32 := do
  let here ← IO.currentDir
  let dir := here.toString
  let env ← readEnvironment
  let entries ← here.readDir
  let nodes ← entries.toList.mapM (readEntry readDepth)
  let placed := Node.put (.dir (Assoc.ofList nodes)) (namesOf dir) FileTree.empty
  let tools ← (searchDirs ((env.find? "PATH").getD "")).foldlM readTools placed
  let known ← readHome env tools
  let tree := Utility.withUtilities ((known.makeDirs "/tmp").toOption.getD known)
  let (now, number) ← readClock
  let session := Session.run (Host.sandboxed ⟨env, dir⟩ now) args ⟨tree, [], number⟩
  writeChanges dir tree session.world.tree
  for line in session.output do IO.println line
  for line in session.world.messages do IO.eprintln line
  return UInt32.ofNat session.exitCode

end LintLedger.Main

/-- The program. -/
def main (args : List String) : IO UInt32 := LintLedger.Main.run args
