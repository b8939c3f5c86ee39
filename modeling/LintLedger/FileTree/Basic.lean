import LintLedger.Path.Basic
import LintLedger.Store.Basic
import LintLedger.Text.Bytes

/-!
# File trees

Directories, files and symbolic links below one root.  A path is walked name by name; a link
on the way is replaced by the path it holds, a limited number of times.

## Main Definitions

* `Node`, `FileTree` -- the tree
* `Node.at?`, `Node.put` -- look at and change a place given by plain names
* `FileTree.locate` -- the place that a path means, links followed
* `FileTree.isDir`, `FileTree.isFile`, `FileTree.read`, `FileTree.write`, `FileTree.makeDirs`
  -- the operations of programs

## Design Notes

A place is the list of names that lead to it from the root without any link, so that an
operation first locates a place and then needs no link any more.
-/

namespace LintLedger

/-- What a file holds. -/
inductive FileContent where
  | data (bytes : List UInt8)
  /-- A database of scans and findings. -/
  | ledger (store : Store)
  /-- A program of the operating system, by name. -/
  | utility (name : String)

/-- The bytes of a file; a database and a program show none. -/
def FileContent.bytes : FileContent → List UInt8
  | .data bytes => bytes
  | _ => []

/-- A file, a directory or a symbolic link. -/
inductive Node where
  | file (content : FileContent) (executable : Bool)
  | dir (entries : List (String × Node))
  | link (target : String)

/-- Why an operation on files, or on the processes that use them, fails. -/
inductive FileError where
  | notPermitted
  | missing
  | noProcess
  | interrupted
  | noDevice
  | notExecutable
  | badDescriptor
  | noChild
  | denied
  | alreadyThere
  | notDirectory
  | isDirectory
  | invalid
  | tooManyFiles
  | notTerminal
  | noSpace
  | noSeek
  | brokenPipe
  | nameTooLong
  | notEmpty
  | tooManyLinks
deriving DecidableEq, Repr

/-- What programs say about an error. -/
def FileError.words : FileError → String
  | .notPermitted => "Operation not permitted"
  | .missing => "No such file or directory"
  | .noProcess => "No such process"
  | .interrupted => "Interrupted system call"
  | .noDevice => "No such device or address"
  | .notExecutable => "Exec format error"
  | .badDescriptor => "Bad file descriptor"
  | .noChild => "No child processes"
  | .denied => "Permission denied"
  | .alreadyThere => "File exists"
  | .notDirectory => "Not a directory"
  | .isDirectory => "Is a directory"
  | .invalid => "Invalid argument"
  | .tooManyFiles => "Too many open files"
  | .notTerminal => "Inappropriate ioctl for device"
  | .noSpace => "No space left on device"
  | .noSeek => "Illegal seek"
  | .brokenPipe => "Broken pipe"
  | .nameTooLong => "File name too long"
  | .notEmpty => "Directory not empty"
  | .tooManyLinks => "Too many levels of symbolic links"

/-- The number of an error. -/
def FileError.number : FileError → Nat
  | .notPermitted => 1
  | .missing => 2
  | .noProcess => 3
  | .interrupted => 4
  | .noDevice => 6
  | .notExecutable => 8
  | .badDescriptor => 9
  | .noChild => 10
  | .denied => 13
  | .alreadyThere => 17
  | .notDirectory => 20
  | .isDirectory => 21
  | .invalid => 22
  | .tooManyFiles => 24
  | .notTerminal => 25
  | .noSpace => 28
  | .noSeek => 29
  | .brokenPipe => 32
  | .nameTooLong => 36
  | .notEmpty => 39
  | .tooManyLinks => 40

/-- The message of an error with its number. -/
def FileError.message (e : FileError) : String :=
  e.words ++ " (os error " ++ toString e.number ++ ")"

namespace Node

/-- The entries of a directory. -/
def entries? : Node → Option (List (String × Node))
  | .dir entries => some entries
  | _ => none

/-- Whether a node is a directory. -/
def isDir : Node → Bool
  | .dir _ => true
  | _ => false

/-- Whether a node is a file. -/
def isFile : Node → Bool
  | .file _ _ => true
  | _ => false

/-- The node of that name in a directory. -/
def child? (n : Node) (name : String) : Option Node := n.entries?.bind (Assoc.find? name)

/-- The node at the end of a list of names. -/
def at? : List String → Node → Option Node
  | [], n => some n
  | name :: rest, n => (n.child? name).bind (at? rest)

/-- The tree with `new` at the end of a list of names; directories that are missing on the way
are made, and nothing is put below what is not a directory. -/
def put (new : Node) : List String → Node → Node
  | [], _ => new
  | name :: rest, n =>
    match n with
    | .dir entries =>
      .dir (Assoc.insert name (put new rest ((Assoc.find? name entries).getD (.dir []))) entries)
    | other => other

/-- The tree without the node at the end of a list of names. -/
def remove : List String → Node → Node
  | [], n => n
  | [name], .dir entries => .dir (entries.filter fun e => e.1 != name)
  | name :: rest, .dir entries =>
    match Assoc.find? name entries with
    | some n => .dir (Assoc.insert name (remove rest n) entries)
    | none => .dir entries
  | _, other => other

mutual

/-- The files below a node, by the names that lead to them, in the order of the entries. -/
def files : Node → List (List String)
  | .file _ _ => [[]]
  | .link _ => [[]]
  | .dir entries => filesOf entries

/-- The files below the entries of a directory. -/
def filesOf : List (String × Node) → List (List String)
  | [] => []
  | (name, n) :: rest => (files n).map (name :: ·) ++ filesOf rest

end

end Node

/-- A tree of files; the root is a directory. -/
abbrev FileTree := Node

namespace FileTree

/-- A tree without entries. -/
def empty : FileTree := .dir []

/-- The names in a path as they are walked; a slash at the end asks for a directory, as a dot
does. -/
def steps (path : String) : List String :=
  let names := (Path.segments path).filter (· ≠ "")
  if path.toList.getLast? = some '/' then names ++ ["."] else names

/-- Whether there is a directory at a place. -/
def isDirAt (t : FileTree) (place : List String) : Bool := (t.at? place).any Node.isDir

/-- Walks from a place along names, at most `links` links being followed; the last name may be
missing, and a link at the end is followed unless `keepLast` is set. -/
def walk (t : FileTree) (keepLast : Bool) (links : Nat) (place : List String) :
    List String → Except FileError (List String)
  | [] => .ok place
  | name :: rest =>
    if !t.isDirAt place then
      .error (if (t.at? place).isSome then .notDirectory else .missing)
    else if name = "." then walk t keepLast links place rest
    else if name = ".." then walk t keepLast links place.dropLast rest
    else
      match (t.at? place).bind (·.child? name) with
      | none => if rest.isEmpty then .ok (place ++ [name]) else .error .missing
      | some (.link target) =>
        if keepLast && rest.isEmpty then .ok (place ++ [name])
        else
          match links with
          | 0 => .error .tooManyLinks
          | links' + 1 =>
            let start := if Path.isAbsolute target then [] else place
            walk t keepLast links' start (steps target ++ rest)
      | some _ => walk t keepLast links (place ++ [name]) rest
termination_by names => (links, names.length)

/-- How many links are followed on one walk. -/
def linkLimit : Nat := 40

/-- The place that an absolute path means; its last name may be missing there. -/
def locate (t : FileTree) (path : String) : Except FileError (List String) :=
  if path = "" then .error .missing else walk t false linkLimit [] (steps path)

/-- The place that an absolute path means, a link at its end not followed. -/
def locateLink (t : FileTree) (path : String) : Except FileError (List String) :=
  if path = "" then .error .missing else walk t true linkLimit [] (steps path)

/-- The node that a path means. -/
def node (t : FileTree) (path : String) : Except FileError Node :=
  match t.locate path with
  | .error e => .error e
  | .ok place =>
    match t.at? place with
    | some n => .ok n
    | none => .error .missing

/-- The node that a path means, if there is one. -/
def node? (t : FileTree) (path : String) : Option Node := (t.node path).toOption

/-- Whether a path means anything that is there. -/
def exists? (t : FileTree) (path : String) : Bool := (t.node? path).isSome

/-- Whether a path means a directory. -/
def isDir (t : FileTree) (path : String) : Bool := (t.node? path).any Node.isDir

/-- Whether a path means a file. -/
def isFile (t : FileTree) (path : String) : Bool := (t.node? path).any Node.isFile

/-- The content of the file that a path means. -/
def content (t : FileTree) (path : String) : Except FileError FileContent :=
  match t.node path with
  | .error e => .error e
  | .ok (.file content _) => .ok content
  | .ok _ => .error .isDirectory

/-- The bytes of the file that a path means. -/
def read (t : FileTree) (path : String) : Except FileError (List UInt8) :=
  (t.content path).map FileContent.bytes

/-- The text of the file that a path means, if all of it is text. -/
def readText? (t : FileTree) (path : String) : Option String :=
  (t.read path).toOption.bind Text.decodeStrict?

/-- Puts a content into the file that a path means, which is made if it is missing. -/
def putContent (t : FileTree) (path : String) (content : FileContent) :
    Except FileError FileTree :=
  match t.locate path with
  | .error e => .error e
  | .ok place =>
    match t.at? place with
    | some (.dir _) => .error .isDirectory
    | some (.file _ executable) => .ok (Node.put (.file content executable) place t)
    | _ => .ok (Node.put (.file content false) place t)

/-- Replaces the bytes of a file. -/
def write (t : FileTree) (path : String) (bytes : List UInt8) : Except FileError FileTree :=
  t.putContent path (.data bytes)

/-- Replaces the text of a file. -/
def writeText (t : FileTree) (path : String) (s : String) : Except FileError FileTree :=
  t.write path (Text.encode s)

/-- Adds bytes at the end of a file, which is made if it is missing. -/
def append (t : FileTree) (path : String) (bytes : List UInt8) : Except FileError FileTree :=
  match t.read path with
  | .ok before => t.write path (before ++ bytes)
  | .error .missing => t.write path bytes
  | .error e => .error e

/-- Makes the directories on the way from a place along names, links followed. -/
def makeDirsFrom (t : FileTree) (done : String) : List Path.Component → Except FileError FileTree
  | [] => .ok t
  | c :: rest =>
    let path := match c with
      | .root => "/"
      | c => Path.join done c.text
    match t.locate path with
    | .error e => .error e
    | .ok place =>
      match t.at? place with
      | some (.dir _) => makeDirsFrom t path rest
      | some _ => .error (if rest.isEmpty then .alreadyThere else .notDirectory)
      | none => makeDirsFrom (Node.put (.dir []) place t) path rest

/-- Makes a directory with all directories above it. -/
def makeDirs (t : FileTree) (path : String) : Except FileError FileTree :=
  makeDirsFrom t "" (Path.components path)

end FileTree

end LintLedger
