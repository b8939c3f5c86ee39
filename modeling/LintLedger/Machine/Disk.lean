import LintLedger.FileTree.Basic
import LintLedger.Text.Bytes

/-!
# Disks

A disk keeps files by number, so that a file that is open stays what it is when its name goes
away, and one file may have several names.  Names and contents are rows of bytes.

## Main Definitions

* `Body`, `DiskFile`, `Disk` -- what is on a disk
* `Disk.ofTree`, `Disk.tree` -- the disk of a file tree, and the tree of a disk
* `Disk.walk`, `Disk.locate` -- the place that a path means
* `FileInfo`, `Disk.info` -- what can be learned of a file without reading it
* `Disk.create`, `Disk.makeDir`, `Disk.makePipe`, `Disk.remove`, `Disk.removeDir`, `Disk.rename`, `Disk.link`
  -- the changes of names
-/

namespace LintLedger.Machine

/-- Files that hold no bytes of their own. -/
inductive Device where
  /-- Takes everything and gives nothing. -/
  | null
  /-- Gives zero bytes. -/
  | zero
  /-- Gives zero bytes and takes nothing. -/
  | full
deriving DecidableEq, Repr

/-- What a file is. -/
inductive Body where
  | data (bytes : ByteArray)
  /-- A database of scans and findings. -/
  | ledger (store : Store)
  /-- A program of the operating system, by name. -/
  | utility (name : String)
  /-- A directory, with the number of the directory above it. -/
  | dir (entries : Assoc Nat) (above : Nat)
  | link (target : String)
  | device (d : Device)
  /-- A pipe with a name; the bytes in it are not on the disk. -/
  | pipe

/-- The time that is known of a file that is changed now: clocks for files tick slowly. -/
def tick (now : Nat) : Int := Int.ofNat (now / 4000000 * 4000000)

/-- A file of any kind. -/
structure DiskFile where
  body : Body
  /-- Who may do what, in nine bits and three more. -/
  mode : Nat
  /-- When it was changed, in nanoseconds after the machine was started. -/
  modified : Int
  /-- How many names it has. -/
  names : Nat

/-- The files by their numbers; the root directory has number zero. -/
structure Disk where
  files : Array DiskFile

namespace Disk

/-! ## Files by number -/

/-- The file of a number. -/
def file? (d : Disk) (id : Nat) : Option DiskFile := d.files[id]?

/-- The body of the file of a number. -/
def body? (d : Disk) (id : Nat) : Option Body := (d.file? id).map (·.body)

/-- The disk with one file changed. -/
def change (d : Disk) (id : Nat) (f : DiskFile → DiskFile) : Disk := ⟨d.files.modify id f⟩

/-- The disk with one more file, and its number. -/
def add (d : Disk) (f : DiskFile) : Nat × Disk := (d.files.size, ⟨d.files.push f⟩)

/-- The entries of a directory and the directory above it. -/
def entries? (d : Disk) (id : Nat) : Option (Assoc Nat × Nat) :=
  match d.body? id with
  | some (.dir entries above) => some (entries, above)
  | _ => none

/-- Whether a number is that of a directory. -/
def isDir (d : Disk) (id : Nat) : Bool := (d.entries? id).isSome

/-! ## Trees -/

/-- The mode of a file that may be executed, or not. -/
def modeOf (executable : Bool) : Nat := if executable then 0o755 else 0o644

/-- The body of a file with that content. -/
def bodyOf : FileContent → Body
  | .data bytes => .data ⟨bytes.toArray⟩
  | .ledger store => .ledger store
  | .utility name => .utility name

mutual

/-- The disk with the files of a tree, and the number of its root. -/
def addNode (d : Disk) (above : Nat) : Node → Nat × Disk
  | .file content executable => d.add ⟨bodyOf content, modeOf executable, 0, 1⟩
  | .link target => d.add ⟨.link (Text.bytewise target), 0o777, 0, 1⟩
  | .dir entries =>
    let (id, d) := d.add ⟨.dir [] above, 0o755, 0, 1⟩
    let (numbered, d) := addEntries d id entries
    (id, d.change id fun f => { f with body := .dir (Assoc.ofList numbered) above })

/-- The disk with the files of the entries of a directory, and their numbers. -/
def addEntries (d : Disk) (above : Nat) : List (String × Node) → List (String × Nat) × Disk
  | [] => ([], d)
  | (name, node) :: rest =>
    let (id, d) := addNode d above node
    let (others, d) := addEntries d above rest
    ((Text.bytewise name, id) :: others, d)

end

/-- The disk of a file tree. -/
def ofTree (t : FileTree) : Disk := (addNode ⟨#[]⟩ 0 t).2

/-- The content of a body that is one of a file. -/
def contentOf : Body → FileContent
  | .ledger store => .ledger store
  | .utility name => .utility name
  | .data bytes => .data bytes.toList
  | _ => .data []

/-- The tree below a file, down to a depth. -/
def nodeAt (d : Disk) : Nat → Nat → Node
  | 0, _ => .dir []
  | depth + 1, id =>
    match d.file? id with
    | some ⟨.dir entries _, _, _, _⟩ =>
      .dir (Assoc.ofList (entries.map fun (name, id) =>
        (Text.ofBytewise name, nodeAt d depth id)))
    | some ⟨.link target, _, _, _⟩ => .link (Text.ofBytewise target)
    | some ⟨body, mode, _, _⟩ => .file (contentOf body) (mode &&& 0o111 != 0)
    | none => .dir []

/-- The tree of a disk. -/
def tree (d : Disk) : FileTree := nodeAt d (d.files.size + 1) 0

/-! ## Paths -/

/-- Where a path leads: a name in a directory, and the file of that name if there is one.  A
directory itself is found under the name of a dot. -/
structure Place where
  dir : Nat
  name : String
  file? : Option Nat

/-- The names on a path; a slash at its end asks for a directory, as a dot does. -/
def steps (path : String) : List String :=
  let names := (Text.splitOnChar (· == '/') path).filter (· ≠ "")
  if path.toList.getLast? = some '/' then names ++ ["."] else names

/-- Walks from a directory along names.  A link is replaced by the path it holds, at most
`links` times; the last name may be missing, and a link there stays if `keepLast` is set. -/
def walk (d : Disk) (keepLast : Bool) (links : Nat) (here : Nat) :
    List String → Except FileError Place
  | [] => .ok ⟨here, ".", some here⟩
  | name :: rest =>
    match d.entries? here with
    | none => .error .notDirectory
    | some (entries, above) =>
      if name = "." then walk d keepLast links here rest
      else if name = ".." then walk d keepLast links above rest
      else if 255 < name.length then .error .nameTooLong
      else
        match entries.find? name with
        | none => if rest.isEmpty then .ok ⟨here, name, none⟩ else .error .missing
        | some id =>
          match d.body? id with
          | some (.link target) =>
            if keepLast && rest.isEmpty then .ok ⟨here, name, some id⟩
            else
              match links with
              | 0 => .error .tooManyLinks
              | links' + 1 =>
                let start := if target.toList.head? = some '/' then 0 else here
                walk d keepLast links' start (steps target ++ rest)
          | _ =>
            if rest.isEmpty then .ok ⟨here, name, some id⟩
            else walk d keepLast links id rest
termination_by names => (links, names.length)

/-- How many links are followed on one walk. -/
def linkLimit : Nat := 40

/-- The place that a path means, seen from a directory. -/
def locate (d : Disk) (keepLast : Bool) (here : Nat) (path : String) : Except FileError Place :=
  if path = "" then .error .missing
  else if 4095 < path.length then .error .nameTooLong
  else walk d keepLast linkLimit (if path.toList.head? = some '/' then 0 else here) (steps path)

/-- The number of the file that a path means. -/
def find (d : Disk) (keepLast : Bool) (here : Nat) (path : String) : Except FileError Nat :=
  match d.locate keepLast here path with
  | .error e => .error e
  | .ok place =>
    match place.file? with
    | some id => .ok id
    | none => .error .missing

/-- A path without the slashes at its end. -/
def withoutEndSlashes (path : String) : String :=
  let bare := Text.dropTail (· == '/') path.toList
  if bare.isEmpty then path else String.ofList bare

/-- The path of a directory, at most so deep. -/
def pathOf (d : Disk) : Nat → Nat → String
  | 0, _ => ""
  | depth + 1, id =>
    if id = 0 then ""
    else
      match d.entries? id with
      | none => ""
      | some (_, above) =>
        let name? := (d.entries? above).bind fun (entries, _) => List.find? (fun e => e.2 == id) entries
        pathOf d depth above ++ "/" ++ (name?.map (·.1)).getD ""

/-- The path of a directory. -/
def dirPath (d : Disk) (id : Nat) : String :=
  if id = 0 then "/" else d.pathOf (d.files.size + 1) id

/-! ## What is known of files -/

/-- The kinds of files. -/
inductive Kind where
  | file
  | dir
  | link
  | device
  | pipe
deriving DecidableEq, Repr

end Disk

/-- What can be learned of a file without reading it. -/
structure FileInfo where
  kind : Disk.Kind
  mode : Nat
  size : Nat
  modified : Int
  /-- The number of the file. -/
  id : Nat
  names : Nat
deriving DecidableEq, Repr

namespace Disk

/-- The kind of a body. -/
def kindOf : Body → Kind
  | .dir _ _ => .dir
  | .link _ => .link
  | .device _ => .device
  | .pipe => .pipe
  | _ => .file

/-- The size of a body in bytes. -/
def sizeOf : Body → Nat
  | .data bytes => bytes.size
  | .ledger _ => 4096
  | .utility _ => 4096
  | .dir _ _ => 4096
  | .link target => target.length
  | .device _ => 0
  | .pipe => 0

/-- What is known of the file of a number. -/
def info? (d : Disk) (id : Nat) : Option FileInfo :=
  (d.file? id).map fun f =>
    let names := match f.body with
      | .dir entries _ => 2 + (entries.filter fun e => d.isDir e.2).length
      | _ => f.names
    ⟨kindOf f.body, f.mode, sizeOf f.body, f.modified, id, names⟩

/-- What is known of the file that a path means. -/
def info (d : Disk) (keepLast : Bool) (here : Nat) (path : String) : Except FileError FileInfo :=
  match d.find keepLast here path with
  | .error e => .error e
  | .ok id => ((d.info? id).map Except.ok).getD (.error .missing)

/-! ## Bytes -/

/-- So many bytes of a row from an offset. -/
def slice (bytes : ByteArray) (offset size : Nat) : String :=
  Text.bytewiseOf (bytes.extract offset (offset + size)).toList

/-- A row with bytes written over it from an offset, zero bytes filling a gap. -/
def overwrite (bytes : ByteArray) (offset : Nat) (text : String) : ByteArray :=
  let new : ByteArray := ⟨(text.toList.map fun c => UInt8.ofNat c.toNat).toArray⟩
  if offset = bytes.size then bytes ++ new
  else
    let gap : ByteArray := ⟨Array.replicate (offset - bytes.size) 0⟩
    bytes.extract 0 offset ++ gap ++ new ++ bytes.extract (offset + new.size) bytes.size

/-- The disk with bytes written to a file. -/
def write (d : Disk) (now id offset : Nat) (text : String) : Disk :=
  d.change id fun f =>
    match f.body with
    | .data bytes => { f with body := .data (overwrite bytes offset text), modified := tick now }
    | .ledger _ => { f with body := .data (overwrite .empty 0 text), modified := tick now }
    | _ => f

/-- The disk with a file cut or filled up to a size. -/
def resize (d : Disk) (now id size : Nat) : Disk :=
  d.change id fun f =>
    match f.body with
    | .data bytes =>
      let body := if size ≤ bytes.size then bytes.extract 0 size else overwrite bytes size ""
      { f with body := .data body, modified := tick now }
    | .ledger _ => { f with body := .data .empty, modified := tick now }
    | _ => f

/-! ## Names -/

/-- The disk with the entries of a directory changed. -/
def changeEntries (d : Disk) (now dir : Nat) (f : Assoc Nat → Assoc Nat) : Disk :=
  d.change dir fun file =>
    match file.body with
    | .dir entries above => { file with body := .dir (f entries) above, modified := tick now }
    | _ => file

/-- The entries without those of a name. -/
def without (name : String) (entries : Assoc Nat) : Assoc Nat :=
  entries.filter fun e => e.1 != name

/-- Whether a directory is still on the disk. -/
def isNamed (d : Disk) (dir : Nat) : Bool := ((d.file? dir).map (·.names)).getD 0 != 0

/-- A new file at a place where there is none, and its number. -/
def create (d : Disk) (now : Nat) (place : Place) (body : Body) (mode : Nat) :
    Except FileError (Nat × Disk) :=
  if !d.isNamed place.dir then .error .missing
  else
    let (id, d) := d.add ⟨body, mode, tick now, 1⟩
    .ok (id, d.changeEntries now place.dir (·.insert place.name id))

/-- Makes a directory. -/
def makeDir (d : Disk) (now here : Nat) (path : String) (mode : Nat) : Except FileError Disk :=
  match d.locate true here (withoutEndSlashes path) with
  | .error e => .error e
  | .ok place =>
    match place.file? with
    | some _ => .error .alreadyThere
    | none => (d.create now place (.dir [] place.dir) mode).map (·.2)

/-- Makes a pipe with a name. -/
def makePipe (d : Disk) (now here : Nat) (path : String) (mode : Nat) : Except FileError Disk :=
  match d.locate true here path with
  | .error e => .error e
  | .ok place =>
    match place.file? with
    | some _ => .error .alreadyThere
    | none => (d.create now place .pipe mode).map (·.2)

/-- Makes a link that holds a path. -/
def makeLink (d : Disk) (now here : Nat) (target path : String) : Except FileError Disk :=
  if target = "" then .error .missing
  else
    match d.locate true here path with
    | .error e => .error e
    | .ok place =>
      match place.file? with
      | some _ => .error .alreadyThere
      | none => (d.create now place (.link target) 0o777).map (·.2)

/-- Gives a file one more name. -/
def addName (d : Disk) (now here : Nat) (old new : String) : Except FileError Disk :=
  match d.find true here old with
  | .error e => .error e
  | .ok id =>
    match d.locate true here new with
    | .error e => .error e
    | .ok place =>
      if place.file?.isSome then .error .alreadyThere
      else if d.isDir id then .error .notPermitted
      else
        let d := d.change id fun f => { f with names := f.names + 1 }
        .ok (d.changeEntries now place.dir (·.insert place.name id))

/-- Takes a name from a file. -/
def unlink (d : Disk) (now : Nat) (place : Place) (id : Nat) : Disk :=
  let d := d.change id fun f => { f with names := f.names - 1 }
  d.changeEntries now place.dir (without place.name)

/-- Removes a name of something that is no directory. -/
def remove (d : Disk) (now here : Nat) (path : String) : Except FileError Disk :=
  match d.locate true here path with
  | .error e => .error e
  | .ok place =>
    match place.file? with
    | none => .error .missing
    | some id => if d.isDir id then .error .isDirectory else .ok (d.unlink now place id)

/-- Removes a directory that has no entries. -/
def removeDir (d : Disk) (now here : Nat) (path : String) : Except FileError Disk :=
  let bare := withoutEndSlashes path
  match (steps bare).getLast? with
  | some "." => .error .invalid
  | some ".." => .error .notEmpty
  | _ =>
    match d.locate true here bare with
    | .error e => .error e
    | .ok place =>
      match place.file? with
      | none => .error .missing
      | some id =>
        match d.entries? id with
        | none => .error .notDirectory
        | some (_ :: _, _) => .error .notEmpty
        | some ([], _) => .ok (d.unlink now place id)

/-- Whether a directory is a directory itself or lies above it, at most so deep. -/
def isAbove (d : Disk) (dir : Nat) : Nat → Nat → Bool
  | 0, _ => false
  | depth + 1, id =>
    id == dir || (id != 0 && match d.entries? id with
      | some (_, above) => isAbove d dir depth above
      | none => false)

/-- Gives a file another name, in the place of what had that name. -/
def rename (d : Disk) (now here : Nat) (old new : String) : Except FileError Disk :=
  match d.locate true here (withoutEndSlashes old), d.locate true here (withoutEndSlashes new) with
  | .error e, _ => .error e
  | _, .error e => .error e
  | .ok source, .ok goal =>
    match source.file? with
    | none => .error .missing
    | some id =>
      let moved (d : Disk) : Disk :=
        let d := d.changeEntries now source.dir (without source.name)
        let d := d.changeEntries now goal.dir (·.insert goal.name id)
        d.change id fun f =>
          match f.body with
          | .dir entries _ => { f with body := .dir entries goal.dir }
          | _ => f
      if d.isDir id && d.isAbove id (d.files.size + 1) goal.dir then .error .invalid
      else
        match goal.file? with
        | none =>
          if !d.isDir id && new.toList.getLast? = some '/' then .error .notDirectory
          else .ok (moved d)
        | some other =>
          if other = id then .ok d
          else
            match d.entries? other, d.isDir id with
            | some _, false => .error .isDirectory
            | none, true => .error .notDirectory
            | some (_ :: _, _), true => .error .notEmpty
            | _, _ => .ok (moved (d.unlink now goal other))

/-- Changes who may do what with a file. -/
def setMode (d : Disk) (here : Nat) (path : String) (mode : Nat) : Except FileError Disk :=
  (d.find false here path).map fun id => d.change id fun f => { f with mode := mode }

/-- Changes when a file was changed. -/
def setTime (d : Disk) (here : Nat) (path : String) (time : Int) : Except FileError Disk :=
  (d.find false here path).map fun id => d.change id fun f => { f with modified := time }

end Disk

end LintLedger.Machine
