import LintLedger.Machine.Program

/-!
# Systems of processes

Processes run beside each other on one disk.  Each has a clock of its own, as if it had a
processor to itself: its requests take time, and a process that waits is set to the time of
what it waited for.  The process whose clock is behind goes first, so that everything that
happens has one order.

## Main Definitions

* `Pipe`, `OpenFile`, `Process`, `System` -- what there is
* `System.answer` -- the reply to a request, or that it has to wait
* `System.step` -- one process goes on by one request
* `System.settle` -- the processes that waited for what has happened go on

## Design Notes

A process that works for long without ever waiting is taken to work for ever: its requests
take longer and longer, so that any limit on its time is reached after a number of steps that
can be counted.
-/

namespace LintLedger.Machine

/-- A row of bytes between processes. -/
structure Pipe where
  /-- The bytes that are read next. -/
  front : List Char
  /-- The texts after them, the last one first. -/
  back : List String
  size : Nat
  readers : Nat
  writers : Nat
  /-- How many bytes it takes; one without a limit collects. -/
  capacity? : Option Nat

/-- How many bytes a pipe takes that is not read. -/
def pipeCapacity : Nat := 65536

/-- What a pipe holds. -/
def Pipe.text (p : Pipe) : String := String.ofList p.front ++ String.join p.back.reverse

/-- Where an open file leads. -/
inductive Channel where
  | file (id : Nat)
  | reading (pipe : Nat)
  | writing (pipe : Nat)
  /-- Both ends of a pipe. -/
  | looping (pipe : Nat)
deriving DecidableEq, Repr

/-- A file as it was opened; several descriptors may share it. -/
structure OpenFile where
  channel : Channel
  offset : Nat
  mode : OpenMode
  users : Nat

/-- A descriptor of a process. -/
structure Descriptor where
  number : Nat
  /-- The number of the open file. -/
  file : Nat
  closesOnRestart : Bool
deriving DecidableEq, Repr

/-- What a process does. -/
inductive Activity where
  | running (p : Program)
  | waiting (r : Request) (next : Reply → Program)
  /-- It has ended, and nobody has asked how. -/
  | over (e : Ending)

/-- A process. -/
structure Process where
  id : Nat
  parent : Nat
  /-- The group it belongs to, by the number of the process that began it. -/
  group : Nat
  /-- Nanoseconds. -/
  clock : Nat
  /-- How many requests it has made. -/
  steps : Nat
  activity : Activity
  stopped : Bool
  descriptors : List Descriptor
  /-- The working directory. -/
  dir : Nat
  mask : Nat
  dispositions : List (Nat × Disposition)
  /-- The signals that were caught. -/
  pending : List Nat
  /-- The limits in force and the limits of the limits. -/
  limits : List (Char × Option Nat × Option Nat)

/-- Everything there is. -/
structure System where
  disk : Disk
  files : Array OpenFile
  pipes : Array Pipe
  /-- The pipes of those files that are pipes with a name, by the numbers of the files. -/
  namedPipes : List (Nat × Nat) := []
  processes : List Process
  nextProcess : Nat
  /-- Whether something happened that a process may have waited for. -/
  stirred : Bool

/-! ## Descriptors -/

namespace Process

/-- What a process wants to happen when a signal comes. -/
def disposition (p : Process) (signal : Nat) : Disposition :=
  ((p.dispositions.find? fun d => d.1 == signal).map (·.2)).getD .standard

/-- Whether a process has ended. -/
def isOver (p : Process) : Bool :=
  match p.activity with
  | .over _ => true
  | _ => false

/-- A descriptor by its number. -/
def descriptor? (p : Process) (d : Nat) : Option Descriptor :=
  p.descriptors.find? fun x => x.number == d

/-- The first number from `least` on that no descriptor has. -/
def freeNumber (p : Process) (least : Nat) : Nat :=
  ((List.range (p.descriptors.length + 1)).find? fun i =>
    (p.descriptor? (least + i)).isNone).getD 0 + least

/-- The limit in force on a resource. -/
def limit (p : Process) (resource : Char) : Option Nat × Option Nat :=
  ((p.limits.find? fun l => l.1 == resource).map (·.2)).getD (none, none)

end Process

namespace System

/-- The process of a number. -/
def process? (s : System) (id : Nat) : Option Process := s.processes.find? fun p => p.id == id

/-- The system with one process changed. -/
def change (s : System) (id : Nat) (f : Process → Process) : System :=
  { s with processes := s.processes.map fun p => if p.id = id then f p else p }

/-- The system with one pipe changed. -/
def changePipe (s : System) (i : Nat) (f : Pipe → Pipe) : System :=
  { s with pipes := s.pipes.modify i f, stirred := true }

/-- The system with one more open file, and its number. -/
def addFile (s : System) (channel : Channel) (mode : OpenMode) : Nat × System :=
  let s := match channel with
    | .reading i => s.changePipe i fun p => { p with readers := p.readers + 1 }
    | .writing i => s.changePipe i fun p => { p with writers := p.writers + 1 }
    | .looping i => s.changePipe i fun p =>
      { p with readers := p.readers + 1, writers := p.writers + 1 }
    | .file _ => s
  (s.files.size, { s with files := s.files.push ⟨channel, 0, mode, 1⟩ })

/-- One more descriptor leads to an open file. -/
def share (s : System) (file : Nat) : System :=
  { s with files := s.files.modify file fun f => { f with users := f.users + 1 } }

/-- One descriptor less leads to an open file. -/
def release (s : System) (file : Nat) : System :=
  match s.files[file]? with
  | none => s
  | some f =>
    let s := { s with files := s.files.modify file fun f => { f with users := f.users - 1 } }
    if 1 < f.users then s
    else
      match f.channel with
      | .reading i => s.changePipe i fun p => { p with readers := p.readers - 1 }
      | .writing i => s.changePipe i fun p => { p with writers := p.writers - 1 }
      | .looping i => s.changePipe i fun p =>
        { p with readers := p.readers - 1, writers := p.writers - 1 }
      | .file _ => s

/-- Closes a descriptor of a process. -/
def closeDescriptor (s : System) (p : Process) (number : Nat) : System :=
  match p.descriptor? number with
  | none => s
  | some d =>
    let s := s.change p.id fun p =>
      { p with descriptors := p.descriptors.filter fun x => x.number != number }
    s.release d.file

/-- Gives a process a descriptor that leads to an open file, which already counts it. -/
def place (s : System) (p : Process) (d : Descriptor) : System :=
  (s.closeDescriptor p d.number).change p.id fun p => { p with descriptors := d :: p.descriptors }

/-! ## Pipes -/

/-- Takes at most so many bytes out of a pipe. -/
def takeBytes (p : Pipe) (size : Nat) : String × Pipe :=
  let front := if p.front.isEmpty then (String.join p.back.reverse).toList else p.front
  let back := if p.front.isEmpty then [] else p.back
  let text := String.ofList (front.take size)
  (text, { p with front := front.drop size, back := back, size := p.size - text.length })

/-- Puts bytes into a pipe. -/
def putBytes (p : Pipe) (text : String) : Pipe :=
  { p with back := text :: p.back, size := p.size + text.length }

/-! ## Ends of processes and signals -/

/-- The first of all processes, which takes over those whose parent has ended. -/
def keeper : Nat := 1

/-- Ends a process at a time. -/
def finish (s : System) (id now : Nat) (e : Ending) : System :=
  match s.process? id with
  | none => s
  | some p =>
    if p.isOver then s
    else
      let s := p.descriptors.foldl (fun s d => s.release d.file) s
      let s := s.change id fun p =>
        { p with activity := .over e, descriptors := [], clock := now, pending := [] }
      let adopted := s.processes.map fun q => if q.parent = id then { q with parent := keeper } else q
      let kept := adopted.filter fun q => !(q.parent = keeper && q.isOver)
      -- The parent is told if it wants to be.
      let told := kept.map fun q =>
        if q.id = p.parent && q.disposition childEnded = .caught &&
            !q.pending.contains childEnded then { q with pending := childEnded :: q.pending }
        else q
      { s with processes := told, stirred := true }

/-- What a request that is waited for is told when a signal is caught. -/
def breaksOff : Request → Bool
  | .read _ _ => true
  | .wait _ .alert => true
  | _ => false

/-- A signal reaches a process at a time. -/
def deliver (s : System) (id now signal : Nat) : System :=
  match s.process? id with
  | none => s
  | some p =>
    if p.isOver || signal = 0 then s
    else
      match (if isStubborn signal then .standard else p.disposition signal) with
      | .ignored => s
      | .caught =>
        s.change id fun p =>
          let p := if p.pending.contains signal then p
            else { p with pending := signal :: p.pending }
          match p.activity with
          | .waiting r next =>
            if breaksOff r then
              { p with activity := .running (next (.failed .interrupted)), clock := max p.clock now }
            else p
          | _ => p
      | .standard =>
        match effectOf signal with
        | .ends => s.finish id now (.killed signal)
        | .stops => s.change id fun p => { p with stopped := true }
        | .goesOn => s.change id fun p => { p with stopped := false, clock := max p.clock now }
        | .nothing => s

/-! ## Replies -/

/-- What comes of a request. -/
inductive Outcome where
  | replied (r : Reply) (s : System)
  /-- The process has to wait; what is left of the request is asked again later. -/
  | waits (r : Request) (s : System)

/-- A request that is replied to with a value, or fails. -/
def replying (s : System) : Except FileError Reply → Outcome
  | .ok r => .replied r s
  | .error e => .replied (.failed e) s

/-- A request that changes the disk, or fails. -/
def changing (s : System) : Except FileError Disk → Outcome
  | .ok disk => .replied .done { s with disk := disk }
  | .error e => .replied (.failed e) s

/-! ## Files -/

/-- The descriptor that a path is another name of, if it is. -/
def descriptorOf? (path : String) : Option Nat :=
  match path with
  | "/dev/stdin" => some 0
  | "/dev/stdout" => some 1
  | "/dev/stderr" => some 2
  | _ =>
    let after? (head : String) : Option (List Char) :=
      if head.toList.isPrefixOf path.toList then some (path.toList.drop head.length) else none
    ((after? "/dev/fd/").orElse fun _ => after? "/proc/self/fd/").bind Text.natOf?

/-- The open file of a descriptor. -/
def fileOf? (s : System) (p : Process) (d : Nat) : Option (Nat × OpenFile) :=
  (p.descriptor? d).bind fun x => (s.files[x.file]?).map fun f => (x.file, f)

/-- Whether a process has as many descriptors as it may have. -/
def isFull (p : Process) (number : Nat) : Bool :=
  match (p.limit 'n').1 with
  | some n => n ≤ number
  | none => false

/-- Opens a file and gives the process a descriptor for it. -/
def opened (s : System) (p : Process) (channel : Channel) (mode : OpenMode) : Outcome :=
  let number := p.freeNumber 0
  if isFull p number then .replied (.failed .tooManyFiles) s
  else
    let (file, s) := s.addFile channel mode
    .replied (.number number) (s.place p ⟨number, file, false⟩)

/-- Opens the ends of a pipe that a mode asks for. -/
def openEnds (s : System) (p : Process) (i : Nat) (mode : OpenMode) : Outcome :=
  s.opened p (if !mode.writes then .reading i else if mode.reads then .looping i else .writing i)
    mode

/-- The pipe of a file that is one; nothing is left in a pipe that nobody had open. -/
def namedPipe (s : System) (id : Nat) : Nat × System :=
  let isOpen (i : Nat) : Bool :=
    ((s.pipes[i]?).map fun p => p.readers != 0 || p.writers != 0).getD false
  match s.namedPipes.find? fun x => x.1 == id && isOpen x.2 with
  | some (_, i) => (i, s)
  | none =>
    let others := s.namedPipes.filter fun x => x.1 != id
    (s.pipes.size, { s with
      pipes := s.pipes.push ⟨[], [], 0, 0, 0, some pipeCapacity⟩
      namedPipes := (id, s.pipes.size) :: others })

/-- Waits until somebody has the other end of a pipe open; the reply is the descriptor. -/
def meet (s : System) (d : Nat) (channel : Channel) : Outcome :=
  let isAlone : Bool := match channel with
    | .reading i => ((s.pipes[i]?).map fun p => p.writers == 0).getD false
    | .writing i => ((s.pipes[i]?).map fun p => p.readers == 0).getD false
    | _ => false
  if isAlone then .waits (.meet d) s else .replied (.number d) s

/-- Opens a file that is there, by its number. -/
def openExisting (s : System) (p : Process) (id : Nat) (mode : OpenMode) : Outcome :=
  match s.disk.body? id with
  | some .pipe =>
    let (i, s) := s.namedPipe id
    match s.openEnds p i mode with
    | .replied (.number d) s =>
      let channel? := ((s.process? p.id).bind fun p => s.fileOf? p d).map (·.2.channel)
      s.meet d (channel?.getD (.file id))
    | outcome => outcome
  | some (.dir _ _) =>
    if mode.writes then .replied (.failed .isDirectory) s else s.opened p (.file id) mode
  | _ =>
    let s := if mode.empties then { s with disk := s.disk.resize p.clock id 0 } else s
    s.opened p (.file id) mode

/-- Opens the file that a path means. -/
def openFile (s : System) (p : Process) (path : String) (mode : OpenMode) (permissions : Nat) :
    Outcome :=
  match descriptorOf? path with
  | some d =>
    match s.fileOf? p d with
    | none => .replied (.failed .missing) s
    | some (_, f) =>
      match f.channel with
      | .file id => s.openExisting p id mode
      | .reading i => s.openEnds p i mode
      | .writing i => s.openEnds p i mode
      | .looping i => s.openEnds p i mode
  | none =>
    let endsOpen := mode.creates && path.toList.getLast? = some '/'
    -- A path that ends with a slash is no place for a new file.
    let bare := if endsOpen then String.ofList (Text.dropTail (· == '/') path.toList) else path
    match s.disk.locate false p.dir (if endsOpen && bare = "" then "/" else bare) with
    | .error e => .replied (.failed e) s
    | .ok place =>
      if endsOpen then .replied (.failed .isDirectory) s
      else match place.file? with
      | some id =>
        if mode.isNew then .replied (.failed .alreadyThere) s else s.openExisting p id mode
      | none =>
        if !mode.creates then .replied (.failed .missing) s
        else
          let free := permissions &&& (0o777 ^^^ p.mask)
          match s.disk.create p.clock place (.data .empty) free with
          | .error e => .replied (.failed e) s
          | .ok (id, disk) => { s with disk := disk }.opened p (.file id) mode

/-- What is known of an open file. -/
def describe (s : System) (f : OpenFile) : Option FileInfo :=
  match f.channel with
  | .file id => s.disk.info? id
  | .reading i => some ⟨.pipe, 0o600, 0, 0, 1000000 + i, 1⟩
  | .writing i => some ⟨.pipe, 0o600, 0, 0, 1000000 + i, 1⟩
  | .looping i => some ⟨.pipe, 0o600, 0, 0, 1000000 + i, 1⟩

/-! ## Reading and writing -/

/-- Reads from an open file. -/
def readFrom (s : System) (d size file : Nat) (f : OpenFile) : Outcome :=
  let readPipe (i : Nat) : Outcome :=
    match s.pipes[i]? with
    | none => .replied (.text "") s
    | some pipe =>
      if pipe.size = 0 then
        if pipe.writers = 0 then .replied (.text "") s else .waits (.read d size) s
      else
        let (text, pipe') := takeBytes pipe size
        .replied (.text text) (s.changePipe i fun _ => pipe')
  match f.channel with
  | .writing _ => .replied (.failed .badDescriptor) s
  | .reading i => readPipe i
  | .looping i => readPipe i
  | .file id =>
    if !f.mode.reads then .replied (.failed .badDescriptor) s
    else
      match s.disk.body? id with
      | some (.data bytes) =>
        let text := Disk.slice bytes f.offset size
        .replied (.text text) { s with files := s.files.modify file fun f =>
          { f with offset := f.offset + text.length } }
      | some (.dir _ _) => .replied (.failed .isDirectory) s
      | some (.device .zero) => .replied (.text (String.ofList (List.replicate size '\x00'))) s
      | some (.device .full) => .replied (.text (String.ofList (List.replicate size '\x00'))) s
      | _ => .replied (.text "") s

/-- How many bytes are written to a pipe as one. -/
def pipeUnit : Nat := 4096

/-- Writes to an open file. -/
def writeTo (s : System) (p : Process) (d : Nat) (text : String) (file : Nat) (f : OpenFile) :
    Outcome :=
  let writePipe (i : Nat) : Outcome :=
    match s.pipes[i]? with
    | none => .replied (.failed .badDescriptor) s
    | some pipe =>
      if pipe.readers = 0 then
        let s := s.deliver p.id p.clock brokenPipe
        .replied (.failed .brokenPipe) s
      else
        let free := match pipe.capacity? with
          | some n => n - pipe.size
          | none => text.length
        if text.length ≤ free then
          .replied (.number text.length) (s.changePipe i (putBytes · text))
        else if free = 0 || text.length ≤ pipeUnit then .waits (.write d text) s
        else
          let s := s.changePipe i (putBytes · (String.ofList (text.toList.take free)))
          .waits (.write d (String.ofList (text.toList.drop free))) s
  match f.channel with
  | .reading _ => .replied (.failed .badDescriptor) s
  | .writing i => writePipe i
  | .looping i => writePipe i
  | .file id =>
    if !f.mode.writes then .replied (.failed .badDescriptor) s
    else
      match s.disk.body? id with
      | some (.device .full) => .replied (.failed .noSpace) s
      | some (.device _) => .replied (.number text.length) s
      | some body =>
        let offset := if f.mode.appends then Disk.sizeOf body else f.offset
        .replied (.number text.length) { s with
          disk := s.disk.write p.clock id offset text
          files := s.files.modify file fun f => { f with offset := offset + text.length } }
      | none => .replied (.failed .badDescriptor) s

/-- Moves the place in an open file where it is read and written. -/
def seekIn (s : System) (offset : Int) (origin : Origin) (file : Nat) (f : OpenFile) : Outcome :=
  match f.channel with
  | .file id =>
    let size := ((s.disk.body? id).map Disk.sizeOf).getD 0
    let from' : Int := match origin with
      | .start => 0
      | .here => f.offset
      | .finish => size
    let goal := from' + offset
    if goal < 0 then .replied (.failed .invalid) s
    else
      .replied (.number goal.toNat) { s with files := s.files.modify file fun f =>
        { f with offset := goal.toNat } }
  | _ => .replied (.failed .noSeek) s

/-- Looks for a child that has ended. -/
def awaitChild (s : System) (p : Process) (child? : Option Nat) (patience : Patience) : Outcome :=
  let children := s.processes.filter fun q =>
    q.parent = p.id && (child?.map (· == q.id)).getD true
  let ended := (children.filterMap fun q =>
    match q.activity with
    | .over e => some (q.clock, q.id, e)
    | _ => none).mergeSort fun a b => a.1 ≤ b.1
  match children, ended with
  | [], _ => .replied (.failed .noChild) s
  | _, (_, id, e) :: _ =>
    .replied (.ended id e) { s with processes := s.processes.filter fun q => q.id != id }
  | _, [] =>
    match patience with
    | .none => .replied .done s
    | .deaf => .waits (.wait child? patience) s
    | .alert =>
      if p.pending.isEmpty then .waits (.wait child? patience) s
      else .replied (.failed .interrupted) s

/-- Sends a signal. -/
def send (s : System) (p : Process) (target : Int) (signal : Nat) : Outcome :=
  if 0 < target then
    let id := target.toNat
    if id = keeper || id = p.parent && (s.process? id).isNone then .replied .done s
    else
      match s.process? id with
      | none => .replied (.failed .noProcess) s
      | some _ => .replied .done (s.deliver id p.clock signal)
  else
    let group := if target = 0 then p.group else target.natAbs
    let members := s.processes.filter fun q => q.group = group && !q.isOver
    if members.isEmpty then .replied (.failed .noProcess) s
    else .replied .done (members.foldl (fun s q => s.deliver q.id p.clock signal) s)

/-- What a file holds as a program. -/
def load (s : System) (p : Process) (path : String) : Except FileError Reply :=
  match s.disk.find false p.dir path with
  | .error e => .error e
  | .ok id =>
    match s.disk.file? id with
    | none => .error .missing
    | some f =>
      if f.mode &&& 0o111 = 0 then .error .denied
      else
        match f.body with
        | .utility name => .ok (.loaded (.utility name))
        | .data bytes => .ok (.loaded (.script (Disk.slice bytes 0 bytes.size)))
        | _ => .error .denied

/-- The entries of a directory. -/
def entryNames (s : System) (p : Process) (path : String) : Except FileError Reply :=
  match s.disk.find false p.dir path with
  | .error e => .error e
  | .ok id =>
    match s.disk.entries? id with
    | some (entries, _) => .ok (.texts entries.keys)
    | none => .error .notDirectory

/-- The path that a link holds. -/
def linkTarget (s : System) (p : Process) (path : String) : Except FileError Reply :=
  match s.disk.find true p.dir path with
  | .error e => .error e
  | .ok id =>
    match s.disk.body? id with
    | some (.link target) => .ok (.text target)
    | _ => .error .invalid

/-- What is known of the file that a path means. -/
def look (s : System) (p : Process) (path : String) (keepLast : Bool) : Except FileError Reply :=
  match descriptorOf? path with
  | some d =>
    match (s.fileOf? p d).bind fun f => s.describe f.2 with
    | some i => .ok (.info i)
    | none => .error .missing
  | none => (s.disk.info keepLast p.dir path).map .info

/-- The reply to a request of a process. -/
def answer (s : System) (p : Process) (r : Request) : Outcome :=
  let now := p.clock
  let withFile (d : Nat) (f : Nat → OpenFile → Outcome) : Outcome :=
    match s.fileOf? p d with
    | some (file, x) => f file x
    | none => .replied (.failed .badDescriptor) s
  match r with
  | .tick => .replied .done s
  | .sleep _ => .replied .done s
  | .time => .replied (.number now) s
  | .openFile path mode permissions => s.openFile p path mode permissions
  | .meet d => withFile d fun _ f => s.meet d f.channel
  | .close d =>
    if (p.descriptor? d).isNone then .replied (.failed .badDescriptor) s
    else .replied .done (s.closeDescriptor p d)
  | .copy d goal =>
    withFile d fun file _ =>
      if d = goal then .replied .done s
      else .replied .done ((s.share file).place p ⟨goal, file, false⟩)
  | .copyAbove d least =>
    withFile d fun file _ =>
      let number := p.freeNumber least
      .replied (.number number) ((s.share file).place p ⟨number, file, true⟩)
  | .pipe =>
    let i := s.pipes.size
    let s := { s with pipes := s.pipes.push ⟨[], [], 0, 0, 0, some pipeCapacity⟩ }
    let (fileR, s) := s.addFile (.reading i) .input
    let (fileW, s) := s.addFile (.writing i) .output
    let r := p.freeNumber 0
    let w := p.freeNumber (r + 1)
    let s := s.place p ⟨r, fileR, false⟩
    let s := s.place p ⟨w, fileW, false⟩
    .replied (.pair r w) s
  | .read d size => withFile d (s.readFrom d size)
  | .write d text => withFile d (s.writeTo p d text)
  | .seek d offset origin => withFile d (s.seekIn offset origin)
  | .describe d =>
    withFile d fun _ f =>
      match s.describe f with
      | some i => .replied (.info i) s
      | none => .replied (.failed .badDescriptor) s
  | .look path keepLast => s.replying (s.look p path keepLast)
  | .names path => s.replying (s.entryNames p path)
  | .makeDir path permissions =>
    s.changing (s.disk.makeDir now p.dir path (permissions &&& (0o777 ^^^ p.mask)))
  | .makePipe path permissions =>
    s.changing (s.disk.makePipe now p.dir path (permissions &&& (0o777 ^^^ p.mask)))
  | .removeDir path => s.changing (s.disk.removeDir now p.dir path)
  | .remove path => s.changing (s.disk.remove now p.dir path)
  | .rename old new => s.changing (s.disk.rename now p.dir old new)
  | .addName old new => s.changing (s.disk.addName now p.dir old new)
  | .makeLink target path => s.changing (s.disk.makeLink now p.dir target path)
  | .linkTarget path => s.replying (s.linkTarget p path)
  | .setMode path mode => s.changing (s.disk.setMode p.dir path mode)
  | .setTime path time => s.changing (s.disk.setTime p.dir path time)
  | .resize path size =>
    match s.disk.find false p.dir path with
    | .error e => .replied (.failed e) s
    | .ok id =>
      if s.disk.isDir id then .replied (.failed .isDirectory) s
      else .replied .done { s with disk := s.disk.resize now id size }
  | .load path => s.replying (s.load p path)
  | .goTo path =>
    match s.disk.find false p.dir path with
    | .error e => .replied (.failed e) s
    | .ok id =>
      if s.disk.isDir id then .replied .done (s.change p.id fun p => { p with dir := id })
      else .replied (.failed .notDirectory) s
  | .place => .replied (.text (s.disk.dirPath p.dir)) s
  | .mask permissions? =>
    .replied (.number p.mask) (match permissions? with
      | some m => s.change p.id fun p => { p with mask := m }
      | none => s)
  | .self => .replied (.number p.id) s
  | .parent => .replied (.number p.parent) s
  | .group => .replied (.number p.group) s
  | .lead => .replied .done (s.change p.id fun p => { p with group := p.id })
  | .wait child? patience => s.awaitChild p child? patience
  | .kill target signal => s.send p target signal
  | .handle signal d =>
    .replied .done (s.change p.id fun p =>
      { p with dispositions := (signal, d) :: p.dispositions.filter fun x => x.1 != signal })
  | .disposition signal => .replied (.disposed (p.disposition signal)) s
  | .caught =>
    .replied (.numbers (p.pending.mergeSort)) (s.change p.id fun p => { p with pending := [] })
  | .restart =>
    let s := (p.descriptors.filter (·.closesOnRestart)).foldl
      (fun s d => s.closeDescriptor p d.number) s
    .replied .done (s.change p.id fun p =>
      { p with
          dispositions := p.dispositions.filter fun d => d.2 == .ignored
          pending := [] })
  | .limit resource => let (soft, hard) := p.limit resource; .replied (.limits soft hard) s
  | .setLimit resource hard value? =>
    .replied .done (s.change p.id fun p =>
      let (soft, top) := p.limit resource
      let pair := if hard then (soft, value?) else (value?, top)
      { p with limits := (resource, pair) :: p.limits.filter fun l => l.1 != resource })

/-! ## Time -/

/-- After how many requests a process is taken to work for ever. -/
def patienceSteps : Nat := 300000

/-- By what the cost of a request is multiplied after so many others. -/
def weariness (steps : Nat) : Nat :=
  if steps < patienceSteps then 1 else Nat.pow 2 (min 60 ((steps - patienceSteps) / 20000))

/-- The time that a request takes, in nanoseconds. -/
def cost : Request → Nat
  | .tick => 1000
  | .sleep n => n
  | .load _ => 300000
  | _ => 500

/-- How long it takes until a new process makes its first request. -/
def birth : Nat := 150000

/-- The system after a request of a process, which has the given reply or waits. -/
def after (s : System) (p : Process) (r : Request) (next : Reply → Program) : System :=
  match s.answer p r with
  | .replied reply s =>
    let clock := p.clock + cost r * weariness p.steps
    s.change p.id fun q =>
      if q.isOver then q
      else { q with activity := .running (next reply), clock := clock, steps := p.steps + 1 }
  | .waits r s => s.change p.id fun q => { q with activity := .waiting r next }

/-- One running process goes on by one request. -/
def step (s : System) (p : Process) : System :=
  match p.activity with
  | .running (.exit status) => s.finish p.id p.clock (.exited (status % 256))
  | .running (.ask r next) => s.after p r next
  | .running (.fork child next) =>
    let id := s.nextProcess
    let s := p.descriptors.foldl (fun s d => s.share d.file) s
    let born : Process :=
      { p with
          id := id
          parent := p.id
          clock := p.clock + birth
          steps := 0
          activity := .running child
          pending := [] }
    let s := s.change p.id fun p =>
      { p with activity := .running (next id), clock := p.clock + 50000 }
    { s with processes := s.processes ++ [born], nextProcess := id + 1 }
  | _ => s

/-- A waiting process asks again. -/
def retry (s : System) (now id : Nat) : System :=
  match s.process? id with
  | some p =>
    match p.activity with
    | .waiting r next =>
      let p := { p with clock := max p.clock now }
      match s.answer p r with
      | .replied reply s =>
        s.change id fun q =>
          if q.isOver then q else { q with activity := .running (next reply), clock := p.clock }
      | .waits r s => s.change id fun q => { q with activity := .waiting r next }
    | _ => s
  | none => s

/-- The processes that waited for what has happened go on; what they do may let others go on,
a limited number of times. -/
def settle : Nat → Nat → System → System
  | 0, _, s => s
  | turns + 1, now, s =>
    if !s.stirred then s
    else
      let ids := s.processes.filterMap fun p =>
        match p.activity with
        | .waiting _ _ => some p.id
        | _ => none
      settle turns now (ids.foldl (fun s id => s.retry now id) { s with stirred := false })

/-- The process that goes on next: of those that can, the one whose clock is behind. -/
def next? (s : System) : Option Process :=
  s.processes.foldl (fun best? p =>
    match p.activity with
    | .running _ =>
      if p.stopped then best?
      else
        match best? with
        | some best => if p.clock < best.clock then some p else best?
        | none => some p
    | _ => best?) none

/-- Lets processes go on until `isEnough` holds, until the next thing that happens lies after
`limit`, or for a number of steps. -/
def runUntil (isEnough : System → Bool) (limit : Nat) : Nat → System → System
  | 0, s => s
  | turns + 1, s =>
    if isEnough s then s
    else
      match s.next? with
      | none => s
      | some p =>
        if limit < p.clock then s
        else
          let s := s.step p
          runUntil isEnough limit turns (if s.stirred then s.settle 100 p.clock else s)

end System

end LintLedger.Machine
