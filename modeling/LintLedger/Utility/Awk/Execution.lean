import LintLedger.Utility.Awk.State

/-!
# Running scripts of rules

Lines are read one after the other, and what the rules of a script say is done for each.

## Main Definitions

* `eval` -- the value of a term
* `exec` -- carries out a statement
* `awk` -- runs a script
-/

namespace LintLedger.Utility.Awk

open LintLedger.Machine

/-! ## Functions of texts -/

/-- A part of a text from a place on, of a length if there is one. -/
def partOf (s : String) (start : Float) (length? : Option Float) : String :=
  let cs := s.toList
  let far (x : Float) : Int := Text.clamp (-(Int.pow 2 62)) (Int.pow 2 62) (nearestWord x)
  let first := far start
  match length? with
  | none => String.ofList (cs.drop (first - 1).toNat)
  | some n =>
    let n := if first ≤ 0 then far n - first else far n
    String.ofList ((cs.drop (first - 1).toNat).take n.toNat)

/-- Where a text is first found in another, counted from one; zero if it is not. -/
def indexIn (part : List Char) : List Char → Nat → Nat
  | [], n => if part.isEmpty then n else 0
  | c :: rest, n => if part.isPrefixOf (c :: rest) then n else indexIn part rest (n + 1)

/-- A replacement for what was found: an ampersand stands for that, unless there is a backslash
before it. -/
def replacement (found : List Char) : Nat → List Char → List Char
  | 0, cs => cs
  | _, [] => []
  | fuel + 1, '&' :: rest => found ++ replacement found fuel rest
  | fuel + 1, '\\' :: rest =>
    let slashes := '\\' :: rest.takeWhile (· == '\\')
    let after := rest.drop (slashes.length - 1)
    match after with
    | '&' :: more =>
      let half := List.replicate (slashes.length / 2) '\\'
      if slashes.length % 2 = 1 then half ++ '&' :: replacement found fuel more
      else half ++ found ++ replacement found fuel more
    | after => slashes ++ replacement found fuel after
  | fuel + 1, c :: rest => c :: replacement found fuel rest

/-- A text from a place on, the last part first, in which what a pattern fits is replaced: all
of that or the first, with how many were.  Something that fits no characters is not taken where
the last one ends. -/
def replaceIn (r : Regex) (s : Regex.Subject) (all : Bool) (value : List Char) :
    Nat → Nat → Option Nat → List (List Char) → Nat → List (List Char) × Nat
  | 0, _, _, done, n => (done, n)
  | fuel + 1, start, last?, done, n =>
    let text (a b : Nat) : List Char := (s.chars.extract a b).toList
    match (if s.chars.size < start || (!all && 0 < n) then none else r.find? s start) with
    | none => (text start s.chars.size :: done, n)
    | some (first, p) =>
      let before := text start first
      let isEmpty := p.finish = first
      let next := if isEmpty then text first (first + 1) else []
      let onward := if isEmpty then first + 1 else p.finish
      if isEmpty && last? = some first then
        replaceIn r s all value fuel onward none (next :: before :: done) n
      else
        let new := replacement (text first p.finish) (value.length + 1) value
        if all then
          replaceIn r s all value fuel onward (some p.finish) (next :: new :: before :: done) (n + 1)
        else (text p.finish s.chars.size :: new :: before :: done, n + 1)

/-- What something random comes to. -/
def drawn (seed : Float) (n : UInt64) : Float :=
  let x := (seed.toBits + n * 0x9e3779b97f4a7c15) ^^^ 0x2545f4914f6cdd1d
  let x := (x ^^^ (x >>> 30)) * 0xbf58476d1ce4e5b9
  let x := (x ^^^ (x >>> 27)) * 0x94d049bb133111eb
  Float.ofNat ((x ^^^ (x >>> 31)).toNat / 2048) / 9007199254740992.0

/-! ## Terms and statements -/

/-- The number of a field that a value is. -/
def fieldNumber (v : Value) : Run Nat := do
  let i := nearestWord v.toNumber
  if i < 0 then failRunning ("negative field index $" ++ toString i) else return i.toNat

/-- What can be given a value, settled. -/
inductive Location where
  | place (p : Place)
  | field (n : Nat)
  | element (table : Nat) (k : Key)
  | nowhere

/-- The value at a location. -/
def Location.fetch : Location → Run Value
  | .place p => getPlace p
  | .field n => getField n
  | .element id k => withTable id fun t => t.touch k .unset
  | .nowhere => return .unset

/-- Gives a location a value. -/
def Location.store (v : Value) : Location → Run Unit
  | .place p => setPlace p v
  | .field n => setField n v
  | .element id k => withTable id fun t => ((), t.put k v)
  | .nowhere => pure ()

/-- The texts of values as they are printed. -/
def printedTexts (vs : List Value) : Run (List String) := do
  let form ← sharedText printedFormat
  return vs.map (Value.toText form)

/-- A format filled with values. -/
def filled (name form : String) (vs : List Value) : Run (String × Option String) := do
  let (text, fault?) := fill (← sharedText textFormat) form vs
  return (text, fault?.map fun e => e.words name form)

/-- How many arguments of functions there may be at a time. -/
def stackSize : Nat := 1024

/-- The value of a function of one number. -/
def mathematical? : Builtin → Option (Float → Float)
  | .sine => some Float.sin
  | .cosine => some Float.cos
  | .exponential => some Float.exp
  | .logarithm => some Float.log
  | .squareRoot => some Float.sqrt
  | .truncate => some truncated
  | _ => none

mutual

/-- The value of a term. -/
def eval : Nat → Term → Run Value
  | 0, _ => return .unset
  | fuel + 1, a => do
    match a with
    | .number x => return .number x
    | .text s => return .text s
    | .regex r => return .ofBool (r.occursIn (subject (← get).line))
    | .variable p => getPlace p
    | .field a =>
      let n ← fieldNumber (← eval fuel a)
      getField n
    | .element t keys =>
      let k ← keyOf (← evalAll fuel keys)
      let id ← tableAt t
      withTable id fun t => t.touch k .unset
    | .group a => eval fuel a
    | .assign target o? a =>
      let l ← locate fuel target
      let v ← eval fuel a
      match o? with
      | none =>
        l.store v
        return v
      | some o =>
        let v := .number (o.apply (← l.fetch).toNumber v.toNumber)
        l.store v
        return v
    | .step target down before =>
      let l ← locate fuel target
      let x := (← l.fetch).toNumber
      let next := if down then x - 1.0 else x + 1.0
      l.store (.number next)
      return .number (if before then x else next)
    | .operate o a b =>
      let x := (← eval fuel a).toNumber
      let y := (← eval fuel b).toNumber
      return .number (o.apply x y)
    | .compare o a b =>
      let x ← eval fuel a
      let y ← eval fuel b
      return .ofBool (o.holds (order (← sharedText textFormat) x y))
    | .fits isNot a b =>
      let s ← textOf (← eval fuel a)
      let r ← evalPattern fuel b
      return .ofBool (r.occursIn (subject s) != isNot)
    | .join a b =>
      let s ← textOf (← eval fuel a)
      let t ← textOf (← eval fuel b)
      return .text (s ++ t)
    | .has t keys =>
      let k ← keyOf (← evalAll fuel keys)
      let id ← tableAt t
      return .ofBool (← withTable id fun t => t.has k)
    | .not a => return .ofBool (!(← eval fuel a).isTrue)
    | .negate a => return .number (-(← eval fuel a).toNumber)
    | .positive a => return .number (← eval fuel a).toNumber
    | .and a b =>
      if (← eval fuel a).isTrue then return .ofBool (← eval fuel b).isTrue
      else return .ofBool false
    | .or a b =>
      if (← eval fuel a).isTrue then return .ofBool true
      else return .ofBool (← eval fuel b).isTrue
    | .choose c a b => if (← eval fuel c).isTrue then eval fuel a else eval fuel b
    | .builtin b args => evalBuiltin fuel b args
    | .call f args => evalCall fuel f args
    | .readLine target? source? =>
      let line? ← match source? with
        | none => do
          match ← nextLine? with
          | some line => pure (Except.ok (some line))
          | none => pure (.ok none)
        | some (isCommand, a) => do readFrom isCommand (← textOf (← eval fuel a))
      match line? with
      | .error _ => return .number (-1.0)
      | .ok none => return .number 0.0
      | .ok (some line) =>
        match target? with
        | some target => do (← locate fuel target).store (.input line)
        | none => setLine line
        return .number 1.0

/-- The values of terms. -/
def evalAll : Nat → List Term → Run (List Value)
  | 0, _ => return []
  | _, [] => return []
  | fuel + 1, a :: rest => do
    let v ← eval fuel a
    return v :: (← evalAll fuel rest)

/-- The location of what can be given a value. -/
def locate : Nat → Term → Run Location
  | 0, _ => return .nowhere
  | fuel + 1, target => do
    match target with
    | .variable p => return .place p
    | .field a => return .field (← fieldNumber (← eval fuel a))
    | .element t keys =>
      let k ← keyOf (← evalAll fuel keys)
      return .element (← tableAt t) k
    | _ => return .nowhere

/-- The pattern that a term means. -/
def evalPattern : Nat → Term → Run Regex
  | 0, _ => return .nothing
  | fuel + 1, a => do
    match a.bare with
    | .regex r => return r
    | a => do patternOf (← textOf (← eval fuel a))

/-- The value of a call of a function that every script has. -/
def evalBuiltin : Nat → Builtin → List Term → Run Value
  | 0, _, _ => return .unset
  | fuel + 1, b, args => do
    let number (a : Term) : Run Float := do return (← eval fuel a).toNumber
    let text (a : Term) : Run String := do textOf (← eval fuel a)
    match b, args with
    | .length, [] => return .ofNat (← get).line.length
    | .length, [.variable p] =>
      let id? ← match p with
        | .shared i => do pure (if (← get).script.tables.contains i then some i else none)
        | .own i => do
          match (← get).own[i]? with
          | some (.table id) => pure (some id)
          | _ => pure none
      match id? with
      | some id => return .ofNat (((← get).tables[id]?.getD .empty).size)
      | none => return .ofNat (← textOf (← getPlace p)).length
    | .length, a :: _ => return .ofNat (← text a).length
    | .substr, a :: start :: more =>
      let s ← text a
      let start ← number start
      let length? ← more.head?.mapM number
      return .text (partOf s start length?)
    | .index, [a, b] =>
      let s ← text a
      let t ← text b
      return .ofNat (indexIn t.toList s.toList 1)
    | .split, a :: .variable p :: more =>
      let s ← text a
      let mark ← match more with
        | [] => do separatorOf (← sharedText fieldMark)
        | m :: _ =>
          match m.bare with
          | .regex r => pure (Separator.pattern r)
          | m => do separatorOf (← text m)
      let parts := fieldsOf mark s
      let id ← tableAt p
      withTable id fun _ => ((), .ofRow (parts.map Value.input))
      return .ofNat parts.length
    | .substitute all, pattern :: new :: more =>
      let r ← evalPattern fuel pattern
      let new ← text new
      let target := match more with
        | a :: _ => a
        | [] => .field (.number 0.0)
      let l ← locate fuel target.bare
      let s := subject (← match l with
        | .nowhere => text target
        | l => do textOf (← l.fetch))
      let (parts, n) := replaceIn r s all new.toList (s.chars.size + 2) 0 none [] 0
      if 0 < n then l.store (.text (String.ofList parts.reverse.flatten))
      return .ofNat n
    | .find, [a, pattern] =>
      let s := subject (← text a)
      let r ← evalPattern fuel pattern
      let (start, length) : Nat × Float := match r.find? s 0 with
        | some (first, p) => (first + 1, Float.ofNat (p.finish - first))
        | none => (0, -1.0)
      setShared foundStart (.ofNat start)
      setShared foundLength (.number length)
      return .ofNat start
    | .format, form :: values =>
      let form ← text form
      let (s, fault?) ← filled "sprintf" form (← evalAll fuel values)
      match fault? with
      | some e => failRunning e
      | none => return .text s
    | .arcTangent, [a, b] =>
      let y ← number a
      let x ← number b
      return .number (Float.atan2 y x)
    | .random, _ =>
      let s ← get
      set { s with draws := s.draws + 1 }
      return .number (drawn s.seed s.draws)
    | .seed, args =>
      let before := (← get).seed
      let seed ← match args with
        | a :: _ => number a
        | [] => do pure (Float.ofNat ((← act (Act.numberOrZero .time)) / 1000000000))
      modify fun s => { s with seed := seed, draws := 0 }
      return .number before
    | .lower, a :: _ => return .text (String.ofList ((← text a).toList.map Char.toLower))
    | .upper, a :: _ => return .text (String.ofList ((← text a).toList.map Char.toUpper))
    | .system, a :: _ => return .ofNat (← runCommand (← text a))
    | .close, a :: _ =>
      match ← closeAll (← text a) with
      | some n => return .ofNat n
      | none => return .number (-1.0)
    | .flush, _ =>
      flushAll
      return .number 0.0
    | .time, _ => return .ofNat ((← act (Act.numberOrZero .time)) / 1000000000)
    | b, a :: _ =>
      match mathematical? b with
      | some f => return .number (f (← number a))
      | none => return .unset
    | _, [] => return .unset

/-- The value of a call of a function. -/
def evalCall : Nat → Nat → List Term → Run Value
  | 0, _, _ => return .unset
  | fuel + 1, f, args => do
    match (← get).script.functions[f]? with
    | none => return .unset
    | some function =>
      pass
      let depth := (← get).depth + max 1 function.parameters.size
      if stackSize < depth then
        complainAhead ("program limit exceeded: eval stack size=" ++ toString stackSize)
        finish 2
      let slots ← evalArguments fuel function args 0
      let fresh := function.parameters.size - slots.length
      let before := (← get).own
      let tables := (← get).tables.size
      let outer := (← get).depth
      modify fun s =>
        { s with own := slots.toArray ++ Array.replicate fresh (.value .unset), depth := depth }
      let settle : Run Unit := modify fun s =>
        { s with own := before, tables := s.tables.extract 0 tables, depth := outer }
      match ← ExceptT.lift (exec fuel function.body).run with
      | .ok () =>
        settle
        return .unset
      | .error (.answer v) =>
        settle
        return v
      | .error jump => throw jump

/-- What is at the places of the parameters of a function. -/
def evalArguments : Nat → Function → List Term → Nat → Run (List Slot)
  | 0, _, _, _ => return []
  | _, _, [], _ => return []
  | fuel + 1, f, a :: rest, k => do
    let isTable := f.parameters[k]?.getD false
    let slot ← match a with
      | .variable (.shared i) => do
        if isTable || (← get).script.tables.contains i then pure (Slot.table i)
        else do pure (.value (← getPlace (.shared i)))
      | .variable (.own i) => do
        if isTable then do pure (.table (← tableAt (.own i)))
        else do pure ((← get).own[i]?.getD (.value .unset))
      | a => do pure (.value (← eval fuel a))
    return slot :: (← evalArguments fuel f rest (k + 1))

/-- Carries out a statement. -/
def exec : Nat → Statement → Run Unit
  | 0, _ => pure ()
  | fuel + 1, x => do
    let goal (goal? : Option (Outlet × Term)) : Run (Option (Outlet × String)) := do
      match goal? with
      | none => return none
      | some (o, a) => return some (o, ← textOf (← eval fuel a))
    match x with
    | .nothing => pure ()
    | .value a =>
      let _ ← eval fuel a
    | .print args goal? =>
      let texts ← match args with
        | [] => do pure [(← get).line]
        | args => do printedTexts (← evalAll fuel args)
      let line := (← sharedText printedFieldMark).intercalate texts ++ (← sharedText printedLineMark)
      printTo (← goal goal?) line
    | .printFormat args goal? =>
      match ← evalAll fuel args with
      | [] => pure ()
      | form :: values =>
        let form ← textOf form
        let goal? ← goal goal?
        let (text, fault?) ← filled "printf" form values
        printTo goal? text
        match fault? with
        | some e => failRunning e
        | none => pure ()
    | .delete t keys? =>
      let id ← tableAt t
      match keys? with
      | none => withTable id fun _ => ((), .empty)
      | some keys =>
        let k ← keyOf (← evalAll fuel keys)
        withTable id fun t => ((), t.erase k)
    | .block all => execAll fuel all
    | .branch c a b => if (← eval fuel c).isTrue then exec fuel a else exec fuel b
    | .whileLoop c body => execLoop fuel true c .nothing body
    | .doLoop body c => execLoop fuel false c .nothing body
    | .forLoop first c? step body =>
      exec fuel first
      execLoop fuel true (c?.getD (.number 1.0)) step body
    | .forKeys key t body =>
      let id ← tableAt t
      let keys ← withTable id fun t => t.keys
      execKeys fuel key keys body
    | .leaveLoop => throw .leaveLoop
    | .nextTurn => throw .nextTurn
    | .nextLine => throw .nextLine
    | .nextFile => throw .nextFile
    | .exit a? =>
      match a? with
      | some a =>
        let n := nearestWord (← eval fuel a).toNumber
        modify fun s => { s with status := (n % 256).toNat }
      | none => pure ()
      throw .exit
    | .answer a? =>
      match a? with
      | some a => do throw (.answer (← eval fuel a))
      | none => throw (.answer .unset)

/-- Carries out statements. -/
def execAll : Nat → List Statement → Run Unit
  | 0, _ => pure ()
  | _, [] => pure ()
  | fuel + 1, x :: rest => do
    exec fuel x
    execAll fuel rest

/-- Carries out one turn of a loop; the value is whether the loop goes on. -/
def execTurn : Nat → Statement → Run Bool
  | 0, _ => return false
  | fuel + 1, body => do
    pass
    match ← ExceptT.lift (exec fuel body).run with
    | .ok () => return true
    | .error .nextTurn => return true
    | .error .leaveLoop => return false
    | .error jump => throw jump

/-- Carries out a loop, which begins by looking whether it goes on, or with a turn. -/
def execLoop : Nat → Bool → Term → Statement → Statement → Run Unit
  | 0, _, _, _, _ => pure ()
  | fuel + 1, looksFirst, c, step, body => do
    let goesOn ← if looksFirst then do pure (← eval fuel c).isTrue else pure true
    if goesOn then
      if ← execTurn fuel body then
        exec fuel step
        execLoop fuel true c step body

/-- Carries out the turns of a loop over keys. -/
def execKeys : Nat → Place → List String → Statement → Run Unit
  | 0, _, _, _ => pure ()
  | _, _, [], _ => pure ()
  | fuel + 1, key, k :: rest, body => do
    setPlace key (.text k)
    if ← execTurn fuel body then execKeys fuel key rest body

end

/-! ## Whole scripts -/

/-- More steps than any script takes. -/
def manySteps : Nat := 1000000000000

/-- Whether a rule is for the line. -/
def selects (i : Nat) (r : Rule) : Run Bool := do
  let setRange (b : Bool) : Run Unit := modify fun s => { s with ranges := s.ranges.set! i b }
  match r.selection with
  | .all => return true
  | .one c => return (← eval manySteps c).isTrue
  | .range first last =>
    let isInside ← do
      if (← get).ranges[i]?.getD false then pure true
      else do pure (← eval manySteps first).isTrue
    if isInside then setRange !(← eval manySteps last).isTrue
    return isInside

/-- Carries out rules for the line, from one on. -/
def execRules : Nat → List Rule → Run Unit
  | _, [] => pure ()
  | i, r :: rest => do
    if ← selects i r then exec manySteps (r.statement?.getD (.print [] none))
    execRules (i + 1) rest

/-- Carries out the rules for all lines. -/
def execLines : Nat → Run Unit
  | 0 => pure ()
  | turns + 1 => do
    match ← nextLine? with
    | none => pure ()
    | some line =>
      pass
      setLine line
      match ← ExceptT.lift (execRules 0 (← get).script.rules.toList).run with
      | .ok () => execLines turns
      | .error .nextFile =>
        leaveFile
        execLines turns
      | .error .exit => throw .exit
      | .error _ => execLines turns

/-- Carries out a script. -/
def execScript (assignments : List (String × String)) : Run Unit := do
  let ending (m : Run Unit) : Run Bool := do
    match ← ExceptT.lift m.run with
    | .error .exit => return true
    | _ => return false
  assignments.forM fun (name, value) => assignNamed name value
  let script := (← get).script
  let isOver ← ending (script.begins.forM (exec manySteps))
  if !isOver && !(script.rules.isEmpty && script.ends.isEmpty) then
    let _ ← ending (execLines manySteps)
  let _ ← ending (script.ends.forM (exec manySteps))
  finish (← get).status

/-! ## The program -/

/-- What the words of the program say before its operands. -/
structure Words where
  assignments : List (String × String) := []
  /-- The files of the script. -/
  files : List String := []
  operands : List String := []

/-- The text that separates fields, from a word. -/
def markOf (word : String) : String :=
  String.ofList (unescaped (word.length + 1) word.toList)

/-- Takes the words of the program apart. -/
def readWords : Nat → List String → Except String Words
  | 0, words => .ok { operands := words }
  | _, [] => .ok {}
  | fuel + 1, w :: rest =>
    match w.toList with
    | ['-'] => .ok { operands := w :: rest }
    | ['-', '-'] => .ok { operands := rest }
    | '-' :: 'W' :: more => readWords fuel (if more.isEmpty then rest.drop 1 else rest)
    | '-' :: c :: more =>
      if c == 'F' || c == 'v' || c == 'f' then
        let given? : Option (String × List String) :=
          if !more.isEmpty then some (String.ofList more, rest)
          else match rest with
            | value :: rest => some (value, rest)
            | [] => none
        match given? with
        | none => .error ("option -" ++ String.singleton c ++ " lacks argument")
        | some (value, rest) => do
          let x ← readWords fuel rest
          if c == 'F' then
            return { x with assignments := ("FS", markOf value) :: x.assignments }
          else if c == 'f' then return { x with files := value :: x.files }
          else
            match settingIn? value with
            | some setting => return { x with assignments := setting :: x.assignments }
            | none => .error ("improper assignment: -v " ++ value)
      else .error ("not an option: " ++ w)
    | _ => .ok { operands := w :: rest }

/-- The text of a script, and the operands after it. -/
def scriptText (x : Words) : Work (String × List String) := do
  if x.files.isEmpty then
    match x.operands with
    | text :: rest => return (text, rest)
    | [] => leave 2
  else
    let texts ← x.files.mapM fun path => do
      match ← act (readInput path) with
      | .ok text => pure text
      | .error e => die ("cannot open \"" ++ path ++ "\" (" ++ e.words ++ ")")
    return ("\n".intercalate texts, x.operands)

/-- Runs a script of rules. -/
def awk (launch : Launch) (environment : Variables) (words : List String) : Work Unit := do
  let x ← match readWords (words.length + 1) words with
    | .ok x => pure x
    | .error message => die message
  let (text, operands) ← scriptText x
  let script ← match readScript text with
    | .ok script => pure script
    | .error e => die e.message
  let row (all : List String) : Table Value :=
    all.zipIdx.foldl (fun t (s, i) => t.put (.number (Int.ofNat i)) (.input s)) .empty
  let named : Table Value :=
    environment.foldl (fun t (name, value) => t.put (.text name) (.input value)) .empty
  let specials : List (Nat × Value) :=
    [(fieldCount, .number 0.0), (lineCount, .number 0.0), (fileLineCount, .number 0.0),
     (fieldMark, .text " "), (printedFieldMark, .text " "), (printedLineMark, .text "\n"),
     (lineMark, .text "\n"), (fileName, .text ""), (keyMark, .text "\x1c"),
     (textFormat, .text "%.6g"), (printedFormat, .text "%.6g"), (foundStart, .number 0.0),
     (foundLength, .number (-1.0)), (wordCount, .ofNat (operands.length + 1))]
  let s : State :=
    { script := script
      launch := launch
      environment := environment
      shared := specials.foldl (fun a (i, v) => a.set! i v)
        (Array.replicate script.names.size .unset)
      tables := ((Array.replicate script.names.size .empty).set! environmentTable named).set!
        wordTable (row ((← get).name :: operands))
      own := #[]
      line := ""
      fields := #[]
      isSplit := true
      source? := none
      operand := 1
      hasFiles := false
      isOver := false
      writers := []
      readers := []
      ranges := Array.replicate script.rules.size false
      patterns := {}
      seed := 0.0
      draws := 0
      status := 0
      steps := 0
      depth := 0 }
  let _ ← ((execScript x.assignments).run).run s
  pure ()

end LintLedger.Utility.Awk
