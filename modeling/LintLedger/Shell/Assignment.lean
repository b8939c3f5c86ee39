import LintLedger.Shell.State
import LintLedger.Text.Integer

/-!
# Variables and options given values

Some variables mean more to a shell than others: a new search path makes it forget where
programs were found, and the number of an option makes it begin anew with the options of a
word.

Commands take options, letters after a dash; the shell itself has options that are on or off.

## Main Definitions

* `numberOf` -- the number that a word is
* `setVariable`, `unsetVariable` -- a variable with a value, and without
* `withLocals` -- an activity after which variables are what they were
* `readOptions` -- the options at the begin of some words
* `setLetter`, `setNamed` -- an option of the shell turned on or off
* `readShellOptions` -- the options of the shell at the begin of some words
-/

namespace LintLedger.Shell

open LintLedger.Machine

/-- The integer of 64 bits that a text is as a whole, blanks around it not counted. -/
def wholeInteger? (text : String) : Option Int :=
  let r := Text.readInteger (some 10) text.toList
  if r.isNone || !r.rest.all Text.isNumberBlank || !Text.fitsInt64 r.value then none
  else some r.value

/-- The greatest number that a command takes. -/
def greatestNumber : Nat := 2147483647

/-- The number that a word is. -/
def numberOf (text : String) : Sh Nat := do
  match wholeInteger? text with
  | some i =>
    if i < 0 || (greatestNumber : Int) < i then notNumber text else return i.toNat
  | none => notNumber text

/-- What else happens when a variable is given a value. -/
def beforeChange (name value : String) : Sh Unit := do
  if name = "OPTIND" then
    let n ← numberOf value
    modify fun s => { s with parameters :=
      { s.parameters with optionIndex := max n 1, optionPlace? := none } }
  else if name = "PATH" then modify fun s => { s with found := [] }
  else pure ()

/-- Fails for a variable that cannot be changed. -/
def checkChange (name : String) : Sh Unit := do
  if (← get).vars.isReadOnly name then fail (name ++ ": is read only")

/-- Gives a variable of whatever name a value, with nothing else happening if it is `quiet`. -/
def assign (name value : String) (isExported : Bool) (quiet : Bool) : Sh Unit := do
  checkChange name
  if !quiet then beforeChange name value
  modify fun s =>
    { s with vars :=
        s.vars.set name value (isExported || s.has "allexport") false }

/-- The name that a text begins with, up to an equals sign. -/
def nameOf (text : String) : String := String.ofList (text.toList.takeWhile (· != '='))

/-- The value after the equals sign in a text, if there is one. -/
def valueAfter? (text : String) : Option String :=
  match text.toList.dropWhile (· != '=') with
  | _ :: value => some (String.ofList value)
  | [] => none

/-- Fails for what is no name. -/
def checkName (name : String) : Sh Unit := do
  if !isName name then fail (nameOf name ++ ": bad variable name")

/-- Gives a variable a value. -/
def setVariable (name value : String) : Sh Unit := do
  checkName name
  assign name value false false

/-- Carries out an assignment that is written as one text. -/
def assignText (text : String) (isExported : Bool) : Sh Unit :=
  assign (nameOf text) ((valueAfter? text).getD "") isExported false

/-- Takes the value of a variable away. -/
def unsetVariable (name : String) : Sh Unit := do
  checkName name
  checkChange name
  if ((← get).vars.find? name).isSome then beforeChange name ""
  modify fun s => { s with vars := s.vars.unset name }

/-! ## Variables of functions -/

/-- One more thing that is put back when the function ends. -/
def remember (r : Restored) : Sh Unit :=
  modify fun s =>
    { s with locals := match s.locals with
      | frame :: rest => (r :: frame) :: rest
      | [] => [[r]] }

/-- Makes a variable one of the function, given as a name or as an assignment. -/
def makeLocal (text : String) (isExported : Bool) : Sh Unit := do
  let s ← get
  if text = "-" then remember (.options s.options)
  else
    let name := nameOf text
    let before? := s.vars.find? name
    match before?, valueAfter? text with
    | none, some value =>
      beforeChange name value
      modify fun s =>
        { s with vars :=
            s.vars.set name value (isExported || s.has "allexport") true }
      remember (.variable name none)
    | none, none =>
      checkName name
      let v : Variable := ⟨name, none, isExported, false, true⟩
      modify fun s => { s with vars := s.vars.replace v }
      remember (.variable name none)
    | some v, value? =>
      modify fun s => { s with vars := s.vars.replace { v with stays := true } }
      -- What was there is remembered even if it cannot be changed.
      remember (.variable name (some v))
      match value? with
      | some value => assign name value isExported false
      | none => pure ()

/-- Puts something back. -/
def putBack (r : Restored) : Sh Unit := do
  match r with
  | .options names => modify fun s => { s with options := names }
  | .variable name none =>
    modify fun s => { s with vars := s.vars.erase name }
    if name = "PATH" then modify fun s => { s with found := [] }
  | .variable name (some v) =>
    let r ← attempt (beforeChange name (v.value?.getD ""))
    modify fun s => { s with vars := s.vars.replace v }
    resume r

/-- Puts back what is remembered since there were so many functions. -/
def putBackFrom (count : Nat) : Nat → Sh Unit
  | 0 => pure ()
  | turns + 1 => do
    match (← get).locals with
    | [] => pure ()
    | frame :: rest =>
      if rest.length < count then pure ()
      else
        modify fun s => { s with locals := rest }
        frame.forM putBack
        putBackFrom count turns

/-- Puts back what is remembered since there were so many functions. -/
def restoreLocals (count : Nat) : Sh Unit := do putBackFrom count ((← get).locals.length + 1)

/-! ## Options -/

/-- The options of the shell with their letters, in the order of their list. -/
def shellOptions : List (String × Option Char) :=
  [("errexit", some 'e'), ("noglob", some 'f'), ("ignoreeof", some 'I'),
   ("interactive", some 'i'), ("monitor", some 'm'), ("noexec", some 'n'), ("stdin", some 's'),
   ("xtrace", some 'x'), ("verbose", some 'v'), ("vi", some 'V'), ("emacs", some 'E'),
   ("noclobber", some 'C'), ("allexport", some 'a'), ("notify", some 'b'),
   ("nounset", some 'u'), ("privileged", some 'p'), ("nolog", none), ("debug", none)]

/-- Options as they are read: letters with their words. -/
abbrev OptionLetters := List (Char × String)

/-- The letters of one word of options; `allowed` has a colon after each letter that takes a
word.  The value is what is wrong, or the letters, and the words after them. -/
def lettersOf (allowed : List Char) :
    List Char → List String → Except String (OptionLetters × List String)
  | [], words => .ok ([], words)
  | c :: rest, words =>
    let place := allowed.dropWhile (· != c)
    match place with
    | [] => .error ("Illegal option -" ++ String.singleton c)
    | _ :: ':' :: _ =>
      if !rest.isEmpty then .ok ([(c, String.ofList rest)], words)
      else
        match words with
        | w :: words => .ok ([(c, w)], words)
        | [] => .error ("No arg for -" ++ String.singleton c ++ " option")
    | _ =>
      (lettersOf allowed rest words).map fun (more, words) => ((c, "") :: more, words)

/-- The options at the begin of some words, and the other words. -/
def optionsOf (allowed : List Char) :
    Nat → List String → Except String (OptionLetters × List String)
  | 0, words => .ok ([], words)
  | _, [] => .ok ([], [])
  | turns + 1, w :: words =>
    match w.toList with
    | ['-', '-'] => .ok ([], words)
    | '-' :: c :: rest => do
      let (letters, words) ← lettersOf allowed (c :: rest) words
      let (more, words) ← optionsOf allowed turns words
      return (letters ++ more, words)
    | _ => .ok ([], w :: words)

/-- The options at the begin of some words, and the other words. -/
def readOptions (allowed : String) (words : List String) : Sh (OptionLetters × List String) :=
  match optionsOf allowed.toList (words.length + 1) words with
  | .ok r => pure r
  | .error message => fail message

/-- The sign in front of an option that is turned on or off. -/
def optionSign (on : Bool) : String := if on then "-" else "+"

/-- Turns an option on or off. -/
def setOption (on : Bool) (name : String) : Sh Unit :=
  modify fun s =>
    let others := s.options.filter (· != name)
    { s with options := if on then name :: others else others }

/-- Turns an option on or off by its letter. -/
def setLetter (on : Bool) (letter : Char) : Sh Unit := do
  match shellOptions.find? fun o => o.2 == some letter with
  | some (name, _) =>
    setOption on name
    if on && letter == 'V' then setOption false "emacs"
    if on && letter == 'E' then setOption false "vi"
  | none => fail ("Illegal option " ++ optionSign on ++ String.singleton letter)

/-- Turns an option on or off by its name. -/
def setNamed (on : Bool) (name : String) : Sh Unit := do
  if shellOptions.any fun o => o.1 == name then setOption on name
  else fail ("Illegal option " ++ optionSign on ++ "o " ++ name)

/-- Prints all options, in words or so that a script can read it. -/
def listOptions (inWords : Bool) : Sh Unit := do
  let s ← get
  if inWords then print "Current option settings\n"
  shellOptions.forM fun (name, _) =>
    if inWords then
      print (name ++ "".pushn ' ' (16 - name.length) ++ (if s.has name then "on" else "off") ++ "\n")
    else print ("set " ++ (if s.has name then "-o" else "+o") ++ " " ++ name ++ "\n")

/-- What a row of options of the shell tells. -/
structure ShellOptions where
  /-- The words after the options. -/
  rest : List String
  /-- Whether the words are to become the parameters, even if there are none. -/
  replaces : Bool := false
  /-- Whether the first word is a script. -/
  isScript : Bool := false

/-- Turns options on or off by their letters.  When the shell starts, a letter tells that the
first word is a script. -/
def setLetters (atStart on : Bool) :
    List Char → List String → Bool → Sh (List String × Bool)
  | [], words, isScript => pure (words, isScript)
  | 'o' :: rest, words, isScript => do
    match words with
    | [] =>
      listOptions on
      setLetters atStart on rest [] isScript
    | name :: words =>
      setNamed on name
      setLetters atStart on rest words isScript
  | c :: rest, words, isScript => do
    if atStart && c == 'c' then setLetters atStart on rest words true
    else if atStart && c == 'l' then setLetters atStart on rest words isScript
    else
      setLetter on c
      setLetters atStart on rest words isScript

/-- Turns the options at the begin of some words on or off. -/
def readShellOptions (atStart : Bool) : Nat → Bool → List String → Sh ShellOptions
  | 0, isScript, words => pure { rest := words, isScript := isScript }
  | _, isScript, [] => pure { rest := [], isScript := isScript }
  | turns + 1, isScript, w :: words => do
    match w.toList with
    | ['-'] =>
      if !atStart then
        setOption false "xtrace"
        setOption false "verbose"
      return { rest := words, isScript := isScript }
    | ['-', '-'] =>
      return { rest := words, replaces := !atStart && words.isEmpty, isScript := isScript }
    | '-' :: letters =>
      let (words, isScript) ← setLetters atStart true letters words isScript
      readShellOptions atStart turns isScript words
    | '+' :: letters =>
      let (words, isScript) ← setLetters atStart false letters words isScript
      readShellOptions atStart turns isScript words
    | _ => return { rest := w :: words, isScript := isScript }

end LintLedger.Shell
