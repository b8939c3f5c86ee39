import LintLedger.Text.Blank

/-!
# Paths, their components and normal forms

A path is text in which `/` separates segments.  Its components are the root, if the text
begins with `/`, and the segments that are not empty; an inner `.` vanishes, a leading one is
a component.  A backslash is an ordinary character until `toSlashes` makes it a separator.

Everything here works on the text of paths alone and never asks what is on disk, so the same
report gives the same stored paths wherever it is read.

## Main Definitions

* `Component`, `components` -- the parts of a path
* `assemble` -- the text of a list of components
* `join`, `parent?`, `fileName?`, `extension?` -- the usual operations on text
* `normalize` -- components without dots, `..` taking back the name before it
* `ensureAbsolute`, `relativize` -- the two forms in which tools and rows name files
* `commonAncestor`, `rootLabel` -- where a set of files lives
* `anchorName`, `clipToAnchor` -- the stored form of a file below an audited project
* `identityRelative` -- the form that enters the identity of a finding
-/

namespace LintLedger.Path

/-! ## Components -/

/-- A part of a path. -/
inductive Component where
  | root
  | here
  | up
  | name (s : String)
deriving Repr, DecidableEq

namespace Component

/-- The text of a component. -/
def text : Component → String
  | .root => "/"
  | .here => "."
  | .up => ".."
  | .name s => s

/-- The name of an ordinary component. -/
def name? : Component → Option String
  | .name s => some s
  | _ => none

end Component

/-- The pieces of a text between slashes. -/
def segments (p : String) : List String := Text.splitOnChar (· == '/') p

/-- Whether a path begins at the root. -/
def isAbsolute (p : String) : Bool := p.toList.head? == some '/'

/-- A segment as a component; an empty segment and an inner dot are none. -/
def innerComponent? (s : String) : Option Component :=
  if s = "" ∨ s = "." then none else if s = ".." then some .up else some (.name s)

/-- The components of a path. -/
def components (p : String) : List Component :=
  if isAbsolute p then .root :: (segments p).filterMap innerComponent?
  else
    match segments p with
    | "." :: rest => .here :: rest.filterMap innerComponent?
    | all => all.filterMap innerComponent?

/-- The text of a list of components, slashes between them. -/
def assemble : List Component → String
  | .root :: rest => "/" ++ "/".intercalate (rest.map Component.text)
  | parts => "/".intercalate (parts.map Component.text)

/-- Backslashes turned into slashes. -/
def toSlashes (s : String) : String :=
  String.ofList (s.toList.map fun c => if c = '\\' then '/' else c)

/-- Text without the slashes and backslashes at its end. -/
def trimSeparators (s : String) : String := Text.trimEndOf (fun c => c == '/' || c == '\\') s

/-- `rest` below `base`; an absolute `rest` stands for itself. -/
def join (base rest : String) : String :=
  if isAbsolute rest then rest
  else if base.isEmpty || base.toList.getLast? == some '/' then base ++ rest
  else base ++ "/" ++ rest

/-- The last component, if it is a name. -/
def fileName? (p : String) : Option String := (components p).getLast?.bind Component.name?

/-- Characters of a path, last first, without the slashes and the inner dots in front. -/
def tidyReversed : List Char → List Char
  | '/' :: rest => tidyReversed rest
  | '.' :: '/' :: rest => tidyReversed rest
  | cs => cs

/-- The path that contains this one, as the text in front of its last component; the root and
the empty path have none. -/
def parent? (p : String) : Option String :=
  match (components p).getLast? with
  | none => none
  | some .root => none
  | some _ =>
    let front := tidyReversed ((tidyReversed p.toList.reverse).dropWhile (· != '/'))
    some (if front.isEmpty && isAbsolute p then "/" else String.ofList front.reverse)

/-- The part of the last name after its last dot; a name whose only dot is in front has
none. -/
def extension? (p : String) : Option String :=
  (fileName? p).bind fun name =>
    let cs := name.toList.reverse
    let after := cs.takeWhile (· != '.')
    match cs.dropWhile (· != '.') with
    | [] => none
    | _ :: stem => if stem.isEmpty then none else some (String.ofList after.reverse)

/-! ## Normal forms and labels -/

/-- One component put on a normalized path, whose components are given last first. -/
def climb (done : List Component) : Component → List Component
  | .here => done
  | .up =>
    match done with
    | .name _ :: rest => rest
    | .root :: _ => done
    | _ => .up :: done
  | c => c :: done

/-- Components without dots, in which `..` takes back the name before it, stays at the root,
and remains where there is nothing to take back. -/
def normalize (parts : List Component) : List Component := (parts.foldl climb []).reverse

/-- The normalized components of a path. -/
def normalForm (p : String) : List Component := normalize (components p)

/-- The text of components with slashes as the only separator. -/
def slashed (parts : List Component) : String := toSlashes (assemble parts)

/-- The components after `front`, if the list begins with it. -/
def strip? : List Component → List Component → Option (List Component)
  | [], parts => some parts
  | f :: front, p :: parts => if f = p then strip? front parts else none
  | _ :: _, [] => none

/-- The last name, or the whole path where it does not end with a name. -/
def labelOf (parts : List Component) : String :=
  match parts.getLast? with
  | some (.name s) => s
  | _ => slashed parts

/-- A working directory that says something: an empty one counts as none. -/
def given? (cwd : Option String) : Option String := cwd.filter (· ≠ "")

/-- A path made absolute against the working directory, normalized, with slashes.  Without a
working directory relative paths start at the root. -/
def ensureAbsolute (path : String) (cwd : Option String) : String :=
  slashed (normalForm (if isAbsolute path then path else join ((given? cwd).getD "/") path))

/-- A path relative to the working directory where it lies below it, else its normal form; a
path without normal form stays as it is. -/
def relativize (path : String) (cwd : Option String) : String :=
  if path = "" then ""
  else
    let target := normalForm path
    let inside := (given? cwd).bind fun base =>
      if target.head? = some .root then strip? (normalForm base) target else none
    match inside with
    | some [] => "."
    | some rest => slashed rest
    | none => if target.isEmpty then path else slashed target

/-- The longest list with which both lists begin. -/
def sharedFront : List Component → List Component → List Component
  | a :: as, b :: bs => if a = b then a :: sharedFront as bs else []
  | _, _ => []

/-- The longest common ancestor of the paths that are not empty; none if they share no
component. -/
def commonAncestor (paths : List String) : Option (List Component) :=
  match (paths.filter (· ≠ "")).map normalForm with
  | [] => none
  | first :: rest =>
    match rest.foldl sharedFront first with
    | [] => none
    | shared => some shared

/-- A short name for where a scan took place: the last name of the working directory, else of
the common ancestor of the paths, else of the directory of the first path. -/
def rootLabel (cwd : Option String) (paths : List String) : String :=
  match given? cwd with
  | some base => labelOf (normalForm base)
  | none =>
    match commonAncestor paths with
    | some shared => labelOf shared
    | none =>
      match (paths.filter (· ≠ "")).head? with
      | none => ""
      | some first =>
        match normalForm first with
        | [] => ""
        | [.root] => ""
        | parts => labelOf parts.dropLast

/-- The folder name of an audited project. -/
def anchorName (anchor : String) : String := labelOf (normalForm (trimSeparators anchor))

/-- The components from the last one that is the name `anchor`, if there is one. -/
def fromLastName? (anchor : String) : List Component → Option (List Component)
  | [] => none
  | c :: rest =>
    match fromLastName? anchor rest with
    | some parts => some parts
    | none => if c = .name anchor then some (c :: rest) else none

/-- An absolute path cut in front of its right-most segment equal to `anchor`; without such a
segment it stays as it is. -/
def clipToAnchor (absolute anchor : String) : String :=
  if anchor = "" then absolute
  else
    match fromLastName? anchor (components absolute) with
    | some parts => slashed parts
    | none => absolute

/-- The path that enters the identity of a finding: relative to the root for an absolute path
below it, else the path as it is, with slashes. -/
def identityRelative (file root : String) : String :=
  if root = "" ∨ ¬ isAbsolute file then toSlashes file
  else
    match strip? (normalForm root) (normalForm file) with
    | some rest => slashed rest
    | none => toSlashes file

end LintLedger.Path
