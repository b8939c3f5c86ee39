import LintLedger.Analyzer.Registry
import LintLedger.CommandLine.Grammar
import LintLedger.CommandLine.Parser
import LintLedger.Proofs.Data.Digits
import LintLedger.Schedule.Child
import Mathlib.Data.List.DropRight
import Mathlib.Data.List.TakeWhile

/-!
# The command line of a session for one project

A reading that waits for nothing is told from what it has committed, or would commit next.  Each
kind of argument adds one entry to that, so that a command line is read by putting together what
its parts add.

The session that audits one project is asked to do so by a command line, which it has to read back
as it was meant: every value has to be one that is read as a value.  Numbers and the names of tools
always are.  A path is not if it begins with a hyphen.

## Main Definitions

* `CommandLine.IsValue` -- words that are read as values
* `Reading.Holds` -- what a reading comes to if nothing more is read
* `Grammar.Passes` -- words that take every reading of some entries to one of others
* `CommandLine.Readable` -- settings whose paths are read as values

## Main Statements

* `Grammar.passes_switch`, `Grammar.passes_option`, `Grammar.passes_positional` -- what each kind
  of argument adds
* `CommandLine.natUpTo?_toString` -- a number in range is read back
* `CommandLine.isValue_of_toolNamed?` -- the name of a tool, however it is spelled, is a value
* `CommandLine.parse_childArguments_of_readable` -- what the command line means
-/

namespace LintLedger.CommandLine

/-- Words that are read as values: those that do not begin with a hyphen, and the hyphen by
itself. -/
def IsValue (word : String) : Prop := word.toList.head? ≠ some '-' ∨ word.toList = ['-']

instance (word : String) : Decidable (IsValue word) := inferInstanceAs (Decidable (_ ∨ _))

/-- The entries that a reading comes to if nothing more is read, and how many of them are
positional. -/
structure Reading.Holds (r : Reading) (given : List (String × List String)) (position : Nat) :
    Prop where
  waiting : r.waiting = false
  trailing : r.trailing = false
  place : r.position = position
  commit : r.commit = .ok ⟨given, none, false, position, false⟩

namespace Grammar

/-- Words that take every reading with some entries to one with others. -/
def Passes (g : Grammar) (words : List String) (given : List (String × List String))
    (position : Nat) (given' : List (String × List String)) (position' : Nat) : Prop :=
  ∀ r : Reading, r.Holds given position →
    ∃ r' : Reading, r'.Holds given' position' ∧
      ∀ rest, g.read (words ++ rest) r = g.read rest r'

variable {g : Grammar} {given given' given'' : List (String × List String)}
  {position position' position'' : Nat}

theorem Passes.nil : g.Passes [] given position given position :=
  fun r h => ⟨r, h, fun _ => rfl⟩

theorem Passes.trans {words more : List String}
    (first : g.Passes words given position given' position')
    (second : g.Passes more given' position' given'' position'') :
    g.Passes (words ++ more) given position given'' position'' := by
  intro r h
  obtain ⟨r', h', hfirst⟩ := first r h
  obtain ⟨r'', h'', hsecond⟩ := second r' h'
  refine ⟨r'', h'', fun rest => ?_⟩
  rw [List.append_assoc, hfirst, hsecond]

/-! ## Single words -/

/-- The name of an argument is read as such. -/
theorem readWord_long {name : String} {a : Argument}
    (hfind : g.arguments.find? (·.name == name) = some a) (hne : name.toList ≠ [])
    (heq : '=' ∉ name.toList) {r : Reading} (htrailing : r.trailing = false) :
    g.readWord ("--" ++ name) r = readForm a none r := by
  have hchars : ("--" ++ name).toList = '-' :: '-' :: name.toList := by
    rw [String.toList_append]
    rfl
  have hall : ∀ c ∈ name.toList, (c != '=') = true := by
    intro c hc
    rw [bne_iff_ne]
    rintro rfl
    exact heq hc
  have htake : name.toList.takeWhile (· != '=') = name.toList :=
    List.takeWhile_eq_self_iff.mpr hall
  have hdrop : name.toList.dropWhile (· != '=') = [] := List.dropWhile_eq_nil_iff.mpr hall
  rw [readWord, if_neg (by simp [htrailing]), hchars]
  cases hname : name.toList with
  | nil => exact absurd hname hne
  | cons c cs =>
    rw [← hname]
    simp only [readLong, htake, hdrop, String.ofList_toList, hfind]

/-- A word that is read as a value is one. -/
theorem readWord_of_isValue {word : String} (h : IsValue word) {r : Reading}
    (htrailing : r.trailing = false) :
    g.readWord word r = if r.waiting then .ok (r.fill word) else g.readPositional word r := by
  rw [readWord, if_neg (by simp [htrailing])]
  unfold IsValue at h
  split
  · rename_i heq
    rw [heq] at h
    simp at h
  · rename_i heq
    rw [heq] at h
    simp at h
  · rename_i heq
    rw [heq] at h
    simp at h
  · rfl

/-- A word that is no subcommand, or stands where none is looked for, is read. -/
theorem read_cons {word : String} {rest : List String} {r : Reading}
    (h : r.waiting = true ∨ word ∉ g.subcommands) :
    g.read (word :: rest) r = (g.readWord word r).bind (g.read rest) := by
  rw [read, if_neg]
  rcases h with h | h
  · simp [h]
  · simp [h]

/-! ## Whole arguments -/

/-- An entry that is ready to be committed is. -/
theorem commit_of_pending {name : String} {kind : ValueKind} {repeated : Bool} {v : String}
    (hnew : repeated = true ∨ name ∉ given.map Prod.fst) (hkind : kind.refuse? v = none) :
    Reading.commit ⟨given, some ⟨name, kind, repeated, [v]⟩, false, position, false⟩ =
      .ok ⟨given ++ [(name, [v])], none, false, position, false⟩ := by
  have hfresh : ¬(!repeated && Reading.has ⟨given, some ⟨name, kind, repeated, [v]⟩, false,
      position, false⟩ name) = true := by
    rcases hnew with rfl | hnew
    · simp
    · simpa [Reading.has] using fun _ values hvalues =>
        hnew (List.mem_map.mpr ⟨_, hvalues, rfl⟩)
  simp only [Reading.commit, List.isEmpty_cons, Bool.false_eq_true, if_false, if_neg hfresh,
    List.findSome?_cons, hkind, List.findSome?_nil]

/-- A switch adds an entry without values. -/
theorem passes_switch (name : String) (short? : Option Char)
    (hfind : g.arguments.find? (·.name == name) = some ⟨name, short?, .switch⟩)
    (hne : name.toList ≠ []) (heq : '=' ∉ name.toList) (hsub : "--" ++ name ∉ g.subcommands)
    (hnew : name ∉ given.map Prod.fst) :
    g.Passes ["--" ++ name] given position (given ++ [(name, [])]) position := by
  intro r h
  refine ⟨⟨given ++ [(name, [])], none, false, position, false⟩, ⟨rfl, rfl, rfl, rfl⟩, ?_⟩
  intro rest
  have hfresh : ¬Reading.has ⟨given, none, false, position, false⟩ name = true := by
    simpa [Reading.has] using fun values hvalues => hnew (List.mem_map.mpr ⟨_, hvalues, rfl⟩)
  rw [List.singleton_append, read_cons (.inr hsub), readWord_long hfind hne heq h.trailing]
  simp only [readForm, Option.isSome_none, Bool.false_eq_true, if_false, Reading.switch, h.commit,
    Except.bind, if_neg hfresh]

/-- An option with its value adds an entry. -/
theorem passes_option (name : String) (short? : Option Char) (repeated : Bool) (kind : ValueKind)
    {form : Form} (hfind : g.arguments.find? (·.name == name) = some ⟨name, short?, form⟩)
    (hform : form = if repeated then .repeated kind else .option kind)
    (hne : name.toList ≠ []) (heq : '=' ∉ name.toList) (hsub : "--" ++ name ∉ g.subcommands)
    (hnew : repeated = true ∨ name ∉ given.map Prod.fst) {v : String} (hv : IsValue v)
    (hkind : kind.refuse? v = none) :
    g.Passes ["--" ++ name, v] given position (given ++ [(name, [v])]) position := by
  intro r h
  let filled : Reading := ⟨given, some ⟨name, kind, repeated, [v]⟩, false, position, false⟩
  refine ⟨filled, ⟨rfl, rfl, rfl, commit_of_pending hnew hkind⟩, fun rest => ?_⟩
  have hbegin : readForm ⟨name, short?, form⟩ none r =
      .ok ⟨given, some ⟨name, kind, repeated, []⟩, true, position, false⟩ := by
    subst hform
    cases repeated <;> simp only [readForm, Reading.begin, h.commit, Except.map] <;> rfl
  rw [List.cons_append, List.singleton_append, read_cons (.inr hsub),
    readWord_long hfind hne heq h.trailing, hbegin]
  simp only [Except.bind]
  rw [read_cons (.inl rfl), readWord_of_isValue hv rfl, if_pos rfl]
  rfl

/-- A positional value adds an entry. -/
theorem passes_positional {p : Positional} (hp : g.positionals[position]? = some p)
    (hnew : p.name ∉ given.map Prod.fst) {v : String} (hv : IsValue v)
    (hsub : v ∉ g.subcommands) (hkind : p.kind.refuse? v = none) :
    g.Passes [v] given position (given ++ [(p.name, [v])]) (position + 1) := by
  intro r h
  let taken : Reading := ⟨given, some ⟨p.name, p.kind, false, [v]⟩, false, position + 1, false⟩
  refine ⟨taken, ⟨rfl, rfl, rfl, commit_of_pending (.inr hnew) hkind⟩, fun rest => ?_⟩
  rw [List.singleton_append, read_cons (.inr hsub), readWord_of_isValue hv h.trailing, h.waiting,
    if_neg (by simp), readPositional, h.place, hp]
  simp only [h.commit, Except.map, Except.bind]
  rfl

end Grammar

/-! ## Values that can be read -/

/-- A number is read back from its digits if it is in range. -/
theorem natUpTo?_toString_eq (limit n : Nat) :
    Text.natUpTo? limit (toString n) = if n ≤ limit then some n else none := by
  unfold Text.natUpTo?
  rw [Digits.toList_toString]
  split
  · rename_i cs heq
    exact absurd (heq ▸ List.mem_cons_self) (Digits.notMem_toDigits rfl n)
  · dsimp only
    rw [Digits.natOf?_toDigits, Option.filter_some]
    simp

theorem natUpTo?_toString {limit n : Nat} (h : n ≤ limit) :
    Text.natUpTo? limit (toString n) = some n := by
  rw [natUpTo?_toString_eq, if_pos h]

/-- The digits of a number are no hyphen. -/
theorem isValue_toString (n : Nat) : IsValue (toString n) := by
  refine .inl fun hhead => ?_
  rw [Digits.toList_toString] at hhead
  exact absurd (List.mem_of_mem_head? hhead) (Digits.notMem_toDigits rfl n)

/-- The name of a tool is a value, whatever blanks and capitals it is spelled with. -/
theorem isValue_of_toolNamed? {name : String} (h : (toolNamed? name).isSome) : IsValue name := by
  refine .inl fun hhead => ?_
  obtain ⟨cs, hname⟩ : ∃ cs, name.toList = '-' :: cs := List.head?_eq_some_iff.mp hhead
  -- the hyphen is not blank, so it stays in front when the name is trimmed
  have hkept : '-' :: cs ∈ [name.toList.dropWhile Text.isBlank] := by
    rw [hname, List.dropWhile_cons_of_neg (by decide), List.mem_singleton]
  have htrim : Text.trimChars name.toList = List.rdropWhile Text.isBlank ('-' :: cs) := by
    rw [Text.trimChars, List.mem_singleton.mp hkept]
    rfl
  have hne : List.rdropWhile Text.isBlank ('-' :: cs) ≠ [] := by
    rw [Ne, List.rdropWhile_eq_nil_iff]
    intro hall
    exact absurd (hall '-' List.mem_cons_self) (by decide)
  have hprefix := List.rdropWhile_prefix Text.isBlank ('-' :: cs)
  obtain ⟨tool, htool⟩ := Option.isSome_iff_exists.mp h
  have hlower : tool.name = Text.asciiLower (Text.trim name) := by
    simpa using List.find?_some htool
  cases htrimmed : List.rdropWhile Text.isBlank ('-' :: cs) with
  | nil => exact hne htrimmed
  | cons c rest =>
    rw [htrimmed, List.cons_prefix_cons] at hprefix
    obtain ⟨rfl, -⟩ := hprefix
    have hfirst : tool.name.toList.head? = some '-' := by
      rw [hlower, Text.asciiLower, Text.trim, String.toList_ofList, String.toList_ofList, htrim,
        htrimmed]
      rfl
    revert hfirst
    cases tool <;> decide

/-- All names are values where each is the name of a tool. -/
theorem isValue_of_resolveTools {names : List String} {tools : List Tool}
    (h : resolveTools names = .ok tools) : ∀ name ∈ names, IsValue name := by
  intro name hname
  refine isValue_of_toolNamed? ?_
  unfold resolveTools at h
  split at h
  · rename_i hknown
    have hsome := List.filter_eq_nil_iff.mp hknown name hname
    simpa [Option.isSome_iff_ne_none] using hsome
  · cases h

/-! ## The command line -/

/-- A path that is read as a value. -/
def IsPath (path : String) : Prop := IsValue path ∧ path ≠ ""

instance (path : String) : Decidable (IsPath path) := inferInstanceAs (Decidable (_ ∧ _))

/-- Settings whose paths are read as values. -/
structure Readable (child : ChildSettings) : Prop where
  config : ∀ path, child.config? = some path → IsPath path
  database : ∀ path, child.database? = some path → IsPath path

/-- The entry of an option that may be missing. -/
def entryOf (name : String) (value? : Option String) : List (String × List String) :=
  (value?.map fun v => (name, [v])).toList

/-- What stands in front of the command. -/
def frontWords (child : ChildSettings) : List String :=
  optionOf "--config" child.config? ++ optionOf "--db" child.database?
    ++ (if child.debug then ["--debug"] else []) ++ ["--quiet"]

/-- The entries of what stands in front of the command. -/
def frontEntries (child : ChildSettings) : List (String × List String) :=
  entryOf "config" child.config? ++ entryOf "db" child.database?
    ++ (if child.debug then [("debug", [])] else []) ++ [("quiet", [])]

variable {child : ChildSettings}

/-- The file of the settings, if one is named. -/
theorem passes_config (h : ∀ path, child.config? = some path → IsPath path) :
    mainGrammar.Passes (optionOf "--config" child.config?) [] 0
      (entryOf "config" child.config?) 0 := by
  cases hpath : child.config? with
  | none => exact .nil
  | some path =>
    obtain ⟨hvalue, hne⟩ := h path hpath
    exact Grammar.passes_option "config" none false .path (by decide) rfl (by decide) (by decide)
      (by decide) (.inr (by simp)) hvalue (by simp [ValueKind.refuse?, hne])

theorem passes_frontWords (h : Readable child) :
    mainGrammar.Passes (frontWords child) [] 0 (frontEntries child) 0 := by
  have hconfig : mainGrammar.Passes (optionOf "--config" child.config?) [] 0
      (entryOf "config" child.config?) 0 := passes_config h.config
  have hdatabase : mainGrammar.Passes (optionOf "--db" child.database?)
      (entryOf "config" child.config?) 0
      (entryOf "config" child.config? ++ entryOf "db" child.database?) 0 := by
    cases hpath : child.database? with
    | none =>
      rw [show entryOf "db" none = [] from rfl, List.append_nil]
      exact .nil
    | some path =>
      obtain ⟨hvalue, hne⟩ := h.database path hpath
      exact Grammar.passes_option "db" none false .path (by decide) rfl (by decide) (by decide)
        (by decide) (.inr (by cases child.config? <;> simp [entryOf])) hvalue
        (by simp [ValueKind.refuse?, hne])
  have hdebug : mainGrammar.Passes (if child.debug then ["--debug"] else [])
      (entryOf "config" child.config? ++ entryOf "db" child.database?) 0
      (entryOf "config" child.config? ++ entryOf "db" child.database?
        ++ (if child.debug then [("debug", [])] else [])) 0 := by
    split
    · exact Grammar.passes_switch "debug" none (by decide) (by decide)
        (by decide) (by decide)
        (by cases child.config? <;> cases child.database? <;> simp [entryOf])
    · rw [List.append_nil]
      exact .nil
  have hquiet : mainGrammar.Passes ["--quiet"]
      (entryOf "config" child.config? ++ entryOf "db" child.database?
        ++ (if child.debug then [("debug", [])] else [])) 0 (frontEntries child) 0 :=
    Grammar.passes_switch "quiet" (some 'q') (by decide) (by decide)
      (by decide) (by decide)
      (by cases child.config? <;> cases child.database? <;> cases child.debug <;> simp [entryOf])
  exact ((hconfig.trans hdatabase).trans hdebug).trans hquiet

/-- What stands behind the command. -/
def auditWords (stopOnError : Bool) (tools : List String) (jobs : Nat) (project : String) :
    List String :=
  [project] ++ ["--single-project"] ++ ["--parallel", "none"] ++ ["--jobs", toString jobs]
    ++ tools.flatMap (fun tool => ["--tool", tool])
    ++ (if stopOnError then ["--stop-on-error"] else [])

/-- The entries of what stands behind the command. -/
def auditEntries (stopOnError : Bool) (tools : List String) (jobs : Nat) (project : String) :
    List (String × List String) :=
  [("path", [project]), ("single-project", []), ("parallel", ["none"]),
    ("jobs", [toString jobs])] ++ tools.map (fun tool => ("tool", [tool]))
    ++ (if stopOnError then [("stop-on-error", [])] else [])

variable {stopOnError : Bool} {tools : List String} {jobs : Nat} {project : String}

/-- Each tool adds its entry. -/
theorem passes_tools (htools : ∀ tool ∈ tools, IsValue tool)
    (given : List (String × List String)) :
    (grammarOf "audit").Passes (tools.flatMap fun tool => ["--tool", tool]) given 1
      (given ++ tools.map fun tool => ("tool", [tool])) 1 := by
  induction tools generalizing given with
  | nil =>
    rw [List.map_nil, List.append_nil]
    exact .nil
  | cons tool rest ih =>
    have hfirst : (grammarOf "audit").Passes ["--tool", tool] given 1
        (given ++ [("tool", [tool])]) 1 :=
      Grammar.passes_option "tool" none true .text (by decide) rfl (by decide) (by decide)
        (by decide) (.inl rfl) (htools tool List.mem_cons_self) rfl
    have hrest := ih (fun t ht => htools t (List.mem_cons_of_mem _ ht))
      (given ++ [("tool", [tool])])
    rw [List.append_assoc] at hrest
    exact hfirst.trans hrest

theorem passes_auditWords (hproject : IsPath project) (htools : ∀ tool ∈ tools, IsValue tool)
    (hjobs : jobs < Nat.pow 2 64) :
    (grammarOf "audit").Passes (auditWords stopOnError tools jobs project) [] 0
      (auditEntries stopOnError tools jobs project) 1 := by
  obtain ⟨hvalue, hne⟩ := hproject
  have hpath : (grammarOf "audit").Passes [project] [] 0 [("path", [project])] 1 :=
    Grammar.passes_positional (p := ⟨"path", .path⟩) rfl (by simp) hvalue (by simp [grammarOf])
      (by simp [ValueKind.refuse?, hne])
  have hsingle : (grammarOf "audit").Passes ["--single-project"] [("path", [project])] 1
      [("path", [project]), ("single-project", [])] 1 :=
    Grammar.passes_switch "single-project" none (by decide) (by decide)
      (by decide) (by decide) (by simp)
  have hparallel : (grammarOf "audit").Passes ["--parallel", "none"]
      [("path", [project]), ("single-project", [])] 1
      [("path", [project]), ("single-project", []), ("parallel", ["none"])] 1 :=
    Grammar.passes_option "parallel" none false .strategy (by decide) rfl (by decide) (by decide)
      (by decide) (.inr (by simp)) (by decide) (by decide)
  have hcount : (grammarOf "audit").Passes ["--jobs", toString jobs]
      [("path", [project]), ("single-project", []), ("parallel", ["none"])] 1
      [("path", [project]), ("single-project", []), ("parallel", ["none"]),
        ("jobs", [toString jobs])] 1 := by
    -- the count is read with 64 bits
    have hread : Text.natUpTo? (Nat.pow 2 64 - 1) (toString jobs) = some jobs :=
      natUpTo?_toString (Nat.le_sub_one_of_lt hjobs)
    exact Grammar.passes_option "jobs" none false .count (by decide) rfl (by decide) (by decide)
      (by decide) (.inr (by simp)) (isValue_toString jobs)
      (by rw [ValueKind.refuse?, hread]; rfl)
  have hstop (given : List (String × List String))
      (hnew : "stop-on-error" ∉ given.map Prod.fst) :
      (grammarOf "audit").Passes (if stopOnError then ["--stop-on-error"] else []) given 1
        (given ++ if stopOnError then [("stop-on-error", [])] else []) 1 := by
    split
    · exact Grammar.passes_switch "stop-on-error" none (by decide)
        (by decide) (by decide) (by decide) hnew
    · rw [List.append_nil]
      exact .nil
  exact ((((hpath.trans hsingle).trans hparallel).trans hcount).trans
    (passes_tools htools _)).trans (hstop _ (by simp))

/-- The request for the audit of one project. -/
def childRequest (stopOnError : Bool) (tools : List String) (jobs : Nat) (project : String) :
    AuditRequest where
  path := project
  tools := tools
  jobs? := some jobs
  stopOnError := stopOnError
  strategy := .none
  singleProject := true

/-- The values of the tools that were named, in their order. -/
theorem values_tools (tools : List String) (name : String) :
    ((tools.map fun tool => ("tool", [tool])).filter (·.1 == name)).flatMap (·.2) =
      if name = "tool" then tools else [] := by
  induction tools with
  | nil => simp
  | cons tool rest ih =>
    rw [List.map_cons, List.filter_cons]
    by_cases hname : name = "tool"
    · subst hname
      rw [if_pos (by simp), List.flatMap_cons, ih, if_pos rfl]
      rfl
    · have hother : ¬("tool" == name) = true := fun h => hname (beq_iff_eq.mp h).symm
      rw [if_neg hother, ih, if_neg hname, if_neg hname]

/-- The values of an argument among those that stand behind the command. -/
theorem values_auditEntries {r : Reading}
    (hr : r.given = auditEntries stopOnError tools jobs project) (name : String) :
    r.values name =
      (([("path", [project]), ("single-project", []), ("parallel", ["none"]),
        ("jobs", [toString jobs])] : List (String × List String)).filter (·.1 == name)).flatMap
          (·.2) ++ if name = "tool" then tools else [] := by
  have hstop : ((if stopOnError then [("stop-on-error", ([] : List String))] else []).filter
      (·.1 == name)).flatMap (·.2) = [] := by
    cases stopOnError with
    | false => rfl
    | true =>
      rw [if_pos rfl, List.filter_cons]
      split <;> rfl
  rw [Reading.values, hr, auditEntries, List.filter_append, List.filter_append,
    List.flatMap_append, List.flatMap_append, values_tools, hstop, List.append_nil]

/-- Which switches stand behind the command. -/
theorem has_auditEntries {r : Reading}
    (hr : r.given = auditEntries stopOnError tools jobs project) (name : String)
    (hname : name ≠ "tool") :
    r.has name = (["path", "single-project", "parallel", "jobs"].any (· == name) ||
      stopOnError && "stop-on-error" == name) := by
  have htools : (tools.map fun tool => ("tool", [tool])).any (·.1 == name) = false := by
    simp [hname.symm]
  have hstop : (if stopOnError then [("stop-on-error", ([] : List String))] else []).any
      (·.1 == name) = (stopOnError && "stop-on-error" == name) := by
    cases stopOnError <;> simp
  rw [Reading.has, hr, auditEntries, List.any_append, List.any_append, htools, hstop,
    Bool.or_false]
  rfl

/-- What stands behind the command asks for the audit of the project. -/
theorem commandOf_auditEntries (hjobs : jobs < Nat.pow 2 64) {r : Reading}
    (hr : r.given = auditEntries stopOnError tools jobs project) :
    commandOf "audit" r = .ok (.audit (childRequest stopOnError tools jobs project)) := by
  have hread : Text.natUpTo? (Nat.pow 2 64 - 1) (toString jobs) = some jobs :=
    natUpTo?_toString (Nat.le_sub_one_of_lt hjobs)
  have hpath : r.value? "path" = some project := by
    rw [Reading.value?, values_auditEntries hr]
    rfl
  have htools : r.values "tool" = tools := values_auditEntries hr "tool"
  have hcount : r.value? "jobs" = some (toString jobs) := by
    rw [Reading.value?, values_auditEntries hr]
    rfl
  have hparallel : r.value? "parallel" = some "none" := by
    rw [Reading.value?, values_auditEntries hr]
    rfl
  have hstop : r.has "stop-on-error" = stopOnError := by
    rw [has_auditEntries hr _ (by decide)]
    cases stopOnError <;> decide
  have hsingle : r.has "single-project" = true := by
    rw [has_auditEntries hr _ (by decide)]
    rfl
  have hrecursive : r.has "recursive" = false := by
    rw [has_auditEntries hr _ (by decide)]
    cases stopOnError <;> decide
  simp only [commandOf, hpath, htools, hcount, hparallel, hstop, hsingle, hrecursive, childRequest,
    Option.bind_some, hread, Option.getD_some, Strategy.ofName?]
  rfl

/-- **The command line of a session for one project means what it was made of**: the same paths,
the project by itself, the tools in their order and the number of jobs. -/
theorem parse_childArguments_of_readable (h : Readable child) (hproject : IsPath project)
    (htools : ∀ tool ∈ tools, IsValue tool) (hjobs : jobs < Nat.pow 2 64) :
    parse (childArguments child stopOnError tools jobs project) =
      .ok {
        config? := child.config?
        database? := child.database?
        debug := child.debug
        verbose := false
        quiet := true
        command := .audit (childRequest stopOnError tools jobs project) } := by
  have hwords : childArguments child stopOnError tools jobs project =
      frontWords child ++ "audit" :: auditWords stopOnError tools jobs project := by
    simp [childArguments, frontWords, auditWords]
  obtain ⟨front, hfront, hpasses⟩ := passes_frontWords h .start ⟨rfl, rfl, rfl, rfl⟩
  have hpasses' : (grammarOf "audit").Passes (auditWords stopOnError tools jobs project) [] 0
      (auditEntries stopOnError tools jobs project) 1 := passes_auditWords hproject htools hjobs
  obtain ⟨own, hown, hreads⟩ := hpasses' .start ⟨rfl, rfl, rfl, rfl⟩
  have hmain : mainGrammar.read (childArguments child stopOnError tools jobs project) .start =
      .ok (front, some ("audit", auditWords stopOnError tools jobs project)) := by
    rw [hwords, hpasses, Grammar.read, if_pos]
    simp [hfront.waiting, hfront.trailing, mainGrammar, commandNames]
  have haudit : (grammarOf "audit").read (auditWords stopOnError tools jobs project) .start =
      .ok (own, none) := by
    have hall := hreads []
    rwa [List.append_nil] at hall
  let asked : Reading := ⟨auditEntries stopOnError tools jobs project, none, false, 1, false⟩
  let common : Reading := ⟨frontEntries child, none, false, 0, false⟩
  have hcommand : commandOf "audit" asked =
      .ok (.audit (childRequest stopOnError tools jobs project)) := commandOf_auditEntries hjobs rfl
  -- what is common to all commands stands in front of the command only
  have hvalue (name : String) (hname : name = "config" ∨ name = "db") :
      asked.value? name = none := by
    rw [Reading.value?, values_auditEntries rfl]
    rcases hname with rfl | rfl <;> rfl
  have hhas (name : String) (hname : name = "debug" ∨ name = "verbose" ∨ name = "quiet") :
      asked.has name = false := by
    rcases hname with rfl | rfl | rfl <;> rw [has_auditEntries rfl _ (by decide)] <;>
      cases stopOnError <;> rfl
  have hconfig : common.value? "config" = child.config? := by
    simp only [common, frontEntries]
    cases child.config? <;> cases child.database? <;> cases child.debug <;> rfl
  have hdatabase : common.value? "db" = child.database? := by
    simp only [common, frontEntries]
    cases child.config? <;> cases child.database? <;> cases child.debug <;> rfl
  have hdebug : common.has "debug" = child.debug := by
    simp only [common, frontEntries]
    cases child.config? <;> cases child.database? <;> cases child.debug <;> rfl
  have hverbose : common.has "verbose" = false := by
    simp only [common, frontEntries]
    cases child.config? <;> cases child.database? <;> cases child.debug <;> rfl
  have hquiet : common.has "quiet" = true := by
    simp only [common, frontEntries]
    cases child.config? <;> cases child.database? <;> cases child.debug <;> rfl
  have hownCommit : own.commit = .ok asked := hown.commit
  have hfrontCommit : front.commit = .ok common := hfront.commit
  have hname : ¬"audit" = helpCommand := by decide
  simp only [parse, hmain, if_neg hname, haudit, hownCommit, hcommand, hfrontCommit, Except.bind,
    Except.map, hvalue "config" (.inl rfl), hvalue "db" (.inr rfl), hhas "debug" (.inl rfl),
    hhas "verbose" (.inr (.inl rfl)), hhas "quiet" (.inr (.inr rfl)), hconfig, hdatabase, hdebug,
    hverbose, hquiet, Option.none_or, Bool.false_or]

end LintLedger.CommandLine
