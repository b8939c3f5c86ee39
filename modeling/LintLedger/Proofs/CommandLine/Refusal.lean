import LintLedger.Proofs.CommandLine.Child
import LintLedger.Proofs.FileTree.Content
import LintLedger.Session.Run

/-!
# Command lines that are refused

A word that begins with a hyphen is never the value of an option that stands in front of it, and
an empty path is refused as soon as the next argument begins.  So a session that is asked to audit
one project with such a path for its settings or its database reads nothing at all: it does not
take the word for something else.

An audit of projects in sessions of their own passes its settings file, its database and its debug
mode on, each as an option and a value in two words.  The paths come from a command line, from a
settings file or from the environment, where they may begin with a hyphen or be empty.

## Main Definitions

* `Grammar.Stops` -- words that no reading of some entries gets past

## Main Statements

* `Grammar.readWord_of_not_isValue` -- no word that begins with a hyphen fills a waiting option
* `Grammar.stops_option` -- an option whose value is refused
* `parse_childArguments_of_not_readable` -- the command line of a session for one project is
  refused if one of its paths cannot be read
* `CommandLine.parse_childArguments` -- the command line of a session for one project means what it
  was made of, or is refused, and exactly when
* `AuditPlan.sessions_refused_of_hyphened_database` -- an audit that is understood, none of whose
  sessions is
-/

namespace LintLedger.CommandLine

namespace Reading

/-- An option that has no value yet cannot be committed. -/
theorem commit_of_waiting {r : Reading} {p : Pending} (hpending : r.pending? = some p)
    (hvalues : p.values = []) : r.commit = .error .invalidValue := by
  rw [commit, hpending]
  simp only [hvalues, List.isEmpty_nil, if_true]

/-- A value that is not of its kind cannot be committed. -/
theorem commit_of_refused {r : Reading} {p : Pending} {v : String} {cause : UsageError}
    (hpending : r.pending? = some p) (hvalues : p.values = [v])
    (hkind : p.kind.refuse? v = some cause) : ∃ e, r.commit = .error e := by
  rw [commit, hpending]
  simp only [hvalues, List.isEmpty_cons, Bool.false_eq_true, if_false, List.findSome?_cons, hkind]
  split
  · exact ⟨_, rfl⟩
  · exact ⟨_, rfl⟩

end Reading

namespace Grammar

variable {g : Grammar} {given given' : List (String × List String)} {position position' : Nat}

/-! ## Single words -/

/-- Every argument that is given by name first commits what is pending. -/
theorem readForm_of_commit {r : Reading} {e : UsageError} (h : r.commit = .error e)
    (a : Argument) (value? : Option String) : ∃ e', readForm a value? r = .error e' := by
  cases hform : a.form with
  | switch =>
    rw [readForm, hform]
    dsimp only
    split
    · exact ⟨_, rfl⟩
    · exact ⟨e, by rw [Reading.switch, h]; rfl⟩
  | option kind =>
    cases value? <;> exact ⟨e, by rw [readForm, hform]; simp only [Reading.begin, h]; rfl⟩
  | repeated kind =>
    cases value? <;> exact ⟨e, by rw [readForm, hform]; simp only [Reading.begin, h]; rfl⟩
  | request answer =>
    rw [readForm, hform]
    dsimp only
    split
    · exact ⟨_, rfl⟩
    · exact ⟨e, by rw [h]; rfl⟩

/-- A word that begins with a hyphen never becomes the value of the option in front of it: it is
refused, unless it is the mark behind which everything is positional. -/
theorem readWord_of_not_isValue {word : String} (h : ¬IsValue word) {r : Reading}
    (htrailing : r.trailing = false) {cause : UsageError} (hcommit : r.commit = .error cause) :
    (∃ e, g.readWord word r = .error e) ∨ g.readWord word r = .ok { r with trailing := true } := by
  obtain ⟨hhead, hlone⟩ := not_or.mp h
  obtain ⟨cs, hchars⟩ := List.head?_eq_some_iff.mp (not_not.mp hhead)
  rw [readWord, if_neg (by simp [htrailing]), hchars]
  cases cs with
  | nil => exact absurd hchars hlone
  | cons c letters =>
    by_cases hlong : c = '-'
    · subst hlong
      cases letters with
      | nil => exact .inr rfl
      | cons d name =>
        left
        change ∃ e, g.readLong (d :: name) r = .error e
        rw [readLong]
        split
        · exact ⟨_, rfl⟩
        · exact readForm_of_commit hcommit _ _
    · left
      have hshort : ∃ e, g.readShort (c :: letters) r = .error e := by
        rw [readShort]
        split
        · exact ⟨_, rfl⟩
        · obtain ⟨e, he⟩ := readForm_of_commit hcommit _ none
          exact ⟨e, by rw [he]; rfl⟩
      simpa [hlong] using hshort

/-! ## Words that cannot be read -/

/-- Words that no reading of some entries gets past. -/
def Stops (g : Grammar) (words : List String) (given : List (String × List String))
    (position : Nat) : Prop :=
  ∀ r : Reading, r.Holds given position →
    ∀ rest, ∃ e, g.read (words ++ rest) r = .error e

theorem Stops.append {words : List String} (h : g.Stops words given position)
    (more : List String) : g.Stops (words ++ more) given position := by
  intro r hr rest
  rw [List.append_assoc]
  exact h r hr (more ++ rest)

theorem Passes.stops {words more : List String}
    (first : g.Passes words given position given' position') (h : g.Stops more given' position') :
    g.Stops (words ++ more) given position := by
  intro r hr rest
  obtain ⟨r', hr', hfirst⟩ := first r hr
  rw [List.append_assoc, hfirst]
  exact h r' hr' rest

/-- A word that names an argument where no command is looked for under that name. -/
structure Names (g : Grammar) (name : String) (a : Argument) : Prop where
  found : g.arguments.find? (·.name == name) = some a
  nonempty : name.toList ≠ []
  plain : '=' ∉ name.toList
  apart : "--" ++ name ∉ g.subcommands

/-- An argument cannot begin where something pending cannot be committed. -/
theorem Names.read_of_commit {name : String} {a : Argument} (names : g.Names name a) {r : Reading}
    (htrailing : r.trailing = false) {cause : UsageError} (hcommit : r.commit = .error cause)
    (rest : List String) : ∃ e, g.read (("--" ++ name) :: rest) r = .error e := by
  obtain ⟨e, he⟩ := readForm_of_commit hcommit a none
  refine ⟨e, ?_⟩
  rw [read_cons (.inr names.apart), readWord_long names.found names.nonempty names.plain htrailing,
    he]
  rfl

/-- An option whose value is no value or not of its kind, in front of another argument of a
command without positional arguments. -/
theorem stops_option {name next : String} {a b : Argument} {kind : ValueKind}
    (names : g.Names name a) (hform : a.form = .option kind) (names' : g.Names next b)
    (hpositionals : g.positionals = []) {v : String}
    (hv : ¬IsValue v ∨ ∃ cause, kind.refuse? v = some cause) :
    g.Stops ["--" ++ name, v, "--" ++ next] given position := by
  intro r hr rest
  let named : Reading := ⟨given, some ⟨a.name, kind, false, []⟩, true, position, false⟩
  have hbegin : readForm a none r = .ok named := by
    simp only [readForm, hform, Reading.begin, hr.commit, Except.map, named]
  have hread : g.read (["--" ++ name, v, "--" ++ next] ++ rest) r =
      (g.readWord v named).bind (g.read (("--" ++ next) :: rest)) := by
    rw [List.cons_append, read_cons (.inr names.apart),
      readWord_long names.found names.nonempty names.plain hr.trailing, hbegin]
    exact read_cons (.inl rfl)
  rw [hread]
  by_cases hvalue : IsValue v
  · -- the value is taken, and refused when the next argument begins
    obtain ⟨cause, hcause⟩ := hv.resolve_left (not_not.mpr hvalue)
    obtain ⟨e, hcommit⟩ : ∃ e, (named.fill v).commit = .error e :=
      Reading.commit_of_refused rfl rfl hcause
    rw [readWord_of_isValue hvalue rfl, if_pos rfl]
    exact names'.read_of_commit rfl hcommit rest
  · have hnamed : named.commit = .error .invalidValue := Reading.commit_of_waiting rfl rfl
    rcases readWord_of_not_isValue (g := g) hvalue rfl hnamed with ⟨e, he⟩ | htrailing
    · exact ⟨e, by rw [he]; rfl⟩
    · -- behind the mark the next word has no place
      refine ⟨g.misplaced true ("--" ++ next), ?_⟩
      rw [htrailing]
      change g.read (("--" ++ next) :: rest) { named with trailing := true } = _
      rw [read_cons (.inr names'.apart), readWord, if_pos rfl, readPositional, hpositionals]
      rfl

end Grammar

/-! ## The session for one project -/

variable {child : ChildSettings}

/-- A path that cannot be read is no value, or refused as a path. -/
theorem not_isValue_or_refused {path : String} (h : ¬IsPath path) :
    ¬IsValue path ∨ ∃ cause, ValueKind.path.refuse? path = some cause := by
  by_cases hvalue : IsValue path
  · have hempty : path = "" := by_contra fun hne => h ⟨hvalue, hne⟩
    exact .inr ⟨.invalidValue, by rw [hempty]; rfl⟩
  · exact .inl hvalue

/-- What stands in front of the command cannot be read past a path that is none. -/
theorem stops_frontWords (h : ¬Readable child) : mainGrammar.Stops (frontWords child) [] 0 := by
  have config : mainGrammar.Names "config" ⟨"config", none, .option .path⟩ :=
    ⟨rfl, by decide, by decide, by decide⟩
  have db : mainGrammar.Names "db" ⟨"db", none, .option .path⟩ :=
    ⟨rfl, by decide, by decide, by decide⟩
  have debug : mainGrammar.Names "debug" ⟨"debug", none, .switch⟩ :=
    ⟨rfl, by decide, by decide, by decide⟩
  have quiet : mainGrammar.Names "quiet" ⟨"quiet", some 'q', .switch⟩ :=
    ⟨rfl, by decide, by decide, by decide⟩
  by_cases hconfig : ∀ path, child.config? = some path → IsPath path
  -- the configuration is read, so that the database is the path that is none
  · obtain ⟨path, hpath, hbad⟩ : ∃ path, child.database? = some path ∧ ¬IsPath path := by
      by_contra hall
      exact h ⟨hconfig, fun path hpath => by_contra fun hbad => hall ⟨path, hpath, hbad⟩⟩
    have hfront : mainGrammar.Passes (optionOf "--config" child.config?) [] 0
        (entryOf "config" child.config?) 0 := passes_config hconfig
    have hdatabase : mainGrammar.Stops (["--db", path] ++ (if child.debug then ["--debug"] else [])
        ++ ["--quiet"]) (entryOf "config" child.config?) 0 := by
      cases child.debug with
      | true =>
        exact (Grammar.stops_option db rfl debug rfl (not_isValue_or_refused hbad)).append ["--quiet"]
      | false => exact Grammar.stops_option db rfl quiet rfl (not_isValue_or_refused hbad)
    have hstops := hfront.stops hdatabase
    simpa [frontWords, hpath, optionOf] using hstops
  · obtain ⟨path, hpath, hbad⟩ : ∃ path, child.config? = some path ∧ ¬IsPath path := by
      simpa using hconfig
    have hrefused := not_isValue_or_refused hbad
    have hfront : mainGrammar.Stops (["--config", path] ++ optionOf "--db" child.database?
        ++ (if child.debug then ["--debug"] else []) ++ ["--quiet"]) [] 0 := by
      cases child.database? with
      | some database =>
        exact (Grammar.stops_option config rfl db rfl hrefused).append
          ([database] ++ (if child.debug then ["--debug"] else []) ++ ["--quiet"])
      | none =>
        cases child.debug with
        | true => exact (Grammar.stops_option config rfl debug rfl hrefused).append ["--quiet"]
        | false => exact Grammar.stops_option config rfl quiet rfl hrefused
    simpa [frontWords, hpath, optionOf] using hfront

variable {stopOnError : Bool} {names : List String} {jobs : Nat} {project : String}

/-- A command line with a path that cannot be read is refused. -/
theorem parse_childArguments_of_not_readable (h : ¬Readable child) :
    ∃ e, parse (childArguments child stopOnError names jobs project) = .error e := by
  have hwords : childArguments child stopOnError names jobs project =
      frontWords child ++ "audit" :: auditWords stopOnError names jobs project := by
    simp [childArguments, frontWords, auditWords]
  obtain ⟨e, he⟩ := stops_frontWords h .start ⟨rfl, rfl, rfl, rfl⟩
    ("audit" :: auditWords stopOnError names jobs project)
  exact ⟨e, by rw [parse, hwords, he]⟩

end LintLedger.CommandLine

namespace LintLedger

/-! ## What an audit hands over to the sessions for its projects -/

namespace CommandLine

/-- A path from the root is read as a path. -/
theorem isPath_of_isAbsolute {path : String} (h : Path.isAbsolute path = true) : IsPath path := by
  have hhead : path.toList.head? = some '/' := beq_iff_eq.mp h
  refine ⟨.inl ?_, ?_⟩
  · rw [hhead]
    decide
  · rintro rfl
    cases hhead

/-- **The command line of a session for one project means what it was made of, or nothing.**  If
the settings file and the database are named by paths that do not begin with a hyphen and are not
empty, then reading gives back these paths, the project by itself, the tools in their order, the
number of jobs and what is to be done about errors.  Else the command line is refused. -/
theorem parse_childArguments (child : ChildSettings) (stopOnError : Bool) {names : List String}
    {tools : List Tool} (hnames : resolveTools names = .ok tools) {jobs : Nat}
    (hjobs : jobs < Nat.pow 2 64) {project : String} (hproject : Path.isAbsolute project = true) :
    (Readable child →
      parse (childArguments child stopOnError names jobs project) =
        .ok {
          config? := child.config?
          database? := child.database?
          debug := child.debug
          verbose := false
          quiet := true
          command := .audit {
            path := project
            tools := names
            jobs? := some jobs
            stopOnError := stopOnError
            strategy := .none
            singleProject := true
            recursive := false } }) ∧
    (¬Readable child →
      ∃ e, parse (childArguments child stopOnError names jobs project) = .error e) :=
  ⟨fun h => parse_childArguments_of_readable h (isPath_of_isAbsolute hproject)
      (isValue_of_resolveTools hnames) hjobs,
    fun h => parse_childArguments_of_not_readable h⟩

/-- The same audit with a database that can be named and with one that cannot. -/
theorem parse_childArguments_of_two_databases :
    resolveTools ["bandit", " MyPy"] = .ok [.bandit, .mypy] ∧ 2 < Nat.pow 2 64 ∧
      Path.isAbsolute "/w/api" = true ∧ Readable { database? := some "t.db", debug := true } ∧
      ¬Readable { database? := some "-t.db", debug := true } ∧
      parse (childArguments { database? := some "t.db", debug := true } true ["bandit", " MyPy"] 2
        "/w/api") =
        .ok {
          config? := none
          database? := some "t.db"
          debug := true
          verbose := false
          quiet := true
          command := .audit {
            path := "/w/api"
            tools := ["bandit", " MyPy"]
            jobs? := some 2
            stopOnError := true
            strategy := .none
            singleProject := true
            recursive := false } } ∧
      ∃ e, parse (childArguments { database? := some "-t.db", debug := true } true
        ["bandit", " MyPy"] 2 "/w/api") = .error e := by
  have hnames : resolveTools ["bandit", " MyPy"] = .ok [.bandit, .mypy] := by decide
  have hjobs : 2 < Nat.pow 2 64 := by decide
  have hproject : Path.isAbsolute "/w/api" = true := by decide
  have hreadable : Readable { database? := some "t.db", debug := true } :=
    { config := fun path hpath => by cases hpath
      database := fun path hpath => by cases hpath; decide }
  have hunreadable : ¬Readable { database? := some "-t.db", debug := true } :=
    fun h => absurd (h.database "-t.db" rfl) (by decide)
  exact ⟨hnames, hjobs, hproject, hreadable, hunreadable,
    (parse_childArguments _ true hnames hjobs hproject).1 hreadable,
    (parse_childArguments _ true hnames hjobs hproject).2 hunreadable⟩

end CommandLine

namespace AuditPlan

/-- An audit with a database whose name begins with a hyphen: its own command line is understood,
as the name is attached to its option, and the command line of a session for a project is not. -/
theorem sessions_refused_of_hyphened_database :
    ∃ (i : Invocation) (request : AuditRequest) (loaded : Settings) (p : AuditPlan),
      CommandLine.parse ["--db=-t.db", "audit", "/w", "--tool", "vulture", "--parallel",
        "process"] = .ok i ∧
      i.command = .audit request ∧
      Settings.load (.dir []) [] "/" request.path i.config? = .ok loaded ∧
      ofRequest? request.path i.config? request (Session.withInvocation loaded i) = .ok p ∧
      p.isApart = true ∧
      CommandLine.parse (p.arguments 1 "/w/api") = .error .unknownArgument := by
  let request : AuditRequest := { path := "/w", tools := ["vulture"], strategy := .process }
  let i : Invocation := ⟨none, some "-t.db", false, false, false, .audit request⟩
  have hmissing : FileTree.locate (.dir []) "/w/.auditor/config.toml" = .error .missing := by
    rw [FileTree.locate_of_steps (by decide)
      (show _ = ["w", ".auditor", "config.toml"] by decide)]
    cbv
  have hload : Settings.load (.dir []) [] "/" "/w" none = .ok {} := by
    have hpath : Path.join "/" (Settings.projectFile "/w") = "/w/.auditor/config.toml" := by
      decide
    have hnone : FileTree.exists? (.dir []) "/w/.auditor/config.toml" = false := by
      unfold FileTree.exists? FileTree.node? FileTree.node
      rw [hmissing]
      rfl
    simp [Settings.load, Settings.ofFirst, hpath, hnone, Settings.withEnvironment, Except.map,
      Assoc.find?]
  exact ⟨i, request, {}, _, by decide, rfl, hload, rfl, rfl, by decide⟩

end AuditPlan

end LintLedger
