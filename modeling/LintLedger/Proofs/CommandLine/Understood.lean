import LintLedger.Proofs.CommandLine.Refusal

/-!
# Command lines that are understood

What an audit writes on the command line of the session for a project holds for that session, as
long as it understands the command line at all.  The path of the project may look like an option:
then the session reads it as one, or refuses the rest.  It never takes another number of jobs, a
strategy or a search for projects from it, since an option that was given is not given again.

## Main Definitions

* `Grammar.Adds` -- words that add some entries to every reading that gets past them

## Main Statements

* `Grammar.adds_switch`, `Grammar.adds_option` -- what each kind of argument adds
* `request_of_parse_childArguments` -- what a session for one project is asked for
-/

namespace LintLedger.CommandLine

/-- A result that comes of another one. -/
theorem ok_of_bind {α β : Type} {e : Except UsageError α} {f : α → Except UsageError β} {b : β}
    (h : e.bind f = .ok b) : ∃ a, e = .ok a ∧ f a = .ok b := by
  cases e with
  | error cause => cases h
  | ok a => exact ⟨a, rfl, h⟩

theorem ok_of_map {α β : Type} {e : Except UsageError α} {f : α → β} {b : β}
    (h : e.map f = .ok b) : ∃ a, e = .ok a ∧ f a = b := by
  cases e with
  | error cause => cases h
  | ok a => exact ⟨a, rfl, Except.ok.inj h⟩

namespace Reading

/-- What was committed leaves nothing pending, and changes the entries only. -/
theorem commit_eq_ok {r c : Reading} (h : r.commit = .ok c) :
    c.pending? = none ∧ c.waiting = r.waiting ∧ c.position = r.position ∧
      c.trailing = r.trailing := by
  unfold commit at h
  split at h
  · rename_i hnone
    cases h
    exact ⟨hnone, rfl, rfl, rfl⟩
  · split at h
    · cases h
    · split at h
      · cases h
      · split at h
        · cases h
        · cases h
          exact ⟨rfl, rfl, rfl, rfl⟩

/-- An option with its value is committed only if the value is of its kind and the option was not
given before, unless it may be. -/
theorem given_of_commit {r c : Reading} {name v : String} {kind : ValueKind} {repeated : Bool}
    (hpending : r.pending? = some ⟨name, kind, repeated, [v]⟩) (h : r.commit = .ok c) :
    c.given = r.given ++ [(name, [v])] ∧
      (repeated = true ∨ name ∉ r.given.map Prod.fst) ∧ kind.refuse? v = none := by
  unfold commit at h
  simp only [hpending, List.isEmpty_cons, Bool.false_eq_true, if_false, List.findSome?_cons,
    List.findSome?_nil] at h
  split at h
  · cases h
  · rename_i hnew
    have hfresh : repeated = true ∨ name ∉ r.given.map Prod.fst := by
      cases repeated with
      | true => exact .inl rfl
      | false =>
        right
        simpa [has] using hnew
    cases hkind : kind.refuse? v with
    | some cause =>
      rw [hkind] at h
      cases h
    | none =>
      rw [hkind] at h
      cases h
      exact ⟨rfl, hfresh, rfl⟩

/-- A reading between two arguments. -/
structure Rests (r : Reading) : Prop where
  waiting : r.waiting = false
  trailing : r.trailing = false

end Reading

namespace Grammar

variable {g : Grammar}

/-! ## Words that add entries -/

/-- Words that add some entries to every reading that gets past them, if what was read before them
is as they need it. -/
def Adds (g : Grammar) (words : List String) (entries : List (String × List String))
    (Needs : List (String × List String) → Prop) : Prop :=
  ∀ r : Reading, r.Rests → ∀ rest out, g.read (words ++ rest) r = .ok out →
    ∃ r' : Reading, r'.Rests ∧ g.read rest r' = .ok out ∧
      ∀ c', r'.commit = .ok c' →
        ∃ c, r.commit = .ok c ∧ c'.given = c.given ++ entries ∧ Needs c.given

theorem Adds.nil : g.Adds [] [] fun _ => True :=
  fun r hr _ _ hread => ⟨r, hr, hread, fun c hc => ⟨c, hc, by simp, trivial⟩⟩

theorem Adds.trans {words more : List String} {entries entries' : List (String × List String)}
    {Needs Needs' : List (String × List String) → Prop} (first : g.Adds words entries Needs)
    (second : g.Adds more entries' Needs') :
    g.Adds (words ++ more) (entries ++ entries')
      fun given => Needs given ∧ Needs' (given ++ entries) := by
  intro r hr rest out hread
  rw [List.append_assoc] at hread
  obtain ⟨r', hr', hread', hfirst⟩ := first r hr (more ++ rest) out hread
  obtain ⟨r'', hr'', hread'', hsecond⟩ := second r' hr' rest out hread'
  refine ⟨r'', hr'', hread'', fun c'' hc'' => ?_⟩
  obtain ⟨c', hc', hgiven', hneeds'⟩ := hsecond c'' hc''
  obtain ⟨c, hc, hgiven, hneeds⟩ := hfirst c' hc'
  rw [hgiven] at hgiven' hneeds'
  exact ⟨c, hc, by rw [hgiven', List.append_assoc], hneeds, hneeds'⟩

theorem Adds.imp {words : List String} {entries : List (String × List String)}
    {Needs Needs' : List (String × List String) → Prop} (adds : g.Adds words entries Needs)
    (h : ∀ given, Needs given → Needs' given) : g.Adds words entries Needs' := by
  intro r hr rest out hread
  obtain ⟨r', hr', hread', hadds⟩ := adds r hr rest out hread
  refine ⟨r', hr', hread', fun c' hc' => ?_⟩
  obtain ⟨c, hc, hgiven, hneeds⟩ := hadds c' hc'
  exact ⟨c, hc, hgiven, h _ hneeds⟩

/-- A switch adds an entry without values. -/
theorem adds_switch (name : String) {a : Argument} (names : g.Names name a)
    (hform : a.form = .switch) :
    g.Adds ["--" ++ name] [(a.name, [])] fun given => a.name ∉ given.map Prod.fst := by
  intro r hr rest out hread
  rw [List.singleton_append, read_cons (.inr names.apart),
    readWord_long names.found names.nonempty names.plain hr.trailing] at hread
  obtain ⟨added, hswitch, hrest⟩ := ok_of_bind hread
  simp only [readForm, hform, Option.isSome_none, Bool.false_eq_true, if_false] at hswitch
  obtain ⟨c, hcommit, hadded⟩ := ok_of_bind hswitch
  obtain ⟨hpending, -, -, htrailing⟩ := Reading.commit_eq_ok hcommit
  split at hadded
  · cases hadded
  · rename_i hnew
    obtain rfl := Except.ok.inj hadded
    have hkept : Reading.Rests { c with given := c.given ++ [(a.name, [])], waiting := false } :=
      ⟨rfl, htrailing.trans hr.trailing⟩
    refine ⟨_, hkept, hrest, fun c' hc' => ⟨c, hcommit, ?_, ?_⟩⟩
    · simp only [Reading.commit, hpending] at hc'
      cases hc'
      rfl
    · simpa [Reading.has] using hnew

/-- An option with its value adds an entry. -/
theorem adds_option (name : String) (kind : ValueKind) (repeated : Bool) {a : Argument}
    (names : g.Names name a)
    (hform : a.form = if repeated then .repeated kind else .option kind) {v : String}
    (hv : IsValue v) :
    g.Adds ["--" ++ name, v] [(a.name, [v])] fun given =>
      (repeated = true ∨ a.name ∉ given.map Prod.fst) ∧ kind.refuse? v = none := by
  intro r hr rest out hread
  rw [List.cons_append, List.singleton_append, read_cons (.inr names.apart),
    readWord_long names.found names.nonempty names.plain hr.trailing] at hread
  obtain ⟨_, hbegin, hrest⟩ := ok_of_bind hread
  have hform' : readForm a none r = r.begin a.name kind repeated none := by
    rw [readForm, hform]
    cases repeated <;> rfl
  rw [hform', Reading.begin] at hbegin
  obtain ⟨c, hcommit, rfl⟩ := ok_of_map hbegin
  obtain ⟨-, -, -, htrailing⟩ := Reading.commit_eq_ok hcommit
  let named : Reading := { c with pending? := some ⟨a.name, kind, repeated, []⟩, waiting := true }
  have hkept : named.trailing = false := htrailing.trans hr.trailing
  change g.read (v :: rest) named = .ok out at hrest
  rw [read_cons (.inl rfl), readWord_of_isValue hv hkept, if_pos rfl] at hrest
  refine ⟨named.fill v, ⟨rfl, hkept⟩, hrest, fun c' hc' => ?_⟩
  obtain ⟨hgiven, hnew, hkind⟩ := Reading.given_of_commit rfl hc'
  exact ⟨c, hcommit, hgiven, hnew, hkind⟩

/-! ## Words of any kind -/

/-- A reading in which an option waits for its value only if it has none. -/
def Bare (r : Reading) : Prop := r.waiting = true → ∃ p, r.pending? = some p ∧ p.values = []

theorem bare_of_not_waiting {r : Reading} (h : r.waiting = false) : Bare r := by
  intro hwaits
  rw [h] at hwaits
  cases hwaits

theorem bare_of_begin {name : String} {kind : ValueKind} {repeated : Bool} {value? : Option String}
    {r r' : Reading} (h : r.begin name kind repeated value? = .ok r') : Bare r' := by
  unfold Reading.begin at h
  split at h
  · obtain ⟨_, -, h⟩ := ok_of_bind h
    obtain ⟨_, -, rfl⟩ := ok_of_map h
    exact bare_of_not_waiting rfl
  · obtain ⟨_, -, rfl⟩ := ok_of_map h
    exact fun _ => ⟨_, rfl, rfl⟩

theorem bare_of_readForm {a : Argument} {value? : Option String} {r r' : Reading}
    (h : readForm a value? r = .ok r') : Bare r' := by
  unfold readForm at h
  split at h
  · exact bare_of_begin h
  · exact bare_of_begin h
  · split at h
    · cases h
    · obtain ⟨_, -, h⟩ := ok_of_bind h
      split at h
      · cases h
      · cases h
        exact bare_of_not_waiting rfl
  · split at h
    · cases h
    · obtain ⟨_, -, h⟩ := ok_of_bind h
      cases h

theorem bare_of_readPositional {word : String} {r r' : Reading}
    (h : g.readPositional word r = .ok r') : Bare r' := by
  unfold readPositional at h
  split at h
  · cases h
  · obtain ⟨_, -, rfl⟩ := ok_of_map h
    exact bare_of_not_waiting rfl

theorem bare_of_readShort {letters : List Char} {r r' : Reading} (hr : Bare r)
    (h : g.readShort letters r = .ok r') : Bare r' := by
  induction letters generalizing r with
  | nil =>
    cases h
    exact hr
  | cons c rest ih =>
    unfold readShort at h
    split at h
    · cases h
    · obtain ⟨_, hform, h⟩ := ok_of_bind h
      exact ih (bare_of_readForm hform) h

/-- No word leaves an option with a value waiting for one. -/
theorem bare_of_readWord {word : String} {r r' : Reading} (hr : Bare r)
    (h : g.readWord word r = .ok r') : Bare r' := by
  unfold readWord at h
  split at h
  · exact bare_of_readPositional h
  · split at h
    · cases h
      exact hr
    · unfold readLong at h
      dsimp only at h
      split at h
      · cases h
      · exact bare_of_readForm h
    · exact bare_of_readShort hr h
    · split at h
      · cases h
        exact bare_of_not_waiting rfl
      · exact bare_of_readPositional h

/-- Behind the mark that ends the options each word takes the place of a positional argument. -/
theorem position_of_readPositional {word : String} {r r' : Reading}
    (h : g.readPositional word r = .ok r') :
    r.position < g.positionals.length ∧ r'.position = r.position + 1 ∧
      r'.trailing = r.trailing := by
  unfold readPositional at h
  split at h
  · cases h
  · rename_i p hp
    obtain ⟨c, hcommit, rfl⟩ := ok_of_map h
    obtain ⟨-, -, hposition, htrailing⟩ := Reading.commit_eq_ok hcommit
    exact ⟨(List.getElem?_eq_some_iff.mp hp).1, congrArg (· + 1) hposition, htrailing⟩

/-- Behind the mark that ends the options there is no room for two words in a grammar with one
positional argument. -/
theorem read_of_trailing_ne_ok {r : Reading} (htrailing : r.trailing = true)
    (hone : g.positionals.length = 1) (first second : String) (rest : List String)
    (out : Reading × Option (String × List String)) :
    g.read (first :: second :: rest) r ≠ .ok out := by
  intro h
  have hword (word : String) (more : List String) {r : Reading} (htrailing : r.trailing = true)
      (h : g.read (word :: more) r = .ok out) :
      ∃ r', g.readPositional word r = .ok r' ∧ g.read more r' = .ok out := by
    rw [read, if_neg (by simp [htrailing]), readWord, if_pos htrailing] at h
    exact ok_of_bind h
  obtain ⟨r', hfirst, h⟩ := hword first _ htrailing h
  obtain ⟨-, hposition, hstays⟩ := position_of_readPositional hfirst
  obtain ⟨r'', hsecond, -⟩ := hword second _ (hstays.trans htrailing) h
  obtain ⟨hlt, -, -⟩ := position_of_readPositional hsecond
  omega

end Grammar

/-! ## The session for one project -/

variable {child : ChildSettings} {stopOnError : Bool} {names : List String} {jobs : Nat}
  {project : String}

/-- What stands behind the path of the project. -/
def optionWords (stopOnError : Bool) (names : List String) (jobs : Nat) : List String :=
  ["--single-project"] ++ ["--parallel", "none"] ++ ["--jobs", toString jobs]
    ++ names.flatMap (fun name => ["--tool", name])
    ++ (if stopOnError then ["--stop-on-error"] else [])

/-- The entries of what stands behind the path of the project. -/
def optionEntries (stopOnError : Bool) (names : List String) (jobs : Nat) :
    List (String × List String) :=
  [("single-project", [])] ++ [("parallel", ["none"])] ++ [("jobs", [toString jobs])]
    ++ names.map (fun name => ("tool", [name]))
    ++ (if stopOnError then [("stop-on-error", [])] else [])

/-- Each tool adds its entry. -/
theorem adds_tools (hnames : ∀ name ∈ names, IsValue name) :
    ∃ Needs, (grammarOf "audit").Adds (names.flatMap fun name => ["--tool", name])
      (names.map fun name => ("tool", [name])) Needs := by
  have tool : (grammarOf "audit").Names "tool" ⟨"tool", none, .repeated .text⟩ :=
    ⟨rfl, by decide, by decide, by decide⟩
  induction names with
  | nil => exact ⟨_, .nil⟩
  | cons name rest ih =>
    obtain ⟨Needs, hrest⟩ := ih fun n hn => hnames n (List.mem_cons_of_mem _ hn)
    have hfirst := Grammar.adds_option "tool" .text true tool rfl (hnames name List.mem_cons_self)
    exact ⟨_, hfirst.trans hrest⟩

/-- What stands behind the path of the project adds its entries to whatever the path was read as,
and the path was neither read as a number of jobs nor as a strategy. -/
theorem adds_optionWords (hnames : ∀ name ∈ names, IsValue name) :
    (grammarOf "audit").Adds (optionWords stopOnError names jobs)
      (optionEntries stopOnError names jobs) fun given =>
        "parallel" ∉ given.map Prod.fst ∧ "jobs" ∉ given.map Prod.fst ∧
          ValueKind.count.refuse? (toString jobs) = none := by
  have single : (grammarOf "audit").Names "single-project" ⟨"single-project", none, .switch⟩ :=
    ⟨rfl, by decide, by decide, by decide⟩
  have parallel : (grammarOf "audit").Names "parallel" ⟨"parallel", none, .option .strategy⟩ :=
    ⟨rfl, by decide, by decide, by decide⟩
  have count : (grammarOf "audit").Names "jobs" ⟨"jobs", none, .option .count⟩ :=
    ⟨rfl, by decide, by decide, by decide⟩
  have stop : (grammarOf "audit").Names "stop-on-error" ⟨"stop-on-error", none, .switch⟩ :=
    ⟨rfl, by decide, by decide, by decide⟩
  obtain ⟨Tools, htools⟩ := adds_tools hnames
  obtain ⟨Stop, hstop⟩ : ∃ Stop, (grammarOf "audit").Adds
      (if stopOnError then ["--stop-on-error"] else [])
      (if stopOnError then [("stop-on-error", [])] else []) Stop := by
    split
    · exact ⟨_, Grammar.adds_switch "stop-on-error" stop rfl⟩
    · exact ⟨_, .nil⟩
  have hsingle := Grammar.adds_switch "single-project" single rfl
  have hparallel :=
    Grammar.adds_option "parallel" .strategy false parallel rfl (v := "none") (by decide)
  have hcount := Grammar.adds_option "jobs" .count false count rfl (isValue_toString jobs)
  refine ((((hsingle.trans hparallel).trans hcount).trans htools).trans hstop).imp ?_
  rintro given ⟨⟨⟨⟨-, hparallel, -⟩, hcount, hkind⟩, -⟩, -⟩
  refine ⟨?_, ?_, hkind⟩
  · simpa using hparallel
  · simpa using hcount

/-- The first value of an option that was not given before some entries is the one in them. -/
theorem value?_of_not_mem {r : Reading} {given entries : List (String × List String)} {name : String}
    (hr : r.given = given ++ entries) (hnew : name ∉ given.map Prod.fst) :
    r.value? name = ((entries.filter (·.1 == name)).flatMap (·.2)).head? := by
  have hnone : given.filter (·.1 == name) = [] := by
    refine List.filter_eq_nil_iff.mpr fun entry hentry hname => hnew ?_
    exact beq_iff_eq.mp hname ▸ List.mem_map_of_mem hentry
  rw [Reading.value?, Reading.values, hr, List.filter_append, hnone, List.nil_append]

/-- The command of a reading that ends with the entries for one project. -/
theorem commandOf_optionEntries {r : Reading} {given : List (String × List String)}
    (hr : r.given = given ++ optionEntries stopOnError names jobs)
    (hparallel : "parallel" ∉ given.map Prod.fst) (hjobs : "jobs" ∉ given.map Prod.fst)
    (hkind : ValueKind.count.refuse? (toString jobs) = none) {command : Command}
    (h : commandOf "audit" r = .ok command) :
    ∃ request, command = .audit request ∧ request.jobs? = some jobs ∧
      request.strategy = .none ∧ request.singleProject = true := by
  have hcount : r.value? "jobs" = some (toString jobs) := by
    rw [value?_of_not_mem hr hjobs]
    rfl
  have hstrategy : r.value? "parallel" = some "none" := by
    rw [value?_of_not_mem hr hparallel]
    rfl
  have hsingle : r.has "single-project" = true := by
    rw [Reading.has, hr, List.any_append]
    simp [optionEntries]
  have hread : Text.natUpTo? (Nat.pow 2 64 - 1) (toString jobs) = some jobs := by
    rw [ValueKind.refuse?, natUpTo?_toString_eq] at hkind
    split at hkind
    · rename_i hrange
      exact natUpTo?_toString hrange
    · cases hkind
  cases h
  refine ⟨_, rfl, ?_, ?_, hsingle⟩
  · rw [hcount]
    exact hread
  · rw [hstrategy]
    rfl

/-- **What a session for one project is asked for**, if it understands its command line: that one
project with the number of jobs that was written, in no further sessions. -/
theorem request_of_parse_childArguments (hnames : ∀ name ∈ names, IsValue name) {i : Invocation}
    (h : parse (childArguments child stopOnError names jobs project) = .ok i) :
    ∃ request, i.command = .audit request ∧ request.jobs? = some jobs ∧
      request.strategy = .none ∧ request.singleProject = true := by
  have hreadable : Readable child := by
    by_contra hnot
    obtain ⟨e, he⟩ := parse_childArguments_of_not_readable hnot
    rw [he] at h
    cases h
  have hwords : childArguments child stopOnError names jobs project =
      frontWords child ++ "audit" :: project :: optionWords stopOnError names jobs := by
    simp [childArguments, frontWords, optionWords]
  obtain ⟨front, hfront, hpasses⟩ := passes_frontWords hreadable .start ⟨rfl, rfl, rfl, rfl⟩
  have hmain : mainGrammar.read (childArguments child stopOnError names jobs project) .start =
      .ok (front, some ("audit", project :: optionWords stopOnError names jobs)) := by
    rw [hwords, hpasses, Grammar.read, if_pos]
    simp [hfront.waiting, hfront.trailing, mainGrammar, commandNames]
  rw [parse, hmain] at h
  simp only [if_neg (show ¬"audit" = helpCommand by decide)] at h
  obtain ⟨⟨own, more⟩, hread, h⟩ := ok_of_bind h
  obtain ⟨own', hcommit, h⟩ := ok_of_bind h
  obtain ⟨command, hcommand, h⟩ := ok_of_bind h
  obtain ⟨_, -, rfl⟩ := ok_of_map h
  -- whatever the path of the project was read as, options are read behind it
  rw [Grammar.read_cons (.inr (by simp [grammarOf]))] at hread
  obtain ⟨r, hword, hread⟩ := ok_of_bind hread
  have hbare : Grammar.Bare r := Grammar.bare_of_readWord (Grammar.bare_of_not_waiting rfl) hword
  have htrailing : r.trailing = false := by
    by_contra htrailing
    exact Grammar.read_of_trailing_ne_ok (Bool.not_eq_false _ ▸ htrailing) rfl _ _ _ _ hread
  have hwaiting : r.waiting = false := by
    by_contra hwaits
    obtain ⟨p, hpending, hvalues⟩ := hbare (Bool.not_eq_false _ ▸ hwaits)
    have single : (grammarOf "audit").Names "single-project" ⟨"single-project", none, .switch⟩ :=
      ⟨rfl, by decide, by decide, by decide⟩
    obtain ⟨e, he⟩ := single.read_of_commit htrailing (Reading.commit_of_waiting hpending hvalues)
      (optionWords stopOnError names jobs).tail
    cases he.symm.trans hread
  obtain ⟨r', -, hdone, hadds⟩ := adds_optionWords hnames r ⟨hwaiting, htrailing⟩ []
    (own, more) (by rw [List.append_nil]; exact hread)
  obtain rfl : r' = own := by
    cases hdone
    rfl
  obtain ⟨c, -, hgiven, hparallel, hjobs, hkind⟩ := hadds own' hcommit
  exact commandOf_optionEntries hgiven hparallel hjobs hkind hcommand

end LintLedger.CommandLine
