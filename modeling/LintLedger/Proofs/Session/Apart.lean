import LintLedger.Proofs.CommandLine.Child
import LintLedger.Proofs.Session.Steady

/-!
# Audits with a session for every project

An audit may give each of its projects to a session of its own, which is told by a command line
what to do.  Such a session looks for its settings anew and opens the database that earlier
sessions have saved.  As long as it finds there what the audit goes by, it adds to the database what
the tools of its project bring, and the audit leaves what it would have left by itself.

## Main Definitions

* `AuditPlan.Asked` -- plans that come of an invocation
* `AuditPlan.passedOn`, `AuditPlan.ownPlan` -- what the session for a project is told, and the plan
  that it makes of that
* `AuditPlan.Told` -- plans whose sessions understand their command lines

## Main Statements

* `AuditPlan.Steady.runWith_arguments` -- the session for a project carries out the plan for it
* `AuditPlan.Steady.filled_session` -- what it leaves in the database
* `AuditPlan.Steady.filled_perform_apart` -- what an audit leaves that gives each project to a
  session
-/

namespace LintLedger

namespace Session

/-- What a command line for an audit comes to. -/
theorem runWith_audit (again : Respawn) {host : Host} {args : List String} {w : World}
    {i : Invocation} {request : AuditRequest} {root : String} {loaded : Settings} {p : AuditPlan}
    (hparse : CommandLine.parse args = .ok i) (hcommand : i.command = .audit request)
    (hroot : canonical w.tree host.surroundings.dir request.path = root)
    (hload : Settings.load w.tree host.surroundings.environment host.surroundings.dir root
      i.config? = .ok loaded)
    (hplan : AuditPlan.ofRequest? root i.config? request (withInvocation loaded i) = .ok p) :
    runWith again host args w =
      p.perform host again w.nextProcess i.verbose i.quiet
        { w with nextProcess := w.nextProcess + 1 } := by
  unfold runWith
  simp only [hparse, projectOf, hcommand, hroot, hload, perform, audit, hplan]

end Session

namespace AuditPlan

variable {p : AuditPlan} {host : Host} {projects : List String} {start : FileTree}
  {answer : String → Tool → Execution} {i : Invocation} {loaded : Settings}

/-! ## Plans of invocations -/

/-- A plan that comes of an invocation under some settings. -/
structure Asked (p : AuditPlan) (i : Invocation) (loaded : Settings) : Prop where
  settings : p.settings = Session.withInvocation loaded i
  config : p.config? = i.config?
  named : p.names ≠ []
  resolved : resolveTools p.names = .ok p.tools

theorem namesFor_ne_nil (request : AuditRequest) (settings : Settings) :
    namesFor request settings ≠ [] := by
  unfold namesFor
  split
  · rename_i h
    simpa using h
  · split
    · rename_i h
      simpa using h
    · decide

theorem ofRequest?_eq_ok_iff {root : String} {config? : Option String} {request : AuditRequest}
    {settings : Settings} :
    ofRequest? root config? request settings = .ok p ↔
      resolveTools (namesFor request settings) = .ok p.tools ∧
        p = ⟨root, request, settings, config?, namesFor request settings, p.tools⟩ := by
  unfold ofRequest?
  dsimp only
  split
  · rename_i hunknown
    simp [hunknown]
  · rename_i tools hresolved
    rw [hresolved, Except.ok.injEq, Except.ok.injEq]
    constructor
    · rintro rfl
      exact ⟨rfl, rfl⟩
    · rintro ⟨htools, heq⟩
      rw [heq, htools]

theorem asked_of_ofRequest? {root : String} {request : AuditRequest}
    (h : ofRequest? root i.config? request (Session.withInvocation loaded i) = .ok p) :
    p.Asked i loaded ∧ p.root = root ∧ p.request = request := by
  obtain ⟨hresolved, heq⟩ := ofRequest?_eq_ok_iff.mp h
  generalize p.tools = tools at hresolved heq
  subst heq
  exact ⟨⟨rfl, rfl, namesFor_ne_nil _ _, hresolved⟩, rfl, rfl⟩

/-- The strategy has no say in what a plan is for. -/
theorem ofRequest?_strategy {root : String} {config? : Option String} {request : AuditRequest}
    {settings : Settings} (h : ofRequest? root config? request settings = .ok p)
    (strategy : Strategy) :
    ofRequest? root config? { request with strategy := strategy } settings =
      .ok { p with request := { request with strategy := strategy } } := by
  obtain ⟨hresolved, heq⟩ := ofRequest?_eq_ok_iff.mp h
  refine ofRequest?_eq_ok_iff.mpr ⟨hresolved, ?_⟩
  rw [heq]
  rfl

/-- The settings that a session for a project takes from the command line, beside those that it
has found itself, are those of the plan. -/
theorem Asked.withInvocation_eq (asked : p.Asked i loaded) {own : Invocation}
    (hdatabase : own.database? = some p.settings.database.path)
    (hdebug : own.debug = p.settings.log.debug) :
    Session.withInvocation loaded own = p.settings := by
  simp only [Session.withInvocation, hdatabase, hdebug]
  rw [asked.settings]
  unfold Session.withInvocation
  cases i.database? <;> simp

/-! ## A session for one project -/

/-- What the session for a project takes over. -/
def passedOn (p : AuditPlan) : ChildSettings where
  config? := p.config?
  database? := some p.settings.database.path
  debug := p.settings.log.debug

/-- The plan of the session for a project. -/
def ownPlan (p : AuditPlan) (inner : Nat) (project : String) : AuditPlan where
  root := project
  request := CommandLine.childRequest p.request.stopOnError p.names inner project
  settings := p.settings
  config? := p.config?
  names := p.names
  tools := p.tools

/-- A plan whose sessions understand their command lines: no path on them is taken for an option
or is empty, and the number of jobs is one that can be read. -/
structure Told (p : AuditPlan) (projects : List String) : Prop where
  readable : CommandLine.Readable p.passedOn
  projects : ∀ project ∈ projects, CommandLine.IsPath project
  jobs : p.jobs < Nat.pow 2 64

/-- **The session for a project carries out the plan for it**, by the settings of the audit. -/
theorem Steady.runWith_arguments (steady : p.Steady host projects start answer)
    (asked : p.Asked i loaded) (told : p.Told projects)
    (hload : Settings.load start host.surroundings.environment host.surroundings.dir p.root
      p.config? = .ok loaded)
    {project : String} (hproject : project ∈ projects) {w : World}
    (harises : p.Arises host projects start w.tree) {inner : Nat} (hinner : inner < Nat.pow 2 64) :
    Session.runWith Session.refusing host (p.arguments inner project) w =
      (p.ownPlan inner project).perform host Session.refusing w.nextProcess false true
        { w with nextProcess := w.nextProcess + 1 } := by
  have hparse : CommandLine.parse (p.arguments inner project) = .ok _ :=
    CommandLine.parse_childArguments_of_readable told.readable (told.projects project hproject)
      (CommandLine.isValue_of_resolveTools asked.resolved) hinner
  have hnamed : namesFor (p.ownPlan inner project).request p.settings = p.names := by
    have hsome := asked.named
    unfold namesFor
    rw [if_pos (by simpa [ownPlan, CommandLine.childRequest] using hsome)]
    rfl
  have hplan : ofRequest? project p.config? (p.ownPlan inner project).request p.settings =
      .ok (p.ownPlan inner project) :=
    ofRequest?_eq_ok_iff.mpr ⟨by rw [hnamed]; exact asked.resolved, by rw [hnamed]; rfl⟩
  have hloads := (steady.settings _ harises project hproject).trans hload
  rw [Session.runWith_audit _ hparse rfl (steady.place _ harises project hproject) hloads
    (p := p.ownPlan inner project) (by rw [asked.withInvocation_eq rfl rfl]; exact hplan)]

theorem arises_openDatabase {w opened : World} {s : Store}
    (hfile : hasNoFile p.settings.database.path = false)
    (harises : p.Arises host projects start w.tree)
    (hopen : openDatabase host p.settings w = (opened, .ok s)) :
    p.Arises host projects start opened.tree := by
  obtain ⟨-, -, found, store, hstore, -, htree⟩ := content_of_openDatabase hfile hopen
  have hopened := Arises.opened harises
  rw [hstore] at hopened
  exact htree ▸ .saved s hopened

/-- What the session for a project leaves in the database: what the tools of the project bring. -/
theorem Steady.filled_session (steady : p.Steady host projects start answer)
    (asked : p.Asked i loaded) (hgoes : p.request.stopOnError = false)
    (hfile : hasNoFile p.settings.database.path = false) {project : String}
    (hproject : project ∈ projects) {stock : Store.Stock} {base s : Store} {w : World}
    (filled : p.Filled host projects start stock base w.tree s) (hcomplete : s.Complete)
    (inner process : Nat) (verbose quiet : Bool) :
    ∃ after, p.Filled host projects start (p.stock host answer [project]) s
        ((p.ownPlan inner project).perform host Session.refusing process verbose quiet w).world.tree
        after ∧
      after.Supplied (p.stock host answer [project]) := by
  obtain ⟨opened, hopen⟩ := openDatabase_of_content hfile filled.content hcomplete
  have hlisted : ∀ other ∈ [project], other ∈ projects := by
    intro other hother
    rw [List.mem_singleton.mp hother]
    exact hproject
  exact steady.filled_perform (q := p.ownPlan inner project) ⟨rfl, rfl⟩ asked.resolved nofun hgoes
    hfile hopen (arises_openDatabase hfile filled.arises hopen) rfl hlisted _ _ _ _

/-! ## A session for every project -/

theorem stock_singleton_subset {project : String} (h : project ∈ projects) :
    p.stock host answer [project] ⊆ p.stock host answer projects := by
  rintro batch ⟨other, hother, hbrings⟩
  rw [List.mem_singleton.mp hother] at hbrings
  exact ⟨project, h, hbrings⟩

theorem inner_lt (told : p.Told projects) (strategy : Strategy) (count : Nat) :
    (plan strategy p.jobs count).inner < Nat.pow 2 64 := by
  have hjobs := told.jobs
  have hone : 1 < Nat.pow 2 64 := by decide
  unfold plan
  dsimp only
  split <;> split <;> omega

/-- The sessions of an audit serve their projects and undo nothing. -/
theorem Steady.serving (steady : p.Steady host projects start answer)
    (asked : p.Asked i loaded) (told : p.Told projects)
    (hload : Settings.load start host.surroundings.environment host.surroundings.dir p.root
      p.config? = .ok loaded)
    (hgoes : p.request.stopOnError = false)
    (hfile : hasNoFile p.settings.database.path = false) {base : Store}
    (hcomplete : base.Complete) {inner : Nat} (hinner : inner < Nat.pow 2 64) (now : Timestamp) :
    Schedule.Serving (p.executor host (Session.runWith Session.refusing host) inner)
      (p.job now projects)
      (fun w => ∃ s, p.Filled host projects start (p.stock host answer projects) base w.tree s)
      (fun project w => ∃ s, w.tree.content (databaseFile host p.settings) = .ok (.ledger s) ∧
        s.Supplied (p.stock host answer [project])) := by
  have hchild : ∀ project ∈ projects, ∀ w s,
      p.Filled host projects start (p.stock host answer projects) base w.tree s →
      ∃ after, p.Filled host projects start (p.stock host answer [project]) s
        ((p.executor host (Session.runWith Session.refusing host) inner).child project w).1.tree
        after ∧ after.Supplied (p.stock host answer [project]) := by
    intro project hproject w s filled
    change ∃ after, p.Filled host projects start _ s
      (Session.runWith Session.refusing host (p.arguments inner project) w).world.tree after ∧ _
    rw [steady.runWith_arguments asked told hload hproject filled.arises hinner]
    have filled' : p.Filled host projects start (p.stock host answer projects) base
        { w with nextProcess := w.nextProcess + 1 }.tree s := filled
    exact steady.filled_session asked hgoes hfile hproject filled'
      (filled.drawn.complete hcomplete) inner _ _ _
  -- a session adds to the store, serves its project, and undoes no other service
  refine ⟨?_, ?_, ?_⟩
  · rintro project hproject w ⟨s, filled⟩
    obtain ⟨after, hafter, -⟩ := hchild project hproject w s filled
    exact ⟨after, hafter.arises, hafter.content,
      filled.drawn.trans (hafter.drawn.mono (stock_singleton_subset hproject))⟩
  · rintro project hproject w ⟨s, filled⟩
    obtain ⟨after, hafter, hsupplied⟩ := hchild project hproject w s filled
    exact ⟨after, hafter.content, hsupplied⟩
  · rintro project hproject w ⟨s, filled⟩ other ⟨s', hcontent, hsupplied⟩
    obtain ⟨after, hafter, -⟩ := hchild project hproject w s filled
    cases hcontent.symm.trans filled.content
    exact ⟨after, hafter.content, hafter.drawn.supplied hsupplied⟩

/-- An audit whose sessions have written to the database keeps its log only. -/
theorem keep_of_apart (hapart : p.isApart = true) (process : Nat) (r : Records) (w : World) :
    p.keep host process r w =
      match p.runLog? host process with
      | some log => { w with tree := log.write r.notes w.tree }
      | none => w := by
  unfold keep
  rw [hapart]
  cases r.store? <;> rfl

/-- **What an audit leaves in its database that gives each project to a session of its own**: the
same as one that runs them itself. -/
theorem Steady.filled_perform_apart (steady : p.Steady host projects start answer)
    (asked : p.Asked i loaded) (told : p.Told projects)
    (hload : Settings.load start host.surroundings.environment host.surroundings.dir p.root
      p.config? = .ok loaded)
    (hgoes : p.request.stopOnError = false)
    (hfile : hasNoFile p.settings.database.path = false) (hstrategy : p.request.strategy = .process)
    {w opened : World} {base : Store} (hopen : openDatabase host p.settings w = (opened, .ok base))
    (harises : p.Arises host projects start opened.tree)
    (hfound : p.projects host.surroundings.dir opened.tree = projects) (process : Nat)
    (verbose quiet : Bool) :
    ∃ after, p.Filled host projects start (p.stock host answer projects) base
        (p.perform host (Session.runWith Session.refusing host) process verbose quiet w).world.tree
        after ∧
      after.Supplied (p.stock host answer projects) := by
  obtain ⟨hcomplete, hcontent, -⟩ := content_of_openDatabase hfile hopen
  have hapart : p.isApart = true := by simp [isApart, hstrategy]
  have apart : (p.job host.now projects).Apart := by
    refine ⟨hapart, ?_, hgoes⟩
    simp only [job, plan]
    split <;> omega
  have serving := steady.serving asked told hload hgoes hfile hcomplete (inner_lt told
    p.request.strategy projects.length) host.now
  obtain ⟨⟨after, filled⟩, hserved⟩ := Schedule.run_apart apart serving ⟨some base, []⟩
    (w := opened) ⟨base, harises, hcontent, .refl _ _⟩
  rw [tree_perform hopen, hfound, keep_of_apart hapart]
  refine ⟨after, steady.write_log ⟨rfl, rfl⟩ filled process _, ?_⟩
  · rintro batch ⟨project, hproject, hbrings⟩
    obtain ⟨s, hs, hsupplied⟩ := hserved project hproject
    cases hs.symm.trans filled.content
    exact hsupplied batch ⟨project, List.mem_singleton_self _, hbrings⟩

end AuditPlan

end LintLedger
