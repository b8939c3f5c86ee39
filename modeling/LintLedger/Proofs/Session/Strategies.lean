import LintLedger.Proofs.FileTree.Below
import LintLedger.Proofs.Session.Apart

/-!
# Strategies

An audit runs its projects in one session, or gives each to a session of its own.  If all that
these sessions find is what the audit goes by, and no two projects share findings, then the
findings left are the same for both strategies.

## Main Definitions

* `AuditPlan.Separate` -- projects that do not share findings

## Main Statements

* `findings_of_strategies` -- the findings left do not depend on the strategy
-/

namespace LintLedger

namespace AuditPlan

variable {p : AuditPlan} {host : Host} {projects : List String}
  {answer : String → Tool → Execution}

/-- No finding of one project has the key of a finding of another. -/
def Separate (p : AuditPlan) (host : Host) (projects : List String)
    (answer : String → Tool → Execution) : Prop :=
  ∀ project ∈ projects, ∀ project' ∈ projects, ∀ tool ∈ p.tools, ∀ batch batch',
    p.brings host answer project tool = .ok batch →
    p.brings host answer project' tool = .ok batch' →
    ∀ f ∈ batch, ∀ g ∈ batch', f.key = g.key → project = project'

/-- Under one key such projects ask for one row. -/
theorem Separate.consistent (separate : p.Separate host projects answer) :
    (p.stock host answer projects).Consistent := by
  rintro r r' ⟨batch, ⟨project, hproject, tool, htool, hbrings⟩, f, table, hfirst, htable, hrow⟩
    ⟨batch', ⟨project', hproject', tool', _, hbrings'⟩, g, table', hfirst', htable', hrow'⟩ hkey
  have hf := List.mem_of_find?_eq_some hfirst
  have hg := List.mem_of_find?_eq_some hfirst'
  have hsame : f.key = g.key := by
    rw [← Row.key_unowned, ← r'.key_unowned, hrow, hrow', (Row.shows_ofFinding htable 0).key_eq,
      (Row.shows_ofFinding htable' 0).key_eq] at hkey
    exact hkey
  obtain rfl : tool = tool' := by
    have hname := congrArg Prod.fst hsame
    simp only [Finding.key, Audit.table_of_mem_harvest rfl hbrings f hf,
      Audit.table_of_mem_harvest rfl hbrings' g hg] at hname
    exact Tool.tableName_injective hname
  obtain rfl := separate project hproject project' hproject' tool htool batch batch' hbrings
    hbrings' f hf g hg hsame
  cases hbrings.symm.trans hbrings'
  rw [hsame, hfirst'] at hfirst
  cases hfirst
  cases htable.symm.trans htable'
  rw [hrow, hrow']

end AuditPlan

/-- **The findings left do not depend on the strategy.**  Take two command lines that ask for one
audit, the first with any strategy but that of a session for every project, the second with that
strategy, and neither to stop at failures.  If all sessions find what the audit goes by, understand
their command lines, and projects do not share findings, then both leave the same findings in the
database, apart from the scans that brought them.  In a database that has a file and can be opened
these are what was there and what the tools of the projects bring. -/
theorem findings_of_strategies {host : Host} {w : World} {args args' : List String}
    {i : Invocation} {request : AuditRequest} {strategy : Strategy} {root : String}
    {loaded : Settings} {p : AuditPlan} {projects : List String}
    {answer : String → Tool → Execution}
    (hparse : CommandLine.parse args =
      .ok { i with command := .audit { request with strategy := strategy } })
    (hparse' : CommandLine.parse args' =
      .ok { i with command := .audit { request with strategy := .process } })
    (hstrategy : strategy ≠ .process) (hgoes : request.stopOnError = false)
    (hroot : canonical w.tree host.surroundings.dir request.path = root)
    (hload : Settings.load w.tree host.surroundings.environment host.surroundings.dir root
      i.config? = .ok loaded)
    (hplan : AuditPlan.ofRequest? root i.config? { request with strategy := .process }
      (Session.withInvocation loaded i) = .ok p)
    (hprojects : p.projects host.surroundings.dir (openDatabase host p.settings w).1.tree =
      projects)
    (steady : p.Steady host projects w.tree answer) (told : p.Told projects)
    (separate : p.Separate host projects answer)
    (hnodup : ∀ s, (openStore w.tree host.surroundings.dir p.settings.database.path).2 = some s →
      s.keys.Nodup) :
    findingsIn (Session.run host args w).world.tree host.surroundings.dir
        p.settings.database.path =
      findingsIn (Session.run host args' w).world.tree host.surroundings.dir
        p.settings.database.path ∧
    (hasNoFile p.settings.database.path = false →
      ∀ found, (openStore w.tree host.surroundings.dir p.settings.database.path).2 = some found →
        ∃ after, findingsIn (Session.run host args w).world.tree host.surroundings.dir
            p.settings.database.path = some ↑(after.rows.map Row.unowned) ∧
          Store.Drawn (p.stock host answer projects) found.seed after ∧
          after.Supplied (p.stock host answer projects)) := by
  obtain ⟨asked, hroot', hrequest⟩ := AuditPlan.asked_of_ofRequest? hplan
  -- the plans of the two command lines differ in the strategy alone
  let q : AuditPlan := { p with request := { request with strategy := strategy } }
  have hother : AuditPlan.ofRequest? root i.config? { request with strategy := strategy }
      (Session.withInvocation loaded i) = .ok q :=
    AuditPlan.ofRequest?_strategy hplan strategy
  let again := Session.runWith Session.refusing host
  have hrun := Session.runWith_audit again hparse rfl hroot hload hother
  have hrun' := Session.runWith_audit again hparse' rfl hroot hload hplan
  rw [Session.run, hrun, Session.run, hrun']
  have hopens : openDatabase host p.settings { w with nextProcess := w.nextProcess + 1 } = _ :=
    openDatabase_nextProcess _
  cases hfile : hasNoFile p.settings.database.path with
  | true =>
    refine ⟨?_, nofun⟩
    rw [findingsIn_of_hasNoFile hfile, findingsIn_of_hasNoFile hfile]
  | false =>
    rcases hopen : openDatabase host p.settings w with ⟨opened, e | base⟩
    · -- a database that cannot be opened ends both sessions at once
      rw [hopen] at hopens
      refine ⟨?_, fun _ found hfound => ?_⟩
      · rw [AuditPlan.tree_perform_of_error (q := q) hopens,
          AuditPlan.tree_perform_of_error (q := p) hopens]
      · rw [openDatabase_of_openStore (Prod.ext rfl hfound)] at hopen
        cases hopen
    · obtain ⟨-, -, t, found, hstore, rfl, -⟩ := content_of_openDatabase hfile hopen
      have harises : p.Arises host projects w.tree opened.tree :=
        AuditPlan.arises_openDatabase hfile .start hopen
      rw [hopen] at hopens hprojects
      have hprojects' : q.projects host.surroundings.dir opened.tree = projects := by
        rw [← hprojects]
        simp only [AuditPlan.projects, q, hrequest]
      obtain ⟨after, filled, hsupplied⟩ := steady.filled_perform (q := q) ⟨rfl, rfl⟩
        asked.resolved hstrategy hgoes hfile hopens harises hprojects' (fun _ hlisted => hlisted)
        again w.nextProcess i.verbose i.quiet
      obtain ⟨after', filled', hsupplied'⟩ := steady.filled_perform_apart asked told
        (by rw [hroot', asked.config]; exact hload) (by rw [hrequest]; exact hgoes) hfile
        (by rw [hrequest]) hopens harises hprojects w.nextProcess i.verbose i.quiet
      rw [findingsIn_of_content hfile filled.content, findingsIn_of_content hfile filled'.content]
      -- both stores are drawn from one stock, which decides the rows up to their order
      have hperm := filled.drawn.rows_perm filled'.drawn (hnodup found (by rw [hstore])) hsupplied
        hsupplied' separate.consistent
      refine ⟨congrArg some (Multiset.coe_eq_coe.mpr hperm), fun _ found' hfound' => ?_⟩
      obtain rfl : found = found' := by simpa [hstore] using hfound'
      exact ⟨after, rfl, filled.drawn, hsupplied⟩

/-! ## An audit of two projects -/

namespace TwoProjects

/-- Two projects beside a database. -/
def tree (s : Store) : FileTree :=
  .dir [("a", .dir [(".git", .dir [])]), ("b", .dir [(".git", .dir [])]),
    ("l.db", .file (.ledger s) false)]

/-- A run of a tool that finds something in the first project. -/
def run (tool : String) (argv : List String) (dir : String) : RunRecord where
  tool := tool
  cmd := argv
  cwd := dir
  exitCode := if dir = "/a" then 3 else 0
  duration := 0.5
  stdout := if dir = "/a" then "m.py:2: unreachable code after 'return' (95% confidence)" else ""
  stderr := ""
  payload? := none

/-- A host with such tools. -/
def host : Host where
  surroundings := ⟨[], "/"⟩
  now := ⟨2026, 1, 1, 0, 0, 0⟩
  launcher := fun _ tool argv dir t => ⟨t, .ok (run tool argv dir), 5⟩

/-- The command line of an audit by one tool. -/
def arguments (strategy : String) : List String :=
  ["--db", "l.db", "audit", ".", "--tool", "vulture", "--recursive", "--parallel", strategy]

def request : AuditRequest := { tools := ["vulture"], recursive := true }

def invocation : Invocation where
  config? := none
  database? := some "l.db"
  debug := false
  verbose := false
  quiet := false
  command := .audit request

/-- The plan that the command line comes to. -/
def plan : AuditPlan where
  root := "/"
  request := { request with strategy := .process }
  settings := Session.withInvocation {} invocation
  config? := none
  names := ["vulture"]
  tools := [.vulture]

/-- How tools end on a project. -/
def answer (project : String) (tool : Tool) : Execution :=
  .ran (run tool.name ((analyzerOf plan.settings.tools tool).command project) project)

variable (s : Store)

/-! ### What is in the tree -/

/-- Paths in the tree and the places that they mean. -/
def places : List (String × List String) :=
  [("/", []), ("/l.db", ["l.db"]), ("/a", ["a"]), ("/b", ["b"]), ("/a/.git", ["a", ".git"]),
    ("/b/.git", ["b", ".git"])]

/-- Every path of the list means its place, whatever the store holds. -/
theorem locate_tree {path : String} {place : List String} (h : (path, place) ∈ places) :
    (tree s).locate path = .ok place := by
  simp only [places, List.mem_cons, Prod.mk.injEq, List.not_mem_nil, or_false] at h
  rcases h with ⟨rfl, rfl⟩ | h
  · exact FileTree.locate_of_here (by decide) (by decide) rfl
  · rcases h with ⟨rfl, rfl⟩ | ⟨rfl, rfl⟩ | ⟨rfl, rfl⟩ | ⟨rfl, rfl⟩ | ⟨rfl, rfl⟩ <;>
      exact FileTree.locate_of_at? (by decide) (by decide) (by decide) rfl (by rintro target ⟨⟩)

theorem node?_tree {path : String} {place : List String} (h : (path, place) ∈ places) :
    (tree s).node? path = Node.at? place (tree s) := by
  unfold FileTree.node? FileTree.node
  simp only [locate_tree s h]
  cases Node.at? place (tree s) <;> rfl

theorem join_database : Path.join "/" "l.db" = "/l.db" := by decide

/-- The database holds the store. -/
theorem content_tree : (tree s).content (Path.join "/" "l.db") = .ok (.ledger s) := by
  rw [join_database, FileTree.content_eq_ok_iff]
  exact ⟨["l.db"], false, locate_tree s (by decide), rfl⟩

/-- Saving a store changes that and nothing else. -/
theorem saveStore_tree (s' : Store) : saveStore (tree s) "/" "l.db" s' = tree s' := by
  unfold saveStore FileTree.putContent
  rw [join_database, locate_tree s (show (_, ["l.db"]) ∈ places by decide)]
  rfl

/-- The directory of the database is there, so that nothing is made when it is opened. -/
theorem openStore_tree : openStore (tree s) "/" "l.db" = (tree s, some s) := by
  rw [openStore_of_content rfl (content_tree s), join_database]
  unfold makeParents FileTree.makeDirs
  rw [show Path.parent? "/l.db" = some "/" by decide]
  dsimp only
  rw [if_neg (by decide), show Path.components "/" = [.root] by decide,
    FileTree.makeDirsFrom_root (locate_tree s (show ("/", []) ∈ places by decide)) rfl]
  rfl

/-- What a path means, spelled from the root. -/
theorem canonical_of_locate {t : FileTree} {dir path : String} {place : List String}
    (h : t.locate (Path.join dir path) = .ok place) (hsome : (t.at? place).isSome = true) :
    canonical t dir path = "/" ++ "/".intercalate place := by
  unfold canonical
  rw [h]
  exact if_pos hsome

/-- The directory of the session is the root of the audit. -/
theorem canonical_root : canonical (tree s) "/" "." = "/" := by
  have hroot : (tree s).locate (Path.join "/" ".") = .ok [] :=
    FileTree.locate_of_here (by decide) (by decide) rfl
  exact (canonical_of_locate hroot rfl).trans (by decide)

/-- The projects are no links. -/
theorem canonical_project {project : String} (h : project ∈ ["/a", "/b"]) :
    canonical (tree s) "/" project = project := by
  simp only [List.mem_cons, List.not_mem_nil, or_false] at h
  rcases h with rfl | rfl
  · exact (canonical_of_locate (locate_tree s (show (_, ["a"]) ∈ places by decide)) rfl).trans
      (by decide)
  · exact (canonical_of_locate (locate_tree s (show (_, ["b"]) ∈ places by decide)) rfl).trans
      (by decide)

theorem workingDir_project {project : String} (h : project ∈ ["/a", "/b"]) :
    workingDir (tree s) "/" project = project := by
  unfold workingDir FileTree.isDir
  simp only [List.mem_cons, List.not_mem_nil, or_false] at h
  rcases h with rfl | rfl
  · rw [node?_tree s (show (_, ["a"]) ∈ places by decide)]
    rfl
  · rw [node?_tree s (show (_, ["b"]) ∈ places by decide)]
    rfl

/-- No directory has settings of its own. -/
theorem load_tree {project : String} (h : project ∈ ["/", "/a", "/b"]) :
    Settings.load (tree s) [] "/" project none = .ok {} := by
  have hnone : (tree s).exists? (Path.join "/" (Settings.projectFile project)) = false := by
    -- the folder of the settings is missing in each of the three directories
    have hmissing : (tree s).locate (Path.join "/" (Settings.projectFile project)) =
        .error .missing := by
      simp only [List.mem_cons, List.not_mem_nil, or_false] at h
      rcases h with rfl | rfl | rfl
      · rw [FileTree.locate_of_steps (by decide)
          (show _ = [".auditor", "config.toml"] by decide)]
        cbv
      · rw [FileTree.locate_of_steps (by decide)
          (show _ = ["a", ".auditor", "config.toml"] by decide)]
        cbv
      · rw [FileTree.locate_of_steps (by decide)
          (show _ = ["b", ".auditor", "config.toml"] by decide)]
        cbv
    unfold FileTree.exists? FileTree.node? FileTree.node
    rw [hmissing]
    rfl
  simp [Settings.load, Settings.ofFirst, hnone, Settings.withEnvironment, Except.map, Assoc.find?]

/-- Both directories are marked, and nothing else is. -/
theorem projects_tree : plan.projects "/" (tree s) = ["/a", "/b"] := by
  have hdirectories : Project.directories Project.maxDepth (tree s) = [["a"], ["b"]] := rfl
  have hmarked : ∀ names ∈ [["a"], ["b"]],
      Project.isProject (tree s) (Project.pathBelow "/" names) = true := by
    intro names h
    have hplace : (Path.join (Project.pathBelow "/" names) ".git", names ++ [".git"]) ∈ places := by
      revert names
      decide
    refine List.any_eq_true.mpr ⟨".git", by decide, ?_⟩
    rw [FileTree.exists?, node?_tree s hplace]
    simp only [List.mem_cons, List.not_mem_nil, or_false] at h
    rcases h with rfl | rfl <;> rfl
  have hbelow : Project.below (tree s) "/" true = [["a"], ["b"]] := by
    unfold Project.below
    rw [node?_tree s (show (_, []) ∈ places by decide)]
    simp only [Node.at?, if_true, hdirectories]
    rw [List.filter_eq_self.mpr hmarked, List.mergeSort_of_pairwise (by decide)]
    rfl
  have hexists : (tree s).exists? (Path.join "/" plan.root) = true := by
    rw [FileTree.exists?, show Path.join "/" plan.root = "/" by decide,
      node?_tree s (show (_, []) ∈ places by decide)]
    rfl
  unfold AuditPlan.projects Project.discover
  rw [hexists, show plan.request.recursive = true from rfl, show plan.root = "/" from rfl, hbelow]
  decide

/-! ### What an audit does -/

/-- The tool leaves the tree alone. -/
theorem attempt_vulture {project : String} (h : project ∈ ["/a", "/b"]) :
    plan.attempt host project .vulture (tree s) =
      ⟨tree s, .ok (run "vulture" ((analyzerOf plan.settings.tools .vulture).command project)
        project), 5⟩ := by
  unfold AuditPlan.attempt runTool
  simp only [host, workingDir_project s h]
  rfl

variable {s}

/-- Nothing but the store in the database changes. -/
theorem exists_tree {start : Store} {t : FileTree}
    (h : plan.Arises host ["/a", "/b"] (tree start) t) : ∃ s, t = tree s := by
  induction h with
  | start => exact ⟨start, rfl⟩
  | opened _ ih =>
    obtain ⟨s, rfl⟩ := ih
    exact ⟨s, congrArg Prod.fst (openStore_tree s)⟩
  | saved s' _ ih =>
    obtain ⟨s, rfl⟩ := ih
    exact ⟨s', saveStore_tree s s'⟩
  | ran _ hproject htool ih =>
    obtain ⟨s, rfl⟩ := ih
    obtain rfl := List.mem_singleton.mp htool
    exact ⟨s, by rw [attempt_vulture s hproject]⟩
  | logged notes _ hlog _ => cases hlog

/-- All sessions find what the audit goes by, since the tree of each differs from the first in the
store alone. -/
theorem steady : plan.Steady host ["/a", "/b"] (tree s) answer := by
  refine ⟨?_, ?_, ?_, ?_, fun _ _ _ _ _ hlog => by cases hlog⟩
  · intro t ht project hproject
    obtain ⟨s', rfl⟩ := exists_tree ht
    exact (load_tree s' (List.mem_cons_of_mem _ hproject)).trans
      (load_tree s List.mem_cons_self).symm
  · intro t ht project hproject
    obtain ⟨s', rfl⟩ := exists_tree ht
    exact canonical_project s' hproject
  · intro t ht project hproject tool htool
    obtain ⟨s', rfl⟩ := exists_tree ht
    obtain rfl := List.mem_singleton.mp htool
    rw [attempt_vulture s' hproject]
    rfl
  · intro t ht project hproject tool htool
    obtain ⟨s', rfl⟩ := exists_tree ht
    obtain rfl := List.mem_singleton.mp htool
    rw [attempt_vulture s' hproject]

/-- The command lines of the sessions are understood. -/
theorem told : plan.Told ["/a", "/b"] where
  readable :=
    { config := fun path hpath => by cases hpath
      database := fun path hpath => by cases hpath; decide }
  projects := by decide
  jobs := by decide

/-- The first project has a finding … -/
theorem brings_a : ∃ f, plan.brings host answer "/a" .vulture = .ok [f] := ⟨_, rfl⟩

/-- … and the second has none. -/
theorem brings_b : plan.brings host answer "/b" .vulture = .ok [] := rfl

/-- Only one of the projects has findings. -/
theorem separate : plan.Separate host ["/a", "/b"] answer := by
  have hnone : ∀ project ∈ ["/a", "/b"], ∀ tool ∈ plan.tools, ∀ batch,
      plan.brings host answer project tool = .ok batch → ∀ f ∈ batch, project = "/a" := by
    intro project hproject tool htool batch hbrings f hf
    obtain rfl := List.mem_singleton.mp htool
    simp only [List.mem_cons, List.not_mem_nil, or_false] at hproject
    rcases hproject with rfl | rfl
    · rfl
    · cases brings_b.symm.trans hbrings
      cases hf
  intro project hproject project' hproject' tool htool batch batch' hbrings hbrings' f hf g hg _
  rw [hnone project hproject tool htool batch hbrings f hf,
    hnone project' hproject' tool htool batch' hbrings' g hg]

/-- Threads and sessions of their own, on two projects of which the first has a finding. -/
theorem findings_of_two_strategies :
    let w : World := ⟨tree .empty, [], 0⟩
    let stock := plan.stock host answer ["/a", "/b"]
    let left (strategy : String) : Option (Multiset Row) :=
      findingsIn (Session.run host (arguments strategy) w).world.tree "/" "l.db"
    (∃ f, [f] ∈ stock) ∧ left "thread" = left "process" ∧
      ∃ after : Store, left "thread" = some ↑(after.rows.map Row.unowned) ∧
        Store.Drawn stock Store.empty.seed after ∧ after.Supplied stock := by
  intro w stock left
  have hparse : CommandLine.parse (arguments "thread") =
      .ok { invocation with command := .audit { request with strategy := .thread } } := by
    decide
  have hparse' : CommandLine.parse (arguments "process") =
      .ok { invocation with command := .audit { request with strategy := .process } } := by
    decide
  have hroot : canonical w.tree host.surroundings.dir request.path = "/" := canonical_root _
  have hload : Settings.load w.tree host.surroundings.environment host.surroundings.dir "/"
      invocation.config? = .ok {} := load_tree _ List.mem_cons_self
  have hplan : AuditPlan.ofRequest? "/" invocation.config? { request with strategy := .process }
      (Session.withInvocation {} invocation) = .ok plan := rfl
  have hopen : openStore w.tree host.surroundings.dir plan.settings.database.path =
      (tree .empty, some .empty) := openStore_tree .empty
  have hprojects : plan.projects host.surroundings.dir (openDatabase host plan.settings w).1.tree =
      ["/a", "/b"] := by
    rw [openDatabase_of_openStore hopen]
    change plan.projects "/" (saveStore (tree .empty) "/" "l.db" _) = _
    rw [saveStore_tree, projects_tree]
  have hnodup : ∀ s,
      (openStore w.tree host.surroundings.dir plan.settings.database.path).2 = some s →
        s.keys.Nodup := by
    intro s hs
    rw [hopen] at hs
    cases hs
    exact List.nodup_nil
  obtain ⟨hsame, hleft⟩ := findings_of_strategies hparse hparse' (by decide) rfl hroot hload hplan
    hprojects steady told separate hnodup
  obtain ⟨f, hf⟩ := brings_a
  exact ⟨⟨f, "/a", List.mem_cons_self, .vulture, List.mem_cons_self, hf⟩, hsame,
    hleft rfl .empty (by rw [hopen])⟩

end TwoProjects

end LintLedger
