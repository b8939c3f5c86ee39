import LintLedger.Data.Assoc
import LintLedger.FileTree.Basic
import LintLedger.Proofs.Path.Components

/-!
# What files hold after changes to a tree

To put a file into a tree, or to make a directory where nothing was, changes neither what is a
directory nor where links lead.  So every walk that found something before finds it afterwards, and
what was put into a file is read from it by the same path.

## Main Definitions

* `Node.HasRoom` -- there are directories, or nothing, on the way to a place
* `Node.Alike`, `Node.Intact` -- what changes do to the nodes of a tree
* `Node.Carries` -- everything in a tree is still there in another, up to such changes

## Main Statements

* `Node.at?_put_self`, `Node.carries_put` -- what is in a tree after a change
* `FileTree.walk_of_carries` -- walks find what they found before
* `FileTree.content_of_putContent` -- what was put into a file is read from it
* `FileTree.content_of_makeDirs` -- making directories leaves files as they are
-/

namespace LintLedger

namespace Node

/-! ## Places in a changed tree -/

theorem at?_append (place more : List String) (n : Node) :
    at? (place ++ more) n = (at? place n).bind (at? more) := by
  induction place generalizing n with
  | nil => rfl
  | cons name rest ih =>
    rw [List.cons_append, at?, at?]
    cases n.child? name with
    | none => rfl
    | some child => exact ih child

theorem at?_concat (place : List String) (name : String) (n : Node) :
    at? (place ++ [name]) n = (at? place n).bind (·.child? name) := by
  rw [at?_append]
  cases at? place n with
  | none => rfl
  | some m => simp [at?]

theorem at?_singleton (name : String) (n : Node) : at? [name] n = n.child? name :=
  at?_concat [] name n

/-- What has something in it is a directory. -/
theorem isDir_of_at? {place : List String} {n m : Node} (h : at? place n = some m)
    (hne : place ≠ []) : n.isDir = true := by
  obtain ⟨name, rest, rfl⟩ := List.exists_cons_of_ne_nil hne
  cases n with
  | dir entries => rfl
  | _ => cases h

/-- There are directories, or nothing, on the way to a place. -/
def HasRoom : List String → Node → Prop
  | [], _ => True
  | name :: rest, n =>
    ∃ entries, n = .dir entries ∧ HasRoom rest ((Assoc.find? name entries).getD (.dir []))

/-- There is room in a directory. -/
theorem hasRoom_concat {place : List String} {n : Node} {entries : List (String × Node)}
    (h : at? place n = some (.dir entries)) (name : String) : HasRoom (place ++ [name]) n := by
  induction place generalizing n with
  | nil =>
    obtain rfl : n = .dir entries := by simpa [at?] using h
    exact ⟨entries, rfl, trivial⟩
  | cons first rest ih =>
    cases n with
    | dir inner =>
      simp only [at?, child?, entries?, Option.bind_some] at h
      cases hfind : Assoc.find? first inner with
      | none => simp [hfind] at h
      | some child =>
        rw [hfind, Option.bind_some] at h
        exact ⟨inner, rfl, by simpa [hfind] using ih h⟩
    | _ => simp [at?, child?, entries?] at h

/-- What was put at a place with room is there. -/
theorem at?_put_self {place : List String} {n : Node} (h : HasRoom place n) (new : Node) :
    at? place (put new place n) = some new := by
  induction place generalizing n with
  | nil => rfl
  | cons name rest ih =>
    obtain ⟨entries, rfl, hrest⟩ := h
    simp only [put, at?, child?, entries?, Option.bind_some, Assoc.find?_insert_self]
    exact ih hrest

/-! ## Changes that leave the ways in a tree -/

/-- Two nodes of one kind, and if they are links, with one target. -/
def Alike : Node → Node → Prop
  | .file _ _, .file _ _ => True
  | .dir _, .dir _ => True
  | .link target, .link target' => target = target'
  | _, _ => False

/-- A node that is as it was, unless it is a directory. -/
def Intact (n n' : Node) : Prop := n = n' ∨ n.isDir = true ∧ n'.isDir = true

theorem Alike.refl (n : Node) : n.Alike n := by
  cases n with
  | link => rfl
  | _ => trivial

theorem Alike.trans {n n' n'' : Node} (first : n.Alike n') (second : n'.Alike n'') :
    n.Alike n'' := by
  cases n <;> cases n' <;> cases n'' <;> simp_all [Alike]

theorem Intact.alike {n n' : Node} (h : n.Intact n') : n.Alike n' := by
  rcases h with rfl | ⟨h, h'⟩
  · exact .refl n
  · cases n <;> cases h
    cases n' <;> cases h'
    trivial

theorem Intact.trans {n n' n'' : Node} (first : n.Intact n') (second : n'.Intact n'') :
    n.Intact n'' := by
  rcases first with rfl | ⟨hdir, hdir'⟩
  · exact second
  · rcases second with rfl | ⟨-, hdir''⟩
    · exact .inr ⟨hdir, hdir'⟩
    · exact .inr ⟨hdir, hdir''⟩

/-- Everything in a tree is still there in another, up to changes of a kind. -/
def Carries (kind : Node → Node → Prop) (n n' : Node) : Prop :=
  ∀ place m, at? place n = some m → ∃ m', at? place n' = some m' ∧ kind m m'

theorem Carries.trans {kind : Node → Node → Prop} {n n' n'' : Node}
    (first : Carries kind n n') (htrans : ∀ {m m' m''}, kind m m' → kind m' m'' → kind m m'')
    (second : Carries kind n' n'') : Carries kind n n'' := by
  intro place m hm
  obtain ⟨m', hm', hkind⟩ := first place m hm
  obtain ⟨m'', hm'', hkind'⟩ := second place m' hm'
  exact ⟨m'', hm'', htrans hkind hkind'⟩

theorem Carries.mono {kind kind' : Node → Node → Prop} {n n' : Node} (h : Carries kind n n')
    (hkind : ∀ {m m'}, kind m m' → kind' m m') : Carries kind' n n' := by
  intro place m hm
  obtain ⟨m', hm', hm''⟩ := h place m hm
  exact ⟨m', hm', hkind hm''⟩

/-- To put something at a place with room carries everything, if it does so with what was there,
which is no directory. -/
theorem carries_put {kind : Node → Node → Prop} (hrefl : ∀ m, kind m m)
    (hdir : ∀ entries entries', kind (.dir entries) (.dir entries')) {place : List String}
    {n new : Node} (h : HasRoom place n)
    (hnew : ∀ m, at? place n = some m → m.isDir = false ∧ kind m new) :
    Carries kind n (put new place n) := by
  induction place generalizing n with
  | nil =>
    obtain ⟨hplain, hkind⟩ := hnew n rfl
    intro other m hm
    cases other with
    | nil =>
      obtain rfl : n = m := by simpa [at?] using hm
      exact ⟨new, rfl, hkind⟩
    | cons name rest =>
      cases n with
      | dir => cases hplain
      | _ => simp [at?, child?, entries?] at hm
  | cons name rest ih =>
    obtain ⟨entries, rfl, hrest⟩ := h
    intro other m hm
    cases other with
    | nil =>
      obtain rfl : .dir entries = m := by simpa [at?] using hm
      exact ⟨_, rfl, hdir _ _⟩
    | cons name' rest' =>
      simp only [put, at?, child?, entries?, Option.bind_some] at hm ⊢
      -- beside the way to the place everything is the same
      by_cases hname : name' = name
      · subst hname
        rw [Assoc.find?_insert_self, Option.bind_some]
        cases hfind : Assoc.find? name' entries with
        | none => simp [hfind] at hm
        | some child =>
          rw [hfind, Option.bind_some] at hm
          rw [hfind, Option.getD_some] at hrest
          refine ih hrest (fun m hm => hnew m ?_) rest' m hm
          simpa [at?, child?, entries?, hfind] using hm
      · rw [Assoc.find?_insert_of_ne hname]
        exact ⟨m, hm, hrefl m⟩

end Node

namespace FileTree

variable {t t' : FileTree}

/-! ## Walks -/

theorem isDirAt_iff {place : List String} :
    t.isDirAt place = true ↔ ∃ entries, t.at? place = some (.dir entries) := by
  unfold isDirAt
  cases hnode : t.at? place with
  | none => simp
  | some n => cases n <;> simp [Node.isDir]

theorem isDirAt_of_carries (h : Node.Carries Node.Alike t t') {place : List String}
    (hdir : t.isDirAt place = true) : t'.isDirAt place = true := by
  obtain ⟨entries, hentries⟩ := isDirAt_iff.mp hdir
  obtain ⟨m, hm, halike⟩ := h place _ hentries
  cases m with
  | dir entries' => exact isDirAt_iff.mpr ⟨entries', hm⟩
  | _ => cases halike

section Steps

variable {keepLast : Bool} {links : Nat} {place rest : List String} {name : String}

theorem walk_here (hdir : t.isDirAt place = true) :
    walk t keepLast links place ("." :: rest) = walk t keepLast links place rest := by
  rw [walk, if_neg (by simp [hdir]), if_pos rfl]

theorem walk_up (hdir : t.isDirAt place = true) :
    walk t keepLast links place (".." :: rest) = walk t keepLast links place.dropLast rest := by
  rw [walk, if_neg (by simp [hdir]), if_neg (by decide), if_pos rfl]

/-- A step to a link that is kept is the last one. -/
theorem walk_kept (hdir : t.isDirAt place = true) (hhere : name ≠ ".") (hup : name ≠ "..")
    {target : String} (hlink : t.at? (place ++ [name]) = some (.link target)) :
    walk t true links place [name] = .ok (place ++ [name]) := by
  rw [Node.at?_concat] at hlink
  rw [walk, if_neg (by simp [hdir]), if_neg hhere, if_neg hup, hlink]
  rfl

/-- A step to a link that is followed goes on with the path that it holds. -/
theorem walk_link (hdir : t.isDirAt place = true) (hhere : name ≠ ".") (hup : name ≠ "..")
    {target : String} (hlink : t.at? (place ++ [name]) = some (.link target))
    (hfollow : (keepLast && rest.isEmpty) = false) :
    walk t keepLast (links + 1) place (name :: rest) =
      walk t keepLast links (if Path.isAbsolute target then [] else place)
        (steps target ++ rest) := by
  rw [Node.at?_concat] at hlink
  rw [walk, if_neg (by simp [hdir]), if_neg hhere, if_neg hup, hlink]
  simp [hfollow]

/-- A step to a file or a directory leads there. -/
theorem walk_node (hdir : t.isDirAt place = true) (hhere : name ≠ ".") (hup : name ≠ "..")
    {n : Node} (hn : t.at? (place ++ [name]) = some n) (hplain : ∀ target, n ≠ .link target) :
    walk t keepLast links place (name :: rest) = walk t keepLast links (place ++ [name]) rest := by
  rw [Node.at?_concat] at hn
  rw [walk, if_neg (by simp [hdir]), if_neg hhere, if_neg hup, hn]
  cases n with
  | link target => exact absurd rfl (hplain target)
  | _ => rfl

/-- The last name of a path may be missing in its directory. -/
theorem walk_last (hdir : t.isDirAt place = true) (hhere : name ≠ ".") (hup : name ≠ "..")
    (hplain : ∀ target, t.at? (place ++ [name]) ≠ some (.link target)) :
    walk t keepLast links place [name] = .ok (place ++ [name]) := by
  cases h : t.at? (place ++ [name]) with
  | none =>
    rw [Node.at?_concat] at h
    rw [walk, if_neg (by simp [hdir]), if_neg hhere, if_neg hup, h]
    rfl
  | some n => rw [walk_node hdir hhere hup h (fun target hn => hplain target (hn ▸ h)), walk]

end Steps

/-- **Walks find what they found before**, or a file where there was nothing. -/
theorem walk_of_carries (h : Node.Carries Node.Alike t t') {keepLast : Bool} {links : Nat}
    {place names found : List String} (hwalk : walk t keepLast links place names = .ok found)
    (hfound : (t.at? found).isSome ∨ ∃ content executable,
      t'.at? found = some (.file content executable)) :
    walk t' keepLast links place names = .ok found := by
  have hdirAt {place : List String} (hdir : ¬ (!t.isDirAt place) = true) :
      t'.isDirAt place = true := isDirAt_of_carries h (by simpa using hdir)
  fun_induction walk t keepLast links place names with
  | case1 place => rwa [walk]
  | case2 | case6 | case8 => cases hwalk
  | case3 links place rest hdir ih => exact (walk_here (hdirAt hdir)).trans (ih hwalk)
  | case4 links place rest hdir _ ih => exact (walk_up (hdirAt hdir)).trans (ih hwalk)
  | case5 links place name rest hdir hhere hup hnone hlast =>
    -- nothing was there, so that only a file can be there now
    obtain rfl : rest = [] := by simpa using hlast
    cases hwalk
    rw [← Node.at?_concat] at hnone
    rcases hfound with hold | ⟨content, executable, hnew⟩
    · rw [hnone] at hold
      cases hold
    · rw [walk_node (hdirAt hdir) hhere hup hnew (fun _ => nofun), walk]
  | case7 links place name rest hdir hhere hup target hlink hlast =>
    rw [Bool.and_eq_true, List.isEmpty_iff] at hlast
    obtain ⟨rfl, rfl⟩ := hlast
    cases hwalk
    rw [← Node.at?_concat] at hlink
    obtain ⟨m, hm, halike⟩ := h _ _ hlink
    cases m with
    | link target' => exact walk_kept (hdirAt hdir) hhere hup hm
    | _ => cases halike
  | case9 place name rest hdir hhere hup target hlink hfollow links _ ih =>
    rw [← Node.at?_concat] at hlink
    obtain ⟨m, hm, halike⟩ := h _ _ hlink
    cases m with
    | link target' =>
      obtain rfl : target = target' := halike
      exact (walk_link (hdirAt hdir) hhere hup hm (by simpa using hfollow)).trans (ih hwalk)
    | _ => cases halike
  | case10 links place name rest hdir hhere hup n hplain hn ih =>
    rw [← Node.at?_concat] at hn
    obtain ⟨m, hm, halike⟩ := h _ _ hn
    -- what was no link is none now
    refine (walk_node (hdirAt hdir) hhere hup hm fun target hlink => ?_).trans (ih hwalk)
    subst hlink
    cases n with
    | link target' => exact hplain target' rfl
    | _ => cases halike

/-- A place that walks come to: it is the root or in a directory, and there is no link there. -/
structure Settled (t : FileTree) (place : List String) : Prop where
  parent : place = [] ∨ t.isDirAt place.dropLast = true
  plain : ∀ target, t.at? place ≠ some (.link target)

/-- What is on the way to a directory is a directory. -/
theorem settled_of_isDirAt {place : List String} (h : t.isDirAt place = true) :
    t.Settled place := by
  obtain ⟨entries, hentries⟩ := isDirAt_iff.mp h
  refine ⟨?_, fun target hlink => by rw [hentries] at hlink; cases hlink⟩
  induction place using List.reverseRecOn with
  | nil => exact .inl rfl
  | append_singleton front name _ =>
    rw [List.dropLast_concat]
    rw [Node.at?_concat] at hentries
    obtain ⟨n, hn, hchild⟩ := Option.bind_eq_some_iff.mp hentries
    cases n with
    | dir inner => exact .inr (isDirAt_iff.mpr ⟨inner, hn⟩)
    | _ => cases hchild

/-- What is on the way to a directory is a directory, up to the root. -/
theorem isDirAt_nil {place : List String} (h : t.isDirAt place = true) : t.isDirAt [] = true := by
  induction place using List.reverseRecOn with
  | nil => exact h
  | append_singleton front name ih =>
    rcases (settled_of_isDirAt h).parent with hnil | hdir
    · simp at hnil
    · exact ih (by simpa using hdir)

/-- **A walk that follows links comes to a settled place.** -/
theorem settled_of_walk {links : Nat} {place names found : List String}
    (hplace : t.Settled place) (hwalk : walk t false links place names = .ok found) :
    t.Settled found := by
  generalize hkeep : false = keepLast at hwalk
  fun_induction walk t keepLast links place names with
  | case1 place =>
    cases hwalk
    exact hplace
  | case2 | case6 | case8 => cases hwalk
  | case3 links place rest hdir ih => exact ih hplace hwalk
  | case4 links place rest hdir _ ih =>
    refine ih ?_ hwalk
    -- a step up from the root stays there
    rcases hplace.parent with rfl | hparent
    · exact hplace
    · exact settled_of_isDirAt hparent
  | case5 links place name rest hdir hhere hup hnone hlast =>
    cases hwalk
    rw [← Node.at?_concat] at hnone
    exact ⟨.inr (by simpa using hdir), by simp [hnone]⟩
  | case7 _ _ _ _ _ _ _ _ _ hlast => simp [← hkeep] at hlast
  | case9 place name rest hdir hhere hup target hlink hfollow links start ih =>
    have hhost : t.isDirAt place = true := by simpa using hdir
    refine ih ?_ hwalk
    show t.Settled (if Path.isAbsolute target then [] else place)
    split
    · exact settled_of_isDirAt (isDirAt_nil hhost)
    · exact hplace
  | case10 links place name rest hdir hhere hup n hplain hn ih =>
    refine ih ⟨.inr (by simpa using hdir), fun target hlink => ?_⟩ hwalk
    rw [Node.at?_concat, hn] at hlink
    cases hlink
    exact hplain target rfl

/-- A path that is not empty has steps. -/
theorem steps_ne_nil {path : String} (h : path ≠ "") : steps path ≠ [] := by
  have hne : path.toList ≠ [] := fun hnil => h (String.toList_inj.mp (by simpa using hnil))
  obtain ⟨cs, c, hchars⟩ := (List.eq_nil_or_concat _).resolve_left hne
  unfold steps
  by_cases hslash : c = '/'
  · simp [hchars, hslash]
  · -- the last segment ends with a character of its own
    obtain ⟨front, last, hsplit⟩ : ∃ front last,
        Text.splitAll (· == '/') (cs ++ [c]) = front ++ [last ++ [c]] :=
      Text.splitAll_concat_of_not_sep (by simpa using hslash)
    have hmem : String.ofList (last ++ [c]) ∈ Path.segments path := by
      rw [Path.segments, Text.splitOnChar, hchars, List.concat_eq_append, hsplit]
      simp
    have hkept : String.ofList (last ++ [c]) ∈ (Path.segments path).filter (· ≠ "") := by
      refine List.mem_filter.mpr ⟨hmem, decide_eq_true fun hempty => ?_⟩
      have := congrArg String.toList hempty
      simp at this
    have hsome := List.ne_nil_of_mem hkept
    dsimp only
    split
    · simp
    · exact hsome

/-- A path means the place that its steps lead to. -/
theorem locate_of_steps {path : String} {names : List String} (hne : path ≠ "")
    (h : steps path = names) : t.locate path = t.walk false linkLimit [] names := by
  rw [locate, if_neg hne, h]

/-- A path without names means the root. -/
theorem locate_of_here {path : String} (hne : path ≠ "") (h : steps path = ["."])
    (hdir : t.isDirAt [] = true) : t.locate path = .ok [] := by
  rw [locate_of_steps hne h, walk_here hdir, walk]

/-- The place that a path means is settled. -/
theorem settled_of_locate {path : String} {place : List String}
    (h : t.locate path = .ok place) : t.Settled place := by
  unfold locate at h
  split at h
  · cases h
  · rename_i hne
    refine settled_of_walk (settled_of_isDirAt ?_) h
    cases hsteps : steps path with
    | nil => exact absurd hsteps (steps_ne_nil hne)
    | cons name rest =>
      by_contra hdir
      rw [hsteps, walk, if_pos (by simpa using hdir)] at h
      cases h

/-- There is room at a settled place. -/
theorem Settled.hasRoom {place : List String} (h : t.Settled place) : Node.HasRoom place t := by
  rcases h.parent with rfl | hparent
  · trivial
  · obtain ⟨entries, hentries⟩ := isDirAt_iff.mp hparent
    induction place using List.reverseRecOn with
    | nil => trivial
    | append_singleton front name _ =>
      rw [List.dropLast_concat] at hentries
      exact Node.hasRoom_concat hentries name

/-- What a path meant it means in a tree that carries everything. -/
theorem locate_of_carries (h : Node.Carries Node.Alike t t') {path : String} {place : List String}
    (hlocate : t.locate path = .ok place)
    (hplace : (t.at? place).isSome ∨ ∃ content executable,
      t'.at? place = some (.file content executable)) : t'.locate path = .ok place := by
  unfold locate at hlocate ⊢
  split at hlocate
  · cases hlocate
  · rename_i hne
    rw [if_neg hne]
    exact walk_of_carries h hlocate hplace

/-! ## What files hold -/

/-- A path has a content if it means a file. -/
theorem content_eq_ok_iff {path : String} {content : FileContent} :
    t.content path = .ok content ↔
      ∃ place executable, t.locate path = .ok place ∧
        t.at? place = some (.file content executable) := by
  constructor
  · intro h
    unfold FileTree.content node at h
    cases hlocate : t.locate path with
    | error e => simp [hlocate] at h
    | ok place =>
      cases hn : t.at? place with
      | none => simp [hlocate, hn] at h
      | some n =>
        cases n with
        | file content' executable =>
          obtain rfl : content' = content := by simpa [hlocate, hn] using h
          exact ⟨place, executable, rfl, hn⟩
        | _ => simp [hlocate, hn] at h
  · rintro ⟨place, executable, hlocate, hfile⟩
    simp [FileTree.content, node, hlocate, hfile]

/-- Something can be put into a file. -/
theorem exists_putContent {path : String} {old : FileContent} (h : t.content path = .ok old)
    (content : FileContent) : ∃ t', t.putContent path content = .ok t' := by
  obtain ⟨place, executable, hlocate, hfile⟩ := content_eq_ok_iff.mp h
  simp [putContent, hlocate, hfile]

/-- To put something into a file changes one settled place, at which there was a file or
nothing. -/
theorem exists_put_of_putContent {path : String} {content : FileContent}
    (h : t.putContent path content = .ok t') :
    ∃ place executable, t.locate path = .ok place ∧
      t' = Node.put (.file content executable) place t ∧
      ∀ m, t.at? place = some m → m.isDir = false ∧ m.Alike (.file content executable) := by
  unfold putContent at h
  split at h
  · cases h
  rename_i place hlocate
  have hsettled := settled_of_locate hlocate
  cases hn : t.at? place with
  | none =>
    rw [hn] at h
    cases h
    exact ⟨place, false, hlocate, rfl, by simp [hn]⟩
  | some n =>
    rw [hn] at h
    cases n with
    | file old executable =>
      cases h
      refine ⟨place, executable, hlocate, rfl, ?_⟩
      rw [hn]
      rintro _ ⟨⟩
      exact ⟨rfl, trivial⟩
    | dir entries => cases h
    | link target => exact absurd hn (hsettled.plain target)

/-- To put something into a file carries everything. -/
theorem carries_of_putContent {path : String} {content : FileContent}
    (h : t.putContent path content = .ok t') : Node.Carries Node.Alike t t' := by
  obtain ⟨place, executable, hlocate, rfl, hold⟩ := exists_put_of_putContent h
  exact Node.carries_put .refl (fun _ _ => trivial) (settled_of_locate hlocate).hasRoom hold

/-- **What was put into a file is read from it** by the same path. -/
theorem content_of_putContent {path : String} {content : FileContent}
    (h : t.putContent path content = .ok t') : t'.content path = .ok content := by
  have hcarries := carries_of_putContent h
  obtain ⟨place, executable, hlocate, rfl, -⟩ := exists_put_of_putContent h
  have hself := Node.at?_put_self (settled_of_locate hlocate).hasRoom (.file content executable)
  exact content_eq_ok_iff.mpr ⟨place, executable,
    locate_of_carries hcarries hlocate (.inr ⟨content, executable, hself⟩), hself⟩

/-- The bytes of a file with data are the data. -/
theorem read_of_content {path : String} {bytes : List UInt8}
    (h : t.content path = .ok (.data bytes)) : t.read path = .ok bytes := by
  rw [read, h]
  rfl

/-- A file in a tree is as it was in one that leaves all but directories intact. -/
theorem content_of_intact (h : Node.Carries Node.Intact t t') {path : String}
    {content : FileContent} (hcontent : t.content path = .ok content) :
    t'.content path = .ok content := by
  obtain ⟨place, executable, hlocate, hfile⟩ := content_eq_ok_iff.mp hcontent
  have halike : Node.Carries Node.Alike t t' := h.mono Node.Intact.alike
  obtain ⟨m, hm, rfl | ⟨hdir, -⟩⟩ := h place _ hfile
  · exact content_eq_ok_iff.mpr ⟨place, executable,
      locate_of_carries halike hlocate (.inl (by simp [hfile])), hm⟩
  · cases hdir

section MakeDirs

variable {done : String} {rest : List Path.Component} {place : List String}

/-- The root is a directory already, and the way goes on from there. -/
theorem makeDirsFrom_root (hlocate : t.locate "/" = .ok place) (hdir : t.isDirAt place = true) :
    t.makeDirsFrom done (.root :: rest) = t.makeDirsFrom "/" rest := by
  obtain ⟨entries, hentries⟩ := isDirAt_iff.mp hdir
  conv_lhs => unfold makeDirsFrom
  dsimp only
  rw [hlocate]
  dsimp only
  rw [hentries]

/-- A directory that is there already is passed through. -/
theorem makeDirsFrom_name {name : String} (hlocate : t.locate (Path.join done name) = .ok place)
    (hdir : t.isDirAt place = true) :
    t.makeDirsFrom done (.name name :: rest) = t.makeDirsFrom (Path.join done name) rest := by
  obtain ⟨entries, hentries⟩ := isDirAt_iff.mp hdir
  conv_lhs => unfold makeDirsFrom
  dsimp only [Path.Component.text]
  rw [hlocate]
  dsimp only
  rw [hentries]

end MakeDirs

theorem intact_of_makeDirsFrom {done : String} {parts : List Path.Component}
    (h : t.makeDirsFrom done parts = .ok t') : Node.Carries Node.Intact t t' := by
  induction parts generalizing t done with
  | nil =>
    cases h
    exact fun place m hm => ⟨m, hm, .inl rfl⟩
  | cons c rest ih =>
    unfold makeDirsFrom at h
    dsimp only at h
    split at h
    · cases h
    · rename_i place hlocate
      split at h
      · exact ih h
      · cases h
      · rename_i hnone
        have hmade : Node.Carries Node.Intact t (Node.put (.dir []) place t) :=
          Node.carries_put (fun _ => .inl rfl) (fun _ _ => .inr ⟨rfl, rfl⟩)
            (settled_of_locate hlocate).hasRoom (by simp [hnone])
        exact hmade.trans .trans (ih h)

theorem carries_of_makeDirs {dir : String} (h : t.makeDirs dir = .ok t') :
    Node.Carries Node.Alike t t' := (intact_of_makeDirsFrom h).mono Node.Intact.alike

/-- **Making directories leaves files as they are.** -/
theorem content_of_makeDirs {dir : String} (h : t.makeDirs dir = .ok t') {path : String}
    {content : FileContent} (hcontent : t.content path = .ok content) :
    t'.content path = .ok content :=
  content_of_intact (intact_of_makeDirsFrom h) hcontent

end FileTree

end LintLedger
