import LintLedger.Proofs.Data.Assoc
import LintLedger.Proofs.FileTree.Content

/-!
# Files below one directory

A walk that goes on behind a directory goes on in the same way whatever it looks for there, and as
long as there are no links below the directory, each list of names leads to a place of its own.
To put something at one place leaves the files at other places as they are, and makes no links.

## Main Definitions

* `Node.Linkless` -- there are no links in a node
* `Node.Linked` -- all links of a tree are links of another
* `Node.Proper` -- directories keep names, and one entry under each
* `FileTree.names` -- the names in a path
* `FileTree.PlainBelow` -- there are no links below a place

## Main Statements

* `Node.at?_put_cases` -- what is in a tree after something was put into it
* `FileTree.walk_append` -- a walk in two parts
* `FileTree.node?_foldl_join` -- what is found below a directory is what is there
* `FileTree.locate_foldl_join` -- where a file below a directory is
* `FileTree.content_of_putContent_of_ne` -- what other files hold after one was written
-/

namespace LintLedger

namespace Node

/-! ## Other places in a changed tree -/

/-- A file is as it was after something was put at another place that is no directory. -/
theorem at?_put_of_ne {place other : List String} {n new : Node} {content : FileContent}
    {executable : Bool} (hplain : ∀ m, at? place n = some m → m.isDir = false)
    (hfile : at? other n = some (.file content executable)) (hne : other ≠ place) :
    at? other (put new place n) = some (.file content executable) := by
  induction place generalizing n other with
  | nil =>
    cases other with
    | nil => exact absurd rfl hne
    | cons name rest =>
      cases n with
      | dir entries => cases hplain _ rfl
      | _ => simp [at?, child?, entries?] at hfile
  | cons name rest ih =>
    cases n with
    | dir entries =>
      cases other with
      | nil => simp [at?] at hfile
      | cons name' rest' =>
        simp only [put, at?, child?, entries?, Option.bind_some] at hfile hplain ⊢
        by_cases hname : name' = name
        · subst hname
          rw [Assoc.find?_insert_self, Option.bind_some]
          cases hfind : Assoc.find? name' entries with
          | none => simp [hfind] at hfile
          | some child =>
            simp only [hfind, Option.bind_some, Option.getD_some] at hfile hplain ⊢
            exact ih hplain hfile fun h => hne (by rw [h])
        · rwa [Assoc.find?_insert_of_ne hname]
    | _ => exact hfile

/-- What is no directory and is found after something was put at a place is part of what was put, or
was there before. -/
theorem at?_put_cases {place other : List String} {n new m : Node} (hm : m.isDir = false)
    (h : at? other (put new place n) = some m) :
    (∃ rest, other = place ++ rest ∧ at? rest new = some m) ∨ at? other n = some m := by
  induction place generalizing n other with
  | nil => exact .inl ⟨other, rfl, h⟩
  | cons name rest ih =>
    cases n with
    | dir entries =>
      cases other with
      | nil =>
        cases h
        cases hm
      | cons name' rest' =>
        simp only [put, at?, child?, entries?, Option.bind_some] at h ⊢
        by_cases hname : name' = name
        · subst hname
          rw [Assoc.find?_insert_self, Option.bind_some] at h
          rcases ih h with ⟨more, rfl, hmore⟩ | hold
          · exact .inl ⟨more, rfl, hmore⟩
          · right
            cases hfind : Assoc.find? name' entries with
            | some child =>
              rw [hfind, Option.getD_some] at hold
              exact hold
            | none =>
              -- there is nothing in the directory that was made on the way but itself
              rw [hfind, Option.getD_none] at hold
              cases rest' with
              | nil =>
                cases hold
                cases hm
              | cons _ _ => cases hold
        · right
          rwa [Assoc.find?_insert_of_ne hname] at h
    | _ => exact .inr h

/-- All links of a tree are links of another, at the same places. -/
def Linked (n' n : Node) : Prop :=
  ∀ place target, at? place n' = some (.link target) → at? place n = some (.link target)

theorem Linked.refl (n : Node) : n.Linked n := fun _ _ h => h

theorem Linked.trans {n n' n'' : Node} (first : n''.Linked n') (second : n'.Linked n) :
    n''.Linked n := fun place target h => second place target (first place target h)

/-- There are no links in a node. -/
def Linkless (n : Node) : Prop := ∀ place target, at? place n ≠ some (.link target)

theorem Linkless.file (content : FileContent) (executable : Bool) :
    (Node.file content executable).Linkless := by
  intro place target
  cases place <;> simp [at?, child?, entries?]

/-- There is no link in a directory if there is none in its entries. -/
theorem Linkless.dir {entries : List (String × Node)} (h : ∀ e ∈ entries, e.2.Linkless) :
    (Node.dir entries).Linkless := by
  intro place target
  cases place with
  | nil => simp [at?]
  | cons name rest =>
    intro hlink
    obtain ⟨child, hchild, hrest⟩ := Option.bind_eq_some_iff.mp hlink
    exact h (name, child) (Assoc.mem_of_find?_eq_some hchild) rest target hrest

theorem at?_empty_ne_link (place : List String) (target : String) :
    at? place (.dir []) ≠ some (.link target) :=
  Linkless.dir (List.forall_mem_nil _) place target

/-- To put something without links into a tree makes no link. -/
theorem linked_put {new : Node} (hnew : new.Linkless)
    (place : List String) (n : Node) : (put new place n).Linked n := by
  intro other target h
  rcases at?_put_cases rfl h with ⟨rest, -, hlink⟩ | hold
  · exact absurd hlink (hnew rest target)
  · exact hold

/-! ## Trees as they are kept -/

/-- Every directory of a tree keeps its entries under names, and no two under one name. -/
def Proper (n : Node) : Prop :=
  ∀ place entries, at? place n = some (.dir entries) →
    (∀ e ∈ entries, Path.IsName e.1) ∧ (Assoc.keys entries).Nodup

theorem Proper.file (content : FileContent) (executable : Bool) :
    (Node.file content executable).Proper := by
  intro place entries
  cases place <;> simp [at?, child?, entries?]

theorem Proper.link (target : String) : (Node.link target).Proper := by
  intro place entries
  cases place <;> simp [at?, child?, entries?]

/-- A directory is proper if its entries are, and its names are names of one entry each. -/
theorem Proper.dir {entries : List (String × Node)} (hnames : ∀ e ∈ entries, Path.IsName e.1)
    (hkeys : (Assoc.keys entries).Nodup) (h : ∀ e ∈ entries, e.2.Proper) :
    (Node.dir entries).Proper := by
  intro place inner hinner
  cases place with
  | nil =>
    cases hinner
    exact ⟨hnames, hkeys⟩
  | cons name rest =>
    obtain ⟨child, hchild, hrest⟩ := Option.bind_eq_some_iff.mp hinner
    exact h (name, child) (Assoc.mem_of_find?_eq_some hchild) rest inner hrest

/-- What is in a proper tree is proper. -/
theorem Proper.at? {n m : Node} (h : n.Proper) {place : List String}
    (hm : Node.at? place n = some m) : m.Proper := by
  intro more entries hentries
  refine h (place ++ more) entries ?_
  rw [at?_append, hm]
  exact hentries

/-- The entries of a proper directory are what is found in it. -/
theorem Proper.child?_eq_some_iff {entries : List (String × Node)} (h : (Node.dir entries).Proper)
    {name : String} {child : Node} :
    (Node.dir entries).child? name = some child ↔ (name, child) ∈ entries :=
  Assoc.find?_eq_some_iff_of_nodup (h [] entries rfl).2

theorem Proper.child? {n child : Node} (h : n.Proper) {name : String}
    (hchild : n.child? name = some child) : child.Proper :=
  h.at? ((at?_singleton name n).trans hchild)

/-- What leads to a place in a proper tree is names. -/
theorem Proper.isName {n m : Node} (h : n.Proper) {place : List String}
    (hm : Node.at? place n = some m) : ∀ name ∈ place, Path.IsName name := by
  induction place generalizing n with
  | nil => simp
  | cons name rest ih =>
    obtain ⟨child, hchild, hrest⟩ := Option.bind_eq_some_iff.mp hm
    cases n with
    | dir entries =>
      have hmem := h.child?_eq_some_iff.mp hchild
      exact List.forall_mem_cons.mpr ⟨(h [] entries rfl).1 _ hmem, ih (h.child? hchild) hrest⟩
    | _ => cases hchild

end Node

namespace FileTree

variable {t t' : FileTree}

theorem linked_of_putContent {path : String} {content : FileContent}
    (h : t.putContent path content = .ok t') : Node.Linked t' t := by
  unfold putContent at h
  split at h
  · cases h
  · split at h
    · cases h
    · cases h
      exact Node.linked_put (.file content _) _ _
    · cases h
      exact Node.linked_put (.file content _) _ _

theorem linked_of_makeDirsFrom {done : String} {parts : List Path.Component}
    (h : t.makeDirsFrom done parts = .ok t') : Node.Linked t' t := by
  induction parts generalizing t done with
  | nil =>
    cases h
    exact .refl _
  | cons c rest ih =>
    unfold makeDirsFrom at h
    dsimp only at h
    split at h
    · cases h
    · split at h
      · exact ih h
      · cases h
      · exact (ih h).trans (Node.linked_put Node.at?_empty_ne_link _ _)

/-! ## Walks in two parts -/

/-- **A walk that goes on behind some names, or could go on, goes on from one place**, whatever the
names are that follow. -/
theorem walk_append {links : Nat} {place front back found : List String}
    (hback : back ≠ [] ∨ t.isDirAt found = true)
    (hwalk : walk t false links place (front ++ back) = .ok found) :
    ∃ links' middle, ∀ back',
      walk t false links place (front ++ back') = walk t false links' middle back' := by
  generalize hkeep : false = keepLast at hwalk
  generalize hnames : front ++ back = names at hwalk
  fun_induction walk t keepLast links place names generalizing front with
  | case1 links place =>
    obtain ⟨rfl, -⟩ := List.append_eq_nil_iff.mp hnames
    exact ⟨links, place, fun _ => rfl⟩
  | case2 | case6 | case8 => cases hwalk
  | case3 links place rest hdir ih =>
    cases front with
    | nil => exact ⟨links, place, fun _ => rfl⟩
    | cons name front =>
      obtain ⟨rfl, hrest⟩ := List.cons.inj hnames
      obtain ⟨links', middle, hmiddle⟩ := ih hrest hwalk
      exact ⟨links', middle, fun back' => (walk_here (by simpa using hdir)).trans (hmiddle back')⟩
  | case4 links place rest hdir _ ih =>
    cases front with
    | nil => exact ⟨links, place, fun _ => rfl⟩
    | cons name front =>
      obtain ⟨rfl, hrest⟩ := List.cons.inj hnames
      obtain ⟨links', middle, hmiddle⟩ := ih hrest hwalk
      exact ⟨links', middle, fun back' => (walk_up (by simpa using hdir)).trans (hmiddle back')⟩
  | case5 links place name rest hdir hhere hup hnone hlast =>
    cases front with
    | nil => exact ⟨links, place, fun _ => rfl⟩
    | cons _ front =>
      -- nothing follows the last name, and what is missing there is no directory
      obtain rfl : rest = [] := by simpa using hlast
      obtain ⟨rfl, hrest⟩ := List.cons.inj hnames
      obtain ⟨rfl, rfl⟩ := List.append_eq_nil_iff.mp hrest
      cases hwalk
      rw [← Node.at?_concat] at hnone
      simp [isDirAt, hnone] at hback
  | case7 _ _ _ _ _ _ _ _ _ hlast => simp [← hkeep] at hlast
  | case9 place name rest hdir hhere hup target hlink hfollow links start =>
    rename_i ih
    cases front with
    | nil => exact ⟨_, place, fun _ => rfl⟩
    | cons _ front =>
      obtain ⟨rfl, hrest⟩ := List.cons.inj hnames
      obtain ⟨links', middle, hmiddle⟩ := @ih (steps target ++ front)
        (by rw [List.append_assoc, ← hrest]; rfl) hwalk
      refine ⟨links', middle, fun back' => ?_⟩
      rw [← Node.at?_concat] at hlink
      rw [List.cons_append, walk_link (by simpa using hdir) hhere hup hlink (by simp [← hkeep])]
      rw [← List.append_assoc]
      exact hmiddle back'
  | case10 links place name rest hdir hhere hup n hplain hn ih =>
    cases front with
    | nil => exact ⟨links, place, fun _ => rfl⟩
    | cons _ front =>
      obtain ⟨rfl, hrest⟩ := List.cons.inj hnames
      obtain ⟨links', middle, hmiddle⟩ := ih hrest hwalk
      refine ⟨links', middle, fun back' => ?_⟩
      rw [← Node.at?_concat] at hn
      rw [List.cons_append, walk_node (by simpa using hdir) hhere hup hn
        (fun target htarget => hplain target htarget)]
      exact hmiddle back'

/-- There are no links below a place. -/
def PlainBelow (t : FileTree) (place : List String) : Prop :=
  ∀ below target, t.at? (place ++ below) ≠ some (.link target)

/-- Where there are no links, names lead to the place that they spell. -/
theorem walk_of_plainBelow {links : Nat} {place more found : List String}
    (hplain : t.PlainBelow place) (hnames : ∀ name ∈ more, Path.IsName name)
    (hwalk : walk t false links place more = .ok found) : found = place ++ more := by
  induction more generalizing place with
  | nil =>
    rw [walk] at hwalk
    cases hwalk
    rw [List.append_nil]
  | cons name rest ih =>
    have hname := hnames name List.mem_cons_self
    have hdir : t.isDirAt place = true := by
      by_contra h
      rw [walk, if_pos (by simpa using h)] at hwalk
      cases hwalk
    have hhere : t.at? (place ++ [name]) = (t.at? place).bind (·.child? name) :=
      Node.at?_concat place name t
    cases hchild : t.at? (place ++ [name]) with
    | none =>
      rw [walk, if_neg (by simp [hdir]), if_neg hname.ne_here, if_neg hname.ne_up, ← hhere,
        hchild] at hwalk
      cases rest with
      | nil =>
        cases hwalk
        rfl
      | cons _ _ => cases hwalk
    | some n =>
      have hlink : ∀ target, n ≠ .link target := by
        rintro target rfl
        exact hplain [name] target hchild
      rw [walk_node hdir hname.ne_here hname.ne_up hchild hlink] at hwalk
      have hplain' : t.PlainBelow (place ++ [name]) := fun below target => by
        rw [List.append_assoc]
        exact hplain _ target
      rw [ih hplain' (fun n hn => hnames n (List.mem_cons_of_mem _ hn)) hwalk, List.append_assoc,
        List.singleton_append]

/-- A walk along names goes on from the place that they spell, if what is there is no link. -/
theorem walk_append_of_at? {keepLast : Bool} {links : Nat} {place more : List String} {n : Node}
    (hnames : ∀ name ∈ more, Path.IsName name) (hn : t.at? (place ++ more) = some n)
    (hplain : ∀ target, n ≠ .link target) (behind : List String) :
    walk t keepLast links place (more ++ behind) =
      walk t keepLast links (place ++ more) behind := by
  induction more generalizing place with
  | nil => rw [List.nil_append, List.append_nil]
  | cons name rest ih =>
    have hname := hnames name List.mem_cons_self
    have hat : t.at? (place ++ [name] ++ rest) = some n := by
      rwa [List.append_assoc, List.singleton_append]
    obtain ⟨child, hchild, hrest⟩ := Option.bind_eq_some_iff.mp
      ((Node.at?_append (place ++ [name]) rest t).symm.trans hat)
    obtain ⟨parent, hparent, hentry⟩ := Option.bind_eq_some_iff.mp
      ((Node.at?_concat place name t).symm.trans hchild)
    have hdir : t.isDirAt place = true := by
      rw [isDirAt_iff, hparent]
      cases parent with
      | dir entries => exact ⟨entries, rfl⟩
      | _ => cases hentry
    have hlink : ∀ target, child ≠ .link target := by
      rintro target rfl
      cases rest with
      | nil => exact hplain target (Option.some.inj hrest).symm
      | cons next rest => cases hrest
    rw [List.cons_append, walk_node hdir hname.ne_here hname.ne_up hchild hlink,
      ih (fun name h => hnames name (List.mem_cons_of_mem _ h)) hat, List.append_assoc,
      List.singleton_append]

/-- Names lead to what is at the place that they spell, if it is no link. -/
theorem walk_of_at? {keepLast : Bool} {links : Nat} {place more : List String} {n : Node}
    (hnames : ∀ name ∈ more, Path.IsName name) (hn : t.at? (place ++ more) = some n)
    (hplain : ∀ target, n ≠ .link target) :
    walk t keepLast links place more = .ok (place ++ more) := by
  rw [← List.append_nil more, walk_append_of_at? hnames hn hplain, walk, List.append_nil]

/-- A path of names means the place that they spell, if what is there is no link. -/
theorem locate_of_at? {path : String} {place : List String} {n : Node} (hne : path ≠ "")
    (hsteps : steps path = place) (hnames : ∀ name ∈ place, Path.IsName name)
    (hn : t.at? place = some n) (hplain : ∀ target, n ≠ .link target) :
    t.locate path = .ok place := by
  rw [locate_of_steps hne hsteps]
  exact walk_of_at? hnames hn hplain

/-- A path of names means the place that they spell, if all but the last lead to a directory and
there is no link in it under the last name. -/
theorem locate_of_parent {path : String} {place : List String} {name : String}
    {entries : List (String × Node)} (hne : path ≠ "") (hsteps : steps path = place ++ [name])
    (hnames : ∀ name' ∈ place ++ [name], Path.IsName name')
    (hparent : t.at? place = some (.dir entries))
    (hplain : ∀ target, t.at? (place ++ [name]) ≠ some (.link target)) :
    t.locate path = .ok (place ++ [name]) := by
  have hname := hnames name (by simp)
  have hat : t.at? ([] ++ place) = some (.dir entries) := hparent
  rw [locate_of_steps hne hsteps,
    walk_append_of_at? (fun name' h => hnames name' (List.mem_append_left _ h)) hat
      (by rintro target ⟨⟩), List.nil_append]
  exact walk_last (isDirAt_iff.mpr ⟨entries, hparent⟩) hname.ne_here hname.ne_up hplain

theorem node?_of_locate {path : String} {place : List String} (h : t.locate path = .ok place) :
    t.node? path = t.at? place := by
  rw [node?, node, h]
  dsimp only
  split <;> simp_all [Except.toOption]

theorem node?_eq_some_iff {path : String} {n : Node} :
    t.node? path = some n ↔ ∃ place, t.locate path = .ok place ∧ t.at? place = some n := by
  constructor
  · intro h
    cases hlocate : t.locate path with
    | error e =>
      rw [node?, node, hlocate] at h
      cases h
    | ok place => exact ⟨place, rfl, (node?_of_locate hlocate).symm.trans h⟩
  · rintro ⟨place, hlocate, hn⟩
    exact (node?_of_locate hlocate).trans hn

/-! ## Names in a path -/

/-- The names in a path. -/
def names (path : String) : List String := (Path.segments path).filter (· ≠ "")

theorem steps_eq_names_or (path : String) :
    steps path = names path ∨ steps path = names path ++ ["."] := by
  unfold steps
  dsimp only
  split
  · exact .inr rfl
  · exact .inl rfl

/-- A slash between two texts ends the segments of the one and begins those of the other. -/
theorem segments_append_slash (front back : String) :
    Path.segments (front ++ "/" ++ back) = Path.segments front ++ Path.segments back := by
  have hsplit : Text.splitAll (· == '/') (front.toList ++ '/' :: back.toList) =
      Text.splitAll (· == '/') front.toList ++ Text.splitAll (· == '/') back.toList :=
    Text.splitAll_append_cons (beq_self_eq_true '/')
  rw [Path.segments, Path.segments, Path.segments, Text.splitOnChar, Text.splitOnChar,
    Text.splitOnChar, ← List.map_append, ← hsplit]
  simp [String.toList_append]

theorem names_append_slash (front back : String) :
    names (front ++ "/" ++ back) = names front ++ names back := by
  rw [names, names, names, segments_append_slash, List.filter_append]

/-- A name is the only segment of it. -/
theorem segments_of_isName {name : String} (h : Path.IsName name) :
    Path.segments name = [name] := by
  have hslash : ∀ c ∈ name.toList, (c == '/') = false := fun c hc =>
    beq_eq_false_iff_ne.mpr fun heq => h.notMem (heq ▸ hc)
  rw [Path.segments, Text.splitOnChar, Text.splitAll_of_forall hslash]
  simp

theorem names_of_isName {name : String} (h : Path.IsName name) : names name = [name] := by
  rw [names, segments_of_isName h]
  simp [h.ne_empty]

/-- The names in a path below a directory. -/
theorem names_join (dir path : String) :
    names (Path.join dir path) =
      (if Path.isAbsolute path then [] else names dir) ++ names path := by
  unfold Path.join
  split
  · rfl
  · split
    · rename_i hend
      rw [Bool.or_eq_true, beq_iff_eq] at hend
      rcases hend with hempty | hslash
      · obtain rfl : dir = "" := by simpa using hempty
        rw [String.empty_append]
        rfl
      · obtain ⟨cs, hchars⟩ := List.getLast?_eq_some_iff.mp hslash
        obtain rfl : dir = String.ofList cs ++ "/" := by
          rw [← String.toList_inj, hchars, String.toList_append, String.toList_ofList]
          rfl
        have hfront : names (String.ofList cs ++ "/") = names (String.ofList cs) := by
          have := names_append_slash (String.ofList cs) ""
          rwa [String.append_empty, show names "" = [] from rfl, List.append_nil] at this
        rw [names_append_slash, hfront]
    · rw [names_append_slash]

theorem isAbsolute_of_isName {name : String} (h : Path.IsName name) :
    Path.isAbsolute name = false := by
  rw [Path.isAbsolute, beq_eq_false_iff_ne]
  exact fun hhead => h.notMem (List.mem_of_mem_head? hhead)

/-- What stands between a directory and a name below it. -/
def gap (dir : String) : String :=
  if dir.isEmpty || dir.toList.getLast? == some '/' then "" else "/"

theorem join_of_relative {path : String} (h : Path.isAbsolute path = false) (dir : String) :
    Path.join dir path = dir ++ gap dir ++ path := by
  rw [Path.join, if_neg (by simp [h]), gap]
  split
  · rw [String.append_empty]
  · rfl

/-- A directory that is closed by what stands behind it needs nothing more. -/
theorem gap_append_gap (dir : String) : gap (dir ++ gap dir) = "" := by
  by_cases h : (dir.isEmpty || dir.toList.getLast? == some '/') = true
  · have hgap : gap dir = "" := if_pos h
    rw [hgap, String.append_empty, hgap]
  · have hgap : gap dir = "/" := if_neg h
    rw [hgap, gap, if_pos]
    simp [String.toList_append]

theorem gap_append {path : String} (h : path ≠ "") (front : String) :
    gap (front ++ path) = gap path := by
  have hne : path.toList ≠ [] := fun hnil => h (String.toList_inj.mp hnil)
  have hempty : (front ++ path).isEmpty = path.isEmpty := by
    rw [Bool.eq_iff_iff, String.isEmpty_iff, String.isEmpty_iff, String.append_eq_empty_iff]
    exact ⟨fun hboth => hboth.2, fun hpath => absurd hpath h⟩
  rw [gap, gap, hempty, String.toList_append, List.getLast?_append_of_ne_nil _ hne]

theorem isAbsolute_append {path : String} (h : path ≠ "") (back : String) :
    Path.isAbsolute (path ++ back) = Path.isAbsolute path := by
  have hne : path.toList ≠ [] := fun hnil => h (String.toList_inj.mp hnil)
  rw [Path.isAbsolute, Path.isAbsolute, String.toList_append, List.head?_append_of_ne_nil _ hne]

theorem isAbsolute_join {dir : String} (h : Path.isAbsolute dir = true) (path : String) :
    Path.isAbsolute (Path.join dir path) = true := by
  cases hpath : Path.isAbsolute path with
  | true => rwa [Path.join, if_pos hpath]
  | false =>
    have hdir : dir ≠ "" := by
      rintro rfl
      cases h
    rw [join_of_relative hpath, String.append_assoc, isAbsolute_append hdir, h]

theorem join_ne_empty {path : String} (h : path ≠ "") (dir : String) : Path.join dir path ≠ "" := by
  unfold Path.join
  split
  · exact h
  · split <;> simp [h]

theorem join_ne_empty_of_isAbsolute {dir : String} (h : Path.isAbsolute dir = true)
    (path : String) : Path.join dir path ≠ "" := by
  intro hempty
  have habsolute := isAbsolute_join h path
  rw [hempty] at habsolute
  cases habsolute

/-- A name below a directory is the same seen from a directory above it. -/
theorem join_join (above dir : String) {name : String} (h : Path.IsName name) :
    Path.join above (Path.join dir name) = Path.join (Path.join above dir) name := by
  have hname := isAbsolute_of_isName h
  by_cases hdir : dir = ""
  · subst hdir
    rw [join_of_relative hname, show ("" : String) ++ gap "" ++ name = name by simp [gap],
      join_of_relative hname, join_of_relative (show Path.isAbsolute "" = false from rfl),
      join_of_relative hname, String.append_empty, gap_append_gap, String.append_empty]
  · have habsolute : Path.isAbsolute (Path.join dir name) = Path.isAbsolute dir := by
      rw [join_of_relative hname, String.append_assoc, isAbsolute_append hdir]
    cases hroot : Path.isAbsolute dir with
    | true =>
      rw [hroot] at habsolute
      rw [Path.join, if_pos habsolute, Path.join.eq_def above dir, if_pos hroot]
    | false =>
      rw [hroot] at habsolute
      rw [join_of_relative habsolute, join_of_relative hname, join_of_relative hroot,
        join_of_relative hname, gap_append hdir]
      simp only [String.append_assoc]

/-- A name below a directory is walked to by the names of the directory. -/
theorem steps_join (dir : String) {name : String} (h : Path.IsName name) :
    steps (Path.join dir name) = names dir ++ [name] := by
  have hnames : names (Path.join dir name) = names dir ++ [name] := by
    rw [names_join, isAbsolute_of_isName h, names_of_isName h]
    rfl
  have hlast : (Path.join dir name).toList.getLast? ≠ some '/' := by
    have hsome : name.toList.getLast? ≠ some '/' := fun hlast =>
      h.notMem (List.mem_of_getLast? hlast)
    have hne : name.toList ≠ [] := fun hnil => h.ne_empty (String.toList_inj.mp hnil)
    rw [join_of_relative (isAbsolute_of_isName h), String.toList_append,
      List.getLast?_append_of_ne_nil _ hne]
    exact hsome
  rw [steps, if_neg hlast]
  exact hnames

/-! ## Files in folders below a directory -/

/-- Names below a directory are walked to by the names of the directory and then by themselves. -/
theorem steps_foldl_join (dir : String) {more : List String}
    (hmore : ∀ name ∈ more, Path.IsName name) (hne : more ≠ []) :
    steps (more.foldl Path.join dir) = names dir ++ more := by
  obtain ⟨front, last, rfl⟩ := (List.eq_nil_or_concat' more).resolve_left hne
  have hfront : ∀ name ∈ front, Path.IsName name := fun name hname =>
    hmore name (List.mem_append_left _ hname)
  have hnames : names (front.foldl Path.join dir) = names dir ++ front := by
    clear hmore hne
    induction front using List.reverseRecOn with
    | nil => simp
    | append_singleton front name ih =>
      have hname := hfront name (by simp)
      rw [List.foldl_concat, names_join, isAbsolute_of_isName hname, names_of_isName hname,
        ih fun n hn => hfront n (List.mem_append_left _ hn)]
      simp
  rw [List.foldl_concat, steps_join _ (hmore last (by simp)), hnames, List.append_assoc]

theorem locate_foldl_join_eq (t : FileTree) (dir : String) {more : List String}
    (hmore : ∀ name ∈ more, Path.IsName name) (hne : more ≠ []) :
    t.locate (more.foldl Path.join dir) = walk t false linkLimit [] (names dir ++ more) := by
  have hsteps := steps_foldl_join dir hmore hne
  refine locate_of_steps (fun hempty => ?_) hsteps
  rw [hempty] at hsteps
  simp [show steps "" = [] from rfl, hne] at hsteps

/-- **Names below a directory are walked from the place of the directory.** -/
theorem exists_locate_foldl_join {dir : String} {place : List String}
    (h : t.locate dir = .ok place) (hplace : t.isDirAt place = true) {more : List String}
    (hmore : ∀ name ∈ more, Path.IsName name) (hne : more ≠ []) :
    ∃ links, t.locate (more.foldl Path.join dir) = t.walk false links place more := by
  have hdir : dir ≠ "" := by
    rintro rfl
    cases h
  obtain ⟨links, middle, hmiddle, hend⟩ : ∃ links middle,
      (∀ more, walk t false linkLimit [] (names dir ++ more) = walk t false links middle more) ∧
        middle = place := by
    rcases steps_eq_names_or dir with hnames | hnames
    · rw [locate_of_steps hdir hnames, ← List.append_nil (names dir)] at h
      obtain ⟨links, middle, hmiddle⟩ := walk_append (.inr hplace) h
      rw [hmiddle, walk] at h
      exact ⟨links, middle, hmiddle, Except.ok.inj h⟩
    · rw [locate_of_steps hdir hnames] at h
      obtain ⟨links, middle, hmiddle⟩ := walk_append (.inr hplace) h
      have hmiddleDir : t.isDirAt middle = true := by
        by_contra hmissing
        rw [hmiddle, walk, if_pos (by simpa using hmissing)] at h
        cases h
      rw [hmiddle, walk_here hmiddleDir, walk] at h
      exact ⟨links, middle, hmiddle, Except.ok.inj h⟩
  subst hend
  exact ⟨links, (locate_foldl_join_eq t dir hmore hne).trans (hmiddle more)⟩

/-- What is below a directory is found by the names that lead to it, if it is no link. -/
theorem node?_foldl_join_of_at? {dir : String} {place : List String}
    (h : t.locate dir = .ok place) (hplace : t.isDirAt place = true) {more : List String}
    (hmore : ∀ name ∈ more, Path.IsName name) {n : Node} (hn : t.at? (place ++ more) = some n)
    (hplain : ∀ target, n ≠ .link target) : t.node? (more.foldl Path.join dir) = some n := by
  by_cases hne : more = []
  · subst hne
    rw [List.append_nil] at hn
    exact (node?_of_locate h).trans hn
  · obtain ⟨links, hwalk⟩ := exists_locate_foldl_join h hplace hmore hne
    rw [walk_of_at? hmore hn hplain] at hwalk
    exact (node?_of_locate hwalk).trans hn

/-- **What is found below a directory without links is what is there.** -/
theorem node?_foldl_join {dir : String} {place : List String} (h : t.locate dir = .ok place)
    (hplace : t.isDirAt place = true) (hplain : t.PlainBelow place) {more : List String}
    (hmore : ∀ name ∈ more, Path.IsName name) :
    t.node? (more.foldl Path.join dir) = t.at? (place ++ more) := by
  cases hn : t.at? (place ++ more) with
  | some n =>
    refine node?_foldl_join_of_at? h hplace hmore hn ?_
    rintro target rfl
    exact hplain more target hn
  | none =>
    by_cases hne : more = []
    · subst hne
      rw [List.append_nil] at hn
      exact (node?_of_locate h).trans hn
    · obtain ⟨links, hwalk⟩ := exists_locate_foldl_join h hplace hmore hne
      cases hfound : walk t false links place more with
      | error e =>
        rw [hfound] at hwalk
        rw [node?, node, hwalk]
        rfl
      | ok found =>
        obtain rfl := walk_of_plainBelow hplain hmore hfound
        exact (node?_of_locate (hwalk.trans hfound)).trans hn

/-- **Where a file below a directory is**: where the names lead to from the place of the directory,
if there are no links below it. -/
theorem locate_foldl_join {dir : String} (hdir : dir ≠ "") {more : List String}
    (hmore : ∀ name ∈ more, Path.IsName name) (hne : more ≠ []) {found : List String}
    (h : t.locate (more.foldl Path.join dir) = .ok found) :
    ∃ place, t.locate dir = .ok place ∧ t.isDirAt place = true ∧
      (t.PlainBelow place → found = place ++ more) := by
  rw [locate_foldl_join_eq t dir hmore hne] at h
  obtain ⟨links, place, hmiddle⟩ := walk_append (.inl hne) h
  rw [hmiddle] at h
  have hplace : t.isDirAt place = true := by
    by_contra hmissing
    obtain ⟨name, rest, rfl⟩ := List.exists_cons_of_ne_nil hne
    rw [walk, if_pos (by simpa using hmissing)] at h
    cases h
  refine ⟨place, ?_, hplace, fun hplain => walk_of_plainBelow hplain hmore h⟩
  rcases steps_eq_names_or dir with hnames | hnames
  · have hend := hmiddle []
    rw [List.append_nil, walk] at hend
    rw [locate_of_steps hdir hnames, hend]
  · rw [locate_of_steps hdir hnames, hmiddle, walk_here hplace, walk]

/-- Where a file in a folder of a directory is. -/
theorem locate_join {dir folder file : String} (hdir : dir ≠ "") (hfolder : Path.IsName folder)
    (hfile : Path.IsName file) {found : List String}
    (h : t.locate (Path.join (Path.join dir folder) file) = .ok found) :
    ∃ place, t.locate dir = .ok place ∧ t.isDirAt place = true ∧
      (t.PlainBelow place → found = place ++ [folder, file]) := by
  have hfound : t.locate ([folder, file].foldl Path.join dir) = .ok found := h
  exact locate_foldl_join hdir (by simp [hfolder, hfile]) (List.cons_ne_nil _ _) hfound

/-- **Files at other places hold what they held** after one was written. -/
theorem content_of_putContent_of_ne {path other : String} {content content' : FileContent}
    (h : t.putContent path content = .ok t') (hother : t.content other = .ok content')
    (hne : t.locate other ≠ t.locate path) : t'.content other = .ok content' := by
  have hcarries := carries_of_putContent h
  obtain ⟨place, executable, hlocate, rfl, hold⟩ := exists_put_of_putContent h
  obtain ⟨place', executable', hlocate', hfile⟩ := content_eq_ok_iff.mp hother
  have hplace : place' ≠ place := by
    rintro rfl
    exact hne (hlocate'.trans hlocate.symm)
  exact content_eq_ok_iff.mpr ⟨place', executable',
    locate_of_carries hcarries hlocate' (.inl (by simp [hfile])),
    Node.at?_put_of_ne (fun m hm => (hold m hm).1) hfile hplace⟩

end FileTree

end LintLedger
