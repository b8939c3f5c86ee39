import LintLedger.Proofs.Analyzer.Report
import LintLedger.Proofs.Data.Joined
import LintLedger.Proofs.Json.Compact

/-!
# Type errors read back from their report

A report of type errors is one object to a line.  If there is a single one, the whole output is a
document as well, and it is found before anybody asks for lines.  It makes no difference: only a
list is taken from what was found, and an output whose lines are objects is none.

## Main Definitions

* `Mypy.Unopened` -- lines on which no list and no object begins
* `Mypy.Reported` -- the finding of an object

## Main Statements

* `Mypy.detectPayload_ne_arr` -- an output that begins with no bracket is no list
* `Mypy.entries_eq` -- the objects on the lines are read back
* `Mypy.read_of_objects` -- one finding for each object with a file
-/

namespace LintLedger

open Text

/-- There are no blanks at the ends of the text of an object. -/
theorem Json.trim_render {v : Json} (h : v.isObject = true) : trim v.render = v.render := by
  obtain ⟨inner, hrender⟩ := Json.exists_render_eq_of_isObject h
  rw [trim, hrender, trimChars_eq_self, ← hrender, String.ofList_toList]
  · rintro c ⟨⟩
    decide
  · rw [List.getLast?_cons, List.getLast?_concat]
    rintro c ⟨⟩
    decide

namespace Mypy

/-- Lines on which no list and no object begins: nothing but blanks stands on them, or another
character comes first. -/
def Unopened (line : String) : Prop :=
  ∀ c ∈ (line.toList.dropWhile isBlank).head?, c ≠ '\x7b' ∧ c ≠ '['

instance (line : String) : Decidable (Unopened line) :=
  decidable_of_iff
    ((line.toList.dropWhile isBlank).head?.all (fun c => c != '\x7b' && c != '[') = true) <| by
    simp only [Option.all_eq_true, Bool.and_eq_true, bne_iff_ne]
    exact Iff.rfl

/-! ## Lines and documents -/

/-- An output is found to be a list only if a bracket comes first. -/
theorem detectPayload_ne_arr {output : String}
    (h : (output.toList.dropWhile isBlank).head? ≠ some '[') (items : List Json) :
    detectPayload output ≠ some (.arr items) := by
  have hfirst : (trim output).toList.head? = (output.toList.dropWhile isBlank).head? := by
    rw [trim, String.toList_ofList, head?_trimChars]
  rw [← hfirst] at h
  unfold detectPayload
  dsimp only
  split
  · rename_i hopen
    intro hparse
    cases Json.isObject_of_parse? hopen hparse
  · rename_i hopen
    exact absurd hopen h
  · nofun

theorem entryOfLine?_congr {line line' : String} (h : trim line = trim line') :
    entryOfLine? line = entryOfLine? line' := by
  rw [entryOfLine?, entryOfLine?, h]

/-- An object on a line of its own is read back. -/
theorem entryOfLine?_render {v : Json} (hobject : v.isObject = true)
    (hback : Json.parse? v.render = some v) : entryOfLine? v.render = some v := by
  obtain ⟨inner, hrender⟩ := Json.exists_render_eq_of_isObject hobject
  have hopen : v.render.toList.head? = some '\x7b' := by
    rw [hrender]
    rfl
  rw [entryOfLine?, Json.trim_render hobject]
  simp only [hopen, hback, beq_self_eq_true, if_true]

theorem entryOfLine?_of_unopened {line : String} (h : Unopened line) :
    entryOfLine? line = none := by
  have hopen : (trim line).toList.head? ≠ some '\x7b' := by
    rw [trim, String.toList_ofList, head?_trimChars]
    exact fun hfirst => (h _ hfirst).1 rfl
  rw [entryOfLine?]
  simp only [beq_eq_false_iff_ne.mpr hopen, Bool.false_eq_true, if_false]

variable {run : RunRecord} {vs : List Json} {ls : List String}

/-- No line begins with a bracket. -/
theorem head?_ne_of_mem (hvs : ∀ v ∈ vs, v.isObject = true)
    (hls : Interleaved Json.render Unopened vs ls) :
    ∀ l ∈ ls, (l.toList.dropWhile isBlank).head? ≠ some '[' := by
  refine hls.forall_mem (fun v hv => ?_) fun l hl hbracket => (hl _ hbracket).2 rfl
  obtain ⟨inner, hrender⟩ := Json.exists_render_eq_of_isObject (hvs v hv)
  have hopen (rest : List Char) :
      (('\x7b' :: rest).dropWhile isBlank).head? ≠ some '[' := by
    rw [List.dropWhile_cons_of_neg (by decide)]
    simp
  rw [String.toList_append, hrender]
  exact ⟨hopen _, hopen _⟩

/-- **The objects on the lines are read back**, also if the whole output is a document. -/
theorem entries_eq (hvs : ∀ v ∈ vs, v.isObject = true ∧ Json.parse? v.render = some v)
    (hls : Interleaved Json.render Unopened vs ls) (hout : run.stdout = "\n".intercalate ls)
    (hpayload : run.payload? = detectPayload run.stdout) : entries run = vs := by
  have hread : (lines run.stdout).filterMap entryOfLine? = vs.map id := by
    rw [hout]
    exact hls.filterMap_lines (fun _ _ => entryOfLine?_congr) (entryOfLine?_of_unopened (by decide))
      (fun v _ => Json.notMem_render v) (fun v hv => entryOfLine?_render (hvs v hv).1 (hvs v hv).2)
      fun _ => entryOfLine?_of_unopened
  -- no line begins with a bracket, hence the output does not
  have hfirst : ((run.stdout).toList.dropWhile isBlank).head? ≠ some '[' := by
    rw [hout]
    intro h
    obtain ⟨l, hl, hbracket⟩ := exists_line_of_first h
    exact head?_ne_of_mem (fun v hv => (hvs v hv).1) hls l hl hbracket
  unfold entries
  split
  · rename_i items harr
    exact absurd (hpayload ▸ harr) (detectPayload_ne_arr hfirst items)
  · rw [hread, List.map_id]

/-! ## Findings -/

/-- The finding of an object: where it is, and what it says. -/
structure Reported (ctx : PathContext) (root : String) (v : Json) (f : Finding) : Prop where
  table : f.table = Tool.mypy.tableName
  file : ∃ name, v.textAt? "file" = some name ∧ f.file = ctx.filePath name
  root : f.root = root
  region : f.region =
    ⟨Json.asInt? (v.get? "line"),
      (Json.asInt? (v.get? "end_line")).or (Json.asInt? (v.get? "line")),
      Json.asInt? (v.get? "column"), Json.asInt? (v.get? "end_column")⟩
  texts : ∀ key ∈ ["message", "hint", "code", "severity"],
    f.column? key = (Json.asText? (v.get? key)).map .str

theorem reported_of_issue? {ctx : PathContext} {root : String} {v : Json} {f : Finding}
    (h : issue? ctx root v = some f) : Reported ctx root v f := by
  obtain ⟨name, hname, rfl⟩ := Option.map_eq_some_iff.mp h
  refine ⟨by simp, ⟨name, hname, by simp⟩, by simp, by simp, ?_⟩
  simp [Finding.column?]

/-- **One finding for each object with a file**, in the order of the objects, and no other, whether
or not the whole output is a document. -/
theorem read_of_objects (settings : MypySettings)
    (hvs : ∀ v ∈ vs, v.isObject = true ∧ Json.parse? v.render = some v)
    (hls : Interleaved Json.render Unopened vs ls) (hout : run.stdout = "\n".intercalate ls)
    (hpayload : run.payload? = detectPayload run.stdout) (ctx : PathContext) :
    ∃ rows, (analyzer settings).read run ctx = .ok rows ∧
      List.Forall₂ (Reported ctx (ctx.root (vs.filterMap fun v => v.textAt? "file")))
        (vs.filter fun v => (v.textAt? "file").isSome) rows := by
  refine ⟨findings run ctx, rfl, ?_⟩
  rw [findings, entries_eq hvs hls hout hpayload]
  exact forall₂_filterMap (fun _ => (Option.isSome_map ..).symm) (fun _ _ => reported_of_issue?) vs

/-! ## A report with one object and one with several -/

namespace Typed

/-- The object for an error in a file. -/
def error (file : Json) (line : Int) : Json :=
  .obj [("file", file), ("line", .num (.int line)), ("message", .str "[ was never closed\n")]

/-- Objects with a text or nothing as their file are read back, since no float is in them. -/
theorem parse?_error {file : Json} (hfile : file = .null ∨ ∃ s, file = .str s) {line : Int}
    (hline : (Number.int line).InRange) :
    Json.parse? (error file line).render = some (error file line) := by
  have hreadable (depth : Nat) : file.Readable depth := by
    obtain rfl | ⟨s, rfl⟩ := hfile <;> simp
  refine Json.parse?_render ?_ fun x hx => ?_
  · have hkeys : ["file", "line", "message"].Pairwise (· < ·) := by decide
    rw [error, Json.maxDepth, Json.readable_obj]
    exact ⟨List.pairwise_map.mp hkeys, by simp [hreadable, hline]⟩
  · obtain _ | _ | ⟨hmem, hwithin⟩ := hx
    simp only [List.mem_cons, Prod.mk.injEq, List.not_mem_nil, or_false] at hmem
    obtain ⟨-, rfl⟩ | ⟨-, rfl⟩ | ⟨-, rfl⟩ := hmem
    · obtain rfl | ⟨s, rfl⟩ := hfile <;> cases hwithin
    · cases hwithin
    · cases hwithin

/-- The run with some lines. -/
def runOf (ls : List String) : RunRecord where
  tool := "mypy"
  cmd := []
  cwd := "/srv/api"
  exitCode := 1
  duration := 0
  stdout := "\n".intercalate ls
  stderr := ""
  payload? := detectPayload ("\n".intercalate ls)

theorem stdout_runOf (ls : List String) : (runOf ls).stdout = "\n".intercalate ls := rfl

theorem payload?_runOf (ls : List String) :
    (runOf ls).payload? = detectPayload (runOf ls).stdout := by
  rw [stdout_runOf, runOf]

/-- Three objects, one of which has no file. -/
def objects : List Json := [error (.str "a.py") 3, error .null 5, error (.str "") 7]

/-- A single object between blank lines. -/
def one : List String := ["", " ", (error (.str "a.py") 3).render ++ "\r", ""]

/-- All of them, and a line of another kind. -/
def three : List String :=
  [(error (.str "a.py") 3).render, (error .null 5).render, "Found 3 errors",
    (error (.str "") 7).render]

end Typed

open Typed in
/-- An output that is a document as a whole, and one that is not. -/
theorem read_of_one_and_three :
    (∀ v ∈ objects, v.isObject = true ∧ Json.parse? v.render = some v) ∧
      Interleaved Json.render Unopened (objects.take 1) one ∧
      Interleaved Json.render Unopened objects three ∧
      (runOf one).payload? = some (error (.str "a.py") 3) ∧
      (∃ f, (analyzer {}).read (runOf one) ⟨none, none, none⟩ = .ok [f] ∧
        f.region = ⟨some 3, some 3, none, none⟩) ∧
      ∃ f g, (analyzer {}).read (runOf three) ⟨none, none, none⟩ = .ok [f, g] ∧
        f.region = ⟨some 3, some 3, none, none⟩ ∧ g.region = ⟨some 7, some 7, none, none⟩ := by
  have hobjects : ∀ v ∈ objects, v.isObject = true ∧ Json.parse? v.render = some v := by
    simp only [objects, List.forall_mem_cons]
    exact ⟨⟨rfl, parse?_error (.inr ⟨_, rfl⟩) ⟨by decide, by decide⟩⟩,
      ⟨rfl, parse?_error (.inl rfl) ⟨by decide, by decide⟩⟩,
      ⟨rfl, parse?_error (.inr ⟨_, rfl⟩) ⟨by decide, by decide⟩⟩, by simp⟩
  have hone : Interleaved Json.render Unopened (objects.take 1) one :=
    .other (by decide) (by decide) (.other (by decide) (by decide)
      (.written (.inr rfl) (.other (by decide) (by decide) .nil)))
  have hthree : Interleaved Json.render Unopened objects three :=
    .written (.inl rfl) (.written (.inl rfl)
      (.other (by decide) (by decide) (.written (.inl rfl) .nil)))
  have hdocument : (runOf one).payload? = some (error (.str "a.py") 3) := by
    have htrim : Text.trim (runOf one).stdout = (error (.str "a.py") 3).render := by
      decide
    have hobject : (error (.str "a.py") 3).render.toList.head? = some '\x7b' := by decide
    rw [payload?_runOf, detectPayload, htrim, hobject]
    exact (hobjects _ List.mem_cons_self).2
  refine ⟨hobjects, hone, hthree, hdocument, ?_, ?_⟩
  · obtain ⟨rows, hread, hrows⟩ :=
      read_of_objects {} (fun v hv => hobjects v (List.mem_of_mem_take hv)) hone
        (stdout_runOf one) (payload?_runOf one) ⟨none, none, none⟩
    change List.Forall₂ _ [_] rows at hrows
    obtain _ | ⟨hf, _ | _⟩ := hrows
    exact ⟨_, hread, hf.region⟩
  · obtain ⟨rows, hread, hrows⟩ :=
      read_of_objects {} hobjects hthree (stdout_runOf three) (payload?_runOf three)
        ⟨none, none, none⟩
    change List.Forall₂ _ [_, _] rows at hrows
    obtain _ | ⟨hf, _ | ⟨hg, _ | _⟩⟩ := hrows
    exact ⟨_, _, hread, hf.region, hg.region⟩

end Mypy

end LintLedger
