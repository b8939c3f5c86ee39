import LintLedger.Proofs.Finding.Identity
import Mathlib.Tactic.FinCases

/-!
# Setting the columns of a finding

What a finding holds after one of its fields, its lines or its columns were set, and what of that
takes part in its identity: lines and columns, and six of the fields.

## Main Definitions

* `Finding.valueFields` -- the identity fields that are no places

## Main Statements

* `Finding.find?_json` -- the fields after one was set
* `Finding.sameIdentity_of_find?_eq` -- findings in one place with the same identity fields
* `Finding.SameIdentity.find?_text_eq` -- the texts of findings with one identity
-/

namespace LintLedger.Finding

variable (f : Finding) (key : String)

/-! ## What setting a field leaves alone -/

/-- Every setter sets a document, so that what is shown of `json` holds of all of them. -/
@[simp] theorem text_eq_json (s? : Option String) : f.text key s? = f.json key (s?.map .str) := rfl

@[simp] theorem int_eq_json (i? : Option Int) : f.int key i? = f.json key (i?.map .ofInt) := rfl

@[simp] theorem real_eq_json (x? : Option Float) : f.real key x? = f.json key (x?.map .ofFloat) :=
  rfl

@[simp] theorem flag_eq_json (b? : Option Bool) : f.flag key b? = f.json key (b?.map .bool) := rfl

/-- A value under a key is one of the fields: nothing else of a finding changes, … -/
@[simp] theorem json_table (v? : Option Json) : (f.json key v?).table = f.table := by
  unfold json
  split <;> rfl

/-- … neither its file … -/
@[simp] theorem json_file (v? : Option Json) : (f.json key v?).file = f.file := by
  unfold json
  split <;> rfl

/-- … nor its root, … -/
@[simp] theorem json_root (v? : Option Json) : (f.json key v?).root = f.root := by
  unfold json
  split <;> rfl

/-- … nor the place in the file, … -/
@[simp] theorem json_region (v? : Option Json) : (f.json key v?).region = f.region := by
  unfold json
  split <;> rfl

/-- … and a finding without an identity of its own does not get one. -/
@[simp] theorem json_pk? (v? : Option Json) : (f.json key v?).pk? = f.pk? := by
  unfold json
  split <;> rfl

/-- Lines are in the region, and nothing else changes with them. -/
@[simp] theorem lines_table (first last : Option Int) : (f.lines first last).table = f.table := rfl

@[simp] theorem lines_file (first last : Option Int) : (f.lines first last).file = f.file := rfl

@[simp] theorem lines_root (first last : Option Int) : (f.lines first last).root = f.root := rfl

@[simp] theorem lines_pk? (first last : Option Int) : (f.lines first last).pk? = f.pk? := rfl

@[simp] theorem lines_fields (first last : Option Int) : (f.lines first last).fields = f.fields :=
  rfl

/-- Columns are in the region too. -/
@[simp] theorem columns_table (first last : Option Int) : (f.columns first last).table = f.table :=
  rfl

@[simp] theorem columns_file (first last : Option Int) : (f.columns first last).file = f.file := rfl

@[simp] theorem columns_root (first last : Option Int) : (f.columns first last).root = f.root := rfl

@[simp] theorem columns_pk? (first last : Option Int) : (f.columns first last).pk? = f.pk? := rfl

@[simp] theorem columns_fields (first last : Option Int) :
    (f.columns first last).fields = f.fields := rfl

/-- The region of a finding that was given lines and then columns, as readers do. -/
@[simp] theorem columns_lines_region (tool : Tool) (file root : String)
    (line? endLine? column? endColumn? : Option Int) :
    (((blank tool file root).lines line? endLine?).columns column? endColumn?).region =
      ⟨line?, endLine?, column?, endColumn?⟩ := rfl

/-- The region of a finding whose tool reports lines only. -/
@[simp] theorem lines_region (tool : Tool) (file root : String) (line? endLine? : Option Int) :
    ((blank tool file root).lines line? endLine?).region = ⟨line?, endLine?, none, none⟩ := rfl

/-- A new finding goes to the table of its tool, … -/
@[simp] theorem blank_table (tool : Tool) (file root : String) :
    (blank tool file root).table = tool.tableName := rfl

/-- … with the file and the root that it was made with, … -/
@[simp] theorem blank_file (tool : Tool) (file root : String) :
    (blank tool file root).file = file := rfl

@[simp] theorem blank_root (tool : Tool) (file root : String) :
    (blank tool file root).root = root := rfl

/-- … and its identity is left to be computed from its contents. -/
@[simp] theorem blank_pk? (tool : Tool) (file root : String) :
    (blank tool file root).pk? = none := rfl

/-! ## Fields -/

/-- No text is null, so a text that is there is always kept. -/
@[simp] theorem filter_map_str (s? : Option String) :
    ((s?.map Json.str).filter fun v => !v.isNull) = s?.map .str := by
  cases s? <;> rfl

/-- A new finding has no fields. -/
@[simp] theorem find?_fields_blank (tool : Tool) (file root name : String) :
    (blank tool file root).fields.find? name = none := rfl

/-- The fields after one was set: null and an absent value leave it as it was. -/
@[simp] theorem find?_json (v? : Option Json) (name : String) :
    (f.json key v?).fields.find? name =
      if name = key then (v?.filter fun v => !v.isNull).or (f.fields.find? name)
      else f.fields.find? name := by
  unfold json
  -- null and an absent value are not set, and any other value is found where it was set
  by_cases h : name = key
  · rw [if_pos h, h]
    split
    · rfl
    · rfl
    · rename_i v hnull
      rw [Assoc.find?_insert_self]
      cases v <;> first | rfl | exact absurd rfl hnull
  · rw [if_neg h]
    split
    · rfl
    · rfl
    · exact Assoc.find?_insert_of_ne h ..

/-! ## Identity fields -/

/-- The identity fields that are no places. -/
def valueFields : List String := namingFields ++ ["message"]

/-- What the identity is made of is a place or one of the other fields. -/
theorem mem_identityFields {name : String} :
    name ∈ identityFields ↔ name ∈ valueFields ∨ name ∈ placeFields := by
  rw [← List.mem_append]
  rfl

variable {f} {g : Finding}

/-- No field that takes part in the identity has the name of a part of the finding that is kept
elsewhere. -/
theorem column?_of_mem_valueFields {name : String} (h : name ∈ valueFields) :
    f.column? name = f.fields.find? name := by
  fin_cases h <;> rfl

/-- Places are read from the region. -/
theorem column?_of_mem_placeFields {name : String} (h : name ∈ placeFields)
    (hregion : f.region = g.region) : f.column? name = g.column? name := by
  fin_cases h <;> simp [column?, hregion]

/-- The texts of the identity fields depend on the region and on the other fields alone. -/
theorem fieldText?_eq_of_region_eq (hregion : f.region = g.region)
    (hfields : ∀ name ∈ valueFields, f.fields.find? name = g.fields.find? name) {name : String}
    (hname : name ∈ identityFields) : f.fieldText? name = g.fieldText? name := by
  unfold fieldText?
  rcases mem_identityFields.mp hname with hvalue | hplace
  · rw [column?_of_mem_valueFields hvalue, column?_of_mem_valueFields hvalue, hfields name hvalue]
  · rw [column?_of_mem_placeFields hplace hregion]

/-- Findings in one place that hold the same under the identity fields agree. -/
theorem sameIdentity_of_find?_eq (htable : f.table = g.table) (hfile : f.file = g.file)
    (hroot : f.root = g.root) (hregion : f.region = g.region)
    (hfields : ∀ name ∈ valueFields, f.fields.find? name = g.fields.find? name) :
    SameIdentity f g where
  table := htable
  root := by rw [hroot]
  path := by rw [identityPath, identityPath, hfile, hroot]
  fields := fun _ hname => fieldText?_eq_of_region_eq hregion hfields hname

/-- The text of a field that was set to a text. -/
theorem fieldText?_eq_of_find?_eq {name : String} (hname : name ∈ valueFields) {s? : Option String}
    (h : f.fields.find? name = s?.map .str) : f.fieldText? name = s?.filter (· ≠ "") := by
  rw [fieldText?, column?_of_mem_valueFields hname, h]
  cases s? with
  | none => rfl
  | some s => by_cases hs : s = "" <;> simp [Option.filter, Json.isTruthy, Json.plain, hs]

/-- Findings that agree hold the same texts under the identity fields, empty ones apart. -/
theorem SameIdentity.find?_text_eq (same : SameIdentity f g) {name : String}
    (hname : name ∈ valueFields) {s? t? : Option String} (hf : f.fields.find? name = s?.map .str)
    (hg : g.fields.find? name = t?.map .str) : s?.filter (· ≠ "") = t?.filter (· ≠ "") := by
  rw [← fieldText?_eq_of_find?_eq hname hf, ← fieldText?_eq_of_find?_eq hname hg]
  exact same.fields name (mem_identityFields.mpr (.inl hname))

end LintLedger.Finding
