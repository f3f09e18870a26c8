import Winnow.Proofs.Declaration.Settings

/-!
Fields with the name of the path to the entity itself. Such a field is refused whether or not it is
skipped, although no path is made to a field that is skipped.
-/

namespace Winnow

namespace Field

def isMarked (f : Field) (key : String) : Bool := Attribute.marks "safepred" key f.attributes

/-- The attributes of the field can be read, and its expression is not blank. -/
def IsSound (convert : Text.Conversion) (style : Option Text.NameStyle) (f : Field) : Prop :=
  ∃ s, Attribute.settings "safepred" FieldSettings.apply {} f.attributes = .ok s ∧
    ¬ (Text.trim (s.expression.getD (f.name.styled convert style))).isEmpty

/-- What is made of a field keeps its name and its marks. -/
structure Becomes (f : Field) (p : PathField) : Prop where
  name : p.name = f.name
  isId : p.isId = f.isMarked "id"
  isSkipped : p.isSkipped = f.isMarked "skip"

variable {convert : Text.Conversion} {style : Option Text.NameStyle} {f : Field}
  {fields : List Field} {paths : List PathField}

theorem IsSound.exists_toPathField (h : f.IsSound convert style) :
    ∃ p, f.toPathField convert style = .ok p ∧ f.Becomes p := by
  obtain ⟨s, settings, filled⟩ := h
  refine ⟨⟨f.name, f.type, s.expression.getD (f.name.styled convert style), s.isId, s.isSkipped⟩,
    ?_, rfl, ?_, ?_⟩
  · simp only [toPathField, settings, bind, Except.bind]
    rw [if_neg filled]
    rfl
  · simpa [isMarked] using Attribute.flag_of_settings FieldSettings.isId_of_apply settings
  · simpa [isMarked] using Attribute.flag_of_settings FieldSettings.isSkipped_of_apply settings

theorem exists_toPathFields (sound : ∀ f ∈ fields, f.IsSound convert style) :
    ∃ paths, fields.mapM (toPathField convert style) = .ok paths ∧
      List.Forall₂ Becomes fields paths := by
  obtain ⟨paths, each⟩ := exists_forall₂ fun f hf => (sound f hf).exists_toPathField
  exact ⟨paths, mapM_eq_ok_iff.mpr (each.imp fun _ _ => And.left), each.imp fun _ _ => And.right⟩

section Becomes

variable (h : List.Forall₂ Becomes fields paths)
include h

theorem any_name_of_becomes (name : String) :
    paths.any (·.name.text == name) = fields.any (·.name.text == name) := by
  induction h with
  | nil => rfl
  | cons becomes _ ih => rw [List.any_cons, List.any_cons, ih, becomes.name]

theorem length_ids_of_becomes :
    (paths.filter (·.isId)).length = fields.countP (·.isMarked "id") := by
  rw [← List.countP_eq_length_filter]
  induction h with
  | nil => rfl
  | cons becomes _ ih => rw [List.countP_cons, List.countP_cons, ih, becomes.isId]

theorem names_of_becomes :
    (paths.filter (!·.isSkipped)).map (·.name) =
      (fields.filter fun f => !f.isMarked "skip").map (·.name) := by
  induction h with
  | nil => rfl
  | cons becomes _ ih =>
      rw [List.filter_cons, List.filter_cons, becomes.isSkipped]
      split
      · rw [List.map_cons, List.map_cons, becomes.name, ih]
      · exact ih

end Becomes

end Field

namespace PathModule

theorem exists_identityOf {paths : List PathField} (h : (paths.filter (·.isId)).length ≤ 1) :
    ∃ identity, identityOf paths = .ok identity := by
  rw [identityOf]
  cases ids : paths.filter (·.isId) with
  | nil => exact ⟨none, rfl⟩
  | cons first others =>
      rw [ids, List.length_cons] at h
      obtain rfl : others = [] := List.length_eq_zero_iff.mp (by omega)
      exact ⟨some first.name, rfl⟩

variable {convert : Text.Conversion} {d : Declaration} {fields : List Field} {comma : Bool}
  {s : StructSettings}

/-- The module is made of the fields once all attributes are read. -/
theorem build_eq {paths : List PathField} (declared : namedFields d.body = .ok fields)
    (settings : Attribute.settings "safepred" StructSettings.apply {} d.attributes = .ok s)
    (made : fields.mapM (Field.toPathField convert s.style) = .ok paths) (name : String) :
    build convert d name =
      if paths.any (·.name.text == "this") then .error .pathClash
      else (identityOf paths).map fun identity =>
        { visibility := d.visibility
          name
          owner := ⟨d.name, d.generics, s.library.getD Phrase.library⟩
          accessors := (paths.filter (!·.isSkipped)).map fun f => ⟨f.name, f.type, f.expression⟩
          identity } := by
  simp only [build, declared, settings, made, bind, Except.bind]
  cases identityOf paths <;> rfl

section Sound

variable (body : d.body = .struct (.named fields comma))
  (settings : Attribute.settings "safepred" StructSettings.apply {} d.attributes = .ok s)
  (sound : ∀ f ∈ fields, f.IsSound convert s.style) (ids : fields.countP (·.isMarked "id") ≤ 1)
include body settings sound ids

/-- A struct is refused if a field has the name of the path to the entity, and otherwise has a path
to each field that is not skipped. -/
theorem build_cases (name : String) :
    ((∃ f ∈ fields, f.name.text = "this") ∧ build convert d name = .error .pathClash) ∨
      ((∀ f ∈ fields, f.name.text ≠ "this") ∧ ∃ m, build convert d name = .ok m ∧
        m.accessors.map (·.name) =
          (fields.filter fun f => !f.isMarked "skip").map (·.name)) := by
  obtain ⟨paths, made, becomes⟩ := Field.exists_toPathFields sound
  have declared : namedFields d.body = .ok fields := by
    rw [body]
    rfl
  rw [build_eq declared settings made, Field.any_name_of_becomes becomes]
  cases this : fields.any (·.name.text == "this") with
  | true => exact .inl ⟨by simpa using this, rfl⟩
  | false =>
      obtain ⟨identity, known⟩ := exists_identityOf (Field.length_ids_of_becomes becomes ▸ ids)
      rw [known]
      refine .inr ⟨by simpa using this, _, rfl, ?_⟩
      rw [List.map_map, ← Field.names_of_becomes becomes]
      rfl

/-- What becomes of a struct: there is no name for its module, or it is refused because of the name
of a field, or it has a module. -/
theorem derive_cases :
    (∃ fault, moduleName convert d.name = .error fault ∧
        derive convert d = .error (.brokenOff fault)) ∨
      ∃ name, moduleName convert d.name = .ok name ∧
        (((∃ f ∈ fields, f.name.text = "this") ∧
            derive convert d = .error (.refused .pathClash)) ∨
          ((∀ f ∈ fields, f.name.text ≠ "this") ∧ ∃ m, derive convert d = .ok m ∧
            m.accessors.map (·.name) =
              (fields.filter fun f => !f.isMarked "skip").map (·.name))) := by
  rw [derive]
  cases moduleName convert d.name with
  | error fault => exact .inl ⟨fault, rfl, rfl⟩
  | ok name =>
      refine .inr ⟨name, rfl, ?_⟩
      obtain ⟨this, built⟩ | ⟨others, m, built, names⟩ :=
        build_cases body settings sound ids name
      · exact .inl ⟨this, by simp only [built]⟩
      · exact .inr ⟨others, m, by simp only [built], names⟩

/-- Whether a field is skipped does not matter for its name: a struct that has a module is refused
if any field has the name of the path to the entity, and accepted if none has. Yet a module that is
made has no path to a field that is skipped. -/
theorem derive_pathClash_iff :
    (derive convert d = .error (.refused .pathClash) ↔
      (∃ name, moduleName convert d.name = .ok name) ∧ ∃ f ∈ fields, f.name.text = "this") ∧
    ((∃ m, derive convert d = .ok m) ↔
      (∃ name, moduleName convert d.name = .ok name) ∧ ∀ f ∈ fields, f.name.text ≠ "this") ∧
    ∀ m, derive convert d = .ok m →
      m.accessors.map (·.name) = (fields.filter fun f => !f.isMarked "skip").map (·.name) := by
  obtain ⟨fault, unnamed, outcome⟩ | ⟨name, named, ⟨this, outcome⟩ | ⟨others, m, outcome, names⟩⟩ :=
    derive_cases body settings sound ids
  · simp [unnamed, outcome]
  · rw [outcome]
    refine ⟨iff_of_true rfl ⟨⟨name, named⟩, this⟩, iff_of_false ?_ ?_, ?_⟩
    · rintro ⟨m, ⟨⟩⟩
    · rintro ⟨-, others⟩
      obtain ⟨f, hf, same⟩ := this
      exact others f hf same
    · rintro m ⟨⟩
  · rw [outcome]
    refine ⟨iff_of_false (fun h => by cases h) ?_, iff_of_true ⟨m, rfl⟩ ⟨⟨name, named⟩, others⟩, ?_⟩
    · rintro ⟨-, f, hf, same⟩
      exact others f hf same
    · rintro _ ⟨⟩
      exact names

end Sound

end PathModule

namespace Bookshelf

/-- A node that does not want a path to its first field. -/
def skippedThis : List Field :=
  [{ attributes := [⟨[.word "safepred"], .list .round [.word "skip"]⟩]
     name := { text := "this" }
     type := [.word "u32"] },
   { attributes := [], name := { text := "depth" }, type := [.word "u8"] }]

def node : Declaration where
  attributes := []
  visibility := []
  name := { text := "Node" }
  generics := {}
  body := .struct (.named skippedThis false)

theorem node_pathClash :
    Attribute.settings "safepred" StructSettings.apply {} node.attributes = .ok {} ∧
      (∀ f ∈ skippedThis, f.IsSound Text.NameStyle.convert none) ∧
      skippedThis.countP (·.isMarked "id") ≤ 1 ∧
      (∀ f ∈ skippedThis, f.name.text = "this" → f.isMarked "skip") ∧
      PathModule.ofDeclaration node = .error (.refused .pathClash) := by
  have sound : ∀ f ∈ skippedThis, f.IsSound Text.NameStyle.convert none := by
    intro f hf
    rcases List.mem_cons.mp hf with rfl | hf
    · exact ⟨{ isSkipped := true }, rfl, by decide +kernel⟩
    · rw [List.mem_singleton.mp hf]
      exact ⟨{}, rfl, by decide +kernel⟩
  have ids : skippedThis.countP (·.isMarked "id") ≤ 1 := by decide +kernel
  have skipped : ∀ f ∈ skippedThis, f.name.text = "this" → f.isMarked "skip" := by decide +kernel
  obtain ⟨clash, -⟩ :=
    PathModule.derive_pathClash_iff (d := node) (s := {}) rfl rfl sound ids
  exact ⟨rfl, sound, ids, skipped, clash.mpr ⟨⟨"node", by decide +kernel⟩, by decide +kernel⟩⟩

end Bookshelf

end Winnow
