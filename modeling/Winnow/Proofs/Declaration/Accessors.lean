import Winnow.Proofs.Declaration.Clash
import Winnow.Proofs.Declaration.Code

/-!
The paths of a struct. Its module has one function for each field that is not skipped, in their
order and under their names, and one for the entity itself behind them. How the attributes are
written does not matter.
-/

namespace Winnow

namespace Text.NameStyle

def names : List (String × NameStyle) :=
  [("camelCase", camel), ("PascalCase", pascal), ("snake_case", snake),
   ("SCREAMING_SNAKE_CASE", screamingSnake), ("lowercase", flat), ("UPPERCASE", upperFlat)]

theorem ofText?_eq (text : String) : ofText? text = names.lookup text := by
  simp only [ofText?, names, List.lookup_cons, List.lookup_nil]
  repeat' split
  all_goals simp_all

end Text.NameStyle

theorem StructSettings.apply_cases {s s' : StructSettings} {e : Entry} (h : s.apply e = .ok s') :
    ∃ key rest value rest', e.key = .ok (some key, rest) ∧ e.text rest = .ok (value, rest') ∧
      (key = "rename_all" ∧ (∃ style, Text.NameStyle.names.lookup value.text = some style ∧
          s' = { s with style := some style }) ∨
        key = "crate" ∧ ∃ library, value.path = .ok library ∧
          s' = { s with library := some library }) := by
  obtain ⟨⟨found, rest⟩, key, h⟩ := bind_eq_ok h
  dsimp only at h
  split at h
  · next all =>
      obtain ⟨⟨value, rest'⟩, text, h⟩ := bind_eq_ok h
      dsimp only at h
      split at h
      · cases h
      · next style known =>
          obtain ⟨_, -, h⟩ := bind_eq_ok h
          cases h
          rw [Text.NameStyle.ofText?_eq] at known
          exact ⟨_, rest, value, rest', all ▸ key, text, .inl ⟨rfl, style, known, rfl⟩⟩
  · split at h
    · next crate =>
        obtain ⟨library, named, h⟩ := bind_eq_ok h
        cases h
        obtain ⟨value, rest', text, path⟩ := Entry.exists_of_library named
        exact ⟨_, rest, value, rest', crate ▸ key, text, .inr ⟨rfl, library, path, rfl⟩⟩
    · cases h

namespace Declaration

/-- The style for names of fields that the attributes of a type give last. -/
def style (d : Declaration) : Option Text.NameStyle :=
  (Attribute.values "safepred" "rename_all" d.attributes).getLast?.bind fun value =>
    Text.NameStyle.names.lookup value.text

theorem structSettings_eq {d : Declaration} {s : StructSettings}
    (h : Attribute.settings "safepred" StructSettings.apply {} d.attributes = .ok s) :
    s.style = d.style ∧ s.library.getD Phrase.library = d.library := by
  have all := Attribute.foldlM_entriesOf h
  constructor
  · have last := Attribute.last_of_foldlM StructSettings.style (Entry.value? "rename_all")
      (fun value => Text.NameStyle.names.lookup value.text) ?_ all
    · rw [last, style, Attribute.values]
      cases List.getLast? _ <;> rfl
    · intro s s' e made
      obtain ⟨key, rest, value, rest', found, text, ⟨rfl, style, known, rfl⟩ |
        ⟨rfl, library, path, rfl⟩⟩ := StructSettings.apply_cases made
      · rw [Entry.value?_of_key found text]
        exact known.symm
      · rw [Entry.value?_of_other found (by decide)]
        rfl
  · have last := Attribute.last_of_foldlM StructSettings.library (Entry.value? "crate")
      (fun value => value.path.toOption) ?_ all
    · rw [last, library, Attribute.values]
      cases List.getLast? _ <;> rfl
    · intro s s' e made
      obtain ⟨key, rest, value, rest', found, text, ⟨rfl, style, known, rfl⟩ |
        ⟨rfl, library, path, rfl⟩⟩ := StructSettings.apply_cases made
      · rw [Entry.value?_of_other found (by decide)]
        rfl
      · rw [Entry.value?_of_key found text, Option.elim_some, path]
        rfl

end Declaration

namespace Field

section Expression

variable (convert : Text.Conversion) (style : Option Text.NameStyle) (f : Field)

/-- How queries refer to the field: by the last text that renames it, else by its name. -/
def expression : String :=
  match (Attribute.values "safepred" "rename" f.attributes).getLast? with
  | some value => value.text
  | none => style.elim f.name.text fun style => convert style f.name.text

def accessor : Accessor := ⟨f.name, f.type, f.expression convert style⟩

def settledField : PathField :=
  ⟨f.name, f.type, f.expression convert style, f.isMarked "id", f.isMarked "skip"⟩

end Expression

variable {convert : Text.Conversion} {style : Option Text.NameStyle} {f : Field} {p : PathField}

theorem expression_of_settings {s : FieldSettings}
    (h : Attribute.settings "safepred" FieldSettings.apply {} f.attributes = .ok s) :
    s.expression.getD (f.name.styled convert style) = f.expression convert style := by
  have last := Attribute.last_of_foldlM FieldSettings.expression (Entry.value? "rename")
    (fun value => some value.text) ?_ (Attribute.foldlM_entriesOf h)
  · rw [last, expression, Attribute.values]
    cases List.getLast? _ with
    | some value => rfl
    | none => cases style <;> rfl
  · intro s s' e made
    obtain ⟨key, rest, found, ⟨rfl, rfl⟩ | ⟨rfl, rfl⟩ | ⟨rfl, value, rest', text, rfl⟩⟩ :=
      FieldSettings.apply_cases made
    · rw [Entry.value?_of_other found (by decide)]
      rfl
    · rw [Entry.value?_of_other found (by decide)]
      rfl
    · rw [Entry.value?_of_key found text]
      rfl

theorem eq_of_toPathField (h : f.toPathField convert style = .ok p) :
    p = f.settledField convert style := by
  obtain ⟨s, settings, h⟩ := bind_eq_ok h
  dsimp only at h
  split at h
  · cases h
  · cases h
    have isId := Attribute.flag_of_settings FieldSettings.isId_of_apply settings
    have isSkipped := Attribute.flag_of_settings FieldSettings.isSkipped_of_apply settings
    rw [settledField, expression_of_settings settings, isId, isSkipped]
    rfl

theorem toPathField_of_rewritten {g : Field} (same : f.Rewritten g)
    (h : f.toPathField convert style = .ok p) : g.toPathField convert style = .ok p := by
  have name : g.name = f.name := by rw [same.rest]
  have type : g.type = f.type := by rw [same.rest]
  rw [Field.toPathField] at h ⊢
  obtain ⟨s, settings, h⟩ := bind_eq_ok h
  rw [(same.attributes.settings_eq_ok_iff fun s _ _ => FieldSettings.refines_apply s).mp settings,
    name, type]
  simpa only [bind, Except.bind] using h

end Field

namespace PathModule

variable {convert : Text.Conversion} {style : Option Text.NameStyle} {d : Declaration}
  {name : String} {m : PathModule}

theorem exists_of_build (h : build convert d name = .ok m) :
    ∃ fields comma s paths, d.body = .struct (.named fields comma) ∧
      Attribute.settings "safepred" StructSettings.apply {} d.attributes = .ok s ∧
      fields.mapM (Field.toPathField convert s.style) = .ok paths := by
  obtain ⟨fields, declared, h⟩ := bind_eq_ok h
  obtain ⟨s, settings, h⟩ := bind_eq_ok h
  obtain ⟨paths, made, -⟩ := bind_eq_ok h
  rw [namedFields.eq_def] at declared
  split at declared
  · next found comma body =>
      cases declared
      exact ⟨fields, comma, s, paths, body, settings, made⟩
  · cases declared
  · cases declared

theorem identityLexemes_eq {fields : List Field} {identity : Option Identifier}
    (h : identityOf (fields.map (Field.settledField convert style)) = .ok identity) :
    identityLexemes d.owner identity = d.identityImpl (fields.filter (·.isMarked "id")) := by
  have marks : (fields.map (Field.settledField convert style)).filter (·.isId) =
      (fields.filter (·.isMarked "id")).map (Field.settledField convert style) := List.filter_map ..
  rw [identityOf, marks] at h
  cases marked : fields.filter (·.isMarked "id") with
  | nil =>
      rw [marked] at h
      cases h
      rfl
  | cons f others =>
      rw [marked] at h
      cases others with
      | nil =>
          cases h
          exact (Declaration.owner_bindImplementation _).trans
            (congrArg _ (Declaration.owner_bindCall _))
      | cons g others => cases h

theorem eq_of_build {fields : List Field} {comma : Bool}
    (body : d.body = .struct (.named fields comma)) (h : build convert d name = .ok m) :
    m.visibility = d.visibility ∧ m.name = name ∧ m.owner = d.owner ∧
      m.accessors =
        (fields.filter fun f => !f.isMarked "skip").map (Field.accessor convert d.style) ∧
      identityLexemes d.owner m.identity = d.identityImpl (fields.filter (·.isMarked "id")) := by
  obtain ⟨fields', comma', s, paths, body', settings, made⟩ := exists_of_build h
  rw [body] at body'
  cases body'
  have declared : namedFields d.body = .ok fields := by rw [body]; rfl
  rw [build_eq declared settings made] at h
  split at h
  · cases h
  · obtain ⟨identity, known, rfl⟩ := map_eq_ok h
    obtain ⟨style, library⟩ := Declaration.structSettings_eq settings
    have all := eq_map_of_mapM (fun f p => Field.eq_of_toPathField) made
    subst all
    refine ⟨rfl, rfl, ?_, ?_, ?_⟩
    · rw [Declaration.owner, ← library]
    · rw [← style, List.filter_map, List.map_map]
      rfl
    · exact identityLexemes_eq known

theorem build_of_rewritten {d' : Declaration} (same : d.Rewritten ["safepred"] d')
    (h : build convert d name = .ok m) : build convert d' name = .ok m := by
  obtain ⟨fields, comma, s, paths, body, settings, made⟩ := exists_of_build h
  have parts := same.body
  rw [body] at parts
  generalize body' : d'.body = written at parts
  cases parts with
  | @struct _ others _ fields' =>
      have settings' := ((same.attributes "safepred" List.mem_cons_self).settings_eq_ok_iff
        fun s _ _ => StructSettings.refines_apply s).mp settings
      have declared : namedFields d.body = .ok fields := by rw [body]; rfl
      have declared' : namedFields d'.body = .ok others := by rw [body']; rfl
      have visibility : d'.visibility = d.visibility := by rw [same.rest]
      have owner : d'.name = d.name ∧ d'.generics = d.generics := by
        rw [same.rest]
        exact ⟨rfl, rfl⟩
      have made' : others.mapM (Field.toPathField convert s.style) = .ok paths :=
        mapM_of_forall₂ fields' made fun _ _ _ => Field.toPathField_of_rewritten
      rw [build_eq declared settings made] at h
      rw [build_eq declared' settings' made', visibility, owner.1, owner.2]
      exact h

theorem build_of_derive (h : derive convert d = .ok m) :
    ∃ name, moduleName convert d.name = .ok name ∧ build convert d name = .ok m := by
  rw [derive] at h
  split at h
  · cases h
  · next name named =>
      split at h
      · cases h
      · next built =>
          cases h
          exact ⟨name, named, built⟩

theorem derive_of_build (named : moduleName convert d.name = .ok name)
    (built : build convert d name = .ok m) : derive convert d = .ok m := by
  rw [derive, named]
  dsimp only
  rw [built]

/-- A module has a function for each field that is not skipped, in their order, and behind them the
one for the entity itself. The entity has an identity if one field is marked as it, skipped or not.
All of this is the same however the attributes are written. -/
theorem derive_declared (h : derive convert d = .ok m) :
    ∃ fields comma, d.body = .struct (.named fields comma) ∧
      m.lexemes = d.pathMod m.name
          ((fields.filter fun f => !f.isMarked "skip").flatMap
            (fun f => d.fieldFn f (f.expression convert d.style)) ++ d.thisFn) ++
        d.identityImpl (fields.filter (·.isMarked "id")) ∧
      ∀ d', d.Rewritten ["safepred"] d' → derive convert d' = .ok m := by
  obtain ⟨name, named, built⟩ := build_of_derive h
  obtain ⟨fields, comma, s, paths, body, settings, made⟩ := exists_of_build built
  obtain ⟨visibility, title, owner, accessors, identity⟩ := eq_of_build body built
  have functions : m.accessors.flatMap (accessorLexemes d.owner) =
      (fields.filter fun f => !f.isMarked "skip").flatMap fun f =>
        d.fieldFn f (f.expression convert d.style) := by
    rw [accessors, List.flatMap_map]
    exact List.flatMap_congr fun f _ => Declaration.accessorLexemes_eq ..
  refine ⟨fields, comma, body, ?_, ?_⟩
  · rw [Declaration.lexemes_eq owner visibility, functions, identity]
  · intro d' same
    have again : d'.name = d.name := by rw [same.rest]
    exact derive_of_build (again ▸ named) (build_of_rewritten same built)

end PathModule

namespace Bookshelf

open Attribute (listing)

def assigned (key text : String) : Phrase := .word key :: Lexeme.operator "=" ++ [.text text]

/-- A mark that is not shown but identifies the volume. -/
def shelfMark (attributes : List Attribute) : Field :=
  { attributes, name := { text := "shelf_mark" }, type := [.word "u32"] }

/-- A kind that was renamed twice. -/
def volumeKind (attributes : List Attribute) : Field :=
  { attributes := attributes ++ [listing "safepred" .round
      (assigned "rename" "kind" ++ Lexeme.operator "," ++ assigned "rename" "genre")]
    name := { text := "type", isRaw := true }
    type := [.word "String"] }

def readingTime : Field :=
  { attributes := [], name := { text := "reading_time" }, type := [.word "u64"] }

def volume (mark kind : List Attribute) : Declaration where
  attributes := [listing "safepred" .round (assigned "rename_all" "camelCase")]
  visibility := []
  name := { text := "Volume" }
  generics := {}
  body := .struct (.named [shelfMark mark, volumeKind kind, readingTime] true)

def hidden : List Attribute :=
  [listing "safepred" .round (.word "id" :: Lexeme.operator "," ++ [.word "skip"])]

/-- A volume with its entries in few attributes. -/
def shortVolume : Declaration := volume hidden []

/-- The same volume with an attribute for each entry and one for another reader. -/
def longVolume : Declaration :=
  volume [listing "safepred" .round [.word "id"], listing "safepred" .curly [.word "skip"]]
    [listing "serde" .round [.word "flatten"]]

theorem shortVolume_rewritten : shortVolume.Rewritten ["safepred"] longVolume where
  attributes _ _ := .refl _
  body := .struct true (.cons
    ⟨.cut [] [] .round .round .curly [.word "id"] (.mark ',' false) [.word "skip"] rfl rfl, rfl⟩
    (.cons ⟨.symm (.among [] _ rfl), rfl⟩ (.cons ⟨.refl _, rfl⟩ .nil)))
  rest := rfl

theorem shortVolume_declared :
    ∃ m, PathModule.ofDeclaration shortVolume = .ok m ∧
      m.lexemes = shortVolume.pathMod m.name
          (shortVolume.fieldFn (volumeKind []) "genre" ++
            shortVolume.fieldFn readingTime "readingTime" ++ shortVolume.thisFn) ++
        shortVolume.identityImpl [shelfMark hidden] ∧
      PathModule.ofDeclaration longVolume = .ok m := by
  obtain ⟨m, made⟩ : ∃ m, PathModule.ofDeclaration shortVolume = .ok m :=
    exists_eq_ok_of_isSome (by decide)
  obtain ⟨fields, comma, body, code, written⟩ := PathModule.derive_declared made
  cases body
  refine ⟨m, made, ?_, written _ shortVolume_rewritten⟩
  exact code

end Bookshelf

end Winnow
