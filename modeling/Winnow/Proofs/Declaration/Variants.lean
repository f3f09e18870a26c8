import Winnow.Proofs.Declaration.Code

/-!
How the variants of an enum are bound. All of them are bound as numbers of one integer type if the
enum has one, and all by name otherwise. The attributes of variants matter only in the second case:
an enum with an integer type is accepted whatever is said about its variants.
-/

namespace Winnow

def Entry.integer? (e : Entry) : Option String :=
  match e.key with
  | .ok (some text, _) =>
    if text ∈ ["i8", "i16", "i32", "i64", "i128", "isize",
        "u8", "u16", "u32", "u64", "u128", "usize"] then some text else none
  | _ => none

/-- The integer type that the attributes of an enum name last. -/
def Declaration.integer (d : Declaration) : Option String :=
  ((Attribute.entriesOf "repr" d.attributes).filterMap Entry.integer?).getLast?

theorem exists_of_applyEnumEntry {library library' : Option Phrase} {e : Entry}
    (h : applyEnumEntry library e = .ok library') :
    ∃ rest value rest' path, e.key = .ok (some "crate", rest) ∧ e.text rest = .ok (value, rest') ∧
      value.path = .ok path ∧ library' = some path := by
  obtain ⟨⟨found, rest⟩, key, h⟩ := bind_eq_ok h
  dsimp only at h
  split at h
  · next crate =>
      obtain ⟨path, named, h⟩ := bind_eq_ok h
      cases h
      obtain ⟨value, rest', text, stated⟩ := Entry.exists_of_library named
      exact ⟨rest, value, rest', path, crate ▸ key, text, stated, rfl⟩
  · cases h

theorem exists_of_applyVariantEntry {text text' : String} {e : Entry}
    (h : applyVariantEntry text e = .ok text') :
    ∃ rest value rest', e.key = .ok (some "rename", rest) ∧ e.text rest = .ok (value, rest') ∧
      text' = value.text := by
  obtain ⟨⟨found, rest⟩, key, h⟩ := bind_eq_ok h
  dsimp only at h
  split at h
  · next rename =>
      obtain ⟨⟨value, rest'⟩, assigned, h⟩ := bind_eq_ok h
      obtain ⟨_, -, h⟩ := bind_eq_ok h
      cases h
      exact ⟨rest, value, rest', rename ▸ key, assigned, rfl⟩
  · cases h

theorem applyLayoutEntry_eq {integer integer' : Option String} {e : Entry}
    (h : applyLayoutEntry integer e = .ok integer') :
    integer' = e.integer?.elim integer some := by
  obtain ⟨⟨found, rest⟩, key, h⟩ := bind_eq_ok h
  rw [Entry.integer?, key]
  dsimp only at h
  -- Arguments may follow the path of the entry, and they settle nothing.
  cases found with
  | none =>
      split at h
      all_goals
        obtain ⟨_, -, h⟩ := bind_eq_ok h
        cases h
        rfl
  | some text =>
      split at h
      all_goals
        obtain ⟨_, -, h⟩ := bind_eq_ok h
        cases h
        simp only [List.contains_iff_mem, integerTypes]
        split <;> rfl

namespace Declaration

variable {d : Declaration}

theorem enumLibrary_eq {library : Option Phrase}
    (h : Attribute.settings "safepred" applyEnumEntry none d.attributes = .ok library) :
    library.getD Phrase.library = d.library := by
  have last := Attribute.last_of_foldlM id (Entry.value? "crate")
    (fun value => value.path.toOption) ?_ (Attribute.foldlM_entriesOf h)
  · rw [← id_eq library, last, Declaration.library, Attribute.values]
    cases List.getLast? _ <;> rfl
  · intro s s' e made
    obtain ⟨rest, value, rest', path, found, text, stated, rfl⟩ := exists_of_applyEnumEntry made
    rw [Entry.value?_of_key found text, Option.elim_some, stated]
    rfl

theorem integer_eq {integer : Option String}
    (h : Attribute.settings "repr" applyLayoutEntry none d.attributes = .ok integer) :
    integer = d.integer := by
  have last := Attribute.last_of_foldlM id Entry.integer? some
    (fun made => applyLayoutEntry_eq made) (Attribute.foldlM_entriesOf h)
  rw [← id_eq integer, last, Declaration.integer]
  cases List.getLast? _ <;> rfl

end Declaration

namespace EnumVariant

variable {v w : EnumVariant} {integer : Option String} {c : BindingCase}

/-- The name that the variant is bound to: the last text that renames it, or its own. -/
def boundName (v : EnumVariant) : String :=
  ((Attribute.values "safepred" "rename" v.attributes).getLast?.map (·.text)).getD v.name.text

/-- What the variant is bound to in an enum that may have an integer type. -/
def form (v : EnumVariant) : Option String → BoundForm
  | some integer => .discriminant integer
  | none => .name v.boundName

def bindingCase (integer : Option String) (v : EnumVariant) : BindingCase :=
  ⟨v.name, v.form integer⟩

/-- An entry of the variant does something else than renaming it by a text. -/
def hasStrangeEntry (v : EnumVariant) : Bool :=
  (Attribute.entriesOf "safepred" v.attributes).any fun e => (e.value? "rename").isNone

def bare (v : EnumVariant) : EnumVariant := { v with attributes := [] }

theorem boundName_of_settings {text : String}
    (h : Attribute.settings "safepred" applyVariantEntry v.name.text v.attributes = .ok text) :
    text = v.boundName := by
  have last := Attribute.last_of_foldlM id (Entry.value? "rename") Entry.TextValue.text ?_
    (Attribute.foldlM_entriesOf h)
  · rw [← id_eq text, last, boundName, Attribute.values]
    cases List.getLast? _ <;> rfl
  · intro s s' e made
    obtain ⟨rest, value, rest', found, text, rfl⟩ := exists_of_applyVariantEntry made
    rw [Entry.value?_of_key found text]
    rfl

/-- A variant is bound by name only if all that is said about it are its names. -/
theorem hasStrangeEntry_of_settings {text : String}
    (h : Attribute.settings "safepred" applyVariantEntry v.name.text v.attributes = .ok text) :
    v.hasStrangeEntry = false := by
  rw [hasStrangeEntry, List.any_eq_false]
  apply Attribute.forall_of_foldlM (P := fun e => ¬ (e.value? "rename").isNone) ?_
    (Attribute.foldlM_entriesOf h)
  intro s s' e made
  obtain ⟨rest, value, rest', found, text, -⟩ := exists_of_applyVariantEntry made
  rw [Entry.value?_of_key found text]
  exact Bool.false_ne_true

/-- `Self::… => …,` -/
def arm (d : Declaration) (v : EnumVariant) : Phrase :=
  let variant : Phrase :=
    [.name false "Self", .mark ':' true, .mark ':' false, .name v.name.isRaw v.name.text]
  variant ++ [.mark '=' true, .mark '>' false] ++
    (match d.integer with
    | some integer =>
      d.bindCall [.group .round (variant ++ [.name false "as", .name false integer])]
    | none =>
      d.library ++ Phrase.members ["Argument", "String"] ++
        [.group .round (Phrase.members ["std", "string", "String", "from"] ++
          [.group .round [Phrase.quoted v.boundName]])]) ++
    [.mark ',' false]

theorem caseLexemes_eq (d : Declaration) (v : EnumVariant) :
    EnumBinding.caseLexemes d.owner (v.bindingCase d.integer) = v.arm d := by
  rw [EnumBinding.caseLexemes, bindingCase, form.eq_def, arm]
  cases d.integer with
  | some integer =>
      simp [EnumBinding.formLexemes, Declaration.owner_bindCall, Lexeme.word, Lexeme.operator,
        Lexeme.operatorMarks, Identifier.lexeme]
  | none =>
      simp [EnumBinding.formLexemes, Declaration.owner, Phrase.member_eq, Phrase.call,
        Phrase.members, Phrase.text_eq, Lexeme.word, Lexeme.operator, Lexeme.operatorMarks,
        Identifier.lexeme]

open EnumBinding (caseOf)

theorem of_caseOf (h : caseOf integer v = .ok c) :
    v.fields = .unit ∧ c = v.bindingCase integer ∧
      (integer = none → v.hasStrangeEntry = false) := by
  unfold caseOf at h
  split at h
  · next integer' unit =>
      cases h
      exact ⟨unit, rfl, fun none => by cases none⟩
  · next unit =>
      obtain ⟨text, settings, h⟩ := bind_eq_ok h
      cases h
      refine ⟨unit, ?_, fun _ => hasStrangeEntry_of_settings settings⟩
      rw [bindingCase, form, boundName_of_settings settings]
  · cases h

theorem caseOf_of_unit (unit : v.fields = .unit) (integer : String) :
    caseOf (some integer) v = .ok (v.bindingCase (some integer)) := by
  unfold caseOf
  rw [unit]
  rfl

theorem caseOf_of_rewritten (same : v.Rewritten w) (h : caseOf integer v = .ok c) :
    caseOf integer w = .ok c := by
  have name : w.name = v.name := by rw [same.rest]
  have fields : w.fields = v.fields := by rw [same.rest]
  unfold caseOf at h ⊢
  rw [fields, name]
  split at h
  · exact h
  · obtain ⟨text, settings, h⟩ := bind_eq_ok h
    cases h
    rw [(same.attributes.settings_eq_ok_iff
      fun s _ _ => refines_applyVariantEntry s).mp settings]
    rfl
  · cases h

end EnumVariant

namespace EnumBinding

variable {d : Declaration} {b : EnumBinding}

theorem exists_of_ofDeclaration (h : ofDeclaration d = .ok b) :
    ∃ variants comma library, d.body = .enum variants comma ∧ variants ≠ [] ∧
      Attribute.settings "safepred" applyEnumEntry none d.attributes = .ok library ∧
      Attribute.settings "repr" applyLayoutEntry none d.attributes = .ok d.integer ∧
      variants.mapM (caseOf d.integer) = .ok b.cases ∧ b.owner = d.owner := by
  obtain ⟨variants, declared, h⟩ := bind_eq_ok h
  obtain ⟨library, settings, h⟩ := bind_eq_ok h
  obtain ⟨integer, layout, h⟩ := bind_eq_ok h
  obtain ⟨cases', made, h⟩ := bind_eq_ok h
  cases h
  rw [variantsOf.eq_def] at declared
  split at declared
  · cases declared
  · next found comma nonempty body =>
      cases declared
      refine ⟨variants, comma, library, body, nonempty, settings, ?_, ?_, ?_⟩
      · rw [layout, ← Declaration.integer_eq layout]
      · rw [← Declaration.integer_eq layout]
        exact made
      · rw [Declaration.owner, ← Declaration.enumLibrary_eq settings]
  · cases declared

variable {variants : List EnumVariant} {comma : Bool}

theorem variantsOf_eq (body : d.body = .enum variants comma) (h : variants ≠ []) :
    variantsOf d.body = .ok variants := by
  rw [body]
  cases variants with
  | nil => exact absurd rfl h
  | cons v rest => rfl

theorem ofDeclaration_of_cases (body : d.body = .enum variants comma) (h : variants ≠ [])
    {library : Option Phrase} {integer : Option String} {cases' : List BindingCase}
    (settings : Attribute.settings "safepred" applyEnumEntry none d.attributes = .ok library)
    (layout : Attribute.settings "repr" applyLayoutEntry none d.attributes = .ok integer)
    (made : variants.mapM (caseOf integer) = .ok cases') :
    ofDeclaration d = .ok ⟨⟨d.name, d.generics, library.getD Phrase.library⟩, cases'⟩ := by
  rw [ofDeclaration, variantsOf_eq body h, settings, layout]
  simp only [bind, Except.bind, made]
  rfl

theorem ofDeclaration_of_rewritten {d' : Declaration} (same : d.Rewritten ["safepred", "repr"] d')
    (h : ofDeclaration d = .ok b) : ofDeclaration d' = .ok b := by
  obtain ⟨variants, comma, library, body, nonempty, settings, layout, made, owner⟩ :=
    exists_of_ofDeclaration h
  have parts := same.body
  rw [body] at parts
  generalize body' : d'.body = written at parts
  cases parts with
  | @enum _ others _ variants' =>
      have settings' := ((same.attributes "safepred" (by simp)).settings_eq_ok_iff
        fun s _ _ => refines_applyEnumEntry s).mp settings
      have layout' := ((same.attributes "repr" (by simp)).settings_eq_ok_iff
        fun s _ _ => refines_applyLayoutEntry s).mp layout
      have nonempty' : others ≠ [] := by
        rintro rfl
        cases variants'
        exact nonempty rfl
      have made' : others.mapM (caseOf d.integer) = .ok b.cases :=
        mapM_of_forall₂ variants' made fun _ _ _ => EnumVariant.caseOf_of_rewritten
      have name : d'.name = d.name := by rw [same.rest]
      have generics : d'.generics = d.generics := by rw [same.rest]
      rw [ofDeclaration_of_cases body' nonempty' settings' layout' made', name, generics,
        Declaration.enumLibrary_eq settings]
      show Except.ok (⟨d.owner, b.cases⟩ : EnumBinding) = Except.ok b
      rw [← owner]

theorem exists_variants (h : ofDeclaration d = .ok b) :
    ∃ variants comma, d.body = .enum variants comma ∧ variants ≠ [] ∧
      (∀ v ∈ variants, v.fields = .unit ∧ (d.integer = none → v.hasStrangeEntry = false)) ∧
      b.cases = variants.map (EnumVariant.bindingCase d.integer) ∧ b.owner = d.owner := by
  obtain ⟨variants, comma, library, body, nonempty, settings, layout, made, owner⟩ :=
    exists_of_ofDeclaration h
  refine ⟨variants, comma, body, nonempty, ?_,
    eq_map_of_mapM (fun v c found => (EnumVariant.of_caseOf found).2.1) made, owner⟩
  intro v hv
  obtain ⟨c, found⟩ := exists_of_mapM made hv
  obtain ⟨unit, -, named⟩ := EnumVariant.of_caseOf found
  exact ⟨unit, named⟩

theorem exists_error_of_forall_ne (h : ∀ b, ofDeclaration d ≠ .ok b) :
    ∃ fault, ofDeclaration d = .error fault := by
  cases outcome : ofDeclaration d with
  | error fault => exact ⟨fault, rfl⟩
  | ok b => exact absurd outcome (h b)

/-- All variants of an enum are bound, in their order and under their names: as numbers of the
integer type that the enum names last, if it names one, and all by name otherwise. This is the same
however the attributes are written. An enum without variants or with fields is refused. -/
theorem ofDeclaration_uniform (d : Declaration) :
    (∀ b, ofDeclaration d = .ok b → ∃ variants comma, d.body = .enum variants comma ∧
      b.lexemes = d.bindImpl
        [.name false "match", .name false "self", .group .curly (variants.flatMap (·.arm d))] ∧
      ∀ d', d.Rewritten ["safepred", "repr"] d' → ofDeclaration d' = .ok b) ∧
    ∀ variants comma, d.body = .enum variants comma →
      (variants = [] → ofDeclaration d = .error .noVariant) ∧
      ((∃ v ∈ variants, v.fields ≠ .unit) → ∃ fault, ofDeclaration d = .error fault) := by
  constructor
  · intro b h
    obtain ⟨variants, comma, body, -, -, cases', owner⟩ := exists_variants h
    have arms : b.cases.flatMap (caseLexemes d.owner) = variants.flatMap (·.arm d) := by
      rw [cases', List.flatMap_map]
      exact List.flatMap_congr fun v _ => v.caseLexemes_eq d
    refine ⟨variants, comma, body, ?_, fun d' same => ofDeclaration_of_rewritten same h⟩
    rw [lexemes, owner, arms, Declaration.owner_bindImplementation]
    rfl
  · intro variants comma body
    constructor
    · rintro rfl
      rw [ofDeclaration, body]
      rfl
    · rintro ⟨v, hv, fields⟩
      apply exists_error_of_forall_ne
      intro b h
      obtain ⟨variants', comma', body', -, units, -⟩ := exists_variants h
      rw [body] at body'
      cases body'
      exact fields (units v hv).1

end EnumBinding

namespace Bookshelf

open Attribute (listing)

/-- Two integer types with an alignment between them. -/
def mixedLayout : List Lexeme :=
  [.word "u8", .mark ',' false, .word "align", .group .round [.literal .number "4"],
    .mark ',' false, .word "i32"]

def lowLevel : EnumVariant where
  attributes := [listing "safepred" .round [.word "rename", .mark '=' false, .text "low"]]
  name := { text := "Low" }
  fields := .unit

def typeLevel : EnumVariant where
  attributes := []
  name := { text := "type", isRaw := true }
  fields := .unit

def levels (attributes : List Attribute) : Declaration where
  attributes
  visibility := []
  name := { text := "Level" }
  generics := {}
  body := .enum [lowLevel, typeLevel] true

/-- Levels with their layout in one attribute. -/
def shortLevels : Declaration :=
  levels [listing "repr" .round (.word "C" :: .mark ',' false :: mixedLayout)]

/-- The same levels with their layout in two attributes. -/
def longLevels : Declaration :=
  levels [listing "repr" .round [.word "C"], listing "repr" .round mixedLayout]

theorem shortLevels_rewritten : shortLevels.Rewritten ["safepred", "repr"] longLevels where
  attributes := by
    intro name hn
    rcases List.mem_pair.mp hn with rfl | rfl
    · exact .trans (.among [] [] rfl) (.symm (.trans (.among [] _ rfl) (.among [] [] rfl)))
    · exact .cut [] [] .round .round .round [.word "C"] (.mark ',' false) mixedLayout rfl rfl
  body := .enum true (.cons ⟨.refl _, rfl⟩ (.cons ⟨.refl _, rfl⟩ .nil))
  rest := rfl

theorem shortLevels_uniform :
    (∃ b, EnumBinding.ofDeclaration shortLevels = .ok b ∧ shortLevels.integer = some "i32" ∧
      b.lexemes = shortLevels.bindImpl [.name false "match", .name false "self",
        .group .curly (lowLevel.arm shortLevels ++ typeLevel.arm shortLevels)] ∧
      EnumBinding.ofDeclaration longLevels = .ok b) ∧
    ∃ b, EnumBinding.ofDeclaration (levels []) = .ok b ∧ (levels []).integer = none ∧
      b.lexemes = (levels []).bindImpl [.name false "match", .name false "self",
        .group .curly (lowLevel.arm (levels []) ++ typeLevel.arm (levels []))] ∧
      lowLevel.boundName = "low" ∧ typeLevel.boundName = "type" := by
  constructor
  · obtain ⟨b, made⟩ : ∃ b, EnumBinding.ofDeclaration shortLevels = .ok b :=
      exists_eq_ok_of_isSome (by decide)
    obtain ⟨variants, comma, body, code, written⟩ :=
      (EnumBinding.ofDeclaration_uniform shortLevels).1 b made
    cases body
    exact ⟨b, made, by decide, code, written _ shortLevels_rewritten⟩
  · obtain ⟨b, made⟩ : ∃ b, EnumBinding.ofDeclaration (levels []) = .ok b :=
      exists_eq_ok_of_isSome (by decide)
    obtain ⟨variants, comma, body, code, -⟩ :=
      (EnumBinding.ofDeclaration_uniform (levels [])).1 b made
    cases body
    exact ⟨b, made, by decide, code, by decide, by decide⟩

end Bookshelf

namespace EnumBinding

variable {d : Declaration} {variants : List EnumVariant} {comma : Bool}

/-- With an integer type only the attributes of the enum itself are read. -/
theorem ofDeclaration_of_integer (body : d.body = .enum variants comma) (nonempty : variants ≠ [])
    (units : ∀ v ∈ variants, v.fields = .unit) {integer : String}
    (known : d.integer = some integer) :
    ofDeclaration d = do
      let library ← Attribute.settings "safepred" applyEnumEntry none d.attributes
      let _ ← Attribute.settings "repr" applyLayoutEntry none d.attributes
      return ⟨⟨d.name, d.generics, library.getD Phrase.library⟩,
        variants.map (EnumVariant.bindingCase (some integer))⟩ := by
  have made : variants.mapM (caseOf (some integer)) =
      .ok (variants.map (EnumVariant.bindingCase (some integer))) := by
    rw [mapM_eq_ok_iff, List.forall₂_map_right_iff, List.forall₂_same]
    exact fun v hv => EnumVariant.caseOf_of_unit (units v hv) integer
  rw [ofDeclaration, variantsOf_eq body nonempty]
  simp only [bind, Except.bind]
  cases Attribute.settings "safepred" applyEnumEntry none d.attributes with
  | error fault => rfl
  | ok library =>
      cases layout : Attribute.settings "repr" applyLayoutEntry none d.attributes with
      | error fault => rfl
      | ok found =>
          rw [Declaration.integer_eq layout, known]
          simp only [made]

/-- The integer type of an enum keeps what is said about its variants from being read: without one
the enum is refused for a strange entry of a variant, and with one the outcome is that for variants
without attributes. -/
theorem ofDeclaration_strange (body : d.body = .enum variants comma)
    (units : ∀ v ∈ variants, v.fields = .unit)
    (strange : ∃ v ∈ variants, v.hasStrangeEntry) :
    (d.integer = none → ∃ fault, ofDeclaration d = .error fault) ∧
    (d.integer ≠ none →
      ofDeclaration d =
          ofDeclaration { d with body := .enum (variants.map EnumVariant.bare) comma } ∧
        ((∃ b, ofDeclaration d = .ok b) ↔
          (∃ library,
            Attribute.settings "safepred" applyEnumEntry none d.attributes = .ok library) ∧
          ∃ integer,
            Attribute.settings "repr" applyLayoutEntry none d.attributes = .ok integer)) := by
  obtain ⟨v, hv, found⟩ := strange
  have nonempty : variants ≠ [] := List.ne_nil_of_mem hv
  constructor
  · intro none
    apply exists_error_of_forall_ne
    intro b h
    obtain ⟨variants', comma', body', -, named, -⟩ := exists_variants h
    rw [body] at body'
    cases body'
    rw [(named v hv).2 none] at found
    cases found
  · intro some
    obtain ⟨integer, known⟩ := Option.ne_none_iff_exists'.mp some
    have outcome := ofDeclaration_of_integer body nonempty units known
    constructor
    · have nonempty' : variants.map EnumVariant.bare ≠ [] := by simpa using nonempty
      have units' : ∀ v ∈ variants.map EnumVariant.bare, v.fields = .unit :=
        List.forall_mem_map.mpr units
      have bare :
          ofDeclaration { d with body := .enum (variants.map EnumVariant.bare) comma } = _ :=
        ofDeclaration_of_integer rfl nonempty' units' known
      rw [outcome, bare, List.map_map]
      rfl
    · rw [outcome]
      cases Attribute.settings "safepred" applyEnumEntry none d.attributes with
      | error fault => simp [bind, Except.bind]
      | ok library =>
          cases Attribute.settings "repr" applyLayoutEntry none d.attributes with
          | error fault => simp [bind, Except.bind]
          | ok found => simp [bind, Except.bind, pure, Except.pure]

end EnumBinding

namespace Bookshelf

open Attribute (listing)

/-- Something about a variant that no one knows. -/
def colouredVariant : EnumVariant where
  attributes := [listing "safepred" .round [.word "colour"]]
  name := { text := "Lent" }
  fields := .unit

def lending (attributes : List Attribute) : Declaration where
  attributes
  visibility := []
  name := { text := "Lending" }
  generics := {}
  body := .enum [colouredVariant] false

theorem lending_strange :
    (∃ b, EnumBinding.ofDeclaration (lending [listing "repr" .round [.word "u8"]]) = .ok b) ∧
      ∃ fault, EnumBinding.ofDeclaration (lending []) = .error fault := by
  have units : ∀ v ∈ [colouredVariant], v.fields = .unit := by simp [colouredVariant]
  have strange : ∃ v ∈ [colouredVariant], v.hasStrangeEntry := by decide
  have numbered := EnumBinding.ofDeclaration_strange
    (d := lending [listing "repr" .round [.word "u8"]]) rfl units strange
  have named := EnumBinding.ofDeclaration_strange (d := lending []) rfl units strange
  have integer : (lending [listing "repr" .round [.word "u8"]]).integer ≠ none := by decide
  exact ⟨(numbered.2 integer).2.mpr ⟨⟨none, rfl⟩, ⟨some "u8", rfl⟩⟩, named.1 (by decide)⟩

end Bookshelf

end Winnow
