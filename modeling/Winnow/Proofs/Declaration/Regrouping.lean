import Winnow.Declaration.Binding
import Winnow.Proofs.Declaration.Settings

/-!
How attributes are written. The entries of a name can be put into one attribute or spread over
several, with other attributes between them: as long as they stay in their order, they settle the
same. What is said about a key several times is settled by the entry that comes last.
-/

namespace Winnow

/-- The second computation gives what the first one gives, wherever the first one succeeds. -/
def Refines {ε α : Type} (x y : Except ε α) : Prop := ∀ a, x = .ok a → y = .ok a

namespace Refines

variable {ε α β : Type}

theorem refl (x : Except ε α) : Refines x x := fun _ h => h

theorem error (e : ε) (y : Except ε α) : Refines (.error e) y := by
  rintro a ⟨⟩

theorem bind {x y : Except ε α} {f g : α → Except ε β} (first : Refines x y)
    (next : ∀ a, Refines (f a) (g a)) : Refines (x >>= f) (y >>= g) := by
  intro b h
  obtain ⟨a, hx, hf⟩ := bind_eq_ok h
  rw [first a hx]
  exact next a b hf

/-- A reader goes on in the same way after a step that is the same. -/
theorem reading_bind {m : Reading α} {f g : α → Reading β}
    (next : ∀ a c, Refines (f a c) (g a c)) (c : Cursor) : Refines ((m >>= f) c) ((m >>= g) c) :=
  Refines.bind (Refines.refl (m c)) fun found => next found.1 found.2

end Refines

namespace Entry

variable {e e' : Entry}

/-! ### Entries with and without a comma -/

/-- Only a fault of an entry depends on whether a comma follows. -/
theorem refines_run {α : Type} (reader reader' : Reading α)
    (h : ∀ c, Refines (reader c) (reader' c)) (lexemes : List Lexeme) :
    Refines (e.run reader lexemes) (e'.run reader' lexemes) := by
  intro found run
  rw [Entry.run, Reading.run, StateT.run] at run ⊢
  cases read : reader { lexemes } with
  | error fault =>
      rw [read] at run
      cases fault <;> cases run
  | ok result =>
      rw [read] at run
      rw [h _ result read]
      exact run

theorem refines_readKey (same : e.lexemes = e'.lexemes) (c : Cursor) :
    Refines (e.readKey c) (e'.readKey c) := by
  rw [readKey, readKey, same]
  apply Refines.reading_bind
  intro root c
  apply Refines.reading_bind
  intro isNamed c
  cases isNamed with
  | true => exact Refines.refl _
  | false =>
      -- There is no path, so whatever is said about the entry is a fault.
      apply Refines.reading_bind
      intro isEmpty c
      cases isEmpty with
      | true => cases e.hasComma <;> exact Refines.error _ _
      | false =>
          apply Refines.reading_bind
          intro isLiteral c
          cases isLiteral <;> exact Refines.error _ _

theorem refines_key (same : e.lexemes = e'.lexemes) : Refines e.key e'.key := by
  rw [key, key, same]
  exact refines_run _ _ (refines_readKey same) _

theorem refines_text (rest : List Lexeme) : Refines (e.text rest) (e'.text rest) :=
  refines_run _ _ (fun _ => Refines.refl _) rest

theorem refines_library (rest : List Lexeme) : Refines (e.library rest) (e'.library rest) :=
  Refines.bind (refines_text rest) fun _ => Refines.refl _

/-! ### Entries in lists -/

/-- The lexemes are those of some entries, without a comma after the last one. -/
def closes (lexemes : List Lexeme) : Bool := lexemes.getLast?.any fun last => !isComma last

theorem split_ne_nil {lexemes : List Lexeme} (h : lexemes ≠ []) : split lexemes ≠ [] := by
  cases lexemes with
  | nil => exact absurd rfl h
  | cons first rest =>
      rw [split]
      split
      · exact List.cons_ne_nil _ _
      · split <;> exact List.cons_ne_nil _ _

/-- A comma after some entries stands between them and those that follow. -/
theorem map_lexemes_split {front : List Lexeme} (h : closes front) {comma : Lexeme}
    (separates : isComma comma) (back : List Lexeme) :
    (split (front ++ comma :: back)).map lexemes =
      (split front).map lexemes ++ (split back).map lexemes := by
  induction front with
  | nil => cases h
  | cons first front ih =>
      cases front with
      | nil =>
          have other : isComma first = false := by simpa [closes] using h
          simp [split, other, separates]
      | cons second front =>
          have rest := ih (by simpa [closes, List.getLast?_cons] using h)
          rw [List.cons_append, split, split.eq_def (first :: second :: front)]
          dsimp only
          by_cases comma' : isComma first = true
          · rw [if_pos comma', if_pos comma', List.map_cons, rest]
            rfl
          · rw [if_neg comma', if_neg comma']
            obtain ⟨e, others, found⟩ :=
              List.exists_cons_of_ne_nil (split_ne_nil (List.cons_ne_nil second front))
            rw [found] at rest ⊢
            cases whole : split (second :: front ++ comma :: back) with
            | nil =>
                rw [whole] at rest
                cases rest
            | cons e' others' =>
                rw [whole] at rest
                obtain ⟨same, others⟩ := List.cons.inj rest
                exact congrArg₂ List.cons (congrArg (first :: ·) same) others

end Entry

namespace Attribute

def listing (name : String) (brackets : Brackets) (content : List Lexeme) : Attribute :=
  ⟨[.word name], .list brackets content⟩

/-- Attributes with the same entries of a name in the same order. -/
inductive Regrouped (name : String) : List Attribute → List Attribute → Prop
  | refl (attributes : List Attribute) : Regrouped name attributes attributes
  | symm {attributes others : List Attribute} :
      Regrouped name attributes others → Regrouped name others attributes
  | trans {attributes others more : List Attribute} :
      Regrouped name attributes others → Regrouped name others more → Regrouped name attributes more
  /-- Other attributes may stand anywhere. -/
  | among (before after : List Attribute) {a : Attribute} :
      a.isNamed name = false → Regrouped name (before ++ a :: after) (before ++ after)
  /-- An attribute may have no entries. -/
  | empty (before after : List Attribute) (brackets : Brackets) :
      Regrouped name (before ++ listing name brackets [] :: after) (before ++ after)
  /-- The entries on both sides of a comma may stand in one attribute or in two. -/
  | cut (before after : List Attribute) (whole left right : Brackets) (front : List Lexeme)
      (comma : Lexeme) (back : List Lexeme) : Entry.closes front → Entry.isComma comma →
      Regrouped name (before ++ listing name whole (front ++ comma :: back) :: after)
        (before ++ listing name left front :: listing name right back :: after)

variable {σ : Type} {name : String} {apply : σ → Entry → Except DeriveFault σ}
  {attributes others : List Attribute} {s s' : σ}

theorem isNamed_listing (name : String) (brackets : Brackets) (content : List Lexeme) :
    (listing name brackets content).isNamed name := beq_self_eq_true name

theorem settings_append (before after : List Attribute) :
    settings name apply s (before ++ after) =
      settings name apply s before >>= fun t => settings name apply t after := by
  rw [settings, List.filter_append, List.foldlM_append]
  rfl

theorem settings_cons_of_named {a : Attribute} (h : a.isNamed name) (rest : List Attribute) :
    settings name apply s (a :: rest) =
      (a.entries name >>= fun entries => entries.foldlM apply s) >>= fun t =>
        settings name apply t rest := by
  rw [settings, List.filter_cons, if_pos h, List.foldlM_cons]
  rfl

theorem settings_cons_of_not_named {a : Attribute} (h : a.isNamed name = false)
    (rest : List Attribute) : settings name apply s (a :: rest) = settings name apply s rest := by
  rw [settings, settings, List.filter_cons, h]
  rfl

theorem settings_listing (brackets : Brackets) (content : List Lexeme) (rest : List Attribute) :
    settings name apply s (listing name brackets content :: rest) =
      (Entry.split content).foldlM apply s >>= fun t => settings name apply t rest :=
  settings_cons_of_named (isNamed_listing name brackets content) rest

section Regrouped

variable (plain : ∀ s e e', e.lexemes = e'.lexemes → Refines (apply s e) (apply s e'))
include plain

theorem refines_foldlM {entries entries' : List Entry}
    (same : entries.map Entry.lexemes = entries'.map Entry.lexemes) :
    Refines (entries.foldlM apply s) (entries'.foldlM apply s) := by
  induction entries generalizing entries' s with
  | nil =>
      rw [List.map_eq_nil_iff.mp same.symm]
      exact Refines.refl _
  | cons e rest ih =>
      obtain ⟨e', rest', rfl, here, there⟩ := List.map_eq_cons_iff.mp same.symm
      rw [List.foldlM_cons, List.foldlM_cons]
      exact Refines.bind (plain s e e' here.symm) fun t => ih there.symm

/-- Attributes that are regrouped settle the same. -/
theorem Regrouped.settings_eq_ok_iff (h : Regrouped name attributes others) :
    settings name apply s attributes = .ok s' ↔ settings name apply s others = .ok s' := by
  induction h generalizing s s' with
  | refl => exact Iff.rfl
  | symm _ ih => exact ih.symm
  | trans _ _ first second => exact first.trans second
  | among before after other =>
      rw [settings_append, settings_append]
      simp only [settings_cons_of_not_named other]
  | empty before after brackets =>
      rw [settings_append, settings_append]
      simp only [settings_listing]
      rfl
  | cut before after whole left right front comma back closed separates =>
      have same := Entry.map_lexemes_split closed separates back
      rw [← List.map_append] at same
      have spread (t : σ) : settings name apply t (listing name left front ::
          listing name right back :: after) =
            (Entry.split front ++ Entry.split back).foldlM apply t >>= fun u =>
              settings name apply u after := by
        simp only [settings_listing, List.foldlM_append, bind_assoc]
      rw [settings_append, settings_append]
      simp only [settings_listing, spread]
      constructor
      · exact Refines.bind (Refines.refl _)
          (fun t => Refines.bind (refines_foldlM plain same) fun u => Refines.refl _) s'
      · exact Refines.bind (Refines.refl _)
          (fun t => Refines.bind (refines_foldlM plain same.symm) fun u => Refines.refl _) s'

end Regrouped

end Attribute

/-! ### Entries of types, fields and variants -/

section Apply

variable {e e' : Entry}

theorem StructSettings.refines_apply (s : StructSettings) (same : e.lexemes = e'.lexemes) :
    Refines (s.apply e) (s.apply e') := by
  apply Refines.bind (Entry.refines_key same)
  rintro ⟨key, rest⟩
  dsimp only
  split
  · exact Refines.bind (Entry.refines_text rest) fun _ => Refines.refl _
  · split
    · exact Refines.bind (Entry.refines_library rest) fun _ => Refines.refl _
    · exact Refines.refl _

theorem FieldSettings.refines_apply (s : FieldSettings) (same : e.lexemes = e'.lexemes) :
    Refines (s.apply e) (s.apply e') := by
  apply Refines.bind (Entry.refines_key same)
  rintro ⟨key, rest⟩
  dsimp only
  split
  · exact Refines.refl _
  split
  · exact Refines.refl _
  split
  · exact Refines.bind (Entry.refines_text rest) fun _ => Refines.refl _
  · exact Refines.refl _

theorem refines_applyEnumEntry (library : Option Phrase) (same : e.lexemes = e'.lexemes) :
    Refines (applyEnumEntry library e) (applyEnumEntry library e') := by
  apply Refines.bind (Entry.refines_key same)
  rintro ⟨key, rest⟩
  dsimp only
  split
  · exact Refines.bind (Entry.refines_library rest) fun _ => Refines.refl _
  · exact Refines.refl _

theorem refines_applyVariantEntry (text : String) (same : e.lexemes = e'.lexemes) :
    Refines (applyVariantEntry text e) (applyVariantEntry text e') := by
  apply Refines.bind (Entry.refines_key same)
  rintro ⟨key, rest⟩
  dsimp only
  split
  · exact Refines.bind (Entry.refines_text rest) fun _ => Refines.refl _
  · exact Refines.refl _

theorem refines_applyLayoutEntry (integer : Option String) (same : e.lexemes = e'.lexemes) :
    Refines (applyLayoutEntry integer e) (applyLayoutEntry integer e') :=
  Refines.bind (Entry.refines_key same) fun _ => Refines.refl _

end Apply

/-! ### What is said last -/

def Entry.value? (key : String) (e : Entry) : Option Entry.TextValue :=
  match e.key with
  | .ok (some found, rest) =>
    if found = key then (e.text rest).toOption.map (·.1) else none
  | _ => none

namespace Attribute

def entriesOf (name : String) (attributes : List Attribute) : List Entry :=
  (attributes.filter (·.isNamed name)).flatMap fun a => (a.entries name).toOption.getD []

/-- The texts that attributes of a name assign to a key, in their order. -/
def values (name key : String) (attributes : List Attribute) : List Entry.TextValue :=
  (entriesOf name attributes).filterMap (Entry.value? key)

variable {σ : Type} {name : String} {apply : σ → Entry → Except DeriveFault σ}
  {attributes : List Attribute} {s s' : σ}

theorem Lists.flatten_eq {lists : List (List Entry)} (h : Lists name attributes lists) :
    lists.flatten = entriesOf name attributes := by
  unfold Lists at h
  rw [entriesOf]
  generalize attributes.filter (·.isNamed name) = named at h ⊢
  induction h with
  | nil => rfl
  | cons found _ ih =>
      rw [List.flatten_cons, List.flatMap_cons, found, ih]
      rfl

theorem foldlM_entriesOf (h : settings name apply s attributes = .ok s') :
    (entriesOf name attributes).foldlM apply s = .ok s' := by
  obtain ⟨lists, found, h⟩ := exists_lists_of_settings h
  rwa [← found.flatten_eq]

/-- What only some entries settle is settled by the last of them. -/
theorem last_of_foldlM {α β : Type} (part : σ → β) (write : Entry → Option α) (make : α → β)
    (step : ∀ {s s' : σ} {e : Entry},
      apply s e = .ok s' → part s' = (write e).elim (part s) make)
    {entries : List Entry} (h : entries.foldlM apply s = .ok s') :
    part s' = (entries.filterMap write).getLast?.elim (part s) make := by
  induction entries generalizing s with
  | nil =>
      cases h
      rfl
  | cons e rest ih =>
      rw [List.foldlM_cons] at h
      obtain ⟨next, made, h⟩ := bind_eq_ok h
      rw [ih h, step made, List.filterMap_cons]
      cases write e with
      | none => rfl
      | some a => rw [List.getLast?_cons]; cases (rest.filterMap write).getLast? <;> rfl

theorem forall_of_foldlM {P : Entry → Prop}
    (step : ∀ {s s' : σ} {e : Entry}, apply s e = .ok s' → P e) {entries : List Entry}
    (h : entries.foldlM apply s = .ok s') : ∀ e ∈ entries, P e := by
  induction entries generalizing s with
  | nil => simp
  | cons e rest ih =>
      rw [List.foldlM_cons] at h
      obtain ⟨next, made, h⟩ := bind_eq_ok h
      exact List.forall_mem_cons.mpr ⟨step made, ih h⟩

end Attribute

namespace Entry

variable {e : Entry}

/-- The library that an entry names is the path that its text states. -/
theorem exists_of_library {rest : List Lexeme} {library : Phrase}
    (h : e.library rest = .ok library) :
    ∃ value rest', e.text rest = .ok (value, rest') ∧ value.path = .ok library := by
  obtain ⟨⟨value, rest'⟩, text, h⟩ := bind_eq_ok h
  dsimp only at h
  split at h
  · cases h
  · next path found =>
      obtain ⟨_, -, h⟩ := bind_eq_ok h
      cases h
      exact ⟨value, rest', text, found⟩

theorem value?_of_key {key : String} {rest rest' : List Lexeme} {value : TextValue}
    (found : e.key = .ok (some key, rest)) (text : e.text rest = .ok (value, rest')) :
    e.value? key = some value := by
  rw [value?, found]
  dsimp only
  rw [if_pos rfl, text]
  rfl

theorem value?_of_other {key other : String} {rest : List Lexeme}
    (found : e.key = .ok (some other, rest)) (h : other ≠ key) : e.value? key = none := by
  rw [value?, found]
  exact if_neg h

end Entry

namespace Declaration

/-- The library that the attributes of a type name last, or the one that is meant otherwise. -/
def library (d : Declaration) : Phrase :=
  ((Attribute.values "safepred" "crate" d.attributes).getLast?.bind fun value =>
    value.path.toOption).getD [.mark ':' true, .mark ':' false, .name false "safepred"]

/-- The type that paths begin at and values are bound of. -/
def owner (d : Declaration) : Owner := ⟨d.name, d.generics, d.library⟩

end Declaration

/-! ### Declarations with regrouped attributes -/

structure Field.Rewritten (f g : Field) : Prop where
  attributes : Attribute.Regrouped "safepred" f.attributes g.attributes
  rest : g = { f with attributes := g.attributes }

structure EnumVariant.Rewritten (v w : EnumVariant) : Prop where
  attributes : Attribute.Regrouped "safepred" v.attributes w.attributes
  rest : w = { v with attributes := w.attributes }

inductive Body.Rewritten : Body → Body → Prop
  | struct {fields others : List Field} (endsWithComma : Bool) :
      List.Forall₂ Field.Rewritten fields others →
      Body.Rewritten (.struct (.named fields endsWithComma)) (.struct (.named others endsWithComma))
  | enum {variants others : List EnumVariant} (endsWithComma : Bool) :
      List.Forall₂ EnumVariant.Rewritten variants others →
      Body.Rewritten (.enum variants endsWithComma) (.enum others endsWithComma)

/-- A declaration with the same entries, of which those of the type are in attributes of some
names. -/
structure Declaration.Rewritten (names : List String) (d d' : Declaration) : Prop where
  attributes : ∀ name ∈ names, Attribute.Regrouped name d.attributes d'.attributes
  body : d.body.Rewritten d'.body
  rest : d' = { d with attributes := d'.attributes, body := d'.body }

end Winnow
