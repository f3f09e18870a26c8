import Mathlib.Data.List.Find
import Winnow.Lexeme.Basic
import Winnow.Proofs.Text.Identifier
import Winnow.Text.Words

/-!
Names made of words. The words of a name are not empty, and together they are the name without its
separators. So the words of an identifier, joined by underscores, are an identifier unless there is
none or the first one begins with what cannot begin an identifier. This needs to be known of a
conversion only, and not where its words end.
-/

namespace Winnow

namespace Text

/-! ### The clusters of a text -/

theorem flatten_clusters (text : List Char) : (clusters text).flatten = text := by
  induction text with
  | nil => rfl
  | cons c rest ih =>
      rw [clusters]
      split
      · next none =>
          rw [none] at ih
          rw [← ih]
          rfl
      · next g others found =>
          rw [found] at ih
          split <;> simp [← ih]

theorem ne_nil_of_mem_clusters {text g : List Char} (h : g ∈ clusters text) : g ≠ [] := by
  induction text generalizing g with
  | nil => cases h
  | cons c rest ih =>
      rw [clusters] at h
      split at h
      · simp_all
      · next first others found =>
          rw [found] at ih
          split at h
          · rcases List.mem_cons.mp h with rfl | h
            · exact List.cons_ne_nil _ _
            · exact ih (List.mem_cons_of_mem _ h)
          · rcases List.mem_cons.mp h with rfl | h
            · exact List.cons_ne_nil _ _
            · exact ih h

/-- An underscore under an accent is not the separator. -/
example : clusters "_\u0301x".toList = [['_', '\u0301'], ['x']] := by decide

/-- What is first in a list of filled lists is first when they are joined. -/
theorem head?_flatten_of_filled {gs : List (List Char)} (h : ∀ g ∈ gs, g ≠ []) :
    gs.flatten.head? = gs.head?.bind List.head? := by
  cases gs with
  | nil => rfl
  | cons g others =>
      obtain ⟨c, rest, rfl⟩ := List.exists_cons_of_ne_nil (h g List.mem_cons_self)
      rfl

/-! ### The words of a name -/

theorem flatten_pieces (gs : List (List Char)) :
    (pieces gs).flatten = (gs.filter (!isSeparator ·)).flatten := by
  induction gs with
  | nil => rfl
  | cons g rest ih =>
      rw [pieces.eq_def]
      dsimp only
      cases separates : isSeparator g with
      | true => simpa [separates] using ih
      | false =>
          rw [List.filter_cons_of_pos (by rw [separates]; rfl), List.flatten_cons, ← ih,
            if_neg Bool.false_ne_true]
          cases pieces rest with
          | nil => simp
          | cons word words =>
              refine (apply_ite List.flatten _ _ _).trans ?_
              simp

/-- What is assumed of a conversion: it takes a name apart at its underscores and drops empty words,
nothing else of the name is lost, and the words are written in lower case with underscores between
them where this is asked for. -/
structure Conversion.SplitsWords (convert : Conversion)
    (graphemes words : List Char → List (List Char)) : Prop where
  flatten_graphemes : ∀ text, (graphemes text).flatten = text
  ne_nil_of_mem_graphemes : ∀ {text g}, g ∈ graphemes text → g ≠ []
  flatten_words : ∀ {name}, name.all isIdentifierPart →
    (words name).flatten = ((graphemes name).filter (· != ['_'])).flatten
  ne_nil_of_mem_words : ∀ {name word}, word ∈ words name → word ≠ []
  snake : ∀ name : String,
    convert .snake name = String.ofList (List.intercalate ['_'] ((words name.toList).map lower))

/-- Of the separators, only the underscore is for identifiers. -/
theorem isSeparator_of_isIdentifierPart {g : List Char} (h : g.all isIdentifierPart) :
    isSeparator g = (g == ['_']) := by
  have apart {d : Char} (hd : isIdentifierPart d = false) : (g == [d]) = false := by
    rw [beq_eq_false_iff_ne]
    rintro rfl
    rw [List.all_cons, hd] at h
    cases h
  rw [isSeparator, apart (d := '-') (by decide), apart (d := ' ') (by decide), Bool.or_false,
    Bool.or_false]

theorem NameStyle.convert_splitsWords :
    Conversion.SplitsWords NameStyle.convert clusters words where
  flatten_graphemes := flatten_clusters
  ne_nil_of_mem_graphemes := ne_nil_of_mem_clusters
  flatten_words := by
    intro name parts
    rw [words, List.flatten_filter_not_isEmpty, flatten_pieces]
    congr 1
    apply List.filter_congr
    intro g hg
    have part : g.all isIdentifierPart := by
      rw [List.all_eq_true] at parts ⊢
      intro c hc
      exact parts c (flatten_clusters name ▸ List.mem_flatten_of_mem hg hc)
    rw [isSeparator_of_isIdentifierPart part]
    rfl
  ne_nil_of_mem_words := by
    rintro name word h rfl
    cases (List.mem_filter.mp h).2
  snake _ := rfl

namespace Conversion.SplitsWords

variable {convert : Conversion} {graphemes words : List Char → List (List Char)}
  (splits : convert.SplitsWords graphemes words) {name : String}
  (parts : name.toList.all isIdentifierPart)
include splits parts

theorem all_of_mem_words {word : List Char} (h : word ∈ words name.toList) :
    word.all isIdentifierPart := by
  rw [List.all_eq_true] at parts ⊢
  intro c hc
  have kept : c ∈ ((graphemes name.toList).filter (· != ['_'])).flatten :=
    splits.flatten_words (List.all_eq_true.mpr parts) ▸ List.mem_flatten_of_mem h hc
  obtain ⟨g, hg, hc⟩ := List.mem_flatten.mp kept
  have whole := List.mem_flatten_of_mem (List.mem_filter.mp hg).1 hc
  rw [splits.flatten_graphemes] at whole
  exact parts c whole

/-- The first word begins the way the first grapheme does that is not the separator. -/
theorem head?_words :
    (words name.toList).head?.bind List.head? =
      ((graphemes name.toList).find? (· != ['_'])).bind List.head? := by
  have filled : ∀ g ∈ (graphemes name.toList).filter (· != ['_']), g ≠ [] := fun g hg =>
    splits.ne_nil_of_mem_graphemes (List.mem_filter.mp hg).1
  rw [← head?_flatten_of_filled fun _ => splits.ne_nil_of_mem_words, splits.flatten_words parts,
    head?_flatten_of_filled filled, List.head?_filter]

end Conversion.SplitsWords

/-! ### Words joined by underscores -/

theorem intercalate_lower_cons (word : List Char) (others : List (List Char)) :
    List.intercalate ['_'] ((word :: others).map lower) =
      lower word ++ others.flatMap fun other => '_' :: lower other := by
  induction others generalizing word with
  | nil => simp [List.intercalate]
  | cons next others ih =>
      rw [List.map_cons, List.map_cons, List.intercalate_cons_cons, ← List.map_cons, ih next,
        List.append_assoc]
      rfl

end Text

/-- The words that are reserved in code. One of them is not yet known to all readers. -/
def Lexeme.keywords : List String := "gen" :: reservedWords

namespace Text.Conversion.SplitsWords

variable {convert : Conversion} {graphemes words : List Char → List (List Char)}
  (splits : convert.SplitsWords graphemes words) {name : String}
  (parts : name.toList.all isIdentifierPart)
include splits parts

/-- An identifier written with underscores between its words is an identifier if and only if its
first grapheme that is no separator begins identifiers. -/
theorem isIdentifier_snake :
    isIdentifier (convert .snake name).toList =
      ((graphemes name.toList).find? (· != ['_'])).any fun g => g.head?.any isIdentifierStart := by
  have first := splits.head?_words parts
  have any {o : Option (List Char)} : (o.any fun g => g.head?.any isIdentifierStart) =
      (o.bind List.head?).any isIdentifierStart := by
    cases o <;> rfl
  rw [splits.snake, String.toList_ofList, any, ← first]
  cases split : words name.toList with
  | nil => rfl
  | cons word others =>
      have mem : word ∈ words name.toList := split ▸ List.mem_cons_self
      obtain ⟨c, rest, rfl⟩ := List.exists_cons_of_ne_nil (splits.ne_nil_of_mem_words mem)
      obtain ⟨d, more, image, same, small⟩ := exists_lower (splits.all_of_mem_words parts mem)
      have joined : (others.flatMap fun other => '_' :: lower other).all isIdentifierPart := by
        rw [List.all_flatMap, List.all_eq_true]
        intro other ho
        have part := splits.all_of_mem_words parts (split ▸ List.mem_cons_of_mem _ ho)
        exact all_lowerAfter part []
      rw [intercalate_lower_cons, image, List.cons_append, isIdentifier, List.all_append, small,
        joined, same]
      simp

/-- A name written with underscores is a keyword if and only if it has one word, which is one in
lower case: no keyword has an underscore beside other characters. -/
theorem snake_mem_keywords :
    convert .snake name ∈ Lexeme.keywords ↔
      ∃ word, words name.toList = [word] ∧ String.ofList (lower word) ∈ Lexeme.keywords := by
  have joints : ∀ word ∈ Lexeme.keywords, '_' ∈ word.toList → word.toList.length = 1 := by
    decide
  rw [splits.snake]
  cases split : words name.toList with
  | nil => simp [Lexeme.keywords, Lexeme.reservedWords]
  | cons word others =>
      cases others with
      | nil => simp
      | cons next others =>
          have mem : word ∈ words name.toList := split ▸ List.mem_cons_self
          obtain ⟨c, rest, rfl⟩ := List.exists_cons_of_ne_nil (splits.ne_nil_of_mem_words mem)
          obtain ⟨d, more, image, -, -⟩ := exists_lower (splits.all_of_mem_words parts mem)
          refine iff_of_false (fun reserved => ?_) (by simp)
          have single := joints _ reserved
          rw [intercalate_lower_cons, image, String.toList_ofList] at single
          simp at single

end Text.Conversion.SplitsWords

end Winnow
