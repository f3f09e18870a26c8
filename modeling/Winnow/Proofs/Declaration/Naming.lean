import Winnow.Proofs.Declaration.Accessors
import Winnow.Proofs.Declaration.Source
import Winnow.Proofs.Text.Words

/-!
The names of modules. The module for the paths of a type is named with the words of the type's name
in lower case. Not every name has words, they may begin with a digit, and a single word may be
reserved.
-/

namespace Winnow

open Text

theorem head?_of_isIdentifier {text : List Char} (h : isIdentifier text) :
    text.head?.any (!·.isDigit) := by
  cases text with
  | nil => cases h
  | cons c rest =>
      rw [isIdentifier, Bool.and_eq_true] at h
      simpa using isDigit_of_isIdentifierStart h.1

theorem checkName_eq_ok_iff {text name : String} :
    checkName text = .ok name ↔ name = text ∧ isIdentifier text.toList := by
  rw [checkName]
  cases chars : text.toList with
  | nil => simp [← String.toList_eq_nil_iff, chars, isIdentifier]
  | cons c rest =>
      have filled : text.isEmpty = false := by
        rw [Bool.eq_false_iff]
        simp [← String.toList_eq_nil_iff, chars]
      rw [filled, if_neg Bool.false_ne_true]
      cases named : isIdentifier (c :: rest) with
      | true =>
          have letter : c.isDigit = false := by simpa using head?_of_isIdentifier named
          rw [List.all_cons, letter]
          simp [eq_comm]
      | false => split <;> simp

/-- What the name begins with after the underscores that stand alone begins identifiers. -/
def Identifier.namesModule (graphemes : List Char → List (List Char)) (i : Identifier) : Bool :=
  ((graphemes i.text.toList).find? (· != ['_'])).any fun g => g.head?.any isIdentifierStart

variable {convert : Conversion} {graphemes words : List Char → List (List Char)}

theorem moduleName_eq_ok_iff (splits : convert.SplitsWords graphemes words) {i : Identifier}
    (h : isIdentifier i.text.toList) {name : String} :
    moduleName convert i = .ok name ↔ name = convert .snake i.text ∧ i.namesModule graphemes := by
  rw [moduleName, checkName_eq_ok_iff, splits.isIdentifier_snake (all_of_isIdentifier h),
    Identifier.namesModule]

namespace PathModule

variable {d : Declaration}

theorem brokenOff_iff :
    (∃ fault, derive convert d = .error (.brokenOff fault)) ↔
      ¬ ∃ name, moduleName convert d.name = .ok name := by
  rw [derive]
  cases moduleName convert d.name with
  | error fault => simp
  | ok name => cases built : build convert d name <;> simp [built]

/-- The name of a declaration that a text states is not reserved unless it is raw, but not every
such name makes the name of a module: deriving breaks off if and only if what follows the
underscores of the name does not begin identifiers. The name of a module that is made is an
identifier. Yet it is not written raw, and it is a keyword if the name of the type is a single word
that is one in lower case. -/
theorem derive_named (splits : convert.SplitsWords graphemes words) {source : String}
    (h : Declaration.ofText? source = some d) :
    (d.name.isRaw || Lexeme.isFree d.name.text) ∧
      ((∃ fault, derive convert d = .error (.brokenOff fault)) ↔ ¬ d.name.namesModule graphemes) ∧
      ∀ m, derive convert d = .ok m →
        m.name = convert .snake d.name.text ∧
        (∃ content, [.name false "mod", .name false m.name, .group .curly content] <:+: m.lexemes) ∧
        isIdentifier m.name.toList ∧ m.name.toList.head?.any (!·.isDigit) ∧
        (m.name ∈ Lexeme.keywords ↔ ∃ word, words d.name.text.toList = [word] ∧
          String.ofList (lower word) ∈ Lexeme.keywords) := by
  obtain ⟨spelled, free⟩ := Declaration.name_of_ofText? h
  refine ⟨free, ?_, ?_⟩
  · rw [brokenOff_iff]
    simp only [moduleName_eq_ok_iff splits spelled, exists_eq_left]
  · intro m made
    obtain ⟨name, named, built⟩ := build_of_derive made
    obtain ⟨fields, comma, -, -, body, -, -⟩ := exists_of_build built
    obtain ⟨-, title, -, -, -⟩ := eq_of_build body built
    obtain ⟨legal, starts⟩ := (moduleName_eq_ok_iff splits spelled).mp named
    have stands : ∃ content,
        [.name false "mod", .name false m.name, .group .curly content] <:+: m.lexemes :=
      ⟨_, _, _, rfl⟩
    have identifier : isIdentifier m.name.toList := by
      rw [title, legal]
      exact (checkName_eq_ok_iff.mp named).2
    refine ⟨title.trans legal, stands, identifier, head?_of_isIdentifier identifier, ?_⟩
    rw [title, legal]
    exact splits.snake_mem_keywords (all_of_isIdentifier spelled)

end PathModule

namespace Bookshelf

/-- A type whose name has no words, and two whose only word is a keyword in lower case. -/
theorem types_named :
    (∃ d fault, Declaration.ofText? "struct __ \x7b a: u8 \x7d" = some d ∧
      PathModule.ofDeclaration d = .error (.brokenOff fault)) ∧
    (∃ d m, Declaration.ofText? "struct Type \x7b a: u8 \x7d" = some d ∧
      PathModule.ofDeclaration d = .ok m ∧ m.name ∈ Lexeme.keywords) ∧
    ∃ d m, Declaration.ofText? "struct Gen \x7b a: u8 \x7d" = some d ∧
      PathModule.ofDeclaration d = .ok m ∧ m.name ∈ Lexeme.keywords := by
  have keyword {source : String} (word : String)
      (single : (Declaration.ofText? source).any fun d =>
        (PathModule.ofDeclaration d).toOption.isSome && words d.name.text.toList == [word.toList])
      (reserved : String.ofList (lower word.toList) ∈ Lexeme.keywords) :
      ∃ d m, Declaration.ofText? source = some d ∧ PathModule.ofDeclaration d = .ok m ∧
        m.name ∈ Lexeme.keywords := by
    obtain ⟨d, stated, accepted⟩ := (Option.any_eq_true ..).mp single
    rw [Bool.and_eq_true, beq_iff_eq] at accepted
    obtain ⟨m, made⟩ := exists_eq_ok_of_isSome accepted.1
    obtain ⟨-, -, -, -, iff⟩ :=
      (PathModule.derive_named NameStyle.convert_splitsWords stated).2.2 m made
    exact ⟨d, m, stated, made, iff.mpr ⟨word.toList, accepted.2, reserved⟩⟩
  have blank :
      (Declaration.ofText? "struct __ \x7b a: u8 \x7d").any (!·.name.namesModule clusters) := by
    decide +kernel
  obtain ⟨d, stated, unnamed⟩ := (Option.any_eq_true ..).mp blank
  obtain ⟨fault, brokenOff⟩ :=
    (PathModule.derive_named NameStyle.convert_splitsWords stated).2.1.mpr (by simpa using unnamed)
  exact ⟨⟨d, fault, stated, brokenOff⟩,
    keyword "Type" (by decide +kernel) (by decide +kernel),
    keyword "Gen" (by decide +kernel) (by decide +kernel)⟩

end Bookshelf

end Winnow
