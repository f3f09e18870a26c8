import Winnow.Bookshelf
import Winnow.Proofs.Formula.Comparing
import Winnow.Proofs.Formula.Quantified
import Winnow.Proofs.Predicate.Letters

/-!
Modifiers in another order, or named more than once. They are written as they are listed, and what
is read from them is only which of them are listed. So the texts of two comparisons that differ in
this way differ in the letters between the brackets, and nothing else does.
-/

namespace Winnow

namespace Modifiers

variable {m n : Modifiers}

theorem code_injective : Function.Injective Modifier.code := by
  rintro (_ | _ | _) (_ | _ | _) h <;> first | rfl | cases h

/-- The letters in brackets, or nothing, for a list of modifiers. -/
theorem toList_encode (m : Modifiers) :
    m.encode.toList =
      if m.isEmpty then [] else '[' :: (m.toList.map Modifier.code ++ [']']) := by
  rw [encode]
  split
  · rfl
  · rw [String.toList_ofList, List.cons_append]

/-- Modifiers are known from the suffix that they are written as. -/
theorem encode_injective : Function.Injective encode := by
  rintro ⟨left⟩ ⟨right⟩ h
  have texts := congrArg String.toList h
  rw [toList_encode, toList_encode] at texts
  cases left with
  | nil =>
      cases right with
      | nil => rfl
      | cons => cases texts
  | cons first left =>
      cases right with
      | nil => cases texts
      | cons second right =>
          simp only [isEmpty, List.isEmpty_cons, Bool.false_eq_true, if_false,
            List.cons.injEq, true_and, List.append_cancel_right_eq] at texts
          exact congrArg mk (List.map_injective_iff.mpr code_injective texts)

theorem isEmpty_eq (same : ∀ o, o ∈ n.toList ↔ o ∈ m.toList) : n.isEmpty = m.isEmpty := by
  rw [Bool.eq_iff_iff, isEmpty, isEmpty, List.isEmpty_iff, List.isEmpty_iff,
    List.eq_nil_iff_forall_not_mem, List.eq_nil_iff_forall_not_mem]
  simp only [same]

theorem contains_eq (same : ∀ o, o ∈ n.toList ↔ o ∈ m.toList) (o : Modifier) :
    n.contains o = m.contains o := by
  rw [Bool.eq_iff_iff, contains, contains, List.contains_iff_mem, List.contains_iff_mem, same]

/-- The same modifiers can be exchanged for each other in a text. -/
theorem scansAlike_encode (same : ∀ o, o ∈ n.toList ↔ o ∈ m.toList) (front back : String) :
    Token.ScansAlike (front ++ m.encode ++ back).toList (front ++ n.encode ++ back).toList := by
  have mean (f : Folding) : Input.foldingOf {} (m.toList.map Modifier.code) = .ok f ↔
      Input.foldingOf {} (n.toList.map Modifier.code) = .ok f := by
    rw [foldingOf_codes, foldingOf_codes]
    have h := contains_eq same
    simp only [contains] at h
    rw [h, h]
  simp only [String.toList_append, toList_encode, isEmpty_eq same]
  split
  · exact .refl _
  · simpa using Token.scansAlike_letters m.not_mem_codes n.not_mem_codes mean front.toList

end Modifiers

namespace Comparison

/-- A comparison that takes modifiers with other ones. -/
def withModifiers (n : Modifiers) : Comparison → Comparison
  | matching test value _ => matching test value n
  | member values _ => member values n
  | between low high => between low high
  | ordered side value => ordered side value

variable {c : Comparison} {m n : Modifiers}

@[simp] theorem lead_withModifiers (n : Modifiers) (c : Comparison) :
    (c.withModifiers n).lead = c.lead := by
  cases c with
  | matching test value modifiers => cases test <;> rfl
  | _ => rfl

@[simp] theorem keyword_withModifiers (n : Modifiers) (c : Comparison) :
    (c.withModifiers n).keyword = c.keyword := by
  cases c <;> rfl

theorem arguments_withModifiers (n : Modifiers) (c : Comparison) (path : String) :
    ((c.withModifiers n).compile path).arguments = (c.compile path).arguments := by
  cases c <;> rfl

theorem modifiers?_withModifiers (takes : c.modifiers? = some m) (n : Modifiers) :
    (c.withModifiers n).modifiers? = some n := by
  cases c <;> first | rfl | cases takes

theorem withModifiers_withModifiers (takes : c.modifiers? = some m) (n : Modifiers) :
    (c.withModifiers n).withModifiers m = c := by
  cases c <;> cases takes <;> rfl

/-- The text of a comparison ends with its modifiers and a placeholder. -/
theorem render_compile (takes : c.modifiers? = some m) (path : KeyPath) :
    (c.compile path.raw).render =
      c.lead ++ path.expression ++ " " ++ c.keyword ++ m.encode ++ " ?" := by
  cases c with
  | matching test value modifiers | member values modifiers =>
      cases takes
      simp [Template.render_eq, compile, bindOperands, suffix, modifiers?, Segment.renderAt,
        Segment.render, KeyPath.expression, KeyPath.isElement, String.append_assoc]
  | between low high | ordered side value => cases takes

theorem folding_eq (takes : c.modifiers? = some m) : c.folding = m.folding := by
  cases c <;> cases takes <;> rfl

/-- Behind an operator its modifiers are read as what they overlook. -/
theorem readFolding_suffix (takes : c.modifiers? = some m) (arguments : List Json) :
    ∃ tokens left,
      Token.scanAll (c.keyword ++ m.encode ++ " ?").toList = .ok (c.operator :: tokens) ∧
        Input.relationOf c.operator = .ok c.relation ∧
        Input.readFolding ⟨tokens, arguments⟩ = .ok (m.folding, left) ∧
        left.val = ⟨[.placeholder], arguments⟩ := by
  have placeholder : Token.scanAll "?".toList = .ok [.placeholder] := by cbv
  have text : (Mark.operator c).text.toList = ' ' :: (c.keyword ++ m.encode).toList ++ [' '] := by
    simp [Mark.text, suffix, takes]
  have closed : ∀ d ∈ (Mark.operator c).text.toList.getLast?, d ∈ Token.closers := by
    rw [text, List.getLast?_concat]
    rintro d ⟨⟩
    decide
  have scanned := scanAll_ok_append (scanAll_operator c) placeholder (.inl closed)
  have reads := reads_folding [] arguments c
  have operands : c.operands.flatMap Piece.tokens = [.placeholder] := by
    cases c with
    | matching test value modifiers | member values modifiers => rfl
    | between low high | ordered side value => cases takes
  rw [operands, folding_eq takes] at reads
  obtain ⟨h, read⟩ := Input.readFolding_of_reads reads
  refine ⟨_, _, ?_, relationOf_operator c, read, rfl⟩
  rw [text, List.cons_append, List.cons_append, Token.scanAll_space] at scanned
  simpa [Mark.tokens, takes] using scanned

end Comparison

namespace Clause

variable {c : Comparison} {m n : Modifiers} {path : KeyPath}

theorem format_compare (takes : c.modifiers? = some m) (path : KeyPath) :
    (compare path c).format =
      c.lead ++ path.expression ++ " " ++ c.keyword ++ m.encode ++ " ?" :=
  Comparison.render_compile takes path

theorem format_withModifiers (takes : c.modifiers? = some m) (path : KeyPath) :
    (compare path (c.withModifiers n)).format =
      c.lead ++ path.expression ++ " " ++ c.keyword ++ n.encode ++ " ?" := by
  have text := format_compare (Comparison.modifiers?_withModifiers takes n) path
  rwa [Comparison.lead_withModifiers, Comparison.keyword_withModifiers] at text

theorem select_compare_eq {α : Type} (document : α → Json) (elements : List α) (path : KeyPath)
    (c : Comparison) :
    (Query.ofTemplate (compare path c).template).select document elements =
      select document (compare path c).format (compare path c).template.arguments elements :=
  (Query.Writes.ofTemplate (Template.Writes.compare path.raw c)).select_eq document elements

/-- What is selected with some modifiers is selected with the same ones in another order. -/
theorem select_withModifiers {α : Type} {document : α → Json} {elements kept : List α}
    (takes : c.modifiers? = some m) (same : ∀ o, o ∈ n.toList ↔ o ∈ m.toList)
    (selected : (Query.ofTemplate (compare path c).template).select document elements = .ok kept) :
    (Query.ofTemplate (compare path (c.withModifiers n)).template).select document elements =
      .ok kept := by
  have arguments : (compare path (c.withModifiers n)).template.arguments =
      (compare path c).template.arguments := c.arguments_withModifiers n path.raw
  rw [select_compare_eq, select] at selected ⊢
  rw [arguments]
  cases read : Predicate.ofText (compare path c).format (compare path c).template.arguments with
  | error e =>
      rw [read] at selected
      cases selected
  | ok p =>
      rw [read] at selected
      have texts := Modifiers.scansAlike_encode same
        (c.lead ++ path.expression ++ " " ++ c.keyword) " ?"
      rw [← format_compare takes, ← format_withModifiers takes] at texts
      rw [Predicate.ofText_of_scansAlike texts read]
      exact selected

/-- A comparison of a proper path is read with the differences that its modifiers name. -/
theorem ofText_compare (takes : c.modifiers? = some m) (proper : isProper path.raw) :
    Predicate.ofText (compare path c).format (compare path c).template.arguments =
      .ok (.compare c.isAny (.path (fieldSteps none path.raw)) c.relation m.folding c.operand) := by
  have asks := Template.Asks.compare proper c
  rw [← Comparison.folding_eq takes]
  exact asks.writes.ofText asks.proper

/-- Modifiers in another order, or named more than once, change the text of a comparison between
the brackets and nothing else: neither the arguments nor what is selected. They are known from the
letters there, and what a reader takes from these is which of the first two are listed. -/
theorem select_same_modifiers (takes : c.modifiers? = some m)
    (same : ∀ o, o ∈ n.toList ↔ o ∈ m.toList) (path : KeyPath) :
    (compare path (c.withModifiers n)).template.arguments =
        (compare path c).template.arguments ∧
      (∃ front, (compare path c).format = front ++ m.encode ++ " ?" ∧
        (compare path (c.withModifiers n)).format = front ++ n.encode ++ " ?") ∧
      (∀ (α : Type) (document : α → Json) (elements kept : List α),
        (Query.ofTemplate (compare path (c.withModifiers n)).template).select document elements =
            .ok kept ↔
          (Query.ofTemplate (compare path c).template).select document elements = .ok kept) ∧
      (isProper path.raw → ∀ (α : Type) (document : α → Json) (elements : List α), ∃ kept,
        (Query.ofTemplate (compare path c).template).select document elements = .ok kept) ∧
      (∀ others : Modifiers, others.encode = m.encode → others = m) ∧
      ∃ folding : Folding, (folding.ignoresCase ↔ .caseInsensitive ∈ m.toList) ∧
        (folding.ignoresDiacritics ↔ .diacriticInsensitive ∈ m.toList) ∧
        (∀ arguments, ∃ tokens left,
          Token.scanAll (c.keyword ++ m.encode ++ " ?").toList = .ok (c.operator :: tokens) ∧
            Input.relationOf c.operator = .ok c.relation ∧
            Input.readFolding ⟨tokens, arguments⟩ = .ok (folding, left) ∧
            left.val = ⟨[.placeholder], arguments⟩) ∧
        (isProper path.raw →
          Predicate.ofText (compare path c).format (compare path c).template.arguments =
            .ok (.compare c.isAny (.path (fieldSteps none path.raw)) c.relation folding
              c.operand)) := by
  refine ⟨c.arguments_withModifiers n path.raw,
    ⟨_, format_compare takes path, format_withModifiers takes path⟩, ?_, ?_,
    fun others written => Modifiers.encode_injective written, m.folding, ?_, ?_,
    Comparison.readFolding_suffix takes, ofText_compare takes⟩
  · refine fun α document elements kept => ⟨fun selected => ?_, select_withModifiers takes same⟩
    have back := select_withModifiers (Comparison.modifiers?_withModifiers takes n)
      (fun o => (same o).symm) selected
    rwa [Comparison.withModifiers_withModifiers takes] at back
  · intro proper α document elements
    choose value reach using fun x => exists_field (document x) (isPath_of_isProper proper)
    exact ⟨_, select_compare proper (fun x _ => reach x) c⟩
  · rw [Modifiers.folding, Modifiers.contains, List.contains_iff_mem]
  · rw [Modifiers.folding, Modifiers.contains, Modifiers.contains, List.contains_iff_mem]

end Clause

namespace Bookshelf

def naiveTitle : Comparison := .matching .equal (.text "naive") .folded

def refolded : Modifiers := ⟨[.diacriticInsensitive, .caseInsensitive, .diacriticInsensitive]⟩

theorem naiveTitle_refolded :
    (Clause.compare .element (naiveTitle.withModifiers refolded)).format = "SELF =[dcd] ?" ∧
      (Query.ofTemplate (Clause.compare .element
          (naiveTitle.withModifiers refolded)).template).select Json.string
          ["Naïve", "native", "NAIVE"] =
        .ok ["Naïve", "NAIVE"] := by
  have same : ∀ o, o ∈ refolded.toList ↔ o ∈ Modifiers.folded.toList := by
    rintro (_ | _ | _) <;> decide
  obtain ⟨-, -, selected, -⟩ :=
    @Clause.select_same_modifiers naiveTitle .folded refolded rfl same .element
  refine ⟨rfl, (selected String .string _ _).mpr ?_⟩
  rw [naiveTitle, Clause.select_compare (by decide) fun _ _ => rfl]
  decide +kernel

end Bookshelf

end Winnow
