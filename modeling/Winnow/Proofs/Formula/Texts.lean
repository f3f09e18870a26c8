import Winnow.Proofs.Formula.Comparing
import Winnow.Proofs.Predicate.Folding

/-!
Comparisons of a field with texts. With more modifiers more texts are taken for the same, so that
more elements are selected, but for the letters that are folded out of step.
-/

namespace Winnow

theorem Modifiers.folding_within {m n : Modifiers} (h : m.toList ⊆ n.toList) :
    m.folding.Within n.folding where
  case hm := by
    simp only [folding, contains, List.contains_iff_mem] at hm ⊢
    exact h hm
  diacritics hm := by
    simp only [folding, contains, List.contains_iff_mem] at hm ⊢
    exact h hm

inductive TextTest where
  | equal (r : String)
  | member (rs : List String)
  | contains (r : String)
  | beginsWith (r : String)
  | endsWith (r : String)

namespace TextTest

def operands : TextTest → List String
  | equal r => [r]
  | member rs => rs
  | contains r => [r]
  | beginsWith r => [r]
  | endsWith r => [r]

/-- A test that looks for a part of a text. -/
def seeksPart : TextTest → Bool
  | equal _ => false
  | member _ => false
  | _ => true

def comparison (m : Modifiers) : TextTest → Comparison
  | equal r => .matching .equal (.text r) m
  | member rs => .member (rs.map .text) m
  | contains r => .matching .contains (.text r) m
  | beginsWith r => .matching .beginsWith (.text r) m
  | endsWith r => .matching .endsWith (.text r) m

/-- What a test says of a text after folding. -/
def Holds (f : Folding) (l : String) : TextTest → Prop
  | equal r => f.fold r = f.fold l
  | member rs => ∃ r ∈ rs, f.fold r = f.fold l
  | contains r => f.fold r <:+: f.fold l
  | beginsWith r => f.fold r <+: f.fold l
  | endsWith r => f.fold r <:+ f.fold l

theorem accepts_comparison (m : Modifiers) (test : TextTest) (l : String) :
    (test.comparison m).accepts (.string l) ↔ test.Holds m.folding l := by
  have equal (r : String) :
      (Json.string l).equal m.folding (.string r) ↔ m.folding.fold r = m.folding.fold l :=
    beq_iff_eq.trans eq_comm
  cases test with
  | equal r => exact equal r
  | member rs =>
      rw [comparison, Comparison.accepts_member, List.any_map, List.any_eq_true]
      exact exists_congr fun r => and_congr_right fun _ => equal r
  | contains r => exact occursIn_iff
  | beginsWith r => exact List.isPrefixOf_iff_prefix
  | endsWith r => exact List.isSuffixOf_iff_suffix

/-- What is found after folding is found after folding more. -/
theorem holds_mono {f g : Folding} {test : TextTest} {l : String} (within : f.Within g)
    (inStep : ∀ r ∈ test.operands, f.InStep g r l)
    (settled : test.seeksPart → g.ignoresCase → ¬ f.ignoresCase →
      ∀ r ∈ test.operands, Text.settled [] r.toList) (h : test.Holds f l) : test.Holds g l := by
  have equal {r : String} (hr : f.InStep g r l) (same : f.fold r = f.fold l) :
      g.fold r = g.fold l :=
    Folding.fold_mono Folding.keeps_eq within (fun _ _ => trivial) hr same
  have settled (part : test.seeksPart) {r : String} (hr : r ∈ test.operands) :=
    fun more less => settled part more less r hr
  cases test with
  | equal r => exact equal (inStep r List.mem_cons_self) h
  | member rs =>
      obtain ⟨r, hr, same⟩ := h
      exact ⟨r, hr, equal (inStep r hr) same⟩
  | contains r =>
      exact Folding.fold_mono Folding.keeps_infix within (settled rfl List.mem_cons_self)
        (inStep r List.mem_cons_self) h
  | beginsWith r =>
      exact Folding.fold_mono Folding.keeps_prefix within (settled rfl List.mem_cons_self)
        (inStep r List.mem_cons_self) h
  | endsWith r =>
      exact Folding.fold_mono Folding.keeps_suffix within (settled rfl List.mem_cons_self)
        (inStep r List.mem_cons_self) h

end TextTest

namespace Clause

variable {α : Type} {document : α → Json} {elements : List α} {path : KeyPath}

/-- More modifiers select more elements. Where diacritics are only overlooked with more modifiers
and case is overlooked anyway, no two texts may have a capital that hides its diacritic and a letter
with the same small letter; and where a part is sought and case is only overlooked with more
modifiers, it has to be decided within the part whether its capital sigmas end words. -/
theorem select_more_modifiers {stored : α → String} (proper : isProper path.raw)
    (reach : ∀ x ∈ elements,
      resolve (document x) [] (fieldSteps none path.raw) = .ok (.string (stored x)))
    (test : TextTest) {m n : Modifiers} (more : m.toList ⊆ n.toList)
    (inStep : m.contains .caseInsensitive → n.contains .diacriticInsensitive →
      ¬ m.contains .diacriticInsensitive → ∀ x ∈ elements, ∀ r ∈ test.operands,
        Text.inStep (r.toList ++ (stored x).toList))
    (settled : test.seeksPart → n.contains .caseInsensitive → ¬ m.contains .caseInsensitive →
      ∀ r ∈ test.operands, Text.settled [] r.toList) :
    ∃ kept kept',
      (Query.ofTemplate (compare path (test.comparison m)).template).select document elements =
        .ok kept ∧
      (Query.ofTemplate (compare path (test.comparison n)).template).select document elements =
        .ok kept' ∧
      kept.Sublist kept' := by
  refine ⟨_, _, select_compare proper reach _, select_compare proper reach _, ?_⟩
  have grows : ∀ x ∈ elements, (test.comparison m).accepts (.string (stored x)) →
      (test.comparison n).accepts (.string (stored x)) := by
    intro x hx
    rw [TextTest.accepts_comparison, TextTest.accepts_comparison]
    exact TextTest.holds_mono (Modifiers.folding_within more)
      (fun r hr less more same => inStep less more same x hx r hr) settled
  have twice : (elements.filter fun x => (test.comparison m).accepts (.string (stored x))) =
      (elements.filter fun x => (test.comparison n).accepts (.string (stored x))).filter
        fun x => (test.comparison m).accepts (.string (stored x)) := by
    rw [List.filter_filter]
    refine List.filter_congr fun x hx => ?_
    rw [Bool.eq_iff_iff, Bool.and_eq_true]
    exact ⟨fun h => ⟨h, grows x hx h⟩, And.left⟩
  rw [twice]
  exact List.filter_sublist

end Clause

namespace Bookshelf

def titled (title : String) : Json := .object [("title", .string title)]

/-- A title with the diacritic that it has is found without looking at diacritics, too. -/
theorem naive_selected :
    isProper "title" ∧ [Modifier.caseInsensitive] ⊆ Modifiers.folded.toList ∧
      ∃ kept kept',
        (Query.ofTemplate (Clause.compare ⟨"title"⟩
            (.matching .contains (.text "NAÏVE") ⟨[.caseInsensitive]⟩)).template).select titled
          ["The Naïve Traveller", "Dune"] = .ok kept ∧
        (Query.ofTemplate (Clause.compare ⟨"title"⟩
            (.matching .contains (.text "NAÏVE") .folded)).template).select titled
          ["The Naïve Traveller", "Dune"] = .ok kept' ∧
        kept.Sublist kept' := by
  have proper : isProper "title" := by decide
  have steps : fieldSteps none "title" = ["title"] := by decide
  have more : [Modifier.caseInsensitive] ⊆ Modifiers.folded.toList := by decide
  have inStep : ∀ x ∈ ["The Naïve Traveller", "Dune"], ∀ r ∈ ["NAÏVE"],
      Text.inStep (r.toList ++ x.toList) := by decide +kernel
  exact ⟨proper, more, @Clause.select_more_modifiers String titled
    ["The Naïve Traveller", "Dune"] ⟨"title"⟩ id proper (fun _ _ => by rw [steps]; rfl)
    (.contains "NAÏVE") ⟨[.caseInsensitive]⟩ .folded more (fun _ _ _ => inStep)
    fun _ _ known => absurd rfl known⟩

end Bookshelf

end Winnow
