import Winnow.Proofs.Formula.Numbers
import Winnow.Proofs.Predicate.Order

/-!
Order, equality and ranges in queries. Where a field has a number and the operands are numbers, or
both are texts, one order tells which elements are below an operand, equal to it or above it, and
which are between two of them.
-/

namespace Winnow

namespace Comparison

variable {v : Json} {value low high : Value} {o l h : Ordering}

theorem accepts_below_of_order (order : v.order? value.bind.toJson = some o) :
    (ordered .below value).accepts v = (o == .lt) := by
  rw [accepts_below, order]
  rfl

theorem accepts_above_of_order (order : v.order? value.bind.toJson = some o) :
    (ordered .above value).accepts v = (o == .gt) := by
  rw [accepts_above, order]
  rfl

section Comparable

variable (comparable : v.Comparable value.bind.toJson)
  (order : v.order? value.bind.toJson = some o)
include comparable order

theorem accepts_equal_of_order : (matching .equal value .none).accepts v = (o == .eq) := by
  rw [accepts_equal]
  exact comparable.equal_eq order

theorem accepts_notEqual_of_order :
    (matching .notEqual value .none).accepts v = (o == .lt || o == .gt) := by
  have equal := accepts_equal_of_order comparable order
  rw [accepts_equal] at equal
  rw [accepts_notEqual, equal]
  cases o <;> rfl

end Comparable

theorem accepts_between_of_order (below : v.order? low.bind.toJson = some l)
    (above : v.order? high.bind.toJson = some h) :
    (between low high).accepts v = (l != .lt && h != .gt) := by
  rw [accepts_between, Json.liesBetween_eq below above]

end Comparison

namespace Clause

variable {α : Type} {document : α → Json} {elements : List α} {value : α → Json} {path : KeyPath}
  {word : String}

/-- An element has one place with respect to an operand that its field can be compared with, and
every comparison selects by that place: below it, equal to it, above it, or not equal to it. A range
selects what is neither below its one end nor above the other, and so nothing if the ends are the
wrong way round. -/
theorem select_by_place (read : path.IsReadAs word)
    (reach : ∀ x ∈ elements, resolve (document x) [] (pathSteps word) = .ok (value x)) :
    ∃ place : Value → α → Ordering,
      (∀ v, (∀ x ∈ elements, (value x).Comparable v.bind.toJson) →
        (Query.ofTemplate (compare path (.ordered .below v)).template).select document elements =
          .ok (elements.filter fun x => place v x == .lt) ∧
        (Query.ofTemplate (compare path (.matching .equal v .none)).template).select
            document elements = .ok (elements.filter fun x => place v x == .eq) ∧
        (Query.ofTemplate (compare path (.ordered .above v)).template).select document elements =
          .ok (elements.filter fun x => place v x == .gt) ∧
        (Query.ofTemplate (compare path (.matching .notEqual v .none)).template).select
            document elements =
          .ok (elements.filter fun x => place v x == .lt || place v x == .gt)) ∧
      ∀ low high, (∀ x ∈ elements, (value x).Comparable low.bind.toJson) →
        (∀ x ∈ elements, (value x).Comparable high.bind.toJson) →
        (Query.ofTemplate (compare path (.between low high)).template).select document elements =
          .ok (elements.filter fun x => place low x != .lt && place high x != .gt) ∧
        (high.bind.toJson.order? low.bind.toJson = some .lt →
          (Query.ofTemplate (compare path (.between low high)).template).select
            document elements = .ok []) := by
  let place (v : Value) (x : α) : Ordering := ((value x).order? v.bind.toJson).getD .eq
  have order {v : Value} {x : α} (comparable : (value x).Comparable v.bind.toJson) :
      (value x).order? v.bind.toJson = some (place v x) := by
    obtain ⟨o, ho⟩ := comparable.exists_order?
    simp only [place, ho, Option.getD_some]
  have select (c : Comparison) {chosen : α → Bool}
      (same : ∀ x ∈ elements, c.accepts (value x) = chosen x) :
      (Query.ofTemplate (compare path c).template).select document elements =
        .ok (elements.filter chosen) := by
    rw [select_compare_word read reach c, List.filter_congr same]
  refine ⟨place, fun v comparable => ⟨?_, ?_, ?_, ?_⟩, fun low high below above => ?_⟩
  · exact select _ fun x hx => Comparison.accepts_below_of_order (order (comparable x hx))
  · exact select _ fun x hx =>
      Comparison.accepts_equal_of_order (comparable x hx) (order (comparable x hx))
  · exact select _ fun x hx => Comparison.accepts_above_of_order (order (comparable x hx))
  · exact select _ fun x hx =>
      Comparison.accepts_notEqual_of_order (comparable x hx) (order (comparable x hx))
  · have between := select (.between low high) fun x hx =>
      Comparison.accepts_between_of_order (order (below x hx)) (order (above x hx))
    refine ⟨between, fun reversed => between.trans ?_⟩
    rw [List.filter_eq_nil_iff.mpr]
    intro x hx inside
    rw [Bool.and_eq_true, bne_iff_ne, bne_iff_ne] at inside
    have past := Json.order?_eq_gt_of_lt reversed (order (below x hx)) inside.1 (above x hx)
    rw [order (above x hx)] at past
    exact inside.2 (Option.some.inj past)

end Clause

namespace Bookshelf

def lasting (seconds : JsonNumber) : Json := .object [("readingTime", .number seconds)]

/-- A whole number of seconds, and fractions that stand for three hours and for ten. -/
def mixedTimes : List JsonNumber := [.integer 9000, .float threeHours, .float tenHours]

theorem mixedTimes_by_place :
    (⟨"readingTime"⟩ : KeyPath).IsReadAs "readingTime" ∧
      (∀ x ∈ mixedTimes, (Json.number x).Comparable (Value.integer 10800).bind.toJson) ∧
      (∃ place : JsonNumber → Ordering,
        (Query.ofTemplate (Clause.compare ⟨"readingTime"⟩
            (.ordered .below (.integer 10800))).template).select lasting mixedTimes =
          .ok (mixedTimes.filter fun x => place x == .lt) ∧
        (Query.ofTemplate (Clause.compare ⟨"readingTime"⟩
            (.matching .equal (.integer 10800) .none)).template).select lasting mixedTimes =
          .ok (mixedTimes.filter fun x => place x == .eq)) ∧
      (Query.ofTemplate (Clause.compare ⟨"readingTime"⟩
          (.between (.double (.finite tenHours)) (.integer 10800))).template).select
        lasting mixedTimes = .ok [] := by
  have read : (⟨"readingTime"⟩ : KeyPath).IsReadAs "readingTime" :=
    KeyPath.isReadAs_expression (by decide)
  have steps : pathSteps "readingTime" = ["readingTime"] := by decide
  have whole : ∀ x ∈ mixedTimes, (Json.number x).Comparable (Value.integer 10800).bind.toJson :=
    fun x _ => .numbers x (.integer 10800)
  obtain ⟨place, places, ranges⟩ := @Clause.select_by_place _ lasting mixedTimes Json.number
    ⟨"readingTime"⟩ _ read fun x _ => by rw [steps]; rfl
  obtain ⟨below, equal, -⟩ := places _ whole
  obtain ⟨-, empty⟩ := ranges (.double (.finite tenHours)) (.integer 10800)
    (fun x _ => .numbers x (.float tenHours)) whole
  exact ⟨read, whole, ⟨place _, below, equal⟩, empty (by decide +kernel)⟩

end Bookshelf

end Winnow
