import Winnow.Proofs.Formula.Comparing
import Winnow.Proofs.Formula.Quantified

/-!
Membership in a collection. That some item equals a value can be asked of the items directly, of the
collection as what contains the value, and by a subquery that keeps the items that equal it. The
three ways select the same elements.
-/

namespace Winnow

namespace Comparison

/-- Some item of a collection is compared, if there are any. -/
theorem accepts_anyEqual {v : Json} {items : List Json} (found : collectionItems v = .ok items)
    (value : Value) (m : Modifiers) :
    (matching .anyEqual value m).accepts v =
      items.any (·.equal m.folding value.bind.toJson) := by
  cases v with
  | array values =>
      cases found
      rfl
  | null =>
      cases found
      rfl
  | _ => cases found

/-- An array contains a value if some item equals it. -/
theorem accepts_contains_array (items : List Json) (value : Value) (m : Modifiers) :
    (matching .contains value m).accepts (.array items) =
      items.any (·.equal m.folding value.bind.toJson) := rfl

end Comparison

/-- What gives items is an array of them, unless it is missing. -/
theorem eq_array_of_collectionItems {v : Json} {items : List Json}
    (found : collectionItems v = .ok items) (present : v ≠ .null) : v = .array items := by
  cases v with
  | array values =>
      cases found
      rfl
  | null => exact absurd rfl present
  | _ => cases found

/-- A comparison of an item is asked of the item. -/
theorem Comparison.holds_item (c : Comparison) (element item : Json) (scope : Scope) :
    ((Formula.leaf (.compare "" c)).predicate (some 0)).holds element
      ((Subquery.itemNameAt 0, item) :: scope) = .ok (c.accepts item) := by
  have found := @resolve_item element item ((Subquery.itemNameAt 0, item) :: scope) 0
    (List.lookup_cons_self ..) (.field "")
  have here : (Question.field "").names = [] := by decide
  rw [here, Json.walk_nil] at found
  rw [Formula.predicate, c.holds_predicate_eq]
  exact congrArg (Except.map c.accepts) found

/-- A subquery for some item compares the items of its collection one by one. -/
theorem Formula.holds_someItem {c : Comparison} {root : Root} {collection : String}
    {element reached : Json} {scope : Scope} {items : List Json}
    (reach : resolve element scope (fieldSteps root collection) = .ok reached)
    (found : collectionItems reached = .ok items) :
    ((subquery .any collection (.leaf (.compare "" c))).predicate root).holds element scope =
      .ok (items.any c.accepts) := by
  have kept : keepIf (fun item => ((leaf (.compare "" c)).predicate (some 0)).holds element
      ((Subquery.itemNameAt 0, item) :: scope)) items = .ok (items.filter c.accepts) :=
    keepIf_eq_filter fun item _ => c.holds_item element item scope
  have height : (leaf (.compare "" c)).height = 0 := rfl
  have number : (0 < (items.filter c.accepts).length) ↔ items.any c.accepts := by
    rw [List.length_pos_iff, ne_eq, List.filter_eq_nil_iff]
    simp
  rw [predicate, Predicate.holds, Expression.evaluate, height, reach]
  simp only [found, kept, Json.walk_count, Quantifier.total, Expression.evaluate,
    Quantifier.relation, Relation.holds, Json.order?_zero, number, Bool.decide_eq_true]
  rfl

namespace Clause

variable {α : Type} {document : α → Json} {elements : List α} {reached : α → Json}
  {items : α → List Json} {path : KeyPath}

/-- Whether some item of a collection equals a value, whether a subquery keeps an item that equals
it and whether the collection contains it select the same elements, and so do the first two where
there is no collection: then nothing is selected. -/
theorem select_items (proper : isProper path.raw)
    (reach : ∀ x ∈ elements, resolve (document x) [] (fieldSteps none path.raw) = .ok (reached x))
    (found : ∀ x ∈ elements, collectionItems (reached x) = .ok (items x)) (value : Value)
    (m : Modifiers) :
    ∃ kept, kept = elements.filter (fun x =>
        (items x).any (·.equal m.folding value.bind.toJson)) ∧
      (Query.ofTemplate (compare path (.matching .anyEqual value m)).template).select
        document elements = .ok kept ∧
      (Query.ofTemplate (Subquery.asking .any path
          (.clause (compare .element (.matching .equal value m)))).template).select
        document elements = .ok kept ∧
      ((∀ x ∈ elements, reached x ≠ .null) →
        (Query.ofTemplate (compare path (.matching .contains value m)).template).select
          document elements = .ok kept) := by
  refine ⟨_, rfl, ?_, ?_, fun present => ?_⟩
  · rw [select_compare proper reach]
    refine congrArg _ (List.filter_congr fun x hx => ?_)
    exact Comparison.accepts_anyEqual (found x hx) value m
  · have item : (Condition.clause (compare .element (.matching .equal value m))).template.Asks
        (.leaf (.compare "" (.matching .equal value m))) :=
      .compare (by decide) (.matching .equal value m)
    rw [(item.subquery .any proper).select]
    exact keepIf_eq_filter fun x hx => Formula.holds_someItem (reach x hx) (found x hx)
  · rw [select_compare proper reach]
    refine congrArg _ (List.filter_congr fun x hx => ?_)
    rw [eq_array_of_collectionItems (found x hx) (present x hx)]
    exact Comparison.accepts_contains_array (items x) value m

end Clause

namespace Bookshelf

def withTags (tags : List String) : Json := .object [("tags", .array (tags.map .string))]

def shelvedTags : List (List String) := [["sci-fi", "epic"], ["classic"], []]

theorem epic_selected :
    (Query.ofTemplate (Clause.compare ⟨"tags"⟩
        (.matching .anyEqual (.text "epic") .none)).template).select withTags shelvedTags =
      .ok [["sci-fi", "epic"]] ∧
    (Query.ofTemplate (Subquery.asking .any ⟨"tags"⟩
        (.clause (.compare .element (.matching .equal (.text "epic") .none)))).template).select
        withTags shelvedTags = .ok [["sci-fi", "epic"]] ∧
    (Query.ofTemplate (Clause.compare ⟨"tags"⟩
        (.matching .contains (.text "epic") .none)).template).select withTags shelvedTags =
      .ok [["sci-fi", "epic"]] := by
  obtain ⟨kept, rfl, anyEqual, asking, contains⟩ := @Clause.select_items _ withTags shelvedTags
    (fun tags => .array (tags.map .string)) (fun tags => tags.map .string) ⟨"tags"⟩
    (by decide) (fun _ _ => rfl) (fun _ _ => rfl) (.text "epic") .none
  have kept : shelvedTags.filter (fun tags => (tags.map Json.string).any
      (·.equal Modifiers.none.folding (Value.text "epic").bind.toJson)) = [["sci-fi", "epic"]] := by
    decide +kernel
  exact ⟨kept ▸ anyEqual, kept ▸ asking, kept ▸ contains fun _ _ => Json.noConfusion⟩

end Bookshelf

end Winnow
