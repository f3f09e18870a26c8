import Winnow.Proofs.Formula.Selection

/-!
What a comparison of a field and a test of an aggregate select. Both are known from the value that
is found in each element.
-/

namespace Winnow

theorem Value.bindAll_eq_map (values : List Value) : bindAll values = values.map bind := by
  induction values with
  | nil => rfl
  | cons v rest ih => rw [bindAll, ih, List.map_cons]

theorem Argument.toJsonItems_eq_map (arguments : List Argument) :
    toJsonItems arguments = arguments.map toJson := by
  induction arguments with
  | nil => rfl
  | cons a rest ih => rw [toJsonItems, ih, List.map_cons]

namespace Comparison

/-- What a field is compared with: the value, or an array of them if there are several. -/
def operandValue : Comparison → Json
  | matching _ value _ => value.bind.toJson
  | member values _ => (Argument.list (Value.bindAll values)).toJson
  | between low high => .array [low.bind.toJson, high.bind.toJson]
  | ordered _ value => value.bind.toJson

/-- A comparison holds of the value of a field. -/
def accepts (c : Comparison) (v : Json) : Bool :=
  if c.isAny then (v.items?.getD []).any (c.relation.holds c.folding · c.operandValue)
  else c.relation.holds c.folding v c.operandValue

theorem evaluate_operand_eq (c : Comparison) (element : Json) (scope : Scope) :
    c.operand.evaluate element scope = .ok c.operandValue := by
  cases c <;> simp [operand, operandValue, Expression.evaluate, Expression.evaluateAll]

/-- A comparison is asked of the value that its path leads to. -/
theorem holds_compare (c : Comparison) (steps : List String) (element : Json) (scope : Scope) :
    (Predicate.compare c.isAny (.path steps) c.relation c.folding c.operand).holds element scope =
      (resolve element scope steps).map c.accepts := by
  rw [Predicate.holds, Expression.evaluate]
  cases resolve element scope steps with
  | error e => rfl
  | ok v =>
      rw [evaluate_operand_eq]
      rfl

theorem holds_predicate_eq (c : Comparison) (root : Root) (path : String) (element : Json)
    (scope : Scope) :
    ((Leaf.compare path c).predicate root).holds element scope =
      (resolve element scope (fieldSteps root path)).map c.accepts :=
  c.holds_compare (fieldSteps root path) element scope

section Single

variable (value low high : Value) (m : Modifiers) (v : Json)

theorem accepts_equal :
    (matching .equal value m).accepts v = v.equal m.folding value.bind.toJson := rfl

theorem accepts_notEqual :
    (matching .notEqual value m).accepts v = !v.equal m.folding value.bind.toJson := rfl

theorem accepts_below :
    (ordered .below value).accepts v = (v.order? value.bind.toJson == some .lt) := rfl

theorem accepts_above :
    (ordered .above value).accepts v = (v.order? value.bind.toJson == some .gt) := rfl

theorem accepts_between :
    (between low high).accepts v = v.liesBetween low.bind.toJson high.bind.toJson := rfl

end Single

/-- A value is one of several if it equals one of them. -/
theorem accepts_member (values : List Value) (m : Modifiers) (v : Json) :
    (member values m).accepts v =
      values.any fun value => v.equal (member values m).folding value.bind.toJson := by
  have items : (member values m).operandValue = .array (values.map fun v => v.bind.toJson) := by
    simp [operandValue, Argument.toJson, Value.bindAll_eq_map, Argument.toJsonItems_eq_map]
  simp only [accepts, isAny, Bool.false_eq_true, if_false, items, relation, Relation.holds,
    List.any_map]
  rfl

end Comparison

namespace AggregateTest

/-- What a function is compared with: the number that is read, or an array of them if there are
several. -/
def operandValue : AggregateTest → Json
  | above bound => .ofDouble bound.number
  | below bound => .ofDouble bound.number
  | equal value => .ofDouble value.number
  | between low high => .array [.ofDouble low.number, .ofDouble high.number]

/-- A test holds of the value of a function. -/
def accepts (test : AggregateTest) (v : Json) : Bool := test.relation.holds {} v test.operandValue

theorem evaluate_operand_eq (test : AggregateTest) (element : Json) (scope : Scope) :
    test.operand.evaluate element scope = .ok test.operandValue := by
  cases test <;> simp [operand, operandValue, Expression.evaluate, Expression.evaluateAll]

end AggregateTest

namespace KeyPath

/-- A query names what a path leads to by one word, and the word stands for nothing else. -/
structure IsReadAs (path : KeyPath) (word : String) : Prop where
  scan : Token.scanAll path.expression.toList = .ok [.word word]
  free : word ∉ reserved

variable {path : KeyPath} {word : String}

theorem isReadAs_expression (proper : isProper path.raw) : path.IsReadAs path.expression :=
  ⟨scanAll_of_isWord (isWord_fieldAt none proper), fieldAt_not_mem_reserved none proper⟩

/-- The number of tags is found under a path, although that is not one of names only. -/
example : (⟨"tags.@count"⟩ : KeyPath).IsReadAs "tags.@count" :=
  ⟨scanAll_of_isWord (by decide), by decide⟩

theorem pathSteps_expression (path : KeyPath) :
    pathSteps path.expression = fieldSteps none path.raw :=
  pathSteps_fieldAt none path.raw

/-- The tokens of the name of a field, and those of every other piece. -/
def tokensOf (word : String) : Piece → List Token
  | .name _ => [.word word]
  | p => p.tokens

theorem flatMap_tokensOf_operands (word : String) (c : Comparison) :
    c.operands.flatMap (tokensOf word) = c.operands.flatMap Piece.tokens := by
  cases c <;> rfl

/-- No name stands on the right side of a comparison. -/
theorem scanAll_operands (word : String) (c : Comparison) :
    ∀ p ∈ c.operands, Token.scanAll p.text.toList = .ok (tokensOf word p) := by
  intro p hp
  cases @Formula.isMade_operands (fun _ => False) c p hp with
  | mark m finite => exact scanAll_mark finite
  | slot argument => cbv
  | leave => cbv
  | field root path known | total root path known => exact known.elim
  | function root collection field a known => exact known.elim
  | enter root path item known => exact known.elim

/-- The tokens of a comparison of a field. -/
theorem IsReadAs.scanAll (read : path.IsReadAs word) (c : Comparison) :
    Token.scanAll (Piece.textOfAll ((Leaf.compare path.raw c).outline none)).toList =
      .ok (c.tokens word) := by
  have each : ∀ p ∈ (Leaf.compare path.raw c).outline none,
      Token.scanAll p.text.toList = .ok (tokensOf word p) := by
    have name : Token.scanAll (Piece.name (fieldAt none path.raw)).text.toList =
        .ok [.word word] := read.scan
    have behind : ∀ p ∈ Piece.name (fieldAt none path.raw) :: .mark (.operator c) :: c.operands,
        Token.scanAll p.text.toList = .ok (tokensOf word p) :=
      List.forall_mem_cons.mpr ⟨name, List.forall_mem_cons.mpr
        ⟨scanAll_operator c, scanAll_operands word c⟩⟩
    rw [Leaf.outline, List.forall_mem_append]
    refine ⟨?_, behind⟩
    split
    · exact List.forall_mem_singleton.mpr (scanAll_mark (by simp))
    · simp
  rw [Piece.scanAll_textOfAll_of_ok (Piece.separated_outline_leaf none _) each, Leaf.outline,
    Comparison.tokens, List.flatMap_append, List.flatMap_cons, List.flatMap_cons,
    flatMap_tokensOf_operands]
  split <;> rfl

/-- The text of a comparison of a field is read as that comparison. -/
theorem IsReadAs.ofText (read : path.IsReadAs word) (c : Comparison) :
    Predicate.ofText (Piece.textOfAll ((Leaf.compare path.raw c).outline none)) c.arguments =
      .ok (.compare c.isAny (.path (pathSteps word)) c.relation c.folding c.operand) := by
  have primary := reads_comparison [] [] c read.free
  rw [List.append_nil, List.append_nil] at primary
  obtain ⟨_, whole⟩ := Formula.readPredicate_of_reads primary
  rw [Predicate.ofText, read.scanAll c]
  simp [Predicate.ofTokens, whole]

end KeyPath

namespace Clause

variable {α : Type} {document : α → Json} {elements : List α} {value : α → Json} {path : KeyPath}

theorem select_compare_word {word : String} (read : path.IsReadAs word)
    (reach : ∀ x ∈ elements, resolve (document x) [] (pathSteps word) = .ok (value x))
    (c : Comparison) :
    (Query.ofTemplate (compare path c).template).select document elements =
      .ok (elements.filter fun x => c.accepts (value x)) := by
  have writes : (Query.ofTemplate (compare path c).template).Writes (.leaf (.compare path.raw c)) :=
    .ofTemplate (.compare path.raw c)
  have text : (Query.ofTemplate (compare path c).template).format =
      Piece.textOfAll ((Leaf.compare path.raw c).outline none) := writes.format
  have arguments : (Query.ofTemplate (compare path c).template).arguments = c.arguments := by
    simpa [Formula.arguments, Formula.leaves, Leaf.arguments] using writes.arguments
  rw [writes.select_eq, Winnow.select, text, arguments, read.ofText c]
  refine keepIf_eq_filter fun x hx => ?_
  rw [c.holds_compare, reach x hx]
  rfl

theorem select_compare (proper : isProper path.raw)
    (reach : ∀ x ∈ elements, resolve (document x) [] (fieldSteps none path.raw) = .ok (value x))
    (c : Comparison) :
    (Query.ofTemplate (compare path c).template).select document elements =
      .ok (elements.filter fun x => c.accepts (value x)) := by
  rw [← KeyPath.pathSteps_expression] at reach
  exact select_compare_word (KeyPath.isReadAs_expression proper) reach c

/-- A test of an aggregate selects the elements in which it holds of the value of the function. -/
theorem select_aggregate {collection field : KeyPath} {a : Aggregate} {c : Clause}
    (properCollection : isProper collection.raw) (properField : isProper field.raw)
    (built : aggregate collection field a = .ok c)
    (reach : ∀ x ∈ elements,
      resolve (document x) [] (functionSteps none collection.raw field.raw a.function) =
        .ok (value x)) :
    (Query.ofTemplate c.template).select document elements =
      .ok (elements.filter fun x => a.test.accepts (value x)) := by
  have writes := Query.Writes.ofTemplate
    (@ClausePlan.writes_of_build (.aggregate collection field a) c built)
  have paths : ∀ p ∈ (ClausePlan.aggregate collection field a).formula.paths, isProper p :=
    List.forall_mem_cons.mpr ⟨properCollection, List.forall_mem_singleton.mpr properField⟩
  rw [writes.select paths]
  refine keepIf_eq_filter fun x hx => ?_
  have found := reach x hx
  rw [← Expression.evaluate] at found
  rw [ClausePlan.formula, Formula.predicate, Leaf.predicate, Predicate.holds, found,
    AggregateTest.evaluate_operand_eq, AggregateTest.accepts]
  simp

end Clause

end Winnow
