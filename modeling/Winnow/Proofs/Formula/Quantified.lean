import Winnow.Proofs.Formula.Questions
import Winnow.Proofs.Predicate.Following

/-!
What a quantifier means. The condition of a subquery is asked of each item as if the item were an
element of its own, so the subquery holds of an element if as many items are selected as the
quantifier says.
-/

namespace Winnow

/-! ### The names of a path -/

/-- A name of a path names a member, and is no variable and no function. -/
theorem plain_of_mem_names {path step : String} (h : isPath path) (hs : step ∈ names path) :
    isMemberName step ∧ ∀ c ∈ step.toList.head?, c ≠ '$' ∧ c ≠ '@' := by
  have apart : ∀ c ∈ step.toList.head?, c ≠ '$' ∧ c ≠ '@' := fun c hc =>
    isNamePart_apart (isNamePart_of_mem_names h hs (List.mem_of_mem_head? hc))
  refine ⟨?_, apart⟩
  rw [isMemberName, functionName?]
  split
  · next h => exact absurd rfl (apart '@' (by rw [h]; rfl)).2
  · rfl

theorem head_names_ne_self {path step : String} {rest : List String} (h : isPath path)
    (hn : names path = step :: rest) : step ≠ resolve.selfName := by
  rintro rfl
  rw [names] at hn
  split at hn
  · cases hn
  · next hp =>
      have dotted : isDotted path := by simpa [isPath, hp] using h
      simp only [isDotted, Bool.and_eq_true, bne_iff_ne] at dotted
      refine dotted.2 ?_
      rw [pathSteps] at hn
      cases hs : splitDots path.toList with
      | nil => simp [hs] at hn
      | cons piece pieces =>
          rw [hs, List.map_cons, List.cons.injEq] at hn
          have := congrArg String.toList hn.1
          rw [String.toList_ofList] at this
          rw [List.head?_cons, this]
          rfl

/-- An element is asked for a path by its names. -/
theorem resolve_names {element : Json} (scope : Scope) {path s : String} {rest more : List String}
    (h : isPath path) (hn : names path = s :: rest) :
    resolve element scope (s :: more) = (element.member s).walk more :=
  resolve_name (head_names_ne_self h hn) (plain_of_mem_names h (hn ▸ List.mem_cons_self)).2

/-! ### Questions to an element and to an item -/

namespace Question

/-- A question of paths. -/
def IsProper : Question → Prop
  | field path => isPath path
  | total collection => isPath collection
  | function collection number _ => isPath collection ∧ isPath number

/-- The number or the sum of the items of a member of the element. Where the element has no members,
its answer to this depends on how it is asked. -/
def isLost : Question → Bool
  | field _ => false
  | total collection => (Winnow.names collection).length == 1
  | function collection _ a => (Winnow.names collection).length == 1 && (a == .count || a == .sum)

end Question

theorem fieldSteps_none (path : String) :
    path = "" ∧ names path = [] ∧ fieldSteps none path = [selfExpression] ∨
      ∃ s rest, names path = s :: rest ∧ fieldSteps none path = s :: rest := by
  by_cases hp : path.isEmpty
  · exact .inl ⟨String.isEmpty_iff.mp hp, by simp [names, hp], by simp [fieldSteps, hp]⟩
  · obtain ⟨piece, pieces, hs⟩ := List.exists_cons_of_ne_nil (splitDots_ne_nil path.toList)
    refine .inr ⟨String.ofList piece, pieces.map String.ofList, ?_, ?_⟩
    · simp [names, hp, pathSteps, hs]
    · simp [fieldSteps, ownerSteps, Root.item?, names, hp, pathSteps, hs]

theorem functionName?_keyword (a : AggregateFunction) :
    functionName? a.keyword = some (String.ofList (a.keyword.toList.drop 1)) := by
  cases a <;> decide

/-- Where there is nothing, only counts and sums have a value. -/
theorem walkNull_function {a : AggregateFunction} (h : a ≠ .count ∧ a ≠ .sum)
    (rest : List String) : Json.walkNull (a.keyword :: rest) = .ok .null := by
  rw [Json.walkNull, functionName?_keyword]
  cases a with
  | count => exact absurd rfl h.1
  | sum => exact absurd rfl h.2
  | _ => rfl

section Answers

variable {item : Json} {path s : String} {rest more : List String}

theorem resolve_self : resolve item [] (selfExpression :: more) = item.walk more := by
  rw [resolve, if_pos (show selfExpression = resolve.selfName from rfl)]

theorem exists_field (element : Json) (h : isPath path) :
    ∃ v, resolve element [] (fieldSteps none path) = .ok v := by
  rcases fieldSteps_none path with ⟨-, -, hf⟩ | ⟨s, rest, hn, hf⟩
  · exact ⟨element, by rw [hf, resolve_self, Json.walk_nil]⟩
  · rw [hf, resolve_names _ h hn]
    exact Json.exists_walk (fun t ht => (plain_of_mem_names h (hn ▸ List.mem_cons_of_mem s ht)).1) _

/-- A path is followed alike from an element and from an item, unless something is found where there
is nothing. -/
theorem resolve_names_append (flat : ∀ values, item ≠ .array values) (h : isPath path)
    (hn : names path = s :: rest)
    (found : (∃ members, item = .object members) ∨ Json.walkNull (rest ++ more) = .ok .null) :
    resolve item [] (s :: rest ++ more) = item.walk (s :: rest ++ more) := by
  have hs : isMemberName s := (plain_of_mem_names h (hn ▸ List.mem_cons_self)).1
  rw [List.cons_append, resolve_names _ h hn]
  rcases item.kind with ⟨members, rfl⟩ | ⟨values, rfl⟩ | scalar
  · rw [Json.walk_object members hs]
  · exact absurd rfl (flat values)
  · have nothing := found.resolve_left fun ⟨members, h⟩ => scalar.1 members h
    rw [Json.member_of_isScalar scalar, Json.walk_null, nothing, Json.walk_scalar scalar hs]

theorem walkNull_names (h : isPath path) (hn : names path = s :: rest) (hr : rest ≠ []) :
    Json.walkNull (rest ++ more) = .ok .null := by
  obtain ⟨t, rest, rfl⟩ := List.exists_cons_of_ne_nil hr
  have ht : functionName? t = none :=
    (plain_of_mem_names h (hn ▸ List.mem_cons_of_mem s List.mem_cons_self)).1
  simp [Json.walkNull, ht]

/-- An item answers a question as an element does, unless the answer is lost. -/
theorem resolve_element (flat : ∀ values, item ≠ .array values) {x : Question} (proper : x.IsProper)
    (kept : x.isLost → ∃ members, item = .object members) :
    resolve item [] (x.steps none) = item.walk x.names := by
  cases x with
  | field path =>
      rcases fieldSteps_none path with ⟨-, hn, hf⟩ | ⟨s, rest, hn, hf⟩
      · rw [Question.steps, Question.names, hf, hn, resolve_self]
      · rw [Question.steps, Question.names, hf, hn, ← List.append_nil (s :: rest)]
        refine resolve_names_append flat proper hn (.inr ?_)
        by_cases hr : rest = []
        · rw [hr]
          rfl
        · exact walkNull_names proper hn hr
  | total collection =>
      rcases fieldSteps_none collection with ⟨-, hn, hf⟩ | ⟨s, rest, hn, hf⟩
      · rw [Question.steps, Question.names, hf, hn]
        exact resolve_self
      · rw [Question.steps, Question.names, hf, hn]
        refine resolve_names_append flat proper hn ?_
        by_cases hr : rest = []
        · exact .inl (kept (by simp [Question.isLost, hn, hr]))
        · exact .inr (walkNull_names proper hn hr)
  | function collection number a =>
      rcases fieldSteps_none collection with ⟨rfl, hn, -⟩ | ⟨s, rest, hn, -⟩
      · rw [Question.steps, Question.names, functionSteps, ownerSteps, hn]
        cases a <;> rfl
      · rw [Question.steps, Question.names, functionSteps, ownerSteps, hn]
        refine resolve_names_append flat proper.1 hn ?_
        by_cases hr : rest = []
        · by_cases ha : a = .count ∨ a = .sum
          · exact .inl (kept (by simpa [Question.isLost, hn, hr] using ha))
          · rw [hr]
            exact .inr (walkNull_function (not_or.mp ha) _)
        · exact .inr (walkNull_names proper.1 hn hr)

theorem walkNull_lost {a : AggregateFunction} (h : a = .count ∨ a = .sum) (rest : List String) :
    Json.walkNull (a.keyword :: rest) ≠ .ok .null := by
  rw [Json.walkNull, functionName?_keyword]
  rcases h with rfl | rfl
  · exact fun he => Json.noConfusion (Except.ok.inj he)
  · intro he
    have zero : (Binary.sum [] : Double) = .finite ⟨true, 0, by decide⟩ := by
      rw [Binary.sum, List.foldl_nil, Binary.ofRank, dif_pos (by decide)]
    have sum : applyFunction "sum" [] = .ok (.ofDouble (.sum [])) := rfl
    rw [zero] at sum
    exact Json.noConfusion (Except.ok.inj (sum.symm.trans he))

/-- An answer that is lost is another one for an item without members. -/
theorem resolve_lost (scalar : item.IsScalar) {x : Question} (proper : x.IsProper)
    (lost : x.isLost) : resolve item [] (x.steps none) ≠ item.walk x.names := by
  cases x with
  | field path => cases lost
  | total collection =>
      rcases fieldSteps_none collection with ⟨-, hn, -⟩ | ⟨s, rest, hn, hf⟩
      · simp [Question.isLost, hn] at lost
      · obtain rfl : rest = [] := by simpa [Question.isLost, hn] using lost
        have hs := (plain_of_mem_names proper (hn ▸ List.mem_cons_self)).1
        rw [Question.steps, Question.names, hf, hn, List.cons_append, resolve_names _ proper hn,
          Json.member_of_isScalar scalar, Json.walk_scalar scalar hs]
        exact fun he => Json.noConfusion (Except.ok.inj (Json.null_walk_count.symm.trans he))
  | function collection number a =>
      rcases fieldSteps_none collection with ⟨-, hn, -⟩ | ⟨s, rest, hn, -⟩
      · simp [Question.isLost, hn] at lost
      · simp only [Question.isLost, hn, Bool.and_eq_true, Bool.or_eq_true, beq_iff_eq,
          List.length_cons, Nat.add_eq_right, List.length_eq_zero_iff] at lost
        obtain ⟨rfl, ha⟩ := lost
        have hs := (plain_of_mem_names proper.1 (hn ▸ List.mem_cons_self)).1
        rw [Question.steps, Question.names, functionSteps, ownerSteps, hn]
        change resolve item [] (s :: ([] ++ a.keyword :: Winnow.names number)) ≠ _
        rw [resolve_names _ proper.1 hn, Json.member_of_isScalar scalar, Json.walk_null,
          List.cons_append, Json.walk_scalar scalar hs]
        exact walkNull_lost ha _

/-- An item answers a question as an element does exactly if the answer is not lost. -/
theorem resolve_element_iff (flat : ∀ values, item ≠ .array values) {x : Question}
    (proper : x.IsProper) :
    resolve item [] (x.steps none) = item.walk x.names ↔
      (x.isLost → ∃ members, item = .object members) := by
  refine ⟨fun same lost => ?_, resolve_element flat proper⟩
  rcases item.kind with object | ⟨values, rfl⟩ | scalar
  · exact object
  · exact absurd rfl (flat values)
  · exact absurd same (resolve_lost scalar proper lost)

end Answers

section Collection

variable {element reached : Json} {collection : String}

/-- Every value on the way to the items of a collection is an object. -/
def IsOwned (element : Json) (collection : String) : Prop :=
  ∀ front, IsFront front (names collection) →
    ∃ members, resolve element [] front = .ok (.object members)

theorem isFront_cons {s : String} {front rest : List String} :
    IsFront front (s :: rest) ↔ ∃ more, front = s :: more ∧ more <+: rest ∧ more ≠ rest := by
  refine ⟨fun ⟨hf, hn, hw⟩ => ?_, ?_⟩
  · obtain ⟨more, rfl, hm⟩ := (List.prefix_cons_iff.mp hf).resolve_left hn
    exact ⟨more, rfl, hm, by simpa using hw⟩
  · rintro ⟨more, rfl, hm, hr⟩
    exact ⟨List.cons_prefix_cons.mpr ⟨rfl, hm⟩, by simp, by simpa using hr⟩

theorem isOwned_iff {s : String} {rest : List String} (h : isPath collection)
    (hn : names collection = s :: rest) :
    IsOwned element collection ↔ (element.member s).Owns rest := by
  refine ⟨fun owned more hm hr => ?_, fun owns front hf => ?_⟩
  · rw [← resolve_names [] h hn]
    exact owned (s :: more) (hn ▸ isFront_cons.mpr ⟨more, rfl, hm, hr⟩)
  · obtain ⟨more, rfl, hm, hr⟩ := isFront_cons.mp (hn ▸ hf)
    rw [resolve_names _ h hn]
    exact owns more hm hr

/-- An element leads to its collection by the member of the first name. -/
theorem reaches_collection {s : String} {rest : List String} (h : isPath collection)
    (hn : names collection = s :: rest)
    (reach : resolve element [] (fieldSteps none collection) = .ok reached)
    (apart : ∀ front, IsFront front (names collection) →
      ∀ values, resolve element [] front ≠ .ok (.array values)) :
    (element.member s).Reaches rest reached where
  names t ht := (plain_of_mem_names h (hn ▸ List.mem_cons_of_mem s ht)).1
  walk := by
    obtain ⟨-, he, -⟩ | ⟨s', rest', hn', hf⟩ := fieldSteps_none collection
    · simp [he] at hn
    · rw [← resolve_names [] h hn, ← hn, hn', ← hf, reach]
  apart more hm hr values hw := by
    refine apart (s :: more) (hn ▸ isFront_cons.mpr ⟨more, rfl, hm, hr⟩) values ?_
    rw [resolve_names _ h hn, hw]

theorem resolve_total_array {items : List Json} (h : isPath collection)
    (reach : resolve element [] (fieldSteps none collection) = .ok (.array items))
    (apart : ∀ front, IsFront front (names collection) →
      ∀ values, resolve element [] front ≠ .ok (.array values)) :
    resolve element [] (fieldSteps none collection ++ ["@count"]) =
      .ok (.ofInt items.length) := by
  rcases fieldSteps_none collection with ⟨-, -, hf⟩ | ⟨s, rest, hn, hf⟩
  · rw [hf, resolve_self, Json.walk_nil] at reach
    cases reach
    rw [hf]
    exact resolve_self.trans (Json.walk_count items)
  · rw [hf, List.cons_append, resolve_names _ h hn]
    exact (reaches_collection h hn reach apart).count

/-- Where there is no collection, no items are counted if every value on the way to it is an object;
otherwise there is no number at all. -/
theorem resolve_total_null (h : isPath collection)
    (reach : resolve element [] (fieldSteps none collection) = .ok .null)
    (apart : ∀ front, IsFront front (names collection) →
      ∀ values, resolve element [] front ≠ .ok (.array values)) :
    IsOwned element collection ∧
        resolve element [] (fieldSteps none collection ++ ["@count"]) = .ok (.ofInt 0) ∨
      ¬ IsOwned element collection ∧
        resolve element [] (fieldSteps none collection ++ ["@count"]) = .ok .null := by
  rcases fieldSteps_none collection with ⟨-, hn, hf⟩ | ⟨s, rest, hn, hf⟩
  · rw [hf, resolve_self, Json.walk_nil] at reach
    cases reach
    refine .inl ⟨fun front hfront => ?_, ?_⟩
    · rw [hn] at hfront
      exact absurd (List.prefix_nil.mp hfront.1) hfront.2.1
    · rw [hf]
      exact resolve_self.trans Json.null_walk_count
  · rw [isOwned_iff h hn, hf, List.cons_append, resolve_names _ h hn]
    exact (reaches_collection h hn reach apart).count_null

end Collection

/-! ### The items that are kept -/

/-- A template of proper paths selects the elements that its formula holds of. -/
theorem Template.Writes.select {t : Template} {f : Formula} (h : t.Writes f)
    (proper : ∀ path ∈ f.paths, isProper path) (elements : List Json) :
    select id t.render t.arguments elements =
      keepIf (fun x => (f.predicate none).holds x []) elements := by
  rw [Winnow.select, h.ofText proper]
  rfl

namespace Formula

theorem isProper_of_mem_questions {f : Formula} (proper : ∀ path ∈ f.paths, isProper path)
    {x : Question} (hx : x ∈ f.questions) : x.IsProper := by
  induction f with
  | leaf l =>
      cases l with
      | constant b => cases hx
      | compare path comparison =>
          rw [List.mem_singleton.mp hx]
          exact isPath_of_isProper (proper path List.mem_cons_self)
      | aggregate collection field a =>
          rw [List.mem_singleton.mp hx]
          exact ⟨isPath_of_isProper (proper collection List.mem_cons_self),
            isPath_of_isProper (proper field (List.mem_cons_of_mem _ List.mem_cons_self))⟩
  | junction connective first others ihf iho =>
      obtain ⟨front, behind⟩ := forall_mem_paths_junction.mp proper
      simp only [questions, questionsOfAll_eq, List.mem_append, List.mem_flatMap] at hx
      rcases hx with hx | ⟨f, hf, hx⟩
      · exact ihf front hx
      · exact iho f hf (behind f hf) hx
  | subquery quantifier collection inner ih =>
      have path := isPath_of_isProper (proper collection List.mem_cons_self)
      cases quantifier with
      | all =>
          rcases List.mem_cons.mp hx with rfl | hx
          · exact path
          · rw [List.mem_singleton.mp hx]
            exact path
      | any | none =>
          rw [List.mem_singleton.mp hx]
          exact path

/-- A subquery keeps the items that are selected as elements of their own. -/
theorem evaluate_kept {f : Formula} {element reached : Json} {collection : List String}
    {items kept : List Json} (proper : ∀ path ∈ f.paths, isProper path)
    (reach : resolve element [] collection = .ok reached)
    (found : collectionItems reached = .ok items)
    (flat : ∀ item ∈ items, ∀ values, item ≠ .array values)
    (answered : ∀ item ∈ items, ∀ x ∈ f.questions, x.isLost → ∃ members, item = .object members)
    (selected : keepIf (fun x => (f.predicate none).holds x []) items = .ok kept) :
    (Expression.subquery collection (Subquery.itemNameAt f.height) (f.predicate (some f.height))
      ["@count"]).evaluate element [] = .ok (.ofInt kept.length) := by
  have same : keepIf (fun item => (f.predicate (some f.height)).holds element
      [(Subquery.itemNameAt f.height, item)]) items = .ok kept := by
    rw [← selected]
    refine keepIf_congr fun item hi => holds_congr fun x hx => ?_
    rw [resolve_item (List.lookup_cons_self ..),
      (resolve_element_iff (flat item hi) (isProper_of_mem_questions proper hx)).mpr
        (answered item hi x hx)]
  rw [Expression.evaluate, reach]
  simp only [found, same]
  exact Json.walk_count kept

end Formula

/-- The number of items that are kept is what a quantifier asks for. -/
def Quantifier.Accepts (kept items : Nat) : Quantifier → Prop
  | any => 0 < kept
  | all => kept = items
  | none => kept = 0

/-- What the number of kept items is compared with, and what follows from the comparison. -/
theorem exists_total {quantifier : Quantifier} {collection : String}
    {element reached : Json} {items : List Json} {kept : Nat} (path : isPath collection)
    (reach : resolve element [] (fieldSteps none collection) = .ok reached)
    (found : collectionItems reached = .ok items) (few : items.length < 2 ^ 53)
    (apart : ∀ front, IsFront front (names collection) →
      ∀ values, resolve element [] front ≠ .ok (.array values))
    (le : kept ≤ items.length) :
    ∃ total, (quantifier.total none collection).evaluate element [] = .ok total ∧
      (quantifier.relation.holds {} (.ofInt kept) total ↔
        quantifier.Accepts kept items.length ∧
          (quantifier = .all → reached = .null → IsOwned element collection)) := by
  have fewKept : kept < 2 ^ 53 := le.trans_lt few
  have zero : (Expression.value (.ofDouble (.ofRank false 0))).evaluate element [] =
      .ok (.ofDouble (.ofRank false 0)) := by
    rw [Expression.evaluate]
  cases quantifier with
  | any =>
      refine ⟨_, zero, ?_⟩
      simp [Quantifier.relation, Relation.holds, Json.order?_zero kept, Quantifier.Accepts]
  | none =>
      refine ⟨_, zero, ?_⟩
      simp [Quantifier.relation, Relation.holds, Json.equal_zero fewKept, Quantifier.Accepts]
  | all =>
      -- The collection is followed a second time, with `@count` behind it.
      cases reached with
      | array values =>
          cases found
          have total := resolve_total_array path reach apart
          rw [← Expression.evaluate] at total
          refine ⟨_, total, ?_⟩
          simp [Quantifier.relation, Relation.holds, Json.equal_ofInt fewKept,
            Quantifier.Accepts]
      | null =>
          cases found
          obtain rfl : kept = 0 := Nat.le_zero.mp le
          rcases resolve_total_null path reach apart with ⟨owned, total⟩ | ⟨owned, total⟩
          · rw [← Expression.evaluate] at total
            refine ⟨_, total, ?_⟩
            have none : (Json.ofInt 0).equal {} (.ofInt 0) = true :=
              Json.equal_ofInt (m := 0) (n := 0) (by decide)
            simp [Quantifier.relation, Relation.holds, Quantifier.Accepts, owned, none]
          · rw [← Expression.evaluate] at total
            refine ⟨_, total, ?_⟩
            have apart : (Json.ofInt 0).equal {} .null = false := rfl
            simp [Quantifier.relation, Relation.holds, Quantifier.Accepts, owned, apart]
      | bool b => cases found
      | number n => cases found
      | string text => cases found
      | object members => cases found

/-- A subquery holds of an element if as many items are selected, each as an element of its own, as
the quantifier says. All items of a collection that is not there are selected only if every value on
the way to it is an object. -/
theorem Subquery.select_asking {quantifier : Quantifier} {collection : KeyPath}
    {inner : ConditionPlan} {condition : Condition} {element reached : Json}
    {items kept : List Json} (proper : isProper collection.raw)
    (properInner : ∀ path ∈ inner.formula.paths, isProper path)
    (built : inner.build = .ok condition)
    (reach : resolve element [] (fieldSteps none collection.raw) = .ok reached)
    (found : collectionItems reached = .ok items) (few : items.length < 2 ^ 53)
    (flat : ∀ item ∈ items, ∀ values, item ≠ .array values)
    (apart : ∀ front, IsFront front (names collection.raw) →
      ∀ values, resolve element [] front ≠ .ok (.array values))
    (answered : ∀ item ∈ items, ∀ x ∈ inner.formula.questions,
      x.isLost → ∃ members, item = .object members)
    (selected : select id condition.template.render condition.template.arguments items = .ok kept) :
    ∃ chosen : Bool,
      select id (asking quantifier collection condition).format
          (asking quantifier collection condition).template.arguments [element] =
        .ok (if chosen then [element] else []) ∧
      (chosen ↔ quantifier.Accepts kept.length items.length ∧
        (quantifier = .all → reached = .null → IsOwned element collection.raw)) := by
  have writes := ConditionPlan.writes_of_build built
  rw [writes.select properInner] at selected
  have left := Formula.evaluate_kept properInner reach found flat answered selected
  obtain ⟨total, right, accepted⟩ := exists_total (isPath_of_isProper proper) reach found
    few apart (length_le_of_keepIf selected)
  have whole := (Template.Writes.subquery quantifier collection writes).select
    (List.forall_mem_cons.mpr ⟨proper, properInner⟩) [element]
  refine ⟨_, ?_, accepted⟩
  rw [format, whole]
  refine keepIf_singleton ?_
  rw [Formula.predicate, Predicate.holds, left, right]
  simp

namespace Bookshelf

def epicTag : ConditionPlan := .clause (.compare .element (.matching .equal (.text "epic") .none))

def tagged : Json := .object [("tags", .array [.string "epic", .string "classic"])]

theorem epicTag_selected :
    ∃ condition, epicTag.build = .ok condition ∧
      select id (Subquery.asking .any ⟨"tags"⟩ condition).format
          (Subquery.asking .any ⟨"tags"⟩ condition).template.arguments [tagged] =
        .ok [tagged] := by
  have tags : names "tags" = ["tags"] := by decide
  have properInner : ∀ path ∈ epicTag.formula.paths, isProper path := by decide
  have writes := @ConditionPlan.writes_of_build epicTag _ rfl
  obtain ⟨chosen, selected, accepted⟩ := @Subquery.select_asking .any ⟨"tags"⟩ epicTag
    (.clause (.compare .element (.matching .equal (.text "epic") .none))) tagged
    (.array [.string "epic", .string "classic"]) [.string "epic", .string "classic"]
    [.string "epic"] (by decide) properInner rfl rfl rfl (by decide) (by simp)
    (by
      rintro front ⟨hf, hn, hw⟩
      rw [tags] at hf hw
      simp only [List.prefix_cons_iff, List.prefix_nil] at hf
      obtain rfl | ⟨more, rfl, rfl⟩ := hf <;> contradiction)
    (by
      rintro item - x hx lost
      rw [List.mem_singleton.mp hx] at lost
      cases lost)
    ((writes.select properInner _).trans rfl)
  have chosen : chosen = true := accepted.mpr ⟨Nat.one_pos, by simp⟩
  subst chosen
  exact ⟨_, rfl, selected⟩

end Bookshelf

end Winnow
