import Winnow.Proofs.Condition.Naming
import Winnow.Proofs.Formula.Comparing
import Winnow.Proofs.Formula.Quantified
import Winnow.Proofs.Query.Junction

/-!
Conditions that can be put in each other's place. Two conditions that say the same of every value
select the same elements by themselves, and so do subqueries that differ in them only, however deep.
That a field is one of several values can be put as one comparison with all of them, or as the
equality with one value or another.
-/

namespace Winnow

/-! ### Formulas that agree -/

namespace Connective

variable {element : Json} {scope : Scope}

/-- Under a connective, an error of the first predicate is that of all. -/
theorem holds_foldl_of_error {p : Predicate} {e : QueryFault} (c : Connective)
    (h : p.holds element scope = .error e) (ps : List Predicate) :
    (ps.foldl c.predicate p).holds element scope = .error e := by
  induction ps generalizing p with
  | nil => exact h
  | cons q ps ih =>
      refine ih ?_
      cases c <;> simp only [predicate, Predicate.holds, h]

end Connective

namespace Formula

/-- Two formulas say the same wherever they are asked. Around them variables have the same names,
since subqueries nest in them equally deep. -/
structure Agrees (f g : Formula) : Prop where
  height : f.height = g.height
  holds : ∀ root element scope,
    (f.predicate root).holds element scope = (g.predicate root).holds element scope

namespace Agrees

variable {f g : Formula} {fs gs : List Formula}

theorem refl (f : Formula) : f.Agrees f := ⟨rfl, fun _ _ _ => rfl⟩

theorem greatestHeight_eq (h : List.Forall₂ Agrees fs gs) :
    greatestHeight fs = greatestHeight gs := by
  induction h with
  | nil => rfl
  | cons h _ ih => rw [greatestHeight, greatestHeight, h.height, ih]

theorem holds_foldl (connective : Connective) {root : Root} {element : Json} {scope : Scope}
    (h : List.Forall₂ Agrees fs gs) {p q : Predicate}
    (first : p.holds element scope = q.holds element scope) :
    ((predicates root fs).foldl connective.predicate p).holds element scope =
      ((predicates root gs).foldl connective.predicate q).holds element scope := by
  induction h generalizing p q with
  | nil => exact first
  | cons h _ ih => exact ih (holds_connective_congr connective first (h.holds root element scope))

theorem junction (connective : Connective) (h : f.Agrees g) (others : List.Forall₂ Agrees fs gs) :
    (junction connective f fs).Agrees (.junction connective g gs) where
  height := by rw [Formula.height, Formula.height, h.height, greatestHeight_eq others]
  holds root element scope := by
    rw [predicate, predicate]
    exact holds_foldl connective others (h.holds root element scope)

theorem subquery (quantifier : Quantifier) (collection : String) (h : f.Agrees g) :
    (subquery quantifier collection f).Agrees (.subquery quantifier collection g) where
  height := by rw [Formula.height, Formula.height, h.height]
  holds root element scope := by
    rw [predicate, predicate, h.height]
    refine holds_compare_congr ?_ rfl
    simp only [Expression.evaluate, h.holds]

end Agrees

/-- The equalities of a field with several values. -/
def equalities (path : String) (m : Modifiers) (values : List Value) : List Formula :=
  values.map fun v => leaf (.compare path (.matching .equal v m))

theorem greatestHeight_equalities (path : String) (m : Modifiers) (values : List Value) :
    greatestHeight (equalities path m values) = 0 := by
  induction values with
  | nil => rfl
  | cons v values ih =>
      rw [equalities, List.map_cons, greatestHeight]
      exact (Nat.zero_max _).trans ih

section Reached

variable {root : Root} {path : String} {element reached : Json} {scope : Scope}

theorem holds_compare (reach : resolve element scope (fieldSteps root path) = .ok reached)
    (c : Comparison) :
    ((leaf (.compare path c)).predicate root).holds element scope = .ok (c.accepts reached) := by
  rw [predicate, c.holds_predicate_eq, reach]
  rfl

/-- The equalities of a field say of its value which of the others it equals. -/
theorem holds_equalities (reach : resolve element scope (fieldSteps root path) = .ok reached)
    (m : Modifiers) (values : List Value) :
    List.Forall₂
      (fun p v => p.holds element scope = .ok ((Comparison.matching .equal v m).accepts reached))
      (predicates root (equalities path m values)) values := by
  induction values with
  | nil => exact .nil
  | cons v values ih => exact .cons (holds_compare reach _) ih

end Reached

/-- That a field is one of several values agrees with its being one value or another. -/
theorem agrees_member (path : String) (m : Modifiers) (v : Value) (values : List Value) :
    (leaf (.compare path (.member (v :: values) m))).Agrees
      (.junction .or (leaf (.compare path (.matching .equal v m))) (equalities path m values)) where
  height := by
    rw [height, height, greatestHeight_equalities]
    rfl
  holds root element scope := by
    rw [predicate, predicate, Comparison.holds_predicate_eq]
    cases reach : resolve element scope (fieldSteps root path) with
    | error e =>
        -- No equality is asked after the first one, which fails as the whole does.
        refine (Connective.holds_foldl_of_error .or ?_ _).symm
        rw [predicate, Comparison.holds_predicate_eq, reach]
        rfl
    | ok reached =>
        have equal := @Connective.holds_foldl Value
          (fun v => (Comparison.matching .equal v m).accepts reached) element scope _ _ v values
          .or (holds_compare reach _) (holds_equalities reach m values)
        rw [equal]
        exact congrArg Except.ok (Comparison.accepts_member (v :: values) m reached)

/-- It is the values that count, not their order nor how often they are named. -/
theorem agrees_member_of_mem_iff (path : String) (m : Modifiers) {values others : List Value}
    (same : ∀ v, v ∈ others ↔ v ∈ values) :
    (leaf (.compare path (.member values m))).Agrees (leaf (.compare path (.member others m))) where
  height := rfl
  holds root element scope := by
    rw [predicate, predicate, Comparison.holds_predicate_eq, Comparison.holds_predicate_eq]
    refine congrArg (Except.map · _) (funext fun reached => ?_)
    rw [Comparison.accepts_member, Comparison.accepts_member]
    exact Connective.decides_congr .or fun v => (same v).symm

end Formula

/-! ### Conditions that agree -/

namespace Template

def Agrees (t u : Template) : Prop := ∃ f g, t.Asks f ∧ u.Asks g ∧ f.Agrees g

namespace Agrees

/-- Templates that agree select the same, or fail alike. -/
theorem select_eq {t u : Template} (h : t.Agrees u) {α : Type} (document : α → Json)
    (elements : List α) :
    (Query.ofTemplate t).select document elements =
      (Query.ofTemplate u).select document elements := by
  obtain ⟨f, g, hf, hg, agree⟩ := h
  rw [hf.select, hg.select]
  exact keepIf_congr fun x _ => agree.holds none (document x) []

theorem exists_formulas {cs ds : List Clause}
    (h : List.Forall₂ (fun c d => c.template.Agrees d.template) cs ds) :
    ∃ fs gs, List.Forall₂ (fun c f => c.template.Asks f) cs fs ∧
      List.Forall₂ (fun d g => d.template.Asks g) ds gs ∧ List.Forall₂ Formula.Agrees fs gs := by
  induction h with
  | nil => exact ⟨[], [], .nil, .nil, .nil⟩
  | cons h _ ih =>
      obtain ⟨f, g, hf, hg, agree⟩ := h
      obtain ⟨fs, gs, hfs, hgs, agrees⟩ := ih
      exact ⟨f :: fs, g :: gs, .cons hf hfs, .cons hg hgs, .cons agree agrees⟩

theorem junction (connective : Connective) {c d : Clause} {cs ds : List Clause}
    (first : c.template.Agrees d.template)
    (others : List.Forall₂ (fun c d => c.template.Agrees d.template) cs ds) :
    (Junction.ofCons connective c cs).template.Agrees
      (Junction.ofCons connective d ds).template := by
  obtain ⟨f, g, hf, hg, agree⟩ := first
  obtain ⟨fs, gs, hfs, hgs, agrees⟩ := exists_formulas others
  exact ⟨_, _, .junction connective hf hfs, .junction connective hg hgs,
    .junction connective agree agrees⟩

theorem subquery (quantifier : Quantifier) {collection : KeyPath} (proper : isProper collection.raw)
    {c d : Condition} (h : c.template.Agrees d.template) :
    (Subquery.asking quantifier collection c).template.Agrees
      (Subquery.asking quantifier collection d).template := by
  obtain ⟨f, g, hf, hg, agree⟩ := h
  exact ⟨_, _, .subquery quantifier proper hf, .subquery quantifier proper hg,
    .subquery quantifier collection.raw agree⟩

end Agrees

end Template

theorem Clause.IsBuilt.agrees {c : Clause} (built : c.IsBuilt) :
    c.template.Agrees c.template := by
  obtain ⟨plan, hc, proper⟩ := built
  have asks : c.template.Asks plan.formula := ⟨ClausePlan.writes_of_build hc, proper⟩
  exact ⟨_, _, asks, asks, .refl _⟩

/-! ### Surroundings -/

def Siblings.IsBuilt (s : Siblings) : Prop := ∀ c ∈ s.before ++ s.after, c.IsBuilt

structure Nesting.IsBuilt (n : Nesting) : Prop where
  collection : isProper n.collection.raw
  siblings : ∀ s ∈ n.siblings?, s.IsBuilt

namespace Template.Agrees

variable {c d : Clause}

theorem among (h : c.template.Agrees d.template) {siblings? : Option Siblings}
    (built : ∀ s ∈ siblings?, s.IsBuilt) :
    (c.among siblings?).template.Agrees (d.among siblings?).template := by
  cases siblings? with
  | none => exact h
  | some s =>
      obtain ⟨connective, before, after⟩ := s
      have same : ∀ sibling ∈ before ++ after, sibling.template.Agrees sibling.template :=
        fun sibling hs => (built _ rfl sibling hs).agrees
      obtain ⟨sameBefore, sameAfter⟩ := List.forall_mem_append.mp same
      have behind : List.Forall₂ (fun c d => c.template.Agrees d.template) (c :: after)
          (d :: after) := .cons h (List.forall₂_same.mpr sameAfter)
      cases before with
      | nil => exact junction connective h (List.forall₂_same.mpr sameAfter)
      | cons first rest =>
          obtain ⟨sameFirst, sameRest⟩ := List.forall_mem_cons.mp sameBefore
          exact junction connective sameFirst
            (List.rel_append (List.forall₂_same.mpr sameRest) behind)

theorem inside (h : c.template.Agrees d.template) {nestings : List Nesting}
    (built : ∀ n ∈ nestings, n.IsBuilt) :
    (c.inside nestings).template.Agrees (d.inside nestings).template := by
  induction nestings generalizing c d with
  | nil => exact h
  | cons n nestings ih =>
      obtain ⟨hn, rest⟩ := List.forall_mem_cons.mp built
      exact ih (subquery n.quantifier hn.collection (h.among hn.siblings)) rest

end Template.Agrees

/-- Conditions select the same by themselves, and as what a subquery asks of its items, wherever the
subquery is put. -/
def Condition.Interchangeable (c d : Condition) : Prop :=
  ∀ {α : Type} (document : α → Json) (elements : List α),
    (Query.ofTemplate c.template).select document elements =
        (Query.ofTemplate d.template).select document elements ∧
      ∀ (quantifier : Quantifier) (collection : KeyPath) (nestings : List Nesting)
        (siblings? : Option Siblings), isProper collection.raw → (∀ n ∈ nestings, n.IsBuilt) →
        (∀ s ∈ siblings?, s.IsBuilt) →
          (Query.ofTemplate ((((Subquery.asking quantifier collection c).toClause.inside
              nestings).among siblings?).template)).select document elements =
            (Query.ofTemplate ((((Subquery.asking quantifier collection d).toClause.inside
              nestings).among siblings?).template)).select document elements

theorem Template.Agrees.interchangeable {c d : Condition} (h : c.template.Agrees d.template) :
    c.Interchangeable d := by
  refine fun document elements => ⟨h.select_eq document elements, ?_⟩
  intro quantifier collection nestings siblings? proper nested built
  have clauses : (Subquery.asking quantifier collection c).toClause.template.Agrees
      (Subquery.asking quantifier collection d).toClause.template := h.subquery quantifier proper
  exact ((clauses.inside nested).among built).select_eq document elements

/-! ### One of several values -/

/-- The elements whose field equals one of several values are selected. -/
theorem Clause.select_member {path : KeyPath} (proper : isProper path.raw) (values : List Value)
    (m : Modifiers) {α : Type} (document : α → Json) (elements : List α) :
    ∃ value : α → Json,
      (∀ x, resolve (document x) [] (fieldSteps none path.raw) = .ok (value x)) ∧
        (Query.ofTemplate (compare path (.member values m)).template).select document elements =
          .ok (elements.filter fun x =>
            values.any fun v => (value x).equal m.folding v.bind.toJson) := by
  choose value reach using fun x => exists_field (document x) (isPath_of_isProper proper)
  refine ⟨value, reach, (select_compare proper (fun x _ => reach x) _).trans ?_⟩
  exact congrArg Except.ok
    (List.filter_congr fun x _ => Comparison.accepts_member values m (value x))

/-- That a field is one of several values selects the elements whose field equals one of them, so
none if there are no values. Otherwise it can be put as the equality with one value or another,
everywhere. Neither the order of the values matters nor how often one is named. -/
theorem Clause.interchangeable_member {path : KeyPath} (proper : isProper path.raw)
    (values : List Value) (m : Modifiers) :
    (∀ (α : Type) (document : α → Json) (elements : List α), ∃ value : α → Json,
        (∀ x, resolve (document x) [] (fieldSteps none path.raw) = .ok (value x)) ∧
          (Query.ofTemplate (compare path (.member values m)).template).select document elements =
            .ok (elements.filter fun x =>
              values.any fun v => (value x).equal m.folding v.bind.toJson)) ∧
      (values = [] → ∀ (α : Type) (document : α → Json) (elements : List α),
        (Query.ofTemplate (compare path (.member values m)).template).select document elements =
          .ok []) ∧
      (values ≠ [] → ∃ j,
        Junction.ofList .or (values.map fun v => compare path (.matching .equal v m)) = .ok j ∧
          Condition.Interchangeable (.clause (compare path (.member values m))) (.junction j)) ∧
      ∀ others, (∀ v, v ∈ others ↔ v ∈ values) →
        Condition.Interchangeable (.clause (compare path (.member values m)))
          (.clause (compare path (.member others m))) := by
  refine ⟨fun α => select_member proper values m, ?_, fun nonempty => ?_, fun others same => ?_⟩
  · rintro rfl α document elements
    obtain ⟨value, -, selected⟩ := select_member proper [] m document elements
    rw [selected]
    simp
  · obtain ⟨v, rest, rfl⟩ := List.exists_cons_of_ne_nil nonempty
    have equalities : List.Forall₂ (fun (c : Clause) f => c.template.Asks f)
        (rest.map fun v => compare path (.matching .equal v m))
        (Formula.equalities path.raw m rest) := by
      rw [Formula.equalities, List.forall₂_map_left_iff, List.forall₂_map_right_iff]
      exact List.forall₂_same.mpr fun v _ => .compare proper _
    refine ⟨_, rfl, Template.Agrees.interchangeable ?_⟩
    exact ⟨_, _, .compare proper _, .junction .or (.compare proper _) equalities,
      Formula.agrees_member path.raw m v rest⟩
  · refine Template.Agrees.interchangeable ?_
    exact ⟨_, _, .compare proper _, .compare proper _,
      Formula.agrees_member_of_mem_iff path.raw m same⟩

namespace Bookshelf

def soughtTags : List Value := [.text "EPIC", .text "sci-fi"]

theorem soughtTags_interchangeable :
    ∃ j, Junction.ofList .or
        (soughtTags.map fun v => Clause.compare .element (.matching .equal v .folded)) = .ok j ∧
      (Query.ofTemplate j.template).select Json.string ["epic", "classic", "Sci-Fi"] =
        .ok ["epic", "Sci-Fi"] := by
  obtain ⟨selected, -, equalities, -⟩ := @Clause.interchangeable_member .element (by decide)
    soughtTags .folded
  obtain ⟨value, reach, member⟩ := selected String .string ["epic", "classic", "Sci-Fi"]
  obtain ⟨j, hj, same⟩ := equalities (List.cons_ne_nil _ _)
  obtain rfl : value = .string := funext fun x => (Except.ok.inj (reach x)).symm
  exact ⟨j, hj, ((same .string _).1.symm.trans member).trans (by decide +kernel)⟩

end Bookshelf

end Winnow
