import Winnow.Proofs.Formula.Outline
import Winnow.Proofs.Result

/-!
What building a plan gives. A built template writes the formula of its plan: its text is that of the
pieces at every root, and its arguments and its height are those of the formula.
-/

namespace Winnow

/-- Conditions under a connective; under one without any, what holds of no conditions. -/
def Formula.join (connective : Connective) : List Formula → Formula
  | [] => .leaf (.constant (connective = .and))
  | first :: others => .junction connective first others

/-- Two conditions under a connective. What is not there leaves the other as it is. -/
def Formula.combine? (connective : Connective) : Option Formula → Option Formula → Option Formula
  | some f, some g => some (.junction connective f [g])
  | some f, none => some f
  | none, g => g

mutual

def ClausePlan.formula : ClausePlan → Formula
  | .compare path comparison => .leaf (.compare path.raw comparison)
  | .expression text comparison => .leaf (.compare (KeyPath.ofText text).raw comparison)
  | .aggregate collection field a => .leaf (.aggregate collection.raw field.raw a)
  | .subquery plan => plan.formula

def ClausePlan.formulas : List ClausePlan → List Formula
  | [] => []
  | plan :: rest => plan.formula :: ClausePlan.formulas rest

/-- The connective of a junction and the conditions under it. -/
def JunctionPlan.parts : JunctionPlan → Connective × List Formula
  | .join connective plans => (connective, ClausePlan.formulas plans)
  | .extend base plan => (base.parts.1, base.parts.2 ++ [plan.formula])

def ConditionPlan.formula : ConditionPlan → Formula
  | .clause plan => plan.formula
  | .junction plan => .join plan.parts.1 plan.parts.2

def SubqueryPlan.formula : SubqueryPlan → Formula
  | .asking quantifier collection inner => .subquery quantifier collection.raw inner.formula
  | .askingAll quantifier connective collection plans =>
    .subquery quantifier collection.raw (.join connective (ClausePlan.formulas plans))

end

def JunctionPlan.formula (plan : JunctionPlan) : Formula := .join plan.parts.1 plan.parts.2

namespace QueryPlan

/-- The condition of a query, unless it asks nothing. -/
def formula? : QueryPlan → Option Formula
  | empty => none
  | always => some (.leaf (.constant true))
  | never => some (.leaf (.constant false))
  | clause plan => some plan.formula
  | junction plan => some plan.formula
  | subquery plan => some plan.formula
  | combine connective left right => Formula.combine? connective left.formula? right.formula?

/-- The condition of a query when it is handed over. -/
def formula (plan : QueryPlan) : Formula := plan.formula?.getD (.leaf (.constant true))

end QueryPlan

namespace AggregateTest

/-- The error of a number that has no text. -/
def notFinite : BuildError := .invalidArgument "aggregate" "value has no finite literal form"

/-- A number has a text if it is finite, and is an error otherwise. -/
theorem literal_cases (q : Quantity) :
    (q.isFinite = true ∧ ∃ text, literal q = .ok text) ∨
      (q.isFinite = false ∧ literal q = .error notFinite) := by
  cases q with
  | integer n => exact .inl ⟨rfl, _, rfl⟩
  | single x | double x =>
      cases x with
      | finite x => exact .inl ⟨rfl, _, rfl⟩
      | _ => exact .inr ⟨rfl, rfl⟩

/-- A test has a text if its numbers are finite, and is an error otherwise. -/
theorem text_cases (test : AggregateTest) :
    (test.isFinite = true ∧ ∃ text, test.text = .ok text) ∨
      (test.isFinite = false ∧ test.text = .error notFinite) := by
  cases test with
  | above q | below q | equal q =>
      rw [isFinite, text]
      obtain ⟨finite, text, h⟩ | ⟨finite, h⟩ := literal_cases q
      · exact .inl ⟨finite, _, by rw [h]; rfl⟩
      · exact .inr ⟨finite, by rw [h]; rfl⟩
  | between low high =>
      rw [isFinite, text]
      obtain ⟨finiteLow, textLow, hl⟩ | ⟨finiteLow, hl⟩ := literal_cases low
      · obtain ⟨finiteHigh, textHigh, hh⟩ | ⟨finiteHigh, hh⟩ := literal_cases high
        · exact .inl ⟨by rw [finiteLow, finiteHigh]; rfl, _, by rw [hl, hh]; rfl⟩
        · exact .inr ⟨by rw [finiteLow, finiteHigh]; rfl, by rw [hl, hh]; rfl⟩
      · exact .inr ⟨by rw [finiteLow]; rfl, by rw [hl]; rfl⟩

theorem isFinite_of_text {test : AggregateTest} {text : String} (h : test.text = .ok text) :
    test.isFinite := by
  obtain ⟨finite, -⟩ | ⟨-, failed⟩ := test.text_cases
  · exact finite
  · rw [failed] at h
    cases h

end AggregateTest

/-- A template is the text, the arguments and the height of a formula. -/
structure Template.Writes (t : Template) (f : Formula) : Prop where
  text : ∀ root : Root, t.renderAt root.item? = Piece.textOfAll (f.outline root)
  arguments : t.arguments = f.arguments
  height : t.height = f.height
  finite : ∀ l ∈ f.leaves, l.isFinite

abbrev WritesEach (clauses : List Clause) (fs : List Formula) : Prop :=
  List.Forall₂ (fun c f => c.template.Writes f) clauses fs

namespace Template

theorem Writes.compare (path : String) (comparison : Comparison) :
    (comparison.compile path).Writes (.leaf (.compare path comparison)) where
  text root := by
    cases comparison with
    | matching test value modifiers =>
        cases test <;>
          simp [Comparison.compile, Comparison.bindOperands, Formula.outline, Leaf.outline,
            Comparison.isAny, Comparison.operands, Piece.text, Mark.text, Comparison.lead, fieldAt,
            String.append_assoc]
    | _ =>
        simp [Comparison.compile, Comparison.bindOperands, Formula.outline, Leaf.outline,
          Comparison.isAny, Comparison.operands, Piece.text, Mark.text, Comparison.lead, fieldAt,
          String.append_assoc]
  arguments := by
    cases comparison <;>
      simp [Comparison.compile, Comparison.bindOperands, Leaf.arguments, Comparison.arguments]
  height := by
    cases comparison <;> rfl
  finite := by simp [Formula.leaves, Leaf.isFinite]

theorem Writes.aggregate {collection field : String} {a : Aggregate} {t : Template}
    (h : a.compile collection field = .ok t) :
    t.Writes (.leaf (.aggregate collection field a)) := by
  unfold Aggregate.compile at h
  cases ht : a.test.text with
  | error e =>
      rw [ht] at h
      cases h
  | ok test =>
      rw [ht] at h
      cases h
      refine ⟨fun root => ?_, ?_, ?_, ?_⟩
      · split <;>
          simp_all [Formula.outline, Leaf.outline, Piece.text, Mark.text, functionAt,
            AggregateTest.written, Except.toOption, String.append_assoc]
      · split <;> simp [Leaf.arguments]
      · split <;> simp [Formula.height]
      · simpa [Formula.leaves, Leaf.isFinite] using AggregateTest.isFinite_of_text ht

variable {t : Template} {f : Formula} {ts : List Template} {fs : List Formula}

theorem renderAt_addClauses (root : Root) (connective : Connective) (t : Template)
    {clauses : List Clause} {fs : List Formula}
    (h : WritesEach clauses fs) :
    (Junction.addClauses connective t clauses).renderAt root.item? =
      t.renderAt root.item? ++ Piece.textOfAll (Formula.outlineOthers root connective fs) := by
  induction h generalizing t with
  | nil => simp [Junction.addClauses, Formula.outlineOthers]
  | cons h rest ih =>
      rw [Junction.addClauses, List.foldl_cons, ← Junction.addClauses, ih]
      simp [Formula.outlineOthers, h.text, Piece.text, Mark.text, String.append_assoc]

theorem arguments_addClauses (connective : Connective) (t : Template)
    {clauses : List Clause} {fs : List Formula}
    (h : WritesEach clauses fs) :
    (Junction.addClauses connective t clauses).arguments =
      t.arguments ++ fs.flatMap Formula.arguments := by
  induction h generalizing t with
  | nil => simp [Junction.addClauses]
  | cons h rest ih =>
      rw [Junction.addClauses, List.foldl_cons, ← Junction.addClauses, ih]
      simp [h.arguments]

theorem height_addClauses (connective : Connective) (t : Template)
    {clauses : List Clause} {fs : List Formula}
    (h : WritesEach clauses fs) :
    (Junction.addClauses connective t clauses).height =
      max t.height (Formula.greatestHeight fs) := by
  induction h generalizing t with
  | nil => simp [Junction.addClauses, Formula.greatestHeight]
  | cons h rest ih =>
      rw [Junction.addClauses, List.foldl_cons, ← Junction.addClauses, ih]
      simp [Formula.greatestHeight, h.height, Nat.max_assoc]

theorem Writes.junction (connective : Connective) {first : Clause} {others : List Clause}
    {f : Formula} {fs : List Formula} (hf : first.template.Writes f)
    (ho : WritesEach others fs) :
    (Junction.ofCons connective first others).template.Writes (.junction connective f fs) where
  text root := by
    simp [Junction.ofCons, Junction.compile, renderAt_addClauses root connective _ ho, hf.text,
      Formula.outline, Piece.text, Mark.text, String.append_assoc]
  arguments := by
    simp [Junction.ofCons, Junction.compile, arguments_addClauses connective _ ho, hf.arguments]
  height := by
    simp [Junction.ofCons, Junction.compile, height_addClauses connective _ ho, hf.height,
      Formula.height]
  finite := by
    simp only [Formula.leaves, Formula.leavesOfAll_eq, List.mem_append, List.mem_flatMap]
    rintro l (hl | ⟨g, hg, hl⟩)
    · exact hf.finite l hl
    · obtain ⟨c, hc⟩ := exists_of_forall₂ ho hg
      exact hc.finite l hl

theorem renderAt_countTest (root : Root) (quantifier : Quantifier) (collection : String) :
    (quantifier.countTest collection).renderAt root.item? =
      Piece.textOfAll (.leave :: quantifier.outline root collection) := by
  cases quantifier with
  | any => simp [Quantifier.countTest, Quantifier.outline, Piece.text, Mark.text]
  | none => simp [Quantifier.countTest, Quantifier.outline, Piece.text, Mark.text]
  | all =>
      simp only [Quantifier.countTest, Quantifier.outline, renderAt_text, renderAt_field,
        renderAt_empty, Piece.textOfAll_cons, Piece.textOfAll_nil, Piece.text, Mark.text, fieldAt,
        String.append_empty, String.empty_append, ← String.append_assoc]
      rfl

theorem arguments_countTest (quantifier : Quantifier) (collection : String) :
    (quantifier.countTest collection).arguments = [] := by
  cases quantifier <;> rfl

theorem Writes.subquery (quantifier : Quantifier) (collection : KeyPath) {inner : Condition}
    {f : Formula} (h : inner.template.Writes f) :
    (Subquery.asking quantifier collection inner).template.Writes
      (.subquery quantifier collection.raw f) where
  text root := by
    have opening : (((((Template.empty.text "SUBQUERY(").field collection.raw).text ", ").text
        (Subquery.itemNameAt f.height)).text ", ").renderAt root.item? =
          (Piece.enter (fieldAt root collection.raw) f.height).text := by
      simp [Piece.text, fieldAt, String.append_assoc]
    -- The inner text was never written down: it is written here, under the item.
    have item : inner.template.renderAt (some (Subquery.itemNameAt f.height)) =
        Piece.textOfAll (f.outline (some f.height)) := h.text (some f.height)
    simp only [Subquery.asking, h.height]
    change Template.renderAt root.item? (Template.append (Template.append _ _) _) = _
    rw [renderAt_append, renderAt_append, opening, renderAt_under, item, renderAt_countTest]
    simp [Formula.outline, String.append_assoc]
  arguments := by
    simp [Subquery.asking, arguments_countTest, h.arguments]
  height := by
    simp [Subquery.asking, Formula.height, h.height]
  finite := h.finite

end Template

/-- A junction is put together of clauses that write its conditions. -/
structure Junction.Writes (j : Junction) (connective : Connective) (fs : List Formula) : Prop where
  clauses : WritesEach j.clauses fs
  template : j.template.Writes (.join connective fs)
  connective : j.connective = connective

theorem Junction.Writes.ofList {connective : Connective} {clauses : List Clause} {j : Junction}
    {fs : List Formula} (h : WritesEach clauses fs) (hj : ofList connective clauses = .ok j) :
    j.Writes connective fs := by
  cases h with
  | nil => cases hj
  | cons hf ho =>
      cases hj
      exact ⟨.cons hf ho, .junction connective hf ho, rfl⟩

theorem Junction.Writes.extend {j : Junction} {connective : Connective} {fs : List Formula}
    {c : Clause} {f : Formula} (h : j.Writes connective fs) (hc : c.template.Writes f) :
    (j.extend c).Writes connective (fs ++ [f]) := by
  obtain ⟨clauses, -, rfl⟩ := h
  unfold Junction.extend
  cases hj : j.clauses with
  | nil =>
      rw [hj] at clauses
      cases clauses
      exact ⟨.cons hc .nil, .junction j.connective hc .nil, rfl⟩
  | cons first others =>
      rw [hj] at clauses
      cases clauses with
      | cons hf ho =>
          have ho' : WritesEach (others ++ [c]) (_ ++ [f]) :=
            List.rel_append ho (.cons hc .nil)
          exact ⟨.cons hf ho', .junction j.connective hf ho', rfl⟩

mutual

/-- A clause that is built writes the condition of its plan. -/
theorem ClausePlan.writes_of_build : ∀ {plan : ClausePlan} {c : Clause}, plan.build = .ok c →
    c.template.Writes plan.formula
  | .compare path comparison => by
      intro h
      cases h
      exact .compare path.raw comparison
  | .expression text comparison => by
      intro h
      simp only [ClausePlan.build, Clause.ofExpression] at h
      split at h
      · cases h
      · cases h
        exact .compare (KeyPath.ofText text).raw comparison
  | .aggregate collection field a => by
      intro h
      simp only [ClausePlan.build, Clause.aggregate] at h
      split at h
      · next ht =>
          cases h
          exact .aggregate ht
      · cases h
  | .subquery plan => by
      intro h
      simp only [ClausePlan.build] at h
      split at h
      · next hs =>
          cases h
          exact SubqueryPlan.writes_of_build hs
      · cases h

theorem ClausePlan.writes_of_buildAll : ∀ {plans : List ClausePlan} {clauses : List Clause},
    ClausePlan.buildAll plans = .ok clauses → WritesEach clauses (ClausePlan.formulas plans)
  | [] => by
      intro h
      cases h
      exact .nil
  | plan :: rest => by
      intro h
      simp only [ClausePlan.buildAll] at h
      split at h
      · cases h
      · next hc =>
          split at h
          · cases h
          · next hr =>
              cases h
              exact .cons (ClausePlan.writes_of_build hc) (ClausePlan.writes_of_buildAll hr)

theorem JunctionPlan.writes_of_build_parts : ∀ {plan : JunctionPlan} {j : Junction},
    plan.build = .ok j → j.Writes plan.parts.1 plan.parts.2
  | .join connective plans => by
      intro h
      simp only [JunctionPlan.build] at h
      split at h
      · cases h
      · next hc => exact .ofList (ClausePlan.writes_of_buildAll hc) h
  | .extend base plan => by
      intro h
      -- An extended junction is compiled anew, so what its clauses write has to be known.
      simp only [JunctionPlan.build] at h
      split at h
      · cases h
      · next hb =>
          split at h
          · cases h
          · next hc =>
              cases h
              exact (JunctionPlan.writes_of_build_parts hb).extend
                (ClausePlan.writes_of_build hc)

theorem ConditionPlan.writes_of_build : ∀ {plan : ConditionPlan} {c : Condition},
    plan.build = .ok c → c.template.Writes plan.formula
  | .clause plan => by
      intro h
      simp only [ConditionPlan.build] at h
      split at h
      · next hc =>
          cases h
          exact ClausePlan.writes_of_build hc
      · cases h
  | .junction plan => by
      intro h
      simp only [ConditionPlan.build] at h
      split at h
      · next hj =>
          cases h
          exact (JunctionPlan.writes_of_build_parts hj).template
      · cases h

theorem SubqueryPlan.writes_of_build : ∀ {plan : SubqueryPlan} {s : Subquery},
    plan.build = .ok s → s.template.Writes plan.formula
  | .asking quantifier collection inner => by
      intro h
      simp only [SubqueryPlan.build] at h
      split at h
      · next hi =>
          cases h
          exact .subquery quantifier collection (ConditionPlan.writes_of_build hi)
      · cases h
  | .askingAll quantifier connective collection plans => by
      intro h
      simp only [SubqueryPlan.build, Subquery.askingAll] at h
      split at h
      · cases h
      · next hc =>
          split at h
          · next hj =>
              cases h
              have hi : (Condition.junction _).template.Writes _ :=
                (Junction.Writes.ofList (ClausePlan.writes_of_buildAll hc) hj).template
              exact .subquery quantifier collection hi
          · cases h

end

theorem JunctionPlan.writes_of_build {plan : JunctionPlan} {j : Junction}
    (h : plan.build = .ok j) : j.template.Writes plan.formula :=
  (JunctionPlan.writes_of_build_parts h).template

theorem Mark.text_ne_empty (m : Mark) : m.text ≠ "" := by
  cases m with
  | separator connective => cases connective <;> decide
  | constant b => cases b <;> decide
  | count quantifier => cases quantifier <;> decide
  | operator comparison => simp [text]
  | bounds test => simp [text]
  | _ => decide

theorem Piece.textOfAll_ne_empty {pieces : List Piece} {p : Piece} (hp : p ∈ pieces)
    (h : p.text ≠ "") : textOfAll pieces ≠ "" := by
  obtain ⟨front, rest, rfl⟩ := List.append_of_mem hp
  simp [h]

/-- The text of a formula is never empty. -/
theorem Formula.text_ne_empty (root : Root) (f : Formula) :
    Piece.textOfAll (f.outline root) ≠ "" := by
  have mark {m : Mark} (h : Piece.mark m ∈ f.outline root) :
      Piece.textOfAll (f.outline root) ≠ "" :=
    Piece.textOfAll_ne_empty h m.text_ne_empty
  cases f with
  | leaf l =>
      cases l with
      | constant b => exact mark (m := .constant b) (by simp [outline, Leaf.outline])
      | compare path comparison =>
          exact mark (m := .operator comparison) (by simp [outline, Leaf.outline])
      | aggregate collection field a =>
          exact mark (m := .bounds a.test) (by simp [outline, Leaf.outline])
  | junction connective first others => exact mark (m := .opening) (by simp [outline])
  | subquery quantifier collection inner =>
      refine mark (m := .count quantifier) ?_
      cases quantifier <;> simp [outline, Quantifier.outline]

/-- A query has the text and the arguments of a formula. -/
structure Query.Writes (q : Query) (f : Formula) : Prop where
  format : q.format = Piece.textOfAll (f.outline none)
  arguments : q.arguments = f.arguments
  finite : ∀ l ∈ f.leaves, l.isFinite

namespace Query

theorem Writes.ofTemplate {t : Template} {f : Formula} (h : t.Writes f) :
    (ofTemplate t).Writes f :=
  ⟨h.text none, h.arguments, h.finite⟩

theorem Writes.isEmpty {q : Query} {f : Formula} (h : q.Writes f) : q.isEmpty = false := by
  simpa [Query.isEmpty, h.format] using f.text_ne_empty none

theorem Writes.combine {p q : Query} {f g : Formula} (connective : Connective) (hp : p.Writes f)
    (hq : q.Writes g) : (combine connective p q).Writes (.junction connective f [g]) := by
  rw [Query.combine, hq.isEmpty, hp.isEmpty]
  refine ⟨?_, ?_, ?_⟩
  · simp [Formula.outline, Formula.outlineOthers, hp.format, hq.format, Piece.text, Mark.text,
      String.append_assoc]
  · simp [hp.arguments, hq.arguments]
  · simp only [Formula.leaves, Formula.leavesOfAll, List.append_nil, List.mem_append]
    rintro l (hl | hl)
    · exact hp.finite l hl
    · exact hq.finite l hl

/-- A query has the text of a formula, or it asks nothing. -/
def Asks (q : Query) : Option Formula → Prop
  | none => q = .empty
  | some f => q.Writes f

theorem Asks.combine {p q : Query} {f? g? : Option Formula} (connective : Connective)
    (hp : p.Asks f?) (hq : q.Asks g?) :
    (Query.combine connective p q).Asks (Formula.combine? connective f? g?) := by
  -- The combination looks at the second query first.
  cases g? with
  | none =>
      have hq : q = .empty := hq
      subst hq
      cases f? with
      | none => exact hp
      | some f => exact hp
  | some g =>
      have hq : q.Writes g := hq
      cases f? with
      | none =>
          have hp : p = .empty := hp
          subst hp
          have : Query.combine connective .empty q = q := by
            rw [Query.combine, hq.isEmpty]
            rfl
          rw [this]
          exact hq
      | some f => exact Writes.combine connective hp hq

end Query

/-- A query that is built asks what its plan says. -/
theorem QueryPlan.asks_of_build {plan : QueryPlan} {q : Query} (h : plan.build = .ok q) :
    q.Asks plan.formula? := by
  induction plan generalizing q with
  | empty =>
      cases h
      rfl
  | always | never =>
      cases h
      exact ⟨rfl, rfl, by simp [Formula.leaves, Leaf.isFinite]⟩
  | clause plan =>
      simp only [build] at h
      split at h
      · next hc =>
          cases h
          exact .ofTemplate (ClausePlan.writes_of_build hc)
      · cases h
  | junction plan =>
      simp only [build] at h
      split at h
      · next hj =>
          cases h
          exact .ofTemplate (JunctionPlan.writes_of_build hj)
      · cases h
  | subquery plan =>
      simp only [build] at h
      split at h
      · next hs =>
          cases h
          exact .ofTemplate (SubqueryPlan.writes_of_build hs)
      · cases h
  | combine connective left right ihl ihr =>
      simp only [build] at h
      split at h
      · cases h
      · next hl =>
          split at h
          · cases h
          · next hr =>
              cases h
              exact .combine connective (ihl hl) (ihr hr)

/-- What is handed over writes the condition of the plan. -/
theorem QueryPlan.handOver_of_build {plan : QueryPlan} {q : Query} (h : plan.build = .ok q) :
    q.handOver = (Piece.textOfAll (plan.formula.outline none), plan.formula.arguments) ∧
      ∀ l ∈ plan.formula.leaves, l.isFinite := by
  have asks := asks_of_build h
  unfold formula
  cases hf : plan.formula? with
  | none =>
      rw [hf] at asks
      have hq : q = .empty := asks
      subst hq
      exact ⟨rfl, by simp [Formula.leaves, Leaf.isFinite]⟩
  | some f =>
      rw [hf] at asks
      have writes : q.Writes f := asks
      refine ⟨?_, writes.finite⟩
      simp [Query.handOver, writes.isEmpty, writes.format, writes.arguments]

def Bookshelf.askingWho : QueryPlan :=
  .subquery (.asking .any ⟨"chapters"⟩ (.junction (.join .and
    [.compare ⟨"wordCount"⟩ (.ordered .above (.integer 3000)),
      .compare ⟨"title"⟩ (.matching .contains (.text "who?") .folded)])))

end Winnow
