import Winnow.Bookshelf
import Winnow.Condition.Subquery
import Winnow.Proofs.Condition.Rendering

/-!
Two ways to name a field: by its path, and by the expression of the path. They give the same clause,
so the same text and the same arguments wherever the clause is put, unless the path is that of the
element itself. Its expression stands for the element in a text, but under a variable it is taken
for the name of a member.
-/

namespace Winnow

/-! ### Templates with a text put in -/

namespace Template

/-- A template is another one with a text put in somewhere, which may depend on the root. -/
structure Inserts (extra : Option String → String) (t u : Template) : Prop where
  arguments : u.arguments = t.arguments
  height : u.height = t.height
  text : ∀ root, ∃ front back,
    t.renderAt root = front ++ back ∧ u.renderAt root = front ++ extra root ++ back

namespace Inserts

variable {extra : Option String → String} {t u : Template}

theorem append (h : Inserts extra t u) (w : Template) :
    Inserts extra (t.append w) (u.append w) where
  arguments := by simp [h.arguments]
  height := by simp [h.height]
  text root := by
    obtain ⟨front, back, ht, hu⟩ := h.text root
    exact ⟨front, back ++ w.renderAt root, by simp [ht, String.append_assoc],
      by simp [hu, String.append_assoc]⟩

theorem append_left (h : Inserts extra t u) (w : Template) :
    Inserts extra (w.append t) (w.append u) where
  arguments := by simp [h.arguments]
  height := by simp [h.height]
  text root := by
    obtain ⟨front, back, ht, hu⟩ := h.text root
    exact ⟨w.renderAt root ++ front, back, by simp [ht, String.append_assoc],
      by simp [hu, String.append_assoc]⟩

theorem text_append (h : Inserts extra t u) (s : String) :
    Inserts extra (t.text s) (u.text s) where
  arguments := h.arguments
  height := h.height
  text root := by
    obtain ⟨front, back, ht, hu⟩ := h.text root
    exact ⟨front, back ++ s, by simp [ht, String.append_assoc], by simp [hu, String.append_assoc]⟩

theorem bind (h : Inserts extra t u) (argument : Argument) :
    Inserts extra (t.bind argument) (u.bind argument) where
  arguments := by simp [h.arguments]
  height := h.height
  text root := (h.text_append "?").text root

/-- Under a variable, the text is the one at the variable wherever the template is put. -/
theorem under (h : Inserts extra t u) (item : String) :
    Inserts (fun _ => extra (some item)) (t.under item) (u.under item) where
  arguments := h.arguments
  height := h.height
  text root := by
    simp only [renderAt_under]
    exact h.text (some item)

theorem raised (h : Inserts extra t u) (height : Nat) :
    Inserts extra { t with height := height } { u with height := height } where
  arguments := h.arguments
  height := rfl
  text := h.text

end Inserts

end Template

/-- What the expression of the element adds to the name of the element. -/
def selfMember : Option String → String
  | none => ""
  | some _ => "." ++ selfExpression

theorem Template.Inserts.field (t : Template) :
    Inserts selfMember (t.field "") (t.field selfExpression) where
  arguments := rfl
  height := rfl
  text root := by
    refine ⟨(t.field "").renderAt root, "", (String.append_empty).symm, ?_⟩
    cases root with
    | none => simp [selfMember, Segment.renderAt, Segment.render, selfExpression]
    | some root =>
        simp [selfMember, Segment.renderAt, Segment.renderUnder, selfExpression,
          String.append_assoc]

theorem Comparison.inserts_compile (c : Comparison) :
    Template.Inserts selfMember (c.compile "") (c.compile selfExpression) := by
  have left := ((((Template.Inserts.field (Template.empty.text c.lead)).text_append " ").text_append
    c.keyword).text_append c.suffix).text_append " "
  cases c with
  | between low high =>
      exact ((((left.text_append "\x7b ").bind low.bind).text_append ", ").bind
        high.bind).text_append " \x7d"
  | matching test value modifiers => exact left.bind _
  | member values modifiers => exact left.bind _
  | ordered side value => exact left.bind _

/-! ### Surroundings of a clause -/

/-- The clauses before and after another one under a connective. -/
structure Siblings where
  connective : Connective
  before : List Clause
  after : List Clause

def Siblings.around (s : Siblings) (c : Clause) : Junction :=
  match s.before with
  | [] => .ofCons s.connective c s.after
  | first :: rest => .ofCons s.connective first (rest ++ c :: s.after)

theorem Siblings.ofList_around (s : Siblings) (c : Clause) :
    Junction.ofList s.connective (s.before ++ c :: s.after) = .ok (s.around c) := by
  obtain ⟨connective, _ | ⟨first, rest⟩, after⟩ := s <;> rfl

/-- A clause as a condition, by itself or with siblings. -/
def Clause.among (c : Clause) : Option Siblings → Condition
  | none => .clause c
  | some s => .junction (s.around c)

/-- A subquery around a clause: it asks for items that satisfy the clause and its siblings. -/
structure Nesting where
  quantifier : Quantifier
  collection : KeyPath
  siblings? : Option Siblings

/-- The subquery around a clause, as a clause. -/
def Nesting.around (n : Nesting) (c : Clause) : Clause :=
  (Subquery.asking n.quantifier n.collection (c.among n.siblings?)).toClause

/-- A clause inside subqueries, from the inside out. -/
def Clause.inside (c : Clause) (nestings : List Nesting) : Clause :=
  nestings.foldl (fun c n => n.around c) c

namespace Template.Inserts

variable {extra : Option String → String} {t u : Template} {c d : Clause}

theorem addClauses (h : Inserts extra t u) (connective : Connective) (clauses : List Clause) :
    Inserts extra (Junction.addClauses connective t clauses)
      (Junction.addClauses connective u clauses) := by
  induction clauses generalizing t u with
  | nil => exact h
  | cons c clauses ih => exact ih ((h.text_append connective.separator).append c.template)

theorem among (h : Inserts extra c.template d.template) (siblings? : Option Siblings) :
    Inserts extra (c.among siblings?).template (d.among siblings?).template := by
  cases siblings? with
  | none => exact h
  | some s =>
      obtain ⟨connective, before, after⟩ := s
      cases before with
      | nil => exact ((h.append_left _).addClauses connective after).text_append ")"
      | cons first rest =>
          have front := (h.append_left ((Junction.addClauses connective
            ((Template.empty.text "(").append first.template) rest).text connective.separator))
          have whole := (front.addClauses connective after).text_append ")"
          simpa [Clause.among, Siblings.around, Condition.template, Junction.ofCons,
            Junction.compile, Junction.addClauses] using whole

theorem around (h : Inserts extra c.template d.template) (n : Nesting) :
    ∃ item, Inserts (fun _ => extra (some item)) (n.around c).template (n.around d).template := by
  have inner := h.among n.siblings?
  refine ⟨Subquery.itemNameAt (c.among n.siblings?).template.height, ?_⟩
  unfold Nesting.around Subquery.asking
  dsimp only
  rw [inner.height]
  exact (((inner.under _).append_left _).append _).raised _

/-- Inside a subquery, what is put in does not depend on the root any more. -/
theorem inside (h : Inserts extra c.template d.template) {member : String}
    (constant : ∀ item, extra (some item) = member) {nestings : List Nesting}
    (nested : nestings ≠ []) :
    Inserts (fun _ => member) (c.inside nestings).template (d.inside nestings).template := by
  induction nestings generalizing c d extra with
  | nil => exact absurd rfl nested
  | cons n nestings ih =>
      -- The innermost subquery fixes the text; the others only carry it along.
      obtain ⟨item, outer⟩ := h.around n
      rw [constant item] at outer
      cases nestings with
      | nil => exact outer
      | cons m nestings => exact ih outer (fun _ => rfl) (List.cons_ne_nil m nestings)

/-- The text changes exactly if what is put in is not empty there. -/
theorem render_eq_iff (h : Inserts extra t u) : u.render = t.render ↔ extra none = "" := by
  obtain ⟨front, back, ht, hu⟩ := h.text none
  rw [render_eq, render_eq, ht, hu]
  constructor
  · intro same
    have lengths := congrArg String.length same
    simp only [String.length_append] at lengths
    exact String.length_eq_zero_iff.mp (by omega)
  · intro nothing
    rw [nothing, String.append_empty]

end Template.Inserts

/-! ### The two ways -/

theorem Clause.ofExpression_of_not_isElement {path : KeyPath}
    (trimmed : Text.trim path.raw = path.raw) (field : path.isElement = false)
    (comparison : Comparison) :
    ofExpression path.expression comparison = .ok (compare path comparison) := by
  have same : KeyPath.ofText path.expression = path := by
    rw [KeyPath.expression, field, KeyPath.ofText]
    exact congrArg KeyPath.mk trimmed
  rw [ofExpression, same, field]
  rfl

theorem Clause.ofExpression_element (comparison : Comparison) :
    ofExpression KeyPath.element.expression comparison =
      .ok (compare ⟨selfExpression⟩ comparison) := rfl

/-- A clause on the expression of the element differs from one on the element itself by a text put
in, wherever both are put. The text is empty if that is not inside a subquery. -/
theorem Clause.inserts_inside (comparison : Comparison) (nestings : List Nesting)
    (siblings? : Option Siblings) :
    ∃ extra, (extra none = "" ↔ nestings = []) ∧ Template.Inserts extra
      (((compare .element comparison).inside nestings).among siblings?).template
      (((compare ⟨selfExpression⟩ comparison).inside nestings).among siblings?).template := by
  have inserts : Template.Inserts selfMember (compare .element comparison).template
      (compare ⟨selfExpression⟩ comparison).template := comparison.inserts_compile
  by_cases top : nestings = []
  · subst top
    exact ⟨selfMember, by simp [selfMember], inserts.among siblings?⟩
  · have nested := inserts.inside (fun _ => rfl) top
    exact ⟨fun _ => "." ++ selfExpression, by simp [top, selfExpression], nested.among siblings?⟩

/-- A clause on the expression of a path can be built, and it has the arguments of the clause on the
path wherever it is put. It has its text too, unless the path is that of the element and the clause
is put inside a subquery. -/
theorem Clause.ofExpression_inside {path : KeyPath} (trimmed : Text.trim path.raw = path.raw)
    (comparison : Comparison) (nestings : List Nesting) (siblings? : Option Siblings) :
    ∃ c, ofExpression path.expression comparison = .ok c ∧
      ((c.inside nestings).among siblings?).template.arguments =
        (((compare path comparison).inside nestings).among siblings?).template.arguments ∧
      (((c.inside nestings).among siblings?).template.render =
          (((compare path comparison).inside nestings).among siblings?).template.render ↔
        (path.isElement → nestings = [])) := by
  cases element : path.isElement with
  | false =>
      exact ⟨_, ofExpression_of_not_isElement trimmed element comparison, rfl, by simp⟩
  | true =>
      obtain rfl : path = .element := congrArg KeyPath.mk (String.isEmpty_iff.mp element)
      obtain ⟨extra, top, inserts⟩ := inserts_inside comparison nestings siblings?
      exact ⟨_, ofExpression_element comparison, inserts.arguments, by
        rw [inserts.render_eq_iff, top]; simp⟩

namespace Bookshelf

def longChapter : Clause := .compare ⟨"wordCount"⟩ (.ordered .above (.integer 4000))

def isDesert : Comparison := .matching .equal (.text "Desert") .none

/-- The title of a chapter may be named either way inside a subquery, but not a tag by itself. -/
theorem title_named_tag_misnamed :
    (∃ c j k, Clause.ofExpression "title" isDesert = .ok c ∧
        Junction.ofList .and [longChapter, c] = .ok j ∧
        Junction.ofList .and [longChapter, .compare ⟨"title"⟩ isDesert] = .ok k ∧
        (Subquery.asking .any ⟨"chapters"⟩ (.junction j)).format =
          (Subquery.asking .any ⟨"chapters"⟩ (.junction k)).format) ∧
      ∃ c, Clause.ofExpression "SELF" isDesert = .ok c ∧
        (Subquery.asking .any ⟨"tags"⟩ (.clause c)).format ≠
          (Subquery.asking .any ⟨"tags"⟩ (.clause (.compare .element isDesert))).format := by
  constructor
  · let siblings : Siblings := ⟨.and, [longChapter], []⟩
    obtain ⟨c, hc, -, same⟩ := @Clause.ofExpression_inside ⟨"title"⟩ (by decide +kernel) isDesert
      [⟨.any, ⟨"chapters"⟩, some siblings⟩] none
    exact ⟨c, _, _, hc, siblings.ofList_around c, siblings.ofList_around _,
      same.mpr fun element => absurd element (by decide +kernel)⟩
  · obtain ⟨c, hc, -, same⟩ := @Clause.ofExpression_inside .element (by decide +kernel) isDesert
      [⟨.any, ⟨"tags"⟩, none⟩] none
    exact ⟨c, hc, fun texts => List.cons_ne_nil _ _ (same.mp texts rfl)⟩

end Bookshelf

end Winnow
