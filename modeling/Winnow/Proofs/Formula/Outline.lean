import Winnow.Proofs.Condition.Rendering
import Winnow.Proofs.Formula.Basic

/-!
The text of a formula as a list of pieces. The marks of the language, the names of fields, the
places of arguments and the ends of subqueries are kept apart, so what a text says of variables and
placeholders can be read off its pieces.
-/

namespace Winnow

/-- What the fields of a condition are read from: the element, or the item that the variable with a
number stands for. -/
abbrev Root := Option Nat

def Root.item? (root : Root) : Option String := root.map Subquery.itemNameAt

/-- The name of a field at a root. -/
def fieldAt (root : Root) (path : String) : String := (Segment.field path).renderAt root.item?

/-- The name of a function of a collection, and of the field that it takes from each item. -/
def functionAt (root : Root) (collection field : String) (a : AggregateFunction) : String :=
  (Segment.owner collection).renderAt root.item? ++ a.keyword ++
    if field.isEmpty then "" else "." ++ field

namespace AggregateTest

def written (test : AggregateTest) : String := test.text.toOption.getD ""

end AggregateTest

/-- A piece of the language that names no field. -/
inductive Mark where
  | opening
  | closing
  | separator (connective : Connective)
  | constant (b : Bool)
  | any
  | operator (comparison : Comparison)
  | listOpening
  | comma
  | listClosing
  | bounds (test : AggregateTest)
  | count (quantifier : Quantifier)

def Mark.text : Mark → String
  | opening => "("
  | closing => ")"
  | separator connective => connective.separator
  | constant b => if b then truePredicate else falsePredicate
  | any => "ANY "
  | operator comparison => " " ++ comparison.keyword ++ comparison.suffix ++ " "
  | listOpening => "\x7b "
  | comma => ", "
  | listClosing => " \x7d"
  | bounds test => " " ++ test.written
  | count .any => ".@count > 0"
  | count .all => ".@count == "
  | count .none => ".@count == 0"

/-- A piece of the text of a formula. -/
inductive Piece where
  | mark (m : Mark)
  /-- A field, or a function of a collection. -/
  | name (name : String)
  | slot (argument : Argument)
  /-- The front of a subquery up to the condition on the items. -/
  | enter (collection : String) (item : Nat)
  /-- The parenthesis after the condition on the items. -/
  | leave

namespace Piece

def text : Piece → String
  | mark m => m.text
  | name s => s
  | slot _ => "?"
  | enter collection item => "SUBQUERY(" ++ collection ++ ", " ++ Subquery.itemNameAt item ++ ", "
  | leave => ")"

theorem toList_text_slot (a : Argument) : (slot a).text.toList = ['?'] := by
  rw [text]
  decide

def textOfAll : List Piece → String
  | [] => ""
  | p :: rest => p.text ++ textOfAll rest

@[simp] theorem textOfAll_nil : textOfAll [] = "" := rfl

@[simp] theorem textOfAll_cons (p : Piece) (rest : List Piece) :
    textOfAll (p :: rest) = p.text ++ textOfAll rest := rfl

@[simp] theorem textOfAll_append (pieces more : List Piece) :
    textOfAll (pieces ++ more) = textOfAll pieces ++ textOfAll more := by
  induction pieces with
  | nil => simp
  | cons p pieces ih => simp [ih, String.append_assoc]

end Piece

namespace Comparison

def operands : Comparison → List Piece
  | matching _ value _ => [.slot value.bind]
  | member values _ => [.slot (.list (Value.bindAll values))]
  | between low high =>
    [.mark .listOpening, .slot low.bind, .mark .comma, .slot high.bind, .mark .listClosing]
  | ordered _ value => [.slot value.bind]

def isAny : Comparison → Bool
  | matching .anyEqual _ _ => true
  | _ => false

end Comparison

def Leaf.outline (root : Root) : Leaf → List Piece
  | constant b => [.mark (.constant b)]
  | compare path comparison =>
    (if comparison.isAny then [.mark .any] else []) ++
      .name (fieldAt root path) :: .mark (.operator comparison) :: comparison.operands
  | aggregate collection field a =>
    [.name (functionAt root collection field a.function), .mark (.bounds a.test)]

def Quantifier.outline (root : Root) (collection : String) : Quantifier → List Piece
  | any => [.mark (.count .any)]
  | all => [.mark (.count .all), .name (fieldAt root collection ++ ".@count")]
  | none => [.mark (.count .none)]

namespace Formula

mutual

def outline (root : Root) : Formula → List Piece
  | .leaf l => l.outline root
  | .junction connective first others =>
    .mark .opening :: first.outline root ++ outlineOthers root connective others ++
      [.mark .closing]
  | .subquery quantifier collection inner =>
    .enter (fieldAt root collection) inner.height :: inner.outline (some inner.height) ++
      .leave :: quantifier.outline root collection

def outlineOthers (root : Root) (connective : Connective) : List Formula → List Piece
  | [] => []
  | f :: rest =>
    .mark (.separator connective) :: f.outline root ++ outlineOthers root connective rest

end

end Formula

/-- The pieces that formulas consist of, with what is known of their paths. -/
inductive Piece.IsMade (known : String → Prop) : Piece → Prop where
  | mark (m : Mark) (finite : ∀ test, m = .bounds test → test.isFinite) : IsMade known (.mark m)
  | slot (argument : Argument) : IsMade known (.slot argument)
  | leave : IsMade known .leave
  | field (root : Root) (path : String) (h : known path) :
    IsMade known (.name (fieldAt root path))
  | total (root : Root) (path : String) (h : known path) :
    IsMade known (.name (fieldAt root path ++ ".@count"))
  | function (root : Root) (collection field : String) (a : AggregateFunction)
    (hc : known collection) (hf : known field) :
    IsMade known (.name (functionAt root collection field a))
  | enter (root : Root) (path : String) (item : Nat) (h : known path) :
    IsMade known (.enter (fieldAt root path) item)

namespace Formula

variable {known : String → Prop} (root : Root)

theorem isMade_operands (comparison : Comparison) : ∀ p ∈ comparison.operands, p.IsMade known := by
  intro p hp
  cases comparison with
  | between low high =>
      simp only [Comparison.operands, List.mem_cons, List.not_mem_nil, or_false] at hp
      rcases hp with rfl | rfl | rfl | rfl | rfl
      · exact .mark _ (by simp)
      · exact .slot _
      · exact .mark _ (by simp)
      · exact .slot _
      · exact .mark _ (by simp)
  | _ =>
      rw [List.mem_singleton.mp hp]
      exact .slot _

theorem isMade_leaf {l : Leaf} (paths : ∀ path ∈ l.paths, known path) (finite : l.isFinite) :
    ∀ p ∈ l.outline root, p.IsMade known := by
  intro p hp
  cases l with
  | constant b =>
      rw [List.mem_singleton.mp hp]
      exact .mark _ (by simp)
  | aggregate collection field a =>
      simp only [Leaf.paths, List.mem_cons, List.not_mem_nil, or_false, forall_eq_or_imp,
        forall_eq] at paths
      simp only [Leaf.outline, List.mem_cons, List.not_mem_nil, or_false] at hp
      rcases hp with rfl | rfl
      · exact .function root collection field a.function paths.1 paths.2
      · refine .mark _ ?_
        rintro test ⟨⟩
        exact finite
  | compare path comparison =>
      simp only [Leaf.paths, List.mem_singleton, forall_eq] at paths
      simp only [Leaf.outline, List.mem_cons, List.mem_append] at hp
      rcases hp with hp | rfl | rfl | hp
      · split at hp
        · rw [List.mem_singleton.mp hp]
          exact .mark _ (by simp)
        · cases hp
      · exact .field root path paths
      · exact .mark _ (by simp)
      · exact isMade_operands comparison p hp

theorem isMade_quantifier (quantifier : Quantifier) {collection : String} (h : known collection) :
    ∀ p ∈ quantifier.outline root collection, p.IsMade known := by
  intro p hp
  cases quantifier with
  | all =>
      simp only [Quantifier.outline, List.mem_cons, List.not_mem_nil, or_false] at hp
      rcases hp with rfl | rfl
      · exact .mark _ (by simp)
      · exact .total root collection h
  | any | none =>
      rw [List.mem_singleton.mp hp]
      exact .mark _ (by simp)

theorem mem_outlineOthers {root : Root} {connective : Connective} {others : List Formula}
    {p : Piece} (h : p ∈ outlineOthers root connective others) :
    p = .mark (.separator connective) ∨ ∃ f ∈ others, p ∈ f.outline root := by
  induction others with
  | nil => cases h
  | cons f rest ih =>
      simp only [outlineOthers, List.cons_append, List.mem_cons, List.mem_append] at h
      rcases h with rfl | h | h
      · exact .inl rfl
      · exact .inr ⟨f, List.mem_cons_self, h⟩
      · exact (ih h).imp_right fun ⟨g, hg, h⟩ => ⟨g, List.mem_cons_of_mem f hg, h⟩

/-- The pieces of a formula are made of its paths and of finite numbers. -/
theorem isMade_outline {f : Formula} (paths : ∀ path ∈ f.paths, known path)
    (finite : ∀ l ∈ f.leaves, l.isFinite) : ∀ p ∈ f.outline root, p.IsMade known := by
  induction f generalizing root with
  | leaf l => exact isMade_leaf root paths (finite l (by simp [leaves]))
  | junction connective first others ihf iho =>
      simp only [Formula.paths, pathsOfAll_eq, leaves, leavesOfAll_eq, List.mem_append,
        List.mem_flatMap] at paths finite
      intro p hp
      simp only [outline, List.cons_append, List.mem_cons, List.mem_append, List.not_mem_nil,
        or_false] at hp
      rcases hp with rfl | (hp | hp) | rfl
      · exact .mark _ (by simp)
      · exact ihf root (fun path h => paths path (.inl h)) (fun l h => finite l (.inl h)) p hp
      · rcases mem_outlineOthers hp with rfl | ⟨g, hg, hp⟩
        · exact .mark _ (by simp)
        · exact iho g hg root (fun path h => paths path (.inr ⟨g, hg, h⟩))
            (fun l h => finite l (.inr ⟨g, hg, h⟩)) p hp
      · exact .mark _ (by simp)
  | subquery quantifier collection inner ih =>
      simp only [Formula.paths, List.mem_cons, forall_eq_or_imp] at paths
      intro p hp
      simp only [outline, List.cons_append, List.mem_cons, List.mem_append] at hp
      rcases hp with rfl | hp | rfl | hp
      · exact .enter root collection inner.height paths.1
      · exact ih (some inner.height) paths.2 finite p hp
      · exact .leave
      · exact isMade_quantifier root quantifier paths.1 p hp

end Formula

end Winnow
