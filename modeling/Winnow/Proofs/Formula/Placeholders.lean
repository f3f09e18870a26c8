import Winnow.Proofs.Formula.Tokens

/-!
Placeholders and arguments. Where no path has a question mark, the question marks of a text are the
places of its arguments, one for each and in their order, so a reader who puts literals in their
place sees every value where it belongs.
-/

namespace Winnow

namespace Piece

/-- The argument whose place a piece is. -/
def slot? : Piece → Option Argument
  | slot argument => some argument
  | _ => none

/-- A piece as a human reader sees it. -/
def shown : Piece → String
  | slot argument => argument.literal
  | p => p.text

def shownAll : List Piece → String
  | [] => ""
  | p :: rest => p.shown ++ shownAll rest

theorem shownAll_append (pieces more : List Piece) :
    shownAll (pieces ++ more) = shownAll pieces ++ shownAll more := by
  induction pieces with
  | nil => simp [shownAll]
  | cons p pieces ih => simp [shownAll, ih, String.append_assoc]

/-- Only the place of an argument has a question mark. -/
def IsPlain (p : Piece) : Prop := p.slot? = none → '?' ∉ p.text.toList

theorem eq_slot_or_text (p : Piece) : (∃ a, p = .slot a) ∨ p.slot? = none ∧ p.shown = p.text := by
  cases p with
  | slot a => exact .inl ⟨a, rfl⟩
  | _ => exact .inr ⟨rfl, rfl⟩

end Piece

/-! ### Literals in the place of arguments -/

namespace Query

theorem substitute_append_of_not_mem {text : List Char} (h : '?' ∉ text) (rest : List Char)
    (arguments : List Argument) :
    substitute (text ++ rest) arguments = text ++ substitute rest arguments := by
  induction text with
  | nil => rfl
  | cons c text ih =>
      rw [List.mem_cons, not_or] at h
      rw [List.cons_append, substitute, ih h.2]
      · rfl
      · rintro argument more - rfl
        exact absurd rfl h.1

end Query

namespace Piece

/-- Literals take the places of the arguments of pieces one by one. -/
theorem substitute_textOfAll {pieces : List Piece} (plain : ∀ p ∈ pieces, p.IsPlain)
    (rest : List Char) (more : List Argument) :
    Query.substitute ((textOfAll pieces).toList ++ rest) (pieces.filterMap slot? ++ more) =
      (shownAll pieces).toList ++ Query.substitute rest more := by
  induction pieces with
  | nil => simp [shownAll]
  | cons p pieces ih =>
      have ih := ih fun q hq => plain q (List.mem_cons_of_mem p hq)
      rw [textOfAll_cons, String.toList_append, List.append_assoc]
      rcases p.eq_slot_or_text with ⟨a, rfl⟩ | ⟨hn, hs⟩
      · -- The literal is passed over, so its own question marks are no places.
        rw [List.filterMap_cons_some (by rfl), toList_text_slot, List.singleton_append,
          List.cons_append, Query.substitute, ih]
        simp [shownAll, shown]
      · rw [List.filterMap_cons_none hn,
          Query.substitute_append_of_not_mem (plain p List.mem_cons_self hn), ih]
        simp [shownAll, hs]

/-- The question marks of a text are as many as the arguments of its pieces. -/
theorem count_textOfAll {pieces : List Piece} (plain : ∀ p ∈ pieces, p.IsPlain) :
    (textOfAll pieces).toList.count '?' = (pieces.filterMap slot?).length := by
  induction pieces with
  | nil => simp
  | cons p pieces ih =>
      have ih := ih fun q hq => plain q (List.mem_cons_of_mem p hq)
      rw [textOfAll_cons, String.toList_append, List.count_append, ih]
      rcases p.eq_slot_or_text with ⟨a, rfl⟩ | ⟨hn, -⟩
      · rw [List.filterMap_cons_some (by rfl), toList_text_slot, List.count_singleton_self,
          List.length_cons, Nat.add_comm]
      · rw [List.filterMap_cons_none hn,
          List.count_eq_zero_of_not_mem (plain p List.mem_cons_self hn), Nat.zero_add]

end Piece

/-! ### The places of the arguments of a formula -/

theorem slots_operands (comparison : Comparison) :
    comparison.operands.filterMap Piece.slot? = comparison.arguments := by
  cases comparison <;> rfl

theorem slots_leaf (root : Root) (l : Leaf) :
    (l.outline root).filterMap Piece.slot? = l.arguments := by
  cases l with
  | constant b => rfl
  | aggregate collection field a => rfl
  | compare path comparison =>
      rw [Leaf.arguments, ← slots_operands, Leaf.outline]
      cases comparison.isAny <;> rfl

theorem slots_quantifier (root : Root) (quantifier : Quantifier) (collection : String) :
    (quantifier.outline root collection).filterMap Piece.slot? = [] := by
  cases quantifier <;> rfl

theorem slots_others {root : Root} (connective : Connective) {others : List Formula}
    (h : ∀ f ∈ others, (f.outline root).filterMap Piece.slot? = f.arguments) :
    (Formula.outlineOthers root connective others).filterMap Piece.slot? =
      others.flatMap Formula.arguments := by
  induction others with
  | nil => rfl
  | cons f rest ih =>
      rw [Formula.outlineOthers, List.cons_append, List.filterMap_cons_none (by rfl),
        List.filterMap_append, h f List.mem_cons_self,
        ih fun g hg => h g (List.mem_cons_of_mem f hg), List.flatMap_cons]

/-- The arguments stand in the text in the order of the leaves. -/
theorem slots_outline (root : Root) (f : Formula) :
    (f.outline root).filterMap Piece.slot? = f.arguments := by
  induction f generalizing root with
  | leaf l => rw [Formula.outline, slots_leaf, Formula.arguments_leaf]
  | junction connective first others ihf iho =>
      have others := slots_others connective fun f hf => iho f hf root
      rw [Formula.outline, List.cons_append, List.cons_append, List.filterMap_cons_none (by rfl),
        List.filterMap_append, List.filterMap_append, ihf, others,
        List.filterMap_cons_none (by rfl), List.filterMap_nil, List.append_nil,
        Formula.arguments_junction]
  | subquery quantifier collection inner ih =>
      rw [Formula.outline, List.cons_append, List.filterMap_cons_none (by rfl),
        List.filterMap_append, ih, List.filterMap_cons_none (by rfl), slots_quantifier,
        List.append_nil, Formula.arguments_subquery]

/-! ### Names without question marks -/

theorem not_mem_itemNameAt (n : Nat) : '?' ∉ (Subquery.itemNameAt n).toList := fun h =>
  absurd ((isWord_itemNameAt n).part '?' h) (by decide)

theorem not_mem_fieldAt (root : Root) {path : String} (h : '?' ∉ path.toList) :
    '?' ∉ (fieldAt root path).toList := by
  cases root with
  | none =>
      rw [fieldAt_none]
      split
      · decide
      · exact h
  | some n =>
      rw [fieldAt_some]
      split
      · exact not_mem_itemNameAt n
      · simp [String.toList_append, not_mem_itemNameAt, h]

theorem not_mem_functionAt (root : Root) {collection field : String} (a : AggregateFunction)
    (hc : '?' ∉ collection.toList) (hf : '?' ∉ field.toList) :
    '?' ∉ (functionAt root collection field a).toList := by
  have keyword : '?' ∉ a.keyword.toList := by cases a <;> decide
  have behind : '?' ∉ (if field.isEmpty then "" else "." ++ field).toList := by
    split
    · decide
    · simp [String.toList_append, hf]
  cases root with
  | none =>
      rw [functionAt_none, String.toList_append, List.mem_append, not_or]
      refine ⟨?_, behind⟩
      split <;> simp [String.toList_append, hc, keyword]
  | some n =>
      rw [functionAt_some, String.toList_append, List.mem_append, not_or]
      refine ⟨?_, behind⟩
      simp [String.toList_append, not_mem_fieldAt (some n) hc, keyword]

/-- Where no path has a question mark, only the places of arguments have one. -/
theorem Piece.IsMade.isPlain {p : Piece} (h : p.IsMade ('?' ∉ ·.toList)) : p.IsPlain := by
  intro slot
  cases h with
  | mark m finite => exact fun h => (ne_of_mem_mark finite '?' h).1 rfl
  | slot argument => cases slot
  | leave =>
      rw [text]
      decide
  | field root path free => exact not_mem_fieldAt root free
  | total root path free => simp [text, String.toList_append, not_mem_fieldAt root free]
  | function root collection field a hc hf => exact not_mem_functionAt root a hc hf
  | enter root path item free =>
      simp [text, String.toList_append, not_mem_fieldAt root free, not_mem_itemNameAt]

/-! ### Queries for a human reader -/

/-- No path of a formula has a question mark. -/
def Formula.IsUnmarked (f : Formula) : Prop := ∀ path ∈ f.paths, '?' ∉ path.toList

namespace Query

theorem Writes.isPlain {q : Query} {f : Formula} (h : q.Writes f) (unmarked : f.IsUnmarked) :
    ∀ p ∈ f.outline none, p.IsPlain := fun p hp =>
  (Formula.isMade_outline none unmarked h.finite p hp).isPlain

/-- A human reader sees the literals of the arguments in their places. -/
theorem Writes.display {q : Query} {f : Formula} (h : q.Writes f) (unmarked : f.IsUnmarked) :
    q.display = Piece.shownAll (f.outline none) := by
  have shown := Piece.substitute_textOfAll (h.isPlain unmarked) [] []
  rw [List.append_nil, List.append_nil, slots_outline, substitute, List.append_nil] at shown
  rw [Query.display, h.isEmpty, h.format, h.arguments, shown]
  exact String.ofList_toList

/-- Two queries that ask something are shown in parentheses around what each is shown as. -/
theorem Writes.display_combine {p q : Query} {f g : Formula} (connective : Connective)
    (hp : p.Writes f) (hq : q.Writes g) (unmarkedLeft : f.IsUnmarked)
    (unmarkedRight : g.IsUnmarked) :
    (Query.combine connective p q).display =
      "(" ++ p.display ++ connective.separator ++ q.display ++ ")" := by
  have unmarked : (Formula.junction connective f [g]).IsUnmarked := by
    simp only [Formula.IsUnmarked, Formula.paths, Formula.pathsOfAll, List.append_nil]
    exact List.forall_mem_append.mpr ⟨unmarkedLeft, unmarkedRight⟩
  rw [(hp.combine connective hq).display unmarked, hp.display unmarkedLeft,
    hq.display unmarkedRight]
  simp [Formula.outline, Formula.outlineOthers, Piece.shownAll, Piece.shownAll_append, Piece.shown,
    Piece.text, Mark.text, String.append_assoc]

theorem Asks.writes {q : Query} {f? : Option Formula} (h : q.Asks f?) (hq : q.isEmpty = false) :
    ∃ f, f? = some f ∧ q.Writes f := by
  cases f? with
  | none =>
      cases (show q = .empty from h)
      cases hq
  | some f => exact ⟨f, rfl, h⟩

end Query

namespace QueryPlan

variable {plan : QueryPlan} {q : Query}

theorem formula_of_some {f : Formula} (h : plan.formula? = some f) : plan.formula = f := by
  rw [formula, h]
  rfl

/-- A query that is built is shown as the pieces of its condition with literals in the places of
arguments. -/
theorem display_of_build (h : plan.build = .ok q) (unmarked : plan.formula.IsUnmarked) :
    q.display = Piece.shownAll (plan.formula.outline none) := by
  have asks := asks_of_build h
  cases hf : plan.formula? with
  | none =>
      rw [hf] at asks
      cases (show q = .empty from asks)
      rw [formula, hf]
      rfl
  | some f =>
      rw [hf] at asks
      rw [formula_of_some hf] at unmarked ⊢
      exact Query.Writes.display asks unmarked

theorem display_combine_of_build {more : QueryPlan} {r : Query} (connective : Connective)
    (h : plan.build = .ok q) (hm : more.build = .ok r) (unmarked : plan.formula.IsUnmarked)
    (unmarkedMore : more.formula.IsUnmarked) (hq : q.isEmpty = false) (hr : r.isEmpty = false) :
    (Query.combine connective q r).display =
      "(" ++ q.display ++ connective.separator ++ r.display ++ ")" := by
  obtain ⟨f, hf, writes⟩ := (asks_of_build h).writes hq
  obtain ⟨g, hg, writesMore⟩ := (asks_of_build hm).writes hr
  rw [formula_of_some hf] at unmarked
  rw [formula_of_some hg] at unmarkedMore
  exact writes.display_combine connective writesMore unmarked unmarkedMore

/-- The question marks of a query are the places of its arguments, one for each and in the order of
the leaves, and a human reader sees exactly the literals of the arguments in their places; also
where two queries are combined. -/
theorem placeholders_of_build (h : plan.build = .ok q) (unmarked : plan.formula.IsUnmarked) :
    q.handOver.1 = Piece.textOfAll (plan.formula.outline none) ∧
      (plan.formula.outline none).filterMap Piece.slot? = q.handOver.2 ∧
      q.handOver.2 = plan.formula.leaves.flatMap Leaf.arguments ∧
      (∀ p ∈ plan.formula.outline none, p.slot? = none → '?' ∉ p.text.toList) ∧
      q.handOver.1.toList.count '?' = q.handOver.2.length ∧
      q.display = Piece.shownAll (plan.formula.outline none) ∧
      ∀ (more : QueryPlan) (r : Query), more.build = .ok r → more.formula.IsUnmarked →
        q.isEmpty = false → r.isEmpty = false →
          (q.and r).display = "(" ++ q.display ++ " AND " ++ r.display ++ ")" ∧
            (q.or r).display = "(" ++ q.display ++ " OR " ++ r.display ++ ")" := by
  obtain ⟨handed, finite⟩ := handOver_of_build h
  have plain : ∀ p ∈ plan.formula.outline none, p.IsPlain := fun p hp =>
    (Formula.isMade_outline none unmarked finite p hp).isPlain
  have slots := slots_outline none plan.formula
  have count := Piece.count_textOfAll plain
  rw [slots] at count
  rw [handed]
  refine ⟨rfl, slots, rfl, plain, count, display_of_build h unmarked, ?_⟩
  intro more r hm unmarkedMore hq hr
  exact ⟨display_combine_of_build .and h hm unmarked unmarkedMore hq hr,
    display_combine_of_build .or h hm unmarked unmarkedMore hq hr⟩

end QueryPlan

theorem Bookshelf.askingWho_placeholders :
    askingWho.formula.IsUnmarked ∧
      ∃ q, askingWho.build = .ok q ∧
        q.handOver.1.toList.count '?' = q.handOver.2.length ∧
        q.display = Piece.shownAll (askingWho.formula.outline none) := by
  have unmarked : ∀ path ∈ askingWho.formula.paths, '?' ∉ path.toList := by decide
  obtain ⟨-, -, -, -, count, shown, -⟩ :=
    @QueryPlan.placeholders_of_build askingWho _ rfl unmarked
  exact ⟨unmarked, _, rfl, count, shown⟩

end Winnow
