import Winnow.Proofs.Predicate.Reading
import Winnow.Proofs.Predicate.Scanning
import Winnow.Query.Selection

/-!
Faults that have nothing to do with variables. Scanning, reading and following a path never complain
that a variable is unbound, so only the evaluation of a path that begins with one can.
-/

namespace Winnow

/-- A result other than that a variable is unbound. -/
def Finds {α : Type} (x : Except QueryFault α) : Prop := ∀ name, x ≠ .error (.unboundVariable name)

namespace Finds

variable {α β : Type}

theorem ok (a : α) : Finds (.ok a : Except QueryFault α) := by
  intro name h
  cases h

theorem error {e : QueryFault} (h : ∀ name, e ≠ .unboundVariable name) :
    Finds (.error e : Except QueryFault α) := by
  rintro name ⟨⟩
  exact h name rfl

theorem of_eq_error {x : Except QueryFault α} {e : QueryFault} (h : Finds x) (hx : x = .error e) :
    Finds (.error e : Except QueryFault β) := by
  rintro name ⟨⟩
  exact h name hx

/-- One result after another. -/
theorem bind {x : Except QueryFault α} {f : α → Except QueryFault β} (hx : Finds x)
    (hf : ∀ a, x = .ok a → Finds (f a)) : Finds (x >>= f) := by
  cases x with
  | error e => exact hx.of_eq_error rfl
  | ok a => exact hf a rfl

end Finds

/-! ### Scanning -/

namespace Token

theorem finds_scan (c : Char) (rest : List Char) : Finds (scan c rest) := by
  cases scanCase c rest with
  | mark token h =>
      rw [scan_mark h]
      exact .ok _
  | options d more hc h =>
      obtain ⟨_, he⟩ := scan_options h
      rw [hc, he]
      exact .ok _
  | unterminated hc h =>
      rw [hc, scan_unterminated h]
      exact .error (by simp)
  | longOperator hc h =>
      obtain ⟨_, he⟩ := scan_longOperator hc h
      rw [he]
      exact .ok _
  | operator hc h =>
      rw [scan_operator hc h]
      exact .ok _
  | number h =>
      rw [scan_number h]
      split
      · exact .error (by simp)
      · exact .ok _
  | word hn h =>
      rw [scan_word hn h]
      exact .ok _
  | unexpected hm hb ho hn hw =>
      rw [scan_unexpected hm hb ho hn hw]
      exact .error (by simp)

theorem finds_scanAll (text : List Char) : Finds (scanAll text) := by
  fun_induction scanAll text with
  | case1 => exact .ok _
  | case2 rest ih => exact ih
  | case3 c rest hc e he => exact (finds_scan c rest).of_eq_error he
  | case4 c rest hc token more hm hs e he ih => exact ih.of_eq_error he
  | case5 => exact .ok _

end Token

/-! ### Following a path -/

theorem finds_applyFunction (name : String) (numbers : List Double) :
    Finds (applyFunction name numbers) := by
  unfold applyFunction
  repeat' split
  all_goals first | exact .ok _ | exact .error (by simp)

namespace Json

theorem finds_walkNull (path : List String) : Finds (walkNull path) := by
  unfold walkNull
  split
  · exact .ok _
  · split
    · exact .ok _
    · split
      · exact .ok _
      · exact finds_applyFunction _ _

theorem finds_walkScalar (v : Json) (path : List String) : Finds (walkScalar v path) := by
  unfold walkScalar
  split
  · exact .ok _
  · split
    · exact .ok _
    · exact .error (by simp)

mutual

theorem finds_walk : ∀ (v : Json) (path : List String), Finds (v.walk path)
  | v, [] => by
      cases v <;> (rw [walk]; exact .ok _)
  | null, step :: rest => by
      rw [walk]
      exact finds_walkNull _
  | array items, step :: rest => by
      rw [walk]
      split
      · have ih := finds_walkItems items (step :: rest)
        split
        · exact .ok _
        · next he => exact ih.of_eq_error he
      · split
        · exact .ok _
        · have ih := finds_walkItems items rest
          split
          · exact finds_applyFunction _ _
          · next he => exact ih.of_eq_error he
  | object members, step :: rest => by
      rw [walk]
      split
      · exact finds_walkMember members step rest
      · exact .error (by simp)
  | bool b, step :: rest => by
      rw [walk]
      exact finds_walkScalar _ _
  | number n, step :: rest => by
      rw [walk]
      exact finds_walkScalar _ _
  | string s, step :: rest => by
      rw [walk]
      exact finds_walkScalar _ _

theorem finds_walkItems : ∀ (items : List Json) (path : List String), Finds (walkItems items path)
  | [], path => by
      rw [walkItems]
      exact .ok _
  | item :: rest, path => by
      have first := finds_walk item path
      have others := finds_walkItems rest path
      rw [walkItems]
      split
      · next he => exact first.of_eq_error he
      · split
        · next he => exact others.of_eq_error he
        · exact .ok _

theorem finds_walkMember : ∀ (members : List (String × Json)) (key : String) (path : List String),
    Finds (walkMember members key path)
  | [], key, path => by
      rw [walkMember]
      exact finds_walkNull _
  | (k, v) :: rest, key, path => by
      rw [walkMember]
      split
      · exact finds_walk v path
      · exact finds_walkMember rest key path

end

end Json

/-! ### Reading -/

namespace Input

theorem finds_next (i : Input) : Finds i.next := by
  rcases i with ⟨_ | ⟨token, tokens⟩, arguments⟩
  · exact .error (by simp)
  · exact .ok _

theorem finds_expect (i : Input) (token : Token) : Finds (i.expect token) := by
  unfold expect
  split
  · next he => exact i.finds_next.of_eq_error he
  · split
    · exact .ok _
    · exact .error (by simp)

theorem finds_takeArgument (i : Input) : Finds i.takeArgument := by
  rcases i with ⟨tokens, _ | ⟨argument, arguments⟩⟩
  · exact .error (by simp)
  · exact .ok _

theorem finds_relationOf (token : Token) : Finds (relationOf token) := by
  unfold relationOf
  repeat' split
  all_goals first | exact .ok _ | exact .error (by simp)

theorem finds_foldingOf (f : Folding) (codes : List Char) : Finds (foldingOf f codes) := by
  fun_induction foldingOf f codes with
  | case1 => exact .ok _
  | case2 _ _ ih => exact ih
  | case3 _ _ _ ih => exact ih
  | case4 _ _ _ _ ih => exact ih
  | case5 => exact .error (by simp)

theorem finds_readFolding (i : Input) : Finds i.readFolding := by
  unfold readFolding
  split
  · split
    · next he => exact (finds_foldingOf _ _).of_eq_error he
    · exact .ok _
  · exact .ok _

theorem finds_readCollection (i : Input) : Finds i.readCollection := by
  unfold readCollection
  split
  · next he => exact i.finds_next.of_eq_error he
  · exact .ok _
  · exact .error (by simp)

theorem finds_readVariable (i : Input) : Finds i.readVariable := by
  unfold readVariable
  split
  · next he => exact i.finds_next.of_eq_error he
  · split
    · exact .ok _
    · exact .error (by simp)
  · exact .error (by simp)

inductive Reader where
  | predicate
  | alternatives (left : Predicate)
  | conjunction
  | conjuncts (left : Predicate)
  | primary
  | comparison (any : Bool)
  | expression
  | items

def Reader.Finds (i : Input) : Reader → Prop
  | predicate => Winnow.Finds i.readPredicate
  | alternatives left => Winnow.Finds (i.readAlternatives left)
  | conjunction => Winnow.Finds i.readConjunction
  | conjuncts left => Winnow.Finds (i.readConjuncts left)
  | primary => Winnow.Finds i.readPrimary
  | comparison any => Winnow.Finds (i.readComparison any)
  | expression => Winnow.Finds i.readExpression
  | items => Winnow.Finds i.readItems

/-- How far a reader is from the tokens themselves. -/
def Reader.rank : Reader → Nat
  | predicate => 4
  | conjunction => 3
  | primary => 2
  | comparison _ => 1
  | _ => 0

/-- No reader that `reader` calls on `i` complains of variables. It calls one of a lower rank on the
same tokens, or any reader on fewer tokens. -/
def Reader.FindsBelow (i : Input) (reader : Reader) : Prop :=
  ∀ (other : Reader) (j : Input),
    5 * j.length + other.rank < 5 * i.length + reader.rank → other.Finds j

section Step

variable {i : Input}

theorem finds_predicate (finds : Reader.predicate.FindsBelow i) : Finds i.readPredicate := by
  rw [readPredicate]
  refine .bind (finds .conjunction i (by simp only [Reader.rank]; omega)) ?_
  rintro ⟨left, r, h₁⟩ -
  refine .bind (finds (.alternatives left) r (by simp only [Reader.rank]; omega)) ?_
  rintro ⟨p, s, h₂⟩ -
  exact .ok _

theorem finds_alternatives {left : Predicate} (finds : (Reader.alternatives left).FindsBelow i) :
    Finds (i.readAlternatives left) := by
  rw [readAlternatives]
  split
  · exact .ok _
  · next r h₁ _ =>
      refine .bind (finds .conjunction r (by simp only [Reader.rank]; omega)) ?_
      rintro ⟨right, s, h₂⟩ -
      refine .bind (finds (.alternatives _) s (by simp only [Reader.rank]; omega)) ?_
      rintro ⟨p, t, h₃⟩ -
      exact .ok _

theorem finds_conjunction (finds : Reader.conjunction.FindsBelow i) :
    Finds i.readConjunction := by
  rw [readConjunction]
  refine .bind (finds .primary i (by simp only [Reader.rank]; omega)) ?_
  rintro ⟨left, r, h₁⟩ -
  refine .bind (finds (.conjuncts left) r (by simp only [Reader.rank]; omega)) ?_
  rintro ⟨p, s, h₂⟩ -
  exact .ok _

theorem finds_conjuncts {left : Predicate} (finds : (Reader.conjuncts left).FindsBelow i) :
    Finds (i.readConjuncts left) := by
  rw [readConjuncts]
  split
  · exact .ok _
  · next r h₁ _ =>
      refine .bind (finds .primary r (by simp only [Reader.rank]; omega)) ?_
      rintro ⟨right, s, h₂⟩ -
      refine .bind (finds (.conjuncts _) s (by simp only [Reader.rank]; omega)) ?_
      rintro ⟨p, t, h₃⟩ -
      exact .ok _

theorem finds_primary (finds : Reader.primary.FindsBelow i) : Finds i.readPrimary := by
  rw [readPrimary]
  split
  · next r h₁ _ =>
      refine .bind (finds .predicate r (by simp only [Reader.rank]; omega)) ?_
      rintro ⟨p, s, h₂⟩ -
      refine .bind (s.finds_expect _) ?_
      rintro ⟨t, h₃⟩ -
      exact .ok _
  split
  · exact .ok _
  split
  · exact .ok _
  split
  · next r h₁ _ =>
      refine .bind (finds (.comparison true) r (by simp only [Reader.rank]; omega)) ?_
      rintro ⟨p, s, h₂⟩ -
      exact .ok _
  · exact finds (.comparison false) i (by simp only [Reader.rank]; omega)

theorem finds_comparison {any : Bool} (finds : (Reader.comparison any).FindsBelow i) :
    Finds (i.readComparison any) := by
  rw [readComparison]
  refine .bind (finds .expression i (by simp only [Reader.rank]; omega)) ?_
  rintro ⟨left, r, h₁⟩ -
  refine .bind r.finds_next ?_
  rintro ⟨token, s, h₂⟩ -
  refine .bind (finds_relationOf token) ?_
  rintro relation -
  refine .bind s.finds_readFolding ?_
  rintro ⟨folding, t, h₃⟩ -
  have shorter : t.length < i.length :=
    calc t.length ≤ s.length := h₃
      _ < r.length := h₂
      _ < i.length := h₁
  refine .bind (finds .expression t (by simp only [Reader.rank]; omega)) ?_
  rintro ⟨right, u, h₄⟩ -
  exact .ok _

theorem finds_expression (finds : Reader.expression.FindsBelow i) : Finds i.readExpression := by
  rw [readExpression]
  refine .bind i.finds_next ?_
  rintro ⟨token, r, h₁⟩ -
  cases token with
  | placeholder =>
      refine .bind r.finds_takeArgument ?_
      rintro ⟨argument, s, h₂⟩ -
      exact .ok _
  | number x => exact .ok _
  | openBrace =>
      refine .bind (finds .expression r (by simp only [Reader.rank]; omega)) ?_
      rintro ⟨first, s, h₂⟩ -
      refine .bind (finds .items s (by simp only [Reader.rank]; omega)) ?_
      rintro ⟨others, t, h₃⟩ -
      refine .bind (t.finds_expect _) ?_
      rintro ⟨u, h₄⟩ -
      exact .ok _
  | word text =>
      dsimp only
      split
      · refine .bind (r.finds_expect _) ?_
        rintro ⟨s₁, h₁'⟩ -
        refine .bind s₁.finds_readCollection ?_
        rintro ⟨collection, s₂, h₂⟩ -
        refine .bind (s₂.finds_expect _) ?_
        rintro ⟨s₃, h₃⟩ -
        refine .bind s₃.finds_readVariable ?_
        rintro ⟨name, s₄, h₄⟩ -
        refine .bind (s₄.finds_expect _) ?_
        rintro ⟨s₅, h₅⟩ -
        have shorter : s₅.length < i.length :=
          calc s₅.length < s₄.length := h₅
            _ < s₃.length := h₄
            _ < s₂.length := h₃
            _ < s₁.length := h₂
            _ < r.length := h₁'
            _ < i.length := h₁
        refine .bind (finds .predicate s₅ (by simp only [Reader.rank]; omega)) ?_
        rintro ⟨body, s₆, h₆⟩ -
        refine .bind (s₆.finds_expect _) ?_
        rintro ⟨s₇, h₇⟩ -
        exact .ok _
      · exact .ok _
  | _ => exact .error (by simp)

theorem finds_items (finds : Reader.items.FindsBelow i) : Finds i.readItems := by
  rw [readItems]
  split
  · exact .ok _
  · next r h₁ _ =>
      refine .bind (finds .expression r (by simp only [Reader.rank]; omega)) ?_
      rintro ⟨item, s, h₂⟩ -
      refine .bind (finds .items s (by simp only [Reader.rank]; omega)) ?_
      rintro ⟨others, t, h₃⟩ -
      exact .ok _

end Step

theorem finds_reader (i : Input) (reader : Reader) : reader.Finds i := by
  induction hn : 5 * i.length + reader.rank using Nat.strongRecOn generalizing i reader with
  | ind n ih => ?_
  subst hn
  have finds : reader.FindsBelow i := fun other j less => ih _ less j other rfl
  cases reader with
  | predicate => exact finds_predicate finds
  | alternatives left => exact finds_alternatives finds
  | conjunction => exact finds_conjunction finds
  | conjuncts left => exact finds_conjuncts finds
  | primary => exact finds_primary finds
  | comparison any => exact finds_comparison finds
  | expression => exact finds_expression finds
  | items => exact finds_items finds

end Input

/-- No text is refused because of a variable. -/
theorem Predicate.finds_ofText (format : String) (arguments : List Argument) :
    Finds (ofText format arguments) := by
  unfold ofText ofTokens
  split
  · next he => exact (Token.finds_scanAll _).of_eq_error he
  · split
    · next he => exact (Input.finds_reader _ .predicate).of_eq_error he
    · split
      · exact .error (by simp)
      · split
        · exact .error (by simp)
        · exact .ok _

end Winnow
