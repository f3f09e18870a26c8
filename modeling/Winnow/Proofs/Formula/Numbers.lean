import Winnow.Proofs.Formula.Comparing
import Winnow.Proofs.Number.Order

/-!
Comparisons of a field with numbers. Numbers are compared as binary fractions, so whole numbers that
have the same nearest fraction are taken for one another, and a fraction that is not finite is taken
for nothing.
-/

namespace Winnow

inductive NumberTest (β : Type) where
  | equal (b : β)
  | notEqual (b : β)
  | below (b : β)
  | above (b : β)
  | member (bs : List β)

namespace NumberTest

variable {β : Type}

def operands : NumberTest β → List β
  | equal b => [b]
  | notEqual b => [b]
  | below b => [b]
  | above b => [b]
  | member bs => bs

def comparison (toValue : β → Value) (m : Modifiers) : NumberTest β → Comparison
  | equal b => .matching .equal (toValue b) m
  | notEqual b => .matching .notEqual (toValue b) m
  | below b => .ordered .below (toValue b)
  | above b => .ordered .above (toValue b)
  | member bs => .member (bs.map toValue) m

/-- What a test says of a field that is placed before, at or after the numbers, or not at all. -/
def decides (place : β → Option Ordering) : NumberTest β → Bool
  | equal b => place b == some .eq
  | notEqual b => place b != some .eq
  | below b => place b == some .lt
  | above b => place b == some .gt
  | member bs => bs.any (place · == some .eq)

/-- A test that depends on the order of numbers. -/
def isOrdered : NumberTest β → Bool
  | below _ => true
  | above _ => true
  | _ => false

theorem decides_congr {place place' : β → Option Ordering} {test : NumberTest β}
    (h : ∀ b ∈ test.operands, place b = place' b) : test.decides place = test.decides place' := by
  cases test with
  | member bs =>
      rw [Bool.eq_iff_iff]
      simp only [decides, List.any_eq_true]
      exact exists_congr fun b => and_congr_right fun hb => by rw [h b hb]
  | _ b => simp only [decides, h b List.mem_cons_self]

/-- A comparison holds of a field as its test says, if the field is placed among the numbers. -/
theorem accepts_comparison {toValue : β → Value} {place : β → Option Ordering} {v : Json}
    {test : NumberTest β} (m : Modifiers)
    (equal : ∀ f, ∀ b ∈ test.operands, v.equal f (toValue b).bind.toJson = (place b == some .eq))
    (ordered : test.isOrdered → ∀ b ∈ test.operands, ∀ o, o ≠ .eq →
      (v.order? (toValue b).bind.toJson == some o) = (place b == some o)) :
    (test.comparison toValue m).accepts v = test.decides place := by
  cases test with
  | equal b => exact equal _ b List.mem_cons_self
  | notEqual b => exact congrArg not (equal _ b List.mem_cons_self)
  | below b => exact ordered rfl b List.mem_cons_self .lt (by decide)
  | above b => exact ordered rfl b List.mem_cons_self .gt (by decide)
  | member bs =>
      rw [Bool.eq_iff_iff, comparison, Comparison.accepts_member]
      simp only [List.any_map, decides, List.any_eq_true]
      exact exists_congr fun b => and_congr_right fun hb => by rw [Function.comp, equal _ b hb]

end NumberTest

/-! ### Whole numbers -/

theorem word?_toInt (w : Int64) : word? w.toInt = some w := by
  have bounds : Int64.minValue.toInt ≤ w.toInt ∧ w.toInt ≤ Int64.maxValue.toInt :=
    ⟨Int64.le_iff_toInt_le.mp w.minValue_le, Int64.le_iff_toInt_le.mp w.le_maxValue⟩
  rw [word?, if_pos bounds, Int64.ofInt_toInt]

theorem toInt_of_word? {n : Int} {w : Int64} (h : word? n = some w) : w.toInt = n := by
  rw [word?] at h
  split at h
  · next bounds =>
      cases h
      have greatest : Int64.maxValue.toInt = 2 ^ 63 - 1 := by decide
      exact Int64.toInt_ofInt_of_le bounds.1 (by omega)
  · cases h

/-- Whole numbers are compared by their nearest fractions. -/
theorem Json.equal_ofInt_identity {v : Json} {m : Int} (h : v.identity = .ofInt m) (f : Folding)
    (n : Int) :
    v.equal f (.ofInt n) = ((Binary.ofInt m : Double).compare? (.ofInt n) == some .eq) := by
  have operand : (Json.ofInt n).identity = .ofInt n := rfl
  rw [Json.equal, h, operand]
  rfl

/-- Two whole numbers have the same nearest fraction. -/
def Coincide (m n : Int64) : Bool := (Binary.ofInt m.toInt : Double).same (.ofInt n.toInt)

theorem compare?_coincide (m n : Int64) :
    (Binary.ofInt m.toInt : Double).compare? (.ofInt n.toInt) =
      if Coincide m n then some .eq else some (compare m.toInt n.toInt) := by
  split
  · next h => exact beq_iff_eq.mp h
  · next h => exact (Binary.same_ofInt_or m.toInt n.toInt).resolve_left h

namespace Clause

variable {α : Type} {document : α → Json} {elements : List α} {value : α → Json} {path : KeyPath}

/-- A comparison of whole numbers takes those that have the same nearest fraction for equal, and
decides otherwise as the whole numbers do. It is exact if all of one side have at most 53 bits. -/
theorem select_whole_numbers {stored : α → Int64} (proper : isProper path.raw)
    (reach : ∀ x ∈ elements, resolve (document x) [] (fieldSteps none path.raw) = .ok (value x))
    (identity : ∀ x ∈ elements, (value x).identity = .ofInt (stored x).toInt)
    (test : NumberTest Int64) (m : Modifiers)
    (ordered : test.isOrdered → ∀ x ∈ elements, value x = .ofInt (stored x).toInt) :
    (Query.ofTemplate
        (compare path (test.comparison (fun b => .integer b.toInt) m)).template).select
        document elements =
      .ok (elements.filter fun x => test.decides fun b =>
        if Coincide (stored x) b then some .eq
        else some (Ord.compare (stored x).toInt b.toInt)) ∧
    ((∀ x ∈ elements, ∀ b ∈ test.operands,
        (stored x).toInt.natAbs < 2 ^ 53 ∨ b.toInt.natAbs < 2 ^ 53) →
      (Query.ofTemplate
          (compare path (test.comparison (fun b => .integer b.toInt) m)).template).select
          document elements =
        .ok (elements.filter fun x => test.decides fun b =>
          some (Ord.compare (stored x).toInt b.toInt))) := by
  have bound (b : Int64) : (Value.integer b.toInt).bind.toJson = .ofInt b.toInt := by
    rw [Value.bind, Value.bindInteger, word?_toInt, Argument.toJson]
  have accepts : ∀ x ∈ elements,
      (test.comparison (fun b => .integer b.toInt) m).accepts (value x) =
        test.decides fun b =>
          (Binary.ofInt (stored x).toInt : Double).compare? (.ofInt b.toInt) := by
    intro x hx
    refine test.accepts_comparison m (fun f b _ => ?_) fun h b _ o _ => ?_
    · rw [bound, Json.equal_ofInt_identity (identity x hx)]
    · rw [bound, ordered h x hx]
      rfl
  rw [select_compare proper reach]
  refine ⟨?_, fun few => ?_⟩
  · refine congrArg _ (List.filter_congr fun x hx => ?_)
    rw [accepts x hx]
    exact NumberTest.decides_congr fun b _ => compare?_coincide (stored x) b
  · refine congrArg _ (List.filter_congr fun x hx => ?_)
    rw [accepts x hx]
    exact NumberTest.decides_congr fun b hb => Binary.compare?_double (few x hx b hb)

end Clause

namespace Bookshelf

def numbered (id : Int64) : Json := .object [("id", .ofInt id.toInt)]

theorem numbered_two_selected :
    isProper "id" ∧
      (Query.ofTemplate
        (Clause.compare ⟨"id"⟩ (.matching .equal (.integer 2) .none)).template).select numbered
        [1, 2, 3] = .ok [2] := by
  have proper : isProper "id" := by decide
  have steps : fieldSteps none "id" = ["id"] := by decide
  obtain ⟨-, exact⟩ := @Clause.select_whole_numbers Int64 numbered [1, 2, 3]
    (fun n => .ofInt n.toInt) ⟨"id"⟩ id proper
    (fun n _ => by rw [steps]; rfl) (fun _ _ => rfl) (.equal 2) .none (fun h => Bool.noConfusion h)
  refine ⟨proper, exact fun _ _ b hb => .inr ?_⟩
  rw [List.mem_singleton.mp hb]
  decide

end Bookshelf

/-! ### Fractions -/

/-- A field that holds a fraction or nothing. -/
def Json.ofFraction? : Option (Finite .double) → Json
  | some x => .number (.float x)
  | none => .null

/-- The place of a fraction or of nothing by a number that it is compared with: nothing is where all
is that is not finite. -/
def placeFraction : Option (Finite .double) → Double → Option Ordering
  | some x, .finite y => some (compare x.value y.value)
  | none, .nan => some .eq
  | none, .infinity _ => some .eq
  | _, _ => none

theorem Json.equal_ofFraction? (f : Folding) (x : Option (Finite .double)) (y : Double) :
    (ofFraction? x).equal f (.ofDouble y) = (placeFraction x y == some .eq) := by
  cases x with
  | none => cases y <;> rfl
  | some x =>
      cases y with
      | finite y => exact congrArg (· == some .eq) Binary.compare?_finite
      | _ => rfl

theorem Json.order?_ofFraction? (x : Option (Finite .double)) (y : Double) {o : Ordering}
    (h : o ≠ .eq) :
    ((ofFraction? x).order? (.ofDouble y) == some o) = (placeFraction x y == some o) := by
  cases x with
  | none =>
      cases y <;> cases o <;> first | rfl | exact absurd rfl h
  | some x =>
      cases y with
      | finite y => exact congrArg (· == some o) Binary.compare?_finite
      | _ => rfl

namespace Clause

variable {α : Type} {document : α → Json} {elements : List α} {path : KeyPath}

/-- A comparison of fractions decides as their values do, for finite ones. A number that is not
finite is the same as a field that holds nothing, and in no order with a fraction. -/
theorem select_fractions {stored : α → Option (Finite .double)} (proper : isProper path.raw)
    (reach : ∀ x ∈ elements, resolve (document x) [] (fieldSteps none path.raw) =
      .ok (.ofFraction? (stored x)))
    (test : NumberTest Double) (m : Modifiers) :
    (Query.ofTemplate (compare path (test.comparison .double m)).template).select
        document elements =
      .ok (elements.filter fun x => test.decides (placeFraction (stored x))) ∧
    ((∀ y ∈ test.operands, y.isFinite) →
      (Query.ofTemplate (compare path (test.comparison .double m)).template).select
          document elements =
        .ok (elements.filter fun x => test.decides fun y =>
          (stored x).bind fun x => (Binary.finite x).compare? y)) := by
  have accepts (x : α) : (test.comparison .double m).accepts (.ofFraction? (stored x)) =
      test.decides (placeFraction (stored x)) :=
    test.accepts_comparison m (fun f y _ => Json.equal_ofFraction? f (stored x) y)
      fun _ y _ _ h => Json.order?_ofFraction? (stored x) y h
  rw [select_compare proper reach]
  refine ⟨congrArg _ (List.filter_congr fun x _ => accepts x), fun finite => ?_⟩
  refine congrArg _ (List.filter_congr fun x _ => ?_)
  rw [accepts]
  refine NumberTest.decides_congr fun y hy => ?_
  cases y with
  | finite y =>
      cases stored x with
      | none => rfl
      | some x => exact Binary.compare?_finite.symm
  | _ => cases finite _ hy

end Clause

namespace Bookshelf

def timed (seconds : Option (Finite .double)) : Json :=
  .object [("readingTime", .ofFraction? seconds)]

def threeHours : Finite .double := ⟨false, 4667162977118453760, by decide⟩

def tenHours : Finite .double := ⟨false, 4675180615908196352, by decide⟩

theorem timed_below_selected :
    isProper "readingTime" ∧ (∀ y ∈ [(Binary.finite tenHours : Double)], y.isFinite) ∧
      (Query.ofTemplate (Clause.compare ⟨"readingTime"⟩
        (.ordered .below (.double (.finite tenHours)))).template).select timed
        [none, some threeHours, some tenHours] = .ok [some threeHours] := by
  have proper : isProper "readingTime" := by decide
  have steps : fieldSteps none "readingTime" = ["readingTime"] := by decide
  have finite : ∀ y ∈ [(Binary.finite tenHours : Double)], y.isFinite := by decide
  obtain ⟨-, selects⟩ := @Clause.select_fractions _ timed
    [none, some threeHours, some tenHours] ⟨"readingTime"⟩ id proper
    (fun x _ => by rw [steps]; cases x <;> rfl) (.below (.finite tenHours)) .none
  exact ⟨proper, finite, (selects finite).trans (by decide)⟩

end Bookshelf

end Winnow
