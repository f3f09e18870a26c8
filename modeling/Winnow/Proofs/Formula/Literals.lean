import Winnow.Proofs.Formula.Numbers
import Winnow.Proofs.Number.Widening

/-!
Numbers that are written into a query and numbers that are bound to a placeholder. The text of a
number is one token, and for whole numbers and for fractions of double precision the number that is
read is the one that is bound. A fraction of single precision is written with the digits that single
precision needs, so that a near number of double precision is read instead.
-/

namespace Winnow

namespace Binary

variable {f : BinaryFormat}

/-- A whole number is finite if it is below a power of two that is. -/
theorem exists_ofInt_eq {n : Int} {k : Nat} (small : n.natAbs ≤ 2 ^ k)
    (two : 2 ≤ 2 ^ f.exponentBits) (fits : k + f.depth < 2 ^ f.exponentBits - 2 + f.fractionBits) :
    ∃ x : Finite f, ofInt n = finite x := by
  have bits := Nat.two_pow_pos f.fractionBits
  obtain ⟨r, hr⟩ := f.exists_units (t := 1) (by omega) (k + f.depth)
  have below : f.nearest (n.natAbs * 2 ^ f.depth) 1 ≤ r := by
    refine BinaryFormat.nearest_le Nat.one_pos ?_
    rw [hr, Nat.one_mul, Nat.mul_one, Nat.pow_add]
    exact Nat.mul_le_mul_right _ small
  have top : r < f.top := by
    refine f.units_strictMono.lt_iff_lt.mp ?_
    rw [hr, Nat.one_mul, f.units_top two]
    exact Nat.pow_lt_pow_right Nat.one_lt_two fits
  exact ⟨⟨decide (n < 0), _, below.trans_lt top⟩, ofRank_of_lt_top _⟩

end Binary

namespace Json

section Alike

variable {m n : JsonNumber} (h : m.toDouble = n.toDouble)
include h

/-- Numbers that are read alike equal the same, however texts are folded. -/
theorem equal_number_congr (f f' : Folding) (v : Json) :
    v.equal f (.number m) = v.equal f' (.number n) := by
  have operand (n : JsonNumber) : (number n).identity = .number n := rfl
  rw [equal, equal, operand, operand]
  cases v.identity with
  | number k => simp only [h]
  | _ => rfl

theorem order?_number_congr (v : Json) : v.order? (.number m) = v.order? (.number n) := by
  cases v with
  | number k => simp only [order?, h]
  | _ => rfl

end Alike

theorem exists_number {v : Json} {x : Double} (h : v.toDouble? = some x) :
    ∃ n : JsonNumber, v = .number n ∧ n.toDouble = x := by
  cases v with
  | number n => exact ⟨n, rfl, Option.some.inj h⟩
  | _ => cases h

end Json

namespace Quantity

/-- A number of a type that may be written into a query: a whole number of at most 128 bits, with or
without a sign, or a finite fraction. -/
def IsNumeric : Quantity → Prop
  | integer n => -2 ^ 127 ≤ n ∧ n < 2 ^ 128
  | single x => x.isFinite
  | double x => x.isFinite

/-- The number that a reader takes a bound number for. -/
def bound? (q : Quantity) : Option Double := q.toValue.bind.toJson.toDouble?

theorem scanAll_literal {q : Quantity} (h : q.isFinite) :
    ∃ text, q.literal? = some text ∧ Token.scanAll text.toList = .ok [.number q.number] := by
  obtain ⟨text, written, chars⟩ := toList_literal h
  have literal : q.literal? = some text := by
    rw [AggregateTest.literal] at written
    cases found : q.literal? with
    | none =>
        rw [found] at written
        cases written
    | some other =>
        rw [found] at written
        exact congrArg some (Except.ok.inj written)
  exact ⟨text, literal, by rw [chars, Token.scanAll_write, number]⟩

/-- A whole number that may be written has a nearest fraction of double precision. -/
theorem IsNumeric.exists_ofInt_eq {n : Int} (h : (integer n).IsNumeric) :
    ∃ x : Finite .double, Binary.ofInt n = .finite x := by
  obtain ⟨lower, upper⟩ := h
  exact Binary.exists_ofInt_eq (k := 128) (by omega) (by decide) (by decide)

theorem number_integer (n : Int) : (integer n).number = .ofInt n := by
  rw [number, decimal, Decimal.toBinary_of_nonneg _ _ (Int.le_refl 0)]
  simp [Binary.ofInt]

/-- A whole number is bound as itself or as its nearest fraction, and is read as that. -/
theorem bound?_integer {n : Int} (h : (integer n).IsNumeric) :
    (integer n).bound? = some (.ofInt n) := by
  rw [bound?, toValue, Value.bind, Value.bindInteger]
  cases word : word? n with
  | some w =>
      simp only [Argument.toJson, toInt_of_word? word]
      rfl
  | none =>
      obtain ⟨x, hx⟩ := h.exists_ofInt_eq
      simp only [hx]
      rfl

theorem IsNumeric.isFinite {q : Quantity} (h : q.IsNumeric) : q.isFinite := by
  cases q with
  | integer n => rfl
  | single x => exact h
  | double x => exact h

/-- The numbers of double precision that are read where a number of single precision is written and
where it is bound. They are the same exactly if both are of single precision. -/
theorem exists_single (x : Finite .single) :
    ∃ read bound : Finite .double, (single (.finite x)).number = .finite read ∧
      (single (.finite x)).bound? = some (.finite bound) ∧
      (read = bound ↔ ∃ y : Finite .single, read.value = y.value) ∧ bound.value = x.value ∧
      ∀ y : Finite .single, |read.value - bound.value| ≤ |read.value - y.value| := by
  obtain ⟨read, hr, signRead, nearest⟩ :=
    x.exists_toBinary_toDecimal BinaryFormat.single_widens_double
  obtain ⟨bound, hb, signBound, value⟩ := x.convert_finite BinaryFormat.single_widens_double
  rw [← value] at nearest
  refine ⟨read, bound, hr, ?_, ⟨?_, ?_⟩, value, nearest⟩
  · rw [bound?, toValue, Value.bind, hb]
    rfl
  · rintro rfl
    exact ⟨x, value⟩
  · rintro ⟨y, hy⟩
    -- The bound number is not farther from what is read than that itself.
    have distance := nearest y
    rw [← hy, sub_self, abs_zero] at distance
    exact Finite.eq_of_value_eq (signRead.trans signBound.symm)
      (sub_eq_zero.mp (abs_nonpos_iff.mp distance))

/-- Where the number that is read in a query is the one that is bound, an aggregate and a field are
compared with the same threshold. -/
structure SharesThreshold (q : Quantity) : Prop where
  above (v : Json) :
    (AggregateTest.above q).accepts v = (Comparison.ordered .above q.toValue).accepts v
  below (v : Json) :
    (AggregateTest.below q).accepts v = (Comparison.ordered .below q.toValue).accepts v
  equal (v : Json) (m : Modifiers) :
    (AggregateTest.equal q).accepts v = (Comparison.matching .equal q.toValue m).accepts v

theorem sharesThreshold {q : Quantity} {x : Finite .double} (read : q.number = .finite x)
    (bound : q.bound? = some (.finite x)) : q.SharesThreshold := by
  obtain ⟨n, operand, value⟩ := Json.exists_number bound
  have alike : JsonNumber.toDouble (.float x) = n.toDouble := value.symm
  have literal : Json.ofDouble q.number = .number (.float x) := congrArg _ read
  have order (o : Ordering) (v : Json) :
      (v.order? (.ofDouble q.number) == some o) = (v.order? q.toValue.bind.toJson == some o) := by
    rw [literal, operand, Json.order?_number_congr alike]
  refine ⟨order .gt, order .lt, fun v m => ?_⟩
  have equal :=
    Json.equal_number_congr alike {} (Comparison.matching .equal q.toValue m).folding v
  rw [← literal, ← operand] at equal
  exact equal

/-- A number that is written into a query is one token. The number that is read there and the one
that is read where the number is bound are the same, and an aggregate and a field are compared with
the same threshold; only for a number of single precision it may happen that another number is read,
and this happens exactly if it is no number of single precision. No number of single precision is
nearer to it than the one that is bound. -/
theorem literal_reads {q : Quantity} (h : q.IsNumeric) :
    ∃ text, ∃ read bound : Finite .double,
      q.literal? = some text ∧
      Token.scanAll text.toList = .ok [.number (.finite read)] ∧
      q.toValue.bind.toJson.toDouble? = some (.finite bound) ∧
      (read = bound ↔ ∀ x, q = .single x → ∃ y : Finite .single, read.value = y.value) ∧
      (∀ x : Finite .single, q = .single (.finite x) →
        bound.value = x.value ∧
          ∀ y : Finite .single, |read.value - bound.value| ≤ |read.value - y.value|) ∧
      (read = bound → q.SharesThreshold) := by
  obtain ⟨text, literal, token⟩ := scanAll_literal h.isFinite
  cases q with
  | integer n =>
      obtain ⟨x, hx⟩ := h.exists_ofInt_eq
      have read : (integer n).number = .finite x := (number_integer n).trans hx
      have bound : (integer n).bound? = some (.finite x) := hx ▸ bound?_integer h
      rw [read] at token
      exact ⟨text, x, x, literal, token, bound, by simp, by simp,
        fun _ => sharesThreshold read bound⟩
  | double x =>
      cases x with
      | finite x =>
          have read : (double (.finite x)).number = .finite x := x.toBinary_toDecimal
          rw [read] at token
          exact ⟨text, x, x, literal, token, rfl, by simp, by simp,
            fun _ => sharesThreshold read rfl⟩
      | _ => cases h
  | single x =>
      cases x with
      | finite x =>
          obtain ⟨read, bound, hr, hb, same, value, nearest⟩ := exists_single x
          rw [hr] at token
          refine ⟨text, read, bound, literal, token, hb, ?_, ?_, ?_⟩
          · exact same.trans ⟨fun known _ _ => known, fun known => known _ rfl⟩
          · rintro _ ⟨⟩
            exact ⟨value, nearest⟩
          · rintro rfl
            exact sharesThreshold hr hb
      | _ => cases h

end Quantity

/-- A whole number that does not fit into a word is bound as a fraction, which is the one that is
read where the number is written. -/
theorem Bookshelf.pastWord_literal_reads :
    (Quantity.integer (2 ^ 64)).IsNumeric ∧
      ∃ text, ∃ read : Finite .double, (Quantity.integer (2 ^ 64)).literal? = some text ∧
        Token.scanAll text.toList = .ok [.number (.finite read)] ∧
        (Quantity.integer (2 ^ 64)).toValue.bind.toJson.toDouble? = some (.finite read) ∧
        (Quantity.integer (2 ^ 64)).SharesThreshold := by
  have numeric : (Quantity.integer (2 ^ 64)).IsNumeric := ⟨by decide, by decide⟩
  obtain ⟨text, read, bound, literal, token, bind, same, -, shares⟩ :=
    Quantity.literal_reads numeric
  obtain rfl : read = bound := same.mpr fun _ h => Quantity.noConfusion h
  exact ⟨numeric, text, read, literal, token, bind, shares rfl⟩

end Winnow
