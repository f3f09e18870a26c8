import Winnow.Argument.Document
import Winnow.Proofs.Argument.Literals
import Winnow.Proofs.Formula.Literals
import Winnow.Proofs.Json.Reading
import Winnow.Proofs.Predicate.Following

/-!
Arguments that are written as documents and read back. A document does not say what kind of argument
it stands for, yet the kinds keep apart: a whole number has neither point nor exponent, and every
fraction has one, in whatever format fractions are written and read back. Only the fractions that
are no numbers are lost.
-/

namespace Winnow

/-- Documents are written and read as JSON, with their fractions in a format of their own, and none
is read in which lists nest 128 deep. -/
structure DocumentFormat.IsJson (d : DocumentFormat) (f : FractionFormat) : Prop where
  write_eq : ∀ v, d.write v = v.writeIn f
  read?_eq : ∀ text, d.read? text = Json.readIn? f 127 text

theorem DocumentFormat.compact_isJson : compact.IsJson .nearest where
  write_eq _ := rfl
  read?_eq _ := rfl

namespace Argument

mutual

/-- How deep lists nest in an argument. -/
def nesting : Argument → Nat
  | list items => nestingItems items + 1
  | _ => 0

def nestingItems : List Argument → Nat
  | [] => 0
  | item :: rest => max item.nesting (nestingItems rest)

end

mutual

/-- The argument with null in place of every fraction that is not finite. -/
def grounded : Argument → Argument
  | null => null
  | bool b => bool b
  | integer n => integer n
  | float x => if x.isFinite then float x else null
  | text s => text s
  | list items => list (groundedItems items)

def groundedItems : List Argument → List Argument
  | [] => []
  | item :: rest => item.grounded :: groundedItems rest

end

variable {d : DocumentFormat} {f : FractionFormat} {a : Argument} {items : List Argument}
  {depth : Nat} {rest : List Char}

theorem nestingItems_le : nestingItems items ≤ depth ↔ ∀ item ∈ items, item.nesting ≤ depth := by
  induction items with
  | nil => simp [nestingItems]
  | cons item items ih => simp [nestingItems, ih]

theorem groundedItems_eq_self :
    groundedItems items = items ↔ ∀ item ∈ items, item.grounded = item := by
  induction items with
  | nil => simp [groundedItems]
  | cons item items ih => simp [groundedItems, ih]

/-! ### The document of an argument -/

theorem ofJsonItems?_toJsonItems (each : ∀ item ∈ items, ofJson? item.toJson = some item.grounded) :
    ofJsonItems? (toJsonItems items) = some (groundedItems items) := by
  induction items with
  | nil => rfl
  | cons item items ih =>
      obtain ⟨first, each⟩ := List.forall_mem_cons.mp each
      simp [toJsonItems, ofJsonItems?, groundedItems, first, ih each]

/-- The document of an argument is read as the argument, and fractions that are not finite as
null. -/
theorem ofJson?_toJson (a : Argument) : ofJson? a.toJson = some a.grounded := by
  induction a using items_induct with
  | single a flat =>
      cases a with
      | null => rfl
      | bool b => rfl
      | integer n => simp [toJson, Json.ofInt, ofJson?, ofNumber, word?_toInt, grounded]
      | float x => cases x <;> rfl
      | text s => rfl
      | list items => exact absurd rfl (flat items)
  | list items each =>
      rw [toJson, ofJson?, ofJsonItems?_toJsonItems each]
      rfl

/-- The text of an argument is read up to its end as the document that was written, unless its lists
nest too deep. -/
theorem readValue_writeIn (back : f.ReadsBack) (a : Argument) (depth : Nat)
    (stop : Numeral.Stops rest) :
    Json.readValue f depth ((a.toJson.writeIn f).toList ++ rest) =
      if a.nesting ≤ depth then some (a.toJson, rest) else none := by
  induction a using items_induct generalizing depth rest with
  | single a flat =>
      have shallow : a.nesting ≤ depth := by
        cases a with
        | list items => exact absurd rfl (flat items)
        | _ => exact Nat.zero_le depth
      rw [if_pos shallow]
      cases a with
      | null => exact Json.readValue_null
      | bool b => exact Json.readValue_bool b
      | integer n =>
          have lower := n.le_toInt
          have upper := n.toInt_lt
          exact Json.readValue_number back ⟨lower, by omega⟩ stop
      | float x =>
          cases x with
          | finite x => exact Json.readValue_number back trivial stop
          | _ => exact Json.readValue_null
      | text s => exact Json.readValue_string s
      | list items => exact absurd rfl (flat items)
  | list items each =>
      have text : ((list items).toJson.writeIn f).toList ++ rest =
          '[' :: ((Json.writeItemsIn f (items.map toJson)).toList ++ ']' :: rest) := by
        simp [toJson, toJsonItems_eq_map, Json.writeIn, String.toList_append]
      rw [text, nesting]
      cases depth with
      | zero => rw [Json.readValue_array_zero, if_neg (by omega)]
      | succ depth =>
          have row :=
            Json.readRow?_writeIn back (fun item hm rest stop => each item hm depth stop) rest
          rw [Json.readValue_array_succ, row]
          simp only [Nat.add_le_add_iff_right, nestingItems_le]
          split
          · rw [toJson, toJsonItems_eq_map]
            rfl
          · rfl

/-! ### What is read -/

theorem grounded_ofNumber {n : JsonNumber} (fits : n.Fits) :
    (ofNumber n).grounded = ofNumber n := by
  cases n with
  | float x => rfl
  | integer m =>
      obtain ⟨lower, upper⟩ := fits
      -- Outside the words of 64 bits a whole number is rounded, far below the greatest fraction.
      obtain ⟨x, hx⟩ := Binary.exists_ofInt_eq (f := .double) (n := m) (k := 64) (by omega)
        (by decide) (by decide)
      rw [ofNumber]
      split
      · rfl
      · rw [hx]
        rfl

theorem nesting_ofNumber (n : JsonNumber) : (ofNumber n).nesting = 0 := by
  cases n with
  | float x => rfl
  | integer m =>
      rw [ofNumber]
      split <;> rfl

theorem exists_of_mem_ofJsonItems? {values : List Json} (h : ofJsonItems? values = some items)
    (ha : a ∈ items) : ∃ v ∈ values, ofJson? v = some a := by
  induction values generalizing items with
  | nil =>
      cases h
      cases ha
  | cons v values ih =>
      rw [ofJsonItems?] at h
      split at h
      · next read =>
          obtain ⟨others, row, rfl⟩ := Option.map_eq_some_iff.mp h
          rcases List.mem_cons.mp ha with rfl | ha
          · exact ⟨v, List.mem_cons_self, read⟩
          · obtain ⟨w, hw, read⟩ := ih row ha
            exact ⟨w, List.mem_cons_of_mem v hw, read⟩
      · cases h

/-- Arguments that are read nest no deeper than allowed, and their fractions are finite. -/
theorem grounded_of_readValue {text : List Char} {v : Json}
    (read : Json.readValue f depth text = some (v, rest)) (h : ofJson? v = some a) :
    a.nesting ≤ depth ∧ a.grounded = a := by
  -- The items of an array are read with one level less, so the depth is general in the induction.
  induction v using Json.items_induct generalizing depth text rest a with
  | single v flat =>
      cases v with
      | number n =>
          cases h
          have shallow := Nat.zero_le depth
          rw [← nesting_ofNumber n] at shallow
          exact ⟨shallow, grounded_ofNumber (Json.fits_of_readValue_number read)⟩
      | array values => exact absurd rfl (flat values)
      | object members => cases h
      | _ =>
          cases h
          exact ⟨Nat.zero_le depth, rfl⟩
  | array values each =>
      obtain ⟨inner, front, rfl, row⟩ := Json.exists_of_readValue_array read
      obtain ⟨items, hi, rfl⟩ := Option.map_eq_some_iff.mp h
      have inside : ∀ item ∈ items, item.nesting ≤ inner ∧ item.grounded = item := by
        intro item hm
        obtain ⟨v, hv, hvi⟩ := exists_of_mem_ofJsonItems? hi hm
        obtain ⟨_, _, read⟩ := Json.exists_of_mem_readRow? row hv
        exact each v hv read hvi
      refine ⟨?_, congrArg list (groundedItems_eq_self.mpr fun item hm => (inside item hm).2)⟩
      rw [nesting, Nat.add_le_add_iff_right, nestingItems_le]
      exact fun item hm => (inside item hm).1

section Format

variable (json : d.IsJson f)
include json

theorem grounded_of_readIn? {text : String} (h : readIn? d text = some a) :
    a.nesting < 128 ∧ a.grounded = a := by
  obtain ⟨v, hv, ha⟩ := Option.bind_eq_some_iff.mp h
  rw [json.read?_eq, Json.readIn?] at hv
  split at hv
  · next value rest read =>
      split at hv
      · cases hv
        obtain ⟨shallow, same⟩ := grounded_of_readValue read ha
        exact ⟨Nat.lt_succ_of_le shallow, same⟩
      · cases hv
  · cases hv

theorem readIn?_writeIn_eq (back : f.ReadsBack) (a : Argument) :
    readIn? d (a.writeIn d) = if a.nesting < 128 then some a.grounded else none := by
  have read := readValue_writeIn back a 127 Numeral.Stops.nil
  have limit : a.nesting ≤ 127 ↔ a.nesting < 128 := Nat.lt_succ_iff.symm
  simp only [List.append_nil, limit] at read
  rw [readIn?, json.read?_eq, Json.readIn?, writeIn, json.write_eq, read]
  by_cases shallow : a.nesting < 128
  · simp only [if_pos shallow]
    exact ofJson?_toJson a
  · simp only [if_neg shallow]
    rfl

/-- The text of an argument is read back as the argument with null for the fractions that are not
finite, provided that its lists nest less than 128 deep. What is read from any text is read back
from the text that is written for it. All of this is so in every format that reads its own fractions
back. -/
theorem readIn?_writeIn (back : f.ReadsBack) :
    (∀ a : Argument, readIn? d (a.writeIn d) =
        if a.nesting < 128 then some a.grounded else none) ∧
      ∀ text a, readIn? d text = some a → readIn? d (a.writeIn d) = some a := by
  refine ⟨readIn?_writeIn_eq json back, fun text a h => ?_⟩
  obtain ⟨shallow, same⟩ := grounded_of_readIn? json h
  rw [readIn?_writeIn_eq json back, if_pos shallow, same]

end Format

end Argument

def Bookshelf.starRatings (more : Argument) : Argument :=
  .list [.integer 4, .float (.ofInt 4), more, .text "so-so\n"]

/-- A whole number and a fraction of the same size stay apart, and what is not a number is lost. -/
theorem Bookshelf.starRatings_readIn?_writeIn :
    DocumentFormat.compact.IsJson .nearest ∧ FractionFormat.nearest.ReadsBack ∧
      (starRatings (.float .nan)).nesting < 128 ∧
      Argument.ofText? (starRatings (.float .nan)).write = some (starRatings .null) ∧
      Argument.ofText? (starRatings .null).write = some (starRatings .null) := by
  have finite : (Binary.ofInt 4 : Double).isFinite := by decide +kernel
  have lost : (starRatings (.float .nan)).grounded = starRatings .null := by
    have nan : (Binary.nan : Double).isFinite = false := rfl
    simp [starRatings, Argument.grounded, Argument.groundedItems, finite, nan]
  have shallow : (starRatings (.float .nan)).nesting < 128 := by decide
  obtain ⟨written, again⟩ :=
    Argument.readIn?_writeIn DocumentFormat.compact_isJson FractionFormat.nearest_readsBack
  have read := (written _).trans (if_pos shallow)
  rw [lost] at read
  exact ⟨DocumentFormat.compact_isJson, FractionFormat.nearest_readsBack, shallow, read,
    again _ _ read⟩

end Winnow
