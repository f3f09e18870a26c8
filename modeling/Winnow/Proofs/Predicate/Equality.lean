import Winnow.Proofs.Predicate.Order

/-!
Equality of values. Values are equal if and only if they have one likeness: numbers their place,
texts their letters after folding, and all other documents what they are, but for the sign of zeros.
So equality divides the values into classes under every folding, and equal values can stand for each
other wherever values are tested for equality.
-/

namespace Winnow

/-- The number itself, and the positive zero for both zeros. -/
def Finite.canonical {f : BinaryFormat} (x : Finite f) : Finite f :=
  { x with negative := x.negative && x.rank.val != 0 }

/-- Finite numbers have one place if they differ in the sign of zero at most. -/
theorem Finite.key_eq_iff {f : BinaryFormat} {x y : Finite f} :
    x.key = y.key ↔ x.canonical = y.canonical := by
  obtain ⟨a, m, hm⟩ := x
  obtain ⟨b, n, hn⟩ := y
  have nonzero (k : Nat) : (k != 0) = true ↔ 0 < k := by simp [Nat.pos_iff_ne_zero]
  have signs : ((a && m != 0) = (b && n != 0)) ↔ (a = true ∧ 0 < m ↔ b = true ∧ 0 < n) := by
    rw [Bool.eq_iff_iff, Bool.and_eq_true, Bool.and_eq_true, nonzero, nonzero]
  simp only [key, canonical, Finite.mk.injEq, Fin.mk.injEq, signs]
  cases a <;> cases b <;>
    simp only [Bool.false_eq_true, if_true, if_false, true_and, false_and, iff_false, false_iff] <;>
    omega

def JsonNumber.canonical : JsonNumber → JsonNumber
  | integer n => integer n
  | float x => float x.canonical

theorem JsonNumber.same_iff (m n : JsonNumber) :
    m.same n = true ↔ m.canonical = n.canonical := by
  cases m with
  | integer m =>
      cases n with
      | integer n => simp [same, canonical]
      | float y => simp [same, canonical]
  | float x =>
      cases n with
      | integer n => simp [same, canonical]
      | float y => simp [same, canonical, Finite.key_eq_iff]

/-- Numbers are equal if they have one place, whichever kinds they are of. -/
theorem JsonNumber.same_toDouble_iff (m n : JsonNumber) :
    m.toDouble.same n.toDouble = true ↔ m.place = n.place := by
  rw [Binary.same, Binary.compare?, m.key?_toDouble, n.key?_toDouble, beq_iff_eq,
    Option.some.injEq, Int.compare_eq_eq]

namespace Json

/-! ### Documents that are the same -/

mutual

/-- The document with positive zeros. -/
def canonical : Json → Json
  | null => null
  | bool b => bool b
  | number n => number n.canonical
  | string s => string s
  | array items => array (canonicalItems items)
  | object members => object (canonicalMembers members)

def canonicalItems : List Json → List Json
  | [] => []
  | x :: rest => x.canonical :: canonicalItems rest

def canonicalMembers : List (String × Json) → List (String × Json)
  | [] => []
  | (key, x) :: rest => (key, x.canonical) :: canonicalMembers rest

end

mutual

/-- Documents are the same if they differ in the signs of zeros at most. -/
theorem same_iff : ∀ x y : Json, x.same y = true ↔ x.canonical = y.canonical
  | null, y => by cases y <;> simp [same, canonical]
  | bool a, y => by cases y <;> simp [same, canonical]
  | number m, y => by cases y <;> simp [same, canonical, JsonNumber.same_iff]
  | string s, y => by cases y <;> simp [same, canonical]
  | array xs, y => by
      cases y with
      | array ys => simp [same, canonical, sameItems_iff xs ys]
      | _ => simp [same, canonical]
  | object xs, y => by
      cases y with
      | object ys => simp [same, canonical, sameMembers_iff xs ys]
      | _ => simp [same, canonical]

theorem sameItems_iff : ∀ xs ys : List Json,
    sameItems xs ys = true ↔ canonicalItems xs = canonicalItems ys
  | [], ys => by cases ys <;> simp [sameItems, canonicalItems]
  | x :: xs, [] => by simp [sameItems, canonicalItems]
  | x :: xs, y :: ys => by
      simp [sameItems, canonicalItems, same_iff x y, sameItems_iff xs ys]

theorem sameMembers_iff : ∀ xs ys : List (String × Json),
    sameMembers xs ys = true ↔ canonicalMembers xs = canonicalMembers ys
  | [], ys => by cases ys <;> simp [sameMembers, canonicalMembers]
  | (key, x) :: xs, [] => by simp [sameMembers, canonicalMembers]
  | (key, x) :: xs, (other, y) :: ys => by
      simp [sameMembers, canonicalMembers, same_iff x y, sameMembers_iff xs ys]

end

/-! ### Equal values -/

inductive Likeness where
  | number (place : Int)
  | text (letters : List Char)
  | document (v : Json)

/-- The likeness of a value, which is that of its identity if it has one. -/
def likeness (f : Folding) (v : Json) : Likeness :=
  match v.identity with
  | number n => .number n.place
  | string s => .text (f.fold s)
  | x => .document x.canonical

theorem equal_iff {f : Folding} {l r : Json} :
    l.equal f r = true ↔ l.likeness f = r.likeness f := by
  rw [equal, likeness, likeness]
  generalize l.identity = x, r.identity = y
  cases x with
  | number m =>
      cases y with
      | number n => simp [JsonNumber.same_toDouble_iff]
      | _ => simp [same]
  | string s =>
      cases y with
      | string t => simp
      | _ => simp [same]
  | _ =>
      cases y with
      | number n => simp [same]
      | string t => simp [same]
      | _ => simp [same_iff]

section Equal

variable {f : Folding} {l m r : Json}

theorem equal_refl (f : Folding) (v : Json) : v.equal f v = true := equal_iff.mpr rfl

theorem equal_symm (h : l.equal f r = true) : r.equal f l = true :=
  equal_iff.mpr (equal_iff.mp h).symm

theorem equal_trans (h : l.equal f m = true) (h' : m.equal f r = true) :
    l.equal f r = true :=
  equal_iff.mpr ((equal_iff.mp h).trans (equal_iff.mp h'))

end Equal

/-- Equality of values is an equivalence under every folding, and its classes are the values of one
likeness. -/
theorem equal_equivalence (f : Folding) :
    Equivalence (fun l r : Json => l.equal f r = true) ∧
      ∀ l r : Json, l.equal f r = true ↔ l.likeness f = r.likeness f :=
  ⟨⟨equal_refl f, equal_symm, equal_trans⟩, fun _ _ => equal_iff⟩

/-- An object is equal to its identity on its own, which is folded if it is a text. -/
example : (object [("id", string "É"), ("stars", ofInt 5)]).equal ⟨true, true⟩ (string "e") := by
  decide +kernel

end Json

namespace Relation

variable {f : Folding} {l r : Json}

/-- An array contains a value if the value is a member of it. -/
theorem holds_contains_array (f : Folding) (items : List Json) (v : Json) :
    contains.holds f (.array items) v = member.holds f v (.array items) := by
  have turned (item : Json) : item.equal f v = v.equal f item :=
    Bool.eq_iff_iff.mpr ⟨Json.equal_symm, Json.equal_symm⟩
  simp only [holds, turned]

/-- Equal values can stand for each other where they are tested for equality: as one of the two
sides, as a member of an array, and as what an array contains. -/
theorem holds_congr_of_equal (h : l.equal f r = true) (v : Json) (items : List Json) :
    equal.holds f l v = equal.holds f r v ∧
      member.holds f l (.array items) = member.holds f r (.array items) ∧
      contains.holds f (.array items) l = contains.holds f (.array items) r := by
  have left (w : Json) : l.equal f w = r.equal f w :=
    Bool.eq_iff_iff.mpr ⟨Json.equal_trans (Json.equal_symm h), Json.equal_trans h⟩
  have among : member.holds f l (.array items) = member.holds f r (.array items) := by
    simp only [holds, left]
  refine ⟨left v, among, ?_⟩
  rw [holds_contains_array, holds_contains_array, among]

end Relation

end Winnow
