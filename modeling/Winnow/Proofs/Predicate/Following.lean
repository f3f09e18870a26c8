import Mathlib.Data.List.Infix
import Mathlib.Tactic.Common
import Winnow.Predicate.Evaluation
import Winnow.Proofs.Number.Order
import Winnow.Proofs.Result

/-!
Following names from a value. A name is taken from an object; where a value has no members the rest
of the path is dropped, so a function at the end of the path finds the items of a collection only if
every name before it was taken from an object.
-/

namespace Winnow

def isMemberName (step : String) : Prop := functionName? step = none

instance : DecidablePred isMemberName := fun step =>
  inferInstanceAs (Decidable (functionName? step = none))

/-- A part of a path from its beginning, neither empty nor the whole of it. -/
def IsFront (front path : List String) : Prop := front <+: path ∧ front ≠ [] ∧ front ≠ path

namespace Json

variable {v : Json} {s : String} {path rest : List String} {items : List Json}

def member (v : Json) (key : String) : Json := (v.get? key).getD .null

/-- A value that neither has members nor items. -/
def IsScalar (v : Json) : Prop := (∀ members, v ≠ object members) ∧ ∀ items, v ≠ array items

theorem kind (v : Json) :
    (∃ members, v = object members) ∨ (∃ items, v = array items) ∨ v.IsScalar := by
  cases v with
  | object members => exact .inl ⟨members, rfl⟩
  | array items => exact .inr (.inl ⟨items, rfl⟩)
  | _ => exact .inr (.inr ⟨by simp, by simp⟩)

theorem walk_null (path : List String) : null.walk path = walkNull path := by
  cases path <;> simp [walk, walkNull]

theorem walkMember_eq (members : List (String × Json)) (key : String) (path : List String) :
    walkMember members key path = ((object members).member key).walk path := by
  induction members with
  | nil => exact (walk_null path).symm
  | cons entry members ih =>
      obtain ⟨k, w⟩ := entry
      rw [walkMember, ih]
      by_cases hk : k = key
      · simp [hk, member, get?]
      · have : (key == k) = false := by simpa using Ne.symm hk
        simp [hk, member, get?, List.lookup_cons, this]

/-- A name is taken from an object, and the rest of the path from its member. -/
theorem walk_object (members : List (String × Json)) (hs : isMemberName s) :
    (object members).walk (s :: rest) = ((object members).member s).walk rest := by
  rw [walk, show functionName? s = none from hs]
  exact walkMember_eq members s rest

/-- A name of a value without members leads nowhere, whatever follows. -/
theorem walk_scalar (h : v.IsScalar) (hs : isMemberName s) : v.walk (s :: rest) = .ok null := by
  have hs : functionName? s = none := hs
  cases v with
  | object members => exact absurd rfl (h.1 members)
  | array items => exact absurd rfl (h.2 items)
  | null => simp [walk, walkNull, hs]
  | bool b => simp [walk, walkScalar, hs]
  | number n => simp [walk, walkScalar, hs]
  | string text => simp [walk, walkScalar, hs]

theorem member_of_isScalar (h : v.IsScalar) (key : String) : v.member key = null := by
  cases v with
  | object members => exact absurd rfl (h.1 members)
  | _ => rfl

theorem walk_count (items : List Json) :
    (array items).walk ["@count"] = .ok (ofInt items.length) := by
  have : functionName? "@count" = some "count" := by decide
  simp [walk, this]

theorem null_walk_count : null.walk ["@count"] = .ok (ofInt 0) := by
  have : functionName? "@count" = some "count" := by decide
  simp [walk, walkNull, this]

/-! ### One path after another -/

/-- A property of documents holds if it is handed on from the items of an array to the array. -/
@[elab_as_elim]
theorem items_induct {motive : Json → Prop}
    (single : ∀ v, (∀ items, v ≠ array items) → motive v)
    (array : ∀ items, (∀ item ∈ items, motive item) → motive (array items)) (v : Json) :
    motive v :=
  match v with
  | .array items => array items fun item _ => items_induct single array item
  | .null => single _ (by simp)
  | .bool _ => single _ (by simp)
  | .number _ => single _ (by simp)
  | .string _ => single _ (by simp)
  | .object _ => single _ (by simp)

/-- A name is taken from each item of an array. -/
theorem walk_array (items : List Json) (hs : isMemberName s) :
    (array items).walk (s :: rest) = (walkItems items (s :: rest)).map array := by
  rw [walk, show functionName? s = none from hs]
  cases walkItems items (s :: rest) <;> rfl

theorem walkItems_eq_ok_iff {values : List Json} :
    walkItems items path = .ok values ↔
      List.Forall₂ (fun item value => item.walk path = .ok value) items values := by
  induction items generalizing values with
  | nil => simp [walkItems, eq_comm]
  | cons item items ih =>
      rw [walkItems, List.forall₂_cons_left_iff]
      cases first : item.walk path with
      | error e => simp
      | ok value =>
          cases others : walkItems items path with
          | error e => simp [← ih, others]
          | ok rest =>
              simp only [← ih, others, Except.ok.injEq]
              constructor
              · rintro rfl
                exact ⟨value, rest, rfl, rfl, rfl⟩
              · rintro ⟨_, _, rfl, rfl, rfl⟩
                rfl

/-- From every value, names lead somewhere. -/
theorem exists_walk (names : ∀ s ∈ path, isMemberName s) (v : Json) : ∃ w, v.walk path = .ok w := by
  induction path generalizing v with
  | nil => exact ⟨v, walk_nil v⟩
  | cons s rest ih =>
      obtain ⟨hs, names⟩ := List.forall_mem_cons.mp names
      induction v using items_induct with
      | single v flat =>
          rcases v.kind with ⟨members, rfl⟩ | ⟨items, rfl⟩ | scalar
          · rw [walk_object members hs]
            exact ih names _
          · exact absurd rfl (flat items)
          · exact ⟨null, walk_scalar scalar hs⟩
      | array items each =>
          obtain ⟨values, hv⟩ : ∃ values, walkItems items (s :: rest) = .ok values := by
            simp only [walkItems_eq_ok_iff]
            exact exists_forall₂ each
          exact ⟨array values, by rw [walk_array items hs, hv]; rfl⟩

theorem walkItems_append {values : List Json} {more : List String}
    (h : walkItems items path = .ok values)
    (each : ∀ item ∈ items, item.walk (path ++ more) = (item.walk path).bind (·.walk more)) :
    walkItems items (path ++ more) = walkItems values more := by
  rw [walkItems_eq_ok_iff] at h
  induction h with
  | nil => rw [walkItems, walkItems]
  | cons first _ ih =>
      obtain ⟨head, others⟩ := List.forall_mem_cons.mp each
      rw [walkItems, walkItems, head, first, ih others]
      rfl

/-- Behind some names, a path that goes on with a name is followed from where they lead. -/
theorem walk_append {front : List String} (names : ∀ s ∈ front, isMemberName s)
    (hs : isMemberName s) (v : Json) :
    v.walk (front ++ s :: rest) = (v.walk front).bind (·.walk (s :: rest)) := by
  induction front generalizing v with
  | nil =>
      rw [walk_nil]
      rfl
  | cons t front ih =>
      have whole := names
      obtain ⟨ht, names⟩ := List.forall_mem_cons.mp names
      induction v using items_induct with
      | single v flat =>
          rcases v.kind with ⟨members, rfl⟩ | ⟨items, rfl⟩ | scalar
          · rw [List.cons_append, walk_object members ht, walk_object members ht, ih names]
          · exact absurd rfl (flat items)
          · have nothing : null.IsScalar := ⟨by simp, by simp⟩
            rw [List.cons_append, walk_scalar scalar ht, walk_scalar scalar ht]
            change _ = null.walk (s :: rest)
            rw [walk_scalar nothing hs]
      | array items each =>
          obtain ⟨_, hv⟩ := exists_walk whole (array items)
          rw [walk_array items ht] at hv
          obtain ⟨values, found, -⟩ := map_eq_ok hv
          have behind := walkItems_append found each
          rw [List.cons_append] at behind
          rw [List.cons_append, walk_array items ht, walk_array items ht, behind, found]
          exact (walk_array values hs).symm

/-! ### To the items of a collection -/

/-- The value at the end of a path, and none before it is an array. -/
structure Reaches (v : Json) (path : List String) (w : Json) : Prop where
  names : ∀ s ∈ path, isMemberName s
  walk : v.walk path = .ok w
  apart : ∀ front, front <+: path → front ≠ path → ∀ items, v.walk front ≠ .ok (.array items)

theorem Reaches.member {w : Json} {members : List (String × Json)}
    (h : Reaches (object members) (s :: rest) w) : Reaches ((object members).member s) rest w where
  names t ht := h.names t (List.mem_cons_of_mem s ht)
  walk := (walk_object members (h.names s List.mem_cons_self)).symm.trans h.walk
  apart front hf hr items hw := by
    refine h.apart (s :: front) (List.cons_prefix_cons.mpr ⟨rfl, hf⟩) (by simpa using hr) items ?_
    rw [walk_object members (h.names s List.mem_cons_self), hw]

theorem Reaches.not_array {w : Json} (h : Reaches v (s :: rest) w) (items : List Json) :
    v ≠ array items := by
  rintro rfl
  exact h.apart [] List.nil_prefix (by simp) items (walk_nil _)

/-- The items of a collection at the end of a path are counted. -/
theorem Reaches.count (h : Reaches v path (array items)) :
    v.walk (path ++ ["@count"]) = .ok (ofInt items.length) := by
  induction path generalizing v with
  | nil =>
      obtain rfl : v = array items := by simpa using h.walk
      exact walk_count items
  | cons s rest ih =>
      have hs := h.names s List.mem_cons_self
      rcases v.kind with ⟨members, rfl⟩ | ⟨values, rfl⟩ | scalar
      · rw [List.cons_append, walk_object members hs]
        exact ih h.member
      · exact absurd rfl (h.not_array values)
      · have := h.walk
        rw [walk_scalar scalar hs] at this
        cases this

/-- Every name of a path is taken from an object. -/
def Owns (v : Json) (path : List String) : Prop :=
  ∀ front, front <+: path → front ≠ path → ∃ members, v.walk front = .ok (object members)

theorem owns_cons {members : List (String × Json)} (hs : isMemberName s) :
    Owns (object members) (s :: rest) ↔ Owns ((object members).member s) rest := by
  refine ⟨fun h front hf hr => ?_, fun h front hf hr => ?_⟩
  · rw [← walk_object members hs]
    exact h (s :: front) (List.cons_prefix_cons.mpr ⟨rfl, hf⟩) (by simpa using hr)
  · rcases List.prefix_cons_iff.mp hf with rfl | ⟨more, rfl, hm⟩
    · exact ⟨members, walk_nil _⟩
    · rw [walk_object members hs]
      exact h more hm (by simpa using hr)

/-- Where there is nothing at the end of a path, nothing is counted if every name was taken from an
object; otherwise there is no number at all. -/
theorem Reaches.count_null (h : Reaches v path null) :
    v.Owns path ∧ v.walk (path ++ ["@count"]) = .ok (ofInt 0) ∨
      ¬ v.Owns path ∧ v.walk (path ++ ["@count"]) = .ok null := by
  induction path generalizing v with
  | nil =>
      obtain rfl : v = null := by simpa using h.walk
      refine .inl ⟨fun front hf hr => ?_, null_walk_count⟩
      exact absurd (List.prefix_nil.mp hf) hr
  | cons s rest ih =>
      have hs := h.names s List.mem_cons_self
      rcases v.kind with ⟨members, rfl⟩ | ⟨values, rfl⟩ | scalar
      · rw [List.cons_append, walk_object members hs, owns_cons hs]
        exact ih h.member
      · exact absurd rfl (h.not_array values)
      · refine .inr ⟨fun owns => ?_, walk_scalar scalar hs⟩
        obtain ⟨members, hm⟩ := owns [] List.nil_prefix (by simp)
        exact scalar.1 members (by simpa using hm)

/-! ### Comparing numbers of items -/

variable {m n : Nat}

theorem toDouble_zero : ofDouble (.ofRank false 0) = number (.float ⟨false, 0, by decide⟩) := by
  rw [Binary.ofRank, dif_pos (by decide)]
  rfl

theorem compare?_count (few : m < 2 ^ 53 ∨ n < 2 ^ 53) :
    (Binary.ofInt m : Double).compare? (.ofInt n) = some (compare m n) := by
  have few : (m : Int).natAbs < 2 ^ 53 ∨ (n : Int).natAbs < 2 ^ 53 := few
  rw [Binary.compare?_double few]
  congr 1
  simp only [compare, compareOfLessAndEq, Nat.cast_lt, Nat.cast_inj]

theorem equal_ofInt (hm : m < 2 ^ 53) : (ofInt m).equal {} (ofInt n) = decide (m = n) := by
  change (Binary.ofInt m : Double).same (.ofInt n) = _
  rw [Binary.same, compare?_count (.inl hm)]
  by_cases h : m = n
  · simp [h]
  · have : compare m n ≠ .eq := fun he => h (Nat.compare_eq_eq.mp he)
    simp [h, this]

theorem equal_zero (hn : n < 2 ^ 53) :
    (ofInt n).equal {} (ofDouble (.ofRank false 0)) = decide (n = 0) := by
  rw [← equal_ofInt hn, toDouble_zero]
  change (Binary.ofInt n : Double).same (.finite _) = (Binary.ofInt n : Double).same (.ofInt 0)
  rw [Binary.ofInt_zero, Binary.ofRank, dif_pos (by decide)]

theorem order?_zero (n : Nat) :
    ((ofInt n).order? (ofDouble (.ofRank false 0)) == some .gt) = decide (0 < n) := by
  rw [toDouble_zero]
  change ((Binary.ofInt n : Double).compare? (.finite _) == some .gt) = _
  have zero : (.finite ⟨false, 0, by decide⟩ : Double) = .ofInt ((0 : Nat) : Int) := by
    rw [Int.natCast_zero, Binary.ofInt_zero, Binary.ofRank, dif_pos (by decide)]
  rw [zero, compare?_count (.inr (by decide))]
  by_cases h : 0 < n
  · simp [h, Nat.compare_eq_gt.mpr h]
  · simp [Nat.eq_zero_of_not_pos h]

end Json

/-! ### From an element -/

/-- A name of an element is taken from it, and the rest of the path from the member. -/
theorem resolve_name {element : Json} {scope : Scope} {s : String} {rest : List String}
    (self : s ≠ resolve.selfName) (plain : ∀ c ∈ s.toList.head?, c ≠ '$' ∧ c ≠ '@') :
    resolve element scope (s :: rest) = (element.member s).walk rest := by
  rw [resolve, if_neg self]
  split
  · next h => exact absurd rfl (plain _ (by rw [h]; rfl)).1
  · next h => exact absurd rfl (plain _ (by rw [h]; rfl)).2
  · rfl

end Winnow
