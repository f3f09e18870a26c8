import Winnow.Proofs.Formula.Quantified

/-!
The number of items that a subquery for all items is compared with. The collection is followed a
second time with `@count` behind it, and a name is taken from each item of an array. So the items
are counted exactly if no part of the path before its end leads to an array; otherwise each item of
the first such array has a number of its own.
-/

namespace Winnow

/-! ### From where a path begins -/

section Steps

variable {element : Json} {scope : Scope} {head s : String} {front rest : List String}

/-- A path is followed from the value that its first step stands for. -/
theorem exists_start (plain : isMemberName head) (element : Json) (scope : Scope) :
    ∃ start : Except QueryFault Json,
      ∀ more, resolve element scope (head :: more) = start.bind (·.walk more) := by
  have plain : functionName? head = none := plain
  by_cases self : head = resolve.selfName
  · exact ⟨.ok element, fun more => by rw [resolve, if_pos self]; rfl⟩
  simp only [resolve, if_neg self]
  split
  · cases scope.lookup head with
    | none => exact ⟨.error (.unboundVariable head), fun _ => rfl⟩
    | some value => exact ⟨.ok value, fun _ => rfl⟩
  · next begins => simp [functionName?, begins] at plain
  · exact ⟨.ok ((element.get? head).getD .null), fun _ => rfl⟩

theorem resolve_append (nonempty : front ≠ []) (plain : ∀ t ∈ front, isMemberName t)
    (hs : isMemberName s) :
    resolve element scope (front ++ s :: rest) =
      (resolve element scope front).bind (·.walk (s :: rest)) := by
  obtain ⟨head, names, rfl⟩ := List.exists_cons_of_ne_nil nonempty
  obtain ⟨begins, names⟩ := List.forall_mem_cons.mp plain
  obtain ⟨start, found⟩ := exists_start begins element scope
  rw [List.cons_append, found, found]
  cases start with
  | error e => rfl
  | ok v => exact v.walk_append names hs

end Steps

/-! ### Items and numbers of items -/

section Counting

variable {element : Json} {scope : Scope} {path : List String} {items : List Json}

/-- A collection is counted where no part of its path leads to an array. -/
theorem resolve_count (nonempty : path ≠ []) (plain : ∀ s ∈ path, isMemberName s)
    (reach : resolve element scope path = .ok (.array items))
    (apart : ∀ front, IsFront front path →
      ∀ values, resolve element scope front ≠ .ok (.array values)) :
    resolve element scope (path ++ ["@count"]) = .ok (.ofInt items.length) := by
  obtain ⟨head, names, rfl⟩ := List.exists_cons_of_ne_nil nonempty
  obtain ⟨begins, names⟩ := List.forall_mem_cons.mp plain
  obtain ⟨start, found⟩ := exists_start begins element scope
  rw [found] at reach
  cases start with
  | error e => cases reach
  | ok v =>
      have reaches : v.Reaches _ (.array items) :=
        { names, walk := reach, apart := fun front hf hr values hw => by
            have stands := List.cons_prefix_cons.mpr ⟨Eq.refl head, hf⟩
            refine apart (head :: front) ⟨stands, by simp, ?_⟩ values ?_
            · simpa using hr
            · rw [found]
              exact hw }
      rw [List.cons_append, found]
      exact reaches.count

/-- Where a part of the path leads to an array, each item of that array has a number of its own. -/
theorem resolve_count_of_front {front rest : List String} {values : List Json}
    (plain : ∀ s ∈ front ++ rest, isMemberName s) (begun : front ≠ []) (left : rest ≠ [])
    (reach : resolve element scope (front ++ rest) = .ok (.array items))
    (found : resolve element scope front = .ok (.array values)) :
    values.length = items.length ∧
      resolve element scope (front ++ rest ++ ["@count"]) =
        (Json.walkItems values (rest ++ ["@count"])).map .array := by
  obtain ⟨s, rest, rfl⟩ := List.exists_cons_of_ne_nil left
  obtain ⟨names, behind⟩ := List.forall_mem_append.mp plain
  have hs := (List.forall_mem_cons.mp behind).1
  rw [resolve_append begun names hs, found] at reach
  have each : (Json.walkItems values (s :: rest)).map Json.array = .ok (.array items) :=
    (Json.walk_array values hs).symm.trans reach
  constructor
  · obtain ⟨_, reached, ⟨⟩⟩ := map_eq_ok each
    exact (Json.walkItems_eq_ok_iff.mp reached).length_eq
  · rw [List.append_assoc, List.cons_append, resolve_append begun names hs, found]
    exact Json.walk_array values hs

/-- A subquery that keeps every item counts the items of its collection. -/
theorem evaluate_allKept (name : String)
    (reach : resolve element scope path = .ok (.array items)) :
    (Expression.subquery path name (.constant true) ["@count"]).evaluate element scope =
      .ok (.ofInt items.length) := by
  have kept : keepIf (fun item => (Predicate.constant true).holds element ((name, item) :: scope))
      items = .ok (items.filter fun _ => true) :=
    keepIf_eq_filter fun _ _ => by rw [Predicate.holds]
  rw [List.filter_true] at kept
  rw [Expression.evaluate, reach]
  simp only [collectionItems, kept]
  exact Json.walk_count items

end Counting

/-- The name of a field of an element, or of the item of a variable. -/
def nameUnder (root : Option String) (path : String) : String := (Segment.field path).renderAt root

/-- The number that a subquery for all items is compared with is the number of items that it looks
at, exactly if no part of the path before its end leads to an array. If one does, there is an array
instead, of the numbers of the items of that array, or one of these cannot be counted. -/
theorem Quantifier.total_eq_length_iff {root : Option String} {collection : String}
    {element : Json} {scope : Scope} {items : List Json}
    (plain : ∀ s ∈ pathSteps (nameUnder root collection), isMemberName s)
    (reach : resolve element scope (pathSteps (nameUnder root collection)) = .ok (.array items)) :
    (all.countTest collection).renderAt root =
        ").@count == " ++ (nameUnder root collection ++ ".@count") ∧
      (∀ name, (Expression.subquery (pathSteps (nameUnder root collection)) name (.constant true)
        ["@count"]).evaluate element scope = .ok (.ofInt items.length)) ∧
      (resolve element scope (pathSteps (nameUnder root collection ++ ".@count")) =
          .ok (.ofInt items.length) ↔
        ∀ front, IsFront front (pathSteps (nameUnder root collection)) →
          ∀ values, resolve element scope front ≠ .ok (.array values)) ∧
      ∀ front rest values, pathSteps (nameUnder root collection) = front ++ rest →
        front ≠ [] → rest ≠ [] → resolve element scope front = .ok (.array values) →
        values.length = items.length ∧
          resolve element scope (pathSteps (nameUnder root collection ++ ".@count")) =
            (Json.walkItems values (rest ++ ["@count"])).map .array := by
  have nonempty : pathSteps (nameUnder root collection) ≠ [] := by
    simpa [pathSteps] using splitDots_ne_nil _
  have counted {front rest : List String} {values : List Json}
      (parts : pathSteps (nameUnder root collection) = front ++ rest) (begun : front ≠ [])
      (left : rest ≠ []) (found : resolve element scope front = .ok (.array values)) :
      values.length = items.length ∧
        resolve element scope (pathSteps (nameUnder root collection ++ ".@count")) =
          (Json.walkItems values (rest ++ ["@count"])).map .array := by
    rw [parts] at plain reach
    rw [pathSteps_count, parts]
    exact resolve_count_of_front plain begun left reach found
  refine ⟨?_, fun name => evaluate_allKept name reach, ⟨fun total front hf values found => ?_,
    fun apart => ?_⟩,
    fun front rest values parts begun left found => counted parts begun left found⟩
  · simp [countTest, nameUnder, String.append_assoc]
  · obtain ⟨⟨rest, parts⟩, begun, whole⟩ := hf
    have left : rest ≠ [] := by
      rintro rfl
      exact whole (by simpa using parts)
    -- An array of numbers is no number, and neither is a failure.
    rw [(counted parts.symm begun left found).2] at total
    cases each : Json.walkItems values (rest ++ ["@count"]) <;> rw [each] at total <;> cases total
  · rw [pathSteps_count]
    exact resolve_count nonempty plain reach apart

namespace Bookshelf

def reviewed : Json :=
  .object [("chapters", .array [.object [("reviews", .array [.ofInt 5])],
    .object [("reviews", .array [.ofInt 4, .ofInt 2])]])]

/-- The chapters of a book are counted, but their reviews have a number for each chapter. -/
theorem chapters_counted_reviews_listed :
    resolve reviewed [] (pathSteps (nameUnder none "chapters" ++ ".@count")) = .ok (.ofInt 2) ∧
      resolve .null [("$a0", reviewed)]
        (pathSteps (nameUnder (some "$a0") "chapters.reviews" ++ ".@count")) =
          .ok (.array [.ofInt 1, .ofInt 2]) := by
  have one : pathSteps (nameUnder none "chapters") = ["chapters"] := by decide
  have three : pathSteps (nameUnder (some "$a0") "chapters.reviews") =
      ["$a0", "chapters", "reviews"] := by decide
  constructor
  · obtain ⟨-, -, counts, -⟩ := @Quantifier.total_eq_length_iff none "chapters" reviewed []
      [.object [("reviews", .array [.ofInt 5])],
        .object [("reviews", .array [.ofInt 4, .ofInt 2])]] (by rw [one]; decide) (by rw [one]; rfl)
    refine counts.mpr fun front ⟨hf, begun, whole⟩ => ?_
    rw [one] at hf whole
    obtain ⟨more, rfl, hm⟩ := (List.prefix_cons_iff.mp hf).resolve_left begun
    exact absurd (by rw [List.prefix_nil.mp hm]) whole
  · obtain ⟨-, -, -, each⟩ := @Quantifier.total_eq_length_iff (some "$a0") "chapters.reviews" .null
      [("$a0", reviewed)] [.array [.ofInt 5], .array [.ofInt 4, .ofInt 2]] (by rw [three]; decide)
      (by rw [three]; rfl)
    rw [(each ["$a0", "chapters"] ["reviews"] _ three (by simp) (by simp) rfl).2]
    rfl

end Bookshelf

end Winnow
