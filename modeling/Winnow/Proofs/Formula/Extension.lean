import Winnow.Condition.KeyPath
import Winnow.Proofs.Formula.Totals

/-!
Key paths one after another. The path to the element itself changes nothing on either side, and a
path behind another is followed from the value that the other one leads to.
-/

namespace Winnow

namespace KeyPath

variable {p q : KeyPath}

/-! ### The text of a path behind another -/

theorem element_followedBy (p : KeyPath) : element.followedBy p = p := rfl

theorem followedBy_element (p : KeyPath) : p.followedBy element = p := by
  rw [followedBy]
  split
  · next empty => exact (congrArg mk (String.isEmpty_iff.mp empty)).symm
  · rfl

theorem eq_element_of_isElement (h : p.isElement) : p = element :=
  congrArg mk (String.isEmpty_iff.mp h)

theorem followedBy_of_not_isElement (hp : p.isElement = false) (hq : q.isElement = false) :
    p.followedBy q = ⟨p.raw ++ "." ++ q.raw⟩ := by
  rw [followedBy, hp, hq]
  rfl

theorem not_isElement_joined (p q : KeyPath) :
    (⟨p.raw ++ "." ++ q.raw⟩ : KeyPath).isElement = false := by
  simp [isElement]

theorem followedBy_assoc (p q r : KeyPath) :
    (p.followedBy q).followedBy r = p.followedBy (q.followedBy r) := by
  cases hp : p.isElement with
  | true => rw [eq_element_of_isElement hp, element_followedBy, element_followedBy]
  | false =>
      cases hq : q.isElement with
      | true => rw [eq_element_of_isElement hq, followedBy_element, element_followedBy]
      | false =>
          cases hr : r.isElement with
          | true => rw [eq_element_of_isElement hr, followedBy_element, followedBy_element]
          | false =>
              rw [followedBy_of_not_isElement hp hq, followedBy_of_not_isElement hq hr,
                followedBy_of_not_isElement (not_isElement_joined p q) hr,
                followedBy_of_not_isElement hp (not_isElement_joined q r)]
              simp only [String.append_assoc]

/-! ### Where a path leads -/

def steps (p : KeyPath) : List String := pathSteps p.expression

theorem steps_eq (p : KeyPath) : p.steps = fieldSteps none p.raw := pathSteps_fieldAt none p.raw

theorem steps_of_not_isElement (h : p.isElement = false) : p.steps = pathSteps p.raw := by
  rw [steps, expression, h]
  rfl

theorem steps_followedBy (hp : p.isElement = false) (hq : q.isElement = false) :
    (p.followedBy q).steps = p.steps ++ q.steps := by
  rw [followedBy_of_not_isElement hp hq, steps_of_not_isElement (not_isElement_joined p q),
    steps_of_not_isElement hp, steps_of_not_isElement hq, pathSteps_append]

theorem names_of_not_isElement (h : p.isElement = false) : names p.raw = p.steps := by
  rw [steps_of_not_isElement h, names, show p.raw.isEmpty = false from h]
  rfl

variable {e : Json}

theorem resolve_element_steps (e : Json) (scope : Scope) :
    resolve e scope element.steps = .ok e := by
  have self : element.steps = [resolve.selfName] := pathSteps_of_not_mem (by decide)
  rw [self, resolve, if_pos rfl, Json.walk_nil]

/-- An element has a value for a path, and no variable changes it. -/
theorem exists_resolve (h : isPath p.raw) (e : Json) :
    ∃ v, ∀ scope, resolve e scope p.steps = .ok v := by
  rcases fieldSteps_none p.raw with ⟨empty, -, -⟩ | ⟨s, rest, hn, hf⟩
  · obtain rfl := eq_element_of_isElement (String.isEmpty_iff.mpr empty)
    exact ⟨e, resolve_element_steps e⟩
  · rw [steps_eq, hf]
    have members : ∀ t ∈ rest, isMemberName t := fun t ht =>
      (plain_of_mem_names h (hn ▸ List.mem_cons_of_mem s ht)).1
    obtain ⟨v, hv⟩ := Json.exists_walk members (e.member s)
    exact ⟨v, fun scope => by rw [resolve_names scope h hn, hv]⟩

/-- A path is followed alike from an element and from a value. -/
theorem walk_names (h : isPath p.raw) (flat : ∀ items, e ≠ .array items) {v : Json}
    (reach : ∀ scope, resolve e scope p.steps = .ok v) : e.walk (names p.raw) = .ok v := by
  rw [← reach [], steps_eq]
  exact (resolve_element flat (x := .field p.raw) h (by simp [Question.isLost])).symm

/-- Behind a path that leads away from the element, a path is followed from its value. -/
theorem resolve_followedBy (hp : isPath p.raw) (hq : isPath q.raw) (leaves : p.isElement = false)
    (scope : Scope) :
    resolve e scope (p.followedBy q).steps =
      (resolve e scope p.steps).bind (·.walk (names q.raw)) := by
  cases stays : q.isElement with
  | true =>
      obtain rfl := eq_element_of_isElement stays
      rw [followedBy_element]
      cases resolve e scope p.steps with
      | error fault => rfl
      | ok v => exact (Json.walk_nil v).symm
  | false =>
      rw [steps_followedBy leaves stays, ← names_of_not_isElement leaves,
        ← names_of_not_isElement stays]
      rcases fieldSteps_none q.raw with ⟨empty, -⟩ | ⟨s, rest, hn, -⟩
      · exact absurd (String.isEmpty_iff.mpr empty) (Bool.eq_false_iff.mp stays)
      · have behind : isMemberName s := (plain_of_mem_names hq (hn ▸ List.mem_cons_self)).1
        rw [hn]
        refine resolve_append ?_ (fun t ht => (plain_of_mem_names hp ht).1) behind
        rw [names_of_not_isElement leaves, steps_of_not_isElement leaves]
        simpa [pathSteps] using splitDots_ne_nil p.raw.toList

/-- Paths one after another are a monoid with the path to the element itself as its identity, and a
path behind another leads from an element to what it leads to from the value of the other one. -/
theorem followedBy_sound :
    (∀ p q r : KeyPath, (p.followedBy q).followedBy r = p.followedBy (q.followedBy r) ∧
        element.followedBy p = p ∧ p.followedBy element = p) ∧
      ∀ (p q : KeyPath) (e : Json) (scope : Scope), isPath p.raw → isPath q.raw →
        (p = element → ∀ items, e ≠ .array items) →
        ∃ v w, resolve e scope p.steps = .ok v ∧ v.walk (names q.raw) = .ok w ∧
          resolve e scope (p.followedBy q).steps = .ok w := by
  refine ⟨fun p q r => ⟨followedBy_assoc p q r, element_followedBy p, followedBy_element p⟩,
    fun p q e scope hp hq flat => ?_⟩
  cases leaves : p.isElement with
  | true =>
      obtain rfl := eq_element_of_isElement leaves
      obtain ⟨w, hw⟩ := exists_resolve hq e
      exact ⟨e, w, resolve_element_steps e scope, walk_names hq (flat rfl) hw, hw scope⟩
  | false =>
      obtain ⟨v, hv⟩ := exists_resolve hp e
      obtain ⟨w, hw⟩ := v.exists_walk fun t ht => (plain_of_mem_names hq ht).1
      exact ⟨v, w, hv scope, hw, by rw [resolve_followedBy hp hq leaves, hv scope]; exact hw⟩

end KeyPath

namespace Bookshelf

/-- What the chapters of a book do not have is missing in each of them. -/
theorem reviewed_chapters_title :
    isPath "chapters" ∧ isPath "title.length" ∧
      ((⟨"chapters"⟩ : KeyPath) = .element → ∀ items, reviewed ≠ .array items) ∧
      ∃ v, resolve reviewed [] (KeyPath.steps ⟨"chapters"⟩) = .ok v ∧
        v.walk (names "title.length") = .ok (.array [.null, .null]) ∧
        resolve reviewed [] (KeyPath.followedBy ⟨"chapters"⟩ ⟨"title.length"⟩).steps =
          .ok (.array [.null, .null]) := by
  have chapters : isPath "chapters" := by decide +kernel
  have title : isPath "title.length" := by decide +kernel
  have object : (⟨"chapters"⟩ : KeyPath) = .element → ∀ items, reviewed ≠ .array items := by
    intro _ items
    simp [reviewed]
  obtain ⟨v, w, hv, hw, found⟩ :=
    KeyPath.followedBy_sound.2 ⟨"chapters"⟩ ⟨"title.length"⟩ reviewed [] chapters title object
  have both : (KeyPath.followedBy ⟨"chapters"⟩ ⟨"title.length"⟩).steps =
      ["chapters", "title", "length"] := by decide +kernel
  obtain rfl : w = .array [.null, .null] :=
    Except.ok.inj (found.symm.trans (by rw [both]; rfl))
  exact ⟨chapters, title, object, v, hv, hw, found⟩

end Bookshelf

end Winnow
