import Mathlib.Data.List.Chain
import Mathlib.Tactic.Common
import Winnow.Proofs.Condition.Rendering

/-!
Putting templates together. Text merges with the text before it, so a template has one form however
its pieces were grouped: templates one after another are a monoid, and moving the fields under a
variable respects it.
-/

namespace Winnow

namespace Segment

def isText : Segment → Bool
  | text _ => true
  | _ => false

variable {segments : List Segment} {p : Segment}

/-! ### Text after text -/

theorem pushText_nil (t : String) : pushText t [] = if t.isEmpty then [] else [text t] := by
  rw [pushText]

theorem pushText_text (front : List Segment) (s t : String) :
    pushText t (front ++ [text s]) = front ++ [text (s ++ t)] := by
  induction front with
  | nil => rw [List.nil_append, pushText, List.nil_append]
  | cons p front ih =>
      rw [List.cons_append, pushText, ih, List.cons_append]
      simp

theorem pushText_apart (h : ∀ p ∈ segments.getLast?, p.isText = false) (t : String) :
    pushText t segments = segments ++ pushText t [] := by
  fun_induction pushText t segments with
  | case1 empty => rw [pushText_nil, if_pos empty, List.nil_append]
  | case2 filled => rw [pushText_nil, if_neg filled, List.nil_append]
  | case3 s => cases h (text s) rfl
  | case4 p rest _ ih =>
      rw [List.cons_append, ih]
      intro q hq
      refine h q ?_
      obtain ⟨r, rest, rfl⟩ :=
        List.exists_cons_of_ne_nil (List.ne_nil_of_mem (List.mem_of_getLast? hq))
      rwa [List.getLast?_cons_cons]

theorem exists_text_or (segments : List Segment) :
    (∃ front s, segments = front ++ [text s]) ∨ ∀ p ∈ segments.getLast?, p.isText = false := by
  obtain rfl | ⟨front, p, rfl⟩ := List.eq_nil_or_concat segments
  · exact .inr (by simp)
  · cases p with
    | text s => exact .inl ⟨front, s, List.concat_eq_append⟩
    | field path => exact .inr (by simp [isText])
    | owner path => exact .inr (by simp [isText])

@[simp] theorem pushText_empty (segments : List Segment) : pushText "" segments = segments := by
  obtain ⟨front, s, rfl⟩ | apart := exists_text_or segments
  · rw [pushText_text, String.append_empty]
  · rw [pushText_apart apart, pushText_nil, if_pos (by decide), List.append_nil]

/-- Two texts are added like the one that they make up. -/
theorem pushText_pushText (s t : String) (segments : List Segment) :
    pushText t (pushText s segments) = pushText (s ++ t) segments := by
  by_cases hs : s.isEmpty
  · rw [String.isEmpty_iff.mp hs, pushText_empty, String.empty_append]
  obtain ⟨front, r, rfl⟩ | apart := exists_text_or segments
  · rw [pushText_text, pushText_text, pushText_text, String.append_assoc]
  · have filled : ¬ (s ++ t).isEmpty := by
      simpa [String.isEmpty_iff] using fun h => absurd h (by simpa [String.isEmpty_iff] using hs)
    rw [pushText_apart apart, pushText_apart apart, pushText_nil, if_neg hs, pushText_text,
      pushText_nil, if_neg filled]

/-! ### Pieces after pieces -/

theorem push_apart (h : p.isText = false) (segments : List Segment) :
    push segments p = segments ++ [p] := by
  cases p with
  | text s => cases h
  | field path => rfl
  | owner path => rfl

/-- Pieces may be added after a piece as they stand, or put together with it before. -/
theorem foldl_push_push (segments more : List Segment) (p : Segment) :
    (push more p).foldl push segments = push (more.foldl push segments) p := by
  cases p with
  | text t =>
      obtain ⟨front, s, rfl⟩ | apart := exists_text_or more
      · simp only [push, pushText_text, List.foldl_append, List.foldl_cons, List.foldl_nil,
          pushText_pushText]
      · rw [push, pushText_apart apart, pushText_nil, List.foldl_append, push]
        split
        · next empty => rw [String.isEmpty_iff.mp empty, pushText_empty, List.foldl_nil]
        · rfl
  | field path => rw [push_apart rfl, push_apart rfl, List.foldl_append]; rfl
  | owner path => rw [push_apart rfl, push_apart rfl, List.foldl_append]; rfl

theorem foldl_push_assoc (a b c : List Segment) :
    (c.foldl push b).foldl push a = c.foldl push (b.foldl push a) := by
  induction c generalizing b with
  | nil => rfl
  | cons p c ih => rw [List.foldl_cons, ih, foldl_push_push, List.foldl_cons]

/-! ### The form of a template -/

/-- No piece is an empty text, and no two texts are neighbours. -/
structure IsMerged (segments : List Segment) : Prop where
  filled : ∀ p ∈ segments, p ≠ text ""
  apart : segments.IsChain fun p q => ¬ (p.isText ∧ q.isText)

theorem IsMerged.nil : IsMerged [] := ⟨by simp, .nil⟩

theorem IsMerged.singleton (h : p ≠ text "") : IsMerged [p] := ⟨by simpa using h, .singleton p⟩

theorem IsMerged.append_singleton (h : IsMerged segments) (filled : p ≠ text "")
    (apart : p.isText → ∀ q ∈ segments.getLast?, q.isText = false) :
    IsMerged (segments ++ [p]) where
  filled q hq :=
    (List.mem_append.mp hq).elim (h.filled q) fun hq => List.mem_singleton.mp hq ▸ filled
  apart := List.isChain_append.mpr ⟨h.apart, .singleton p, fun q hq r hr both => by
    obtain rfl : p = r := by simpa using hr
    exact Bool.false_ne_true ((apart both.2 q hq).symm.trans both.1)⟩

theorem IsMerged.pushText (h : IsMerged segments) (t : String) :
    IsMerged (Segment.pushText t segments) := by
  obtain ⟨front, s, rfl⟩ | apart := exists_text_or segments
  · rw [pushText_text]
    obtain ⟨chain, -, last⟩ := List.isChain_append.mp h.apart
    refine ⟨fun q hq => ?_, List.isChain_append.mpr ⟨chain, .singleton _, fun q hq r hr => ?_⟩⟩
    · rcases List.mem_append.mp hq with hq | hq
      · exact h.filled q (List.mem_append_left _ hq)
      · have := h.filled (text s) (by simp)
        rw [List.mem_singleton.mp hq]
        simp_all
    · obtain rfl : text (s ++ t) = r := by simpa using hr
      exact last q hq (text s) rfl
  · rw [pushText_apart apart, pushText_nil]
    split
    · rwa [List.append_nil]
    · next filled =>
        exact h.append_singleton (fun he => filled (by cases he; rfl)) fun _ => apart

theorem IsMerged.push (h : IsMerged segments) (p : Segment) :
    IsMerged (Segment.push segments p) := by
  cases p with
  | text t => exact h.pushText t
  | field path => exact h.append_singleton (by simp) (by simp [isText])
  | owner path => exact h.append_singleton (by simp) (by simp [isText])

theorem IsMerged.foldl_push (h : IsMerged segments) (more : List Segment) :
    IsMerged (more.foldl Segment.push segments) := by
  induction more generalizing segments with
  | nil => exact h
  | cons p more ih => exact ih (h.push p)

/-- Merged pieces are what comes out when they are added one by one. -/
theorem IsMerged.foldl_push_nil (h : IsMerged segments) :
    segments.foldl Segment.push [] = segments := by
  -- Pieces are added at the end, so the induction takes the last one off.
  induction segments using List.reverseRecOn with
  | nil => rfl
  | append_singleton front p ih =>
      obtain ⟨chain, -, last⟩ := List.isChain_append.mp h.apart
      rw [List.foldl_append, ih ⟨fun q hq => h.filled q (List.mem_append_left _ hq), chain⟩]
      cases p with
      | text t =>
          have filled : ¬ t.isEmpty := fun empty =>
            h.filled (text t) (by simp) (by rw [String.isEmpty_iff.mp empty])
          have apart : ∀ q ∈ front.getLast?, q.isText = false := fun q hq => by
            simpa [isText] using last q hq (text t) rfl
          rw [List.foldl_cons, List.foldl_nil, Segment.push, pushText_apart apart, pushText_nil,
            if_neg filled]
      | field path => rfl
      | owner path => rfl

/-! ### Under a variable -/

/-- What is written one after another for a piece under a variable. -/
def partsUnder (root : String) : Segment → List String
  | text s => [s]
  | field path => if path.isEmpty then [root] else [root, ".", path]
  | owner path => if path.isEmpty then [root, "."] else [root, ".", path, "."]

theorem foldl_pushText_partsUnder (p : Segment) (root : String) (segments : List Segment) :
    (p.partsUnder root).foldl (fun written t => pushText t written) segments =
      pushText (p.renderUnder root) segments := by
  cases p with
  | text s => rfl
  | field path =>
      rw [partsUnder, renderUnder]
      split <;> simp [pushText_pushText]
  | owner path =>
      rw [partsUnder, renderUnder]
      split <;> simp [pushText_pushText]

theorem foldl_pushText_concat (root : String) (more segments : List Segment) :
    (more.flatMap (partsUnder root)).foldl (fun written t => pushText t written) segments =
      pushText (concat (renderUnder root) more) segments := by
  induction more generalizing segments with
  | nil => rw [concat, pushText_empty]; rfl
  | cons p more ih =>
      rw [List.flatMap_cons, List.foldl_append, foldl_pushText_partsUnder, ih, pushText_pushText,
        concat]

end Segment

namespace Template

open Segment

variable {t : Template}

theorem append_assoc (a b c : Template) : (a.append b).append c = a.append (b.append c) := by
  simp only [append, foldl_push_assoc, List.append_assoc, Nat.max_assoc]

theorem append_empty (a : Template) : a.append empty = a := by
  simp [append, empty]

/-- The templates that the operations lead to. -/
inductive IsWritten : Template → Prop where
  | empty : IsWritten empty
  | text {t : Template} (h : IsWritten t) (s : String) : IsWritten (t.text s)
  | field {t : Template} (h : IsWritten t) (path : String) : IsWritten (t.field path)
  | owner {t : Template} (h : IsWritten t) (path : String) : IsWritten (t.owner path)
  | bind {t : Template} (h : IsWritten t) (argument : Argument) : IsWritten (t.bind argument)
  | append {t u : Template} (h : IsWritten t) (more : IsWritten u) : IsWritten (t.append u)
  | under {t : Template} (h : IsWritten t) (root : String) : IsWritten (t.under root)
  | raised {t : Template} (h : IsWritten t) (height : Nat) : IsWritten { t with height }

theorem IsWritten.isMerged (h : t.IsWritten) : IsMerged t.segments := by
  induction h with
  | empty => exact .nil
  | text _ s ih => exact ih.push (.text s)
  | field _ path ih => exact ih.push (.field path)
  | owner _ path ih => exact ih.push (.owner path)
  | bind _ argument ih => exact ih.push (.text "?")
  | append _ _ ih _ => exact ih.foldl_push _
  | under _ root _ => exact IsMerged.nil.pushText _
  | raised _ height ih => exact ih

theorem IsWritten.empty_append (h : t.IsWritten) : Template.empty.append t = t := by
  have segments := h.isMerged.foldl_push_nil
  simp only [Template.append, Template.empty, segments, List.nil_append, Nat.zero_max]

theorem under_append (a b : Template) (root : String) :
    (a.append b).under root = (a.under root).append (b.under root) := by
  have text : concat (renderUnder root) (b.segments.foldl push a.segments) =
      concat (renderUnder root) a.segments ++ concat (renderUnder root) b.segments :=
    concat_foldl_push (some root) a.segments b.segments
  have merged := foldl_push_push (pushText (concat (renderUnder root) a.segments) []) []
    (.text (concat (renderUnder root) b.segments))
  simp only [push, List.foldl_nil, pushText_pushText] at merged
  simp only [append, under, text, merged]

theorem under_under (t : Template) (root item : String) :
    (t.under root).under item = t.under root := by
  have text : concat (renderUnder item) (t.under root).segments =
      concat (renderUnder root) t.segments := renderAt_under (some item) t root
  rw [under, text]
  rfl

theorem segments_under (t : Template) (root : String) :
    (t.under root).segments = [] ∨ ∃ s, (t.under root).segments = [.text s] := by
  rw [under, pushText_nil]
  split
  · exact .inl rfl
  · exact .inr ⟨_, rfl⟩

/-- A template that was written has no empty text and no two texts side by side. Templates one after
another are a monoid, whose text is the concatenation of the texts. Moving the fields under a
variable respects it, keeps the arguments and the height, and leaves at most one piece, a text,
which is what is written for the pieces one by one; once it is done no variable changes anything. -/
theorem IsWritten.composition (h : t.IsWritten) (u w : Template) :
    ((∀ p ∈ t.segments, p ≠ .text "") ∧
        t.segments.IsChain fun p q => ¬ (p.isText ∧ q.isText)) ∧
      (t.append u).append w = t.append (u.append w) ∧
      Template.empty.append t = t ∧ t.append Template.empty = t ∧
      (t.append u).render = t.render ++ u.render ∧
      ∀ root, (t.append u).under root = (t.under root).append (u.under root) ∧
        (t.under root).arguments = t.arguments ∧ (t.under root).height = t.height ∧
        ((t.under root).segments = [] ∨ ∃ s, (t.under root).segments = [.text s]) ∧
        (t.under root).segments =
          (t.segments.flatMap (partsUnder root)).foldl (fun written s => pushText s written) [] ∧
        ∀ item, (t.under root).under item = t.under root :=
  ⟨⟨h.isMerged.filled, h.isMerged.apart⟩, append_assoc t u w, h.empty_append, append_empty t,
    renderAt_append none t u, fun root => ⟨under_append t u root, rfl, rfl, segments_under t root,
      (foldl_pushText_concat root t.segments []).symm, under_under t root⟩⟩

end Template

namespace Bookshelf

/-- Some tag is "epic". -/
def taggedEpic : Template :=
  (((Template.empty.text "ANY ").field "tags").text " = ").bind (.text "epic")

/-- The element has items, and this comes after another condition. -/
def andItems : Template := ((Template.empty.text " AND ").owner "").text "@count > 0"

theorem taggedEpic_composition :
    taggedEpic.IsWritten ∧ Template.empty.append taggedEpic = taggedEpic ∧
      ((taggedEpic.append andItems).under "$a0").segments =
        [.text "ANY $a0.tags = ? AND $a0.@count > 0"] := by
  have written : taggedEpic.IsWritten := (((Template.IsWritten.empty.text _).field _).text _).bind _
  obtain ⟨-, -, identity, -, -, under⟩ := written.composition andItems .empty
  obtain ⟨distributes, -⟩ := under "$a0"
  exact ⟨written, identity, by rw [distributes]; decide⟩

end Bookshelf

end Winnow
