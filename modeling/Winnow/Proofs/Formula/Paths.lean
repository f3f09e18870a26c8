import Mathlib.Tactic.Common
import Winnow.Predicate.Basic
import Winnow.Proofs.Formula.Outline
import Winnow.Proofs.Predicate.Scanning

/-!
Paths of a formula as a reader takes them. A path is a list of names with points between them;
under a root it is one word, and its steps are the root and the names.
-/

namespace Winnow

def isNamePart (c : Char) : Bool := Text.isAlphanumeric c || c == '_'

def isName (name : List Char) : Bool := !name.isEmpty && name.all isNamePart

/-- A path of names with points between them that does not begin at the element. -/
def isDotted (path : String) : Bool :=
  (splitDots path.toList).all isName && (splitDots path.toList).head? != some selfExpression.toList

/-- The words that stand for something else where a path may stand. -/
def reserved : List String := ["ANY", "SUBQUERY", truePredicate, falsePredicate]

/-- A path that an element is asked for: of names that do not begin with a digit, and no word that
stands for something else. The path to the element itself is one, too. -/
def isProper (path : String) : Bool :=
  path.isEmpty ||
    isDotted path && (splitDots path.toList).all (fun name => !name.head?.any Char.isDigit) &&
      !reserved.contains path

/-- The names of a path. The path to the element itself has none. -/
def names (path : String) : List String := if path.isEmpty then [] else pathSteps path

def ownerSteps (root : Root) (path : String) : List String := root.item?.toList ++ names path

def fieldSteps (root : Root) (path : String) : List String :=
  if root.isNone && path.isEmpty then [selfExpression] else ownerSteps root path

def functionSteps (root : Root) (collection field : String) (a : AggregateFunction) :
    List String :=
  ownerSteps root collection ++ a.keyword :: names field

/-! ### The pieces between points -/

theorem splitDots_ne_nil (text : List Char) : splitDots text ≠ [] := by
  cases text with
  | nil => simp [splitDots]
  | cons c rest =>
      rw [splitDots]
      split
      · simp
      · split <;> simp

theorem splitDots_append (a b : List Char) :
    splitDots (a ++ '.' :: b) = splitDots a ++ splitDots b := by
  induction a with
  | nil => simp [splitDots]
  | cons c a ih =>
      rw [List.cons_append, splitDots, splitDots, ih]
      split
      · rfl
      · obtain ⟨piece, pieces, hp⟩ := List.exists_cons_of_ne_nil (splitDots_ne_nil a)
        rw [hp]
        rfl

theorem splitDots_of_not_mem {text : List Char} (h : '.' ∉ text) : splitDots text = [text] := by
  induction text with
  | nil => rfl
  | cons c rest ih =>
      rw [List.mem_cons, not_or] at h
      rw [splitDots, if_neg (Ne.symm h.1), ih h.2]

theorem mem_splitDots {text : List Char} {c : Char} (h : c ∈ text) :
    c = '.' ∨ ∃ piece ∈ splitDots text, c ∈ piece := by
  induction text with
  | nil => cases h
  | cons d rest ih =>
      rw [splitDots]
      obtain ⟨piece, pieces, hp⟩ := List.exists_cons_of_ne_nil (splitDots_ne_nil rest)
      rw [hp] at ih ⊢
      by_cases hd : d = '.'
      · rw [if_pos hd]
        rcases List.mem_cons.mp h with rfl | hc
        · exact .inl hd
        · exact (ih hc).imp_right fun ⟨q, hq, hc⟩ => ⟨q, List.mem_cons_of_mem _ hq, hc⟩
      · rw [if_neg hd]
        rcases List.mem_cons.mp h with rfl | hc
        · exact .inr ⟨c :: piece, List.mem_cons_self, List.mem_cons_self⟩
        · refine (ih hc).imp_right fun ⟨q, hq, hc⟩ => ?_
          rcases List.mem_cons.mp hq with rfl | hq
          · exact ⟨d :: q, List.mem_cons_self, List.mem_cons_of_mem d hc⟩
          · exact ⟨q, List.mem_cons_of_mem _ hq, hc⟩

theorem mem_of_mem_splitDots {text piece : List Char} {c : Char} (hp : piece ∈ splitDots text)
    (hc : c ∈ piece) : c ∈ text := by
  induction text generalizing piece with
  | nil =>
      rw [List.mem_singleton.mp hp] at hc
      cases hc
  | cons d rest ih =>
      obtain ⟨first, pieces, hs⟩ := List.exists_cons_of_ne_nil (splitDots_ne_nil rest)
      rw [splitDots, hs] at hp
      rw [hs] at ih
      split at hp
      · rcases List.mem_cons.mp hp with rfl | hp
        · cases hc
        · exact List.mem_cons_of_mem d (ih hp hc)
      · rcases List.mem_cons.mp hp with rfl | hp
        · rcases List.mem_cons.mp hc with rfl | hc
          · exact List.mem_cons_self
          · exact List.mem_cons_of_mem d (ih List.mem_cons_self hc)
        · exact List.mem_cons_of_mem d (ih (List.mem_cons_of_mem first hp) hc)

theorem mem_of_mem_pathSteps {path step : String} {c : Char} (hs : step ∈ pathSteps path)
    (hc : c ∈ step.toList) : c ∈ path.toList := by
  obtain ⟨piece, hp, rfl⟩ := List.mem_map.mp hs
  rw [String.toList_ofList] at hc
  exact mem_of_mem_splitDots hp hc

theorem mem_pathSteps {path : String} {c : Char} (h : c ∈ path.toList) :
    c = '.' ∨ ∃ step ∈ pathSteps path, c ∈ step.toList := by
  refine (mem_splitDots h).imp_right fun ⟨piece, hp, hc⟩ => ?_
  exact ⟨String.ofList piece, List.mem_map_of_mem hp, by rwa [String.toList_ofList]⟩

theorem head?_of_splitDots {text name : List Char} {c : Char} {pieces : List (List Char)}
    (h : splitDots text = (c :: name) :: pieces) : text.head? = some c := by
  cases text with
  | nil => simp [splitDots] at h
  | cons d rest =>
      rw [splitDots] at h
      split at h
      · simp at h
      · split at h <;> simp_all

theorem pathSteps_append (a b : String) :
    pathSteps (a ++ "." ++ b) = pathSteps a ++ pathSteps b := by
  simp [pathSteps, String.toList_append, splitDots_append]

theorem pathSteps_of_not_mem {path : String} (h : '.' ∉ path.toList) : pathSteps path = [path] := by
  simp [pathSteps, splitDots_of_not_mem h]

/-! ### Variables -/

theorem toList_itemNameAt (n : Nat) :
    (Subquery.itemNameAt n).toList = '$' :: 'a' :: Nat.toDigits 10 n := by
  simp [Subquery.itemNameAt, String.toList_append]

theorem point_not_mem_itemNameAt (n : Nat) : '.' ∉ (Subquery.itemNameAt n).toList := by
  rw [toList_itemNameAt]
  have digits : '.' ∉ Nat.toDigits 10 n := fun h => by
    simpa using Nat.isDigit_of_mem_toDigits (by decide) (by decide) h
  simp [digits]

/-- Variables with different numbers have different names. -/
theorem itemNameAt_inj {m n : Nat} : Subquery.itemNameAt m = Subquery.itemNameAt n ↔ m = n := by
  refine ⟨fun h => ?_, congrArg _⟩
  have digits : Nat.toDigits 10 m = Nat.toDigits 10 n := by
    simpa [toList_itemNameAt] using congrArg String.toList h
  rw [← Nat.ofDigitChars_ten_toDigits (n := m), digits, Nat.ofDigitChars_ten_toDigits]

theorem pathSteps_itemNameAt (n : Nat) :
    pathSteps (Subquery.itemNameAt n) = [Subquery.itemNameAt n] :=
  pathSteps_of_not_mem (point_not_mem_itemNameAt n)

/-! ### Fields and functions at a root -/

section Names

variable (path collection field : String) (a : AggregateFunction) (n : Nat)

theorem fieldAt_none : fieldAt none path = if path.isEmpty then selfExpression else path := rfl

theorem fieldAt_some :
    fieldAt (some n) path =
      if path.isEmpty then Subquery.itemNameAt n else Subquery.itemNameAt n ++ "." ++ path := rfl

theorem functionAt_none :
    functionAt none collection field a =
      (if collection.isEmpty then "" else collection ++ ".") ++ a.keyword ++
        if field.isEmpty then "" else "." ++ field := rfl

/-- Under a variable, a function belongs to a field of the item or to the item itself. -/
theorem functionAt_some :
    functionAt (some n) collection field a =
      fieldAt (some n) collection ++ "." ++ a.keyword ++
        if field.isEmpty then "" else "." ++ field := by
  rw [functionAt, fieldAt_some]
  simp only [Root.item?, Option.map_some, Segment.renderAt, Segment.renderUnder]
  split <;> rfl

theorem point_not_mem_keyword : '.' ∉ a.keyword.toList := by
  cases a <;> decide

end Names

theorem pathSteps_fieldAt (root : Root) (path : String) :
    pathSteps (fieldAt root path) = fieldSteps root path := by
  cases root with
  | none =>
      rw [fieldAt_none]
      by_cases hp : path.isEmpty
      · rw [if_pos hp, pathSteps_of_not_mem (by decide)]
        simp [fieldSteps, hp]
      · simp [fieldSteps, ownerSteps, Root.item?, names, hp]
  | some n =>
      rw [fieldAt_some]
      by_cases hp : path.isEmpty
      · simp [fieldSteps, ownerSteps, Root.item?, names, hp, pathSteps_itemNameAt]
      · simp [fieldSteps, ownerSteps, Root.item?, names, hp, pathSteps_itemNameAt,
          pathSteps_append]

/-- The steps of the number of items that a path leads to. -/
theorem pathSteps_count (path : String) :
    pathSteps (path ++ ".@count") = pathSteps path ++ ["@count"] := by
  have text : path ++ ".@count" = path ++ "." ++ "@count" := by
    rw [String.append_assoc]
    rfl
  have step : pathSteps "@count" = ["@count"] := pathSteps_of_not_mem (by decide)
  rw [text, pathSteps_append, step]

theorem pathSteps_total (root : Root) (path : String) :
    pathSteps (fieldAt root path ++ ".@count") = fieldSteps root path ++ ["@count"] := by
  rw [pathSteps_count, pathSteps_fieldAt]

theorem pathSteps_function (a : AggregateFunction) (field : String) :
    pathSteps (a.keyword ++ if field.isEmpty then "" else "." ++ field) =
      a.keyword :: names field := by
  have keyword := pathSteps_of_not_mem (point_not_mem_keyword a)
  by_cases hf : field.isEmpty
  · simp [hf, names, keyword]
  · simp [hf, names, ← String.append_assoc, pathSteps_append, keyword]

theorem pathSteps_functionAt (root : Root) (collection field : String) (a : AggregateFunction) :
    pathSteps (functionAt root collection field a) = functionSteps root collection field a := by
  cases root with
  | none =>
      by_cases hc : collection.isEmpty
      · rw [functionAt_none, if_pos hc, String.empty_append, pathSteps_function]
        simp [functionSteps, ownerSteps, Root.item?, names, hc]
      · rw [functionAt_none, if_neg hc, String.append_assoc, pathSteps_append, pathSteps_function]
        simp [functionSteps, ownerSteps, Root.item?, names, hc]
  | some n =>
      rw [functionAt_some, String.append_assoc, pathSteps_append, pathSteps_function,
        pathSteps_fieldAt]
      simp [functionSteps, fieldSteps, ownerSteps]

/-! ### Words -/

/-- A text that is read as one word. -/
structure IsWord (text : String) : Prop where
  head : ∃ c ∈ text.toList.head?, ¬ c.isDigit
  part : ∀ c ∈ text.toList, Token.isWordPart c

theorem isWord_iff (text : String) :
    (text.toList.head?.any (fun c => !c.isDigit) ∧ text.toList.all Token.isWordPart) ↔
      IsWord text := by
  rw [Option.any_eq_true, List.all_eq_true]
  constructor
  · rintro ⟨⟨c, hc, hd⟩, part⟩
    exact ⟨⟨c, hc, by simpa using hd⟩, part⟩
  · rintro ⟨⟨c, hc, hd⟩, part⟩
    exact ⟨⟨c, hc, by simpa using hd⟩, part⟩

instance (text : String) : Decidable (IsWord text) := decidable_of_iff _ (isWord_iff text)

theorem scanAll_of_isWord {text : String} (h : IsWord text) :
    Token.scanAll text.toList = .ok [.word text] := by
  obtain ⟨⟨c, hc, hd⟩, part⟩ := h
  cases ht : text.toList with
  | nil => simp [ht] at hc
  | cons d rest =>
      rw [ht] at hc part
      cases hc
      rw [Token.scanAll_word hd part, ← ht, String.ofList_toList]

theorem IsWord.append {text more : String} (h : IsWord text)
    (hm : ∀ c ∈ more.toList, Token.isWordPart c) : IsWord (text ++ more) := by
  obtain ⟨⟨c, hc, hd⟩, part⟩ := h
  refine ⟨⟨c, ?_, hd⟩, ?_⟩
  · rw [String.toList_append, List.head?_append, hc]
    rfl
  · rw [String.toList_append]
    intro d hm'
    exact (List.mem_append.mp hm').elim (part d) (hm d)

theorem isWordPart_of_isNamePart {c : Char} (h : isNamePart c) : Token.isWordPart c := by
  simp only [isNamePart, Bool.or_eq_true] at h
  rcases h with h | h <;> simp [Token.isWordPart, h]

theorem isNamePart_of_isDotted {path : String} (h : isDotted path) {c : Char}
    (hc : c ∈ path.toList) : c = '.' ∨ isNamePart c := by
  simp only [isDotted, Bool.and_eq_true, List.all_eq_true] at h
  refine (mem_splitDots hc).imp_right fun ⟨name, hn, hc⟩ => ?_
  have := h.1 name hn
  simp only [isName, Bool.and_eq_true, List.all_eq_true] at this
  exact this.2 c hc

theorem isWordPart_of_isDotted {path : String} (h : isDotted path) {c : Char}
    (hc : c ∈ path.toList) : Token.isWordPart c := by
  rcases isNamePart_of_isDotted h hc with rfl | hc
  · rfl
  · exact isWordPart_of_isNamePart hc

/-- The element itself, or a dotted path. -/
def isPath (path : String) : Bool := path.isEmpty || isDotted path

theorem isWordPart_of_isPath {path : String} (h : isPath path) {c : Char}
    (hc : c ∈ path.toList) : Token.isWordPart c := by
  simp only [isPath, Bool.or_eq_true, String.isEmpty_iff] at h
  rcases h with rfl | h
  · cases hc
  · exact isWordPart_of_isDotted h hc

/-- The names of a path are not empty and have no characters but those of names. -/
theorem isName_of_mem_names {path step : String} (h : isPath path) (hs : step ∈ names path) :
    isName step.toList := by
  rw [names] at hs
  split at hs
  · cases hs
  · next hp =>
      have dotted : isDotted path := by simpa [isPath, hp] using h
      simp only [isDotted, Bool.and_eq_true, List.all_eq_true] at dotted
      obtain ⟨name, hn, rfl⟩ := List.mem_map.mp hs
      rw [String.toList_ofList]
      exact dotted.1 name hn

theorem isNamePart_of_mem_names {path step : String} (h : isPath path) (hs : step ∈ names path)
    {c : Char} (hc : c ∈ step.toList) : isNamePart c := by
  have name := isName_of_mem_names h hs
  simp only [isName, Bool.and_eq_true, List.all_eq_true] at name
  exact name.2 c hc

theorem isNamePart_apart {c : Char} (h : isNamePart c) : c ≠ '$' ∧ c ≠ '@' := by
  constructor <;> rintro rfl <;> exact absurd h (by decide)

theorem isWord_itemNameAt (n : Nat) : IsWord (Subquery.itemNameAt n) := by
  refine ⟨⟨'$', by rw [toList_itemNameAt]; rfl, by decide⟩, ?_⟩
  rw [toList_itemNameAt]
  intro c hc
  rcases List.mem_cons.mp hc with rfl | hc
  · rfl
  rcases List.mem_cons.mp hc with rfl | hc
  · rfl
  · have hd : c.isDigit := Nat.isDigit_of_mem_toDigits (by decide) (by decide) hc
    simp [Token.isWordPart, Text.isAlphanumeric, Char.isAlphanum, hd]

theorem isWordPart_point_append {text : String} (h : ∀ c ∈ text.toList, Token.isWordPart c) :
    ∀ c ∈ ("." ++ text).toList, Token.isWordPart c := by
  rw [String.toList_append]
  intro c hc
  rcases List.mem_append.mp hc with hc | hc
  · rw [List.mem_singleton.mp hc]
    rfl
  · exact h c hc

theorem isWord_fieldAt_some (n : Nat) {path : String} (h : isPath path) :
    IsWord (fieldAt (some n) path) := by
  rw [fieldAt_some]
  split
  · exact isWord_itemNameAt n
  · rw [String.append_assoc]
    exact (isWord_itemNameAt n).append
      (isWordPart_point_append fun c => isWordPart_of_isPath h)

theorem isPath_of_isProper {path : String} (h : isProper path) : isPath path := by
  simp only [isProper, Bool.or_eq_true, Bool.and_eq_true] at h
  simpa [isPath] using h.imp_right fun h => h.1.1

/-- A proper path to a field is a word and does not stand for something else. -/
theorem isWord_of_isProper {path : String} (h : isProper path) (hp : ¬ path.isEmpty) :
    IsWord path ∧ path ∉ reserved := by
  simp only [isProper, Bool.or_eq_true, Bool.and_eq_true, hp, List.all_eq_true,
    Bool.not_eq_true', List.contains_eq_mem, decide_eq_false_iff_not] at h
  obtain ⟨⟨dotted, digit⟩, free⟩ := h.resolve_left (by simp)
  refine ⟨⟨?_, fun c => isWordPart_of_isDotted dotted⟩, free⟩
  obtain ⟨piece, pieces, hs⟩ := List.exists_cons_of_ne_nil (splitDots_ne_nil path.toList)
  have inside : piece ∈ splitDots path.toList := hs ▸ List.mem_cons_self
  obtain ⟨c, name, rfl⟩ : ∃ c name, piece = c :: name := by
    simp only [isDotted, Bool.and_eq_true, List.all_eq_true, isName, Bool.not_eq_true',
      List.isEmpty_eq_false_iff] at dotted
    exact List.exists_cons_of_ne_nil (dotted.1 piece inside).1
  refine ⟨c, head?_of_splitDots hs, ?_⟩
  simpa using digit _ inside

theorem isWord_fieldAt (root : Root) {path : String} (h : isProper path) :
    IsWord (fieldAt root path) := by
  cases root with
  | some n => exact isWord_fieldAt_some n (isPath_of_isProper h)
  | none =>
      rw [fieldAt_none]
      split
      · exact (by decide : IsWord "SELF")
      · next hp => exact (isWord_of_isProper h hp).1

theorem isWordPart_total : ∀ c ∈ ".@count".toList, Token.isWordPart c :=
  List.all_eq_true.mp (by decide)

theorem isWordPart_keyword (a : AggregateFunction) :
    ∀ c ∈ a.keyword.toList, Token.isWordPart c :=
  List.all_eq_true.mp (by cases a <;> decide)

theorem isWordPart_function (a : AggregateFunction) {field : String} (h : isPath field) :
    ∀ c ∈ (a.keyword ++ if field.isEmpty then "" else "." ++ field).toList,
      Token.isWordPart c := by
  rw [String.toList_append]
  intro c hc
  rcases List.mem_append.mp hc with hc | hc
  · exact isWordPart_keyword a c hc
  · split at hc
    · cases hc
    · exact isWordPart_point_append (fun d => isWordPart_of_isPath h) c hc

theorem isWord_functionAt (root : Root) {collection field : String} (a : AggregateFunction)
    (hc : isProper collection) (hf : isPath field) :
    IsWord (functionAt root collection field a) := by
  have function := isWordPart_function a hf
  cases root with
  | some n =>
      rw [functionAt_some, String.append_assoc, String.append_assoc]
      exact (isWord_fieldAt_some n (isPath_of_isProper hc)).append
        (isWordPart_point_append function)
  | none =>
      rw [functionAt_none]
      split
      · rw [String.empty_append]
        exact ⟨⟨'@', by cases a <;> simp [AggregateFunction.keyword], by decide⟩, function⟩
      · next hp =>
          rw [String.append_assoc, String.append_assoc]
          exact (isWord_of_isProper hc hp).1.append (isWordPart_point_append function)

/-! ### Words that stand for something else -/

theorem not_mem_reserved_of_mem {text : String} {c : Char} (hc : c ∈ text.toList)
    (h : c = '$' ∨ c = '@') : text ∉ reserved := by
  intro hr
  have free : ∀ word ∈ reserved, '$' ∉ word.toList ∧ '@' ∉ word.toList := by decide
  rcases h with rfl | rfl
  · exact (free text hr).1 hc
  · exact (free text hr).2 hc

theorem fieldAt_not_mem_reserved (root : Root) {path : String} (h : isProper path) :
    fieldAt root path ∉ reserved := by
  cases root with
  | none =>
      rw [fieldAt_none]
      split
      · decide
      · next hp => exact (isWord_of_isProper h hp).2
  | some n =>
      refine not_mem_reserved_of_mem (c := '$') ?_ (.inl rfl)
      rw [fieldAt_some]
      split <;> simp [String.toList_append, toList_itemNameAt]

theorem total_not_mem_reserved (root : Root) (path : String) :
    fieldAt root path ++ ".@count" ∉ reserved := by
  refine not_mem_reserved_of_mem (c := '@') ?_ (.inr rfl)
  simp [String.toList_append]

theorem functionAt_not_mem_reserved (root : Root) (collection field : String)
    (a : AggregateFunction) : functionAt root collection field a ∉ reserved := by
  have keyword : '@' ∈ a.keyword.toList := by cases a <;> decide
  refine not_mem_reserved_of_mem (c := '@') ?_ (.inr rfl)
  simp [functionAt, String.toList_append, keyword]

end Winnow
