import Mathlib.Data.List.Forall2
import Winnow.Proofs.Predicate.Folding

/-!
Matches that are lost by folding more. In lower case the beginning or the end of a text is lost
exactly if a capital sigma of it ends a word there and not in the text, or in the text only. Without
diacritics it is lost exactly if capitals that hide theirs stand in different places.
-/

namespace Winnow

namespace Text

variable {a b front text part rest : List Char}

/-! ### Capital sigmas -/

/-- Each capital sigma of a text ends a word behind one front exactly if it does behind another,
with more behind the text there. -/
def endsAlike (rest : List Char) : List Char → List Char → List Char → Bool
  | _, _, [] => true
  | a, b, c :: text =>
    (c != 'Σ' || endsWord a text == endsWord b (text ++ rest)) &&
      endsAlike rest (c :: a) (c :: b) text

theorem lowerChar_sigma : lowerChar 'Σ' = ['σ'] := by decide +kernel

theorem length_lowerAfter (before text : List Char) :
    (lowerAfter before text).length = (text.flatMap lowerChar).length := by
  induction text generalizing before with
  | nil => rfl
  | cons c text ih =>
      rw [List.flatMap_cons, List.length_append]
      by_cases h : c = 'Σ'
      · rw [h, lowerAfter_sigma, List.length_cons, ih, lowerChar_sigma, Nat.add_comm]
        rfl
      · rw [lowerAfter_other h, List.length_append, ih]

theorem length_of_lowerAfter_append {image : List Char}
    (h : lowerAfter b (text ++ rest) = image ++ lowerAfter a rest) :
    image.length = (text.flatMap lowerChar).length := by
  have whole := congrArg List.length h
  rw [length_lowerAfter, List.flatMap_append, List.length_append, List.length_append,
    length_lowerAfter] at whole
  exact (Nat.add_right_cancel whole).symm

theorem lowerAfter_prefix_iff :
    lowerAfter a part <+: lowerAfter b (part ++ rest) ↔ endsAlike rest a b part := by
  induction part generalizing a b with
  | nil => simp [lowerAfter, endsAlike]
  | cons c part ih =>
      rw [List.cons_append, endsAlike, Bool.and_eq_true, ← ih]
      by_cases h : c = 'Σ'
      · have same : ((if endsWord a part then 'ς' else 'σ') =
            if endsWord b (part ++ rest) then 'ς' else 'σ') ↔
            endsWord a part = endsWord b (part ++ rest) := by
          cases endsWord a part <;> cases endsWord b (part ++ rest) <;> decide
        rw [h, lowerAfter_sigma, lowerAfter_sigma, List.cons_prefix_cons, same]
        simp
      · rw [lowerAfter_other h, lowerAfter_other h, List.prefix_append_right_inj]
        simp [h]

/-- The part at the beginning of a text is kept in lower case exactly if its capital sigmas end
words in the text as they do in the part. -/
theorem lower_prefix_iff : lower part <+: lower (part ++ rest) ↔ endsAlike rest [] [] part :=
  lowerAfter_prefix_iff

theorem lower_suffix_iff :
    lower part <:+ lower (front ++ part) ↔ endsAlike [] [] front.reverse part := by
  obtain ⟨image, split⟩ := exists_lowerAfter_append [] front part
  rw [List.append_nil] at split
  have long : (lower part).length = (lowerAfter front.reverse part).length := by
    rw [lower, length_lowerAfter, length_lowerAfter]
  rw [← lowerAfter_prefix_iff, List.append_nil, lower, lower, split]
  constructor
  · intro ends
    have same := List.suffix_of_suffix_length_le ends (List.suffix_append image _) long.le
    rw [lower] at long
    rw [same.eq_of_length long]
  · intro begins
    rw [begins.eq_of_length long]
    exact List.suffix_append _ _

/-! ### Parts whose surroundings are not known -/

theorem exists_of_not_settled (h : ¬ settled front part) :
    ∃ u v, part = u ++ 'Σ' :: v ∧ ¬ settles (u.reverse ++ front) v := by
  induction part generalizing front with
  | nil => exact absurd rfl h
  | cons c part ih =>
      rw [settled, Bool.and_eq_true, not_and_or, Bool.or_eq_true, not_or] at h
      obtain ⟨sigma, open'⟩ | later := h
      · exact ⟨[], part, by simpa using sigma, open'⟩
      · obtain ⟨u, v, rfl, open'⟩ := ih later
        exact ⟨c :: u, v, rfl, by simpa using open'⟩

/-- Nothing that is ignored depends on what stands around it. -/
theorem lowerAfter_of_isOpen (h : isOpen part) (before rest : List Char) :
    lowerAfter before (part ++ rest) =
      part.flatMap lowerChar ++ lowerAfter (part.reverse ++ before) rest := by
  induction part generalizing before with
  | nil => rfl
  | cons c part ih =>
      rw [isOpen, List.all_cons, Bool.and_eq_true] at h
      have other : c ≠ 'Σ' := by
        rintro rfl
        exact absurd h.1 (by decide +kernel)
      rw [List.cons_append, lowerAfter_other other, ih h.2, List.flatMap_cons, List.append_assoc,
        List.reverse_cons, List.append_assoc]
      rfl

theorem meetsCased_of_isOpen (h : isOpen text) (rest : List Char) :
    meetsCased (text ++ rest) = meetsCased rest := by
  have none : text.dropWhile isCaseIgnorable = [] := by
    simpa [isOpen, List.dropWhile_eq_nil_iff] using h
  rw [meetsCased, meetsCased, List.dropWhile_append, none]
  rfl

/-- A letter in front of a part ends the word of a capital sigma that nothing but ignored characters
precede in the part. -/
theorem lower_not_infix_cons (before : isOpen front) (behind : ¬ meetsCased rest) :
    ¬ lower (front ++ 'Σ' :: rest) <:+: lower ('a' :: (front ++ 'Σ' :: rest)) := by
  have reversed : isOpen front.reverse := by rwa [isOpen, List.all_reverse]
  have within : endsWord (front.reverse ++ []) rest = false := by
    rw [endsWord, meetsCased_of_isOpen reversed]
    rfl
  have beside : endsWord (front.reverse ++ ['a']) rest = true := by
    rw [endsWord, meetsCased_of_isOpen reversed, Bool.and_eq_true, Bool.not_eq_true']
    exact ⟨by decide +kernel, by simpa using behind⟩
  have small : lowerChar 'a' = ['a'] := by decide +kernel
  rw [lower, lower, lowerAfter_other (by decide), small, lowerAfter_of_isOpen before,
    lowerAfter_of_isOpen before, lowerAfter_sigma, lowerAfter_sigma, within, beside,
    if_neg Bool.false_ne_true, if_pos rfl, List.singleton_append, List.infix_cons_iff]
  generalize front.flatMap lowerChar = image
  rintro (start | later)
  · have first : image ++ ['σ'] <+: 'a' :: image :=
      List.prefix_of_prefix_length_le
        (((List.prefix_append_right_inj image).mpr (by simp)).trans start)
        (List.prefix_append ('a' :: image) _) (by simp)
    have count := congrArg (List.count 'σ') (first.eq_of_length (by simp))
    simp at count
  · have same := later.eq_of_length (by simp [length_lowerAfter])
    simp at same

/-- The lower case of a text around its last capital sigma, up to what is not ignored. -/
theorem exists_lower_sigma (ignored : isOpen rest) (front more : List Char) :
    ∃ image before, image.length = (front.flatMap lowerChar).length ∧
      lower (front ++ 'Σ' :: (rest ++ more)) =
        image ++ (if endsWord front.reverse (rest ++ more) then 'ς' else 'σ') ::
          (rest.flatMap lowerChar ++ lowerAfter before more) := by
  obtain ⟨image, split⟩ := exists_lowerAfter_append [] front ('Σ' :: (rest ++ more))
  have long := length_of_lowerAfter_append split
  rw [List.append_nil, lowerAfter_sigma, lowerAfter_of_isOpen ignored] at split
  exact ⟨image, _, long, split⟩

/-- A letter behind a part goes on with the word of a capital sigma that nothing but ignored
characters follow in the part. -/
theorem lower_not_infix_concat (before : meetsCased front.reverse) (behind : isOpen rest) :
    ¬ lower (front ++ 'Σ' :: rest) <:+: lower (front ++ 'Σ' :: (rest ++ ['a'])) := by
  have within : endsWord front.reverse (rest ++ []) = true := by
    rw [endsWord, before, meetsCased_of_isOpen behind]
    rfl
  have beside : endsWord front.reverse (rest ++ ['a']) = false := by
    rw [endsWord, before, meetsCased_of_isOpen behind]
    decide +kernel
  have small (before : List Char) : lowerAfter before ['a'] = ['a'] := by
    have single : lowerChar 'a' = ['a'] := by decide +kernel
    rw [lowerAfter_other (by decide), single]
    rfl
  obtain ⟨image, _, long, alone⟩ := exists_lower_sigma behind front []
  obtain ⟨image', _, long', longer⟩ := exists_lower_sigma behind front ['a']
  rw [within, if_pos rfl, lowerAfter, List.append_nil, List.append_nil] at alone
  rw [beside, if_neg Bool.false_ne_true, small] at longer
  rw [alone, longer, ← List.cons_append, ← List.append_assoc, List.infix_concat_iff]
  generalize rest.flatMap lowerChar = image''
  rintro (ends | earlier)
  · rw [List.append_assoc] at ends
    have last : 'ς' :: image'' <:+ image'' ++ ['a'] :=
      List.suffix_of_suffix_length_le ((List.suffix_append image _).trans ends)
        ((List.suffix_append ['σ'] _).trans (List.suffix_append image' _)) (by simp)
    have count := congrArg (List.count 'ς') (last.eq_of_length (by simp))
    simp at count
  · have same := earlier.eq_of_length (by simp [long, long'])
    have tails := (List.append_inj same (long.trans long'.symm)).2
    simp at tails

/-- A part is kept in lower case by all texts around it exactly if it is decided within the part
whether its capital sigmas end words. -/
theorem settled_iff :
    settled [] part ↔ ∀ text, part <:+: text → lower part <:+: lower text := by
  refine ⟨fun h text stands => lower_infix h stands, fun kept => ?_⟩
  by_contra undecided
  obtain ⟨front, rest, rfl, open'⟩ := exists_of_not_settled undecided
  rw [List.append_nil, settles, Bool.or_eq_true, Bool.and_eq_true, Bool.or_eq_true, not_or,
    not_and_or, not_or] at open'
  obtain ⟨behind, before | ⟨before, ends⟩⟩ := open'
  · have ignored : isOpen front := by simpa [isOpen] using before
    exact lower_not_infix_cons ignored behind (kept _ (List.suffix_cons ..).isInfix)
  · have stands : front ++ 'Σ' :: rest <+: front ++ 'Σ' :: (rest ++ ['a']) := by
      rw [← List.cons_append, ← List.append_assoc]
      exact List.prefix_append _ _
    exact lower_not_infix_concat (by simpa using before) (by simpa using ends)
      (kept _ stands.isInfix)

example : settled [] ['Α', 'Σ'] = false := by decide +kernel

/-! ### Hidden diacritics -/

/-- Marks the characters of a text in lower case that come from capitals that hide a diacritic. -/
def hidden (text : List Char) : List Bool :=
  text.flatMap fun c => (lowerChar c).map fun _ => hidesDiacritic c

def stripUnlessHidden (hides : Bool) (c : Char) : Char := if hides then c else stripDiacritic c

/-- A mark stands only beside a letter that has a diacritic. -/
def Marks (hides : Bool) (c : Char) : Prop := hides → stripDiacritic c ≠ c

theorem marks_of_mem_lowerChar {c d : Char} (h : d ∈ lowerChar c) : Marks (hidesDiacritic c) d := by
  intro hides
  obtain rfl | rfl := hidesDiacritic_iff.mp hides
  · rw [lowerChar_of_hides.1, List.mem_singleton] at h
    rw [h]
    decide
  · rw [lowerChar_of_hides.2, List.mem_singleton] at h
    rw [h]
    decide

theorem hidden_cons_sigma (text : List Char) : hidden ('Σ' :: text) = false :: hidden text := by
  rw [hidden, List.flatMap_cons, lowerChar_sigma]
  rfl

theorem hidden_marks (before text : List Char) :
    List.Forall₂ Marks (hidden text) (lowerAfter before text) := by
  induction text generalizing before with
  | nil => exact .nil
  | cons c text ih =>
      by_cases capital : c = 'Σ'
      · rw [capital, hidden_cons_sigma, lowerAfter_sigma]
        exact .cons (fun h => by cases h) (ih _)
      · rw [hidden, List.flatMap_cons, lowerAfter_other capital]
        refine List.rel_append ?_ (ih _)
        rw [List.forall₂_map_left_iff, List.forall₂_same]
        exact fun d hd => marks_of_mem_lowerChar hd

/-- What becomes of a text in lower case if the diacritics are taken off first. -/
theorem lowerAfter_map_stripDiacritic (before text : List Char) :
    lowerAfter (before.map stripDiacritic) (text.map stripDiacritic) =
      List.zipWith stripUnlessHidden (hidden text) (lowerAfter before text) := by
  induction text generalizing before with
  | nil => rfl
  | cons c text ih =>
      have rest := ih (c :: before)
      rw [List.map_cons] at rest
      by_cases capital : c = 'Σ'
      · have same : stripDiacritic c = 'Σ' := (context_stripDiacritic c).2.2.mpr capital
        have sigmas (ends : Bool) : stripUnlessHidden false (if ends then 'ς' else 'σ') =
            if ends then 'ς' else 'σ' := by
          cases ends <;> rfl
        rw [same, capital] at rest
        rw [List.map_cons, same, capital, lowerAfter_sigma, lowerAfter_sigma, hidden_cons_sigma,
          List.zipWith_cons_cons, sigmas, rest, endsWord, endsWord, meetsCased_map, meetsCased_map]
      · have other : stripDiacritic c ≠ 'Σ' := mt (context_stripDiacritic c).2.2.mp capital
        rw [List.map_cons, lowerAfter_other other, lowerAfter_other capital, hidden,
          List.flatMap_cons, List.zipWith_append (by simp), rest, ← hidden]
        congr 1
        rw [List.zipWith_map_left, List.zipWith_self]
        cases hides : hidesDiacritic c with
        | true =>
          rw [stripDiacritic_of_hides hides]
          exact (List.map_id _).symm
        | false => exact lowerChar_stripDiacritic hides

variable {marks marks' : List Bool} {s t : List Char}

theorem stripUnlessHidden_inj {x y : Bool} {c : Char} (hx : Marks x c) (hy : Marks y c) :
    stripUnlessHidden x c = stripUnlessHidden y c ↔ x = y := by
  refine ⟨fun same => ?_, fun same => same ▸ rfl⟩
  cases x with
  | true =>
      cases y with
      | true => rfl
      | false => exact absurd same.symm (hx rfl)
  | false =>
      cases y with
      | true => exact absurd same (hy rfl)
      | false => rfl

theorem zipWith_prefix_iff (hs : List.Forall₂ Marks marks s) (ht : List.Forall₂ Marks marks' t)
    (h : s <+: t) :
    List.zipWith stripUnlessHidden marks s <+: List.zipWith stripUnlessHidden marks' t ↔
      marks <+: marks' := by
  induction hs generalizing marks' t with
  | nil => simp
  | cons head tail ih =>
      cases ht with
      | nil => simp at h
      | cons head' tail' =>
          obtain ⟨rfl, tails⟩ := List.cons_prefix_cons.mp h
          rw [List.zipWith_cons_cons, List.zipWith_cons_cons, List.cons_prefix_cons,
            List.cons_prefix_cons, ih tail' tails, stripUnlessHidden_inj head head']

theorem lower_map_stripDiacritic (text : List Char) : lower (text.map stripDiacritic) =
    List.zipWith stripUnlessHidden (hidden text) (lower text) :=
  lowerAfter_map_stripDiacritic [] text

/-- The beginning of a text in lower case is kept without diacritics exactly if the capitals that
hide theirs stand in the same places. -/
theorem lower_map_prefix_iff (h : lower part <+: lower text) :
    lower (part.map stripDiacritic) <+: lower (text.map stripDiacritic) ↔
      hidden part <+: hidden text := by
  rw [lower_map_stripDiacritic, lower_map_stripDiacritic]
  exact zipWith_prefix_iff (hidden_marks [] part) (hidden_marks [] text) h

theorem lower_map_suffix_iff (h : lower part <:+ lower text) :
    lower (part.map stripDiacritic) <:+ lower (text.map stripDiacritic) ↔
      hidden part <:+ hidden text := by
  have marked (text : List Char) : List.Forall₂ Marks (hidden text).reverse (lower text).reverse :=
    List.forall₂_reverse_iff.mpr (hidden_marks [] text)
  have long (text : List Char) : (hidden text).length = (lower text).length :=
    (hidden_marks [] text).length_eq
  rw [lower_map_stripDiacritic, lower_map_stripDiacritic, ← List.reverse_prefix,
    List.reverse_zipWith (long part), List.reverse_zipWith (long text),
    zipWith_prefix_iff (marked part) (marked text) (List.reverse_prefix.mpr h),
    List.reverse_prefix]

theorem lower_map_eq_iff (h : lower part = lower text) :
    lower (part.map stripDiacritic) = lower (text.map stripDiacritic) ↔
      hidden part = hidden text := by
  constructor
  · intro same
    have long : (hidden part).length = (hidden text).length := by
      rw [(hidden_marks [] part).length_eq, (hidden_marks [] text).length_eq]
      exact congrArg List.length h
    have start := lower_map_prefix_iff ⟨[], (List.append_nil _).trans h⟩
    exact (start.mp ⟨[], (List.append_nil _).trans same⟩).eq_of_length long
  · intro same
    rw [lower_map_stripDiacritic, lower_map_stripDiacritic, h, same]

theorem endsAlike_map (rest a b text : List Char) :
    endsAlike (rest.map stripDiacritic) (a.map stripDiacritic) (b.map stripDiacritic)
      (text.map stripDiacritic) = endsAlike rest a b text := by
  induction text generalizing a b with
  | nil => rfl
  | cons c text ih =>
      have later := ih (c :: a) (c :: b)
      rw [List.map_cons, List.map_cons] at later
      rw [List.map_cons, endsAlike, endsAlike, later, stripDiacritic_bne_sigma, ← List.map_append]
      simp only [endsWord, meetsCased_map]

end Text

namespace Folding

variable {f g : Folding} {part text : String}

/-- Diacritics are taken off letters that stand in lower case already with less folding. -/
def BaresLetters (f g : Folding) : Prop :=
  f.ignoresCase ∧ ¬ f.ignoresDiacritics ∧ g.ignoresDiacritics

/-- When a relation between two texts is kept in lower case, and when it is still kept there if
diacritics are taken off before. -/
structure Decides (R sigmas marks : List Char → List Char → Prop) : Prop where
  map {s t} : R s t → R (s.map stripDiacritic) (t.map stripDiacritic)
  lower {s t} : R s t → (R (Text.lower s) (Text.lower t) ↔ sigmas s t)
  sigmas_map (s t) : sigmas (s.map stripDiacritic) (t.map stripDiacritic) ↔ sigmas s t
  bare {s t} : R (Text.lower s) (Text.lower t) →
    (R (Text.lower (s.map stripDiacritic)) (Text.lower (t.map stripDiacritic)) ↔ marks s t)

theorem fold_iff {R sigmas marks : List Char → List Char → Prop} (decides : Decides R sigmas marks)
    (within : Within f g) (h : R (f.fold part) (f.fold text)) :
    R (g.fold part) (g.fold text) ↔
      (g.ignoresCase → ¬ f.ignoresCase → sigmas part.toList text.toList) ∧
      (BaresLetters f g → marks part.toList text.toList) := by
  obtain cased | rfl | ⟨rfl, rfl⟩ := within.cases
  · rw [fold_of_not_case cased, fold_of_not_case cased] at h
    have bare := letters_mono (R := R) decides.map within h
    rw [and_iff_left fun h => absurd h.1 cased]
    by_cases case : g.ignoresCase
    · rw [fold_of_case case, fold_of_case case, decides.lower bare, letters, letters]
      split
      · simp [cased, case, decides.sigmas_map]
      · simp [cased, case]
    · simp [case, fold_of_not_case, bare]
  · refine iff_of_true h ⟨fun case cased => absurd case cased, fun bares => ?_⟩
    exact absurd bares.2.2 bares.2.1
  · rw [fold_of_case rfl, fold_of_case rfl] at h ⊢
    refine (decides.bare h).trans ⟨fun same => ⟨fun _ cased => absurd rfl cased, fun _ => same⟩, ?_⟩
    exact fun kept => kept.2 ⟨rfl, Bool.false_ne_true, rfl⟩

theorem decides_eq : Decides Eq (fun _ _ => True)
    fun s t => Text.hidden s = Text.hidden t where
  map := congrArg _
  lower same := iff_of_true (congrArg _ same) trivial
  sigmas_map _ _ := Iff.rfl
  bare := Text.lower_map_eq_iff

theorem decides_prefix : Decides List.IsPrefix
    (fun s t => Text.endsAlike (t.drop s.length) [] [] s)
    fun s t => Text.hidden s <+: Text.hidden t where
  map begins := begins.map stripDiacritic
  lower begins := by
    obtain ⟨rest, rfl⟩ := begins
    rw [List.drop_left]
    exact Text.lower_prefix_iff
  sigmas_map s t := by
    rw [List.length_map, ← List.map_drop]
    exact Bool.eq_iff_iff.mp (Text.endsAlike_map _ [] [] s)
  bare := Text.lower_map_prefix_iff

theorem decides_suffix : Decides List.IsSuffix
    (fun s t => Text.endsAlike [] [] (t.take (t.length - s.length)).reverse s)
    fun s t => Text.hidden s <:+ Text.hidden t where
  map ends := ends.map stripDiacritic
  lower ends := by
    obtain ⟨front, rfl⟩ := ends
    rw [List.length_append, Nat.add_sub_cancel, List.take_left]
    exact Text.lower_suffix_iff
  sigmas_map s t := by
    rw [List.length_map, List.length_map, ← List.map_take, ← List.map_reverse]
    exact Bool.eq_iff_iff.mp (Text.endsAlike_map [] [] _ s)
  bare := Text.lower_map_suffix_iff

/-- Texts that are taken for the same still are with more folding exactly if capitals that hide
diacritics stand in the same places, in case diacritics are only taken off now. -/
theorem fold_eq_iff (within : Within f g) (h : f.fold part = f.fold text) :
    g.fold part = g.fold text ↔
      (BaresLetters f g → Text.hidden part.toList = Text.hidden text.toList) := by
  rw [fold_iff decides_eq within h]
  exact and_iff_right fun _ _ => trivial

/-- The beginning of a text is still found exactly if, besides, its capital sigmas end words in the
text as they do in the part, in case they are only folded now. -/
theorem fold_prefix_iff (within : Within f g) (h : f.fold part <+: f.fold text) :
    g.fold part <+: g.fold text ↔
      (g.ignoresCase → ¬ f.ignoresCase →
        Text.endsAlike (text.toList.drop part.toList.length) [] [] part.toList) ∧
      (BaresLetters f g → Text.hidden part.toList <+: Text.hidden text.toList) :=
  fold_iff decides_prefix within h

theorem fold_suffix_iff (within : Within f g) (h : f.fold part <:+ f.fold text) :
    g.fold part <:+ g.fold text ↔
      (g.ignoresCase → ¬ f.ignoresCase →
        Text.endsAlike [] [] (text.toList.take (text.toList.length - part.toList.length)).reverse
          part.toList) ∧
      (BaresLetters f g → Text.hidden part.toList <:+ Text.hidden text.toList) :=
  fold_iff decides_suffix within h

end Folding

end Winnow
