import Mathlib.Data.List.Infix
import Mathlib.Data.List.TakeWhile
import Mathlib.Tactic.Common
import Winnow.Predicate.Relation
import Winnow.Proofs.Text.Identifier

/-!
Folding of texts. A text keeps its parts when it is folded, apart from a capital sigma, whose lower
case depends on where it stands. Letters lose their diacritics in lower case as they do in upper
case, apart from two capitals that are not known as letters with diacritics while their small
letters are.
-/

namespace Winnow

namespace Text

variable {before text part rest : List Char}

/-! ### Parts in lower case -/

/-- A capital sigma between two texts ends a word. The front is given from its end. -/
def endsWord (front rest : List Char) : Bool := meetsCased front && !meetsCased rest

theorem lowerAfter_sigma (before rest : List Char) : lowerAfter before ('Σ' :: rest) =
    (if endsWord before rest then 'ς' else 'σ') :: lowerAfter ('Σ' :: before) rest := by
  rw [lowerAfter, if_pos rfl, endsWord]
  split <;> rfl

theorem lowerAfter_other {c : Char} (h : c ≠ 'Σ') (before rest : List Char) :
    lowerAfter before (c :: rest) = lowerChar c ++ lowerAfter (c :: before) rest := by
  rw [lowerAfter, if_neg h]

/-- The lower case of the front of a text comes before that of the rest. -/
theorem exists_lowerAfter_append (before text rest : List Char) :
    ∃ image, lowerAfter before (text ++ rest) =
      image ++ lowerAfter (text.reverse ++ before) rest := by
  induction text generalizing before with
  | nil => exact ⟨[], rfl⟩
  | cons c text ih =>
      obtain ⟨image, h⟩ := ih (c :: before)
      rw [List.cons_append, lowerAfter, h, List.reverse_cons, List.append_assoc,
        ← List.append_assoc]
      exact ⟨_, rfl⟩

/-- Nothing in a text decides whether a capital sigma beside it ends a word. -/
def isOpen (text : List Char) : Bool := text.all isCaseIgnorable

theorem meetsCased_append (h : isOpen text = false) (rest : List Char) :
    meetsCased (text ++ rest) = meetsCased text := by
  have some : text.dropWhile isCaseIgnorable ≠ [] := by
    simpa [isOpen, List.dropWhile_eq_nil_iff] using h
  rw [meetsCased, meetsCased, List.dropWhile_append, if_neg (by simpa using some)]
  obtain ⟨c, more, found⟩ := List.exists_cons_of_ne_nil some
  rw [found]
  rfl

theorem isOpen_of_meetsCased (h : meetsCased text) : isOpen text = false := by
  rw [Bool.eq_false_iff]
  intro all
  have none : text.dropWhile isCaseIgnorable = [] := by
    simpa [isOpen, List.dropWhile_eq_nil_iff] using all
  rw [meetsCased, none] at h
  cases h

/-- It is decided between the ends of a text whether a capital sigma in it ends a word. The front is
given from its end. -/
def settles (front rest : List Char) : Bool :=
  meetsCased rest || !isOpen front && (!meetsCased front || !isOpen rest)

theorem final_of_settles {front rest : List Char} (h : settles front rest)
    (before after : List Char) :
    endsWord (front ++ before) (rest ++ after) = endsWord front rest := by
  rw [endsWord, endsWord]
  by_cases next : meetsCased rest
  · simp [next, meetsCased_append (isOpen_of_meetsCased next)]
  · simp only [settles, next, Bool.false_or, Bool.and_eq_true, Bool.or_eq_true,
      Bool.not_eq_true'] at h
    obtain ⟨left, apart | right⟩ := h
    · simp [meetsCased_append left, apart]
    · simp [meetsCased_append left, meetsCased_append right]

/-- It is decided for all capital sigmas between the ends of a text whether they end a word. -/
def settled : List Char → List Char → Bool
  | _, [] => true
  | front, c :: rest => (c != 'Σ' || settles front rest) && settled (c :: front) rest

/-- Where this is decided, the lower case of a text does not depend on what stands around it. -/
theorem lowerAfter_append {front : List Char} (h : settled front text) :
    lowerAfter (front ++ before) (text ++ rest) =
      lowerAfter front text ++ lowerAfter (text.reverse ++ (front ++ before)) rest := by
  induction text generalizing front with
  | nil => rfl
  | cons c text ih =>
      simp only [settled, Bool.and_eq_true, Bool.or_eq_true, bne_iff_ne] at h
      have next := ih h.2
      rw [List.cons_append] at next
      rw [List.cons_append, List.reverse_cons, List.append_assoc]
      by_cases sigma : c = 'Σ'
      · have final := final_of_settles (h.1.resolve_left (not_not.mpr sigma)) before rest
        rw [sigma] at next ⊢
        rw [lowerAfter_sigma, lowerAfter_sigma, final, next]
        rfl
      · rw [lowerAfter_other sigma, lowerAfter_other sigma, next, List.append_assoc]
        rfl

theorem lower_prefix (h : settled [] part) (stands : part <+: text) :
    lower part <+: lower text := by
  obtain ⟨rest, rfl⟩ := stands
  have front := @lowerAfter_append [] part rest [] h
  rw [lower, lower, ← List.append_nil [], front]
  exact List.prefix_append _ _

theorem lower_infix (h : settled [] part) (stands : part <:+: text) :
    lower part <:+: lower text := by
  obtain ⟨front, rest, rfl⟩ := stands
  obtain ⟨image, hi⟩ := exists_lowerAfter_append [] front (part ++ rest)
  have middle := @lowerAfter_append (front.reverse ++ []) part rest [] h
  rw [List.nil_append] at middle
  rw [List.append_assoc, lower, lower, hi, middle]
  exact ⟨_, _, by rw [List.append_assoc]⟩

theorem lower_suffix (h : settled [] part) (stands : part <:+ text) :
    lower part <:+ lower text := by
  obtain ⟨front, rfl⟩ := stands
  obtain ⟨image, hi⟩ := exists_lowerAfter_append [] front part
  have last := @lowerAfter_append (front.reverse ++ []) part [] [] h
  simp only [List.nil_append, List.append_nil, lowerAfter] at hi last
  rw [lower, lower, hi, last]
  exact List.suffix_append _ _

end Text

/-! ### Diacritics in lower case -/

/-- Only letters of one block have a diacritic. -/
theorem stripDiacritic_eq_self {c : Char} (h : c.toNat < 0xC0 ∨ 0xFF < c.toNat) :
    stripDiacritic c = c := by
  have apart {d : Char} (hd : 0xC0 ≤ d.toNat ∧ d.toNat ≤ 0xFF) : c ≠ d := by
    rintro rfl
    omega
  have none {ds : List Char} (hd : ds.all fun d => 0xC0 ≤ d.toNat ∧ d.toNat ≤ 0xFF) : c ∉ ds :=
    fun hc => apart (of_decide_eq_true (List.all_eq_true.mp hd c hc)) rfl
  unfold stripDiacritic
  iterate 2 rw [if_neg (none (by decide))]
  iterate 2 rw [if_neg (apart (by decide))]
  iterate 4 rw [if_neg (none (by decide))]
  iterate 2 rw [if_neg (apart (by decide))]
  iterate 5 rw [if_neg (none (by decide))]
  rw [if_neg (apart (by decide))]

theorem stripDiacritic_ofNat {n : Nat} (h : n < 0xC0 ∨ 0xFF < n) :
    stripDiacritic (Char.ofNat n) = Char.ofNat n := by
  refine stripDiacritic_eq_self ?_
  by_cases valid : n.isValidChar
  · rw [Char.ofNat, dif_pos valid]
    exact h
  · rw [Char.ofNat, dif_neg valid]
    exact .inl (by decide)

namespace Text

variable {before text : List Char}

/-- A capital that keeps its diacritic while its small letter loses it. -/
def hidesDiacritic (c : Char) : Bool := c == 'Ÿ' || c == '\u212B'

theorem hidesDiacritic_iff {c : Char} : hidesDiacritic c ↔ c = 'Ÿ' ∨ c = '\u212B' := by
  rw [hidesDiacritic, Bool.or_eq_true, beq_iff_eq, beq_iff_eq]

theorem stripDiacritic_of_hides {c : Char} (h : hidesDiacritic c) : stripDiacritic c = c := by
  obtain rfl | rfl := hidesDiacritic_iff.mp h <;> rfl

/-- The small letters whose diacritics their capitals hide. -/
theorem lowerChar_of_hides : lowerChar 'Ÿ' = ['ÿ'] ∧ lowerChar '\u212B' = ['å'] := by
  decide +kernel

/-- The letters of the block with diacritics. -/
theorem strip_of_block {c : Char} (h : 0xC0 ≤ c.toNat ∧ c.toNat ≤ 0xFF) :
    lowerChar (stripDiacritic c) = (lowerChar c).map stripDiacritic ∧
      isCased (stripDiacritic c) = isCased c ∧
      isCaseIgnorable (stripDiacritic c) = isCaseIgnorable c ∧
      (stripDiacritic c = 'Σ' → c = 'Σ') ∧
      ('ÿ' ∈ lowerChar c → c = 'ÿ') ∧ ('å' ∈ lowerChar c → c = 'å' ∨ c = 'Å') := by
  have block : ∀ i < 0x40,
      lowerChar (stripDiacritic (Char.ofNat (0xC0 + i))) =
          (lowerChar (Char.ofNat (0xC0 + i))).map stripDiacritic ∧
        isCased (stripDiacritic (Char.ofNat (0xC0 + i))) = isCased (Char.ofNat (0xC0 + i)) ∧
        isCaseIgnorable (stripDiacritic (Char.ofNat (0xC0 + i))) =
          isCaseIgnorable (Char.ofNat (0xC0 + i)) ∧
        (stripDiacritic (Char.ofNat (0xC0 + i)) = 'Σ' → Char.ofNat (0xC0 + i) = 'Σ') ∧
        ('ÿ' ∈ lowerChar (Char.ofNat (0xC0 + i)) → Char.ofNat (0xC0 + i) = 'ÿ') ∧
        ('å' ∈ lowerChar (Char.ofNat (0xC0 + i)) →
          Char.ofNat (0xC0 + i) = 'å' ∨ Char.ofNat (0xC0 + i) = 'Å') := by
    decide +kernel
  have known := block (c.toNat - 0xC0) (by omega)
  rwa [Nat.add_sub_cancel' h.1, Char.ofNat_toNat] at known

/-- The small letters of all other characters but two have no diacritic that is known. -/
theorem map_strip_lowerChar {c : Char} (h : c.toNat < 0xC0 ∨ 0xFF < c.toNat)
    (plain : hidesDiacritic c = false) : (lowerChar c).map stripDiacritic = lowerChar c := by
  have ascii : ∀ n < 0x80, stripDiacritic (Char.ofNat n).toLower = (Char.ofNat n).toLower := by
    decide +kernel
  have expansions : ∀ p ∈ lowerExpansions,
      (p.2.map Char.ofNat).map stripDiacritic = p.2.map Char.ofNat := by
    decide +kernel
  have runs : ∀ r ∈ lowerRuns, (0xC0 ≤ r.first ∧ r.last ≤ 0xFF) ∨ 0xFF < r.image ∨
      r.image + (r.last - r.first) < 0xC0 ∨
      r.first = r.last ∧ (hidesDiacritic (Char.ofNat r.first) ∨
        stripDiacritic (Char.ofNat r.image) = Char.ofNat r.image) := by
    decide +kernel
  rw [lowerChar]
  split
  · next low =>
      have known := ascii c.toNat low
      rw [Char.ofNat_toNat] at known
      rw [List.map_singleton, known]
  rw [caseImage]
  split
  · next image found =>
      obtain ⟨front, back, table, -⟩ := List.lookup_eq_some_iff.mp found
      exact expansions (c.toNat, image) (table ▸ List.mem_append_right _ List.mem_cons_self)
  split
  · next image found =>
      obtain ⟨r, hr, lower, upper, -, rfl⟩ := mem_of_image? found
      rw [List.map_singleton, List.cons.injEq]
      refine ⟨?_, rfl⟩
      obtain block | far | near | ⟨single, known⟩ := runs r hr
      · omega
      · exact stripDiacritic_ofNat (by omega)
      · exact stripDiacritic_ofNat (by omega)
      · have only : r.first = c.toNat := by omega
        rw [only, Char.ofNat_toNat, plain] at known
        rw [only, Nat.sub_self, Nat.add_zero]
        exact known.resolve_left Bool.false_ne_true
  · rw [List.map_singleton, stripDiacritic_eq_self h]

/-- A letter loses its diacritic before and after lower case alike. -/
theorem lowerChar_stripDiacritic {c : Char} (plain : hidesDiacritic c = false) :
    lowerChar (stripDiacritic c) = (lowerChar c).map stripDiacritic := by
  by_cases h : c.toNat < 0xC0 ∨ 0xFF < c.toNat
  · rw [map_strip_lowerChar h plain, stripDiacritic_eq_self h]
  · exact (strip_of_block (by omega)).1

/-- A letter means the same for a capital sigma beside it without its diacritic. -/
theorem context_stripDiacritic (c : Char) :
    isCased (stripDiacritic c) = isCased c ∧
      isCaseIgnorable (stripDiacritic c) = isCaseIgnorable c ∧
      (stripDiacritic c = 'Σ' ↔ c = 'Σ') := by
  by_cases h : c.toNat < 0xC0 ∨ 0xFF < c.toNat
  · rw [stripDiacritic_eq_self h]
    exact ⟨rfl, rfl, Iff.rfl⟩
  · obtain ⟨-, cased, ignorable, sigma, -⟩ := strip_of_block (c := c) (by omega)
    refine ⟨cased, ignorable, sigma, ?_⟩
    rintro rfl
    rfl

theorem stripDiacritic_bne_sigma (c : Char) : (stripDiacritic c != 'Σ') = (c != 'Σ') := by
  rw [Bool.eq_iff_iff, bne_iff_ne, bne_iff_ne]
  exact not_congr (context_stripDiacritic c).2.2

theorem meetsCased_map (text : List Char) :
    meetsCased (text.map stripDiacritic) = meetsCased text := by
  have ignorable : isCaseIgnorable ∘ stripDiacritic = isCaseIgnorable :=
    funext fun c => (context_stripDiacritic c).2.1
  rw [meetsCased, meetsCased, List.dropWhile_map, ignorable]
  cases text.dropWhile isCaseIgnorable with
  | nil => rfl
  | cons c rest => exact (context_stripDiacritic c).1

theorem isOpen_map (text : List Char) : isOpen (text.map stripDiacritic) = isOpen text := by
  have ignorable : isCaseIgnorable ∘ stripDiacritic = isCaseIgnorable :=
    funext fun c => (context_stripDiacritic c).2.1
  rw [isOpen, isOpen, List.all_map, ignorable]

theorem settled_map (front text : List Char) :
    settled (front.map stripDiacritic) (text.map stripDiacritic) = settled front text := by
  induction text generalizing front with
  | nil => rfl
  | cons c text ih =>
      have rest := ih (c :: front)
      rw [List.map_cons] at rest
      rw [List.map_cons, settled, settled, rest, stripDiacritic_bne_sigma, settles, settles]
      simp only [meetsCased_map, isOpen_map]

/-- Taking off diacritics is passed through lower case, if it is by every letter of a text and
changes no small sigma. -/
theorem lowerAfter_map {strip : Char → Char} (sigma : strip 'σ' = 'σ' ∧ strip 'ς' = 'ς')
    (letters : ∀ c ∈ text, lowerChar (stripDiacritic c) = (lowerChar c).map strip) :
    lowerAfter (before.map stripDiacritic) (text.map stripDiacritic) =
      (lowerAfter before text).map strip := by
  induction text generalizing before with
  | nil => rfl
  | cons c text ih =>
      have rest := @ih (c :: before) fun d hd => letters d (List.mem_cons_of_mem c hd)
      rw [List.map_cons] at rest
      rw [List.map_cons, lowerAfter, lowerAfter, List.map_append, rest, meetsCased_map,
        meetsCased_map]
      congr 1
      by_cases capital : c = 'Σ'
      · rw [if_pos ((context_stripDiacritic c).2.2.mpr capital), if_pos capital]
        split
        · rw [List.map_singleton, sigma.2]
        · rw [List.map_singleton, sigma.1]
      · rw [if_neg (mt (context_stripDiacritic c).2.2.mp capital), if_neg capital]
        exact letters c List.mem_cons_self

/-- A text has no capital that hides its diacritic beside a letter with the same small letter. -/
def inStep (text : List Char) : Bool :=
  (!text.contains 'Ÿ' || !text.contains 'ÿ') &&
    (!text.contains '\u212B' || !text.contains 'å' && !text.contains 'Å')

/-- Takes the diacritic off a letter, but off no small letter of a capital that hides it in a
text. -/
def stripBeside (text : List Char) (c : Char) : Char :=
  if c = 'ÿ' ∧ 'Ÿ' ∈ text ∨ c = 'å' ∧ '\u212B' ∈ text then c else stripDiacritic c

/-- Which letters have a small letter that a capital with a hidden diacritic has, too. -/
theorem eq_of_mem_lowerChar {c : Char} (plain : hidesDiacritic c = false) :
    ('ÿ' ∈ lowerChar c → c = 'ÿ') ∧ ('å' ∈ lowerChar c → c = 'å' ∨ c = 'Å') := by
  by_cases outside : c.toNat < 0xC0 ∨ 0xFF < c.toNat
  · have image := map_strip_lowerChar outside plain
    have fixed {d : Char} (h : d ∈ lowerChar c) : stripDiacritic d = d :=
      List.map_inj_left.mp (image.trans (List.map_id _).symm) d h
    exact ⟨fun h => absurd (fixed h) (by decide), fun h => absurd (fixed h) (by decide)⟩
  · exact (strip_of_block (c := c) (by omega)).2.2.2.2

theorem lowerChar_stripBeside (h : inStep text) {c : Char} (hc : c ∈ text) :
    lowerChar (stripDiacritic c) = (lowerChar c).map (stripBeside text) := by
  have apart : ('Ÿ' ∈ text → 'ÿ' ∉ text) ∧ ('\u212B' ∈ text → 'å' ∉ text ∧ 'Å' ∉ text) := by
    simpa [inStep, imp_iff_not_or] using h
  cases hidden : hidesDiacritic c with
  | true =>
      rw [stripDiacritic_of_hides hidden]
      obtain rfl | rfl := hidesDiacritic_iff.mp hidden
      · rw [lowerChar_of_hides.1, List.map_singleton, stripBeside, if_pos (.inl ⟨rfl, hc⟩)]
      · rw [lowerChar_of_hides.2, List.map_singleton, stripBeside, if_pos (.inr ⟨rfl, hc⟩)]
  | false =>
      rw [lowerChar_stripDiacritic hidden]
      refine List.map_congr_left fun d hd => ?_
      obtain ⟨small, ring⟩ := eq_of_mem_lowerChar hidden
      rw [stripBeside, if_neg]
      rintro (⟨rfl, capital⟩ | ⟨rfl, capital⟩)
      · exact apart.1 capital (small hd ▸ hc)
      · obtain rfl | rfl := ring hd
        · exact (apart.2 capital).1 hc
        · exact (apart.2 capital).2 hc

theorem lower_map {whole : List Char} (h : inStep whole) (inside : text ⊆ whole) :
    lower (text.map stripDiacritic) = (lower text).map (stripBeside whole) :=
  @lowerAfter_map [] text _ ⟨by simp [stripBeside]; rfl, by simp [stripBeside]; rfl⟩
    fun _ hc => lowerChar_stripBeside h (inside hc)

end Text

theorem occursIn_iff {part text : List Char} : occursIn part text ↔ part <:+: text := by
  induction text with
  | nil => simp [occursIn]
  | cons c rest ih =>
      rw [occursIn, Bool.or_eq_true, ih, List.isPrefixOf_iff_prefix, List.infix_cons_iff]

/-! ### Folding more -/

namespace Folding

variable {f g : Folding} {part text : String}

/-- All differences that are overlooked by one folding are overlooked by another. -/
structure Within (f g : Folding) : Prop where
  case : f.ignoresCase → g.ignoresCase
  diacritics : f.ignoresDiacritics → g.ignoresDiacritics

/-- What is left of a text to overlook case in. -/
def letters (f : Folding) (text : String) : List Char :=
  if f.ignoresDiacritics then text.toList.map stripDiacritic else text.toList

theorem fold_of_case (h : f.ignoresCase) (text : String) :
    f.fold text = Text.lower (f.letters text) := by
  rw [fold, if_pos h]
  rfl

theorem fold_of_not_case (h : ¬ f.ignoresCase) (text : String) : f.fold text = f.letters text := by
  rw [fold, if_neg h]
  rfl

theorem letters_mono {R : List Char → List Char → Prop}
    (map : ∀ {s t}, R s t → R (s.map stripDiacritic) (t.map stripDiacritic))
    (within : Within f g) (h : R (f.letters part) (f.letters text)) :
    R (g.letters part) (g.letters text) := by
  rw [letters, letters] at h ⊢
  cases less : f.ignoresDiacritics with
  | true =>
      rw [less] at h
      rwa [if_pos (within.diacritics less), if_pos (within.diacritics less)]
  | false =>
      rw [less] at h
      split
      · exact map h
      · exact h

/-- A folding that overlooks case can only be within itself and the one that overlooks all. -/
theorem Within.cases (within : Within f g) :
    ¬ f.ignoresCase ∨ f = g ∨ f = ⟨true, false⟩ ∧ g = ⟨true, true⟩ := by
  obtain ⟨c, d⟩ := f
  obtain ⟨c', d'⟩ := g
  obtain ⟨case, diacritics⟩ := within
  cases c <;> cases d <;> cases c' <;> cases d' <;> simp_all

/-- Folding more does not bring out a diacritic that was lost with the case of a capital. -/
def InStep (f g : Folding) (part text : String) : Prop :=
  f.ignoresCase → g.ignoresDiacritics → ¬ f.ignoresDiacritics →
    Text.inStep (part.toList ++ text.toList)

/-- A relation is kept where letters are replaced, and in lower case if the first text is free of
what depends on the texts around it. -/
structure Keeps (R : List Char → List Char → Prop) (free : List Char → Prop) : Prop where
  map {s t} (strip : Char → Char) : R s t → R (s.map strip) (t.map strip)
  lower {s t} : free s → R s t → R (Text.lower s) (Text.lower t)
  free {s} : free s → free (s.map stripDiacritic)

theorem keeps_eq : Keeps Eq fun _ => True :=
  ⟨fun _ => congrArg _, fun _ => congrArg _, fun _ => trivial⟩

theorem settled_nil_map {s : List Char} (h : Text.settled [] s) :
    Text.settled [] (s.map stripDiacritic) := by
  rwa [← List.map_nil, Text.settled_map]

theorem keeps_prefix : Keeps List.IsPrefix (Text.settled [] ·) :=
  ⟨fun strip h => h.map strip, Text.lower_prefix, settled_nil_map⟩

theorem keeps_infix : Keeps List.IsInfix (Text.settled [] ·) :=
  ⟨fun strip h => h.map strip, Text.lower_infix, settled_nil_map⟩

theorem keeps_suffix : Keeps List.IsSuffix (Text.settled [] ·) :=
  ⟨fun strip h => h.map strip, Text.lower_suffix, settled_nil_map⟩

/-- What relates two texts relates them after folding more, if the relation is kept. -/
theorem fold_mono {R : List Char → List Char → Prop} {free : List Char → Prop}
    (keeps : Keeps R free) (within : Within f g)
    (settled : g.ignoresCase → ¬ f.ignoresCase → free part.toList)
    (inStep : InStep f g part text)
    (h : R (f.fold part) (f.fold text)) : R (g.fold part) (g.fold text) := by
  obtain cased | rfl | ⟨rfl, rfl⟩ := within.cases
  · rw [fold_of_not_case cased, fold_of_not_case cased] at h
    have bare := letters_mono (R := R) (keeps.map stripDiacritic) within h
    by_cases case : g.ignoresCase
    · have free : free (g.letters part) := by
        rw [letters]
        split
        · exact keeps.free (settled case cased)
        · exact settled case cased
      rw [fold_of_case case, fold_of_case case]
      exact keeps.lower free bare
    · rwa [fold_of_not_case case, fold_of_not_case case]
  · exact h
  · have regular := inStep rfl rfl Bool.false_ne_true
    have both := keeps.map (Text.stripBeside (part.toList ++ text.toList)) h
    rw [fold_of_case rfl, fold_of_case rfl] at both ⊢
    rwa [letters, letters, if_neg Bool.false_ne_true, if_neg Bool.false_ne_true,
      ← Text.lower_map regular (List.subset_append_left _ _),
      ← Text.lower_map regular (List.subset_append_right _ _)] at both

end Folding

end Winnow
