import Mathlib.Data.List.Sort
import Winnow.Text.Case
import Winnow.Text.Identifier

/-!
Identifiers in lower case. The small form of a character that begins identifiers begins them, too,
and the other characters of identifiers have no case. Which characters have case and which ones
belong to identifiers is known from tables, so the tables are compared, as lists of intervals.
-/

namespace Winnow.Text

/-! ### Intervals between switches -/

variable {switches : List Nat} {outer inner : List (Nat × Nat)} {n : Nat} {c : Char}

/-- The intervals from a switch on to the next switch off, which is the first point outside. -/
def intervals : List Nat → List (Nat × Nat)
  | on :: off :: rest => (on, off) :: intervals rest
  | _ => []

theorem exists_of_inside (h : inside switches n) :
    ∃ i ∈ intervals switches, i.1 ≤ n ∧ n < i.2 := by
  fun_induction inside switches n with
  | case1 => cases h
  | case2 on off rest n lower upper =>
      exact ⟨_, List.mem_cons_self, Nat.le_of_not_lt lower, upper⟩
  | case3 on off rest n lower upper ih =>
      obtain ⟨i, hi, between⟩ := ih h
      exact ⟨i, List.mem_cons_of_mem _ hi, between⟩
  | case4 => cases h

theorem fst_mem_of_mem_intervals {i : Nat × Nat} (h : i ∈ intervals switches) : i.1 ∈ switches := by
  fun_induction intervals switches with
  | case1 on off rest ih =>
      rcases List.mem_cons.mp h with rfl | h
      · exact List.mem_cons_self
      · exact List.mem_cons_of_mem _ (List.mem_cons_of_mem _ (ih h))
  | case2 => cases h

theorem inside_of_mem_intervals (increasing : switches.Pairwise (· < ·)) {i : Nat × Nat}
    (h : i ∈ intervals switches) (lower : i.1 ≤ n) (upper : n < i.2) : inside switches n := by
  fun_induction intervals switches with
  | case1 on off rest ih =>
      rw [inside]
      obtain ⟨onFirst, later⟩ := List.pairwise_cons.mp increasing
      obtain ⟨offFirst, others⟩ := List.pairwise_cons.mp later
      rcases List.mem_cons.mp h with rfl | h
      · rw [if_neg (Nat.not_lt.mpr lower), if_pos upper]
      · have beyond := offFirst i.1 (fst_mem_of_mem_intervals h)
        have first := onFirst off List.mem_cons_self
        rw [if_neg (by omega), if_neg (by omega)]
        exact ih others h
  | case2 => cases h

/-- Each of some intervals lies in one of others, provided that both come in the same order. -/
def enclose : List (Nat × Nat) → List (Nat × Nat) → Bool
  | [], inner => inner.isEmpty
  | o :: outer, inner => enclose outer (inner.dropWhile fun i => o.1 ≤ i.1 ∧ i.2 ≤ o.2)

theorem exists_of_enclose (h : enclose outer inner) {i : Nat × Nat} (hi : i ∈ inner) :
    ∃ o ∈ outer, o.1 ≤ i.1 ∧ i.2 ≤ o.2 := by
  induction outer generalizing inner with
  | nil =>
      rw [List.isEmpty_iff.mp h] at hi
      cases hi
  | cons o outer ih =>
      rw [← List.takeWhile_append_dropWhile
        (p := fun i : Nat × Nat => o.1 ≤ i.1 ∧ i.2 ≤ o.2) (l := inner)] at hi
      rcases List.mem_append.mp hi with taken | left
      · have fits := List.all_eq_true.mp List.all_takeWhile i taken
        exact ⟨o, List.mem_cons_self, of_decide_eq_true fits⟩
      · obtain ⟨found, hf, within⟩ := ih h left
        exact ⟨found, List.mem_cons_of_mem _ hf, within⟩

/-- The points of enclosed intervals are inside. -/
theorem inside_of_enclose (increasing : switches.Pairwise (· < ·))
    (h : enclose (intervals switches) inner) {i : Nat × Nat} (hi : i ∈ inner) (lower : i.1 ≤ n)
    (upper : n < i.2) : inside switches n := by
  obtain ⟨o, ho, left, right⟩ := exists_of_enclose h hi
  exact inside_of_mem_intervals increasing ho (left.trans lower) (upper.trans_le right)

/-! ### Runs of capitals -/

def CaseRun.members (r : CaseRun) : List (Nat × Nat) :=
  (List.range ((r.last - r.first) / r.step + 1)).map fun i =>
    (r.first + i * r.step, r.first + i * r.step + 1)

def CaseRun.images (r : CaseRun) : Nat × Nat := (r.image, r.image + (r.last - r.first) + 1)

theorem CaseRun.mem_members {r : CaseRun} (lower : r.first ≤ n) (upper : n ≤ r.last)
    (step : (n - r.first) % r.step = 0) : (n, n + 1) ∈ r.members := by
  refine List.mem_map.mpr ⟨(n - r.first) / r.step, List.mem_range.mpr ?_, ?_⟩
  · exact Nat.lt_succ_of_le (Nat.div_le_div_right (Nat.sub_le_sub_right upper _))
  · rw [Nat.div_mul_cancel (Nat.dvd_of_mod_eq_zero step), Nat.add_sub_cancel' lower]

theorem mem_of_image? {runs : List CaseRun} {n image : Nat}
    (h : CaseRun.image? n runs = some image) :
    ∃ r ∈ runs, r.first ≤ n ∧ n ≤ r.last ∧ (n - r.first) % r.step = 0 ∧
      image = r.image + (n - r.first) := by
  induction runs with
  | nil => cases h
  | cons r runs ih =>
      rw [CaseRun.image?] at h
      split at h
      · next within =>
          exact ⟨r, List.mem_cons_self, within.1, within.2.1, within.2.2, (Option.some.inj h).symm⟩
      · obtain ⟨r, hr, found⟩ := ih h
        exact ⟨r, List.mem_cons_of_mem _ hr, found⟩

/-- The letters in circles have case, but they are not for identifiers. -/
def CaseRun.isCircled (r : CaseRun) : Bool := r.first == 0x24B6

/-- The small form of the sign of the kelvin is a plain letter. -/
def CaseRun.isKelvin (r : CaseRun) : Bool := r.first == 0x212A

/-! ### What the tables say -/

/-- How the characters with a small form are spread over those of identifiers. -/
structure TablesAgree : Prop where
  startsIncrease : startSwitches.IsChain (· < ·)
  partsIncrease : continueSwitches.IsChain (· < ·)
  /-- What begins identifiers continues them. -/
  startsWithin : enclose (intervals continueSwitches) (intervals startSwitches)
  /-- No code point that begins identifiers is a surrogate. -/
  valid : ∀ i ∈ intervals startSwitches, i.2 ≤ 0xD800 ∨ 0xE000 ≤ i.1 ∧ i.2 ≤ 0x110000
  circled : ∀ r ∈ lowerRuns, r.isCircled → ∀ i ∈ intervals continueSwitches,
    i.2 ≤ r.first ∨ r.last < i.1
  kelvin : ∀ r ∈ lowerRuns, r.isKelvin → r.first = r.last ∧ r.image = 0x6B
  /-- All other characters with a small form begin identifiers. -/
  capitals : enclose (intervals startSwitches)
    ((lowerRuns.filter (!·.isCircled)).flatMap (·.members))
  /-- So do their small forms, which come in another order. -/
  small : enclose (intervals startSwitches)
    ((((lowerRuns.filter (!·.isCircled)).filter (!·.isKelvin)).map (·.images)).insertionSort
      fun i j => i.1 ≤ j.1)

theorem tablesAgree : TablesAgree where
  startsIncrease := by decide +kernel
  partsIncrease := by decide +kernel
  startsWithin := by decide +kernel
  valid := by decide +kernel
  circled := by decide +kernel
  kelvin := by decide +kernel
  capitals := by decide +kernel
  small := by decide +kernel

theorem inside_startSwitches (h : enclose (intervals startSwitches) inner) {i : Nat × Nat}
    (hi : i ∈ inner) (lower : i.1 ≤ n) (upper : n < i.2) : inside startSwitches n :=
  inside_of_enclose (List.isChain_iff_pairwise.mp tablesAgree.startsIncrease) h hi lower upper

theorem inside_continueSwitches (h : inside startSwitches n) : inside continueSwitches n := by
  obtain ⟨i, hi, lower, upper⟩ := exists_of_inside h
  exact inside_of_enclose (List.isChain_iff_pairwise.mp tablesAgree.partsIncrease)
    tablesAgree.startsWithin hi lower upper

/-! ### Characters of identifiers -/

theorem isIdentifierPart_of_start (h : isIdentifierStart c) : isIdentifierPart c := by
  simp only [isIdentifierStart, isIdentifierPart, Char.isAlphanum, Bool.or_eq_true] at h ⊢
  obtain (alpha | joint) | inside := h
  · exact .inl (.inl (.inl alpha))
  · exact .inl (.inr joint)
  · exact .inr (inside_continueSwitches inside)

theorem all_of_isIdentifier {text : List Char} (h : isIdentifier text) :
    text.all isIdentifierPart := by
  cases text with
  | nil => rfl
  | cons c rest =>
      rw [isIdentifier, Bool.and_eq_true] at h
      rw [List.all_cons, isIdentifierPart_of_start h.1, h.2]
      rfl

theorem isIdentifierStart_ofNat (h : inside startSwitches n) :
    isIdentifierStart (Char.ofNat n) := by
  obtain ⟨i, hi, lower, upper⟩ := exists_of_inside h
  have same : (Char.ofNat n).toNat = n := by
    have known := tablesAgree.valid i hi
    have code : n.isValidChar := by
      unfold Nat.isValidChar
      omega
    rw [Char.ofNat, dif_pos code]
    rfl
  rw [isIdentifierStart, same, h, Bool.or_true]

/-! ### Small letters -/

/-- A character of identifiers with a small form begins identifiers, and so does its small form. -/
theorem inside_of_image? {image : Nat} (h : CaseRun.image? n lowerRuns = some image)
    (part : inside continueSwitches n) :
    inside startSwitches n ∧ (image = 0x6B ∨ inside startSwitches image) := by
  obtain ⟨r, hr, lower, upper, step, rfl⟩ := mem_of_image? h
  have plain : r.isCircled = false := by
    rw [Bool.eq_false_iff]
    intro isCircled
    obtain ⟨i, hi, left, right⟩ := exists_of_inside part
    have apart := tablesAgree.circled r hr isCircled i hi
    omega
  have letter : r ∈ lowerRuns.filter (!·.isCircled) :=
    List.mem_filter.mpr ⟨hr, by rw [plain]; rfl⟩
  refine ⟨inside_startSwitches tablesAgree.capitals (List.mem_flatMap.mpr
    ⟨r, letter, CaseRun.mem_members lower upper step⟩) le_rfl (Nat.lt_succ_self n), ?_⟩
  cases isKelvin : r.isKelvin with
  | true =>
      obtain ⟨single, image⟩ := tablesAgree.kelvin r hr isKelvin
      left
      omega
  | false =>
      right
      refine inside_startSwitches tablesAgree.small ((List.mem_insertionSort _).mpr
        (List.mem_map_of_mem (List.mem_filter.mpr ⟨letter, by rw [isKelvin]; rfl⟩))) ?_ ?_
      · exact Nat.le_add_right _ _
      · show r.image + (n - r.first) < r.image + (r.last - r.first) + 1
        omega

theorem lt_of_isAlphanum (h : c.isAlphanum) : c.toNat < 0x80 := by
  have below {last : UInt32} (upper : c.val ≤ last) (hl : last.toNat < 0x80) : c.toNat < 0x80 :=
    Nat.lt_of_le_of_lt (UInt32.le_iff_toNat_le.mp upper) hl
  rcases Bool.or_eq_true_iff.mp h with alpha | digit
  · rcases Bool.or_eq_true_iff.mp alpha with capital | small
    · exact below (of_decide_eq_true capital).2 (by decide)
    · exact below (of_decide_eq_true (Bool.and_eq_true_iff.mp small).2) (by decide)
  · exact below (of_decide_eq_true (Bool.and_eq_true_iff.mp digit).2) (by decide)

theorem isIdentifier_of_high (high : 0x80 ≤ c.toNat) :
    isIdentifierStart c = inside startSwitches c.toNat ∧
      isIdentifierPart c = inside continueSwitches c.toNat := by
  have joint : (c == '_') = false := by
    rw [beq_eq_false_iff_ne]
    rintro rfl
    exact absurd high (by decide)
  have plain : c.isAlphanum = false :=
    Bool.eq_false_iff.mpr fun h => absurd (lt_of_isAlphanum h) (Nat.not_lt.mpr high)
  have letter : c.isAlpha = false := (Bool.or_eq_false_iff.mp plain).1
  exact ⟨by rw [isIdentifierStart, letter, joint]; rfl,
    by rw [isIdentifierPart, plain, joint]; rfl⟩

theorem isDigit_of_isIdentifierStart (h : isIdentifierStart c) : c.isDigit = false := by
  have ascii : ∀ n < 0x80, (Char.ofNat n).isDigit → isIdentifierStart (Char.ofNat n) = false := by
    decide
  rw [Bool.eq_false_iff]
  intro digit
  have low : c.toNat < 0x80 := lt_of_isAlphanum (Bool.or_eq_true_iff.mpr (.inr digit))
  have none := ascii c.toNat low (by rwa [Char.ofNat_toNat])
  rw [Char.ofNat_toNat, h] at none
  cases none

/-- A character of identifiers has a small form of at least one character, all of which are for
identifiers, and the first one begins them if and only if the character itself does. -/
theorem exists_lowerChar (h : isIdentifierPart c) :
    ∃ d rest, lowerChar c = d :: rest ∧ isIdentifierStart d = isIdentifierStart c ∧
      (d :: rest).all isIdentifierPart := by
  have alone {d : Char} (image : lowerChar c = [d])
      (same : isIdentifierStart d = isIdentifierStart c) (part : isIdentifierPart d) :
      ∃ d rest, lowerChar c = d :: rest ∧ isIdentifierStart d = isIdentifierStart c ∧
        (d :: rest).all isIdentifierPart :=
    ⟨d, [], image, same, by simpa using part⟩
  by_cases low : c.toNat < 0x80
  · have ascii : ∀ n < 0x80, isIdentifierPart (Char.ofNat n) →
        isIdentifierStart (Char.ofNat n).toLower = isIdentifierStart (Char.ofNat n) ∧
          isIdentifierPart (Char.ofNat n).toLower := by
      decide
    obtain ⟨same, part⟩ := ascii c.toNat low (by rwa [Char.ofNat_toNat])
    rw [Char.ofNat_toNat] at same part
    exact alone (by rw [lowerChar, if_pos low]) same part
  have high := Nat.le_of_not_lt low
  cases expanded : lowerExpansions.lookup c.toNat with
  | some image =>
      have only : ∀ p ∈ lowerExpansions, p = (0x130, [0x69, 0x307]) := by decide
      obtain ⟨front, back, table, -⟩ := List.lookup_eq_some_iff.mp expanded
      have entry := only (c.toNat, image) (table ▸ List.mem_append_right _ List.mem_cons_self)
      have dotted : c = 'İ' := by
        rw [← Char.ofNat_toNat c, (Prod.mk.inj entry).1]
      subst dotted
      exact ⟨'i', ['\u0307'], by decide⟩
  | none =>
      cases mapped : CaseRun.image? c.toNat lowerRuns with
      | some image =>
          rw [(isIdentifier_of_high high).2] at h
          obtain ⟨start, small⟩ := inside_of_image? mapped h
          have starts : isIdentifierStart (Char.ofNat image) := by
            obtain rfl | small := small
            · decide
            · exact isIdentifierStart_ofNat small
          refine alone ?_ ?_ (isIdentifierPart_of_start starts)
          · rw [lowerChar, if_neg low, caseImage, expanded, mapped]
          · rw [starts, (isIdentifier_of_high high).1, start]
      | none =>
          refine alone ?_ rfl h
          rw [lowerChar, if_neg low, caseImage, expanded, mapped]

/-- The same holds for a character of a text, where a capital sigma has two small forms. -/
theorem exists_lowerAfter (h : isIdentifierPart c) (before rest : List Char) :
    ∃ d more, lowerAfter before (c :: rest) = d :: (more ++ lowerAfter (c :: before) rest) ∧
      isIdentifierStart d = isIdentifierStart c ∧ (d :: more).all isIdentifierPart := by
  by_cases sigma : c = 'Σ'
  · subst sigma
    rw [lowerAfter, if_pos rfl]
    split
    · exact ⟨'ς', [], rfl, by decide⟩
    · exact ⟨'σ', [], rfl, by decide⟩
  · obtain ⟨d, more, image, same, parts⟩ := exists_lowerChar h
    exact ⟨d, more, by rw [lowerAfter, if_neg sigma, image]; rfl, same, parts⟩

theorem all_lowerAfter {text : List Char} (h : text.all isIdentifierPart) (before : List Char) :
    (lowerAfter before text).all isIdentifierPart := by
  induction text generalizing before with
  | nil => rfl
  | cons c rest ih =>
      rw [List.all_cons, Bool.and_eq_true] at h
      obtain ⟨d, more, image, -, parts⟩ := exists_lowerAfter h.1 before rest
      rw [image, ← List.cons_append, List.all_append, parts, ih h.2]
      rfl

/-- The lower case of a text of characters of identifiers is such a text, and begins like it. -/
theorem exists_lower {rest : List Char} (h : (c :: rest).all isIdentifierPart) :
    ∃ d more, lower (c :: rest) = d :: more ∧ isIdentifierStart d = isIdentifierStart c ∧
      more.all isIdentifierPart := by
  have all := all_lowerAfter h []
  rw [List.all_cons, Bool.and_eq_true] at h
  obtain ⟨d, more, image, same, -⟩ := exists_lowerAfter h.1 [] rest
  rw [image, List.all_cons, Bool.and_eq_true] at all
  exact ⟨d, _, image, same, all.2⟩

end Winnow.Text
