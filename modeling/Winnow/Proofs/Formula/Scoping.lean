import Winnow.Bookshelf
import Winnow.Proofs.Formula.Tokens
import Winnow.Proofs.Predicate.Scope

/-!
Variables of a formula. Heights decrease from the outside to the inside of subqueries, so no
subquery binds the variable of one around it, and every name inside a subquery begins with the
variable of the innermost one. What is read from the text of a formula is therefore scoped.
-/

namespace Winnow

/-- A name begins with a variable, if there is one, and has no other. -/
def IsRooted (item? : Option String) (name : String) : Prop :=
  ∃ steps, pathSteps name = item?.toList ++ steps ∧ ∀ step ∈ steps, '$' ∉ step.toList

def Frames.innermost? (frames : Frames) : Option String := frames.names.head?

@[simp] theorem Frames.names_none (frames : Frames) :
    Frames.names (none :: frames) = frames.names := rfl

@[simp] theorem Frames.names_some (name : String) (frames : Frames) :
    Frames.names (some name :: frames) = name :: frames.names := rfl

/-- Pieces in a row, from the parentheses around the first to those around what follows the last.
Every name inside a subquery begins with the variable of the innermost subquery around it, and no
subquery binds a variable that is bound around it. -/
inductive Piece.Scoped : Frames → List Piece → Frames → Prop where
  | nil {frames : Frames} : Scoped frames [] frames
  | opening {frames last : Frames} {rest} (inside : Scoped (none :: frames) rest last) :
    Scoped frames (.mark .opening :: rest) last
  | closing {frames last : Frames} {rest} (behind : Scoped frames rest last) :
    Scoped (none :: frames) (.mark .closing :: rest) last
  | mark {frames last : Frames} {m rest} (opening : m ≠ .opening) (closing : m ≠ .closing)
    (plain : '$' ∉ m.text.toList) (behind : Scoped frames rest last) :
    Scoped frames (.mark m :: rest) last
  | slot {frames last : Frames} {argument rest} (behind : Scoped frames rest last) :
    Scoped frames (.slot argument :: rest) last
  | name {frames last : Frames} {s rest} (rooted : IsRooted frames.innermost? s)
    (behind : Scoped frames rest last) : Scoped frames (.name s :: rest) last
  | enter {frames last : Frames} {collection item rest}
    (rooted : IsRooted frames.innermost? collection)
    (fresh : Subquery.itemNameAt item ∉ frames.names)
    (body : Scoped (some (Subquery.itemNameAt item) :: frames) rest last) :
    Scoped frames (.enter collection item :: rest) last
  | leave {frames last : Frames} {name rest} (behind : Scoped frames rest last) :
    Scoped (some name :: frames) (.leave :: rest) last

/-! ### Names at a root -/

theorem dollar_not_mem_names {path : String} (h : isPath path) :
    ∀ step ∈ names path, '$' ∉ step.toList := fun _ hs hc =>
  (isNamePart_apart (isNamePart_of_mem_names h hs hc)).1 rfl

theorem fieldSteps_eq (root : Root) {path : String} (h : isPath path) :
    ∃ steps, fieldSteps root path = root.item?.toList ++ steps ∧
      ∀ step ∈ steps, '$' ∉ step.toList := by
  unfold fieldSteps
  split
  · next hr =>
      have none : root = none := by simp_all
      exact ⟨[selfExpression], by rw [none]; rfl, by decide⟩
  · exact ⟨names path, rfl, dollar_not_mem_names h⟩

theorem isRooted_fieldAt (root : Root) {path : String} (h : isPath path) :
    IsRooted root.item? (fieldAt root path) := by
  obtain ⟨steps, hs, plain⟩ := fieldSteps_eq root h
  exact ⟨steps, (pathSteps_fieldAt root path).trans hs, plain⟩

theorem isRooted_total (root : Root) {path : String} (h : isPath path) :
    IsRooted root.item? (fieldAt root path ++ ".@count") := by
  obtain ⟨steps, hs, plain⟩ := fieldSteps_eq root h
  refine ⟨steps ++ ["@count"], ?_, List.forall_mem_append.mpr ⟨plain, by decide⟩⟩
  rw [pathSteps_total, hs, List.append_assoc]

theorem isRooted_functionAt (root : Root) {collection field : String} (a : AggregateFunction)
    (hc : isPath collection) (hf : isPath field) :
    IsRooted root.item? (functionAt root collection field a) := by
  have keyword : '$' ∉ a.keyword.toList := by cases a <;> decide
  refine ⟨names collection ++ a.keyword :: names field, ?_, ?_⟩
  · rw [pathSteps_functionAt, functionSteps, ownerSteps, List.append_assoc]
  · exact List.forall_mem_append.mpr ⟨dollar_not_mem_names hc,
      List.forall_mem_cons.mpr ⟨keyword, dollar_not_mem_names hf⟩⟩

/-! ### Formulas -/

namespace Formula

variable {root : Root} {frames last : Frames} {rest : List Piece}

theorem height_le_greatestHeight {f : Formula} {others : List Formula} (h : f ∈ others) :
    f.height ≤ greatestHeight others := by
  induction others with
  | nil => cases h
  | cons g rest ih =>
      rw [greatestHeight]
      rcases List.mem_cons.mp h with rfl | h
      · exact Nat.le_max_left _ _
      · exact (ih h).trans (Nat.le_max_right _ _)

theorem scoped_mark {m : Mark} (opening : m ≠ .opening) (closing : m ≠ .closing)
    (finite : ∀ test, m = .bounds test → test.isFinite) (h : Piece.Scoped frames rest last) :
    Piece.Scoped frames (.mark m :: rest) last :=
  .mark opening closing (fun hc => (ne_of_mem_mark finite '$' hc).2 rfl) h

theorem scoped_operands (comparison : Comparison) (h : Piece.Scoped frames rest last) :
    Piece.Scoped frames (comparison.operands ++ rest) last := by
  cases comparison with
  | between low high =>
      refine scoped_mark (by simp) (by simp) (by simp) (.slot ?_)
      refine scoped_mark (by simp) (by simp) (by simp) (.slot ?_)
      exact scoped_mark (by simp) (by simp) (by simp) h
  | _ => exact .slot h

theorem scoped_leaf {l : Leaf} (innermost : frames.innermost? = root.item?)
    (paths : ∀ path ∈ l.paths, isPath path) (finite : l.isFinite)
    (h : Piece.Scoped frames rest last) : Piece.Scoped frames (l.outline root ++ rest) last := by
  cases l with
  | constant b => exact scoped_mark (by simp) (by simp) (by simp) h
  | aggregate collection field a =>
      simp only [Leaf.paths, List.mem_cons, List.not_mem_nil, or_false, forall_eq_or_imp,
        forall_eq] at paths
      refine .name (innermost ▸ isRooted_functionAt root a.function paths.1 paths.2) ?_
      refine scoped_mark (by simp) (by simp) ?_ h
      rintro test ⟨⟩
      exact finite
  | compare path comparison =>
      have rooted : IsRooted frames.innermost? (fieldAt root path) :=
        innermost ▸ isRooted_fieldAt root (paths path List.mem_cons_self)
      have behind : Piece.Scoped frames (.name (fieldAt root path) ::
          .mark (.operator comparison) :: (comparison.operands ++ rest)) last :=
        .name rooted (scoped_mark (by simp) (by simp) (by simp) (scoped_operands comparison h))
      rw [Leaf.outline]
      cases comparison.isAny with
      | true => exact scoped_mark (by simp) (by simp) (by simp) behind
      | false => exact behind

theorem scoped_quantifier (quantifier : Quantifier) {collection : String}
    (innermost : frames.innermost? = root.item?) (path : isPath collection)
    (h : Piece.Scoped frames rest last) :
    Piece.Scoped frames (quantifier.outline root collection ++ rest) last := by
  cases quantifier with
  | all =>
      refine scoped_mark (by simp) (by simp) (by simp) (.name ?_ h)
      exact innermost ▸ isRooted_total root path
  | any | none => exact scoped_mark (by simp) (by simp) (by simp) h

theorem scoped_others (connective : Connective) {others : List Formula}
    (each : ∀ f ∈ others, ∀ {rest : List Piece}, Piece.Scoped frames rest last →
      Piece.Scoped frames (f.outline root ++ rest) last)
    (h : Piece.Scoped frames rest last) :
    Piece.Scoped frames (outlineOthers root connective others ++ rest) last := by
  induction others with
  | nil => exact h
  | cons f others ih =>
      have ih := ih fun g hg => each g (List.mem_cons_of_mem f hg)
      have whole := each f List.mem_cons_self ih
      rw [outlineOthers, List.cons_append, List.cons_append, List.append_assoc]
      exact scoped_mark (by simp) (by simp) (by simp) whole

/-- The text of a formula is scoped wherever all variables around it have numbers that are not below
its height. -/
theorem scoped_outline {f : Formula} (innermost : frames.innermost? = root.item?)
    (heights : ∀ n, Subquery.itemNameAt n ∈ frames.names → f.height ≤ n)
    (paths : ∀ path ∈ f.paths, isPath path) (finite : ∀ l ∈ f.leaves, l.isFinite)
    (h : Piece.Scoped frames rest last) : Piece.Scoped frames (f.outline root ++ rest) last := by
  induction f generalizing root frames last rest with
  | leaf l => exact scoped_leaf innermost paths (finite l (by simp [leaves])) h
  | junction connective first others ihf iho =>
      simp only [Formula.paths, pathsOfAll_eq, leaves, leavesOfAll_eq, List.mem_append,
        List.mem_flatMap] at paths finite
      simp only [height, max_le_iff] at heights
      have closed : Piece.Scoped (none :: frames) (.mark .closing :: rest) last := .closing h
      have inside : Frames.innermost? (none :: frames) = root.item? := innermost
      have behind : Piece.Scoped (none :: frames)
          (outlineOthers root connective others ++ .mark .closing :: rest) last :=
        scoped_others connective (fun f hf _ h =>
          iho f hf inside (fun n hn => (height_le_greatestHeight hf).trans (heights n hn).2)
            (fun path hp => paths path (.inr ⟨f, hf, hp⟩))
            (fun l hl => finite l (.inr ⟨f, hf, hl⟩)) h) closed
      have whole := ihf inside (fun n hn => (heights n hn).1)
        (fun path hp => paths path (.inl hp)) (fun l hl => finite l (.inl hl)) behind
      simpa [outline] using Piece.Scoped.opening whole
  | subquery quantifier collection inner ih =>
      simp only [Formula.paths, List.mem_cons, forall_eq_or_imp] at paths
      have behind : Piece.Scoped (some (Subquery.itemNameAt inner.height) :: frames)
          (.leave :: (quantifier.outline root collection ++ rest)) last :=
        .leave (scoped_quantifier quantifier innermost paths.1 h)
      -- The variables around have the numbers of greater heights.
      have fresh : Subquery.itemNameAt inner.height ∉ frames.names := fun hm => by
        have := heights inner.height hm
        simp only [height] at this
        omega
      have heightsInside : ∀ n, Subquery.itemNameAt n ∈
          Frames.names (some (Subquery.itemNameAt inner.height) :: frames) → inner.height ≤ n := by
        intro n hn
        rcases List.mem_cons.mp hn with hn | hn
        · exact (itemNameAt_inj.mp hn).ge
        · have := heights n hn
          simp only [height] at this
          omega
      have body : Piece.Scoped (some (Subquery.itemNameAt inner.height) :: frames)
          (inner.outline (some inner.height) ++
            .leave :: (quantifier.outline root collection ++ rest)) last :=
        ih rfl heightsInside paths.2 finite behind
      have whole := Piece.Scoped.enter (innermost ▸ isRooted_fieldAt root paths.1) fresh body
      simpa [outline] using whole

end Formula

/-! ### Tokens -/

namespace Piece

variable {frames last : Frames} {pieces : List Piece}

def IsWordy : Piece → Prop
  | name s => ∀ c ∈ s.toList, Token.isWordPart c
  | enter collection _ => ∀ c ∈ collection.toList, Token.isWordPart c
  | mark m => ∀ test, m = .bounds test → test.isFinite
  | _ => True

theorem isWordPart_fieldAt (root : Root) {path : String} (h : isPath path) :
    ∀ c ∈ (fieldAt root path).toList, Token.isWordPart c := by
  cases root with
  | some n => exact (isWord_fieldAt_some n h).part
  | none =>
      rw [fieldAt_none]
      split
      · exact (by decide : IsWord "SELF").part
      · exact fun c => isWordPart_of_isPath h

theorem isWordPart_functionAt (root : Root) {collection field : String} (a : AggregateFunction)
    (hc : isPath collection) (hf : isPath field) :
    ∀ c ∈ (functionAt root collection field a).toList, Token.isWordPart c := by
  have function := isWordPart_function a hf
  cases root with
  | some n =>
      rw [functionAt_some, String.append_assoc, String.append_assoc, String.toList_append]
      exact List.forall_mem_append.mpr
        ⟨isWordPart_fieldAt (some n) hc, isWordPart_point_append function⟩
  | none =>
      rw [functionAt_none]
      split
      · rwa [String.empty_append]
      · rw [String.append_assoc, String.append_assoc, String.toList_append]
        exact List.forall_mem_append.mpr
          ⟨fun c => isWordPart_of_isPath hc, isWordPart_point_append function⟩

theorem IsMade.isWordy {p : Piece} (h : p.IsMade (isPath ·)) : p.IsWordy := by
  cases h with
  | mark m finite => exact finite
  | slot argument => trivial
  | leave => trivial
  | field root path hp => exact isWordPart_fieldAt root hp
  | total root path hp =>
      rw [IsWordy, String.toList_append]
      exact List.forall_mem_append.mpr ⟨isWordPart_fieldAt root hp, isWordPart_total⟩
  | function root collection field a hc hf => exact isWordPart_functionAt root a hc hf
  | enter root path item hp => exact isWordPart_fieldAt root hp

theorem bracket_not_mem {s : String} (h : ∀ c ∈ s.toList, Token.isWordPart c) : '[' ∉ s.toList :=
  fun hb => absurd (h '[' hb) (by decide)

/-- No piece has letters in brackets that are left open. -/
theorem IsWordy.ne_unterminated {p : Piece} (h : p.IsWordy) :
    Token.scanAll p.text.toList ≠ .error .unterminatedOptions := by
  cases p with
  | mark m =>
      rw [text, scanAll_mark h]
      simp
  | name s => exact Token.scanAll_ne_unterminated (bracket_not_mem h)
  | slot argument => exact Token.scanAll_ne_unterminated (by rw [toList_text_slot]; decide)
  | leave => exact Token.scanAll_ne_unterminated (by rw [text]; decide)
  | enter collection item =>
      have source := Token.scanAll_ne_unterminated (bracket_not_mem h)
      rw [scanAll_enter item source]
      cases hs : Token.scanAll collection.toList with
      | error e => simpa [Except.map, hs] using source
      | ok tokens => simp [Except.map]

theorem isBound_of_not_mem {text : String} (h : '$' ∉ text.toList) :
    IsBound frames.names (pathSteps text) := by
  intro v hv
  cases hs : pathSteps text with
  | nil => simp [hs, variableOf?] at hv
  | cons head rest =>
      rw [hs, variableOf?] at hv
      split at hv
      · next hd =>
          exact absurd (mem_of_mem_pathSteps (hs ▸ List.mem_cons_self) (List.mem_of_mem_head? hd)) h
      · cases hv

theorem isFree_mark {m : Mark} (opening : m ≠ .opening) (closing : m ≠ .closing) :
    ∀ t ∈ m.tokens, Token.IsFree frames t := by
  have word {w : String} (h : '$' ∉ w.toList) : Token.IsFree frames (.word w) :=
    isBound_of_not_mem h
  cases m with
  | opening => exact absurd rfl opening
  | closing => exact absurd rfl closing
  | separator connective =>
      refine List.forall_mem_singleton.mpr (word ?_)
      cases connective <;> decide
  | constant b =>
      refine List.forall_mem_singleton.mpr (word ?_)
      cases b <;> decide
  | any => exact List.forall_mem_singleton.mpr (word (by decide))
  | operator comparison =>
      refine List.forall_mem_cons.mpr ⟨?_, ?_⟩
      · cases comparison with
        | matching test _ _ => cases test <;> first | trivial | exact word (by decide)
        | member _ _ => exact word (by decide)
        | between _ _ => exact word (by decide)
        | ordered side _ => cases side <;> trivial
      · cases comparison.modifiers? with
        | none => exact List.forall_mem_nil _
        | some modifiers =>
            rw [Option.map_some, Option.getD_some, Modifiers.tokens]
            split
            · exact List.forall_mem_nil _
            · exact List.forall_mem_singleton.mpr trivial
  | listOpening => exact List.forall_mem_singleton.mpr trivial
  | comma => exact List.forall_mem_singleton.mpr trivial
  | listClosing => exact List.forall_mem_singleton.mpr trivial
  | bounds test =>
      cases test with
      | between low high =>
          rw [Mark.tokens, AggregateTest.tokens]
          refine List.forall_mem_cons.mpr ⟨word (by decide), ?_⟩
          simp [Token.IsFree]
      | _ => simp [Mark.tokens, AggregateTest.tokens, Token.IsFree]
  | count quantifier =>
      cases quantifier <;>
        exact List.forall_mem_cons.mpr ⟨word (by decide), by simp [Token.IsFree]⟩

/-- All variables of parentheses are those of subqueries. -/
def AreItems (frames : Frames) : Prop := ∀ v ∈ frames.names, ∃ n, v = Subquery.itemNameAt n

/-- The tokens of a rooted name have no variable but that of the innermost subquery. -/
theorem isName_of_isRooted {s : String} {tokens : List Token} (items : AreItems frames)
    (rooted : IsRooted frames.innermost? s) (part : ∀ c ∈ s.toList, Token.isWordPart c)
    (h : Token.scanAll s.toList = .ok tokens) : ∀ t ∈ tokens, Token.IsName frames t := by
  obtain ⟨steps, hs, plain⟩ := rooted
  cases hi : frames.innermost? with
  | none =>
      -- Such a name may begin with a digit and be more than one token.
      have free : '$' ∉ s.toList := fun hd => by
        rw [hi] at hs
        obtain hp | ⟨step, hm, hd⟩ := mem_pathSteps hd
        · cases hp
        · exact plain step (by simpa [hs] using hm) hd
      intro t ht
      rcases Token.scanAll_name part h t ht with ⟨x, rfl⟩ | ⟨w, rfl, hw⟩
      · trivial
      · exact isBound_of_not_mem fun hd => free (hw '$' hd)
  | some v =>
      rw [hi, Option.toList_some, List.singleton_append] at hs
      have mem : v ∈ frames.names := List.mem_of_mem_head? hi
      obtain ⟨n, rfl⟩ := items v mem
      -- A name that begins with a variable does not begin with a digit.
      have word : IsWord s := by
        obtain ⟨piece, pieces, hp⟩ := List.exists_cons_of_ne_nil (splitDots_ne_nil s.toList)
        have hp' : piece = (Subquery.itemNameAt n).toList := by
          rw [pathSteps, hp, List.map_cons, List.cons.injEq] at hs
          rw [← hs.1, String.toList_ofList]
        rw [hp', toList_itemNameAt] at hp
        exact ⟨⟨'$', head?_of_splitDots hp, by decide⟩, part⟩
      rw [scanAll_of_isWord word] at h
      cases h
      refine List.forall_mem_singleton.mpr ?_
      intro w hw
      rw [hs, variableOf?] at hw
      split at hw
      · cases hw
        exact mem
      · cases hw

theorem exists_of_scanEach_cons {p : Piece} {rest : List Piece} {tokens : List Token}
    (h : scanEach (p :: rest) = .ok tokens) :
    ∃ own others, Token.scanAll p.text.toList = .ok own ∧ scanEach rest = .ok others ∧
      tokens = own ++ others := by
  obtain ⟨own, ho, h⟩ := bind_eq_ok h
  obtain ⟨others, hr, rfl⟩ := map_eq_ok h
  exact ⟨own, others, ho, hr, rfl⟩

theorem exists_of_scanEach_cons_of_ok {p : Piece} {rest : List Piece} {own tokens : List Token}
    (h : scanEach (p :: rest) = .ok tokens) (ho : Token.scanAll p.text.toList = .ok own) :
    ∃ others, scanEach rest = .ok others ∧ tokens = own ++ others := by
  obtain ⟨own', others, ho', hr, rfl⟩ := exists_of_scanEach_cons h
  obtain rfl : own = own' := Except.ok.inj (ho.symm.trans ho')
  exact ⟨others, hr, rfl⟩

/-- The front of a subquery has the tokens of its collection between tokens of its own. -/
theorem exists_of_scanEach_enter {collection : String} {item : Nat} {rest : List Piece}
    {tokens : List Token} (part : ∀ c ∈ collection.toList, Token.isWordPart c)
    (h : scanEach (.enter collection item :: rest) = .ok tokens) :
    ∃ source others, Token.scanAll collection.toList = .ok source ∧ scanEach rest = .ok others ∧
      tokens = .word "SUBQUERY" :: .openParen :: (source ++
        .comma :: .word (Subquery.itemNameAt item) :: .comma :: others) := by
  obtain ⟨own, others, ho, hr, rfl⟩ := exists_of_scanEach_cons h
  rw [scanAll_enter item (Token.scanAll_ne_unterminated (bracket_not_mem part))] at ho
  obtain ⟨source, hc, rfl⟩ := map_eq_ok ho
  exact ⟨source, others, hc, hr, by simp⟩

/-- The tokens of scoped pieces are scoped. -/
theorem Scoped.tokens (h : Scoped frames pieces last) (items : AreItems frames)
    (wordy : ∀ p ∈ pieces, p.IsWordy) {tokens : List Token} (hs : scanEach pieces = .ok tokens) :
    Token.Scoped frames tokens := by
  induction h generalizing tokens with
  | nil =>
      cases hs
      exact .nil
  | opening inside ih =>
      obtain ⟨others, hr, rfl⟩ := exists_of_scanEach_cons_of_ok hs (scanAll_mark (by simp))
      exact .opening (ih items (List.forall_mem_cons.mp wordy).2 hr)
  | closing behind ih =>
      obtain ⟨others, hr, rfl⟩ := exists_of_scanEach_cons_of_ok hs (scanAll_mark (by simp))
      exact .closing (ih items (List.forall_mem_cons.mp wordy).2 hr)
  | mark opening closing plain behind ih =>
      obtain ⟨finite, wordy⟩ := List.forall_mem_cons.mp wordy
      obtain ⟨others, hr, rfl⟩ := exists_of_scanEach_cons_of_ok hs (scanAll_mark finite)
      exact .append (isFree_mark opening closing) (ih items wordy hr)
  | slot behind ih =>
      have own : Token.scanAll "?".toList = .ok [.placeholder] := by cbv
      obtain ⟨others, hr, rfl⟩ := exists_of_scanEach_cons_of_ok hs own
      exact .token trivial (ih items (List.forall_mem_cons.mp wordy).2 hr)
  | name rooted behind ih =>
      obtain ⟨part, wordy⟩ := List.forall_mem_cons.mp wordy
      obtain ⟨own, others, ho, hr, rfl⟩ := exists_of_scanEach_cons hs
      have names := isName_of_isRooted items rooted part ho
      exact .append (fun t ht => (names t ht).isFree) (ih items wordy hr)
  | @enter _ _ collection item _ rooted fresh body ih =>
      obtain ⟨part, wordy⟩ := List.forall_mem_cons.mp wordy
      obtain ⟨source, others, hc, hr, rfl⟩ := exists_of_scanEach_enter part hs
      have inside : AreItems (some (Subquery.itemNameAt item) :: _) :=
        List.forall_mem_cons.mpr ⟨⟨item, rfl⟩, items⟩
      exact .subquery (isName_of_isRooted items rooted part hc) (ih inside wordy hr)
  | leave behind ih =>
      have own : Token.scanAll ")".toList = .ok [.closeParen] := by cbv
      obtain ⟨others, hr, rfl⟩ := exists_of_scanEach_cons_of_ok hs own
      have outside : AreItems _ := fun v hv => items v (List.mem_cons_of_mem _ hv)
      exact .closing (ih outside (List.forall_mem_cons.mp wordy).2 hr)

end Piece

/-! ### Evaluation -/

namespace Formula

variable {f : Formula}

/-- The whole text of a formula is scoped. -/
theorem scoped_text (paths : ∀ path ∈ f.paths, isPath path)
    (finite : ∀ l ∈ f.leaves, l.isFinite) : Piece.Scoped [] (f.outline none) [] := by
  have whole : Piece.Scoped [] (f.outline none ++ []) [] :=
    scoped_outline rfl (by simp [Frames.names]) paths finite .nil
  rwa [List.append_nil] at whole

/-- A predicate that is read from the text of a formula is scoped. -/
theorem isScoped_of_ofText (paths : ∀ path ∈ f.paths, isPath path)
    (finite : ∀ l ∈ f.leaves, l.isFinite) {arguments : List Argument} {p : Predicate}
    (h : Predicate.ofText (Piece.textOfAll (f.outline none)) arguments = .ok p) :
    p.IsScoped [] := by
  have wordy : ∀ q ∈ f.outline none, q.IsWordy := fun q hq =>
    (isMade_outline none paths finite q hq).isWordy
  have each := Piece.scanAll_textOfAll (Piece.separated_outline none f)
    fun q hq => (wordy q hq).ne_unterminated
  rw [Predicate.ofText] at h
  split at h
  · cases h
  · next tokens hs =>
      have inScope : Token.Scoped [] tokens :=
        (scoped_text paths finite).tokens (by simp [Piece.AreItems, Frames.names]) wordy
          (each.symm.trans hs)
      exact Predicate.isScoped_of_ofTokens inScope h

/-- The evaluation of the text of a formula never misses a variable. -/
theorem finds_select (paths : ∀ path ∈ f.paths, isPath path)
    (finite : ∀ l ∈ f.leaves, l.isFinite) {α : Type} (document : α → Json)
    (arguments : List Argument) (elements : List α) :
    Finds (select document (Piece.textOfAll (f.outline none)) arguments elements) := by
  rw [select]
  split
  · next he => exact (Predicate.finds_ofText _ _).of_eq_error he
  · next p hp =>
      have inScope := isScoped_of_ofText paths finite hp
      have has : Scope.Has [] [] := by simp [Scope.Has]
      exact finds_keepIf (fun x => Predicate.finds_holds has inScope) elements

end Formula

/-- The evaluation of a query that is built of paths never misses a variable. -/
theorem QueryPlan.finds_select_of_build {plan : QueryPlan} {q : Query} (built : plan.build = .ok q)
    (paths : ∀ path ∈ plan.formula.paths, isPath path) {α : Type} (document : α → Json)
    (elements : List α) : Finds (q.select document elements) := by
  obtain ⟨handed, finite⟩ := handOver_of_build built
  rw [Query.select, handed]
  exact Formula.finds_select paths finite document _ elements

/-- A condition that is built of paths carries the height of its formula, which numbers the variable
of a subquery around it. Its text is scoped: a subquery binds no variable that is bound around it,
and every name inside begins with the variable of the innermost one. So the evaluation of its query
never misses a variable. -/
theorem ConditionPlan.scoped_of_build {plan : ConditionPlan} {condition : Condition}
    (paths : ∀ path ∈ plan.formula.paths, isPath path) (built : plan.build = .ok condition) :
    condition.template.height = plan.formula.height ∧
      (∀ quantifier collection,
        (Subquery.asking quantifier collection condition).itemName =
          "$a" ++ toString plan.formula.height) ∧
      condition.template.render = Piece.textOfAll (plan.formula.outline none) ∧
      Piece.Scoped [] (plan.formula.outline none) [] ∧
      ∀ {α : Type} (document : α → Json) (elements : List α) (name : String),
        (Query.ofTemplate condition.template).select document elements ≠
          .error (.unboundVariable name) := by
  have writes := ConditionPlan.writes_of_build built
  have query := Query.Writes.ofTemplate writes
  refine ⟨writes.height, fun quantifier collection => ?_, writes.text none,
    Formula.scoped_text paths writes.finite, fun document elements => ?_⟩
  · rw [← writes.height]
    rfl
  · have handed : (Query.ofTemplate condition.template).handOver =
        (Piece.textOfAll (plan.formula.outline none), plan.formula.arguments) := by
      simp [Query.handOver, query.isEmpty, query.format, query.arguments]
    rw [Query.select, handed]
    exact Formula.finds_select paths writes.finite document _ elements

def Bookshelf.noFavourites : ConditionPlan :=
  .clause (.subquery (.asking .none ⟨"chapters"⟩ (.clause (.subquery (.asking .all ⟨"reviews"⟩
    (.clause (.compare ⟨"stars"⟩ (.ordered .above (.integer 3)))))))))

theorem Bookshelf.noFavourites_scoped :
    (∀ path ∈ noFavourites.formula.paths, isPath path) ∧
      ∃ condition, noFavourites.build = .ok condition ∧ condition.template.height = 2 ∧
        Piece.Scoped [] (noFavourites.formula.outline none) [] ∧
        ∀ name, (Query.ofTemplate condition.template).select Book.document books ≠
          .error (.unboundVariable name) := by
  have paths : ∀ path ∈ noFavourites.formula.paths, isPath path := by decide
  obtain ⟨height, -, -, inScope, found⟩ :=
    @ConditionPlan.scoped_of_build noFavourites _ paths rfl
  exact ⟨paths, _, rfl, height, inScope, found Book.document books⟩

end Winnow
