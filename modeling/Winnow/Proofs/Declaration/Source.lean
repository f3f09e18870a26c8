import Winnow.Declaration.Source
import Winnow.Proofs.Result

/-!
The names of declarations. The name of a declaration is one of the lexemes that it is read from, and
the names among the lexemes of a text are identifiers. So a declaration that a text states has an
identifier for its name.
-/

namespace Winnow

namespace Lexeme

open Text

/-! ### Names among the lexemes of a text -/

/-- The lexeme is an identifier if it is a name. -/
def IsSpelled : Lexeme → Prop
  | .name _ text => isIdentifier text.toList
  | _ => True

theorem isIdentifier_of_cutName? {source : List Char} {cut : Cut} (h : cutName? source = some cut) :
    isIdentifier cut.1 := by
  cases source with
  | nil => cases h
  | cons c rest =>
      rw [cutName?] at h
      split at h
      · next starts =>
          cases h
          show (isIdentifierStart c && (List.takeWhile _ rest).all isIdentifierPart) = true
          rw [starts, List.all_takeWhile]
          rfl
      · cases h

theorem isIdentifier_of_readName? {source rest : List Char} {isRaw : Bool} {text : String}
    (h : readName? source = some (isRaw, text, rest)) : isIdentifier text.toList := by
  rw [readName?.eq_def] at h
  split at h
  · split at h
    · cases h
    · next letters more cut =>
        dsimp only at h
        split at h
        · cases h
        · cases h
          rw [String.toList_ofList]
          exact isIdentifier_of_cutName? cut
  · obtain ⟨⟨letters, more⟩, cut, h⟩ := Option.map_eq_some_iff.mp h
    cases h
    rw [String.toList_ofList]
    exact isIdentifier_of_cutName? cut

theorem isSpelled_of_readLiteral? {source rest : List Char} {lexeme : Lexeme}
    (h : readLiteral? source = some (lexeme, rest)) : lexeme.IsSpelled := by
  rw [readLiteral?.eq_def] at h
  split at h
  · cases h
    trivial
  · split at h <;> obtain ⟨cut, -, h⟩ := Option.map_eq_some_iff.mp h <;> cases h <;> trivial

theorem isSpelled_of_readLifetime? {source rest : List Char} {lexeme : Lexeme}
    (h : readLifetime? source = some (lexeme, rest)) : lexeme.IsSpelled := by
  rw [readLifetime?] at h
  split at h
  · cases h
  split at h
  · cases h
  split at h
  · cases h
    trivial
  split at h
  · cases h
  · cases h
    trivial

theorem isSpelled_of_readLeaf? {source rest : List Char} {lexeme : Lexeme}
    (h : readLeaf? source = some (lexeme, rest)) : lexeme.IsSpelled := by
  rw [readLeaf?.eq_def] at h
  split at h
  · next literal =>
      cases h
      exact isSpelled_of_readLiteral? literal
  split at h
  · exact isSpelled_of_readLifetime? h
  · split at h
    · cases h
      trivial
    · split at h
      · cases h
      · obtain ⟨⟨isRaw, text, more⟩, name, h⟩ := Option.map_eq_some_iff.mp h
        cases h
        exact isIdentifier_of_readName? name
  · cases h

theorem isSpelled_of_documentation {isInner : Bool} {content : List Char} :
    ∀ lexeme ∈ documentation isInner content, lexeme.IsSpelled := by
  cases isInner <;> simp [documentation, IsSpelled]

theorem isSpelled_of_comment {isInner : Bool} {cut : Option Cut} {lexemes : List Lexeme}
    {rest : List Char} (h : readDocumentation?.comment isInner cut = some (lexemes, rest)) :
    ∀ lexeme ∈ lexemes, lexeme.IsSpelled := by
  rw [readDocumentation?.comment.eq_def] at h
  split at h
  · cases h
  · split at h
    · cases h
      exact isSpelled_of_documentation
    · cases h

theorem isSpelled_of_readDocumentation? {source rest : List Char} {lexemes : List Lexeme}
    (h : readDocumentation? source = some (lexemes, rest)) :
    ∀ lexeme ∈ lexemes, lexeme.IsSpelled := by
  rw [readDocumentation?.eq_def] at h
  split at h
  iterate 4 exact isSpelled_of_comment h
  cases h

/-- Every step of reading a text keeps the names that were read, in all groups that are open. -/
theorem isSpelled_of_readAll? {n : Nat} {groups : List (Brackets × List Lexeme)}
    {read lexemes : List Lexeme} {source : List Char}
    (h : readAll? n groups read source = some lexemes) (known : ∀ l ∈ read, l.IsSpelled)
    (outer : ∀ g ∈ groups, ∀ l ∈ g.2, l.IsSpelled) : ∀ l ∈ lexemes, l.IsSpelled := by
  fun_induction readAll? n groups read source with
  | case1 =>
      cases h
      simpa using known
  | case4 n groups read c rest more space ih => exact ih h known outer
  | case5 n groups read c rest plain documented more comment ih =>
      refine ih h ?_ outer
      intro l hl
      rcases List.mem_append.mp hl with hl | hl
      · exact isSpelled_of_readDocumentation? comment l (List.mem_reverse.mp hl)
      · exact known l hl
  | case6 n groups read c rest plain uncommented brackets opens ih =>
      exact ih h (List.forall_mem_nil _) (List.forall_mem_cons.mpr ⟨known, outer⟩)
  | case7 n read c rest plain uncommented opened before others inside closes ih =>
      obtain ⟨earlier, others⟩ := List.forall_mem_cons.mp outer
      exact ih h (List.forall_mem_cons.mpr ⟨trivial, earlier⟩) others
  | case10 n groups read c rest plain uncommented closes opens lexeme more leaf ih =>
      exact ih h (List.forall_mem_cons.mpr ⟨isSpelled_of_readLeaf? leaf, known⟩) outer
  | case2 | case3 | case8 | case9 | case11 => cases h

theorem isSpelled_of_ofText? {source : String} {lexemes : List Lexeme}
    (h : ofText? source = some lexemes) : ∀ l ∈ lexemes, l.IsSpelled :=
  isSpelled_of_readAll? h (List.forall_mem_nil _) (List.forall_mem_nil _)

end Lexeme

/-! ### The name among the lexemes of a declaration -/

namespace Reading

variable {α β : Type}

theorem exists_of_bind {m : Reading α} {f : α → Reading β} {c c' : Cursor} {b : β}
    (h : (m >>= f) c = .ok (b, c')) : ∃ a c₁, m c = .ok (a, c₁) ∧ f a c₁ = .ok (b, c') := by
  obtain ⟨⟨a, c₁⟩, hm, hf⟩ := bind_eq_ok h
  exact ⟨a, c₁, hm, hf⟩

theorem ahead_cases {c c' : Cursor} {lexemes : List Lexeme} (h : ahead c = .ok (lexemes, c')) :
    lexemes = c.lexemes ∧ c' = c := by
  cases h
  exact ⟨rfl, rfl⟩

theorem exists_of_runWhole {r : Reading α} {lexemes : List Lexeme} {a : α}
    (h : runWhole r lexemes = .ok a) : ∃ c, r { lexemes } = .ok (a, c) := by
  rw [runWhole.eq_def] at h
  split at h
  · next c run =>
      cases h
      exact ⟨_, run⟩
  all_goals cases h

/-- What a reader leaves is the end of what was ahead of it. -/
def Consumes (r : Reading α) : Prop := ∀ c a c', r c = .ok (a, c') → c'.lexemes <:+ c.lexemes

theorem consumes_pure (a : α) : Consumes (pure a) := by
  intro c a' c' h
  cases h
  exact List.suffix_rfl

theorem Consumes.bind {m : Reading α} {f : α → Reading β} (first : Consumes m)
    (next : ∀ a, Consumes (f a)) : Consumes (m >>= f) := by
  intro c b c' h
  obtain ⟨a, c₁, hm, hf⟩ := exists_of_bind h
  exact (next a c₁ b c' hf).trans (first c a c₁ hm)

theorem consumes_throw (fault : SyntaxFault) : Consumes (throw fault : Reading α) := by
  intro c a c' h
  cases h

theorem consumes_ahead : Consumes ahead := by
  intro c a c' h
  cases h
  exact List.suffix_rfl

theorem consumes_expected (choices : List String) : Consumes (expected choices : Reading α) :=
  consumes_ahead.bind fun _ => consumes_throw _

theorem consumes_skip : Consumes skip := by
  intro c a c' h
  cases h
  exact List.drop_suffix 1 c.lexemes

theorem consumes_seesAnyWord (words : List String) : Consumes (seesAnyWord words) :=
  consumes_ahead.bind fun _ => consumes_pure _

theorem consumes_optionalWord (word : String) : Consumes (optionalWord word) := by
  refine (consumes_seesAnyWord [word]).bind fun sees => ?_
  cases sees with
  | true => exact consumes_skip.bind fun _ => consumes_pure _
  | false => exact consumes_pure _

theorem afterMarks?_suffix {operator : List Char} {lexemes rest : List Lexeme}
    (h : Lexeme.afterMarks? operator lexemes = some rest) : rest <:+ lexemes := by
  fun_induction Lexeme.afterMarks? operator lexemes with
  | case1 =>
      cases h
      exact List.suffix_rfl
  | case2 =>
      cases h
      exact List.suffix_cons _ _
  | case4 c more d isJoint rest others same ih => exact (ih h).trans (List.suffix_cons _ _)
  | case3 | case5 | case6 => cases h

theorem consumes_optional (operator : String) : Consumes (optional operator) := by
  intro c a c' h
  obtain ⟨lexemes, c₁, ahead, h⟩ := exists_of_bind h
  cases ahead
  cases found : Lexeme.after? operator c.lexemes with
  | some rest =>
      rw [found] at h
      cases h
      exact afterMarks?_suffix found
  | none =>
      rw [found] at h
      cases h
      exact List.suffix_rfl

theorem consumes_group (brackets : Brackets) : Consumes (group brackets) := by
  refine consumes_ahead.bind fun lexemes => ?_
  split
  · exact consumes_skip.bind fun _ => consumes_pure _
  · exact consumes_expected _

/-- Whatever is read of the content of a group, what is ahead behind the group is the same. -/
theorem consumes_within (brackets : Brackets) (content : List Lexeme) (reader : Reading α) :
    Consumes (within brackets content reader) := by
  intro c a c' h
  obtain ⟨outer, c₁, ahead, h⟩ := exists_of_bind h
  obtain ⟨_, c₂, -, h⟩ := exists_of_bind h
  obtain ⟨result, c₃, -, h⟩ := exists_of_bind h
  obtain ⟨_, c₄, back, h⟩ := exists_of_bind h
  cases ahead
  cases back
  cases h
  exact List.suffix_rfl

theorem consumes_inGroup (brackets : Brackets) (reader : Reading α) :
    Consumes (inGroup brackets reader) :=
  (consumes_group brackets).bind fun content => consumes_within brackets content reader

end Reading

open Reading

theorem Attribute.consumes_readAll (g : Grammar) (n : Nat) : Consumes (Attribute.readAll g n) := by
  induction n with
  | zero => exact consumes_pure _
  | succ n ih =>
      refine (consumes_optional "#").bind fun marks => ?_
      split
      · exact consumes_pure _
      · exact (consumes_inGroup .square (Attribute.read g)).bind fun _ =>
          ih.bind fun _ => consumes_pure _

theorem Phrase.consumes_visibilityMark (n : Nat) : Consumes (Phrase.visibilityMark n) := by
  refine (consumes_optionalWord "pub").bind fun word => ?_
  split
  · exact consumes_pure _
  refine consumes_ahead.bind fun next => ?_
  split
  · split
    · exact consumes_skip.bind fun _ => consumes_pure _
    · exact consumes_pure _
  · exact consumes_skip.bind fun _ => (consumes_within .round _ _).bind fun _ => consumes_pure _
  · exact consumes_pure _

namespace Declaration

/-- An identifier is the name that comes next, and it is no reserved word unless it is raw. -/
theorem readIdentifier_cases {c c' : Cursor} {i : Identifier}
    (h : readIdentifier c = .ok (i, c')) :
    .name i.isRaw i.text ∈ c.lexemes ∧ (i.isRaw || Lexeme.isFree i.text) := by
  obtain ⟨lexeme, c₁, name, h⟩ := exists_of_bind h
  obtain ⟨lexemes, c₂, ahead, name⟩ := exists_of_bind name
  split at name
  · next isRaw text rest =>
      split at name
      · next free =>
          cases name
          cases h
          exact ⟨(ahead_cases ahead).1 ▸ List.mem_cons_self, free⟩
      · cases name
  · obtain ⟨_, _, -, name⟩ := exists_of_bind name
    cases name

/-- After its word, a declaration begins with its name. -/
theorem readAfter_cases {g : Grammar} {attributes : List Attribute} {visibility : Phrase}
    {c c' : Cursor} {d : Declaration} (h : readAfter g attributes visibility c = .ok (d, c')) :
    .name d.name.isRaw d.name.text ∈ c.lexemes ∧ (d.name.isRaw || Lexeme.isFree d.name.text) := by
  obtain ⟨isStruct, c₁, sees₁, h⟩ := exists_of_bind h
  obtain ⟨isEnum, c₂, sees₂, h⟩ := exists_of_bind h
  obtain ⟨isUnion, c₃, sees₃, h⟩ := exists_of_bind h
  have left : c₃.lexemes <:+ c.lexemes :=
    (consumes_seesAnyWord _ _ _ _ sees₃).trans
      ((consumes_seesAnyWord _ _ _ _ sees₂).trans (consumes_seesAnyWord _ _ _ _ sees₁))
  split at h
  · obtain ⟨_, c₄, skipped, h⟩ := exists_of_bind h
    obtain ⟨name, c₅, found, h⟩ := exists_of_bind h
    obtain ⟨member, free⟩ := readIdentifier_cases found
    have known : .name name.isRaw name.text ∈ c.lexemes :=
      left.mem ((consumes_skip _ _ _ skipped).mem member)
    obtain ⟨_, c₆, -, h⟩ := exists_of_bind h
    suffices same : d.name = name by
      rw [same]
      exact ⟨known, free⟩
    split at h
    · obtain ⟨_, c₇, -, h⟩ := exists_of_bind h
      cases h
      rfl
    · obtain ⟨_, c₇, -, h⟩ := exists_of_bind h
      split at h
      all_goals
        obtain ⟨_, c₈, -, h⟩ := exists_of_bind h
        cases h
        rfl
  · obtain ⟨_, _, -, h⟩ := exists_of_bind h
    cases h

/-- The name of a declaration is a name among the lexemes of a text that states it. It is no
reserved word unless it is raw. -/
theorem name_of_ofText? {source : String} {d : Declaration} (h : ofText? source = some d) :
    Text.isIdentifier d.name.text.toList ∧ (d.name.isRaw || Lexeme.isFree d.name.text) := by
  obtain ⟨lexemes, read, h⟩ := Option.bind_eq_some_iff.mp h
  obtain ⟨c, run⟩ := exists_of_runWhole (eq_ok_of_toOption h)
  obtain ⟨attributes, c₁, marked, run⟩ := exists_of_bind run
  obtain ⟨visibility, c₂, seen, run⟩ := exists_of_bind run
  obtain ⟨member, free⟩ := readAfter_cases run
  have left : c₂.lexemes <:+ lexemes :=
    (Phrase.consumes_visibilityMark _ _ _ _ seen).trans
      (Attribute.consumes_readAll _ _ _ _ _ marked)
  exact ⟨Lexeme.isSpelled_of_ofText? read _ (left.mem member), free⟩

end Declaration

end Winnow
