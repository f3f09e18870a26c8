import Winnow.Proofs.Formula.Tokens
import Winnow.Proofs.Predicate.Reading
import Winnow.Query.Selection

/-!
What a reader makes of a formula. Every formula stands for a predicate: a leaf for a comparison, a
junction for its conditions from left to right, and a subquery for a comparison of the number of
items that it keeps. The tokens of the formula are read as that predicate, with all of its
arguments.
-/

namespace Winnow

/-- The differences between texts that modifiers name. -/
def Modifiers.folding (m : Modifiers) : Folding :=
  ⟨m.contains .caseInsensitive, m.contains .diacriticInsensitive⟩

namespace Comparison

def relation : Comparison → Relation
  | matching .anyEqual _ _ => .equal
  | matching .equal _ _ => .equal
  | matching .notEqual _ _ => .notEqual
  | matching .contains _ _ => .contains
  | matching .beginsWith _ _ => .beginsWith
  | matching .endsWith _ _ => .endsWith
  | member _ _ => .member
  | between _ _ => .between
  | ordered .above _ => .greater
  | ordered .below _ => .less

/-- The differences between texts that a comparison overlooks: those that its modifiers name, and
none where it is given no modifiers. -/
def folding : Comparison → Folding
  | matching _ _ modifiers => modifiers.folding
  | member _ modifiers => modifiers.folding
  | between _ _ => {}
  | ordered _ _ => {}

def operand : Comparison → Expression
  | matching _ value _ => .value value.bind.toJson
  | member values _ => .value (Argument.list (Value.bindAll values)).toJson
  | between low high => .list [.value low.bind.toJson, .value high.bind.toJson]
  | ordered _ value => .value value.bind.toJson

end Comparison

namespace AggregateTest

def relation : AggregateTest → Relation
  | above _ => .greater
  | below _ => .less
  | equal _ => .equal
  | between _ _ => .between

def operand : AggregateTest → Expression
  | above bound => .value (.ofDouble bound.number)
  | below bound => .value (.ofDouble bound.number)
  | equal value => .value (.ofDouble value.number)
  | between low high => .list [.value (.ofDouble low.number), .value (.ofDouble high.number)]

end AggregateTest

def Leaf.predicate (root : Root) : Leaf → Predicate
  | constant b => .constant b
  | compare path comparison =>
    .compare comparison.isAny (.path (fieldSteps root path)) comparison.relation
      comparison.folding comparison.operand
  | aggregate collection field a =>
    .compare false (.path (functionSteps root collection field a.function)) a.test.relation {}
      a.test.operand

def Connective.predicate : Connective → Predicate → Predicate → Predicate
  | and => .and
  | or => .or

namespace Quantifier

def relation : Quantifier → Relation
  | any => .greater
  | all => .equal
  | none => .equal

/-- What the number of items that were kept is compared with. -/
def total (root : Root) (collection : String) : Quantifier → Expression
  | any => .value (.ofDouble (.ofRank false 0))
  | all => .path (fieldSteps root collection ++ ["@count"])
  | none => .value (.ofDouble (.ofRank false 0))

end Quantifier

namespace Formula

mutual

def predicate (root : Root) : Formula → Predicate
  | .leaf l => l.predicate root
  | .junction connective first others =>
    (predicates root others).foldl connective.predicate (first.predicate root)
  | .subquery quantifier collection inner =>
    .compare false
      (.subquery (fieldSteps root collection) (Subquery.itemNameAt inner.height)
        (inner.predicate (some inner.height)) ["@count"])
      quantifier.relation {} (quantifier.total root collection)

def predicates (root : Root) : List Formula → List Predicate
  | [] => []
  | f :: rest => f.predicate root :: predicates root rest

end

end Formula

/-! ### The tokens of a leaf -/

section Leaf

open Input (Reads ReadsFolding)

variable (rest : List Token) (more : List Json)

theorem toJsonItems_append (arguments others : List Argument) :
    Argument.toJsonItems (arguments ++ others) =
      Argument.toJsonItems arguments ++ Argument.toJsonItems others := by
  induction arguments with
  | nil => rfl
  | cons a arguments ih => simp [Argument.toJsonItems, ih]

theorem reads_operand (c : Comparison) :
    Reads (.expression c.operand)
      ⟨c.operands.flatMap Piece.tokens ++ rest, Argument.toJsonItems c.arguments ++ more⟩
      ⟨rest, more⟩ := by
  cases c with
  | between low high =>
      have first : Reads (.expression (.value low.bind.toJson))
          ⟨.placeholder :: .comma :: .placeholder :: .closeBrace :: rest,
            low.bind.toJson :: high.bind.toJson :: more⟩
          ⟨.comma :: .placeholder :: .closeBrace :: rest, high.bind.toJson :: more⟩ :=
        .placeholder rfl
      have second : Reads (.expression (.value high.bind.toJson))
          ⟨.placeholder :: .closeBrace :: rest, high.bind.toJson :: more⟩
          ⟨.closeBrace :: rest, more⟩ :=
        .placeholder rfl
      exact .list (Input.startsWith_cons ..) first
        (.item (Input.startsWith_cons ..) second (.lastItem rfl)) rfl
  | _ => exact .placeholder rfl

theorem foldingOf_codes (modifiers : List Modifier) (f : Folding) :
    Input.foldingOf f (modifiers.map Modifier.code) =
      .ok ⟨f.ignoresCase || modifiers.contains .caseInsensitive,
        f.ignoresDiacritics || modifiers.contains .diacriticInsensitive⟩ := by
  induction modifiers generalizing f with
  | nil => simp [Input.foldingOf]
  | cons m modifiers ih =>
      cases m <;> simp [Input.foldingOf, Modifier.code, ih]

/-- The letters of modifiers are read as what they name. -/
theorem reads_modifiers (m : Modifiers) {tokens : List Token}
    (other : ∀ codes, Input.after? (.options codes) ⟨tokens, more⟩ = none) :
    ReadsFolding m.folding ⟨m.tokens ++ tokens, more⟩ ⟨tokens, more⟩ := by
  rw [Modifiers.tokens]
  split
  · next he =>
      have none : m.toList = [] := List.isEmpty_iff.mp he
      have same : m.folding = {} := by simp [Modifiers.folding, Modifiers.contains, none]
      rw [same]
      exact .absent other
  · refine .letters rfl ?_
    simpa [Modifiers.folding, Modifiers.contains] using foldingOf_codes m.toList {}

theorem reads_folding (c : Comparison) :
    ReadsFolding c.folding
      ⟨(c.modifiers?.map Modifiers.tokens).getD [] ++
        (c.operands.flatMap Piece.tokens ++ rest), more⟩
      ⟨c.operands.flatMap Piece.tokens ++ rest, more⟩ := by
  have other (codes : String) :
      Input.after? (.options codes) ⟨c.operands.flatMap Piece.tokens ++ rest, more⟩ = none := by
    cases c <;> rfl
  cases c with
  | matching _ _ m => exact reads_modifiers more m other
  | member _ m => exact reads_modifiers more m other
  | between _ _ => exact .absent other
  | ordered _ _ => exact .absent other

theorem relationOf_operator (c : Comparison) : Input.relationOf c.operator = .ok c.relation := by
  cases c with
  | matching test _ _ => cases test <;> rfl
  | ordered side _ => cases side <;> rfl
  | _ => rfl

theorem reads_compare (any : Bool) {word : String} (c : Comparison) (free : word ≠ "SUBQUERY") :
    Reads (.comparison any (.compare any (.path (pathSteps word)) c.relation c.folding c.operand))
      ⟨.word word :: c.operator ::
          ((c.modifiers?.map Modifiers.tokens).getD [] ++
            (c.operands.flatMap Piece.tokens ++ rest)),
        Argument.toJsonItems c.arguments ++ more⟩
      ⟨rest, more⟩ :=
  .comparison (.path (Input.startsWith_cons ..) free) (Input.startsWith_cons ..)
    (relationOf_operator c) (reads_folding rest _ c) (reads_operand rest more c)

theorem reads_aggregate (root : Root) (collection field : String) (a : Aggregate) :
    Reads (.comparison false ((Leaf.aggregate collection field a).predicate root))
      ⟨.word (functionAt root collection field a.function) :: (a.test.tokens ++ rest), more⟩
      ⟨rest, more⟩ := by
  obtain ⟨function, test⟩ := a
  have free : functionAt root collection field function ≠ "SUBQUERY" := fun h =>
    functionAt_not_mem_reserved root collection field function (h ▸ by decide)
  simp only [Leaf.predicate, ← pathSteps_functionAt]
  have path (tokens : List Token) : Reads
      (.expression (.path (pathSteps (functionAt root collection field function))))
      ⟨.word (functionAt root collection field function) :: tokens, more⟩ ⟨tokens, more⟩ :=
    .path (Input.startsWith_cons ..) free
  cases test with
  | above bound | below bound | equal bound =>
      exact .comparison (path _) (Input.startsWith_cons ..) rfl (.absent fun codes => rfl)
        (.number (Input.startsWith_cons ..))
  | between low high =>
      have first : Reads (.expression (.value (.ofDouble low.number)))
          ⟨.number low.number :: .comma :: .number high.number :: .closeBrace :: rest, more⟩
          ⟨.comma :: .number high.number :: .closeBrace :: rest, more⟩ :=
        .number (Input.startsWith_cons ..)
      have second : Reads (.expression (.value (.ofDouble high.number)))
          ⟨.number high.number :: .closeBrace :: rest, more⟩ ⟨.closeBrace :: rest, more⟩ :=
        .number (Input.startsWith_cons ..)
      exact .comparison (path _) (Input.startsWith_cons ..) rfl (.absent fun codes => rfl)
        (.list (Input.startsWith_cons ..) first
          (.item (Input.startsWith_cons ..) second (.lastItem rfl)) rfl)

/-- A word that no other condition begins with begins a comparison. -/
theorem reads_plain {p : Predicate} {text : String} {tokens : List Token} {arguments : List Json}
    {r : Input} (free : Token.word text ∉ Input.leads)
    (h : Reads (.comparison false p) ⟨.word text :: tokens, arguments⟩ r) :
    Reads (.primary p) ⟨.word text :: tokens, arguments⟩ r := by
  refine .plain (fun token ht => ?_) h
  refine Input.after?_of_startsWith_ne (Input.startsWith_cons ..) ?_
  rintro rfl
  exact free ht

theorem not_mem_leads {text : String} (free : text ∉ reserved) : Token.word text ∉ Input.leads := by
  intro h
  refine free ?_
  simp only [Input.leads, List.mem_cons, List.not_mem_nil, or_false, reduceCtorEq, false_or,
    Token.word.injEq] at h
  rcases h with rfl | rfl | rfl <;> decide

def Comparison.tokens (word : String) (c : Comparison) : List Token :=
  (if c.isAny then [.word "ANY"] else []) ++
    .word word :: ((Mark.operator c).tokens ++ c.operands.flatMap Piece.tokens)

/-- A comparison of a field is read as one, if the name of the field stands for nothing else. -/
theorem reads_comparison {word : String} (c : Comparison) (free : word ∉ reserved) :
    Reads (.primary (.compare c.isAny (.path (pathSteps word)) c.relation c.folding c.operand))
      ⟨c.tokens word ++ rest, Argument.toJsonItems c.arguments ++ more⟩ ⟨rest, more⟩ := by
  have name : word ≠ "SUBQUERY" := by
    rintro rfl
    exact free (by decide)
  have read := reads_compare rest more c.isAny c name
  cases hc : c.isAny with
  | true =>
      rw [hc] at read
      have read := Reads.any (Input.startsWith_cons (.word "ANY") _ _) read
      simpa [Comparison.tokens, hc, Mark.tokens] using read
  | false =>
      rw [hc] at read
      simpa [Comparison.tokens, hc, Mark.tokens] using reads_plain (not_mem_leads free) read

theorem tokens_compare (root : Root) (path : String) (c : Comparison) :
    ((Leaf.compare path c).outline root).flatMap Piece.tokens = c.tokens (fieldAt root path) := by
  rw [Leaf.outline, Comparison.tokens]
  split <;> rfl

/-- The tokens of a leaf are read as its predicate, whatever follows. -/
theorem reads_leaf (root : Root) {l : Leaf} (proper : ∀ path ∈ l.paths, isProper path) :
    Reads (.primary (l.predicate root))
      ⟨(l.outline root).flatMap Piece.tokens ++ rest, Argument.toJsonItems l.arguments ++ more⟩
      ⟨rest, more⟩ := by
  cases l with
  | constant b =>
      cases b with
      | true => exact .always (Input.startsWith_cons ..)
      | false => exact .never (Input.startsWith_cons ..)
  | aggregate collection field a =>
      have read := reads_aggregate rest more root collection field a
      have free := not_mem_leads (functionAt_not_mem_reserved root collection field a.function)
      simpa [Leaf.outline, Piece.tokens, Mark.tokens, Leaf.arguments, Argument.toJsonItems]
        using reads_plain free read
  | compare path comparison =>
      have proper : isProper path := proper path List.mem_cons_self
      have read := reads_comparison rest more comparison (fieldAt_not_mem_reserved root proper)
      rw [pathSteps_fieldAt] at read
      rw [tokens_compare]
      exact read

end Leaf

/-! ### The tokens of a formula -/

namespace Formula

open Input (Reads)

/-- The tokens of a formula are read as its predicate, whatever follows. -/
def IsRead (root : Root) (f : Formula) : Prop :=
  ∀ rest more, Reads (.primary (f.predicate root))
    ⟨f.tokens root ++ rest, Argument.toJsonItems f.arguments ++ more⟩ ⟨rest, more⟩

def tokensOthers (root : Root) (connective : Connective) (others : List Formula) : List Token :=
  (outlineOthers root connective others).flatMap Piece.tokens

theorem tokensOthers_cons (root : Root) (connective : Connective) (f : Formula)
    (others : List Formula) :
    tokensOthers root connective (f :: others) =
      .word connective.keyword :: (f.tokens root ++ tokensOthers root connective others) := by
  simp [tokensOthers, outlineOthers, tokens, Piece.tokens, Mark.tokens]

/-- Behind a condition, further ones under the same connective are read up to the parenthesis. -/
theorem reads_conjuncts {root : Root} {others : List Formula} (h : ∀ f ∈ others, f.IsRead root)
    (left : Predicate) (rest : List Token) (more : List Json) :
    Reads (.conjuncts left ((predicates root others).foldl .and left))
      ⟨tokensOthers root .and others ++ .closeParen :: rest,
        Argument.toJsonItems (others.flatMap arguments) ++ more⟩
      ⟨.closeParen :: rest, more⟩ := by
  induction others generalizing left with
  | nil => exact .lastConjunct rfl
  | cons f others ih =>
      rw [tokensOthers_cons, List.flatMap_cons, toJsonItems_append, List.append_assoc,
        List.cons_append, List.append_assoc]
      exact .conjunct (Input.startsWith_cons ..) (h f List.mem_cons_self _ _)
        (ih (fun g hg => h g (List.mem_cons_of_mem f hg)) _)

/-- What stands behind an alternative is no further conjunct. -/
theorem after?_and_eq_none (root : Root) (others : List Formula) (rest : List Token)
    (arguments : List Json) :
    Input.after? (.word "AND") ⟨tokensOthers root .or others ++ .closeParen :: rest, arguments⟩ =
      none := by
  cases others with
  | nil => rfl
  | cons f others =>
      rw [tokensOthers_cons]
      rfl

theorem reads_alternatives {root : Root} {others : List Formula} (h : ∀ f ∈ others, f.IsRead root)
    (left : Predicate) (rest : List Token) (more : List Json) :
    Reads (.alternatives left ((predicates root others).foldl .or left))
      ⟨tokensOthers root .or others ++ .closeParen :: rest,
        Argument.toJsonItems (others.flatMap arguments) ++ more⟩
      ⟨.closeParen :: rest, more⟩ := by
  induction others generalizing left with
  | nil => exact .lastAlternative rfl
  | cons f others ih =>
      rw [tokensOthers_cons, List.flatMap_cons, toJsonItems_append, List.append_assoc,
        List.cons_append, List.append_assoc]
      -- An alternative is a conjunction of its own, which ends where the next one begins.
      have next (arguments : List Json) := Reads.conjunction (h f List.mem_cons_self _ arguments)
        (.lastConjunct (after?_and_eq_none root others rest arguments))
      exact .alternative (Input.startsWith_cons ..) (next _)
        (ih (fun g hg => h g (List.mem_cons_of_mem f hg)) _)

/-- The conditions of a junction are read up to its closing parenthesis. -/
theorem reads_conditions {root : Root} {first : Formula} {others : List Formula}
    (connective : Connective) (hf : first.IsRead root) (ho : ∀ f ∈ others, f.IsRead root)
    (rest : List Token) (more : List Json) :
    Reads (.predicate ((predicates root others).foldl connective.predicate (first.predicate root)))
      ⟨first.tokens root ++ (tokensOthers root connective others ++ .closeParen :: rest),
        Argument.toJsonItems first.arguments ++
          (Argument.toJsonItems (others.flatMap arguments) ++ more)⟩
      ⟨.closeParen :: rest, more⟩ := by
  cases connective with
  | and =>
      exact .predicate (.conjunction (hf _ _) (reads_conjuncts ho _ rest more))
        (.lastAlternative rfl)
  | or =>
      exact .predicate
        (.conjunction (hf _ _) (.lastConjunct (after?_and_eq_none root others rest _)))
        (reads_alternatives ho _ rest more)

/-- The operator before the number that the items that were kept are compared with. -/
def countSign : Quantifier → Token
  | .any => .operator ">"
  | .all => .operator "=="
  | .none => .operator "=="

def countTotal (root : Root) (collection : String) : Quantifier → Token
  | .any => .number (.ofRank false 0)
  | .all => .word (fieldAt root collection ++ ".@count")
  | .none => .number (.ofRank false 0)

theorem tokens_count (root : Root) (quantifier : Quantifier) (collection : String) :
    (quantifier.outline root collection).flatMap Piece.tokens =
      [.word ".@count", countSign quantifier, countTotal root collection quantifier] := by
  cases quantifier <;> rfl

theorem relationOf_countSign (quantifier : Quantifier) :
    Input.relationOf (countSign quantifier) = .ok quantifier.relation := by
  cases quantifier <;> rfl

theorem reads_countTotal (root : Root) (quantifier : Quantifier) (collection : String)
    (rest : List Token) (more : List Json) :
    Reads (.expression (quantifier.total root collection))
      ⟨countTotal root collection quantifier :: rest, more⟩ ⟨rest, more⟩ := by
  cases quantifier with
  | any | none => exact .number (Input.startsWith_cons ..)
  | all =>
      have free : fieldAt root collection ++ ".@count" ≠ "SUBQUERY" := fun h =>
        total_not_mem_reserved root collection (h ▸ by decide)
      rw [Quantifier.total, ← pathSteps_total]
      exact .path (Input.startsWith_cons ..) free

theorem after?_countTotal (root : Root) (quantifier : Quantifier) (collection codes : String)
    (rest : List Token) (more : List Json) :
    Input.after? (.options codes) ⟨countTotal root collection quantifier :: rest, more⟩ = none := by
  cases quantifier <;> rfl

/-- The tokens of a formula of proper paths are read as its predicate, whatever follows. -/
theorem isRead {f : Formula} (proper : ∀ path ∈ f.paths, isProper path) (root : Root) :
    f.IsRead root := by
  induction f generalizing root with
  | leaf l =>
      intro rest more
      simpa [tokens, outline, predicate] using reads_leaf rest more root proper
  | junction connective first others ihf iho =>
      obtain ⟨front, behind⟩ := forall_mem_paths_junction.mp proper
      intro rest more
      have conditions := reads_conditions connective (ihf front root)
        (fun g hg => iho g hg (behind g hg) root) rest more
      have whole := Reads.parentheses (Input.startsWith_cons .openParen _ _) conditions
        (Input.startsWith_cons .closeParen _ _)
      simpa [tokens, outline, tokensOthers, predicate, Piece.tokens, Mark.tokens,
        toJsonItems_append] using whole
  | subquery quantifier collection inner ih =>
      simp only [paths, List.mem_cons, forall_eq_or_imp] at proper
      intro rest more
      have body := ih proper.2 (some inner.height)
        (.closeParen :: .word ".@count" :: countSign quantifier ::
          countTotal root collection quantifier :: rest) more
      -- A body has no parentheses of its own; the parenthesis behind it ends its alternatives.
      have inside := Reads.predicate (.conjunction body (.lastConjunct rfl)) (.lastAlternative rfl)
      have kept := Reads.subquery (Input.startsWith_cons (.word "SUBQUERY") _ _)
        (Input.startsWith_cons ..) (Input.startsWith_cons (.word (fieldAt root collection)) _ _)
        (Input.startsWith_cons ..)
        (Input.startsWith_cons (.word (Subquery.itemNameAt inner.height)) _ _)
        (by rw [toList_itemNameAt]; rfl) (Input.startsWith_cons ..) inside
        (Input.startsWith_cons ..) (.path (Input.startsWith_cons (.word ".@count") _ _) rfl)
      have whole : Reads (.comparison false _) _ ⟨rest, more⟩ :=
        .comparison kept (Input.startsWith_cons ..) (relationOf_countSign quantifier)
          (.absent fun codes => after?_countTotal root quantifier collection codes rest more)
          (reads_countTotal root quantifier collection rest more)
      rw [pathSteps_fieldAt] at whole
      have plain := reads_plain (by decide) whole
      have count : pathSteps "@count" = ["@count"] := pathSteps_of_not_mem (by decide)
      simpa [tokens, outline, tokens_count, Piece.tokens, predicate, count] using plain

/-- Tokens that are read as one condition, up to the last of them, are read as a predicate. -/
theorem readPredicate_of_reads {p : Predicate} {tokens : List Token} {arguments : List Json}
    (primary : Reads (.primary p) ⟨tokens, arguments⟩ ⟨[], []⟩) :
    ∃ h, Input.readPredicate ⟨tokens, arguments⟩ = .ok (p, ⟨⟨[], []⟩, h⟩) :=
  Input.returns_of_reads (Reads.predicate (.conjunction primary (.lastConjunct rfl))
    (.lastAlternative rfl))

/-- All tokens and all arguments of a formula are used for its predicate. -/
theorem readPredicate_tokens {f : Formula} (proper : ∀ path ∈ f.paths, isProper path) :
    ∃ h, Input.readPredicate ⟨f.tokens none, Argument.toJsonItems f.arguments⟩ =
      .ok (f.predicate none, ⟨⟨[], []⟩, h⟩) := by
  have primary := isRead proper none [] []
  rw [List.append_nil, List.append_nil] at primary
  exact readPredicate_of_reads primary

theorem ofText_outline {f : Formula} (proper : ∀ path ∈ f.paths, isProper path)
    (finite : ∀ l ∈ f.leaves, l.isFinite) :
    Predicate.ofText (Piece.textOfAll (f.outline none)) f.arguments = .ok (f.predicate none) := by
  obtain ⟨h, read⟩ := readPredicate_tokens proper
  rw [Predicate.ofText, scanAll_outline proper finite]
  simp [Predicate.ofTokens, read]

end Formula

/-- A template of proper paths is read as the predicate of its formula. -/
theorem Template.Writes.ofText {t : Template} {f : Formula} (h : t.Writes f)
    (proper : ∀ path ∈ f.paths, isProper path) :
    Predicate.ofText t.render t.arguments = .ok (f.predicate none) := by
  have text : t.render = Piece.textOfAll (f.outline none) := h.text none
  rw [text, h.arguments, Formula.ofText_outline proper h.finite]

end Winnow
