import Mathlib.Data.List.Chain
import Winnow.Proofs.Formula.Paths
import Winnow.Proofs.Formula.Building

/-!
The tokens of a formula. No piece of a formula runs on into the next one, so a reader finds the
tokens of the pieces one after another.
-/

namespace Winnow

open Token (scanAll closers opens Apart)

namespace Quantity

/-- The decimal that a number is written as; nothing is written for one that is not finite. -/
def decimal : Quantity → Decimal
  | integer n => ⟨n < 0, n.natAbs, 0⟩
  | single (.finite x) => x.toDecimal
  | double (.finite x) => x.toDecimal
  | _ => ⟨false, 0, 0⟩

def number (q : Quantity) : Double := q.decimal.toBinary .double

theorem toList_toString (n : Int) :
    (toString n).toList = Layout.plain.write ⟨n < 0, n.natAbs, 0⟩ := by
  rw [Numeral.toList_toString, Decimal.write_plain, Decimal.numeral_integer]
  simp [Numeral.text, Numeral.ofInt, Numeral.exponentText]

theorem toList_literal {q : Quantity} (h : q.isFinite) :
    ∃ text, AggregateTest.literal q = .ok text ∧ text.toList = Layout.plain.write q.decimal := by
  cases q with
  | integer n => exact ⟨toString n, rfl, toList_toString n⟩
  | single x | double x =>
      cases x with
      | finite x => exact ⟨_, rfl, String.toList_ofList⟩
      | _ => cases h

end Quantity

def Comparison.operator : Comparison → Token
  | matching .anyEqual _ _ => .operator "="
  | matching .equal _ _ => .operator "="
  | matching .notEqual _ _ => .operator "!="
  | matching .contains _ _ => .word "CONTAINS"
  | matching .beginsWith _ _ => .word "BEGINSWITH"
  | matching .endsWith _ _ => .word "ENDSWITH"
  | member _ _ => .word "IN"
  | between _ _ => .word "BETWEEN"
  | ordered .above _ => .operator ">"
  | ordered .below _ => .operator "<"

def Modifiers.tokens (m : Modifiers) : List Token :=
  if m.isEmpty then [] else [.options (String.ofList (m.toList.map Modifier.code))]

def AggregateTest.tokens : AggregateTest → List Token
  | above bound => [.operator ">", .number bound.number]
  | below bound => [.operator "<", .number bound.number]
  | equal value => [.operator "==", .number value.number]
  | between low high =>
    [.word "BETWEEN", .openBrace, .number low.number, .comma, .number high.number, .closeBrace]

namespace Mark

def tokens : Mark → List Token
  | opening => [.openParen]
  | closing => [.closeParen]
  | separator connective => [.word connective.keyword]
  | constant b => [.word (if b then truePredicate else falsePredicate)]
  | any => [.word "ANY"]
  | operator comparison =>
    comparison.operator :: (comparison.modifiers?.map Modifiers.tokens).getD []
  | listOpening => [.openBrace]
  | comma => [.comma]
  | listClosing => [.closeBrace]
  | bounds test => test.tokens
  | count .any => [.word ".@count", .operator ">", .number (.ofRank false 0)]
  | count .all => [.word ".@count", .operator "=="]
  | count .none => [.word ".@count", .operator "==", .number (.ofRank false 0)]

/-- The text of a mark ends a token of its own. -/
def closes : Mark → Bool
  | constant _ => false
  | bounds _ => false
  | count .all => true
  | count _ => false
  | _ => true

/-- The text of a mark begins with a character that ends every token before it. -/
def opens : Mark → Bool
  | constant _ => false
  | any => false
  | count _ => false
  | _ => true

end Mark

namespace Piece

def tokens : Piece → List Token
  | mark m => m.tokens
  | name s => [.word s]
  | slot _ => [.placeholder]
  | enter collection item =>
    [.word "SUBQUERY", .openParen, .word collection, .comma, .word (Subquery.itemNameAt item),
      .comma]
  | leave => [.closeParen]

def closes : Piece → Bool
  | mark m => m.closes
  | name _ => false
  | _ => true

def opens : Piece → Bool
  | mark m => m.opens
  | slot _ => true
  | leave => true
  | _ => false

/-- No piece runs on into the next one. -/
def Separated : List Piece → Prop := List.IsChain fun p q => p.closes ∨ q.opens

end Piece

/-! ### Pieces on their own -/

theorem scanAll_ok_append {a b : List Char} {s t : List Token} (ha : scanAll a = .ok s)
    (hb : scanAll b = .ok t) (apart : Apart a b) : scanAll (a ++ b) = .ok (s ++ t) := by
  rw [Token.scanAll_append_of_ok ha apart, hb]
  rfl

theorem scanAll_blank : scanAll " ".toList = .ok [] :=
  (Token.scanAll_space []).trans Token.scanAll_nil

/-- A word is scanned before what opens. -/
theorem scanAll_word_append {word : String} {b : List Char} {t : List Token} (h : IsWord word)
    (hb : scanAll b = .ok t) (opened : ∀ c ∈ b.head?, opens c) :
    scanAll (word.toList ++ b) = .ok (.word word :: t) :=
  scanAll_ok_append (scanAll_of_isWord h) hb (.inr opened)

theorem scanAll_blank_word {word : String} (h : IsWord word) :
    scanAll (" " ++ word).toList = .ok [.word word] := by
  rw [String.toList_append]
  exact (Token.scanAll_space _).trans (scanAll_of_isWord h)

theorem scanAll_zero : scanAll "0".toList = .ok [.number (.ofRank false 0)] :=
  Token.scanAll_write ⟨false, 0, 0⟩

theorem Modifiers.not_mem_codes (m : Modifiers) : ']' ∉ m.toList.map Modifier.code := by
  simp only [List.mem_map, not_exists, not_and]
  rintro modifier -
  cases modifier <;> decide

theorem scanAll_modifiers (m : Modifiers) : scanAll (m.encode ++ " ").toList = .ok m.tokens := by
  unfold Modifiers.encode Modifiers.tokens
  split
  · rw [String.empty_append]
    exact scanAll_blank
  · have text : (String.ofList ('[' :: m.toList.map Modifier.code ++ [']']) ++ " ").toList =
        '[' :: (m.toList.map Modifier.code ++ ']' :: [' ']) := by
      simp
    rw [text, Token.scanAll_options m.not_mem_codes, Token.scanAll_space, Token.scanAll_nil]
    rfl

theorem scanAll_keyword (comparison : Comparison) :
    scanAll (" " ++ comparison.keyword).toList = .ok [comparison.operator] := by
  cases comparison with
  | matching test _ _ =>
      cases test with
      | anyEqual | equal | notEqual => cbv
      | contains => exact scanAll_blank_word (by decide : IsWord "CONTAINS")
      | beginsWith => exact scanAll_blank_word (by decide : IsWord "BEGINSWITH")
      | endsWith => exact scanAll_blank_word (by decide : IsWord "ENDSWITH")
  | member _ _ => exact scanAll_blank_word (by decide : IsWord "IN")
  | between _ _ => exact scanAll_blank_word (by decide : IsWord "BETWEEN")
  | ordered side _ => cases side <;> cbv

theorem scanAll_operator (comparison : Comparison) :
    scanAll (Mark.operator comparison).text.toList = .ok (Mark.operator comparison).tokens := by
  have suffix : scanAll (comparison.suffix ++ " ").toList =
      .ok ((comparison.modifiers?.map Modifiers.tokens).getD []) := by
    unfold Comparison.suffix
    cases comparison.modifiers? with
    | none => exact scanAll_blank
    | some m => exact scanAll_modifiers m
  have apart : Apart (" " ++ comparison.keyword).toList (comparison.suffix ++ " ").toList := by
    refine .inr ?_
    unfold Comparison.suffix
    cases comparison.modifiers? with
    | none => simp; decide
    | some m =>
        simp only [Option.map_some, Option.getD_some, Modifiers.encode]
        split <;> simp <;> decide
  have whole := scanAll_ok_append (scanAll_keyword comparison) suffix apart
  rw [← String.toList_append] at whole
  simpa [Mark.text, Mark.tokens, String.append_assoc] using whole

/-- A number is scanned behind what closes. -/
theorem scanAll_append_literal (front : String) {s : List Token} {q : Quantity} (h : q.isFinite)
    (hf : scanAll front.toList = .ok s) (closed : ∀ c ∈ front.toList.getLast?, c ∈ closers) :
    ∃ text, AggregateTest.literal q = .ok text ∧
      scanAll (front ++ text).toList = .ok (s ++ [.number q.number]) := by
  obtain ⟨text, literal, write⟩ := Quantity.toList_literal h
  refine ⟨text, literal, ?_⟩
  rw [String.toList_append]
  refine scanAll_ok_append hf ?_ (.inl closed)
  rw [write]
  exact Token.scanAll_write q.decimal

theorem scanAll_bound (test : AggregateTest) {q : Quantity} {operator : Token} (sign : String)
    (h : q.isFinite) (text : test.text = do return sign ++ (← AggregateTest.literal q))
    (scanned : scanAll (" " ++ sign).toList = .ok [operator])
    (closed : ∀ c ∈ (" " ++ sign).toList.getLast?, c ∈ closers) :
    scanAll (Mark.bounds test).text.toList = .ok [operator, .number q.number] := by
  obtain ⟨number, literal, whole⟩ := scanAll_append_literal (" " ++ sign) h scanned closed
  rw [String.append_assoc] at whole
  rw [Mark.text, AggregateTest.written, text, literal]
  exact whole

/-- The numbers of a test are scanned as the numbers that they are written for. -/
theorem scanAll_bounds {test : AggregateTest} (h : test.isFinite) :
    scanAll (Mark.bounds test).text.toList = .ok test.tokens := by
  cases test with
  | above bound => exact scanAll_bound (.above bound) "> " h rfl (by cbv) (by simp [closers])
  | below bound => exact scanAll_bound (.below bound) "< " h rfl (by cbv) (by simp [closers])
  | equal bound => exact scanAll_bound (.equal bound) "== " h rfl (by cbv) (by simp [closers])
  | between low high =>
      simp only [AggregateTest.isFinite, Bool.and_eq_true] at h
      have front : scanAll " BETWEEN \x7b ".toList = .ok [.word "BETWEEN", .openBrace] :=
        scanAll_ok_append (scanAll_blank_word (by decide : IsWord "BETWEEN"))
          (by cbv : scanAll " \x7b ".toList = .ok [.openBrace]) (.inr (by simp; decide))
      obtain ⟨textLow, literalLow, scannedLow⟩ :=
        scanAll_append_literal " BETWEEN \x7b " h.1 front (by simp [closers])
      obtain ⟨textHigh, literalHigh, scannedHigh⟩ :=
        scanAll_append_literal ", " h.2 (by cbv) (by simp [closers])
      rw [Mark.text, AggregateTest.written, AggregateTest.text, literalLow, literalHigh]
      change scanAll
        (" " ++ ("BETWEEN \x7b " ++ textLow ++ ", " ++ textHigh ++ " \x7d")).toList = _
      have closing : scanAll " \x7d".toList = .ok [.closeBrace] := by cbv
      have behind := scanAll_ok_append scannedHigh closing (.inr (by simp; decide))
      have whole := scanAll_ok_append scannedLow behind (.inr (by simp; decide))
      simp only [← String.toList_append, ← String.append_assoc] at whole ⊢
      exact whole

theorem scanAll_mark {m : Mark} (h : ∀ test, m = .bounds test → test.isFinite) :
    scanAll m.text.toList = .ok m.tokens := by
  cases m with
  | separator connective =>
      have word : IsWord connective.keyword := by cases connective <;> decide
      have whole := scanAll_ok_append (scanAll_blank_word word) scanAll_blank
        (.inr (by simp; decide))
      rwa [← String.toList_append] at whole
  | constant b => cases b <;> exact scanAll_of_isWord (by decide)
  | any => exact scanAll_word_append (by decide : IsWord "ANY") scanAll_blank (by simp; decide)
  | operator comparison => exact scanAll_operator comparison
  | bounds test => exact scanAll_bounds (h test rfl)
  | count quantifier =>
      have word : IsWord ".@count" := by decide
      cases quantifier with
      | all =>
          exact scanAll_word_append word (by cbv : scanAll " == ".toList = .ok [.operator "=="])
            (by simp; decide)
      | any =>
          have front : scanAll ".@count > ".toList = .ok [.word ".@count", .operator ">"] :=
            scanAll_word_append word (by cbv : scanAll " > ".toList = .ok [.operator ">"])
              (by simp; decide)
          exact scanAll_ok_append front scanAll_zero (.inl (by simp [closers]))
      | none =>
          have front : scanAll ".@count == ".toList = .ok [.word ".@count", .operator "=="] :=
            scanAll_word_append word (by cbv : scanAll " == ".toList = .ok [.operator "=="])
              (by simp; decide)
          exact scanAll_ok_append front scanAll_zero (.inl (by simp [closers]))
  | _ => cbv

theorem scanAll_opening : scanAll "SUBQUERY(".toList = .ok [.word "SUBQUERY", .openParen] :=
  scanAll_word_append (by decide : IsWord "SUBQUERY")
    (by cbv : scanAll "(".toList = .ok [.openParen]) (by simp; decide)

/-- The front of a subquery is scanned around its collection. -/
theorem scanAll_enter {collection : String} (item : Nat)
    (h : scanAll collection.toList ≠ .error .unterminatedOptions) :
    scanAll (Piece.enter collection item).text.toList =
      (scanAll collection.toList).map fun tokens =>
        [.word "SUBQUERY", .openParen] ++ (tokens ++
          [.comma, .word (Subquery.itemNameAt item), .comma]) := by
  have comma : scanAll ", ".toList = .ok [.comma] := by cbv
  have bound := scanAll_of_isWord (isWord_itemNameAt item)
  have opened (more : List Char) : ∀ c ∈ (", ".toList ++ more).head?, opens c := by
    rintro c ⟨⟩
    decide
  have closed : ∀ c ∈ ", ".toList.getLast?, c ∈ closers := by simp [closers]
  have behind := scanAll_ok_append comma (scanAll_ok_append bound comma (.inr (opened [])))
    (.inl closed)
  have text : (Piece.enter collection item).text.toList = "SUBQUERY(".toList ++
      (collection.toList ++
        (", ".toList ++ ((Subquery.itemNameAt item).toList ++ ", ".toList))) := by
    simp [Piece.text]
  rw [text, Token.scanAll_append_of_ok scanAll_opening (.inl (by simp [closers])),
    Token.scanAll_append (.inr (opened _)) h, behind]
  cases scanAll collection.toList <;> rfl

theorem scanAll_piece_enter {collection : String} (item : Nat) (h : IsWord collection) :
    scanAll (Piece.enter collection item).text.toList =
      .ok (Piece.enter collection item).tokens := by
  have collection := scanAll_of_isWord h
  rw [scanAll_enter item (by simp [collection]), collection]
  rfl

theorem ne_of_mem_keyword (comparison : Comparison) :
    ∀ c ∈ (" " ++ comparison.keyword).toList, c ≠ '?' ∧ c ≠ '$' := by
  cases comparison with
  | matching test _ _ => cases test <;> simp [Comparison.keyword, MatchTest.keyword]
  | ordered side _ => cases side <;> simp [Comparison.keyword, Side.keyword]
  | _ => simp [Comparison.keyword]

theorem ne_of_mem_suffix (comparison : Comparison) :
    ∀ c ∈ comparison.suffix.toList, c ≠ '?' ∧ c ≠ '$' := by
  unfold Comparison.suffix
  cases comparison.modifiers? with
  | none => simp
  | some m =>
      simp only [Option.map_some, Option.getD_some, Modifiers.encode]
      split
      · simp
      · intro c hc
        simp only [String.toList_ofList, List.cons_append, List.mem_cons, List.mem_append,
          List.mem_map, List.not_mem_nil, or_false] at hc
        rcases hc with rfl | ⟨modifier, -, rfl⟩ | rfl
        · decide
        · cases modifier <;> decide
        · decide

theorem ne_of_mem_literal {q : Quantity} (h : q.isFinite) :
    ∃ text, AggregateTest.literal q = .ok text ∧ ∀ c ∈ text.toList, c ≠ '?' ∧ c ≠ '$' := by
  obtain ⟨text, literal, write⟩ := Quantity.toList_literal h
  refine ⟨text, literal, fun c hc => ?_⟩
  rw [write, Decimal.write_plain] at hc
  have part := Token.isNumberPart_of_mem_plainText q.decimal.numeral_isPlain hc
  constructor <;> rintro rfl <;> exact absurd part (by decide)

theorem ne_of_mem_bounds {test : AggregateTest} (h : test.isFinite) :
    ∀ c ∈ test.written.toList, c ≠ '?' ∧ c ≠ '$' := by
  cases test with
  | above bound | below bound | equal bound =>
      obtain ⟨text, literal, plain⟩ := ne_of_mem_literal h
      rw [AggregateTest.written, AggregateTest.text, literal]
      change ∀ c ∈ (_ ++ text).toList, _
      rw [String.toList_append]
      exact List.forall_mem_append.mpr ⟨by simp, plain⟩
  | between low high =>
      simp only [AggregateTest.isFinite, Bool.and_eq_true] at h
      obtain ⟨textLow, literalLow, plainLow⟩ := ne_of_mem_literal h.1
      obtain ⟨textHigh, literalHigh, plainHigh⟩ := ne_of_mem_literal h.2
      rw [AggregateTest.written, AggregateTest.text, literalLow, literalHigh]
      change ∀ c ∈ ("BETWEEN \x7b " ++ textLow ++ ", " ++ textHigh ++ " \x7d").toList, _
      simp only [String.toList_append, List.forall_mem_append]
      exact ⟨⟨⟨⟨by simp, plainLow⟩, by simp⟩, plainHigh⟩, by simp⟩

/-- No mark has the character of a placeholder or of a variable. -/
theorem ne_of_mem_mark {m : Mark} (finite : ∀ test, m = .bounds test → test.isFinite) :
    ∀ c ∈ m.text.toList, c ≠ '?' ∧ c ≠ '$' := by
  cases m with
  | separator connective =>
      cases connective <;> simp [Mark.text, Connective.separator, Connective.keyword]
  | constant b => cases b <;> simp [Mark.text, truePredicate, falsePredicate]
  | count quantifier => cases quantifier <;> simp [Mark.text]
  | operator comparison =>
      rw [Mark.text, String.toList_append, String.toList_append]
      exact List.forall_mem_append.mpr ⟨List.forall_mem_append.mpr
        ⟨ne_of_mem_keyword comparison, ne_of_mem_suffix comparison⟩, by simp⟩
  | bounds test =>
      rw [Mark.text, String.toList_append]
      exact List.forall_mem_append.mpr ⟨by simp, ne_of_mem_bounds (finite test rfl)⟩
  | _ => simp [Mark.text]

/-! ### Pieces in a row -/

namespace Piece

theorem Separated.cons {p : Piece} {rest : List Piece} (hp : p.closes) (h : Separated rest) :
    Separated (p :: rest) :=
  List.isChain_cons.mpr ⟨fun _ _ => .inl hp, h⟩

theorem Separated.append {pieces more : List Piece} (h : Separated pieces) (hm : Separated more)
    (opened : ∀ q ∈ more.head?, q.opens) : Separated (pieces ++ more) :=
  List.isChain_append.mpr ⟨h, hm, fun _ _ q hq => .inr (opened q hq)⟩

theorem separated_operands (comparison : Comparison) : Separated comparison.operands := by
  cases comparison with
  | between low high =>
      exact Separated.cons rfl (Separated.cons rfl (Separated.cons rfl
        (Separated.cons rfl (.singleton _))))
  | _ => exact .singleton _

theorem separated_outline_leaf (root : Root) (l : Leaf) : Separated (l.outline root) := by
  cases l with
  | constant b => exact .singleton _
  | aggregate collection field a => exact .cons_cons (.inr rfl) (.singleton _)
  | compare path comparison =>
      have behind : Separated (.name (fieldAt root path) ::
          .mark (.operator comparison) :: comparison.operands) :=
        .cons_cons (.inr rfl) (Separated.cons rfl (separated_operands comparison))
      cases hc : comparison.isAny with
      | true =>
          have whole : Separated (.mark .any :: _) := Separated.cons rfl behind
          simpa [Leaf.outline, hc] using whole
      | false => simpa [Leaf.outline, hc] using behind

theorem separated_countOutline (root : Root) (quantifier : Quantifier) (collection : String) :
    Separated (quantifier.outline root collection) := by
  cases quantifier with
  | all => exact Separated.cons rfl (.singleton _)
  | _ => exact .singleton _

theorem separated_outlineOthers {root : Root} {others : List Formula} (connective : Connective)
    (h : ∀ f ∈ others, Separated (f.outline root)) :
    Separated (Formula.outlineOthers root connective others ++ [.mark .closing]) ∧
      ∀ q ∈ (Formula.outlineOthers root connective others ++ [Piece.mark .closing]).head?,
        q.opens := by
  induction others with
  | nil =>
      refine ⟨.singleton _, ?_⟩
      rintro q ⟨⟩
      rfl
  | cons f rest ih =>
      have ih := ih fun g hg => h g (List.mem_cons_of_mem f hg)
      have hf := h f List.mem_cons_self
      refine ⟨?_, ?_⟩
      · have whole := Separated.cons (p := .mark (.separator connective)) rfl (hf.append ih.1 ih.2)
        simpa [Formula.outlineOthers] using whole
      · rintro q ⟨⟩
        rfl

/-- The pieces of a formula do not run on into one another. -/
theorem separated_outline (root : Root) (f : Formula) : Separated (f.outline root) := by
  induction f generalizing root with
  | leaf l => exact separated_outline_leaf root l
  | junction connective first others ihf iho =>
      have behind := separated_outlineOthers connective fun f hf => iho f hf root
      have whole := Separated.cons (p := .mark .opening) rfl ((ihf root).append behind.1 behind.2)
      simpa [Formula.outline] using whole
  | subquery quantifier collection inner ih =>
      have count := Separated.cons (p := .leave) rfl
        (separated_countOutline root quantifier collection)
      refine Separated.cons rfl ((ih (some inner.height)).append count ?_)
      rintro q ⟨⟩
      rfl

theorem closers_of_closes {p : Piece} (h : p.closes) :
    ∀ c ∈ p.text.toList.getLast?, c ∈ closers := by
  have blank (front : String) : ∀ c ∈ (front ++ " ").toList.getLast?, c ∈ closers := by
    rw [String.toList_append, List.getLast?_append]
    rintro c ⟨⟩
    decide
  have comma (front : String) : ∀ c ∈ (front ++ ", ").toList.getLast?, c ∈ closers := by
    rw [String.toList_append, List.getLast?_append]
    rintro c ⟨⟩
    decide
  cases p with
  | name s => cases h
  | slot argument => simp [text, closers]
  | leave => simp [text, closers]
  | enter collection item => exact comma _
  | mark m =>
      cases m with
      | constant b => cases h
      | bounds test => cases h
      | operator comparison => exact blank _
      | separator connective => exact blank _
      | count quantifier =>
          cases quantifier with
          | all => simp [text, Mark.text, closers]
          | any | none => cases h
      | _ => simp [text, Mark.text, closers]

theorem exists_opens_of_opens {p : Piece} (h : p.opens) :
    ∃ c ∈ p.text.toList.head?, Token.opens c := by
  have blank (more : String) : ∃ c ∈ (" " ++ more).toList.head?, Token.opens c := by
    rw [String.toList_append]
    exact ⟨' ', rfl, by decide⟩
  cases p with
  | name s => cases h
  | enter collection item => cases h
  | slot argument => exact ⟨'?', (by decide : '?' ∈ "?".toList.head?), by decide⟩
  | leave => exact ⟨')', by decide, by decide⟩
  | mark m =>
      cases m with
      | opening => exact ⟨'(', by decide, by decide⟩
      | closing => exact ⟨')', by decide, by decide⟩
      | separator connective => exact ⟨' ', by cases connective <;> decide, by decide⟩
      | operator comparison =>
          simp only [text, Mark.text, String.append_assoc]
          exact blank _
      | listOpening => exact ⟨'{', by decide, by decide⟩
      | comma => exact ⟨',', by decide, by decide⟩
      | listClosing => exact ⟨' ', by decide, by decide⟩
      | bounds test => exact blank _
      | constant b => cases h
      | any => cases h
      | count quantifier => cases h

theorem apart_of_separated {p : Piece} {rest : List Piece} (h : Separated (p :: rest)) :
    Apart p.text.toList (textOfAll rest).toList := by
  cases rest with
  | nil => exact .inr (by simp)
  | cons q rest =>
      rcases (List.isChain_cons_cons.mp h).1 with hp | hq
      · exact .inl (closers_of_closes hp)
      · refine .inr ?_
        obtain ⟨c, hc, opened⟩ := exists_opens_of_opens hq
        rw [textOfAll_cons, String.toList_append, List.head?_append, hc]
        rintro d ⟨⟩
        exact opened

/-- The tokens of pieces that are scanned one by one. -/
def scanEach : List Piece → Except QueryFault (List Token)
  | [] => .ok []
  | p :: rest => (scanAll p.text.toList).bind fun tokens => (scanEach rest).map (tokens ++ ·)

/-- Pieces in a row are scanned one by one. -/
theorem scanAll_textOfAll {pieces : List Piece} (h : Separated pieces)
    (closed : ∀ p ∈ pieces, scanAll p.text.toList ≠ .error .unterminatedOptions) :
    scanAll (textOfAll pieces).toList = scanEach pieces := by
  induction pieces with
  | nil => exact Token.scanAll_nil
  | cons p rest ih =>
      have ih := ih (List.IsChain.of_cons h) fun q hq => closed q (List.mem_cons_of_mem p hq)
      rw [textOfAll_cons, String.toList_append,
        Token.scanAll_append (apart_of_separated h) (closed p List.mem_cons_self), ih]
      rfl

theorem scanEach_of_ok {pieces : List Piece} {found : Piece → List Token}
    (h : ∀ p ∈ pieces, scanAll p.text.toList = .ok (found p)) :
    scanEach pieces = .ok (pieces.flatMap found) := by
  induction pieces with
  | nil => rfl
  | cons p rest ih =>
      rw [scanEach, h p List.mem_cons_self, ih fun q hq => h q (List.mem_cons_of_mem p hq)]
      rfl

/-- The tokens of pieces in a row are the tokens that are found in the pieces. -/
theorem scanAll_textOfAll_of_ok {pieces : List Piece} {found : Piece → List Token}
    (h : Separated pieces) (each : ∀ p ∈ pieces, scanAll p.text.toList = .ok (found p)) :
    scanAll (textOfAll pieces).toList = .ok (pieces.flatMap found) := by
  rw [scanAll_textOfAll h fun p hp => by simp [each p hp], scanEach_of_ok each]

end Piece

namespace Formula

def tokens (root : Root) (f : Formula) : List Token := (f.outline root).flatMap Piece.tokens

/-- Every piece that is made of proper paths has its tokens. -/
theorem scanAll_piece {p : Piece} (h : p.IsMade (isProper ·)) :
    scanAll p.text.toList = .ok p.tokens := by
  cases h with
  | mark m finite => exact scanAll_mark finite
  | slot argument => cbv
  | leave => cbv
  | field root path proper => exact scanAll_of_isWord (isWord_fieldAt root proper)
  | total root path proper =>
      exact scanAll_of_isWord ((isWord_fieldAt root proper).append isWordPart_total)
  | function root collection field a hc hf =>
      exact scanAll_of_isWord (isWord_functionAt root a hc (isPath_of_isProper hf))
  | enter root path item proper => exact scanAll_piece_enter item (isWord_fieldAt root proper)

theorem scanAll_outline {root : Root} {f : Formula} (proper : ∀ path ∈ f.paths, isProper path)
    (finite : ∀ l ∈ f.leaves, l.isFinite) :
    scanAll (Piece.textOfAll (f.outline root)).toList = .ok (f.tokens root) :=
  Piece.scanAll_textOfAll_of_ok (Piece.separated_outline root f) fun p hp =>
    scanAll_piece (isMade_outline root proper finite p hp)

end Formula

end Winnow
