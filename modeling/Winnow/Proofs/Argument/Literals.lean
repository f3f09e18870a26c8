import Winnow.Argument.Basic
import Winnow.Proofs.Number.Layout

/-!
Literals of arguments can be told apart. What kind of argument a literal is shows in its first
character, and where it ends shows in the text after it, so from a text that begins with a literal
the argument and the rest are known.
-/

namespace Winnow

/-! ### Texts in quotation marks -/

namespace Text

variable {c d : Char} {s t rest more : List Char}

/-- A character that is escaped begins with a backslash, and the others are as they stand. -/
theorem escapeMark_cases (c : Char) :
    (c = '"' ∨ c = '\\') ∧ escapeMark c = ['\\', c] ∨
      (c ≠ '"' ∧ c ≠ '\\') ∧ escapeMark c = [c] := by
  rw [escapeMark]
  by_cases h : c = '"' ∨ c = '\\'
  · exact .inl ⟨h, if_pos h⟩
  · exact .inr ⟨not_or.mp h, if_neg h⟩

/-- An escaped character is known from a text that begins with it. -/
theorem escapeMark_append (h : escapeMark c ++ rest = escapeMark d ++ more) :
    c = d ∧ rest = more := by
  rcases escapeMark_cases c with ⟨-, hc⟩ | ⟨plain, hc⟩ <;>
    rcases escapeMark_cases d with ⟨-, hd⟩ | ⟨plain', hd⟩ <;>
    rw [hc, hd] at h <;> simp at h
  · exact h
  · exact absurd h.1.symm plain'.2
  · exact absurd h.1 plain.2
  · exact h

theorem escapeMark_append_ne_quote : escapeMark c ++ rest ≠ '"' :: more := by
  rcases escapeMark_cases c with ⟨_, hc⟩ | ⟨plain, hc⟩ <;> simp_all

/-- A text ends at the first quotation mark that is not escaped. -/
theorem flatMap_escapeMark_append
    (h : s.flatMap escapeMark ++ '"' :: rest = t.flatMap escapeMark ++ '"' :: more) :
    s = t ∧ rest = more := by
  induction s generalizing t with
  | nil =>
      cases t with
      | nil => exact ⟨rfl, (List.cons.inj h).2⟩
      | cons d t =>
          rw [List.flatMap_cons, List.append_assoc] at h
          exact absurd h.symm escapeMark_append_ne_quote
  | cons c s ih =>
      cases t with
      | nil =>
          rw [List.flatMap_cons, List.append_assoc] at h
          exact absurd h escapeMark_append_ne_quote
      | cons d t =>
          rw [List.flatMap_cons, List.flatMap_cons, List.append_assoc, List.append_assoc] at h
          obtain ⟨first, h⟩ := escapeMark_append h
          obtain ⟨others, h⟩ := ih h
          exact ⟨by rw [first, others], h⟩

theorem quote_append {a b : String}
    (h : (quote escapeMark a).toList ++ rest = (quote escapeMark b).toList ++ more) :
    a = b ∧ rest = more := by
  simp only [quote, String.toList_ofList, List.cons_append, List.append_assoc, List.nil_append,
    List.cons.injEq, true_and] at h
  obtain ⟨texts, h⟩ := flatMap_escapeMark_append h
  exact ⟨String.toList_inj.mp texts, h⟩

end Text

namespace Argument

/-- A property of arguments holds if it is handed on from the items of a list to the list. -/
@[elab_as_elim]
theorem items_induct {motive : Argument → Prop}
    (single : ∀ a, (∀ items, a ≠ list items) → motive a)
    (list : ∀ items, (∀ item ∈ items, motive item) → motive (list items)) (a : Argument) :
    motive a :=
  match a with
  | .list items => list items fun item _ => items_induct single list item
  | .null => single _ (by simp)
  | .bool _ => single _ (by simp)
  | .integer _ => single _ (by simp)
  | .float _ => single _ (by simp)
  | .text _ => single _ (by simp)

/-- There is no fraction in an argument, at any depth. -/
inductive IsFractionless : Argument → Prop where
  | null : IsFractionless null
  | bool (b : Bool) : IsFractionless (bool b)
  | integer (n : Int64) : IsFractionless (integer n)
  | text (s : String) : IsFractionless (text s)
  | list {items : List Argument} (each : ∀ item ∈ items, IsFractionless item) :
      IsFractionless (list items)

def kind : Argument → Char
  | null => 'n'
  | bool b => if b then 't' else 'f'
  | integer _ => '0'
  | float _ => '.'
  | text _ => '"'
  | list _ => '\x7b'

/-- The kind of the arguments whose literals begin with a character. -/
def kindOf (c : Char) : Char := if c = '-' ∨ c.isDigit then '0' else c

/-- A text does not go on with the literal before it. -/
def Ends (rest : List Char) : Prop := ∀ c ∈ rest.head?, c = ',' ∨ c = '\x7d'

/-- From a text that begins with the literal of an argument the argument is known. -/
def IsDecodable (a : Argument) : Prop :=
  ∀ ⦃b : Argument⦄ ⦃rest more : List Char⦄, b.IsFractionless → Ends rest → Ends more →
    a.literal.toList ++ rest = b.literal.toList ++ more → a = b ∧ rest = more

variable {a b : Argument} {rest more : List Char} {xs ys : List Argument}

theorem toList_literal_text (s : String) :
    (text s).literal.toList = '"' :: (s.toList.flatMap Text.escapeMark ++ ['"']) := by
  simp [literal, Text.quote]

theorem toList_literal_list (items : List Argument) :
    (list items).literal.toList = '\x7b' :: ((literalItems items).toList ++ ['\x7d']) := by
  simp [literal, String.toList_append]

theorem exists_kindOf (h : a.IsFractionless) :
    ∃ c rest, a.literal.toList = c :: rest ∧ kindOf c = a.kind := by
  cases h with
  | null => exact ⟨'n', _, rfl, by decide⟩
  | bool b => cases b <;> exact ⟨_, _, rfl, by decide⟩
  | integer n =>
      rw [literal, Numeral.toList_toString]
      obtain ⟨c, rest, ht, starts⟩ := (Numeral.isPlain_ofInt n.toInt).isDecimal.exists_head
      exact ⟨c, rest, ht, if_pos starts⟩
  | text s => exact ⟨'"', _, toList_literal_text s, rfl⟩
  | list each => exact ⟨'\x7b', _, toList_literal_list _, rfl⟩

/-- Two arguments of one kind are the same, or they are integers, texts or lists. -/
theorem alike (ha : a.IsFractionless) (hb : b.IsFractionless) (same : a.kind = b.kind) :
    a = b ∨ (∃ m n, a = integer m ∧ b = integer n) ∨ (∃ s t, a = text s ∧ b = text t) ∨
      ∃ xs ys, a = list xs ∧ b = list ys := by
  cases ha <;> cases hb <;> grind [kind]

theorem kind_eq (ha : a.IsFractionless) (hb : b.IsFractionless)
    (h : a.literal.toList ++ rest = b.literal.toList ++ more) : a.kind = b.kind := by
  obtain ⟨c, as, hc, kindc⟩ := exists_kindOf ha
  obtain ⟨d, bs, hd, kindd⟩ := exists_kindOf hb
  rw [hc, hd] at h
  rw [← kindc, ← kindd, (List.cons.inj h).1]

theorem Ends.stops (h : Ends rest) : Numeral.Stops rest := by
  intro c hc
  rcases h c hc with rfl | rfl <;> decide

/-- A whole number ends where its digits end. -/
theorem ofInt_text_append {m n : Int} (hr : Ends rest) (hm : Ends more)
    (h : (Numeral.ofInt m).text ++ rest = (Numeral.ofInt n).text ++ more) :
    m = n ∧ rest = more := by
  have left := Numeral.scan_text_append (Numeral.isPlain_ofInt m).isDecimal hr.stops
  have right := Numeral.scan_text_append (Numeral.isPlain_ofInt n).isDecimal hm.stops
  rw [h, right] at left
  simp only [Option.some.injEq, Prod.mk.injEq, Numeral.ofInt, Numeral.mk.injEq, decide_eq_decide]
    at left
  obtain ⟨⟨sign, digits, -⟩, rest⟩ := left
  have size := congrArg (Nat.ofDigitChars 10 · 0) digits
  simp only [Nat.ofDigitChars_ten_toDigits] at size
  exact ⟨by omega, rest.symm⟩

theorem literalItems_cons (x : Argument) (xs : List Argument) :
    (literalItems (x :: xs)).toList =
      x.literal.toList ++ if xs = [] then [] else ',' :: ' ' :: (literalItems xs).toList := by
  cases xs with
  | nil => simp [literalItems]
  | cons y xs => simp [literalItems, String.toList_append]

/-- What stands behind an item: the end of the list, or a comma and the other items. -/
def behind (xs : List Argument) (rest : List Char) : List Char :=
  if xs = [] then '\x7d' :: rest else ',' :: ' ' :: ((literalItems xs).toList ++ '\x7d' :: rest)

theorem literalItems_cons_append (x : Argument) (xs : List Argument) (rest : List Char) :
    (literalItems (x :: xs)).toList ++ '\x7d' :: rest = x.literal.toList ++ behind xs rest := by
  rw [literalItems_cons, behind]
  split <;> simp

theorem ends_behind (xs : List Argument) (rest : List Char) : Ends (behind xs rest) := by
  rw [behind]
  split
  · rintro _ ⟨⟩
    exact .inr rfl
  · rintro _ ⟨⟩
    exact .inl rfl

theorem literal_append_ne_close (h : a.IsFractionless) :
    a.literal.toList ++ rest ≠ '\x7d' :: more := by
  obtain ⟨c, tail, hc, kind⟩ := exists_kindOf h
  rw [hc]
  intro he
  rw [(List.cons.inj he).1] at kind
  cases h with
  | bool b => cases b <;> revert kind <;> decide
  | _ => revert kind; simp only [Argument.kind]; decide

theorem literalItems_of_behind (h : behind xs rest = behind ys more) :
    (literalItems xs).toList ++ '\x7d' :: rest = (literalItems ys).toList ++ '\x7d' :: more := by
  rw [behind, behind] at h
  split at h
  · next hx =>
      split at h
      · next hy => rw [hx, hy, h]
      · cases h
  · split at h
    · cases h
    · simpa using h

theorem literalItems_append (hx : ∀ x ∈ xs, x.IsFractionless) (each : ∀ x ∈ xs, x.IsDecodable)
    (hy : ∀ y ∈ ys, y.IsFractionless)
    (h : (literalItems xs).toList ++ '\x7d' :: rest = (literalItems ys).toList ++ '\x7d' :: more) :
    xs = ys ∧ rest = more := by
  induction xs generalizing ys with
  | nil =>
      cases ys with
      | nil => simpa [literalItems] using h
      | cons y ys =>
          rw [literalItems_cons_append] at h
          exact absurd h.symm (literal_append_ne_close (hy y List.mem_cons_self))
  | cons x xs ih =>
      cases ys with
      | nil =>
          rw [literalItems_cons_append] at h
          exact absurd h (literal_append_ne_close (hx x List.mem_cons_self))
      | cons y ys =>
          rw [literalItems_cons_append, literalItems_cons_append] at h
          obtain ⟨hx₀, hx⟩ := List.forall_mem_cons.mp hx
          obtain ⟨hy₀, hy⟩ := List.forall_mem_cons.mp hy
          obtain ⟨first, each⟩ := List.forall_mem_cons.mp each
          obtain ⟨same, h⟩ := first hy₀ (ends_behind xs rest) (ends_behind ys more) h
          obtain ⟨others, h⟩ := ih hx each hy (literalItems_of_behind h)
          exact ⟨by rw [same, others], h⟩

/-- An argument without fractions is known from a text that begins with its literal. -/
theorem isDecodable (ha : a.IsFractionless) : a.IsDecodable := by
  induction a using items_induct with
  | single a flat =>
      intro b rest more hb hr hm h
      rcases alike ha hb (kind_eq ha hb h) with rfl | ⟨m, n, rfl, rfl⟩ | ⟨s, t, rfl, rfl⟩ |
        ⟨xs, ys, rfl, rfl⟩
      · exact ⟨rfl, List.append_cancel_left h⟩
      · rw [literal, literal, Numeral.toList_toString, Numeral.toList_toString] at h
        obtain ⟨same, h⟩ := ofInt_text_append hr hm h
        exact ⟨congrArg integer (Int64.toInt_inj.mp same), h⟩
      · obtain ⟨same, h⟩ := Text.quote_append h
        exact ⟨congrArg text same, h⟩
      · exact absurd rfl (flat xs)
  | list items each =>
      intro b rest more hb hr hm h
      rcases alike ha hb (kind_eq ha hb h) with rfl | ⟨m, n, he, -⟩ | ⟨s, t, he, -⟩ |
        ⟨xs, ys, he, rfl⟩
      · exact ⟨rfl, List.append_cancel_left h⟩
      · cases he
      · cases he
      · cases he
        cases ha with
        | list hx =>
            cases hb with
            | list hy =>
                rw [toList_literal_list, toList_literal_list] at h
                simp only [List.cons_append, List.append_assoc, List.nil_append,
                  List.cons.injEq, true_and] at h
                obtain ⟨same, h⟩ := literalItems_append hx (fun x hm => each x hm (hx x hm)) hy h
                exact ⟨congrArg list same, h⟩

/-- Arguments without fractions have the same literal only if they are the same. -/
theorem literal_inj (ha : a.IsFractionless) (hb : b.IsFractionless) :
    a.literal = b.literal ↔ a = b := by
  refine ⟨fun h => ?_, congrArg literal⟩
  have same : a.literal.toList ++ [] = b.literal.toList ++ [] := by rw [h]
  exact (isDecodable ha hb (by simp [Ends]) (by simp [Ends]) same).1

end Argument

/-- Quotation marks and a comma in a text do not make two texts of it. -/
theorem Bookshelf.quotedTags_literal_ne :
    (Argument.list [.text "epic\", \"future"]).IsFractionless ∧
      (Argument.list [.text "epic", .text "future"]).IsFractionless ∧
      (Argument.list [.text "epic\", \"future"]).literal ≠
        (Argument.list [.text "epic", .text "future"]).literal := by
  have one : (Argument.list [.text "epic\", \"future"]).IsFractionless :=
    .list (by simpa using .text _)
  have two : (Argument.list [.text "epic", .text "future"]).IsFractionless :=
    .list (by simpa using ⟨.text _, .text _⟩)
  exact ⟨one, two, (Argument.literal_inj one two).not.mpr (by simp)⟩

end Winnow
