import Winnow.Proofs.Predicate.Scanning

/-!
Scanning in rounds. A round takes a space or a token from the front of a text and leaves a shorter
one, so scanning ends after at most as many rounds as there are characters. No token runs on past a
space: what stands before a space and what stands behind it are scanned as if each stood alone.
-/

namespace Winnow

namespace Token

/-- A round of scanning: what it reads from the front of a text, which is nothing from a space, and
what it leaves. -/
inductive Round : List Char → List Token → List Char → Prop
  | space (rest : List Char) : Round (' ' :: rest) [] rest
  | token {c : Char} {rest : List Char} {t : Token} {more} (apart : c ≠ ' ')
      (read : scan c rest = .ok (t, more)) : Round (c :: rest) [t] more.val

/-- A number of rounds, one after another. -/
inductive Rounds : Nat → List Char → List Token → List Char → Prop
  | none (text : List Char) : Rounds 0 text [] text
  | more {n : Nat} {text middle rest : List Char} {read others : List Token}
      (first : Round text read middle) (after : Rounds n middle others rest) :
      Rounds (n + 1) text (read ++ others) rest

/-- How scanning ends: with the tokens that it has read, if nothing is left, or with the fault of
the character that it has come to. -/
inductive Halts (read : List Token) : List Char → Except QueryFault (List Token) → Prop
  | complete : Halts read [] (.ok read)
  | fault {c : Char} {rest : List Char} {e : QueryFault} (apart : c ≠ ' ')
      (found : scan c rest = .error e) : Halts read (c :: rest) (.error e)

/-- A round takes at least one character. -/
theorem Round.exists_front {text rest : List Char} {read : List Token}
    (h : Round text read rest) : ∃ c front, text = c :: (front ++ rest) := by
  cases h with
  | space => exact ⟨' ', [], rfl⟩
  | @token c _ _ _ _ found =>
      obtain ⟨front, split⟩ := scan_suffix found
      exact ⟨c, front, congrArg (c :: ·) split.symm⟩

/-- What is left pays for the rounds that are still to come. -/
theorem Rounds.length_le {n : Nat} {text rest : List Char} {read : List Token}
    (h : Rounds n text read rest) : n + rest.length ≤ text.length := by
  induction h with
  | none => omega
  | more first _ ih =>
      obtain ⟨c, front, rfl⟩ := first.exists_front
      simp only [List.length_cons, List.length_append]
      omega

/-- A token read before changes nothing but the tokens. -/
theorem Halts.cons {read : List Token} {rest : List Char}
    {result : Except QueryFault (List Token)} (h : Halts read rest result) (t : Token) :
    Halts (t :: read) rest (result.map (t :: ·)) := by
  cases h with
  | complete => exact .complete
  | fault apart found => exact .fault apart found

theorem Halts.exists_of_cons {t : Token} {read : List Token} {rest : List Char}
    {result : Except QueryFault (List Token)} (h : Halts (t :: read) rest result) :
    ∃ others, Halts read rest others ∧ result = others.map (t :: ·) := by
  cases h with
  | complete => exact ⟨.ok read, .complete, rfl⟩
  | @fault _ _ e apart found => exact ⟨.error e, .fault apart found, rfl⟩

/-- Rounds can be made on a text until scanning ends with a result. -/
def Scans (text : List Char) (result : Except QueryFault (List Token)) : Prop :=
  ∃ n read rest, Rounds n text read rest ∧ Halts read rest result

section Scans

variable {text rest : List Char} {result : Except QueryFault (List Token)}

theorem Scans.space (h : Scans rest result) : Scans (' ' :: rest) result := by
  obtain ⟨n, read, last, rounds, halts⟩ := h
  exact ⟨n + 1, read, last, .more (.space rest) rounds, halts⟩

theorem Scans.token {c : Char} {t : Token} {more} (apart : c ≠ ' ')
    (found : scan c rest = .ok (t, more)) (h : Scans more.val result) :
    Scans (c :: rest) (result.map (t :: ·)) := by
  obtain ⟨n, read, last, rounds, halts⟩ := h
  exact ⟨n + 1, t :: read, last, .more (.token apart found) rounds, halts.cons t⟩

/-- Every text is scanned to its end or to its first fault. -/
theorem scans_scanAll (text : List Char) : Scans text (scanAll text) := by
  fun_induction scanAll text with
  | case1 => exact ⟨0, [], [], .none [], .complete⟩
  | case2 rest ih => exact ih.space
  | case3 c rest hc e he => exact ⟨0, [], c :: rest, .none _, .fault hc he⟩
  | case4 c rest hc token more hm hs e he ih =>
      rw [he] at ih
      exact ih.token hc hs
  | case5 c rest hc token more hm hs tokens ht ih =>
      rw [ht] at ih
      exact ih.token hc hs

/-- All rounds come to one result. -/
theorem scanAll_eq_of_rounds {n : Nat} {read : List Token} (rounds : Rounds n text read rest)
    (halts : Halts read rest result) : scanAll text = result := by
  induction rounds generalizing result with
  | none text =>
      cases halts with
      | complete => exact scanAll_nil
      | fault apart found =>
          rw [scanAll_cons apart, found]
          rfl
  | more first _ ih =>
      cases first with
      | space middle =>
          rw [scanAll_space]
          exact ih halts
      | token apart found =>
          obtain ⟨others, tail, rfl⟩ := halts.exists_of_cons
          rw [scanAll_cons apart, found, ← ih tail]
          rfl

theorem scans_iff : Scans text result ↔ scanAll text = result := by
  constructor
  · rintro ⟨n, read, rest, rounds, halts⟩
    exact scanAll_eq_of_rounds rounds halts
  · rintro rfl
    exact scans_scanAll text

end Scans

/-- A space begins a new token, whatever stands before it. -/
theorem scanAll_append_space {a : List Char} {tokens : List Token}
    (scanned : scanAll a = .ok tokens) (b : List Char) : scanAll (a ++ ' ' :: b) = (scanAll b).map (tokens ++ ·) := by
  have blank : opens ' ' := by decide
  have apart : Apart a (' ' :: b) := .inr (by simpa using blank)
  rw [scanAll_append_of_ok scanned apart, scanAll_space]

/-- A text that can be scanned may be followed by a space and any other text: what follows is then
scanned as it is on its own, to the same tokens or the same fault. Each round of scanning leaves a
proper end of the text before it, so no text has more rounds than characters, and the rounds on
every text come to one result, at its end or at its first fault. -/
theorem scanAll_spaced :
    (∀ (a b : String) (tokens : List Token), scanAll a.toList = .ok tokens →
      scanAll (a ++ " " ++ b).toList = (scanAll b.toList).map (tokens ++ ·)) ∧
    (∀ text read rest, Round text read rest → ∃ c front, text = c :: (front ++ rest)) ∧
    ∀ text : List Char,
      (∀ n read rest, Rounds n text read rest → n + rest.length ≤ text.length) ∧
      ∀ result, Scans text result ↔ scanAll text = result := by
  refine ⟨?_, fun _ _ _ => Round.exists_front, fun text => ⟨?_, fun _ => scans_iff⟩⟩
  · intro a b tokens scanned
    have whole : (a ++ " " ++ b).toList = a.toList ++ ' ' :: b.toList := by simp
    rw [whole, scanAll_append_space scanned]
  · intro n read rest rounds
    exact rounds.length_le

end Token

namespace Bookshelf

open Token

/-- An operator is not continued behind a space, and options that are not closed are a fault
there too. -/
theorem starsAbove_spaced :
    scanAll "stars >".toList = .ok [word "stars", operator ">"] ∧
    scanAll ("stars >" ++ " " ++ "=[cd] ?").toList =
      .ok [word "stars", operator ">", operator "=", options "cd", placeholder] ∧
    scanAll ("stars >" ++ " " ++ "=[cd ?").toList = .error .unterminatedOptions := by
  have front : scanAll "stars >".toList = .ok [word "stars", operator ">"] := by decide +kernel
  have closed : scanAll "=[cd] ?".toList = .ok [operator "=", options "cd", placeholder] := by
    decide +kernel
  have opened : scanAll "=[cd ?".toList = .error .unterminatedOptions := by decide +kernel
  obtain ⟨follow, -, -⟩ := scanAll_spaced
  refine ⟨front, ?_, ?_⟩
  · rw [follow _ _ _ front, closed]
    rfl
  · rw [follow _ _ _ front, opened]
    rfl

end Bookshelf

end Winnow
