import Mathlib.Data.List.TakeWhile
import Mathlib.Tactic.IntervalCases
import ChainLint.Json.Printer
import ChainLint.Json.Reader
import ChainLint.Proofs.Number.Value

/-!
# Tokens read back

What the printer writes for a string or a whole number is read as that string or number, and what
follows is left.

* `Reader.Gives r cs a rest`: reading `cs` gives `a` and leaves `rest`, whatever has been read before.
* `Gives.bind`: one step after another.
* `gives_string`: a string between its quotes, each of its characters escaped as it has to be.
* `gives_number`: a whole number of 64 bits, when no digit, point or exponent follows it.
-/

namespace ChainLint.Json

namespace Reader

variable {α β : Type} {cs rest : List Char}

/-! ### Steps -/

/-- Reading `cs` gives `a` and leaves `rest`, whatever has been read before. -/
def Gives (r : Reader α) (cs : List Char) (a : α) (rest : List Char) : Prop :=
  ∀ offset, ∃ offset', r ⟨cs, offset⟩ = .ok a ⟨rest, offset'⟩

theorem gives_pure (a : α) (cs : List Char) : Gives (pure a) cs a cs :=
  fun offset => ⟨offset, rfl⟩

/-- One step after another. -/
theorem Gives.bind {r : Reader α} {f : α → Reader β} {a : α} {b : β} {cs' : List Char}
    (hr : Gives r cs a cs') (hf : Gives (f a) cs' b rest) : Gives (r >>= f) cs b rest := by
  intro offset
  obtain ⟨offset', hr'⟩ := hr offset
  obtain ⟨offset'', hf'⟩ := hf offset'
  refine ⟨offset'', ?_⟩
  show EStateM.bind r f ⟨cs, offset⟩ = _
  rw [EStateM.bind, hr']
  exact hf'

theorem gives_peek (cs : List Char) : Gives peek cs cs.head? cs :=
  fun offset => ⟨offset, rfl⟩

theorem gives_advance (c : Char) (cs : List Char) : Gives advance (c :: cs) () cs :=
  fun offset => ⟨offset + c.utf8Size, rfl⟩

theorem gives_remaining (cs : List Char) : Gives remaining cs (cs.length + 1) cs :=
  fun offset => ⟨offset, rfl⟩

theorem gives_takeWhile (p : Char → Bool) (cs : List Char) :
    Gives (takeWhile p) cs (cs.takeWhile p) (cs.dropWhile p) := by
  intro offset
  refine ⟨offset + (cs.takeWhile p).length, ?_⟩
  have hcs : cs.takeWhile p ++ cs.dropWhile p = cs := List.takeWhile_append_dropWhile
  have hdrop : cs.drop (cs.takeWhile p).length = cs.dropWhile p :=
    calc cs.drop (cs.takeWhile p).length
        = (cs.takeWhile p ++ cs.dropWhile p).drop (cs.takeWhile p).length := by rw [hcs]
      _ = cs.dropWhile p := List.drop_left
  show EStateM.Result.ok _ _ = _
  rw [hdrop]

/-- Where no blank stands the next token begins. -/
theorem gives_token {c : Char} (h : isBlank c = false) (cs : List Char) :
    Gives peekToken (c :: cs) (some c) (c :: cs) := by
  have hblank := gives_takeWhile isBlank (c :: cs)
  rw [List.dropWhile_cons_of_neg (by simp [h])] at hblank
  exact hblank.bind (gives_peek (c :: cs))

theorem gives_token_nil : Gives peekToken [] none [] :=
  (gives_takeWhile isBlank []).bind (gives_peek [])

theorem Gives.placed {r : Reader α} {a : α} (h : Gives r cs a rest) : Gives (placed r) cs a rest := by
  intro offset
  obtain ⟨offset', hr⟩ := h offset
  exact ⟨offset', by rw [Reader.placed, hr]⟩

theorem Gives.enclosed {inside : Reader α} {close : Reader Unit} {a : α} {cs' : List Char}
    (hinside : Gives inside cs a cs') (hclose : Gives close cs' () rest) :
    Gives (enclosed inside close) cs a rest := by
  intro offset
  obtain ⟨offset', hi⟩ := hinside offset
  obtain ⟨offset'', hc⟩ := hclose offset'
  exact ⟨offset'', by simp only [Reader.enclosed, hi, hc]⟩

theorem gives_word (ws rest : List Char) : Gives (word ws) (ws ++ rest) () rest := by
  induction ws with
  | nil => exact gives_pure () rest
  | cons w ws ih =>
    refine (gives_peek _).bind ?_
    show Gives (if w = w then _ else _) _ _ _
    rw [if_pos rfl]
    exact (gives_advance w _).bind ih

/-! ### Strings -/

theorem gives_escape_letter {x c : Char} (h : letterEscape? x = some c) :
    Gives escape (x :: rest) c rest := by
  refine (gives_peek _).bind ?_
  simp only [List.head?_cons]
  split
  · next hx => cases hx
  · next hx =>
    obtain rfl : x = 'u' := Option.some.inj hx
    cases h
  · next d hx hd =>
    obtain rfl : x = d := Option.some.inj hd
    rw [h]
    exact (gives_advance x rest).bind (gives_pure c rest)

/-- The escape of a control character has four digits, and they are its code point. -/
theorem hexQuad?_controlEscape : ∀ n < 32, ∃ a b c d : Char,
    List.replicate (4 - (Nat.toDigits 16 n).length) '0' ++ Nat.toDigits 16 n = [a, b, c, d] ∧
      Text.hexQuad? [a, b, c, d] = some n := by
  intro n hn
  interval_cases n <;> exact ⟨_, _, _, _, rfl, rfl⟩

theorem gives_hexEscape {a b c d : Char} {n : ℕ} (h : Text.hexQuad? [a, b, c, d] = some n) :
    Gives hexEscape (a :: b :: c :: d :: rest) n rest := by
  intro offset
  have hquad : Text.hexQuad? (a :: b :: c :: d :: rest) = some n := h
  exact ⟨offset + 4, by simp only [hexEscape, hquad, List.drop_succ_cons, List.drop_zero]⟩

theorem gives_escapedCodePoint {a b c d : Char} {n : ℕ}
    (h : Text.hexQuad? [a, b, c, d] = some n) (hn : n < 0xD800) :
    Gives escapedCodePoint (a :: b :: c :: d :: rest) (Char.ofNat n) rest := by
  refine (gives_hexEscape h).bind ?_
  have hlow : ¬ (decide (0xDC00 ≤ n) && decide (n ≤ 0xDFFF)) = true := by simp; omega
  rw [if_neg hlow, if_pos (by simp [hn])]
  exact gives_pure _ _

theorem gives_escape_control {c : Char} (h : c.toNat < 0x20) :
    ∃ cs, controlEscape c = '\\' :: cs ∧ Gives escape (cs ++ rest) c rest := by
  obtain ⟨a, b, d, e, hdigits, hquad⟩ := hexQuad?_controlEscape c.toNat h
  refine ⟨['u', a, b, d, e], ?_, ?_⟩
  · simp only [controlEscape, List.append_assoc, hdigits]
    rfl
  · have hpoint : Gives escapedCodePoint (a :: b :: d :: e :: rest) c rest :=
      Char.ofNat_toNat c ▸ gives_escapedCodePoint hquad (by omega)
    exact (gives_peek _).bind ((gives_advance 'u' _).bind hpoint)

/-- A character stands in a string as itself, behind a backslash, or by its code point. -/
theorem stringChar_cases (c : Char) :
    (stringChar c = [c] ∧ c ≠ '"' ∧ c ≠ '\\' ∧ ¬ c.toNat < 0x20) ∨
      (∃ x, stringChar c = ['\\', x] ∧ letterEscape? x = some c) ∨
      (stringChar c = controlEscape c ∧ c.toNat < 0x20) := by
  unfold stringChar
  split_ifs with hmark hb ht hn hf hr hcontrol
  · rcases (by simpa using hmark : c = '"' ∨ c = '\\') with rfl | rfl
    · exact .inr (.inl ⟨'"', rfl, rfl⟩)
    · exact .inr (.inl ⟨'\\', rfl, rfl⟩)
  · exact .inr (.inl ⟨'b', rfl, hb ▸ rfl⟩)
  · exact .inr (.inl ⟨'t', rfl, ht ▸ rfl⟩)
  · exact .inr (.inl ⟨'n', rfl, hn ▸ rfl⟩)
  · exact .inr (.inl ⟨'f', rfl, hf ▸ rfl⟩)
  · exact .inr (.inl ⟨'r', rfl, hr ▸ rfl⟩)
  · exact .inr (.inr ⟨rfl, hcontrol⟩)
  · obtain ⟨hquote, hslash⟩ : c ≠ '"' ∧ c ≠ '\\' := by simpa using hmark
    exact .inl ⟨rfl, hquote, hslash, hcontrol⟩

section StringTail

variable {c : Char} {fuel : ℕ} {done cs : List Char} {s : String}

theorem gives_stringTail_plain (hquote : c ≠ '"') (hslash : c ≠ '\\') (hcontrol : ¬ c.toNat < 0x20)
    (h : Gives (stringTail fuel (c :: done)) cs s rest) :
    Gives (stringTail (fuel + 1) done) (c :: cs) s rest := by
  refine (gives_peek _).bind ?_
  simp only [List.head?_cons]
  rw [if_neg hcontrol]
  exact (gives_advance c cs).bind h

theorem gives_stringTail_escaped {es : List Char} (he : Gives escape es c cs)
    (h : Gives (stringTail fuel (c :: done)) cs s rest) :
    Gives (stringTail (fuel + 1) done) ('\\' :: es) s rest :=
  (gives_peek _).bind ((gives_advance '\\' es).bind (he.bind h))

/-- One character of a string. -/
theorem gives_stringTail_char (h : Gives (stringTail fuel (c :: done)) cs s rest) :
    Gives (stringTail (fuel + 1) done) (stringChar c ++ cs) s rest := by
  rcases stringChar_cases c with ⟨htext, hquote, hslash, hcontrol⟩ | ⟨x, htext, hx⟩ | ⟨htext, hc⟩
  · rw [htext]
    exact gives_stringTail_plain hquote hslash hcontrol h
  · rw [htext]
    exact gives_stringTail_escaped (gives_escape_letter hx) h
  · obtain ⟨es, hes, hescape⟩ := gives_escape_control hc
    rw [htext, hes]
    exact gives_stringTail_escaped hescape h

end StringTail

/-- The characters of a string up to its closing quote, each of which takes one step. -/
theorem gives_stringTail (s : List Char) : ∀ (fuel : ℕ) (done : List Char), s.length ≤ fuel →
    Gives (stringTail (fuel + 1) done) (s.flatMap stringChar ++ '"' :: rest)
      (String.ofList (done.reverse ++ s)) rest := by
  induction s with
  | nil =>
    intro fuel done _
    rw [List.append_nil]
    exact (gives_peek _).bind ((gives_advance '"' rest).bind (gives_pure _ rest))
  | cons c s ih =>
    intro fuel done hfuel
    obtain ⟨more, rfl⟩ := Nat.exists_eq_add_of_le' hfuel
    have hrest := ih (more + s.length) (c :: done) (Nat.le_add_left _ _)
    rw [List.reverse_cons, ← List.append_cons] at hrest
    rw [List.flatMap_cons, List.append_assoc]
    exact gives_stringTail_char hrest

theorem stringChar_ne_nil (c : Char) : stringChar c ≠ [] := by
  rcases stringChar_cases c with ⟨h, _⟩ | ⟨_, h, _⟩ | ⟨h, _⟩ <;> rw [h] <;> exact List.cons_ne_nil _ _

/-- Where every part has a text there are at least as many characters as parts. -/
theorem length_le_flatMap {f : α → List β} (h : ∀ a, f a ≠ []) (parts : List α) :
    parts.length ≤ (parts.flatMap f).length := by
  induction parts with
  | nil => exact Nat.le_refl 0
  | cons a parts ih =>
    have hpos : 0 < (f a).length := List.length_pos_iff.mpr (h a)
    rw [List.flatMap_cons, List.length_append, List.length_cons]
    omega

/-- A string between its quotes is read as itself. -/
theorem gives_string (s : String) (rest : List Char) :
    Gives string (stringText s ++ rest) s rest := by
  have htext : stringText s ++ rest = '"' :: (s.toList.flatMap stringChar ++ '"' :: rest) := by
    simp [stringText]
  have hfuel : s.toList.length ≤ (s.toList.flatMap stringChar ++ '"' :: rest).length := by
    have := length_le_flatMap stringChar_ne_nil s.toList
    rw [List.length_append]
    omega
  rw [htext]
  refine (gives_advance '"' _).bind ((gives_remaining _).bind ?_)
  simpa using gives_stringTail s.toList _ [] hfuel

/-! ### Whole numbers -/

theorem le_ofDigitChars (ds : List Char) : ∀ n, n ≤ Nat.ofDigitChars 10 ds n := by
  induction ds with
  | nil => exact fun n => Nat.le_refl n
  | cons d ds ih =>
    intro n
    rw [Nat.ofDigitChars_cons]
    exact Nat.le_trans (by omega) (ih _)

/-- Digits that stay within the limit are kept exactly; the number that they end in bounds all those on
the way. -/
theorem foldl_whole {ds : List Char} : ∀ {n : ℕ}, Nat.ofDigitChars 10 ds n ≤ significandLimit →
    ds.foldl Significand.whole ⟨n, 0, false⟩ = ⟨Nat.ofDigitChars 10 ds n, 0, false⟩ := by
  induction ds with
  | nil => exact fun _ => rfl
  | cons d ds ih =>
    intro n h
    rw [Nat.ofDigitChars_cons] at h ⊢
    have hfits : n * 10 + digitValue d ≤ significandLimit := by
      rw [Nat.mul_comm]
      exact Nat.le_trans (le_ofDigitChars ds _) h
    have hstep : Significand.whole ⟨n, 0, false⟩ d = ⟨n * 10 + digitValue d, 0, false⟩ :=
      if_pos (by simpa using hfits)
    rw [List.foldl_cons, hstep, Nat.mul_comm n]
    exact ih h

/-- The first digit of a positive number is not zero. -/
theorem exists_toDigits {n : ℕ} (hn : 0 < n) : ∃ d ds, Nat.toDigits 10 n = d :: ds ∧ d ≠ '0' := by
  induction n using Nat.strongRecOn with
  | ind n ih =>
    rcases Nat.lt_or_ge n 10 with hlt | hge
    · refine ⟨n.digitChar, [], Nat.toDigits_of_lt_base hlt, ?_⟩
      rw [ne_eq, Nat.digitChar_eq_zero]
      omega
    · obtain ⟨d, ds, hds, hd⟩ := ih (n / 10) (by omega) (by omega)
      refine ⟨d, ds ++ [(n % 10).digitChar], ?_, hd⟩
      rw [Nat.toDigits_of_base_le (by decide) hge, hds, List.cons_append]

theorem exists_toDigits_digit (n : ℕ) : ∃ d ds, Nat.toDigits 10 n = d :: ds ∧ d.isDigit := by
  obtain ⟨d, ds, hds⟩ := List.exists_cons_of_ne_nil (@Nat.toDigits_ne_nil n 10)
  have hmem : d ∈ Nat.toDigits 10 n := hds ▸ List.mem_cons_self ..
  exact ⟨d, ds, hds, Nat.isDigit_of_mem_toDigits (by decide) (by decide) hmem⟩

/-- What may follow a number: nothing that would be part of it. -/
def Follow (rest : List Char) : Prop :=
  ∀ c ∈ rest.head?, c.isDigit = false ∧ c ≠ '.' ∧ c ≠ 'e' ∧ c ≠ 'E'

theorem gives_takeWhile_digits {ds : List Char} (hds : ∀ d ∈ ds, d.isDigit) (h : Follow rest) :
    Gives (takeWhile Char.isDigit) (ds ++ rest) ds rest := by
  have hstop : rest.takeWhile Char.isDigit = [] ∧ rest.dropWhile Char.isDigit = rest := by
    cases rest with
    | nil => exact ⟨rfl, rfl⟩
    | cons c rest => simp [(h c rfl).1]
  have hrun := gives_takeWhile Char.isDigit (ds ++ rest)
  rw [List.takeWhile_append_of_pos hds, List.dropWhile_append_of_pos hds, hstop.1, hstop.2,
    List.append_nil] at hrun
  exact hrun

theorem gives_wholePart {n : ℕ} (hn : n ≤ significandLimit) (h : Follow rest) :
    Gives wholePart (Nat.toDigits 10 n ++ rest) ⟨n, 0, false⟩ rest := by
  rcases Nat.eq_zero_or_pos n with rfl | hpos
  · rw [Nat.toDigits_zero]
    refine (gives_peek _).bind ((gives_advance '0' rest).bind ((gives_peek rest).bind ?_))
    cases rest with
    | nil => exact gives_pure _ _
    | cons c rest =>
      simp only [List.head?_cons, (h c rfl).1]
      exact gives_pure _ _
  · obtain ⟨d, ds, hds, hd⟩ := exists_toDigits hpos
    have hdigits : ∀ c ∈ d :: ds, c.isDigit := fun c hc =>
      Nat.isDigit_of_mem_toDigits (by decide) (by decide) (hds ▸ hc)
    have hvalue : Nat.ofDigitChars 10 (d :: ds) 0 = n := hds ▸ Nat.ofDigitChars_ten_toDigits
    refine (gives_peek _).bind ?_
    simp only [hds, List.cons_append, List.head?_cons, hdigits d (List.mem_cons_self ..), if_true]
    refine (gives_takeWhile_digits hdigits h).bind ?_
    rw [foldl_whole (hvalue.symm ▸ hn), hvalue]
    exact gives_pure _ rest

/-- A whole number that no further digit, point or exponent follows is read as itself. -/
theorem gives_unsigned {n : ℕ} {negative : Bool} {a : Number} (hn : n ≤ significandLimit)
    (hwhole : wholeNumber negative ⟨n, 0, false⟩ = pure a) (h : Follow rest) :
    Gives (unsigned negative) (Nat.toDigits 10 n ++ rest) a rest := by
  refine (gives_wholePart hn h).bind ((gives_peek rest).bind ?_)
  cases rest with
  | nil => exact hwhole ▸ gives_pure a []
  | cons c rest =>
    obtain ⟨-, hpoint, he, hE⟩ := h c rfl
    rw [List.head?_cons]
    split
    · next hc => exact absurd (Option.some.inj hc) hpoint
    · next hc => exact absurd (Option.some.inj hc) he
    · next hc => exact absurd (Option.some.inj hc) hE
    · exact hwhole ▸ gives_pure a _

/-- A whole number of a word is read as itself. -/
theorem gives_number {i : ℤ} (hi : Number.IsWord (.integer i)) (h : Follow rest) :
    Gives number (integerText i ++ rest) (.integer i) rest := by
  obtain ⟨hlow, hhigh⟩ : -2 ^ 63 ≤ i ∧ i < 2 ^ 64 := hi
  have hn : i.natAbs ≤ significandLimit := by
    have : significandLimit = 2 ^ 64 - 1 := rfl
    omega
  rcases lt_or_ge i 0 with hneg | hnonneg
  · have hwhole : wholeNumber true ⟨i.natAbs, 0, false⟩ = pure (.integer i) := by
      have hword : ¬ (decide (i.natAbs = 0) || decide (Nat.pow 2 63 < i.natAbs)) = true := by
        have : Nat.pow 2 63 = 2 ^ 63 := rfl
        simp only [Bool.or_eq_true, decide_eq_true_eq]
        omega
      have hvalue : -(i.natAbs : ℤ) = i := by omega
      exact (if_neg hword).trans (by rw [hvalue])
    rw [integerText, if_pos hneg]
    exact (gives_peek _).bind ((gives_advance '-' _).bind (gives_unsigned hn hwhole h))
  · have hwhole : wholeNumber false ⟨i.natAbs, 0, false⟩ = pure (.integer i) := by
      rw [← Int.natAbs_of_nonneg hnonneg]
      rfl
    obtain ⟨d, ds, hds, hd⟩ := exists_toDigits_digit i.natAbs
    rw [integerText, if_neg (Int.not_lt.mpr hnonneg)]
    refine (gives_peek _).bind ?_
    split
    · next hsign =>
      rw [hds] at hsign
      obtain rfl : d = '-' := Option.some.inj hsign
      cases hd
    · exact gives_unsigned hn hwhole h

end Reader

end ChainLint.Json
