import Mathlib.Data.List.Forall2
import Mathlib.Data.List.Infix
import Mathlib.Data.List.TakeWhile
import ChainLint.Comment.Marker

/-!
# The language of unspecified comments

Which texts hold a marker, a task id or an annotation, said of the places in the text and without the
scans that look for them.

* `Marked cs`: a marker stands in the text, and no word goes on at either of its ends.
* `TaskId id`: the text `id` is a task id.
* `Noted cs`: a parenthesis and a later one that closes it on the same line, with something between.
* `hasMarker_iff`, `hasTaskId_iff`, `hasNote_iff`: each scan finds just what it looks for.
* `isUnspecified_iff`: the verdict on a comment, by the three together.
-/

namespace ChainLint.Marker

/-! ### What is looked for -/

/-- An ASCII letter or digit, or the underscore. -/
def WordChar (c : Char) : Prop :=
  ('a' ≤ c ∧ c ≤ 'z') ∨ ('A' ≤ c ∧ c ≤ 'Z') ∨ ('0' ≤ c ∧ c ≤ '9') ∨ c = '_'

/-- The letters of a word, each in the lower or the upper case. -/
def Spells (word : List Char) : List Char → Prop :=
  List.Forall₂ (fun letter c => c = letter ∨ c = letter.toUpper) word

/-- A marker in the text has no word character before it and none behind it. -/
def Marked (cs : List Char) : Prop :=
  ∃ before marker after, cs = before ++ marker ++ after ∧
    (Spells ['t', 'o', 'd', 'o'] marker ∨ Spells ['f', 'i', 'x', 'm', 'e'] marker) ∧
    (∀ c ∈ before.getLast?, ¬ WordChar c) ∧ ∀ c ∈ after.head?, ¬ WordChar c

/-- A project key of two characters or more and a number, with a hyphen between them, in brackets. -/
def TaskId (id : List Char) : Prop :=
  ∃ first key number, id = '[' :: first :: key ++ '-' :: number ++ [']'] ∧
    ('A' ≤ first ∧ first ≤ 'Z') ∧
    (key ≠ [] ∧ ∀ c ∈ key, ('A' ≤ c ∧ c ≤ 'Z') ∨ ('0' ≤ c ∧ c ≤ '9')) ∧
    number ≠ [] ∧ ∀ c ∈ number, '0' ≤ c ∧ c ≤ '9'

/-- One or more characters between two parentheses, none of which ends the line. -/
def Noted (cs : List Char) : Prop :=
  ∃ i j : Nat, cs[i]? = some '(' ∧ cs[j]? = some ')' ∧ i + 2 ≤ j ∧
    ∀ m c, i < m → m < j → cs[m]? = some c →
      c ≠ '\n' ∧ c ≠ '\r' ∧ c ≠ '\u2028' ∧ c ≠ '\u2029'

/-! ### Characters -/

theorem isUpper_iff {c : Char} : c.isUpper = true ↔ 'A' ≤ c ∧ c ≤ 'Z' :=
  decide_eq_true_iff

theorem isLower_iff {c : Char} : c.isLower = true ↔ 'a' ≤ c ∧ c ≤ 'z' := by
  change (decide ('a' ≤ c) && decide (c ≤ 'z')) = true ↔ _
  rw [Bool.and_eq_true, decide_eq_true_iff, decide_eq_true_iff]

theorem isDigit_iff {c : Char} : c.isDigit = true ↔ '0' ≤ c ∧ c ≤ '9' := by
  simp [Char.isDigit, Char.le_def]

theorem isKeyChar_iff {c : Char} :
    isKeyChar c = true ↔ ('A' ≤ c ∧ c ≤ 'Z') ∨ ('0' ≤ c ∧ c ≤ '9') := by
  rw [isKeyChar, Bool.or_eq_true, isUpper_iff, isDigit_iff]

theorem isWordChar_iff {c : Char} : isWordChar c = true ↔ WordChar c := by
  change (c.isUpper || c.isLower || c.isDigit || decide (c = '_')) = true ↔ _
  rw [WordChar]
  simp only [Bool.or_eq_true, decide_eq_true_eq, isUpper_iff, isLower_iff, isDigit_iff]
  tauto

/-- The lower case of a character is a given small letter just when the character is that letter in
either case. -/
theorem toLower_eq_iff {c letter : Char} (h : letter.isLower = true) :
    c.toLower = letter ↔ c = letter ∨ c = letter.toUpper := by
  rw [isLower_iff] at h
  -- in code points: a capital letter is one of 65 to 90, its small letter 32 further on
  have hrange : 97 ≤ letter.val.toNat ∧ letter.val.toNat ≤ 122 := h
  have hupper : letter.toUpper.val.toNat + 32 = letter.val.toNat := by
    delta Char.toUpper
    rw [dif_pos (show 'a'.val ≤ letter.val ∧ letter.val ≤ 'z'.val from h), UInt32.toNat_add]
    change (letter.val.toNat + 4294967264) % 4294967296 + 32 = _
    omega
  simp only [Char.ext_iff, ← UInt32.toNat_inj]
  delta Char.toLower
  split_ifs with hc
  · simp only [UInt32.le_iff_toNat_le, ge_iff_le] at hc
    change 65 ≤ c.val.toNat ∧ c.val.toNat ≤ 90 at hc
    rw [UInt32.toNat_add]
    change (c.val.toNat + 32) % 4294967296 = _ ↔ _
    omega
  · simp only [UInt32.le_iff_toNat_le, ge_iff_le] at hc
    change ¬ (65 ≤ c.val.toNat ∧ c.val.toNat ≤ 90) at hc
    omega

/-! ### Markers -/

theorem afterWord?_eq_some {word cs rest : List Char} (h : ∀ letter ∈ word, letter.isLower = true) :
    afterWord? word cs = some rest ↔ ∃ marker, cs = marker ++ rest ∧ Spells word marker := by
  induction word generalizing cs with
  | nil => simp [afterWord?, Spells, List.forall₂_nil_left_iff]
  | cons letter word ih =>
    obtain ⟨hletter, hword⟩ := List.forall_mem_cons.mp h
    cases cs with
    | nil => simp [afterWord?, Spells, List.forall₂_cons_left_iff]
    | cons c cs =>
      rw [afterWord?]
      split_ifs with hc
      · rw [ih hword]
        constructor
        · rintro ⟨marker, rfl, hmarker⟩
          exact ⟨c :: marker, rfl, .cons ((toLower_eq_iff hletter).mp hc) hmarker⟩
        · rintro ⟨marker, hcs, hmarker⟩
          cases hmarker with
          | cons _ htail =>
            obtain ⟨rfl, rfl⟩ := List.cons_eq_cons.mp hcs
            exact ⟨_, rfl, htail⟩
      · refine iff_of_false (by simp) ?_
        rintro ⟨marker, hcs, hmarker⟩
        cases hmarker with
        | cons hhead _ =>
          obtain ⟨rfl, -⟩ := List.cons_eq_cons.mp hcs
          exact hc ((toLower_eq_iff hletter).mpr hhead)

theorem atWordEnd_iff {cs : List Char} : atWordEnd cs = true ↔ ∀ c ∈ cs.head?, ¬ WordChar c := by
  cases cs with
  | nil => simp [atWordEnd]
  | cons c cs => simp [atWordEnd, ← isWordChar_iff]

theorem markerHere_iff {cs : List Char} : markerHere cs = true ↔
    ∃ marker after, cs = marker ++ after ∧
      (Spells ['t', 'o', 'd', 'o'] marker ∨ Spells ['f', 'i', 'x', 'm', 'e'] marker) ∧
      ∀ c ∈ after.head?, ¬ WordChar c := by
  -- one word at a time; the alternatives of the text are those of the two words
  have hword : ∀ word : List Char, (∀ letter ∈ word, letter.isLower = true) →
      ((afterWord? word cs).any atWordEnd = true ↔ ∃ marker after, cs = marker ++ after ∧
        Spells word marker ∧ ∀ c ∈ after.head?, ¬ WordChar c) := by
    intro word hlower
    rw [Option.any_eq_true]
    constructor
    · rintro ⟨after, hafter, hend⟩
      obtain ⟨marker, hcs, hmarker⟩ := (afterWord?_eq_some hlower).mp hafter
      exact ⟨marker, after, hcs, hmarker, atWordEnd_iff.mp hend⟩
    · rintro ⟨marker, after, hcs, hmarker, hend⟩
      exact ⟨after, (afterWord?_eq_some hlower).mpr ⟨marker, hcs, hmarker⟩, atWordEnd_iff.mpr hend⟩
  have htodo := hword ['t', 'o', 'd', 'o'] (List.all_eq_true.mp rfl)
  have hfixme := hword ['f', 'i', 'x', 'm', 'e'] (List.all_eq_true.mp rfl)
  have hwords : words = [['t', 'o', 'd', 'o'], ['f', 'i', 'x', 'm', 'e']] := by decide
  rw [markerHere, hwords, List.any_cons, List.any_cons, List.any_nil, Bool.or_false,
    Bool.or_eq_true, htodo, hfixme]
  constructor
  · rintro (⟨marker, after, hcs, hmarker, hend⟩ | ⟨marker, after, hcs, hmarker, hend⟩)
    · exact ⟨marker, after, hcs, Or.inl hmarker, hend⟩
    · exact ⟨marker, after, hcs, Or.inr hmarker, hend⟩
  · rintro ⟨marker, after, hcs, hmarker | hmarker, hend⟩
    · exact Or.inl ⟨marker, after, hcs, hmarker, hend⟩
    · exact Or.inr ⟨marker, after, hcs, hmarker, hend⟩

/-- The scan goes through the text with what is known of the character before it. -/
theorem markerFrom_iff {inWord : Bool} {cs : List Char} : markerFrom inWord cs = true ↔
    ∃ before rest, cs = before ++ rest ∧
      (before.getLast?.map isWordChar).getD inWord = false ∧ markerHere rest = true := by
  induction cs generalizing inWord with
  | nil =>
    refine iff_of_false (by simp [markerFrom]) ?_
    rintro ⟨before, rest, hcs, -, hhere⟩
    obtain ⟨-, rfl⟩ := List.append_eq_nil_iff.mp hcs.symm
    exact absurd hhere (by decide)
  | cons c cs ih =>
    rw [markerFrom, Bool.or_eq_true, Bool.and_eq_true, Bool.not_eq_true', ih]
    constructor
    · rintro (⟨hstart, hhere⟩ | ⟨before, rest, rfl, hbefore, hhere⟩)
      · exact ⟨[], c :: cs, rfl, hstart, hhere⟩
      · refine ⟨c :: before, rest, rfl, ?_, hhere⟩
        rw [List.getLast?_cons]
        cases hlast : before.getLast? with
        | none => simpa [hlast] using hbefore
        | some d => simpa [hlast] using hbefore
    · rintro ⟨before, rest, hcs, hbefore, hhere⟩
      cases before with
      | nil =>
        rw [List.nil_append] at hcs
        exact Or.inl ⟨hbefore, hcs ▸ hhere⟩
      | cons d before =>
        obtain ⟨rfl, rfl⟩ := List.cons_eq_cons.mp hcs
        refine Or.inr ⟨before, rest, rfl, ?_, hhere⟩
        rw [List.getLast?_cons] at hbefore
        cases hlast : before.getLast? with
        | none => simpa [hlast] using hbefore
        | some e => simpa [hlast] using hbefore

theorem hasMarker_iff {cs : List Char} : hasMarker cs = true ↔ Marked cs := by
  rw [hasMarker, markerFrom_iff]
  have hstart : ∀ before : List Char, (before.getLast?.map isWordChar).getD false = false ↔
      ∀ c ∈ before.getLast?, ¬ WordChar c := by
    intro before
    cases before.getLast? <;> simp [← isWordChar_iff]
  constructor
  · rintro ⟨before, rest, rfl, hbefore, hhere⟩
    obtain ⟨marker, after, rfl, hmarker, hend⟩ := markerHere_iff.mp hhere
    exact ⟨before, marker, after, (List.append_assoc _ _ _).symm, hmarker,
      (hstart before).mp hbefore, hend⟩
  · rintro ⟨before, marker, after, rfl, hmarker, hbefore, hend⟩
    exact ⟨before, marker ++ after, List.append_assoc _ _ _, (hstart before).mpr hbefore,
      markerHere_iff.mpr ⟨marker, after, rfl, hmarker, hend⟩⟩

/-! ### Task ids -/

/-- A run of some characters that cannot be longer is found by taking as many as there are. -/
theorem exists_run_iff {p : Char → Bool} {Q : List Char → Prop}
    (hends : ∀ rest, Q rest → ∀ c ∈ rest.head?, p c = false) (cs : List Char) :
    (∃ run rest, cs = run ++ rest ∧ (run ≠ [] ∧ ∀ c ∈ run, p c = true) ∧ Q rest) ↔
      cs.takeWhile p ≠ [] ∧ Q (cs.dropWhile p) := by
  constructor
  · rintro ⟨run, rest, rfl, ⟨hne, hrun⟩, hrest⟩
    have hstop : rest.takeWhile p = [] ∧ rest.dropWhile p = rest := by
      cases rest with
      | nil => exact ⟨rfl, rfl⟩
      | cons c rest =>
        have hc : p c = false := hends _ hrest c rfl
        exact ⟨by simp [hc], by simp [hc]⟩
    rw [List.takeWhile_append_of_pos hrun, List.dropWhile_append_of_pos hrun, hstop.1, hstop.2]
    exact ⟨by simpa using hne, hrest⟩
  · rintro ⟨hne, hrest⟩
    exact ⟨cs.takeWhile p, cs.dropWhile p, List.takeWhile_append_dropWhile.symm,
      ⟨hne, fun c hc => List.mem_takeWhile_imp hc⟩, hrest⟩

theorem taskNumberHere_iff {cs : List Char} : taskNumberHere cs = true ↔
    ∃ number after, cs = '-' :: number ++ ']' :: after ∧
      number ≠ [] ∧ ∀ c ∈ number, c.isDigit = true := by
  have hhead : ∀ rest : List Char, rest.head? = some ']' ↔ ∃ after, rest = ']' :: after := by
    intro rest
    cases rest <;> simp
  have hends : ∀ rest : List Char, (∃ after, rest = ']' :: after) →
      ∀ c ∈ rest.head?, c.isDigit = false := by
    rintro rest ⟨after, rfl⟩ c hc
    obtain rfl : ']' = c := by simpa using hc
    decide
  rw [taskNumberHere.eq_def]
  split
  · simp only [Bool.and_eq_true, Bool.not_eq_true', decide_eq_true_eq, List.isEmpty_eq_false_iff,
      hhead, ← exists_run_iff hends]
    constructor
    · rintro ⟨number, _, rfl, hnumber, after, rfl⟩
      exact ⟨number, after, rfl, hnumber⟩
    · rintro ⟨number, after, hcs, hnumber⟩
      exact ⟨number, ']' :: after, (List.cons_eq_cons.mp hcs).2, hnumber, after, rfl⟩
  next hother =>
    refine iff_of_false (by simp) ?_
    rintro ⟨number, after, rfl, -⟩
    exact hother _ rfl

theorem taskIdHere_iff {cs : List Char} :
    taskIdHere cs = true ↔ ∃ id, id <+: cs ∧ TaskId id := by
  -- a hyphen is no key character, so the key is all there is up to the hyphen
  have hends : ∀ rest : List Char, taskNumberHere rest = true →
      ∀ c ∈ rest.head?, isKeyChar c = false := by
    intro rest hrest c hc
    obtain ⟨number, after, rfl, -⟩ := taskNumberHere_iff.mp hrest
    obtain rfl : '-' = c := by simpa using hc
    decide
  rw [taskIdHere.eq_def]
  split
  next first cs =>
    simp only [Bool.and_eq_true, Bool.not_eq_true', List.isEmpty_eq_false_iff, and_assoc,
      ← exists_run_iff hends]
    constructor
    · rintro ⟨hfirst, key, _, rfl, hne, hkey, hnumber⟩
      obtain ⟨number, after, rfl, hdigits⟩ := taskNumberHere_iff.mp hnumber
      exact ⟨'[' :: first :: key ++ '-' :: number ++ [']'], ⟨after, by simp⟩, first, key, number,
        rfl, isUpper_iff.mp hfirst, ⟨hne, fun c hc => isKeyChar_iff.mp (hkey c hc)⟩, hdigits.1,
        fun c hc => isDigit_iff.mp (hdigits.2 c hc)⟩
    · rintro ⟨_, ⟨after, hcs⟩, first', key, number, rfl, hfirst, ⟨hne, hkey⟩, hnumber⟩
      simp only [List.cons_append, List.cons_eq_cons, true_and, List.append_assoc] at hcs
      obtain ⟨rfl, rfl⟩ := hcs
      refine ⟨isUpper_iff.mpr hfirst, key, '-' :: number ++ ']' :: after, by simp, hne,
        fun c hc => isKeyChar_iff.mpr (hkey c hc), ?_⟩
      exact taskNumberHere_iff.mpr ⟨number, after, rfl, hnumber.1,
        fun c hc => isDigit_iff.mpr (hnumber.2 c hc)⟩
  next hother =>
    refine iff_of_false (by simp) ?_
    rintro ⟨_, ⟨after, hcs⟩, first, key, number, rfl, -⟩
    exact hother _ _ hcs.symm

theorem hasTaskId_iff {cs : List Char} : hasTaskId cs = true ↔ ∃ id, id <:+: cs ∧ TaskId id := by
  induction cs with
  | nil =>
    refine iff_of_false (by simp [hasTaskId]) ?_
    rintro ⟨id, hid, first, key, number, rfl, -⟩
    simp at hid
  | cons c cs ih =>
    rw [hasTaskId, Bool.or_eq_true, taskIdHere_iff, ih]
    constructor
    · rintro (⟨id, hid, htask⟩ | ⟨id, hid, htask⟩)
      · exact ⟨id, hid.isInfix, htask⟩
      · exact ⟨id, List.infix_cons hid, htask⟩
    · rintro ⟨id, hid, htask⟩
      rcases List.infix_cons_iff.mp hid with hhere | hlater
      · exact Or.inl ⟨id, hhere, htask⟩
      · exact Or.inr ⟨id, hlater, htask⟩

/-! ### Annotations -/

/-- A character behind the first one of a run is one with at least one character of the run before it. -/
theorem mem_drop_takeWhile_iff {p : Char → Bool} {cs : List Char} {c : Char} (hc : p c = true) :
    c ∈ (cs.takeWhile p).drop 1 ↔
      ∃ inside after, cs = inside ++ c :: after ∧ inside ≠ [] ∧ ∀ d ∈ inside, p d = true := by
  constructor
  · intro hmem
    have hrun : ∀ d ∈ cs.takeWhile p, p d = true := fun d hd => List.mem_takeWhile_imp hd
    have hcs : cs.takeWhile p ++ cs.dropWhile p = cs := List.takeWhile_append_dropWhile
    cases hwhole : cs.takeWhile p with
    | nil => simp [hwhole] at hmem
    | cons x run =>
      rw [hwhole] at hmem hrun hcs
      obtain ⟨s, t, rfl⟩ := List.append_of_mem (by simpa using hmem : c ∈ run)
      refine ⟨x :: s, t ++ cs.dropWhile p, by simpa using hcs.symm, by simp, fun d hd => ?_⟩
      exact hrun d (by simpa using (List.mem_cons.mp hd).imp_right Or.inl)
  · rintro ⟨inside, after, rfl, hne, hinside⟩
    rw [List.takeWhile_append_of_pos hinside, List.takeWhile_cons_of_pos hc]
    obtain ⟨x, inside, rfl⟩ := List.exists_cons_of_ne_nil hne
    simp

theorem noteHere_iff {cs : List Char} : noteHere cs = true ↔
    ∃ inside after, cs = '(' :: inside ++ ')' :: after ∧ inside ≠ [] ∧
      ∀ c ∈ inside, Text.isLineEnd c = false := by
  rw [noteHere.eq_def]
  split
  next cs =>
    rw [List.contains_iff_mem, mem_drop_takeWhile_iff (by decide)]
    simp
  next hother =>
    refine iff_of_false (by simp) ?_
    rintro ⟨inside, after, rfl, -⟩
    exact hother _ rfl

theorem hasNote_iff_exists {cs : List Char} : hasNote cs = true ↔
    ∃ before inside after, cs = before ++ '(' :: inside ++ ')' :: after ∧ inside ≠ [] ∧
      ∀ c ∈ inside, Text.isLineEnd c = false := by
  induction cs with
  | nil => simp [hasNote]
  | cons c cs ih =>
    rw [hasNote, Bool.or_eq_true, noteHere_iff, ih]
    constructor
    · rintro (⟨inside, after, hcs, hinside⟩ | ⟨before, inside, after, rfl, hinside⟩)
      · exact ⟨[], inside, after, hcs, hinside⟩
      · exact ⟨c :: before, inside, after, rfl, hinside⟩
    · rintro ⟨before, inside, after, hcs, hinside⟩
      cases before with
      | nil => exact Or.inl ⟨inside, after, hcs, hinside⟩
      | cons d before =>
        exact Or.inr ⟨before, inside, after, (List.cons_eq_cons.mp hcs).2, hinside⟩

theorem isLineEnd_eq_false_iff {c : Char} : Text.isLineEnd c = false ↔
    c ≠ '\n' ∧ c ≠ '\r' ∧ c ≠ '\u2028' ∧ c ≠ '\u2029' := by
  simp [Text.isLineEnd, and_assoc]

theorem hasNote_iff {cs : List Char} : hasNote cs = true ↔ Noted cs := by
  rw [hasNote_iff_exists]
  constructor
  · rintro ⟨before, inside, after, rfl, hne, hinside⟩
    have hlength := List.length_pos_iff.mpr hne
    refine ⟨before.length, before.length + 1 + inside.length, by simp, ?_, by omega, ?_⟩
    · have hlate : (before ++ '(' :: inside).length = before.length + 1 + inside.length := by
        simp; omega
      rw [← hlate, List.getElem?_append_right (le_refl _)]
      simp
    · intro m c him hmj hc
      -- a place between the two parentheses is one of `inside`
      obtain ⟨k, rfl⟩ : ∃ k, m = before.length + (k + 1) := ⟨m - before.length - 1, by omega⟩
      have hk : k < inside.length := by omega
      have hmem : inside[k]? = some c := by
        simpa [List.append_assoc, List.getElem?_append_right, List.getElem?_append_left hk] using hc
      exact isLineEnd_eq_false_iff.mp (hinside c (List.mem_of_getElem? hmem))
  · rintro ⟨i, j, hi, hj, hij, hline⟩
    obtain ⟨hilt, hi⟩ := List.getElem?_eq_some_iff.mp hi
    obtain ⟨hjlt, hj⟩ := List.getElem?_eq_some_iff.mp hj
    refine ⟨cs.take i, (cs.drop (i + 1)).take (j - (i + 1)), cs.drop (j + 1), ?_, ?_, ?_⟩
    · -- cut the text in front of both parentheses and join the three parts again
      have hopen : cs.drop i = '(' :: cs.drop (i + 1) := hi ▸ List.drop_eq_getElem_cons hilt
      have hclose : cs.drop j = ')' :: cs.drop (j + 1) := hj ▸ List.drop_eq_getElem_cons hjlt
      have hbetween : (cs.drop (i + 1)).take (j - (i + 1)) ++ cs.drop j = cs.drop (i + 1) := by
        have hdrop : cs.drop j = (cs.drop (i + 1)).drop (j - (i + 1)) := by
          rw [List.drop_drop]
          congr 1
          omega
        rw [hdrop, List.take_append_drop]
      rw [List.append_assoc, ← hclose, List.cons_append, hbetween, ← hopen, List.take_append_drop]
    · refine List.ne_nil_of_length_pos ?_
      rw [List.length_take, List.length_drop]
      omega
    · intro c hc
      obtain ⟨k, hk⟩ := List.mem_iff_getElem?.mp hc
      rw [List.getElem?_take] at hk
      split_ifs at hk with hlt
      rw [List.getElem?_drop] at hk
      exact isLineEnd_eq_false_iff.mpr (hline (i + 1 + k) c (by omega) (by omega) hk)

example : hasNote ['(', ')', ')'] = true ∧ hasNote ['(', ')'] = false := by decide

/-- **The unspecified comments**: a marker stands in the text as a word of its own, no part of the text
is a task id, and no line of it holds an annotation. -/
theorem isUnspecified_iff (cs : List Char) : isUnspecified cs = true ↔
    Marked cs ∧ (¬ ∃ id, id <:+: cs ∧ TaskId id) ∧ ¬ Noted cs := by
  rw [isUnspecified, Bool.and_eq_true, Bool.and_eq_true, Bool.not_eq_true', Bool.not_eq_true',
    ← Bool.not_eq_true, ← Bool.not_eq_true, hasMarker_iff, hasTaskId_iff, hasNote_iff, and_assoc]

end ChainLint.Marker
