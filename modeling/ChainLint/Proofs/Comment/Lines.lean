import Mathlib.Data.List.Infix
import Mathlib.Tactic.Push
import ChainLint.Comment.Marker

/-!
# Comments of several lines

A comment is one text however many lines it has, and yet each of the three searches finds in it what
it finds on its lines one by one: no marker, task id or annotation lies across the end of a line, and
a line end bounds a word as the ends of a text do.

* `lines cs`: the lines of a text.
* `Linewise test`: a test finds in a text what it finds on one of the two sides of a line end.
* `markerHere_append`, `taskIdHere_append`, `noteHere_append`: what stands at the head of a text is
  told by its first line.
* `isUnspecified_lines`: the verdict on a comment from the tests of its lines.
-/

namespace ChainLint.Marker

/-- The characters that end a line. -/
def lineEnds : List Char := ['\n', '\r', '\u2028', '\u2029']

/-- The lines of a text, without the characters that end them. -/
def lines (cs : List Char) : List (List Char) := cs.splitOnP fun c => lineEnds.contains c

/-- A test finds something in a text just when it does so before or behind a line end, and it finds
nothing where there is nothing. -/
structure Linewise (test : List Char → Bool) : Prop where
  nil : test [] = false
  append : ∀ c ∈ lineEnds, ∀ front back, test (front ++ c :: back) = (test front || test back)

/-- Such a test finds in a text what it finds on its lines. -/
theorem Linewise.any_lines {test : List Char → Bool} (h : Linewise test) (cs : List Char) :
    test cs = (lines cs).any test := by
  by_cases hone : ∀ c ∈ cs, lineEnds.contains c = false
  · rw [lines, List.splitOnP_eq_singleton hone]
    simp
  · push Not at hone
    obtain ⟨c, hc, hend⟩ := hone
    obtain ⟨front, back, rfl⟩ := List.append_of_mem hc
    have hend' : lineEnds.contains c = true := Bool.of_not_eq_false hend
    rw [h.append c (List.contains_iff_mem.mp hend') front back, h.any_lines front, h.any_lines back,
      ← List.any_append, lines, lines, lines, List.splitOnP_append_cons front back hend']
termination_by cs.length

/-! ### The head of a text -/

theorem taskNumberHere_of_ne {d : Char} {cs : List Char} (h : d ≠ '-') :
    taskNumberHere (d :: cs) = false :=
  taskNumberHere.eq_2 _ fun _ hcs => h (List.cons_eq_cons.mp hcs).1

theorem taskIdHere_of_ne {d : Char} {cs : List Char} (h : d ≠ '[') : taskIdHere (d :: cs) = false :=
  taskIdHere.eq_2 _ fun _ _ hcs => h (List.cons_eq_cons.mp hcs).1

theorem noteHere_of_ne {d : Char} {cs : List Char} (h : d ≠ '(') : noteHere (d :: cs) = false :=
  noteHere.eq_2 _ fun _ hcs => h (List.cons_eq_cons.mp hcs).1

theorem mem_lineEnds {c : Char} :
    c ∈ lineEnds ↔ c = '\n' ∨ c = '\r' ∨ c = '\u2028' ∨ c = '\u2029' := by
  simp [lineEnds]

/-- A line end is in none of the patterns. -/
theorem lineEnd_bounds {c : Char} (hc : c ∈ lineEnds) :
    isWordChar c = false ∧ isKeyChar c = false ∧ c.isDigit = false ∧ Text.isLineEnd c = true ∧
      c ∉ ['[', ']', '(', '-'] := by
  rcases mem_lineEnds.mp hc with rfl | rfl | rfl | rfl <;> decide

/-- A line end is in none of the words. -/
theorem toLower_not_mem {c : Char} (hc : c ∈ lineEnds) {word : List Char} (hword : word ∈ words) :
    c.toLower ∉ word := by
  have hwords : words = [['t', 'o', 'd', 'o'], ['f', 'i', 'x', 'm', 'e']] := by decide
  rw [hwords, List.mem_pair] at hword
  rcases mem_lineEnds.mp hc with rfl | rfl | rfl | rfl <;> rcases hword with rfl | rfl <;> decide

section Head

variable {c : Char} {front back : List Char}

/-- A word is spelled before a character that it does not have, or not at all. -/
theorem afterWord?_append {word : List Char} (h : c.toLower ∉ word) :
    afterWord? word (front ++ c :: back) = (afterWord? word front).map (· ++ c :: back) := by
  induction word generalizing front with
  | nil => rfl
  | cons letter word ih =>
    obtain ⟨hne, hrest⟩ := not_or.mp (mt List.mem_cons.mpr h)
    cases front with
    | nil => exact if_neg hne
    | cons d front =>
      rw [List.cons_append, afterWord?, afterWord?]
      split_ifs
      · exact ih hrest
      · rfl

theorem takeWhile_append_stop {p : Char → Bool} (h : p c = false) :
    (front ++ c :: back).takeWhile p = front.takeWhile p := by
  induction front with
  | nil => simp [h]
  | cons d front ih => simp only [List.cons_append, List.takeWhile_cons, ih]

theorem dropWhile_append_stop {p : Char → Bool} (h : p c = false) :
    (front ++ c :: back).dropWhile p = front.dropWhile p ++ c :: back := by
  induction front with
  | nil => simp [h]
  | cons d front ih =>
    rw [List.cons_append, List.dropWhile_cons, List.dropWhile_cons, ih]
    split_ifs <;> rfl

variable (hc : c ∈ lineEnds)

include hc

theorem atWordEnd_append : atWordEnd (front ++ c :: back) = atWordEnd front := by
  cases front with
  | nil => simp [atWordEnd, (lineEnd_bounds hc).1]
  | cons d front => rfl

theorem markerHere_append : markerHere (front ++ c :: back) = markerHere front := by
  rw [markerHere, markerHere, Bool.eq_iff_iff, List.any_eq_true, List.any_eq_true]
  refine exists_congr fun word => and_congr_right fun hmem => ?_
  rw [afterWord?_append (toLower_not_mem hc hmem), Option.any_map]
  simp only [atWordEnd_append hc]

theorem taskNumberHere_append : taskNumberHere (front ++ c :: back) = taskNumberHere front := by
  obtain ⟨-, -, hdigit, -, hmarks⟩ := lineEnd_bounds hc
  have hhead : ∀ text : List Char, (text ++ c :: back).head? = some ']' ↔ text.head? = some ']' := by
    intro text
    cases text <;> simp_all
  cases front with
  | nil => exact taskNumberHere_of_ne fun h => by simp [h] at hmarks
  | cons d front =>
    by_cases hd : d = '-'
    · subst hd
      rw [List.cons_append, taskNumberHere, taskNumberHere, takeWhile_append_stop hdigit,
        dropWhile_append_stop hdigit]
      simp only [hhead]
    · rw [List.cons_append, taskNumberHere_of_ne hd, taskNumberHere_of_ne hd]

theorem taskIdHere_append : taskIdHere (front ++ c :: back) = taskIdHere front := by
  obtain ⟨-, hkey, -, -, hmarks⟩ := lineEnd_bounds hc
  have hupper : c.isUpper = false := (Bool.or_eq_false_iff.mp hkey).1
  cases front with
  | nil => exact taskIdHere_of_ne fun h => by simp [h] at hmarks
  | cons d front =>
    by_cases hd : d = '['
    · subst hd
      cases front with
      | nil => simp [taskIdHere, hupper]
      | cons first front =>
        rw [List.cons_append, List.cons_append, taskIdHere, taskIdHere,
          takeWhile_append_stop hkey, dropWhile_append_stop hkey,
          taskNumberHere_append hc]
    · rw [List.cons_append, taskIdHere_of_ne hd, taskIdHere_of_ne hd]

theorem noteHere_append : noteHere (front ++ c :: back) = noteHere front := by
  obtain ⟨-, -, -, hend, hmarks⟩ := lineEnd_bounds hc
  cases front with
  | nil => exact noteHere_of_ne fun h => by simp [h] at hmarks
  | cons d front =>
    by_cases hd : d = '('
    · subst hd
      rw [List.cons_append, noteHere, noteHere, takeWhile_append_stop (by simp [hend])]
    · rw [List.cons_append, noteHere_of_ne hd, noteHere_of_ne hd]

end Head

/-! ### The three searches -/

/-- A search at every place is linewise when what it looks for is told by the first line. -/
theorem Linewise.of_here {test here : List Char → Bool} (hnil : test [] = false)
    (hcons : ∀ c cs, test (c :: cs) = (here (c :: cs) || test cs)) (hnone : here [] = false)
    (hhere : ∀ c ∈ lineEnds, ∀ front back, here (front ++ c :: back) = here front) :
    Linewise test where
  nil := hnil
  append c hc front back := by
    induction front with
    | nil =>
      have hend : here (c :: back) = false := (hhere c hc [] back).trans hnone
      rw [List.nil_append, hcons, hend, hnil]
    | cons d front ih =>
      have hfirst : here (d :: (front ++ c :: back)) = here (d :: front) :=
        hhere c hc (d :: front) back
      rw [List.cons_append, hcons, hcons, ih, hfirst, Bool.or_assoc]

theorem linewise_hasTaskId : Linewise hasTaskId :=
  .of_here rfl (fun _ _ => rfl) rfl fun _ hc _ _ => taskIdHere_append hc

theorem linewise_hasNote : Linewise hasNote :=
  .of_here rfl (fun _ _ => rfl) rfl fun _ hc _ _ => noteHere_append hc

/-- The search for a marker goes on behind a line end as it began. -/
theorem markerFrom_append {c : Char} (hc : c ∈ lineEnds) (inWord : Bool) (front back : List Char) :
    markerFrom inWord (front ++ c :: back) = (markerFrom inWord front || markerFrom false back) := by
  induction front generalizing inWord with
  | nil =>
    have hend : markerHere (c :: back) = false := @markerHere_append c [] back hc
    simp [markerFrom, hend, (lineEnd_bounds hc).1]
  | cons d front ih =>
    have hfirst : markerHere (d :: (front ++ c :: back)) = markerHere (d :: front) :=
      @markerHere_append c (d :: front) back hc
    rw [List.cons_append, markerFrom, markerFrom, ih, hfirst, Bool.or_assoc]

theorem linewise_hasMarker : Linewise hasMarker where
  nil := rfl
  append _ hc front back := markerFrom_append hc false front back

/-- **A comment line by line.**  A marker, a task id or an annotation stands in a text just when it
stands on one of its lines.  So a comment is unspecified when one of its lines has a marker and none
has a task id or an annotation, whichever lines these are. -/
theorem isUnspecified_lines (cs : List Char) :
    (hasMarker cs = true ↔ ∃ line ∈ lines cs, hasMarker line = true) ∧
    (hasTaskId cs = true ↔ ∃ line ∈ lines cs, hasTaskId line = true) ∧
    (hasNote cs = true ↔ ∃ line ∈ lines cs, hasNote line = true) ∧
    (isUnspecified cs = true ↔ (∃ line ∈ lines cs, hasMarker line = true) ∧
      (∀ line ∈ lines cs, hasTaskId line = false) ∧ ∀ line ∈ lines cs, hasNote line = false) := by
  have hmarker : hasMarker cs = true ↔ ∃ line ∈ lines cs, hasMarker line = true := by
    rw [linewise_hasMarker.any_lines, List.any_eq_true]
  have htask : hasTaskId cs = true ↔ ∃ line ∈ lines cs, hasTaskId line = true := by
    rw [linewise_hasTaskId.any_lines, List.any_eq_true]
  have hnote : hasNote cs = true ↔ ∃ line ∈ lines cs, hasNote line = true := by
    rw [linewise_hasNote.any_lines, List.any_eq_true]
  refine ⟨hmarker, htask, hnote, ?_⟩
  rw [isUnspecified, Bool.and_eq_true, Bool.and_eq_true, hmarker, linewise_hasTaskId.any_lines,
    linewise_hasNote.any_lines, Bool.not_eq_true', Bool.not_eq_true', List.any_eq_false,
    List.any_eq_false, and_assoc]
  simp only [Bool.not_eq_true]

example : isUnspecified "todo (a
b)".toList = true ∧ isUnspecified "todo
(a b)".toList = false := by
  decide

end ChainLint.Marker
