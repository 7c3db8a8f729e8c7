import ChainLint.Comment.Body
import ChainLint.Proofs.Text.Slices

/-!
# The delimiters of a comment

What a span covers falls into an opening delimiter, the body of the comment and a closing delimiter, side
by side, so that no character belongs to two of them: behind the opening pair of `/*/` there is a slash
and no closing pair.

* `Comment.Delimited opening text closing`: the delimiters between which a text stands.
* `Comment.Delimited.bare_eq`, `Comment.exists_delimited`: the text of a comment is what is left without
  its delimiters.
* `Comment.body_exact`: the body of a comment, for the span of a comment and for every other span.
-/

namespace ChainLint.Comment

variable {source cs opening text closing : List Char} {span : Span}

/-! ### Delimiters -/

/-- How the text of a comment stands between its delimiters. -/
inductive Delimited : List Char → List Char → List Char → Prop
  /-- Whatever follows two slashes, to the end. -/
  | line (text : List Char) : Delimited ['/', '/'] text []
  /-- Whatever stands between the slash-star pair. -/
  | block (text : List Char) : Delimited ['/', '*'] text ['*', '/']
  /-- What follows an opening pair alone does not end with a closing one. -/
  | unclosed (text : List Char) (h : ¬ ['*', '/'] <:+ text) : Delimited ['/', '*'] text []
  /-- What has no delimiters begins with neither. -/
  | plain (text : List Char) (hline : ¬ ['/', '/'] <+: text) (hblock : ¬ ['/', '*'] <+: text) :
    Delimited [] text []

theorem dropClosing_append (text : List Char) : dropClosing (text ++ ['*', '/']) = text := by
  have hclosed : ['*', '/'].isSuffixOf (text ++ ['*', '/']) = true :=
    List.isSuffixOf_iff_suffix.mpr ⟨text, rfl⟩
  rw [dropClosing, if_pos hclosed]
  simp

theorem dropClosing_of_not_suffix (h : ¬ ['*', '/'] <:+ cs) : dropClosing cs = cs :=
  if_neg (mt List.isSuffixOf_iff_suffix.mp h)

/-- The text between delimiters is what is left without them. -/
theorem Delimited.bare_eq (h : Delimited opening text closing) :
    bare (opening ++ text ++ closing) = text := by
  cases h with
  | line => exact List.append_nil text
  | block => exact dropClosing_append text
  | unclosed _ h =>
    rw [List.append_nil]
    exact dropClosing_of_not_suffix h
  | plain _ hline hblock =>
    rw [List.nil_append, List.append_nil]
    exact bare.eq_3 text (fun cs hcs => hline ⟨cs, hcs.symm⟩) fun cs hcs => hblock ⟨cs, hcs.symm⟩

/-- Every text falls into delimiters, side by side, and what is left without them. -/
theorem exists_delimited (cs : List Char) :
    ∃ opening closing, cs = opening ++ bare cs ++ closing ∧ Delimited opening (bare cs) closing := by
  fun_cases bare cs with
  | case1 cs => exact ⟨['/', '/'], [], by simp, .line cs⟩
  | case2 cs =>
    by_cases hclosed : ['*', '/'] <:+ cs
    · obtain ⟨text, rfl⟩ := hclosed
      rw [dropClosing_append]
      exact ⟨['/', '*'], ['*', '/'], by simp, .block text⟩
    · rw [dropClosing_of_not_suffix hclosed]
      exact ⟨['/', '*'], [], by simp, .unclosed cs hclosed⟩
  | case3 cs hline hblock =>
    refine ⟨[], [], by simp, .plain _ ?_ ?_⟩
    · rintro ⟨rest, rfl⟩
      exact hline rest rfl
    · rintro ⟨rest, rfl⟩
      exact hblock rest rfl

/-! ### Bodies -/

theorem body_of_covers (hcovers : Text.Covers source span (opening ++ text ++ closing))
    (h : Delimited opening text closing) : body source span = text := by
  rw [body, Text.slice?_eq_some_iff.mpr hcovers, Option.getD_some, h.bare_eq]

theorem body_of_slice?_eq_none (h : Text.slice? source span = none) : body source span = [] := by
  rw [body, h, Option.getD_none]
  rfl

/-- A body stands between the delimiters of what the span covers; where it covers nothing there is no
body. -/
theorem body_eq_iff : body source span = text ↔
    (∃ opening closing, Text.Covers source span (opening ++ text ++ closing) ∧
      Delimited opening text closing) ∨ Text.slice? source span = none ∧ text = [] := by
  constructor
  · rintro rfl
    cases hslice : Text.slice? source span with
    | none => exact Or.inr ⟨rfl, body_of_slice?_eq_none hslice⟩
    | some part =>
      have hbody : body source span = bare part := by rw [body, hslice, Option.getD_some]
      obtain ⟨opening, closing, hpart, h⟩ := exists_delimited part
      rw [hbody]
      exact Or.inl ⟨opening, closing, hpart ▸ Text.slice?_eq_some_iff.mp hslice, h⟩
  · rintro (⟨opening, closing, hcovers, h⟩ | ⟨hnone, rfl⟩)
    · exact body_of_covers hcovers h
    · exact body_of_slice?_eq_none hnone

/-- **The body of a comment** is the text behind two slashes, or the text between a slash-star pair,
whatever that text is and whatever stands around the comment; the body of `/*/` is its last slash.  For
any span the body stands between the delimiters of the part that the span covers, and it is empty for a
span that runs backwards, leaves the source or cuts a character. -/
theorem body_exact :
    (∀ front text back, body (front ++ (['/', '/'] ++ text) ++ back)
      (Text.extent front (['/', '/'] ++ text)) = text) ∧
    (∀ front text back, body (front ++ (['/', '*'] ++ text ++ ['*', '/']) ++ back)
      (Text.extent front (['/', '*'] ++ text ++ ['*', '/'])) = text) ∧
    (∀ front back, body (front ++ ['/', '*', '/'] ++ back)
      (Text.extent front ['/', '*', '/']) = ['/']) ∧
    ∀ source span text, body source span = text ↔
      (∃ opening closing, Text.Covers source span (opening ++ text ++ closing) ∧
        Delimited opening text closing) ∨
      (span.stop < span.start ∨ Text.byteLength source < span.stop ∨
        Text.InCharacter source span.start ∨ Text.InCharacter source span.stop) ∧ text = [] := by
  refine ⟨fun front text back => ?_, fun front text back => ?_, fun front back => ?_,
    fun source span text => ?_⟩
  · exact body_of_covers ⟨front, back, by simp, by simp⟩ (.line text)
  · exact body_of_covers ⟨front, back, rfl, rfl⟩ (.block text)
  · exact body_of_covers ⟨front, back, rfl, rfl⟩ (.unclosed ['/'] (by decide))
  · rw [body_eq_iff, Text.slice?_eq_none_iff]

example : body "é/*é*/*/".toList ⟨2, 10⟩ = ['é', '*', '/'] := by decide

end ChainLint.Comment
