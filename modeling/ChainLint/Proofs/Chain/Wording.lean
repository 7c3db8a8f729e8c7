import Mathlib.Data.Set.Operations
import ChainLint.Proofs.Chain.Examine
import ChainLint.Text.Identifier

/-!
# What the message on a chain says

A finding on a chain names its brand checks in its message and nowhere else.  A source calls methods
by identifiers, and these can be read back from the message: they stand between its brackets, and what
stands beside them there is no part of an identifier.

* `Text.names text`: the stretches of characters of identifiers in a text.
* `Diagnostic.listed d`: the names that the message of a finding lists.
* `Text.names_append_cons`: a character that no identifier holds parts the names on its two sides.
* `listed_warning`: a finding lists the names that its message was made of.
* `message_injOn`: lists of identifiers are told apart by their messages.
-/

namespace ChainLint

namespace Text

/-- A name has some characters, and identifiers may hold all of them. -/
def IsName (name : String) : Prop := name ≠ "" ∧ ∀ c ∈ name.toList, isNamePart c = true

instance (name : String) : Decidable (IsName name) :=
  decidable_of_iff (name ≠ "" ∧ name.toList.all isNamePart = true) (by rw [IsName, List.all_eq_true])

/-- The stretches of characters of identifiers in a text. -/
def names (text : List Char) : List String :=
  ((text.splitOnP fun c => !isNamePart c).filter (· ≠ [])).map String.ofList

@[simp] theorem names_nil : names [] = [] := by simp [names]

/-- A character that no identifier holds parts the names on its two sides. -/
theorem names_append_cons {c : Char} (hc : isNamePart c = false) (before after : List Char) :
    names (before ++ c :: after) = names before ++ names after := by
  have hsep : (!isNamePart c) = true := by rw [hc]; rfl
  rw [names, List.splitOnP_append_cons before after hsep, List.filter_append, List.map_append]
  rfl

/-- Characters that no identifier holds belong to no name. -/
theorem names_append_of_forall {gap : List Char} (h : ∀ c ∈ gap, isNamePart c = false)
    (text : List Char) : names (gap ++ text) = names text := by
  induction gap with
  | nil => rfl
  | cons c gap ih =>
    have hc : names ([] ++ c :: (gap ++ text)) = names [] ++ names (gap ++ text) :=
      names_append_cons (h c List.mem_cons_self) [] (gap ++ text)
    exact hc.trans (ih fun c' hc' => h c' (List.mem_cons_of_mem c hc'))

theorem names_toList {name : String} (h : IsName name) : names name.toList = [name] := by
  have hne : name.toList ≠ [] := fun hnil => h.1 (String.toList_eq_nil_iff.mp hnil)
  have hwhole : name.toList.splitOnP (fun c => !isNamePart c) = [name.toList] :=
    List.splitOnP_eq_singleton fun c hc => by rw [h.2 c hc]; rfl
  rw [names, hwhole]
  simp [hne]

end Text

namespace ChainRule

variable {ns : List String}

/-! ### The calls in a message -/

/-- The calls that a message lists. -/
def callsText (ns : List String) : List Char := (", ".intercalate (ns.map (· ++ "()"))).toList

/-- What parts a call in a message from those behind it belongs to no name, and does not end the list. -/
theorem callsText_cons (name : String) (ns : List String) :
    ∃ gap, (∀ c ∈ gap, Text.isNamePart c = false) ∧ ']' ∉ gap ∧
      callsText (name :: ns) = name.toList ++ '(' :: (gap ++ callsText ns) := by
  have hclose : ∀ c ∈ [')'], Text.isNamePart c = false := List.forall_mem_singleton.mpr (by decide)
  cases ns with
  | nil => exact ⟨[')'], hclose, by simp, by simp [callsText]⟩
  | cons next ns =>
    have hcomma : ∀ c ∈ [',', ' '], Text.isNamePart c = false :=
      List.forall_mem_cons.mpr ⟨by decide, List.forall_mem_singleton.mpr (by decide)⟩
    exact ⟨[')'] ++ [',', ' '], List.forall_mem_append.mpr ⟨hclose, hcomma⟩, by simp, by simp [callsText]⟩

theorem names_callsText (h : ∀ name ∈ ns, Text.IsName name) : Text.names (callsText ns) = ns := by
  induction ns with
  | nil => simp [callsText]
  | cons name ns ih =>
    obtain ⟨gap, hgap, -, htext⟩ := callsText_cons name ns
    have hopen : Text.isNamePart '(' = false := by decide
    rw [htext, Text.names_append_cons hopen, Text.names_append_of_forall hgap,
      Text.names_toList (h name List.mem_cons_self), ih fun n hn => h n (List.mem_cons_of_mem name hn)]
    rfl

/-- No call in a message holds the bracket that ends the list. -/
theorem ne_bracket_of_mem_callsText (h : ∀ name ∈ ns, Text.IsName name) :
    ∀ c ∈ callsText ns, c ≠ ']' := by
  induction ns with
  | nil => simp [callsText]
  | cons name ns ih =>
    obtain ⟨gap, -, hgap, htext⟩ := callsText_cons name ns
    intro c hc
    rw [htext, List.mem_append, List.mem_cons, List.mem_append] at hc
    rcases hc with hname | rfl | hgap' | hrest
    · rintro rfl
      have hpart := (h name List.mem_cons_self).2 ']' hname
      exact absurd hpart (by decide)
    · decide
    · rintro rfl
      exact hgap hgap'
    · exact ih (fun n hn => h n (List.mem_cons_of_mem name hn)) c hrest

/-- The calls stand between the first bracket of a message and the next one that closes. -/
theorem toList_message (ns : List String) : ∃ front back, (∀ c ∈ front, c ≠ '[') ∧
    (message ns).toList = front ++ '[' :: (callsText ns ++ ']' :: back) := by
  refine ⟨"Call brand check method too many times ".toList,
    (", please add a new field (isXXXX) in 'brandFeaturesConfig', " ++
      "and use \"getBrandFeatures().isXXXX\" here.").toList, ?_, ?_⟩
  · simp
  · -- an equation for `message` would be looked for by evaluating its text
    delta message
    simp [callsText]

end ChainRule

/-! ### The names in a finding -/

/-- The names that a finding on a chain lists: those between the brackets of its message. -/
def Diagnostic.listed (d : Diagnostic) : List String :=
  Text.names ((d.message.toList.dropWhile (· ≠ '[')).takeWhile (· ≠ ']'))

namespace ChainRule

variable {rule : ChainRule} {ns : List String}

/-- **A finding on a chain lists the names that its message was made of.** -/
theorem listed_warning (h : ∀ name ∈ ns, Text.IsName name) (span : Span) :
    (Diagnostic.warning Rule.chainName span (message ns)).listed = ns := by
  obtain ⟨front, back, hfront, hmessage⟩ := toList_message ns
  have hbefore : ∀ c ∈ front, decide (c ≠ '[') = true := fun c hc => decide_eq_true (hfront c hc)
  have hinside : ∀ c ∈ '[' :: callsText ns, decide (c ≠ ']') = true := by
    simpa using ne_bracket_of_mem_callsText h
  have hopen : ∀ c ∈ ['['], Text.isNamePart c = false := List.forall_mem_singleton.mpr (by decide)
  have hlisted : (((message ns).toList.dropWhile (· ≠ '[')).takeWhile (· ≠ ']')) =
      ['['] ++ callsText ns := by
    rw [hmessage, List.dropWhile_append_of_pos hbefore, List.dropWhile_cons_of_neg (by simp),
      ← List.cons_append, List.takeWhile_append_of_pos hinside, List.takeWhile_cons_of_neg (by simp),
      List.append_nil]
    rfl
  rw [Diagnostic.listed, Diagnostic.warning, hlisted, Text.names_append_of_forall hopen,
    names_callsText h]

/-- Lists of identifiers are told apart by the messages on them. -/
theorem message_injOn : Set.InjOn message {ns | ∀ name ∈ ns, Text.IsName name} := by
  intro ns hns ns' hns' heq
  have hsame := congrArg (fun m => (Diagnostic.warning Rule.chainName ⟨0, 0⟩ m).listed) heq
  simp only [listed_warning hns, listed_warning hns'] at hsame
  exact hsame

theorem mem_methods_of_brandCall {name : String} {s : Span} : ∀ {e : Expr},
    brandCall rule e = some (name, s) → name ∈ rule.methods
  | .paren _ e, h => mem_methods_of_brandCall (e := e) h
  | .not _ e, h => mem_methods_of_brandCall (e := e) h
  | .call _ f _, h => by
    simp only [brandCall, Option.map_eq_some_iff, Prod.mk.injEq] at h
    obtain ⟨_, hm, rfl, -⟩ := h
    exact (calledMethod_eq_some.mp hm).1

/-- A rule whose methods are identifiers counts calls of identifiers only. -/
theorem isName_of_mem_calls (h : ∀ name ∈ rule.methods, Text.IsName name) {es : List Expr} :
    ∀ name ∈ (calls rule es).map Prod.fst, Text.IsName name := by
  intro name hname
  obtain ⟨⟨_, s⟩, hcall, rfl⟩ := List.mem_map.mp hname
  obtain ⟨e, -, he⟩ := List.mem_filterMap.mp hcall
  exact h _ (mem_methods_of_brandCall he)

end ChainRule

end ChainLint
