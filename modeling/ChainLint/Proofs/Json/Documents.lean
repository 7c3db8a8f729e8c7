import ChainLint.Proofs.Json.Held
import ChainLint.Proofs.Json.Tokens

/-!
# Documents read back

The compact text of a document without floats is read as that document, and the decoders of its parts
read what they are made for.

* `Reader.Takes r cs a`: reading takes `cs` for `a`, whatever follows that is no part of it.
* `takes_list`, `takes_object`: the inside of brackets, item by item and member by member.
* `takes_value`: any document without floats that text holds.
* `takes_record`: a record, one field after another.
-/

namespace ChainLint.Json

/-- The text of a member. -/
def memberText (m : String × Json) : List Char := stringText m.1 ++ ':' :: compact m.2

theorem compactItems_cons (v : Json) (vs : List Json) :
    compactItems (v :: vs) = compact v ++ vs.flatMap fun w => ',' :: compact w := by
  induction vs generalizing v with
  | nil => rw [compactItems, List.flatMap_nil, List.append_nil]
  | cons w vs ih =>
    have hcomma : compactItems (v :: w :: vs) = compact v ++ ',' :: compactItems (w :: vs) := by
      simp [compactItems]
    rw [hcomma, ih w, List.flatMap_cons, List.cons_append]

theorem compactMembers_cons (m : String × Json) (ms : List (String × Json)) :
    compactMembers (m :: ms) = memberText m ++ ms.flatMap fun m' => ',' :: memberText m' := by
  induction ms generalizing m with
  | nil => rw [compactMembers, List.flatMap_nil, List.append_nil, memberText]
  | cons m' ms ih =>
    have hcomma : compactMembers (m :: m' :: ms) =
        memberText m ++ ',' :: compactMembers (m' :: ms) := by simp [compactMembers, memberText]
    rw [hcomma, ih m', List.flatMap_cons, List.cons_append]

namespace Reader

variable {α β σ : Type} {cs rest : List Char}

/-- Reading takes `cs` for `a`, whatever follows that is no part of it. -/
def Takes (r : Reader α) (cs : List Char) (a : α) : Prop :=
  ∀ rest, Follow rest → Gives r (cs ++ rest) a rest

/-- A text that an item may start with. -/
def Starts (cs : List Char) : Prop :=
  ∃ c cs', cs = c :: cs' ∧ isBlank c = false ∧ c ≠ ']'

theorem follow_nil : Follow [] := fun _ h => by cases h

theorem follow_comma (rest : List Char) : Follow (',' :: rest) := by
  rintro _ ⟨⟩
  decide

theorem follow_bracket (rest : List Char) : Follow (']' :: rest) := by
  rintro _ ⟨⟩
  decide

theorem follow_brace (rest : List Char) : Follow ('}' :: rest) := by
  rintro _ ⟨⟩
  decide

/-- A comma or what closes the brackets follows an item. -/
theorem follow_flatMap {f : α → List Char} (as : List α) (h : Follow rest) :
    Follow ((as.flatMap fun a => ',' :: f a) ++ rest) := by
  cases as with
  | nil => exact h
  | cons a as => exact follow_comma _

/-- Every item behind the first has a comma, so items are counted by characters. -/
theorem length_le_joined (f : α → List Char) (a : α) (as : List α) :
    (a :: as).length ≤ (f a ++ as.flatMap fun a => ',' :: f a).length + 1 := by
  have := length_le_flatMap (fun a => List.cons_ne_nil ',' (f a)) as
  rw [List.length_append, List.length_cons]
  omega

theorem length_le_compactItems (vs : List Json) : vs.length ≤ (compactItems vs).length + 1 := by
  cases vs with
  | nil => exact Nat.zero_le _
  | cons v vs => exact compactItems_cons v vs ▸ length_le_joined compact v vs

theorem length_le_compactMembers (ms : List (String × Json)) :
    ms.length ≤ (compactMembers ms).length + 1 := by
  cases ms with
  | nil => exact Nat.zero_le _
  | cons m ms => exact compactMembers_cons m ms ▸ length_le_joined memberText m ms

/-! ### Items -/

theorem gives_hasItem_close (first : Bool) (rest : List Char) :
    Gives (hasItem first) (']' :: rest) false (']' :: rest) :=
  (gives_token rfl _).bind (gives_pure false _)

theorem gives_hasItem_first (h : Starts cs) : Gives (hasItem true) (cs ++ rest) true (cs ++ rest) := by
  obtain ⟨c, cs, rfl, hblank, hclose⟩ := h
  refine (gives_token hblank _).bind ?_
  split
  · next hc => cases hc
  · next hc => exact absurd (Option.some.inj hc) hclose
  · exact gives_pure true _

theorem gives_hasItem_comma (h : Starts cs) :
    Gives (hasItem false) (',' :: (cs ++ rest)) true (cs ++ rest) := by
  obtain ⟨c, cs, rfl, hblank, hclose⟩ := h
  refine (gives_token rfl _).bind ((gives_advance ',' _).bind ?_)
  refine (gives_token hblank _).bind ?_
  split
  · next hc => exact absurd (Option.some.inj hc) hclose
  · exact gives_pure true _
  · next hc => cases hc

theorem gives_closeList (rest : List Char) : Gives closeList (']' :: rest) () rest :=
  (gives_token rfl _).bind (gives_advance ']' rest)

/-- An item whose text is read as a value. -/
structure TakesItem (item : Reader α) (v : Json) (a : α) : Prop where
  starts : Starts (compact v)
  takes : Takes item (compact v) a

section Items

variable {item : Reader α} {vs : List Json} {as : List α}

theorem gives_items_tail (h : List.Forall₂ (TakesItem item) vs as) :
    ∀ fuel, vs.length ≤ fuel →
      Gives (items item (fuel + 1) false) ((vs.flatMap fun v => ',' :: compact v) ++ ']' :: rest) as
        (']' :: rest) := by
  induction h with
  | nil =>
    intro fuel _
    exact (gives_hasItem_close false rest).bind (gives_pure [] _)
  | @cons v a vs as hv _ ih =>
    intro fuel hfuel
    -- every item takes one unit of fuel, and the length of the list is enough for all
    obtain ⟨more, rfl⟩ := Nat.exists_eq_add_of_le' hfuel
    rw [List.flatMap_cons, List.append_assoc, List.cons_append]
    refine (gives_hasItem_comma hv.starts).bind ?_
    refine (hv.takes _ (follow_flatMap vs (follow_bracket rest))).bind ?_
    exact (ih (more + vs.length) (Nat.le_add_left _ _)).bind (gives_pure _ _)

theorem gives_items (h : List.Forall₂ (TakesItem item) vs as) {fuel : ℕ} (hfuel : vs.length ≤ fuel) :
    Gives (items item (fuel + 1) true) (compactItems vs ++ ']' :: rest) as (']' :: rest) := by
  cases h with
  | nil => exact (gives_hasItem_close true rest).bind (gives_pure [] _)
  | @cons v a vs as hv hvs =>
    obtain ⟨more, rfl⟩ := Nat.exists_eq_add_of_le' hfuel
    rw [compactItems_cons, List.append_assoc]
    refine (gives_hasItem_first hv.starts).bind ?_
    refine (hv.takes _ (follow_flatMap vs (follow_bracket rest))).bind ?_
    exact (gives_items_tail hvs (more + vs.length) (Nat.le_add_left _ _)).bind (gives_pure _ _)

/-- A list between its brackets. -/
theorem takes_list (h : List.Forall₂ (TakesItem item) vs as) :
    Takes (list item) (compact (.array vs)) as := by
  intro rest _
  have htext : compact (.array vs) ++ rest = '[' :: (compactItems vs ++ ']' :: rest) := by
    simp [compact]
  have hfuel : vs.length ≤ (compactItems vs ++ ']' :: rest).length := by
    have := length_le_compactItems vs
    rw [List.length_append, List.length_cons]
    omega
  rw [htext]
  refine (gives_advance '[' _).bind (Gives.enclosed ?_ (gives_closeList rest))
  exact (gives_remaining _).bind (gives_items h hfuel)

end Items

/-! ### Members -/

theorem gives_hasMember_close (first : Bool) (rest : List Char) :
    Gives (hasMember first) ('}' :: rest) false ('}' :: rest) :=
  (gives_token rfl _).bind (gives_pure false _)

theorem gives_hasMember_first (rest : List Char) :
    Gives (hasMember true) ('"' :: rest) true ('"' :: rest) :=
  (gives_token rfl _).bind (gives_pure true _)

theorem gives_hasMember_comma (rest : List Char) :
    Gives (hasMember false) (',' :: '"' :: rest) true ('"' :: rest) := by
  refine (gives_token rfl _).bind ((gives_advance ',' _).bind ?_)
  exact (gives_token rfl _).bind (gives_pure true _)

theorem gives_colon (rest : List Char) : Gives colon (':' :: rest) () rest :=
  (gives_token rfl _).bind (gives_advance ':' rest)

theorem gives_closeObject (rest : List Char) : Gives closeObject ('}' :: rest) () rest :=
  (gives_token rfl _).bind (gives_advance '}' rest)

/-- Reading members one after another takes a state to another. -/
inductive TakesMembers (member : String → σ → Reader σ) : List (String × Json) → σ → σ → Prop
  | nil (s : σ) : TakesMembers member [] s s
  | cons {m : String × Json} {ms : List (String × Json)} {s s' s'' : σ}
    (h : Takes (member m.1 s) (':' :: compact m.2) s') (hms : TakesMembers member ms s' s'') :
    TakesMembers member (m :: ms) s s''

section Members

variable {member : String → σ → Reader σ} {ms : List (String × Json)} {s s' : σ}

theorem memberText_append (m : String × Json) (rest : List Char) :
    ∃ cs, memberText m ++ rest = '"' :: cs ∧
      memberText m ++ rest = stringText m.1 ++ (':' :: compact m.2 ++ rest) :=
  ⟨_, rfl, by simp [memberText]⟩

theorem gives_members_tail (h : TakesMembers member ms s s') :
    ∀ fuel, ms.length ≤ fuel →
      Gives (members member (fuel + 1) false s) ((ms.flatMap fun m => ',' :: memberText m) ++ '}' :: rest)
        s' ('}' :: rest) := by
  induction h with
  | nil s =>
    intro fuel _
    exact (gives_hasMember_close false rest).bind (gives_pure s _)
  | @cons m ms s s' s'' hm _ ih =>
    intro fuel hfuel
    obtain ⟨more, rfl⟩ := Nat.exists_eq_add_of_le' hfuel
    obtain ⟨cs, hquote, hkey⟩ :=
      memberText_append m ((ms.flatMap fun m => ',' :: memberText m) ++ '}' :: rest)
    rw [List.flatMap_cons, List.append_assoc, List.cons_append, hquote]
    refine (gives_hasMember_comma cs).bind ?_
    rw [if_pos rfl, ← hquote, hkey]
    refine (gives_string _ _).bind ?_
    refine (hm _ (follow_flatMap ms (follow_brace rest))).bind ?_
    exact ih (more + ms.length) (Nat.le_add_left _ _)

theorem gives_members (h : TakesMembers member ms s s') {fuel : ℕ} (hfuel : ms.length ≤ fuel) :
    Gives (members member (fuel + 1) true s) (compactMembers ms ++ '}' :: rest) s' ('}' :: rest) := by
  cases h with
  | nil => exact (gives_hasMember_close true rest).bind (gives_pure _ _)
  | @cons m ms _ s' _ hm hms =>
    obtain ⟨more, rfl⟩ := Nat.exists_eq_add_of_le' hfuel
    obtain ⟨cs, hquote, hkey⟩ :=
      memberText_append m ((ms.flatMap fun m => ',' :: memberText m) ++ '}' :: rest)
    rw [compactMembers_cons, List.append_assoc, hquote]
    refine (gives_hasMember_first cs).bind ?_
    rw [if_pos rfl, ← hquote, hkey]
    refine (gives_string _ _).bind ?_
    refine (hm _ (follow_flatMap ms (follow_brace rest))).bind ?_
    exact gives_members_tail hms (more + ms.length) (Nat.le_add_left _ _)

/-- An object between its braces. -/
theorem takes_object (h : TakesMembers member ms s s') :
    Takes (Reader.object member s) (compact (.object ms)) s' := by
  intro rest _
  have htext : compact (.object ms) ++ rest = '{' :: (compactMembers ms ++ '}' :: rest) := by
    simp [compact]
  have hfuel : ms.length ≤ (compactMembers ms ++ '}' :: rest).length := by
    have := length_le_compactMembers ms
    rw [List.length_append, List.length_cons]
    omega
  rw [htext]
  refine (gives_advance '{' _).bind (Gives.enclosed ?_ (gives_closeObject rest))
  exact (gives_remaining _).bind (gives_members h hfuel)

end Members

/-! ### Values -/

/-- The text of a whole number begins with its sign or with a digit. -/
theorem exists_integerText (i : ℤ) :
    ∃ c cs, integerText i = c :: cs ∧ (c = '-' ∨ c.isDigit) := by
  obtain ⟨d, ds, hds, hd⟩ := exists_toDigits_digit i.natAbs
  rw [integerText, hds]
  split_ifs
  · exact ⟨'-', d :: ds, rfl, .inl rfl⟩
  · exact ⟨d, ds, rfl, .inr hd⟩

theorem isBlank_of_digit {c : Char} (h : c = '-' ∨ c.isDigit) : isBlank c = false := by
  rw [Bool.eq_false_iff]
  intro hblank
  have hcases : ((c = ' ' ∨ c = '\n') ∨ c = '\t') ∨ c = '\r' := by simpa [isBlank] using hblank
  rcases hcases with ((rfl | rfl) | rfl) | rfl <;> exact absurd h (by decide)

theorem starts_of_digit {c : Char} (h : c = '-' ∨ c.isDigit) (cs : List Char) : Starts (c :: cs) := by
  refine ⟨c, cs, rfl, isBlank_of_digit h, ?_⟩
  rintro rfl
  exact absurd h (by decide)

theorem starts_compact {v : Json} (h : Exact v) : Starts (compact v) := by
  cases h with
  | null => exact ⟨_, _, rfl, rfl, by decide⟩
  | bool b => cases b <;> exact ⟨_, _, rfl, rfl, by decide⟩
  | number i =>
    obtain ⟨c, cs, hcs, hc⟩ := exists_integerText i
    have htext : compact (.number (.integer i)) = c :: cs := by rw [compact, Number.text, hcs]
    exact htext ▸ starts_of_digit hc cs
  | string s => exact ⟨_, _, by rw [compact]; rfl, rfl, by decide⟩
  | array _ => exact ⟨_, _, by rw [compact]; rfl, rfl, by decide⟩
  | object _ => exact ⟨_, _, by rw [compact]; rfl, rfl, by decide⟩

/-- A value of any form, given that arrays and objects are taken. -/
theorem takes_valueWith {array object : Reader Json} {room : ℕ} {v : Json} (hheld : Held room v)
    (hexact : Exact v) (harray : ∀ items, v = .array items → Takes array (compact v) v)
    (hobject : ∀ members, v = .object members → Takes object (compact v) v) :
    Takes (valueWith array object) (compact v) v := by
  intro rest hrest
  cases hexact with
  | null =>
    refine (gives_token rfl _).bind ((gives_advance 'n' _).bind ?_)
    exact (gives_word ['u', 'l', 'l'] rest).bind (gives_pure _ rest)
  | bool b =>
    cases b with
    | true =>
      refine (gives_token rfl _).bind ((gives_advance 't' _).bind ?_)
      exact (gives_word ['r', 'u', 'e'] rest).bind (gives_pure _ rest)
    | false =>
      refine (gives_token rfl _).bind ((gives_advance 'f' _).bind ?_)
      exact (gives_word ['a', 'l', 's', 'e'] rest).bind (gives_pure _ rest)
  | number i =>
    have hword : Number.IsWord (.integer i) := by
      cases hheld with
      | number h => exact h
    have hnumber := gives_number hword hrest
    obtain ⟨c, cs, hcs, hc⟩ := exists_integerText i
    have htext : compact (.number (.integer i)) ++ rest = c :: (cs ++ rest) := by
      rw [compact, Number.text, hcs, List.cons_append]
    rw [htext]
    refine (gives_token (isBlank_of_digit hc) _).bind ?_
    -- The other forms begin with another character.
    split
    case h_8 d _ _ _ _ _ _ hd =>
      obtain rfl : c = d := Option.some.inj hd
      rw [if_pos (by simpa using hc)]
      exact (hcs ▸ hnumber).bind (gives_pure _ rest)
    case h_1 hd => cases hd
    all_goals
      next hd =>
      obtain rfl := Option.some.inj hd
      exact absurd hc (by decide)
  | string s =>
    rw [compact]
    refine (gives_token rfl _).bind ?_
    exact (gives_string s rest).bind (gives_pure _ rest)
  | array _ =>
    have h := harray _ rfl rest hrest
    rw [compact] at h ⊢
    exact (gives_token rfl _).bind h
  | object _ =>
    have h := hobject _ rfl rest hrest
    rw [compact] at h ⊢
    exact (gives_token rfl _).bind h

/-- A reader whose result is put into another form. -/
theorem Takes.map {r : Reader α} {a : α} (h : Takes r cs a) (f : α → β) :
    Takes (do pure (f (← r))) cs (f a) :=
  fun rest hrest => (h rest hrest).bind (gives_pure (f a) rest)

/-- Members whose values are taken are put in order one after another. -/
theorem takesMembers_member {value : Reader Json} {ms : List (String × Json)}
    (h : ∀ m ∈ ms, TakesItem value m.2 m.2) (done : List (String × Json)) :
    TakesMembers (member value) ms done
      (ms.foldl (fun done m => insertMember m.1 m.2 done) done) := by
  induction ms generalizing done with
  | nil => exact .nil done
  | cons m ms ih =>
    refine .cons (fun rest hrest => ?_) (ih (fun m' hm' => h m' (List.mem_cons_of_mem _ hm')) _)
    exact (gives_colon _).bind (((h m (List.mem_cons_self ..)).takes rest hrest).bind (gives_pure _ rest))

/-- Members whose keys rise are read as they are. -/
theorem takes_object_member {value : Reader Json} {ms : List (String × Json)} (hms : Ascending ms)
    (h : ∀ m ∈ ms, TakesItem value m.2 m.2) :
    Takes (Reader.object (member value) []) (compact (.object ms)) ms := by
  have hsorted : ms.foldl (fun done m => insertMember m.1 m.2 done) [] = ms :=
    sortMembers_of_ascending hms
  have hread := takesMembers_member h []
  rw [hsorted] at hread
  exact takes_object hread

/-- A document without floats that text holds is read as itself. -/
theorem takes_value : ∀ {room : ℕ} {v : Json}, Held room v → Exact v →
    Takes (value room) (compact v) v := by
  intro room
  -- a document that text holds is nested no deeper than there is room
  induction room with
  | zero =>
    intro v hheld hexact
    refine takes_valueWith hheld hexact ?_ ?_
    · rintro items rfl
      cases hheld
    · rintro members rfl
      cases hheld
  | succ room ih =>
    intro v hheld hexact
    have hitem : ∀ {w : Json}, Held room w → Exact w → TakesItem (value room) w w :=
      fun hw hw' => ⟨starts_compact hw', ih hw hw'⟩
    refine takes_valueWith hheld hexact ?_ ?_
    · rintro items rfl
      cases hheld with
      | array hheld =>
      cases hexact with
      | array hexact =>
      refine (takes_list (List.forall₂_same.mpr fun w hw => ?_)).map Json.array
      exact hitem (hheld w hw) (hexact w hw)
    · rintro members rfl
      cases hheld with
      | object hascending hheld =>
      cases hexact with
      | object hexact =>
      refine (takes_object_member hascending fun m hm => ?_).map Json.object
      exact hitem (hheld m hm) (hexact m hm)

/-- A whole text. -/
theorem Takes.run {r : Reader α} {a : α} (h : Takes r cs a) : r.run (String.ofList cs) = .ok a := by
  have hfinish : Gives finish [] () [] :=
    gives_token_nil.bind (gives_pure () [])
  have hwhole : Gives (do let a ← r; finish; pure a) (cs ++ []) a [] :=
    (h [] follow_nil).bind (hfinish.bind (gives_pure a []))
  obtain ⟨offset, hread⟩ := hwhole 0
  rw [List.append_nil] at hread
  simp only [Reader.run, String.toList_ofList, hread]

end Reader

/-- A document without floats that text holds is read back from its text. -/
theorem read_toText {v : Json} (hheld : Held Reader.depthLimit v) (hexact : Exact v) :
    read v.toText = .ok v := (Reader.takes_value hheld hexact).run

/-! ### Decoders -/

namespace Decoder

open Reader

variable {α β σ : Type} {room : ℕ} {cs : List Char}

theorem takes_string (room : ℕ) (s : String) : Takes (string.ofText room) (stringText s) s :=
  fun rest _ => (gives_token rfl _).bind (gives_string s rest)

theorem takes_number {i : ℤ} (h : Number.IsWord (.integer i)) (room : ℕ) :
    Takes (number.ofText room) (integerText i) (.integer i) := by
  intro rest hrest
  have hnumber := gives_number h hrest
  obtain ⟨c, cs, hcs, hc⟩ := exists_integerText i
  rw [hcs, List.cons_append] at hnumber ⊢
  refine (gives_token (isBlank_of_digit hc) _).bind ?_
  show Gives (if _ then _ else _) _ _ _
  rw [if_pos (by simpa using hc)]
  exact hnumber

theorem takes_list {d : Decoder α} {vs : List Json} {as : List α}
    (h : List.Forall₂ (TakesItem (d.ofText room)) vs as) :
    Takes ((list d).ofText (room + 1)) (compact (.array vs)) as := by
  intro rest hrest
  have hlist := Reader.takes_list h rest hrest
  rw [compact] at hlist ⊢
  exact (gives_token rfl _).bind hlist.placed

/-- A list of texts. -/
theorem takes_strings (room : ℕ) (texts : List String) :
    Takes ((list string).ofText (room + 1)) (compact (ofStrings texts)) texts := by
  refine takes_list (List.forall₂_map_left_iff.mpr (List.forall₂_same.mpr fun s _ => ?_))
  exact ⟨starts_compact (.string s), takes_string room s⟩

theorem takes_table {t : Table Json} (hheld : ∀ m ∈ t.entries, Held room m.2)
    (hexact : ∀ m ∈ t.entries, Exact m.2) :
    Takes (table.ofText (room + 1)) (compact (.object t.entries)) t := by
  intro rest hrest
  have hobject := takes_object_member t.ascending (fun m hm =>
    ⟨starts_compact (hexact m hm), takes_value (hheld m hm) (hexact m hm)⟩) rest hrest
  rw [compact] at hobject ⊢
  refine (gives_token rfl _).bind (hobject.placed.bind ?_)
  rw [Table.ofList_entries]
  exact gives_pure t rest

theorem takes_via {d : Decoder α} {f : α → Except Fault β} {a : α} {b : β}
    (h : Takes (d.ofText room) cs a) (hf : f a = .ok b) : Takes ((d.via f).ofText room) cs b := by
  intro rest hrest
  refine (h rest hrest).bind ?_
  rw [hf]
  exact gives_pure b rest

theorem takes_field {d : Decoder α} {set : α → σ → σ} {a : α} (name : String) (s : σ)
    (h : Takes (d.ofText room) cs a) :
    Takes (((Field.of name d set).into s).ofText room) cs (set a s) := h.map (set · s)

/-- A member of a name that has not occurred before goes to its field. -/
theorem takes_namedText {fields : List (Field σ)} {f : Field σ} {key : String} {seen : List String}
    {s s' : σ} (hfield : fields.find? (·.name = key) = some f) (hnew : seen.contains key = false)
    (h : Takes ((f.into s).ofText room) cs s') :
    Takes (namedText fields room key (seen, s)) (':' :: cs) (key :: seen, s') := by
  intro rest hrest
  simp only [namedText, hfield, hnew]
  exact (gives_colon _).bind ((h rest hrest).bind (gives_pure _ rest))

/-- A record is read member by member. -/
theorem takes_record {name : String} {initial s : σ} {fields : List (Field σ)} {seen : List String}
    {ms : List (String × Json)}
    (h : TakesMembers (namedText fields room) ms ([], initial) (seen, s)) :
    Takes ((record name initial fields).ofText (room + 1)) (compact (.object ms)) s := by
  intro rest hrest
  have hobject := takes_object h rest hrest
  rw [compact] at hobject ⊢
  exact (gives_token rfl _).bind (hobject.placed.bind (gives_pure s rest))

end Decoder

end ChainLint.Json
