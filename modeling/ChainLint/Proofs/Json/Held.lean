import Mathlib.Data.List.Basic
import ChainLint.Json.Decoder
import ChainLint.Proofs.Number.Value

/-!
# What text holds

Not every document comes from text.  A number of text is a whole number of 64 bits or a float, the
keys of an object rise, and brackets nest only so deep.

* `Json.Held room v`: text with at most `room` levels of brackets may hold the document.
* `Json.Exact v`: no number of the document is a float.
* `Reader.Ensures r Q`: what reading returns satisfies `Q`.
* `ensures_value`: any value that is read is held.
* `ensures_record`: what all fields of a record keep, the record has.
-/

namespace ChainLint.Json

/-- A document of text in which brackets nest at most `room` deep. -/
inductive Held : ℕ → Json → Prop
  | null {room : ℕ} : Held room .null
  | bool {room : ℕ} (b : Bool) : Held room (.bool b)
  | number {room : ℕ} {n : Number} (h : n.IsWord) : Held room (.number n)
  | string {room : ℕ} (s : String) : Held room (.string s)
  | array {room : ℕ} {items : List Json} (h : ∀ v ∈ items, Held room v) :
    Held (room + 1) (.array items)
  | object {room : ℕ} {members : List (String × Json)} (ascending : Ascending members)
    (h : ∀ m ∈ members, Held room m.2) : Held (room + 1) (.object members)

/-- A document without floats. -/
inductive Exact : Json → Prop
  | null : Exact .null
  | bool (b : Bool) : Exact (.bool b)
  | number (i : ℤ) : Exact (.number (.integer i))
  | string (s : String) : Exact (.string s)
  | array {items : List Json} (h : ∀ v ∈ items, Exact v) : Exact (.array items)
  | object {members : List (String × Json)} (h : ∀ m ∈ members, Exact m.2) : Exact (.object members)

namespace Reader

variable {α β σ : Type} {Q : α → Prop} {R : β → Prop}

/-! ### Steps -/

/-- What reading returns satisfies `Q`. -/
def Ensures (r : Reader α) (Q : α → Prop) : Prop :=
  ∀ c a c', r c = .ok a c' → Q a

theorem ensures_true (r : Reader α) : Ensures r fun _ => True := fun _ _ _ _ => trivial

theorem ensures_pure {a : α} (h : Q a) : Ensures (pure a) Q := by
  intro c b c' hb
  obtain ⟨rfl, -⟩ : a = b ∧ c = c' := by simpa using EStateM.Result.ok.inj hb
  exact h

theorem ensures_fail (f : Fault) : Ensures (fail f) Q := fun _ _ _ h => by cases h

theorem ensures_failAhead (f : Fault) : Ensures (failAhead f) Q := fun _ _ _ h => by cases h

theorem ensures_refuse (f : Fault) : Ensures (refuse f) Q := fun _ _ _ h => by cases h

theorem Ensures.bind {r : Reader α} {f : α → Reader β} (hr : Ensures r Q)
    (hf : ∀ a, Q a → Ensures (f a) R) : Ensures (r >>= f) R := by
  intro c b c' h
  have hbind : (r >>= f) c = EStateM.bind r f c := rfl
  rw [hbind, EStateM.bind] at h
  cases hc : r c with
  | ok a c'' =>
    rw [hc] at h
    exact hf a (hr c a c'' hc) c'' b c' h
  | error e c'' =>
    rw [hc] at h
    cases h

/-- A step whose result does not matter. -/
theorem ensures_bind (r : Reader α) {f : α → Reader β} (hf : ∀ a, Ensures (f a) R) :
    Ensures (r >>= f) R := (ensures_true r).bind fun a _ => hf a

theorem Ensures.placed {r : Reader α} (h : Ensures r Q) : Ensures (placed r) Q := by
  intro c a c' ha
  refine h c a c' ?_
  rw [Reader.placed] at ha
  split at ha
  · next hr => rw [hr, ha]
  · cases ha
  · cases ha

theorem Ensures.enclosed {inside : Reader α} {close : Reader Unit} (h : Ensures inside Q) :
    Ensures (enclosed inside close) Q := by
  intro c a c' ha
  rw [Reader.enclosed] at ha
  cases hinside : inside c with
  | ok b c'' =>
    rw [hinside] at ha
    cases hclose : close c'' with
    | ok u d =>
      simp only [hclose, EStateM.Result.ok.injEq] at ha
      exact ha.1 ▸ h c b c'' hinside
    | error e d => simp [hclose] at ha
  | error e c'' =>
    rw [hinside] at ha
    cases hclose : close c'' <;> simp [hclose] at ha

/-! ### Numbers -/

/-- A significand that is kept exactly fits 64 bits. -/
def Significand.Fits (s : Significand) : Prop := s.full = false → s.value ≤ significandLimit

theorem Significand.Fits.foldl_whole (ds : List Char) :
    ∀ {s : Significand}, s.Fits → (ds.foldl Significand.whole s).Fits := by
  induction ds with
  | nil => exact fun h => h
  | cons d ds ih =>
    intro s _
    refine ih ?_
    unfold Significand.whole
    dsimp only
    split
    · next hroom =>
      have hroom' : s.full = false ∧ s.value * 10 + digitValue d ≤ significandLimit := by
        simpa using hroom
      exact fun _ => hroom'.2
    · exact fun hfull => by cases hfull

theorem ensures_wholePart : Ensures wholePart Significand.Fits := by
  have hzero : Significand.Fits ⟨0, 0, false⟩ := fun _ => Nat.zero_le _
  refine ensures_bind _ fun next => ?_
  split
  · exact ensures_fail _
  · refine ensures_bind _ fun _ => ensures_bind _ fun behind => ?_
    split
    · split_ifs
      · exact ensures_failAhead _
      · exact ensures_pure hzero
    · exact ensures_pure hzero
  · split_ifs
    · exact ensures_bind _ fun ds => ensures_pure (hzero.foldl_whole ds)
    · exact ensures_failAhead _

theorem ensures_realNumber (negative : Bool) (significand : ℕ) (exponent : ℤ) :
    Ensures (realNumber negative significand exponent) Number.IsWord := by
  unfold realNumber
  split
  · exact ensures_pure trivial
  · exact ensures_fail _

theorem ensures_exponentDigits (negative below : Bool) (s : Significand) :
    ∀ fuel e, Ensures (exponentDigits negative below s fuel e) Number.IsWord
  | 0, _ => ensures_fail _
  | fuel + 1, e => by
    refine ensures_bind _ fun next => ?_
    split
    · split
      · refine ensures_bind _ fun _ => ?_
        dsimp only
        split
        · exact ensures_exponentDigits negative below s fuel _
        · split
          · exact ensures_fail _
          · exact ensures_bind _ fun _ => ensures_pure trivial
      · exact ensures_realNumber _ _ _
    · exact ensures_realNumber _ _ _

theorem ensures_exponentPart (negative : Bool) (s : Significand) :
    Ensures (exponentPart negative s) Number.IsWord := by
  refine ensures_bind _ fun _ => ensures_bind _ fun below => ensures_bind _ fun next => ?_
  split
  · exact ensures_fail _
  · split_ifs
    · exact ensures_bind _ fun fuel => ensures_exponentDigits negative below s fuel 0
    · exact ensures_failAhead _

theorem ensures_wholeNumber (negative : Bool) {s : Significand} (h : s.Fits) :
    Ensures (wholeNumber negative s) Number.IsWord := by
  have hlimit : significandLimit = 2 ^ 64 - 1 := rfl
  have hlow : Nat.pow 2 63 = 2 ^ 63 := rfl
  unfold wholeNumber
  split_ifs with hfull hsign hfloat
  · exact ensures_realNumber _ _ _
  · have hvalue := h (by simpa using hfull)
    exact ensures_pure ⟨by omega, by omega⟩
  · exact ensures_realNumber _ _ _
  · have hvalue : s.value ≤ Nat.pow 2 63 := by
      simp only [Bool.or_eq_true, decide_eq_true_eq] at hfloat
      omega
    exact ensures_pure ⟨by omega, by omega⟩

theorem ensures_unsigned (negative : Bool) : Ensures (unsigned negative) Number.IsWord := by
  refine ensures_wholePart.bind fun s hs => ensures_bind _ fun next => ?_
  split
  · refine ensures_bind _ fun s => ensures_bind _ fun next => ?_
    split
    · exact ensures_exponentPart negative s
    · exact ensures_exponentPart negative s
    · exact ensures_realNumber _ _ _
  · exact ensures_exponentPart negative s
  · exact ensures_exponentPart negative s
  · exact ensures_wholeNumber negative hs

/-- A number that is read is a word. -/
theorem ensures_number : Ensures number Number.IsWord := by
  refine ensures_bind _ fun next => ?_
  split
  · exact ensures_bind _ fun _ => ensures_unsigned true
  · exact ensures_unsigned false

/-! ### Brackets -/

theorem ensures_items {item : Reader α} (h : Ensures item Q) :
    ∀ fuel first, Ensures (items item fuel first) fun as => ∀ a ∈ as, Q a
  | 0, _ => ensures_failAhead _
  | fuel + 1, first => by
    refine ensures_bind _ fun more => ?_
    split
    · refine h.bind fun a ha => (ensures_items h fuel false).bind fun rest hrest => ?_
      exact ensures_pure (List.forall_mem_cons.mpr ⟨ha, hrest⟩)
    · exact ensures_pure (List.forall_mem_nil _)

theorem ensures_members {member : String → σ → Reader σ} {Q : σ → Prop}
    (h : ∀ key s, Q s → Ensures (member key s) Q) :
    ∀ fuel first s, Q s → Ensures (members member fuel first s) Q
  | 0, _, _, _ => ensures_failAhead _
  | fuel + 1, first, s, hs => by
    refine ensures_bind _ fun more => ?_
    split
    · refine ensures_bind _ fun key => (h key s hs).bind fun s' hs' => ?_
      exact ensures_members h fuel false s' hs'
    · exact ensures_pure hs

theorem ensures_list {item : Reader α} (h : Ensures item Q) :
    Ensures (list item) fun as => ∀ a ∈ as, Q a :=
  ensures_bind _ fun _ => Ensures.enclosed (ensures_bind _ fun fuel => ensures_items h fuel true)

theorem ensures_object {member : String → σ → Reader σ} {Q : σ → Prop} {s : σ} (hs : Q s)
    (h : ∀ key s, Q s → Ensures (member key s) Q) : Ensures (object member s) Q :=
  ensures_bind _ fun _ =>
    Ensures.enclosed (ensures_bind _ fun fuel => ensures_members h fuel true s hs)

/-- Members whose keys rise and whose values are held. -/
def HeldMembers (room : ℕ) (members : List (String × Json)) : Prop :=
  Ascending members ∧ ∀ m ∈ members, Held room m.2

theorem HeldMembers.nil (room : ℕ) : HeldMembers room [] :=
  ⟨List.Pairwise.nil, List.forall_mem_nil _⟩

theorem HeldMembers.insert {room : ℕ} {members : List (String × Json)} (h : HeldMembers room members)
    (key : String) {v : Json} (hv : Held room v) : HeldMembers room (insertMember key v members) := by
  refine ⟨ascending_insertMember h.1, fun m hm => ?_⟩
  rcases mem_insertMember hm with rfl | hm
  · exact hv
  · exact h.2 m hm

theorem ensures_member {room : ℕ} {value : Reader Json} (hvalue : Ensures value (Held room))
    (key : String) (done : List (String × Json)) (hdone : HeldMembers room done) :
    Ensures (member value key done) (HeldMembers room) :=
  ensures_bind _ fun _ => hvalue.bind fun _ hv => ensures_pure (hdone.insert key hv)

theorem ensures_valueWith {room : ℕ} {array object : Reader Json} (harray : Ensures array (Held room))
    (hobject : Ensures object (Held room)) : Ensures (valueWith array object) (Held room) := by
  refine ensures_bind _ fun next => ?_
  split
  · exact ensures_failAhead _
  · exact ensures_bind _ fun _ => ensures_bind _ fun _ => ensures_pure .null
  · exact ensures_bind _ fun _ => ensures_bind _ fun _ => ensures_pure (.bool true)
  · exact ensures_bind _ fun _ => ensures_bind _ fun _ => ensures_pure (.bool false)
  · exact ensures_bind _ fun s => ensures_pure (.string s)
  · exact harray
  · exact hobject
  · split_ifs
    · exact ensures_number.bind fun n hn => ensures_pure (.number hn)
    · exact ensures_failAhead _

/-- A value that is read is held. -/
theorem ensures_value : ∀ room, Ensures (value room) (Held room)
  | 0 => ensures_valueWith (ensures_failAhead _) (ensures_failAhead _)
  | room + 1 =>
    ensures_valueWith
      ((ensures_list (ensures_value room)).bind fun _ h => ensures_pure (.array h))
      ((ensures_object (HeldMembers.nil room) (ensures_member (ensures_value room))).bind
        fun _ h => ensures_pure (.object h.1 h.2))

/-- What a whole text is read as. -/
theorem Ensures.run {r : Reader α} (h : Ensures r Q) {text : String} {a : α}
    (ha : r.run text = .ok a) : Q a := by
  have hwhole : Ensures (do let a ← r; finish; pure a) Q :=
    h.bind fun a ha => ensures_bind _ fun _ => ensures_pure ha
  simp only [Reader.run] at ha
  split at ha
  · next b _ hb =>
    obtain rfl : b = a := Except.ok.inj ha
    exact hwhole _ _ _ hb
  · cases ha

end Reader

/-! ### Decoders -/

namespace Decoder

open Reader

variable {α β σ : Type} {Q : α → Prop} {room : ℕ}

theorem ensures_whenPresent {r : Char → Reader α} (h : ∀ c, Ensures (r c) Q) :
    Ensures (whenPresent r) Q := by
  refine ensures_bind _ fun next => ?_
  split
  · exact ensures_failAhead _
  · exact h _

theorem ensures_mismatch (expected : String) : Ensures (mismatch expected : Reader α) Q := by
  refine Ensures.placed (ensures_bind _ fun next => ?_)
  split
  · exact ensures_bind _ fun _ => ensures_bind _ fun _ => ensures_refuse _
  · exact ensures_bind _ fun _ => ensures_bind _ fun _ => ensures_refuse _
  · exact ensures_bind _ fun _ => ensures_bind _ fun _ => ensures_refuse _
  · exact ensures_bind _ fun _ => ensures_refuse _
  · exact ensures_refuse _
  · exact ensures_refuse _
  · split
    · exact ensures_bind _ fun _ => ensures_refuse _
    · exact ensures_failAhead _
  · exact ensures_failAhead _

theorem ensures_via {d : Decoder α} {f : α → Except Fault β} {R : β → Prop}
    (h : Ensures (d.ofText room) Q) (hf : ∀ a b, Q a → f a = .ok b → R b) :
    Ensures ((d.via f).ofText room) R := by
  refine h.bind fun a ha => ?_
  split
  · next b hb => exact ensures_pure (hf a b ha hb)
  · exact ensures_refuse _

/-- A table that is read has held values. -/
theorem ensures_table : Ensures (table.ofText (room + 1)) fun t => ∀ m ∈ t.entries, Held room m.2 := by
  refine ensures_whenPresent fun c => ?_
  split
  · have hmembers := ensures_object (HeldMembers.nil room) (ensures_member (ensures_value room))
    refine hmembers.placed.bind fun members h => ensures_pure ?_
    rw [Table.ofList]
    simp only [sortMembers_of_ascending h.1]
    exact h.2
  · exact ensures_mismatch _

section Record

variable {R : σ → Prop} {fields : List (Field σ)}

theorem ensures_field {d : Decoder α} {set : α → σ → σ} (name : String)
    (h : Ensures (d.ofText room) Q) (hset : ∀ a s, Q a → R s → R (set a s)) (s : σ) (hs : R s) :
    Ensures (((Field.of name d set).into s).ofText room) R :=
  h.bind fun a ha => ensures_pure (hset a s ha hs)

theorem ensures_positionalText
    (h : ∀ f ∈ fields, ∀ s, R s → Ensures ((f.into s).ofText room) R) :
    ∀ first s, R s → Ensures (positionalText room fields first s) R := by
  induction fields with
  | nil => exact fun _ _ hs => ensures_pure hs
  | cons f fs ih =>
    intro first s hs
    have hfs := ih fun f' hf' => h f' (List.mem_cons_of_mem _ hf')
    refine ensures_bind _ fun more => ?_
    split
    · exact (h f (List.mem_cons_self ..) s hs).bind fun s' hs' => hfs false s' hs'
    · exact hfs first s hs

theorem ensures_namedText (h : ∀ f ∈ fields, ∀ s, R s → Ensures ((f.into s).ofText room) R)
    (key : String) (s : List String × σ) (hs : R s.2) :
    Ensures (namedText fields room key s) fun s => R s.2 := by
  unfold namedText
  split
  · next f hf =>
    split
    · exact ensures_refuse _
    · refine ensures_bind _ fun _ => ?_
      exact (h f (List.mem_of_find?_eq_some hf) s.2 hs).bind fun _ hr => ensures_pure hr
  · exact ensures_bind _ fun _ => ensures_bind _ fun _ => ensures_bind _ fun _ => ensures_pure hs

/-- A record that is read has what its defaults have and all of its fields keep. -/
theorem ensures_record {name : String} {initial : σ} (hinitial : R initial)
    (h : ∀ f ∈ fields, ∀ s, R s → Ensures ((f.into s).ofText room) R) :
    Ensures ((record name initial fields).ofText (room + 1)) R := by
  refine ensures_whenPresent fun c => ?_
  split
  · exact ensures_bind _ fun _ => (ensures_positionalText h true initial hinitial).enclosed.placed
  · split
    · have hobject : Ensures (Reader.object (namedText fields room) ([], initial)) fun s => R s.2 :=
        ensures_object hinitial (ensures_namedText h)
      exact hobject.placed.bind fun _ hs => ensures_pure hs
    · exact ensures_mismatch _

end Record

end Decoder

end ChainLint.Json
