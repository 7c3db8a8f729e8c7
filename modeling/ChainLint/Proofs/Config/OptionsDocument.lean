import Mathlib.Data.List.Basic
import ChainLint.Config.Options

/-!
# Documents of options

Which documents are options of the rule on chains, and what they say.  A document may be an object,
of which members of other names are passed over, or an array of at most two items in the order of
the fields.  Either field may be left out.

* `ChainOptions.Accepted v`: a document is accepted as options.
* `ChainOptions.number? v`, `ChainOptions.methods? v`: the limit and the methods that it states.
* `Json.Decoder.Reads d f`: a decoder reads what `f` has a result for.
* `namedJson_cons`, `positionalJson_cons`: an object is read member by member, an array item by item.
* `ofJson_of_accepted`, `ofJson_of_not_accepted`: documents are read as what they state, if and only
  if they are accepted.
-/

namespace ChainLint

namespace Json

/-- The number that a value is. -/
def number? : Json → Option Number
  | .number n => some n
  | _ => none

/-- The texts that a value lists. -/
def strings? : Json → Option (List String)
  | .array items => Config.texts? items
  | _ => none

/-- The values that a document holds for a field: the members of its name, or the item at its place. -/
def fieldValues (name : String) (place : ℕ) : Json → List Json
  | .object members => (members.filter (·.1 = name)).map Prod.snd
  | .array items => items[place]?.toList
  | _ => []

section FieldValues

variable {name : String} {place : ℕ}

theorem fieldValues_cons (m : String × Json) (rest : List (String × Json)) :
    (object (m :: rest)).fieldValues name place =
      (object [m]).fieldValues name place ++ (object rest).fieldValues name place := by
  rw [fieldValues, ← List.singleton_append, List.filter_append, List.map_append]
  rfl

theorem mem_fieldValues {v : Json} {members : List (String × Json)} :
    v ∈ (object members).fieldValues name place ↔ (name, v) ∈ members := by
  simp only [fieldValues, List.mem_map, List.mem_filter, decide_eq_true_eq]
  constructor
  · rintro ⟨⟨_, _⟩, ⟨hm, rfl⟩, rfl⟩
    exact hm
  · exact fun hm => ⟨(name, v), ⟨hm, rfl⟩, rfl⟩

/-- Of the values for a field the last counts. -/
theorem getLast?_append_bind {α : Type} {f : Json → Option α} (values : List Json)
    {values' : List Json} (h : ∀ v ∈ values', (f v).isSome) :
    (values ++ values').getLast?.bind f =
      (values'.getLast?.bind f).or (values.getLast?.bind f) := by
  rw [List.getLast?_append]
  cases hlast : values'.getLast? with
  | none => rfl
  | some v =>
    obtain ⟨a, ha⟩ := Option.isSome_iff_exists.mp (h v (List.mem_of_getLast? hlast))
    simp [ha]

end FieldValues

namespace Decoder

/-- A decoder reads the values for which `f` has a result, as that result, and no others. -/
structure Reads {α : Type} (d : Decoder α) (f : Json → Option α) : Prop where
  ok : ∀ {v a}, f v = some a → d.ofJson v = .ok a
  error : ∀ {v}, f v = none → ∃ fault, d.ofJson v = .error fault

theorem number_reads : Reads number Json.number? where
  ok {v n} h := by cases v <;> simp_all [Json.number?, number]
  error {v} h := by
    cases v with
    | number n => simp [Json.number?] at h
    | null | bool _ | string _ | array _ | object _ => exact ⟨_, rfl⟩

theorem mapM_string_ofJson {items : List Json} {texts : List String}
    (h : Config.texts? items = some texts) : items.mapM string.ofJson = .ok texts := by
  induction items generalizing texts with
  | nil =>
    obtain rfl : [] = texts := Option.some.inj h
    rfl
  | cons item rest ih =>
    match item with
    | .string s =>
      simp only [Config.texts?, Option.map_eq_some_iff] at h
      obtain ⟨others, hothers, rfl⟩ := h
      rw [List.mapM_cons, ih hothers]
      rfl
    | .null | .bool _ | .number _ | .array _ | .object _ => simp [Config.texts?] at h

theorem mapM_string_ofJson_of_none {items : List Json} (h : Config.texts? items = none) :
    ∃ fault, items.mapM string.ofJson = .error fault := by
  induction items with
  | nil => simp [Config.texts?] at h
  | cons item rest ih =>
    match item with
    | .string s =>
      rw [Config.texts?, Option.map_eq_none_iff] at h
      obtain ⟨fault, hfault⟩ := ih h
      refine ⟨fault, ?_⟩
      rw [List.mapM_cons, hfault]
      rfl
    | .null | .bool _ | .number _ | .array _ | .object _ => exact ⟨_, rfl⟩

theorem strings_reads : Reads (list string) strings? where
  ok {v texts} h := by
    cases v with
    | array items => exact mapM_string_ofJson h
    | null | bool _ | number _ | string _ | object _ => simp [strings?] at h
  error {v} h := by
    cases v with
    | array items => exact mapM_string_ofJson_of_none h
    | null | bool _ | number _ | string _ | object _ => exact ⟨_, rfl⟩

section Reads

variable {α σ : Type} {d : Decoder α} {f : Json → Option α} {v : Json}

/-- A field takes in what its decoder reads. -/
theorem Reads.into_ok (h : Reads d f) (name : String) (set : α → σ → σ) (s : σ) {a : α}
    (hv : f v = some a) : ((Field.of name d set).into s).ofJson v = .ok (set a s) := by
  have hinto : ((Field.of name d set).into s).ofJson v = (d.ofJson v).map (set · s) := rfl
  rw [hinto, h.ok hv]
  rfl

theorem Reads.into_error (h : Reads d f) (name : String) (set : α → σ → σ) (s : σ)
    (hv : f v = none) : ∃ fault, ((Field.of name d set).into s).ofJson v = .error fault := by
  have hinto : ((Field.of name d set).into s).ofJson v = (d.ofJson v).map (set · s) := rfl
  obtain ⟨fault, hfault⟩ := h.error hv
  exact ⟨fault, by rw [hinto, hfault]; rfl⟩

end Reads

/-- A record after one more member of an object. -/
def readMember {σ : Type} (fields : List (Field σ)) (m : String × Json) (s : σ) : Except Fault σ :=
  match fields.find? (·.name = m.1) with
  | some f => (f.into s).ofJson m.2
  | none => .ok s

/-- An object is read member by member. -/
theorem namedJson_cons {σ : Type} (fields : List (Field σ)) (m : String × Json)
    (rest : List (String × Json)) (s : σ) :
    namedJson fields (m :: rest) s = (readMember fields m s).bind (namedJson fields rest) := by
  rw [namedJson, readMember]
  cases fields.find? (·.name = m.1) <;> rfl

/-- An array is read item by item, each as the next field. -/
theorem positionalJson_cons {σ : Type} (f : Field σ) (fields : List (Field σ)) (v : Json)
    (rest : List Json) (s : σ) :
    positionalJson (f :: fields) (v :: rest) s =
      ((f.into s).ofJson v).bind (positionalJson fields rest) := rfl

end Decoder

end Json

namespace ChainOptions

open Json.Decoder (readMember namedJson namedJson_cons positionalJson positionalJson_cons
  number_reads strings_reads)

/-- A document is accepted as options. -/
inductive Accepted : Json → Prop
  | object {members : List (String × Json)}
    (limit : ∀ v, (limitKey, v) ∈ members → v.number?.isSome)
    (methods : ∀ v, (Settings.methodsKey, v) ∈ members → v.strings?.isSome) :
    Accepted (.object members)
  | array {items : List Json} (length : items.length ≤ 2)
    (limit : ∀ v, items[0]? = some v → v.number?.isSome)
    (methods : ∀ v, items[1]? = some v → v.strings?.isSome) :
    Accepted (.array items)

/-- The limit that a document states, as a number. -/
def number? (v : Json) : Option Json.Number := (v.fieldValues limitKey 0).getLast?.bind Json.number?

/-- The methods that a document lists. -/
def methods? (v : Json) : Option (List String) :=
  (v.fieldValues Settings.methodsKey 1).getLast?.bind Json.strings?

/-- Options changed by what a document states. -/
def amend (o : ChainOptions) (v : Json) : ChainOptions :=
  ⟨((number? v).map limitOf).getD o.limit, (methods? v).getD o.methods⟩

/-! ### The two fields -/

/-- The field of the limit. -/
def limitField : Json.Decoder.Field ChainOptions :=
  .of limitKey .number fun n o => { o with limit := limitOf n }

/-- The field of the methods. -/
def methodsField : Json.Decoder.Field ChainOptions :=
  .of Settings.methodsKey (.list .string) fun methods o => { o with methods := methods }

theorem ofJson_object (members : List (String × Json)) :
    decoder.ofJson (.object members) = namedJson [limitField, methodsField] members empty := rfl

theorem ofJson_array (items : List Json) : decoder.ofJson (.array items) =
    (positionalJson [limitField, methodsField] items empty).bind fun o =>
      if 2 < items.length then .error (.tooLong items.length) else .ok o := rfl

section Fields

variable {v : Json} {o : ChainOptions}

theorem limitField_ok {n : Json.Number} (h : v.number? = some n) :
    (limitField.into o).ofJson v = .ok { o with limit := limitOf n } :=
  number_reads.into_ok _ _ o h

theorem limitField_error (h : v.number? = none) :
    ∃ fault, (limitField.into o).ofJson v = .error fault :=
  number_reads.into_error _ _ o h

theorem methodsField_ok {methods : List String} (h : v.strings? = some methods) :
    (methodsField.into o).ofJson v = .ok { o with methods := methods } :=
  strings_reads.into_ok _ _ o h

theorem methodsField_error (h : v.strings? = none) :
    ∃ fault, (methodsField.into o).ofJson v = .error fault :=
  strings_reads.into_error _ _ o h

end Fields

/-! ### Objects -/

/-- A member's value is of the form that its field asks for. -/
def Fits (m : String × Json) : Prop :=
  (m.1 = limitKey → m.2.number?.isSome) ∧ (m.1 = Settings.methodsKey → m.2.strings?.isSome)

theorem accepted_object_iff {members : List (String × Json)} :
    Accepted (.object members) ↔ ∀ m ∈ members, Fits m := by
  constructor
  · rintro (⟨hlimit, hmethods⟩ | _) ⟨key, v⟩ hm
    refine ⟨?_, ?_⟩
    · rintro rfl
      exact hlimit v hm
    · rintro rfl
      exact hmethods v hm
  · intro h
    exact .object (fun v hv => (h _ hv).1 rfl) fun v hv => (h _ hv).2 rfl

theorem limitKey_ne_methodsKey : limitKey ≠ Settings.methodsKey := by decide

/-- The field of a member, if it has one. -/
theorem readMember_eq (m : String × Json) (o : ChainOptions) :
    readMember [limitField, methodsField] m o =
      if m.1 = limitKey then (limitField.into o).ofJson m.2
      else if m.1 = Settings.methodsKey then (methodsField.into o).ofJson m.2 else .ok o := by
  have hlimit : limitField.name = limitKey := rfl
  have hmethods : methodsField.name = Settings.methodsKey := rfl
  rw [readMember, List.find?_cons, List.find?_cons, List.find?_nil, hlimit, hmethods]
  by_cases h : m.1 = limitKey
  · rw [if_pos h, decide_eq_true h.symm]
  · rw [if_neg h, decide_eq_false (Ne.symm h)]
    by_cases h' : m.1 = Settings.methodsKey
    · rw [if_pos h', decide_eq_true h'.symm]
    · rw [if_neg h', decide_eq_false (Ne.symm h')]

theorem number?_singleton (key : String) (v : Json) :
    number? (.object [(key, v)]) = if key = limitKey then v.number? else none := by
  rw [number?, Json.fieldValues]
  split_ifs with h <;> simp [h]

theorem methods?_singleton (key : String) (v : Json) :
    methods? (.object [(key, v)]) = if key = Settings.methodsKey then v.strings? else none := by
  rw [methods?, Json.fieldValues]
  split_ifs with h <;> simp [h]

theorem readMember_of_fits {m : String × Json} (h : Fits m) (o : ChainOptions) :
    readMember [limitField, methodsField] m o = .ok (o.amend (.object [m])) := by
  obtain ⟨key, v⟩ := m
  rw [readMember_eq, amend, number?_singleton, methods?_singleton]
  split_ifs with hlimit hmethods hmethods
  · exact absurd (hlimit.symm.trans hmethods) limitKey_ne_methodsKey
  · obtain ⟨n, hn⟩ := Option.isSome_iff_exists.mp (h.1 hlimit)
    rw [limitField_ok hn, hn]
    rfl
  · obtain ⟨texts, htexts⟩ := Option.isSome_iff_exists.mp (h.2 hmethods)
    rw [methodsField_ok htexts, htexts]
    rfl
  · rfl

theorem readMember_of_not_fits {m : String × Json} (h : ¬ Fits m) (o : ChainOptions) :
    ∃ fault, readMember [limitField, methodsField] m o = .error fault := by
  rw [readMember_eq]
  by_cases hlimit : m.1 = limitKey
  · have hne : m.1 ≠ Settings.methodsKey := hlimit ▸ limitKey_ne_methodsKey
    have hnone : m.2.number? = none := by
      refine Option.not_isSome_iff_eq_none.mp fun hsome => h ⟨fun _ => hsome, fun heq => ?_⟩
      exact absurd heq hne
    rw [if_pos hlimit]
    exact limitField_error hnone
  · by_cases hmethods : m.1 = Settings.methodsKey
    · have hnone : m.2.strings? = none := by
        refine Option.not_isSome_iff_eq_none.mp fun hsome => h ⟨fun heq => ?_, fun _ => hsome⟩
        exact absurd heq hlimit
      rw [if_neg hlimit, if_pos hmethods]
      exact methodsField_error hnone
    · exact absurd ⟨fun heq => absurd heq hlimit, fun heq => absurd heq hmethods⟩ h

/-- What an object states is what its first member states, changed by the others. -/
theorem amend_cons {rest : List (String × Json)} (h : ∀ m ∈ rest, Fits m) (m : String × Json)
    (o : ChainOptions) :
    (o.amend (.object [m])).amend (.object rest) = o.amend (.object (m :: rest)) := by
  have hnumber : number? (.object (m :: rest)) =
      (number? (.object rest)).or (number? (.object [m])) := by
    rw [number?, Json.fieldValues_cons]
    exact Json.getLast?_append_bind _ fun v hv => (h _ (Json.mem_fieldValues.mp hv)).1 rfl
  have hmethods : methods? (.object (m :: rest)) =
      (methods? (.object rest)).or (methods? (.object [m])) := by
    rw [methods?, Json.fieldValues_cons]
    exact Json.getLast?_append_bind _ fun v hv => (h _ (Json.mem_fieldValues.mp hv)).2 rfl
  simp only [amend, hnumber, hmethods]
  cases number? (.object rest) <;> cases methods? (.object rest) <;> rfl

theorem namedJson_of_fits {members : List (String × Json)} (h : ∀ m ∈ members, Fits m)
    (o : ChainOptions) :
    namedJson [limitField, methodsField] members o = .ok (o.amend (.object members)) := by
  induction members generalizing o with
  | nil => rfl
  | cons m rest ih =>
    obtain ⟨hm, hrest⟩ := List.forall_mem_cons.mp h
    rw [namedJson_cons, readMember_of_fits hm]
    exact (ih hrest _).trans (congrArg _ (amend_cons hrest m o))

theorem namedJson_of_not_fits {members : List (String × Json)} (h : ¬ ∀ m ∈ members, Fits m)
    (o : ChainOptions) : ∃ fault, namedJson [limitField, methodsField] members o = .error fault := by
  induction members generalizing o with
  | nil => exact absurd (fun m hm => absurd hm List.not_mem_nil) h
  | cons m rest ih =>
    rw [namedJson_cons]
    by_cases hm : Fits m
    · rw [readMember_of_fits hm]
      exact ih (fun hrest => h (List.forall_mem_cons.mpr ⟨hm, hrest⟩)) _
    · obtain ⟨fault, hfault⟩ := readMember_of_not_fits hm o
      exact ⟨fault, by rw [hfault]; rfl⟩

/-! ### Arrays -/

theorem accepted_array_iff {items : List Json} : Accepted (.array items) ↔ items.length ≤ 2 ∧
    (∀ v, items[0]? = some v → v.number?.isSome) ∧ ∀ v, items[1]? = some v → v.strings?.isSome := by
  constructor
  · rintro (_ | ⟨hlength, hlimit, hmethods⟩)
    exact ⟨hlength, hlimit, hmethods⟩
  · rintro ⟨hlength, hlimit, hmethods⟩
    exact .array hlength hlimit hmethods

theorem positionalJson_of_fits {items : List Json}
    (hlimit : ∀ v, items[0]? = some v → v.number?.isSome)
    (hmethods : ∀ v, items[1]? = some v → v.strings?.isSome) (o : ChainOptions) :
    positionalJson [limitField, methodsField] items o = .ok (o.amend (.array items)) := by
  match items with
  | [] => rfl
  | v :: rest =>
    obtain ⟨n, hn⟩ := Option.isSome_iff_exists.mp (hlimit v rfl)
    have hnumber : number? (.array (v :: rest)) = some n := hn
    rw [positionalJson_cons, limitField_ok hn, Except.bind, amend, hnumber]
    match rest with
    | [] => rfl
    | w :: rest =>
      obtain ⟨texts, htexts⟩ := Option.isSome_iff_exists.mp (hmethods w rfl)
      have hlisted : methods? (.array (v :: w :: rest)) = some texts := htexts
      rw [positionalJson_cons, methodsField_ok htexts, hlisted]
      rfl

theorem positionalJson_of_not_fits {items : List Json}
    (h : ¬ ((∀ v, items[0]? = some v → v.number?.isSome) ∧
      ∀ v, items[1]? = some v → v.strings?.isSome)) (o : ChainOptions) :
    ∃ fault, positionalJson [limitField, methodsField] items o = .error fault := by
  match items with
  | [] => exact absurd ⟨fun v hv => by simp at hv, fun v hv => by simp at hv⟩ h
  | v :: rest =>
    rw [positionalJson_cons]
    cases hn : v.number? with
    | none =>
      obtain ⟨fault, hfault⟩ := limitField_error (o := o) hn
      exact ⟨fault, by rw [hfault]; rfl⟩
    | some n =>
      rw [limitField_ok hn, Except.bind]
      match rest with
      | [] => exact absurd ⟨fun u hu => by simp_all, fun u hu => by simp at hu⟩ h
      | w :: rest =>
        rw [positionalJson_cons]
        cases htexts : w.strings? with
        | none =>
          obtain ⟨fault, hfault⟩ := methodsField_error
            (o := { o with limit := limitOf n }) htexts
          exact ⟨fault, by rw [hfault]; rfl⟩
        | some texts => exact absurd ⟨fun u hu => by simp_all, fun u hu => by simp_all⟩ h

/-! ### Documents -/

/-- An accepted document is read as what it states. -/
theorem ofJson_of_accepted {v : Json} (h : Accepted v) :
    decoder.ofJson v = .ok (empty.amend v) := by
  cases v with
  | object members =>
    rw [ofJson_object]
    exact namedJson_of_fits (accepted_object_iff.mp h) empty
  | array items =>
    obtain ⟨hlength, hlimit, hmethods⟩ := accepted_array_iff.mp h
    rw [ofJson_array, positionalJson_of_fits hlimit hmethods, Except.bind,
      if_neg (Nat.not_lt.mpr hlength)]
  | null | bool _ | number _ | string _ => cases h

/-- A document that is not accepted has a fault. -/
theorem ofJson_of_not_accepted {v : Json} (h : ¬ Accepted v) :
    ∃ fault, decoder.ofJson v = .error fault := by
  cases v with
  | object members =>
    rw [ofJson_object]
    exact namedJson_of_not_fits (mt accepted_object_iff.mpr h) empty
  | array items =>
    rw [ofJson_array]
    by_cases hfits : (∀ v, items[0]? = some v → v.number?.isSome) ∧
        ∀ v, items[1]? = some v → v.strings?.isSome
    · have hlength : 2 < items.length :=
        Nat.not_le.mp fun hle => h (accepted_array_iff.mpr ⟨hle, hfits⟩)
      rw [positionalJson_of_fits hfits.1 hfits.2, Except.bind, if_pos hlength]
      exact ⟨_, rfl⟩
    · obtain ⟨fault, hfault⟩ := positionalJson_of_not_fits hfits empty
      exact ⟨fault, by rw [hfault]; rfl⟩
  | null | bool _ | number _ | string _ => exact ⟨_, rfl⟩

end ChainOptions

end ChainLint
