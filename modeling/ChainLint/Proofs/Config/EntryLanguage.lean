import ChainLint.Proofs.Comment.Language
import ChainLint.Proofs.Config.Resolution

/-!
# The language of rule entries

Which values are entries of rules, said of the values and without the two readings that look at them:
a value is first read as an entry, bare or with options, and the head of an array is read as a severity
only when the entry is resolved.

* `Severity.Spelled v severity`: a value is a severity, by its number or by its word.
* `RuleEntry.Says v severity options`: a value is a severity, or an array that starts with one.
* `RuleEntry.Settles v severity options`: both readings go through, with this result.
* `Severity.ofJson?_eq_ok_iff`, `RuleEntry.settles_iff`: the readings take just these values.
* `Config.resolve_of_settleEntry`: a configuration fails at the first entry that is refused.
* `RuleEntry.settles_language`: the language of entries, and what the first one outside it does.
-/

namespace ChainLint

/-! ### Severities -/

/-- A value is a severity: its number, or its word with any of the letters in the upper case. -/
inductive Severity.Spelled : Json → Severity → Prop
  | zero : Spelled (.number (.integer 0)) .off
  | one : Spelled (.number (.integer 1)) .warn
  | two : Spelled (.number (.integer 2)) .error
  | off {word : String} (h : Marker.Spells ['o', 'f', 'f'] word.toList) : Spelled (.string word) .off
  | warn {word : String} (h : Marker.Spells ['w', 'a', 'r', 'n'] word.toList) :
    Spelled (.string word) .warn
  | error {word : String} (h : Marker.Spells ['e', 'r', 'r', 'o', 'r'] word.toList) :
    Spelled (.string word) .error

/-- A text in lower case is a word just when it spells it. -/
theorem Marker.map_toLower_eq_iff {word cs : List Char} (h : ∀ letter ∈ word, letter.isLower = true) :
    cs.map Char.toLower = word ↔ Spells word cs := by
  induction word generalizing cs with
  | nil => simp [Spells]
  | cons letter word ih =>
    obtain ⟨hletter, hword⟩ := List.forall_mem_cons.mp h
    cases cs with
    | nil => simp [Spells]
    | cons c cs =>
      rw [List.map_cons, List.cons_eq_cons, toLower_eq_iff hletter, ih hword, Spells, Spells,
        List.forall₂_cons]

namespace Severity

theorem find?_text (s : Severity) :
    [Severity.off, .warn, .error].find? (fun t => t.text.toList = s.text.toList) = some s := by
  cases s <;> rfl

theorem isLower_of_mem_text (s : Severity) : ∀ letter ∈ s.text.toList, letter.isLower = true := by
  cases s <;> exact List.all_eq_true.mp rfl

theorem ofText?_eq_some_iff {word : String} {s : Severity} :
    ofText? word = some s ↔ Marker.Spells s.text.toList word.toList := by
  rw [← Marker.map_toLower_eq_iff (isLower_of_mem_text s)]
  constructor
  · intro h
    have hfound : s.text.toList = word.toList.map Char.toLower := by simpa using List.find?_some h
    exact hfound.symm
  · intro h
    rw [ofText?, h]
    exact find?_text s

theorem ofInt?_eq_some_iff {i : ℤ} {s : Severity} : ofInt? i = some s ↔ i = s.number := by
  rw [ofInt?.eq_def]
  split
  · cases s <;> decide
  · cases s <;> decide
  · cases s <;> decide
  · refine iff_of_false (by simp) ?_
    rintro rfl
    cases s <;> simp_all [number]

theorem ofJson?_eq_ok_iff {v : Json} {s : Severity} : ofJson? v = .ok s ↔ Spelled v s := by
  cases v with
  | number n =>
    cases n with
    | integer i =>
      have hread : ofJson? (.number (.integer i)) = .ok s ↔ i = s.number := by
        rw [← ofInt?_eq_some_iff, ofJson?]
        cases ofInt? i <;> simp
      rw [hread]
      constructor
      · rintro rfl
        cases s
        · exact .zero
        · exact .one
        · exact .two
      · intro h
        cases h <;> rfl
    | real x => exact iff_of_false (by simp [ofJson?]) (by rintro ⟨⟩)
  | string word =>
    have hread : ofJson? (.string word) = .ok s ↔ Marker.Spells s.text.toList word.toList := by
      rw [← ofText?_eq_some_iff, ofJson?]
      cases ofText? word <;> simp
    rw [hread]
    constructor
    · intro h
      cases s
      · exact .off h
      · exact .warn h
      · exact .error h
    · intro h
      cases h <;> assumption
  | null | bool _ | array _ | object _ => exact iff_of_false (by simp [ofJson?]) (by rintro ⟨⟩)

end Severity

/-! ### Entries -/

namespace RuleEntry

/-- What an entry says: a severity alone, or an array of a severity, options and anything else. -/
inductive Says : Json → Severity → Option Json → Prop
  | bare {v : Json} {severity : Severity} (h : severity.Spelled v) : Says v severity none
  | array {head : Json} {rest : List Json} {severity : Severity} (h : severity.Spelled head) :
    Says (.array (head :: rest)) severity rest.head?

/-- A value is read as an entry, and the entry has a severity and options. -/
def Settles (v : Json) (severity : Severity) (options : Option Json) : Prop :=
  ∃ e, decoder.ofJson v = .ok e ∧ e.resolve = .ok (severity, options)

section Values

variable {v : Json} {severity : Severity} {options : Option Json}

theorem denotes_iff : Denotes v severity options ↔ Says v severity options := by
  constructor
  · rintro (h | h)
    · exact .bare (Severity.ofJson?_eq_ok_iff.mp h)
    · exact .array (Severity.ofJson?_eq_ok_iff.mp h)
  · rintro (h | h)
    · exact .bare (Severity.ofJson?_eq_ok_iff.mpr h)
    · exact .array (Severity.ofJson?_eq_ok_iff.mpr h)

theorem decoder_ofJson (v : Json) : decoder.ofJson v =
    match ofJson? v with
    | some e => .ok e
    | none => .error (.noVariant "RuleEntry") := rfl

theorem settles_iff_settle? : Settles v severity options ↔ settle? v = .ok (severity, options) := by
  rw [Settles, settle?, decoder_ofJson]
  cases ofJson? v <;> simp

theorem settles_iff : Settles v severity options ↔ Says v severity options :=
  settles_iff_settle?.trans (settle?_eq_ok_iff.trans denotes_iff)

/-- Only an array says anything through its head. -/
theorem says_iff_of_not_array (h : ∀ items, v ≠ .array items) :
    Says v severity options ↔ severity.Spelled v ∧ options = none := by
  constructor
  · intro hsays
    cases hsays with
    | bare hv => exact ⟨hv, rfl⟩
    | array _ => exact absurd rfl (h _)
  · rintro ⟨hv, rfl⟩
    exact .bare hv

theorem says_array_iff {rest : List Json} :
    Says (.array (v :: rest)) severity options ↔ severity.Spelled v ∧ options = rest.head? := by
  constructor
  · intro hsays
    cases hsays with
    | bare hv => cases hv
    | array hv => exact ⟨hv, rfl⟩
  · rintro ⟨hv, rfl⟩
    exact .array hv

/-- No severity stands inside two arrays. -/
theorem not_says_nested {items rest : List Json} :
    ¬ Says (.array (.array items :: rest)) severity options := by
  intro h
  cases (says_array_iff.mp h).1

theorem eq_array_of_ofJson? {items : List Json} (h : ofJson? v = some (.withOptions items)) :
    v = .array items := by
  rw [ofJson?.eq_def] at h
  split at h
  · simp at h
  · obtain rfl : _ = items := by simpa using h
    rfl
  · simp at h

/-- Why a value says nothing: it cannot be read as an entry, or it is an array and its head is at
fault. -/
theorem fault_cases {fault : EntryFault} (h : settle? v = .error fault) :
    ((∀ items, v ≠ .array items) ∧ decoder.ofJson v = .error (.noVariant "RuleEntry") ∧
      fault.message = (Json.Fault.noVariant "RuleEntry").message) ∨
    ∃ items, v = .array items ∧ decoder.ofJson v = .ok (.withOptions items) ∧
      (withOptions items).resolve = .error fault := by
  rw [settle?] at h
  cases hread : ofJson? v with
  | none =>
    rw [hread] at h
    obtain rfl : EntryFault.noVariant = fault := Except.error.inj h
    refine Or.inl ⟨?_, by rw [decoder_ofJson, hread], rfl⟩
    rintro items rfl
    exact absurd hread (by simp [ofJson?, Severity.ofJson?])
  | some e =>
    rw [hread] at h
    cases e with
    | severity s => simp [resolve] at h
    | withOptions items =>
      exact Or.inr ⟨items, eq_array_of_ofJson? hread, by rw [decoder_ofJson, hread], h⟩

end Values

end RuleEntry

/-! ### Configurations -/

namespace Config

variable {c : Config} {before after : List (String × Json)} {key : String} {v : Json}

theorem not_refused_iff {e : String × Json} : ¬ Refused e ↔
    (pluginPrefix.toList <+: e.1.toList →
      e.1 ∈ Rule.ids ∧ ∃ severity options, RuleEntry.Says e.2 severity options) := by
  simp only [Refused, not_and_or, not_or, not_not, not_forall, RuleEntry.denotes_iff,
    imp_iff_not_or]

/-- A configuration fails at the first entry that is refused. -/
theorem resolve_of_settleEntry (hsplit : c.rules.entries = before ++ (key, v) :: after)
    (hpresets : ∀ n ∈ c.presets, Preset.IsName n) (hbefore : ∀ e ∈ before, ¬ Refused e)
    {error : ConfigError} (h : settleEntry key v = .error error) : c.resolve = .error error := by
  have hset : ¬ c.isUnset = true := by
    rw [isUnset_iff, hsplit]
    simp
  rw [resolve, base_of_not_isUnset hset, applyPresets_uniform hpresets, hsplit]
  exact applyEntries_error hbefore h _

end Config

namespace RuleEntry

/-- **The language of entries.**  A value is read as an entry with a severity just when it says that
severity, and then with the options that it says.  So a value that is no array is accepted bare if and
only if it is accepted at the head of an array, at the same severity.  In a configuration the first
entry of a rule that says nothing is the error, whether it cannot be read or not be resolved. -/
theorem settles_language :
    (∀ v severity options, Settles v severity options ↔ Says v severity options) ∧
    (∀ v rest severity, (∀ items, v ≠ .array items) →
      ((∃ options, Settles v severity options) ↔
        ∃ options, Settles (.array (v :: rest)) severity options)) ∧
    ∀ (c : Config) before key v after, c.rules.entries = before ++ (key, v) :: after →
      (∀ n ∈ c.presets, Preset.IsName n) →
      (∀ e ∈ before, pluginPrefix.toList <+: e.1.toList →
        e.1 ∈ Rule.ids ∧ ∃ severity options, Says e.2 severity options) →
      key ∈ Rule.ids → (∀ severity options, ¬ Says v severity options) →
      ∃ fault, c.resolve = .error (.invalidEntry key fault) ∧
        (((∀ items, v ≠ .array items) ∧ decoder.ofJson v = .error (.noVariant "RuleEntry") ∧
            fault.message = (Json.Fault.noVariant "RuleEntry").message) ∨
          ∃ items, v = .array items ∧ decoder.ofJson v = .ok (.withOptions items) ∧
            (withOptions items).resolve = .error fault) := by
  refine ⟨fun v severity options => settles_iff, fun v rest severity hv => ?_, ?_⟩
  · simp only [settles_iff, says_iff_of_not_array hv, says_array_iff, exists_and_left,
      exists_eq, and_true]
  · intro c before key v after hsplit hpresets hbefore hid hbad
    obtain ⟨fault, hfault⟩ := settle?_eq_error fun severity options h =>
      hbad severity options (denotes_iff.mp h)
    have hsettle : Config.settleEntry key v = .error (.invalidEntry key fault) := by
      rw [Config.settleEntry_known hid, hfault]
      rfl
    -- an entry in front that says something of a rule is not refused
    have hkept : ∀ e ∈ before, ¬ Config.Refused e := fun e he =>
      Config.not_refused_iff.mpr (hbefore e he)
    exact ⟨fault, Config.resolve_of_settleEntry hsplit hpresets hkept hsettle, fault_cases hfault⟩

/-- A severity inside two arrays is no entry, although inside one it is, and it is the error of a
configuration in which it stands behind an entry of another plugin and a word in mixed case. -/
theorem settles_language_nested :
    let foreign : String × Json := ("no-console", .null)
    let word : String × Json := (Rule.comment.id, .string "Warn")
    let single : Json := .array [.number (.integer 1)]
    let c : Config :=
      { Config.empty with rules := .ofList [foreign, word, (Rule.chain.id, .array [single])] }
    Settles single .warn none ∧
      (∀ severity options, ¬ Says (.array [single]) severity options) ∧
      ∃ fault, c.resolve = .error (.invalidEntry Rule.chain.id fault) := by
  intro foreign word single c
  have hentries : c.rules.entries = [foreign, word] ++ (Rule.chain.id, .array [single]) :: [] :=
    Json.sortMembers_of_ascending (by rw [Json.Ascending]; decide)
  have hnested : ∀ severity options, ¬ Says (.array [single]) severity options :=
    fun _ _ => not_says_nested
  have hbefore : ∀ e ∈ [foreign, word], pluginPrefix.toList <+: e.1.toList →
      e.1 ∈ Rule.ids ∧ ∃ severity options, Says e.2 severity options := by
    intro e he hown
    rcases List.mem_pair.mp he with rfl | rfl
    · exact absurd (Config.isOwnKey_iff.mpr hown) (by decide)
    · exact ⟨by decide, .warn, none, .bare (.warn (by simp [Marker.Spells]))⟩
  obtain ⟨-, -, hfirst⟩ := settles_language
  obtain ⟨fault, hfault, -⟩ := hfirst c _ _ _ _ hentries
    (fun n hn => absurd hn List.not_mem_nil) hbefore
    (by decide) hnested
  exact ⟨(settles_language.1 _ _ _).mpr (.array .one), hnested, fault, hfault⟩

end RuleEntry

end ChainLint
