import Mathlib.Data.List.Basic
import ChainLint.Path

/-!
# Spellings of paths

A path leads, name by name, to a place; different paths may lead to the same one.  The components of a
path drop final and repeated slashes and every dot but a leading one, so without two dots the only choice
that is left is that of a leading dot.

* `Path.place path`: the names that lead from the directory where a relative path starts to its place.
* `Path.IsRelative path`, `Path.IsDirect path`: paths that start nowhere but here, and those without two
  dots.
* `Path.components_join`: the components of an entry of a directory.
* `Path.components_eq_iff`: when two direct relative paths have the same components.
-/

namespace ChainLint.Path

/-! ### Places -/

/-- The place to which a component leads from a place. -/
def Component.enter (place : List String) : Component → List String
  | .root => []
  | .current => place
  | .parent => place.dropLast
  | .normal name => place ++ [name]

/-- The names that lead to the place of a path. -/
def place (path : String) : List String := (components path).foldl Component.enter []

/-- Whether a path starts at the directory where it is looked up. -/
def IsRelative (path : String) : Prop := path ≠ "" ∧ path.toList.head? ≠ some '/'

/-- Whether a path only goes down. -/
def IsDirect (path : String) : Prop := Component.parent ∉ components path

/-- Whether a path begins with a dot of its own. -/
def isDotted (path : String) : Bool := (components path).head? = some .current

instance (path : String) : Decidable (IsDirect path) := inferInstanceAs (Decidable (_ ∉ _))

/-- Whether a text can name an entry of a directory. -/
def IsName (name : String) : Prop := name ≠ "" ∧ name ≠ "." ∧ name ≠ ".." ∧ '/' ∉ name.toList

instance (name : String) : Decidable (IsName name) := inferInstanceAs (Decidable (_ ∧ _ ∧ _ ∧ _))

theorem foldl_enter_normal (place names : List String) :
    (names.map Component.normal).foldl Component.enter place = place ++ names := by
  induction names generalizing place with
  | nil => simp
  | cons name names ih => rw [List.map_cons, List.foldl_cons, ih, Component.enter]; simp

/-! ### Texts between slashes -/

theorem pieces_ne_nil (cs : List Char) : pieces cs ≠ [] := by
  cases cs with
  | nil => simp [pieces]
  | cons c cs =>
    rw [pieces]
    split_ifs
    · simp
    · split <;> simp

theorem pieces_cons_of_ne {c : Char} (cs : List Char) (h : c ≠ '/') :
    ∃ piece rest, pieces cs = piece :: rest ∧ pieces (c :: cs) = (c :: piece) :: rest := by
  obtain ⟨piece, rest, heq⟩ := List.exists_cons_of_ne_nil (pieces_ne_nil cs)
  exact ⟨piece, rest, heq, by rw [pieces, if_neg h, heq]⟩

/-- Only the empty text is one empty piece. -/
theorem pieces_ne_empty {cs : List Char} (h : cs ≠ []) : pieces cs ≠ [[]] := by
  obtain ⟨c, cs, rfl⟩ := List.exists_cons_of_ne_nil h
  by_cases hc : c = '/'
  · simp [pieces, hc, pieces_ne_nil]
  · obtain ⟨piece, rest, -, heq⟩ := pieces_cons_of_ne cs hc
    simp [heq]

theorem pieces_append (cs cs' : List Char) : pieces (cs ++ '/' :: cs') = pieces cs ++ pieces cs' := by
  induction cs with
  | nil => rfl
  | cons c cs ih =>
    by_cases hc : c = '/'
    · rw [hc, List.cons_append, pieces, if_pos rfl, ih, pieces, if_pos rfl, List.cons_append]
    · obtain ⟨piece, rest, heq, heq'⟩ := pieces_cons_of_ne cs hc
      rw [heq] at ih
      rw [List.cons_append, heq', pieces, if_neg hc, ih]
      rfl

theorem pieces_of_not_mem {cs : List Char} (h : '/' ∉ cs) : pieces cs = [cs] := by
  induction cs with
  | nil => rfl
  | cons c cs ih =>
    rw [List.mem_cons, not_or] at h
    rw [pieces, if_neg (Ne.symm h.1), ih h.2]

/-- A relative path has a first piece. -/
theorem IsRelative.exists_pieces {path : String} (h : IsRelative path) :
    ∃ piece rest, piece ≠ [] ∧ pieces path.toList = piece :: rest := by
  obtain ⟨hne, hhead⟩ := h
  cases hcs : path.toList with
  | nil => exact absurd (String.toList_eq_nil_iff.mp hcs) hne
  | cons c cs =>
    rw [hcs, List.head?_cons, ne_eq, Option.some.injEq] at hhead
    obtain ⟨piece, rest, -, heq⟩ := pieces_cons_of_ne cs hhead
    exact ⟨c :: piece, rest, List.cons_ne_nil _ _, heq⟩

/-! ### Components -/

/-- What the first piece alone adds to the components. -/
def start : List (List Char) → List Component
  | [] :: _ :: _ => [.root]
  | ['.'] :: _ => [.current]
  | _ => []

theorem components_eq (path : String) :
    components path = start (pieces path.toList) ++ (pieces path.toList).filterMap component? := rfl

/-- Whether a path starts with a slash shows at its second piece. -/
theorem start_cons_cons (piece piece' piece'' : List Char) (rest rest' : List (List Char)) :
    start (piece :: piece' :: rest) = start (piece :: piece'' :: rest') := by
  rcases piece with _ | ⟨c, _ | _⟩
  · rfl
  · by_cases hc : c = '.' <;> simp [start, hc]
  · simp [start]

theorem start_cons {piece : List Char} (h : piece ≠ []) (rest : List (List Char)) :
    start (piece :: rest) = if piece = ['.'] then [.current] else [] := by
  rcases piece with _ | ⟨c, _ | _⟩
  · exact absurd rfl h
  · by_cases hc : c = '.' <;> simp [start, hc]
  · simp [start]

theorem component?_of_isName {name : String} (h : IsName name) :
    component? name.toList = some (.normal name) := by
  obtain ⟨hne, hdot, hdots, -⟩ := h
  have hempty : name.toList ≠ [] := mt String.toList_eq_nil_iff.mp hne
  have hone : name.toList ≠ ['.'] := fun heq => hdot (String.toList_inj.mp heq)
  have htwo : name.toList ≠ ['.', '.'] := fun heq => hdots (String.toList_inj.mp heq)
  simp [component?, hempty, hone, htwo]

/-- A piece behind others leaves the start as it is, unless the path was empty before. -/
theorem start_concat {ps : List (List Char)} (hps : ps ≠ []) (hempty : ps ≠ [[]])
    (piece : List Char) : start (ps ++ [piece]) = start ps := by
  rcases ps with _ | ⟨first, _ | ⟨second, rest⟩⟩
  · exact absurd rfl hps
  · have hfirst : first ≠ [] := fun h => hempty (by rw [h])
    rw [List.singleton_append, start_cons hfirst, start_cons hfirst]
  · exact start_cons_cons first second second _ rest

theorem start_concat_concat {ps : List (List Char)} (hps : ps ≠ []) (piece piece' : List Char) :
    start (ps ++ [piece]) = start (ps ++ [piece']) := by
  rcases ps with _ | ⟨first, _ | ⟨second, rest⟩⟩
  · exact absurd rfl hps
  · exact start_cons_cons first piece piece' [] []
  · exact start_cons_cons first second second _ _

/-- An entry of a directory has the components of the directory and its own name. -/
theorem components_join {path name : String} (hpath : path ≠ "") (hname : IsName name) :
    components (join path name) = components path ++ [.normal name] := by
  have hpieces : pieces name.toList = [name.toList] := pieces_of_not_mem hname.2.2.2
  have hbody : ∀ ps : List (List Char), (ps ++ [name.toList]).filterMap component? =
      ps.filterMap component? ++ [.normal name] := by
    intro ps
    simp [component?_of_isName hname]
  rw [join, components_eq, components_eq]
  split_ifs with hslash
  · -- The path ends with a slash, behind which the name takes the place of an empty piece.
    obtain ⟨cs, hcs⟩ := List.getLast?_eq_some_iff.mp hslash
    have hjoined : pieces (path ++ name).toList = pieces cs ++ [name.toList] := by
      rw [String.toList_append, hcs, List.append_assoc, List.singleton_append, pieces_append, hpieces]
    have hplain : pieces path.toList = pieces cs ++ [[]] := by rw [hcs, pieces_append]; rfl
    rw [hjoined, hplain, hbody, start_concat_concat (pieces_ne_nil cs) _ [], List.filterMap_append,
      ← List.append_assoc]
    simp [component?]
  · have hjoined : pieces (path ++ "/" ++ name).toList = pieces path.toList ++ [name.toList] := by
      rw [String.toList_append, String.toList_append, List.append_assoc, ← hpieces, ← pieces_append]
      rfl
    have hempty := pieces_ne_empty (mt String.toList_eq_nil_iff.mp hpath)
    rw [hjoined, hbody, start_concat (pieces_ne_nil _) hempty, ← List.append_assoc]

theorem join_ne_empty {path name : String} (hname : IsName name) : join path name ≠ "" := by
  have hempty : name.toList ≠ [] := mt String.toList_eq_nil_iff.mp hname.1
  rw [join, ne_eq, ← String.toList_eq_nil_iff]
  split_ifs
  · simp [hempty]
  · simp

theorem head?_join {path name : String} (hpath : path ≠ "") :
    (join path name).toList.head? = path.toList.head? := by
  obtain ⟨c, cs, hcs⟩ := List.exists_cons_of_ne_nil (mt String.toList_eq_nil_iff.mp hpath)
  rw [join]
  split_ifs <;> simp [String.toList_append, hcs]

theorem IsRelative.join {path name : String} (h : IsRelative path) (hname : IsName name) :
    IsRelative (join path name) :=
  ⟨join_ne_empty hname, by rw [head?_join h.1]; exact h.2⟩

/-- What lies below a directory has its components and then the names that lead there. -/
theorem components_foldl_join {path : String} {names : List String} (h : IsRelative path)
    (hnames : ∀ name ∈ names, IsName name) : IsRelative (names.foldl Path.join path) ∧
      components (names.foldl Path.join path) = components path ++ names.map .normal := by
  induction names generalizing path with
  | nil => exact ⟨h, by simp⟩
  | cons name names ih =>
    have hname := hnames name List.mem_cons_self
    obtain ⟨hrelative, heq⟩ := ih (h.join hname) fun n hn => hnames n (List.mem_cons_of_mem _ hn)
    refine ⟨hrelative, ?_⟩
    rw [List.foldl_cons, heq, components_join h.1 hname, List.append_assoc]
    rfl

/-! ### Direct paths -/

theorem component?_eq_some {piece : List Char} {c : Component} (h : component? piece = some c) :
    c = .parent ∨ ∃ name, c = .normal name := by
  rw [component?] at h
  split_ifs at h
  · exact Or.inl (Option.some.inj h).symm
  · exact Or.inr ⟨_, (Option.some.inj h).symm⟩

theorem exists_names {cs : List Component} (h : ∀ c ∈ cs, ∃ name, c = .normal name) :
    ∃ names : List String, cs = names.map Component.normal := by
  induction cs with
  | nil => exact ⟨[], rfl⟩
  | cons c cs ih =>
    obtain ⟨name, rfl⟩ := h c List.mem_cons_self
    obtain ⟨names, rfl⟩ := ih fun c hc => h c (List.mem_cons_of_mem _ hc)
    exact ⟨name :: names, rfl⟩

variable {path path' : String}

/-- The components of a relative path are its names and two dots, behind a dot or behind nothing. -/
theorem IsRelative.exists_components (h : IsRelative path) :
    ∃ dots body, (dots = [] ∨ dots = [.current]) ∧ components path = dots ++ body ∧
      body = (pieces path.toList).filterMap component? ∧
      ∀ c ∈ body, c = .parent ∨ ∃ name, c = .normal name := by
  obtain ⟨piece, rest, hpiece, hpieces⟩ := h.exists_pieces
  refine ⟨start (pieces path.toList), _, ?_, components_eq path, rfl, fun c hc => ?_⟩
  · rw [hpieces, start_cons hpiece]
    split_ifs
    · exact Or.inr rfl
    · exact Or.inl rfl
  · obtain ⟨piece, -, hc⟩ := List.mem_filterMap.mp hc
    exact component?_eq_some hc

/-- A direct relative path is told by its place and by whether it begins with a dot. -/
theorem components_eq_place (h : IsRelative path) (hdirect : IsDirect path) :
    components path =
      (if isDotted path then [.current] else []) ++ (place path).map Component.normal := by
  obtain ⟨dots, body, hdots, heq, -, hbody⟩ := h.exists_components
  have hnormal : ∀ c ∈ body, ∃ name, c = Component.normal name := by
    intro c hc
    rcases hbody c hc with rfl | hname
    · exact absurd (heq ▸ List.mem_append_right _ hc) hdirect
    · exact hname
  obtain ⟨names, rfl⟩ := exists_names hnormal
  have hplace : place path = names := by
    rw [place, heq, List.foldl_append]
    rcases hdots with rfl | rfl <;> exact foldl_enter_normal [] names
  have hdotted : isDotted path = decide (dots = [.current]) := by
    rw [isDotted, heq]
    rcases hdots with rfl | rfl
    · cases names <;> simp
    · simp
  rw [heq, hplace, hdotted]
  rcases hdots with rfl | rfl <;> simp

/-- Direct relative paths have the same components if they lead to one place and both or neither begin
with a dot. -/
theorem components_eq_iff (h : IsRelative path) (hdirect : IsDirect path) (h' : IsRelative path')
    (hdirect' : IsDirect path') : components path = components path' ↔
      place path = place path' ∧ isDotted path = isDotted path' := by
  constructor
  · intro heq
    exact ⟨by rw [place, place, heq], by rw [isDotted, isDotted, heq]⟩
  · rintro ⟨hplace, hdotted⟩
    rw [components_eq_place h hdirect, components_eq_place h' hdirect', hplace, hdotted]

end ChainLint.Path
