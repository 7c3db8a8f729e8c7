import ChainLint.CommandLine.Run
import ChainLint.Proofs.Files.Collection
import ChainLint.Proofs.Files.Spelling

/-!
# Files under several paths

A file of a tree may be reached by several paths.  Repeats are left out by the components of paths, so a
file is collected once for every list of components under which it is found.  Paths that go up by no two
dots differ there in a leading dot alone, so of such paths every file is collected once if all arguments
begin with a dot or none does.

* `Node.get? node names`: what names lead to, one entry after another.
* `Node.WellFormed node`: the entries of every directory have distinct names.
* `Node.get?_of_find`: a path leads to what lies at its place.
* `Found.at_place`: a collected file is the one at the place of its path.
* `collect_places`: how often a file is collected.
* `collect_two_spellings`: a file that is collected twice.
-/

namespace ChainLint.CommandLine

namespace Node

/-! ### Places in a tree -/

/-- What names lead to, one entry after another. -/
def get? : Node → List String → Option Node
  | node, [] => some node
  | .directory entries, name :: names => (entries.lookup name).bind fun node => node.get? names
  | .file _, _ :: _ => none

/-- Whether the entries of every directory have distinct names that paths can hold. -/
inductive WellFormed : Node → Prop
  | file (bytes : ByteArray) : WellFormed (.file bytes)
  | directory {entries : List (String × Node)} (hnames : ∀ e ∈ entries, Path.IsName e.1)
      (hdistinct : (entries.map Prod.fst).Nodup) (hnodes : ∀ e ∈ entries, WellFormed e.2) :
    WellFormed (.directory entries)

variable {root node : Node} {entries : List (String × Node)} {name : String}
  {place names : List String} {bytes : ByteArray} {trail : List Node}

theorem get?_append (node : Node) (names names' : List String) :
    node.get? (names ++ names') = (node.get? names).bind fun found => found.get? names' := by
  induction names generalizing node with
  | nil => simp [get?]
  | cons name names ih =>
    cases node with
    | file bytes => rfl
    | directory entries =>
      rw [List.cons_append, get?, get?]
      cases entries.lookup name with
      | none => rfl
      | some node => exact ih node

theorem mem_of_lookup (h : entries.lookup name = some node) : (name, node) ∈ entries := by
  obtain ⟨before, after, rfl, -⟩ := List.lookup_eq_some_iff.mp h
  exact List.mem_append_right before List.mem_cons_self

theorem lookup_of_mem (hdistinct : (entries.map Prod.fst).Nodup) (h : (name, node) ∈ entries) :
    entries.lookup name = some node := by
  obtain ⟨before, after, rfl⟩ := List.append_of_mem h
  refine List.lookup_eq_some_iff.mpr ⟨before, after, rfl, fun e he => ?_⟩
  rw [List.map_append, List.map_cons, List.nodup_append] at hdistinct
  exact bne_iff_ne.mpr (hdistinct.2.2 e.1 (List.mem_map_of_mem he) name List.mem_cons_self).symm

theorem WellFormed.get? (h : root.WellFormed) (hnode : root.get? names = some node) :
    node.WellFormed := by
  induction names generalizing root with
  | nil =>
    obtain rfl := Option.some.inj hnode
    exact h
  | cons name names ih =>
    cases h with
    | file bytes => cases hnode
    | directory hnames hdistinct hnodes =>
      obtain ⟨child, hchild, hnode⟩ := Option.bind_eq_some_iff.mp hnode
      exact ih (hnodes _ (mem_of_lookup hchild)) hnode

/-- In a well-formed tree names that lead to a file lead to no other one. -/
theorem Leads.get? (hleads : Leads node names bytes) (h : node.WellFormed) :
    node.get? names = some (.file bytes) ∧ ∀ name ∈ names, Path.IsName name := by
  induction hleads with
  | file bytes => exact ⟨rfl, by simp⟩
  | @entry entries name child names bytes hentry hleads ih =>
    cases h with
    | directory hnames hdistinct hnodes =>
      obtain ⟨hget, hnames'⟩ := ih (hnodes _ hentry)
      refine ⟨?_, List.forall_mem_cons.mpr ⟨hnames _ hentry, hnames'⟩⟩
      rw [Node.get?, lookup_of_mem hdistinct hentry]
      exact hget

/-! ### The place of a path -/

/-- The nodes on the way to a place: the one that has been reached, then the directories above it. -/
inductive Trail (root : Node) : List String → List Node → Prop
  | start : Trail root [] [root]
  | enter {place : List String} {entries : List (String × Node)} {above : List Node} {name : String}
      {node : Node} (h : Trail root place (.directory entries :: above))
      (hentry : entries.lookup name = some node) :
    Trail root (place ++ [name]) (node :: .directory entries :: above)

theorem Trail.get? {above : List Node} (h : Trail root place (node :: above)) :
    root.get? place = some node := by
  generalize htrail : node :: above = trail at h
  induction h generalizing node above with
  | start =>
    obtain ⟨rfl, -⟩ := List.cons.inj htrail
    rfl
  | enter h hentry ih =>
    obtain ⟨rfl, -⟩ := List.cons.inj htrail
    rw [get?_append, ih rfl, Option.bind_some, Node.get?, hentry]
    rfl

/-- Two dots lead to the directory above, and from the topmost one to itself. -/
theorem Trail.up {above : List Node} (h : Trail root place (.directory entries :: above)) :
    Trail root place.dropLast (if above.isEmpty then [.directory entries] else above) := by
  cases h with
  | start => exact .start
  | enter h hentry =>
    rw [List.dropLast_concat]
    exact h

/-- Following pieces leads to what lies at their place. -/
theorem get?_of_follow {pieces : List (List Char)} (h : Trail root place trail)
    (hfollow : follow trail pieces = .ok node) :
    root.get? ((pieces.filterMap Path.component?).foldl Path.Component.enter place) = some node := by
  -- A piece moves the trail and the place alike: an empty one or a dot leaves both as they are.
  fun_induction follow trail pieces generalizing place with
  | case1 => cases hfollow
  | case2 node above =>
    obtain rfl := Except.ok.inj hfollow
    exact h.get?
  | case3 => cases hfollow
  | case4 entries above piece rest hskip ih =>
    rw [List.filterMap_cons_none (by rw [Path.component?, if_pos hskip])]
    exact ih h hfollow
  | case5 entries above rest hskip ih =>
    have hpiece : Path.component? ['.', '.'] = some .parent := rfl
    rw [List.filterMap_cons_some hpiece]
    exact ih h.up hfollow
  | case6 entries above piece rest hskip hup node hlookup ih =>
    have hpiece : Path.component? piece = some (.normal (String.ofList piece)) := by
      rw [Path.component?, if_neg hskip, if_neg hup]
    rw [List.filterMap_cons_some hpiece]
    exact ih (.enter h hlookup) hfollow
  | case7 => cases hfollow

/-- A path leads to what lies at its place, and it is relative. -/
theorem get?_of_find {path : String} (h : root.find path = .ok node) :
    Path.IsRelative path ∧ root.get? (Path.place path) = some node := by
  rw [find] at h
  split_ifs at h with hpath
  rw [not_or] at hpath
  refine ⟨hpath, ?_⟩
  obtain ⟨dots, body, hdots, heq, rfl, -⟩ := Path.IsRelative.exists_components hpath
  have hget := get?_of_follow .start h
  rw [Path.place, heq, List.foldl_append]
  rcases hdots with rfl | rfl <;> exact hget

end Node

/-! ### Collected files -/

/-- The names that lead to the place of a file's path. -/
def SourceFile.place (f : SourceFile) : List String := Path.place f.path

variable {root : Node} {paths : List String} {path : String} {f g : SourceFile} {files : List SourceFile}

/-- A collected file is the one at the place of its path, and its path goes on from the argument by
names. -/
theorem Found.at_place (hroot : root.WellFormed) (h : Found root.find path f) :
    root.get? f.place = some (.file f.bytes) ∧ Path.IsRelative f.path ∧
      ∃ names : List String, f.components = Path.components path ++ names.map .normal := by
  cases h with
  | itself h hlint =>
    obtain ⟨hrelative, hget⟩ := Node.get?_of_find h
    exact ⟨hget, hrelative, [], by simp [SourceFile.components]⟩
  | @below entries names bytes h hpath hleads hnames hlint =>
    obtain ⟨hrelative, hget⟩ := Node.get?_of_find h
    obtain ⟨hbelow, hnames'⟩ := hleads.get? (hroot.get? hget)
    obtain ⟨hrelative', heq⟩ := Path.components_foldl_join hrelative hnames'
    refine ⟨?_, hrelative', names, heq⟩
    rw [SourceFile.place, Path.place, heq, List.foldl_append, Path.foldl_enter_normal,
      Node.get?_append]
    exact (congrArg (·.bind fun found => found.get? names) hget).trans hbelow

/-- Whether the path of a file is direct and whether it begins with a dot are seen at the argument. -/
theorem Found.isDirect_iff (hroot : root.WellFormed) (h : Found root.find path f) :
    Path.IsDirect f.path ↔ Path.IsDirect path := by
  obtain ⟨-, -, names, heq⟩ := h.at_place hroot
  have hnames : Path.Component.parent ∉ names.map Path.Component.normal := by simp
  rw [Path.IsDirect, Path.IsDirect, ← SourceFile.components, heq, List.mem_append, not_or]
  exact and_iff_left hnames

theorem Found.isDotted_eq (hroot : root.WellFormed) (h : Found root.find path f) :
    Path.isDotted f.path = Path.isDotted path := by
  obtain ⟨-, -, names, heq⟩ := h.at_place hroot
  rw [Path.isDotted, Path.isDotted, ← SourceFile.components, heq]
  cases Path.components path with
  | nil => cases names <;> simp
  | cons c cs => simp

/-- Files with the same components are at one place. -/
theorem SourceFile.place_eq_of_components (h : f.components = g.components) : f.place = g.place :=
  congrArg (List.foldl Path.Component.enter []) h

/-- Found files at one place have the same components, unless just one of their paths begins with a dot
or one goes up. -/
theorem Found.components_eq_or {path' : String} (hroot : root.WellFormed)
    (h : Found root.find path f) (h' : Found root.find path' g) (hplace : f.place = g.place) :
    f.components = g.components ∨ Path.isDotted f.path ≠ Path.isDotted g.path ∨
      ¬ Path.IsDirect f.path ∨ ¬ Path.IsDirect g.path := by
  obtain ⟨-, hrelative, -⟩ := h.at_place hroot
  obtain ⟨-, hrelative', -⟩ := h'.at_place hroot
  by_cases hdirect : Path.IsDirect f.path
  · by_cases hdirect' : Path.IsDirect g.path
    · by_cases hdotted : Path.isDotted f.path = Path.isDotted g.path
      · have hsame := Path.components_eq_iff hrelative hdirect hrelative' hdirect'
        exact Or.inl (hsame.mpr ⟨hplace, hdotted⟩)
      · exact Or.inr (Or.inl hdotted)
    · exact Or.inr (Or.inr (Or.inr hdirect'))
  · exact Or.inr (Or.inr (Or.inl hdirect))

/-- Files in strict order are told by their components. -/
theorem eq_of_components (h : files.Pairwise fun f g => Path.Before f.components g.components)
    (hf : f ∈ files) (hg : g ∈ files) (heq : f.components = g.components) : f = g := by
  have hdistinct : (files.map SourceFile.components).Nodup :=
    List.pairwise_map.mpr (h.imp fun hbefore => hbefore.2)
  exact List.inj_on_of_nodup_map hdistinct hf hg heq

theorem nodup_of_strict (h : files.Pairwise fun f g => Path.Before f.components g.components) :
    files.Nodup :=
  h.imp fun hbefore heq => hbefore.2 (congrArg SourceFile.components heq)

/-- The report on a file bears its path. -/
theorem path_of_lintFile {rules : RuleSet} {report : Report} (h : lintFile rules f = .ok report) :
    report.path = f.path := by
  rw [lintFile] at h
  cases htext : (Node.file f.bytes).text? with
  | error fault =>
    rw [htext] at h
    cases h
  | ok text =>
    rw [htext] at h
    cases h
    rfl

theorem map_path_of_reports {rules : RuleSet} {reports : List Report}
    (h : files.mapM (lintFile rules) = .ok reports) :
    reports.map Report.path = files.map SourceFile.path := by
  induction files generalizing reports with
  | nil =>
    cases h
    rfl
  | cons f files ih =>
    rw [List.mapM_cons] at h
    cases hreport : lintFile rules f with
    | error fault =>
      rw [hreport] at h
      cases h
    | ok report =>
      cases hrest : files.mapM (lintFile rules) with
      | error fault =>
        rw [hreport, hrest] at h
        cases h
      | ok rest =>
        rw [hreport, hrest] at h
        cases h
        rw [List.map_cons, List.map_cons, path_of_lintFile hreport, ih hrest]

/-- **How often a file is collected.**  In a well-formed tree, arguments that all lead somewhere give
files each of which lies at the place of its path, and something is collected for the place of every file
that an argument stands for.  Of two collected files at one place just one path begins with a dot, or
one of them goes up.  So every place is listed once exactly if files that the arguments stand for have
the same components whenever they are at one place, and then every file has one report.  That is so
if no argument goes up and all or none begin with a dot. -/
theorem collect_places (hroot : root.WellFormed) (hpaths : ∀ p ∈ paths, Disk.Has root.find p) :
    ∃ files, collect root.find paths = .ok files ∧
      (∀ f ∈ files, root.get? f.place = some (.file f.bytes)) ∧
      (∀ p ∈ paths, ∀ f, Found root.find p f → ∃ g ∈ files, g.place = f.place) ∧
      (∀ f ∈ files, ∀ g ∈ files, f.place = g.place → f = g ∨
        Path.isDotted f.path ≠ Path.isDotted g.path ∨
        ¬ Path.IsDirect f.path ∨ ¬ Path.IsDirect g.path) ∧
      ((files.map SourceFile.place).Nodup ↔ ∀ p ∈ paths, ∀ q ∈ paths, ∀ f g,
        Found root.find p f → Found root.find q g → f.place = g.place →
          f.components = g.components) ∧
      ((∀ p ∈ paths, Path.IsDirect p) →
        (∀ p ∈ paths, ∀ q ∈ paths, Path.isDotted p = Path.isDotted q) →
        (files.map SourceFile.place).Nodup) ∧
      ∀ rules reports, files.mapM (lintFile rules) = .ok reports →
        reports.map (fun r => Path.place r.path) = files.map SourceFile.place := by
  obtain ⟨files, hfiles, hstrict, hfound, hall⟩ := collect_ok hpaths
  refine ⟨files, hfiles, fun f hf => ?_, fun p hp f hf => ?_, fun f hf g hg hplace => ?_,
    ⟨?_, ?_⟩, ?_, ?_⟩
  · obtain ⟨p, -, hfp⟩ := hfound f hf
    exact (hfp.at_place hroot).1
  · obtain ⟨g, hg, heq⟩ := hall p hp f hf
    exact ⟨g, hg, SourceFile.place_eq_of_components heq⟩
  · obtain ⟨p, -, hfp⟩ := hfound f hf
    obtain ⟨q, -, hgq⟩ := hfound g hg
    exact (hfp.components_eq_or hroot hgq hplace).imp_left (eq_of_components hstrict hf hg)
  · -- A file with the components of each is collected, and at one place both are the same.
    intro hdistinct p hp q hq f g hf hg hplace
    obtain ⟨f', hf', heq⟩ := hall p hp f hf
    obtain ⟨g', hg', heq'⟩ := hall q hq g hg
    have hplace' : f'.place = g'.place := by
      rw [SourceFile.place_eq_of_components heq, hplace, SourceFile.place_eq_of_components heq']
    obtain rfl := List.inj_on_of_nodup_map hdistinct hf' hg' hplace'
    exact heq.symm.trans heq'
  · intro hsame
    refine (nodup_of_strict hstrict).map_on fun f hf g hg hplace => ?_
    obtain ⟨p, hp, hfp⟩ := hfound f hf
    obtain ⟨q, hq, hgq⟩ := hfound g hg
    exact eq_of_components hstrict hf hg (hsame p hp q hq f g hfp hgq hplace)
  · intro hdirect hdotted
    refine (nodup_of_strict hstrict).map_on fun f hf g hg hplace => ?_
    obtain ⟨p, hp, hfp⟩ := hfound f hf
    obtain ⟨q, hq, hgq⟩ := hfound g hg
    rcases hfp.components_eq_or hroot hgq hplace with heq | hne | hne | hne
    · exact eq_of_components hstrict hf hg heq
    · rw [hfp.isDotted_eq hroot, hgq.isDotted_eq hroot] at hne
      exact absurd (hdotted p hp q hq) hne
    · exact absurd ((hfp.isDirect_iff hroot).mpr (hdirect p hp)) hne
    · exact absurd ((hgq.isDirect_iff hroot).mpr (hdirect q hq)) hne
  · intro rules reports hreports
    have hpath := congrArg (List.map Path.place) (map_path_of_reports hreports)
    rwa [List.map_map, List.map_map] at hpath

theorem Node.wellFormed_sample : Node.sample.WellFormed := by
  refine .directory (by decide) (by decide) ?_
  simp only [List.forall_mem_cons]
  refine ⟨.directory (by decide) (by decide) ?_, .file _, by simp⟩
  simp only [List.forall_mem_cons]
  refine ⟨.file _, .file _, .file _, .directory (by decide) (by decide) ?_, by simp⟩
  simp only [List.forall_mem_cons]
  exact ⟨.file _, by simp⟩

/-- A directory, a file in it and the directory with a slash behind it. -/
theorem collect_places_overlapping : ∃ files,
    collect Node.sample.find ["src", "src/a.js", "src/"] = .ok files ∧
      (files.map SourceFile.place).Nodup ∧ (∃ f ∈ files, f.place = ["src", "a.js"]) ∧
      Node.sample.get? ["src", "a.js"] = some (.file .empty) := by
  have hpaths : ∀ p ∈ ["src", "src/a.js", "src/"], Disk.Has Node.sample.find p := by
    simp only [List.forall_mem_cons]
    exact ⟨⟨_, rfl⟩, ⟨_, rfl⟩, ⟨_, rfl⟩, by simp⟩
  obtain ⟨files, hfiles, -, hall, -, -, hdistinct, -⟩ :=
    collect_places Node.wellFormed_sample hpaths
  have hfound : Found Node.sample.find "src/a.js" ⟨"src/a.js", .empty⟩ := .itself rfl (by decide)
  obtain ⟨f, hf, hplace⟩ := hall "src/a.js" (by simp) _ hfound
  have heq : f.place = ["src", "a.js"] := hplace.trans (by decide)
  exact ⟨files, hfiles, hdistinct (by decide) (by decide), ⟨f, hf, heq⟩, rfl⟩

/-- A file that is collected twice, with a leading dot and without. -/
theorem collect_two_spellings : ∃ files,
    Node.sample.WellFormed ∧ (∀ p ∈ ["a.js", "./a.js"], Disk.Has Node.sample.find p) ∧
      collect Node.sample.find ["a.js", "./a.js"] = .ok files ∧
      files.map SourceFile.path = ["./a.js", "a.js"] ∧ ¬ (files.map SourceFile.place).Nodup := by
  have hpaths : ∀ p ∈ ["a.js", "./a.js"], Disk.Has Node.sample.find p := by
    simp only [List.forall_mem_cons]
    exact ⟨⟨_, rfl⟩, ⟨_, rfl⟩, by simp⟩
  have hfound : filesAtAll Node.sample.find ["a.js", "./a.js"] =
      .ok [⟨"a.js", .empty⟩, ⟨"./a.js", .empty⟩] := rfl
  have hlast : Path.precedes "a.js" "./a.js" = false := by decide
  have hother : Path.sameAs "./a.js" "a.js" = false := by decide
  refine ⟨[⟨"./a.js", .empty⟩, ⟨"a.js", .empty⟩], Node.wellFormed_sample, hpaths, ?_, rfl, by decide⟩
  simp [collect, hfound, Except.map, List.mergeSort, hlast, dropRepeats, hother]

end ChainLint.CommandLine
