import Mathlib.Data.List.Sort
import ChainLint.CommandLine.Collect
import ChainLint.Proofs.Files.PathOrder

/-!
# The files that are collected

Arguments that all lead somewhere stand for the lintable files among them and below them, less those at
names of installed packages.  Each of their paths is listed once, in the order of paths.  So neither the
order of the arguments, nor their repetition, nor the order in which directories list their entries makes
a difference to the paths.

* `Node.Leads node names bytes`: names lead from a node to a file.
* `Found disk path f`: the argument `path` stands for the file `f`.
* `Disk.Relists disk disk'`: the same trees, with the entries of every directory in any order.
* `filesAtAll_missing`, `filesAtAll_ok`: what arguments stand for, before it is sorted.
* `pairwise_dropRepeats`, `exists_mem_dropRepeats`: sorted files without repeats.
* `collect_exact`: the collected files.
-/

namespace ChainLint.CommandLine

/-! ### Files in a tree -/

namespace Node

/-- Whether names lead, one entry after another, from a node to a file of these bytes. -/
inductive Leads : Node → List String → ByteArray → Prop
  | file (bytes : ByteArray) : Leads (.file bytes) [] bytes
  | entry {entries : List (String × Node)} {name : String} {node : Node} {names : List String}
      {bytes : ByteArray} (hentry : (name, node) ∈ entries) (h : Leads node names bytes) :
    Leads (.directory entries) (name :: names) bytes

variable {entries : List (String × Node)} {name : String} {node : Node} {names : List String}
  {bytes : ByteArray}

theorem leads_file_iff {bytes' : ByteArray} :
    Leads (.file bytes) names bytes' ↔ names = [] ∧ bytes' = bytes := by
  constructor
  · rintro ⟨⟩
    exact ⟨rfl, rfl⟩
  · rintro ⟨rfl, rfl⟩
    exact .file _

theorem not_leads_nil : ¬ Leads (.directory []) names bytes := by
  rintro ⟨⟩
  contradiction

/-- A file lies behind the first entry of a directory or among the rest. -/
theorem leads_directory_cons : Leads (.directory ((name, node) :: entries)) names bytes ↔
    (∃ below, names = name :: below ∧ Leads node below bytes) ∨
      Leads (.directory entries) names bytes := by
  constructor
  · rintro (_ | ⟨hentry, h⟩)
    rcases List.mem_cons.mp hentry with heq | hrest
    · obtain ⟨rfl, rfl⟩ := Prod.mk.inj heq
      exact Or.inl ⟨_, rfl, h⟩
    · exact Or.inr (.entry hrest h)
  · rintro (⟨below, rfl, h⟩ | h)
    · exact .entry List.mem_cons_self h
    · cases h with
      | entry hentry h => exact .entry (List.mem_cons_of_mem _ hentry) h

/-- Whether a lintable file lies at a path or below it, at no name of installed packages. -/
def Offers (path : String) (node : Node) (f : SourceFile) : Prop :=
  ∃ names, node.Leads names f.bytes ∧ packagesName ∉ names ∧
    f.path = names.foldl Path.join path ∧ isLintable f.path = true

variable {path : String} {f : SourceFile}

theorem offers_directory_cons : Offers path (.directory ((name, node) :: entries)) f ↔
    (name ≠ packagesName ∧ node.Offers (Path.join path name) f) ∨
      Offers path (.directory entries) f := by
  simp only [Offers, leads_directory_cons]
  constructor
  · rintro ⟨names, ⟨below, rfl, h⟩ | h, hnames, hpath, hlint⟩
    · rw [List.mem_cons, not_or] at hnames
      exact Or.inl ⟨Ne.symm hnames.1, below, h, hnames.2, hpath, hlint⟩
    · exact Or.inr ⟨names, h, hnames, hpath, hlint⟩
  · rintro (⟨hname, below, h, hbelow, hpath, hlint⟩ | ⟨names, h, hnames, hpath, hlint⟩)
    · have hnames : packagesName ∉ name :: below := by
        rw [List.mem_cons, not_or]
        exact ⟨Ne.symm hname, hbelow⟩
      exact ⟨name :: below, Or.inl ⟨below, rfl, h⟩, hnames, hpath, hlint⟩
    · exact ⟨names, Or.inr h, hnames, hpath, hlint⟩

mutual

/-- The walk lists just the lintable files at a path and below it. -/
theorem mem_lintable (f : SourceFile) : ∀ (node : Node) (path : String),
    f ∈ node.lintable path ↔ node.Offers path f
  | .file bytes, path => by
    simp only [lintable, Offers, leads_file_iff]
    split_ifs with hlint
    · constructor
      · intro hf
        obtain rfl := List.mem_singleton.mp hf
        exact ⟨[], ⟨rfl, rfl⟩, List.not_mem_nil, rfl, hlint⟩
      · rintro ⟨names, ⟨rfl, hbytes⟩, -, hpath, -⟩
        rw [List.mem_singleton]
        cases f
        simp_all
    · constructor
      · exact fun hf => absurd hf List.not_mem_nil
      · rintro ⟨names, ⟨rfl, -⟩, -, hpath, hf⟩
        rw [hpath] at hf
        exact absurd hf hlint
  | .directory entries, path => by
    rw [lintable]
    exact mem_lintableEntries f entries path

theorem mem_lintableEntries (f : SourceFile) : ∀ (entries : List (String × Node)) (path : String),
    f ∈ lintableEntries path entries ↔ Offers path (.directory entries) f
  | [], path => by
    simp [lintableEntries, Offers, not_leads_nil]
  | (name, node) :: entries, path => by
    rw [lintableEntries, List.mem_append, offers_directory_cons, mem_lintableEntries f entries path]
    split_ifs with hname
    · simp [hname]
    · rw [mem_lintable f node (Path.join path name)]
      simp [hname]

end

mutual

/-- Whether two nodes are one tree, with the entries of every directory in any order. -/
inductive Relists : Node → Node → Prop
  | file (bytes : ByteArray) : Relists (.file bytes) (.file bytes)
  | directory {entries entries' : List (String × Node)} (h : RelistsIn entries entries') :
    Relists (.directory entries) (.directory entries')

/-- Whether two lists hold the same entries in any order. -/
inductive RelistsIn : List (String × Node) → List (String × Node) → Prop
  | nil : RelistsIn [] []
  | cons {node node' : Node} {entries entries' : List (String × Node)} (name : String)
      (h : Relists node node') (hrest : RelistsIn entries entries') :
    RelistsIn ((name, node) :: entries) ((name, node') :: entries')
  | swap (e e' : String × Node) (entries : List (String × Node)) :
    RelistsIn (e :: e' :: entries) (e' :: e :: entries)
  | trans {entries mid entries' : List (String × Node)} (h : RelistsIn entries mid)
      (h' : RelistsIn mid entries') : RelistsIn entries entries'

end

mutual

/-- The order of entries makes no difference to what names lead to. -/
theorem Relists.leads_iff : ∀ {node node' : Node}, Relists node node' →
    ∀ names bytes, Leads node names bytes ↔ Leads node' names bytes
  | _, _, .file _, _, _ => Iff.rfl
  | _, _, .directory h, names, bytes => RelistsIn.leads_iff h names bytes

theorem RelistsIn.leads_iff : ∀ {entries entries' : List (String × Node)},
    RelistsIn entries entries' → ∀ names bytes,
      Leads (.directory entries) names bytes ↔ Leads (.directory entries') names bytes
  | _, _, .nil, _, _ => Iff.rfl
  | _, _, .cons name h hrest, names, bytes => by
    simp only [leads_directory_cons, Relists.leads_iff h, RelistsIn.leads_iff hrest]
  | _, _, .swap (_, _) (_, _) _, names, bytes => by
    simp only [leads_directory_cons]
    exact or_left_comm
  | _, _, .trans h h', names, bytes =>
    (RelistsIn.leads_iff h names bytes).trans (RelistsIn.leads_iff h' names bytes)

end

end Node

/-! ### What arguments stand for -/

/-- Whether a path leads to a file or to a directory. -/
def Disk.Has (disk : Disk) (path : String) : Prop := ∃ node, disk path = .ok node

/-- Whether an argument stands for a file: the argument itself, or a file below it. -/
inductive Found (disk : Disk) (path : String) : SourceFile → Prop
  | itself {bytes : ByteArray} (h : disk path = .ok (.file bytes))
      (hlint : isLintable path = true) : Found disk path ⟨path, bytes⟩
  | below {entries : List (String × Node)} {names : List String} {bytes : ByteArray}
      (h : disk path = .ok (.directory entries))
      (hpath : Path.fileName? path ≠ some packagesName)
      (hleads : Node.Leads (.directory entries) names bytes) (hnames : packagesName ∉ names)
      (hlint : isLintable (names.foldl Path.join path) = true) :
    Found disk path ⟨names.foldl Path.join path, bytes⟩

variable {disk disk' : Disk} {path : String} {paths paths' : List String} {f g : SourceFile}

theorem found_file_iff {bytes : ByteArray} (h : disk path = .ok (.file bytes)) :
    Found disk path f ↔ f ∈ Node.lintable path (.file bytes) := by
  rw [Node.mem_lintable]
  constructor
  · rintro (⟨h', hlint⟩ | ⟨h', -, -, -, -⟩)
    · cases h.symm.trans h'
      exact ⟨[], .file _, List.not_mem_nil, rfl, hlint⟩
    · cases h.symm.trans h'
  · rintro ⟨names, hleads, -, hpath, hlint⟩
    obtain ⟨rfl, hbytes⟩ := Node.leads_file_iff.mp hleads
    cases f
    obtain rfl : _ = path := hpath
    obtain rfl : _ = bytes := hbytes
    exact .itself h hlint

theorem found_directory_iff {entries : List (String × Node)}
    (h : disk path = .ok (.directory entries)) :
    Found disk path f ↔
      Path.fileName? path ≠ some packagesName ∧ Node.Offers path (.directory entries) f := by
  constructor
  · rintro (⟨h', -⟩ | ⟨h', hpath, hleads, hnames, hlint⟩)
    · cases h.symm.trans h'
    · cases h.symm.trans h'
      exact ⟨hpath, _, hleads, hnames, rfl, hlint⟩
  · rintro ⟨hpath, names, hleads, hnames, hf, hlint⟩
    cases f
    obtain rfl : _ = names.foldl Path.join path := hf
    exact .below h hpath hleads hnames hlint

theorem filesAt_ok (h : disk.Has path) :
    ∃ files, filesAt disk path = .ok files ∧ ∀ f, f ∈ files ↔ Found disk path f := by
  obtain ⟨node, h⟩ := h
  cases node with
  | file bytes =>
    exact ⟨Node.lintable path (.file bytes), by rw [filesAt, h], fun f => (found_file_iff h).symm⟩
  | directory entries =>
    simp only [found_directory_iff h, filesAt, h]
    by_cases hpath : Path.fileName? path = some packagesName
    · exact ⟨[], by rw [if_pos hpath], by simp [hpath]⟩
    · refine ⟨Node.lintableEntries path entries, by rw [if_neg hpath], fun f => ?_⟩
      rw [Node.mem_lintableEntries, and_iff_right hpath]

/-- The first argument that leads nowhere is named. -/
theorem filesAtAll_missing {after : List String} (h : ∀ p ∈ paths, disk.Has p)
    (hpath : ¬ disk.Has path) :
    filesAtAll disk (paths ++ path :: after) = .error (.pathNotFound path) := by
  induction paths with
  | nil =>
    rw [List.nil_append, filesAtAll, filesAt]
    cases hdisk : disk path with
    | error fault => rfl
    | ok node => exact absurd ⟨node, hdisk⟩ hpath
  | cons p paths ih =>
    obtain ⟨files, hfiles, -⟩ := filesAt_ok (h p List.mem_cons_self)
    rw [List.cons_append, filesAtAll, hfiles, ih fun q hq => h q (List.mem_cons_of_mem p hq)]
    rfl

/-- Arguments that lead somewhere stand for the files of each. -/
theorem filesAtAll_ok (h : ∀ p ∈ paths, disk.Has p) :
    ∃ files, filesAtAll disk paths = .ok files ∧
      ∀ f, f ∈ files ↔ ∃ p ∈ paths, Found disk p f := by
  induction paths with
  | nil => exact ⟨[], rfl, by simp⟩
  | cons p paths ih =>
    obtain ⟨files, hfiles, hmem⟩ := filesAt_ok (h p List.mem_cons_self)
    obtain ⟨rest, hrest, hmem'⟩ := ih fun q hq => h q (List.mem_cons_of_mem p hq)
    refine ⟨files ++ rest, by rw [filesAtAll, hfiles, hrest]; rfl, fun f => ?_⟩
    rw [List.mem_append, hmem, hmem']
    simp

/-! ### Sorted files without repeats -/

/-- The components of the path of a file. -/
def SourceFile.components (f : SourceFile) : List Path.Component := Path.components f.path

/-- Whether a file is listed before another one or has the same path. -/
def SourceFile.Precedes (f g : SourceFile) : Prop :=
  Path.componentsPrecede f.components g.components = true

variable {files : List SourceFile}

theorem dropRepeats_sublist (files : List SourceFile) : (dropRepeats files).Sublist files := by
  fun_induction dropRepeats files with
  | case1 => exact List.Sublist.refl _
  | case2 f => exact List.Sublist.refl _
  | case3 f g rest hsame ih => exact ih.trans ((List.sublist_cons_self g rest).cons_cons f)
  | case4 f g rest hsame ih => exact ih.cons_cons f

theorem sameAs_iff : Path.sameAs f.path g.path = true ↔ f.components = g.components := by
  rw [Path.sameAs, decide_eq_true_iff, SourceFile.components, SourceFile.components]

/-- Of every path one file is left. -/
theorem exists_mem_dropRepeats (hf : f ∈ files) :
    ∃ g ∈ dropRepeats files, g.components = f.components := by
  fun_induction dropRepeats files generalizing f with
  | case1 => exact absurd hf List.not_mem_nil
  | case2 g => exact ⟨g, List.mem_cons_self, by rw [List.mem_singleton.mp hf]⟩
  | case3 g g' rest hsame ih =>
    rcases List.mem_cons.mp hf with rfl | hf
    · exact ih List.mem_cons_self
    · rcases List.mem_cons.mp hf with rfl | hf
      · rw [← sameAs_iff.mp hsame]
        exact ih List.mem_cons_self
      · exact ih (List.mem_cons_of_mem g hf)
  | case4 g g' rest hsame ih =>
    rcases List.mem_cons.mp hf with rfl | hf
    · exact ⟨f, List.mem_cons_self, rfl⟩
    · obtain ⟨kept, hkept, heq⟩ := ih hf
      exact ⟨kept, List.mem_cons_of_mem g hkept, heq⟩

/-- Sorted files without repeats are in strict order. -/
theorem pairwise_dropRepeats (h : files.Pairwise SourceFile.Precedes) :
    (dropRepeats files).Pairwise fun f g => Path.Before f.components g.components := by
  fun_induction dropRepeats files with
  | case1 => exact List.Pairwise.nil
  | case2 f => exact List.pairwise_singleton _ f
  | case3 f g rest hsame ih => exact ih (h.sublist ((List.sublist_cons_self g rest).cons_cons f))
  | case4 f g rest hsame ih =>
    obtain ⟨hf, hrest⟩ := List.pairwise_cons.mp h
    have hfg : Path.Before f.components g.components :=
      ⟨hf g List.mem_cons_self, fun heq => hsame (sameAs_iff.mpr heq)⟩
    refine List.pairwise_cons.mpr ⟨fun kept hkept => ?_, ih hrest⟩
    -- what is kept behind `f` is `g` or comes after it
    rcases List.mem_cons.mp ((dropRepeats_sublist _).subset hkept) with rfl | hmem
    · exact hfg
    · exact hfg.of_precede ((List.pairwise_cons.mp hrest).1 kept hmem)

/-- Files in strict order have distinct paths, so their paths are told by which they are. -/
theorem eq_of_strict {files files' : List SourceFile}
    (h : files.Pairwise fun f g => Path.Before f.components g.components)
    (h' : files'.Pairwise fun f g => Path.Before f.components g.components)
    (hmem : ∀ c, (∃ f ∈ files, f.components = c) ↔ ∃ f ∈ files', f.components = c) :
    files.map SourceFile.components = files'.map SourceFile.components := by
  refine List.Pairwise.eq_of_mem_iff (List.pairwise_map.mpr h) (List.pairwise_map.mpr h') fun c => ?_
  rw [List.mem_map, List.mem_map]
  exact hmem c

/-- The collected files of arguments that lead somewhere: in strict order, found, and of every path that
is found. -/
theorem collect_ok (h : ∀ p ∈ paths, disk.Has p) :
    ∃ files, collect disk paths = .ok files ∧
      (files.Pairwise fun f g => Path.Before f.components g.components) ∧
      (∀ f ∈ files, ∃ p ∈ paths, Found disk p f) ∧
      ∀ p ∈ paths, ∀ f, Found disk p f → ∃ g ∈ files, g.components = f.components := by
  obtain ⟨files, hfiles, hmem⟩ := filesAtAll_ok h
  have hsorted : (files.mergeSort fun f g => Path.precedes f.path g.path).Pairwise
      SourceFile.Precedes := by
    refine List.pairwise_mergeSort (fun f g k hfg hgk => ?_) (fun f g => ?_) files
    · exact Path.componentsPrecede_trans hfg hgk
    · rw [Bool.or_eq_true]
      exact Path.componentsPrecede_total _ _
  refine ⟨_, by rw [collect, hfiles]; rfl, pairwise_dropRepeats hsorted, fun f hf => ?_,
    fun p hp f hf => ?_⟩
  · exact (hmem f).mp (List.mem_mergeSort.mp ((dropRepeats_sublist _).subset hf))
  · exact exists_mem_dropRepeats (List.mem_mergeSort.mpr ((hmem f).mpr ⟨p, hp, hf⟩))

/-! ### Other orders -/

/-- Whether a path leads to one tree on two disks, with the entries of every directory in any order. -/
def Disk.Relists (disk disk' : Disk) (path : String) : Prop :=
  ∃ node node', disk path = .ok node ∧ disk' path = .ok node' ∧ node.Relists node'

theorem Disk.Relists.found_iff (h : disk.Relists disk' path) :
    Found disk path f ↔ Found disk' path f := by
  obtain ⟨node, node', hnode, hnode', hrelists⟩ := h
  cases hrelists with
  | file bytes => rw [found_file_iff hnode, found_file_iff hnode']
  | directory hentries =>
    rw [found_directory_iff hnode, found_directory_iff hnode']
    simp only [Node.Offers, hentries.leads_iff]

/-- **The collected files are exact, sorted and independent of order.**  The first argument that leads
neither to a file nor to a directory is named in a failure.  If there is none, the collected files are
in strict order by the components of their paths, each is one that an argument stands for, and every
file that an argument stands for is listed under its path.  Other arguments that hold the same paths, in
any order and any number of times, give the same paths in the same order, in whatever order directories
list their entries. -/
theorem collect_exact (disk : Disk) (paths : List String) :
    (∀ before path after, paths = before ++ path :: after → (∀ p ∈ before, disk.Has p) →
      ¬ disk.Has path → collect disk paths = .error (.pathNotFound path)) ∧
    ((∀ p ∈ paths, disk.Has p) → ∃ files, collect disk paths = .ok files ∧
      (files.Pairwise fun f g => Path.Before f.components g.components) ∧
      (∀ f ∈ files, ∃ p ∈ paths, Found disk p f) ∧
      (∀ p ∈ paths, ∀ f, Found disk p f → ∃ g ∈ files, g.components = f.components) ∧
      ∀ disk' paths', (∀ p, p ∈ paths' ↔ p ∈ paths) → (∀ p ∈ paths, disk.Relists disk' p) →
        ∃ files', collect disk' paths' = .ok files' ∧
          files'.map SourceFile.components = files.map SourceFile.components) := by
  constructor
  · rintro before path after rfl hbefore hpath
    rw [collect, filesAtAll_missing hbefore hpath]
    rfl
  · intro hpaths
    obtain ⟨files, hfiles, hstrict, hfound, hall⟩ := collect_ok hpaths
    refine ⟨files, hfiles, hstrict, hfound, hall, fun disk' paths' hsame hrelists => ?_⟩
    have hpaths' : ∀ p ∈ paths', disk'.Has p := by
      intro p hp
      obtain ⟨-, node', -, hnode', -⟩ := hrelists p ((hsame p).mp hp)
      exact ⟨node', hnode'⟩
    obtain ⟨files', hfiles', hstrict', hfound', hall'⟩ := collect_ok hpaths'
    -- both lists are in strict order, so it is enough that they hold the same paths
    refine ⟨files', hfiles', eq_of_strict hstrict' hstrict fun c => ⟨?_, ?_⟩⟩
    · rintro ⟨f, hf, rfl⟩
      obtain ⟨p, hp, hfp⟩ := hfound' f hf
      have hp' : p ∈ paths := (hsame p).mp hp
      exact hall p hp' f ((hrelists p hp').found_iff.mpr hfp)
    · rintro ⟨f, hf, rfl⟩
      obtain ⟨p, hp, hfp⟩ := hfound f hf
      exact hall' p ((hsame p).mpr hp) f ((hrelists p hp).found_iff.mp hfp)

/-- Sources in two directories, with an installed package below one of them. -/
def Node.sample : Node :=
  let source := Node.file .empty
  .directory [("src", .directory [("b.ts", source), ("a.js", source), ("notes.md", source),
    ("node_modules", .directory [("p.js", source)])]), ("a.js", source)]

/-- The same tree, with the sources of a directory in another order. -/
def Node.relisted : Node :=
  let source := Node.file .empty
  .directory [("src", .directory [("a.js", source), ("b.ts", source), ("notes.md", source),
    ("node_modules", .directory [("p.js", source)])]), ("a.js", source)]

/-- A directory and a file in it, in either order; and two paths that lead nowhere. -/
theorem collect_exact_overlapping :
    collect Node.sample.find ["src", "lost", "gone"] = .error (.pathNotFound "lost") ∧
    ∃ files files', collect Node.sample.find ["src", "src/a.js"] = .ok files ∧
      files.map SourceFile.path = ["src/a.js", "src/b.ts"] ∧
      collect Node.relisted.find ["src/a.js", "src", "src"] = .ok files' ∧
      files'.map SourceFile.components = files.map SourceFile.components := by
  have hrelists : ∀ p ∈ ["src", "src/a.js"], Disk.Relists Node.sample.find Node.relisted.find p := by
    simp only [List.forall_mem_cons]
    exact ⟨⟨_, _, rfl, rfl, .directory (.swap _ _ _)⟩, ⟨_, _, rfl, rfl, .file _⟩, by simp⟩
  have hpaths : ∀ p ∈ ["src", "src/a.js"], Disk.Has Node.sample.find p := by
    intro p hp
    obtain ⟨node, -, hnode, -⟩ := hrelists p hp
    exact ⟨node, hnode⟩
  have hmissing : ¬ Disk.Has Node.sample.find "lost" := by
    rintro ⟨node, hnode⟩
    cases hnode
  refine ⟨(collect_exact _ _).1 ["src"] "lost" ["gone"] rfl ?_ hmissing, ?_⟩
  · intro p hp
    exact hpaths p (List.mem_cons.mpr (Or.inl (List.mem_singleton.mp hp)))
  · obtain ⟨files, hfiles, -, -, -, horder⟩ := (collect_exact _ _).2 hpaths
    obtain ⟨files', hfiles', heq⟩ :=
      horder Node.relisted.find ["src/a.js", "src", "src"] (by simp; tauto) hrelists
    refine ⟨files, files', hfiles, ?_, hfiles', heq⟩
    have hfound : filesAtAll Node.sample.find ["src", "src/a.js"] =
        .ok [⟨"src/b.ts", .empty⟩, ⟨"src/a.js", .empty⟩, ⟨"src/a.js", .empty⟩] := rfl
    have hfirst : Path.precedes "src/a.js" "src/a.js" = true := by decide
    have hlast : Path.precedes "src/b.ts" "src/a.js" = false := by decide
    have hsame : Path.sameAs "src/a.js" "src/a.js" = true := by decide
    have hother : Path.sameAs "src/a.js" "src/b.ts" = false := by decide
    have hcollected : collect Node.sample.find ["src", "src/a.js"] =
        .ok [⟨"src/a.js", .empty⟩, ⟨"src/b.ts", .empty⟩] := by
      simp [collect, hfound, Except.map, List.mergeSort, hfirst, hlast, dropRepeats, hsame, hother]
    cases hcollected.symm.trans hfiles
    rfl

end ChainLint.CommandLine
