import Mathlib.Tactic.ByContra
import Mathlib.Tactic.Tauto
import ServiceStubs.Files.Tree
import ServiceStubs.Project.OutputDirectory
import ServiceStubs.Proofs.Files.SafePath
import ServiceStubs.Proofs.Start

/-!
# Files that stay inside of a directory

Files with safe paths are written below the directory that they are written into, and the directories that
are made for them are below it too. Everything else in the tree stays as it was.

* `Within` compares a tree with what becomes of it;
* `locate?_below` says which places safe paths name;
* `makeDirectoriesFrom_within` and `writeText?_within` are the two operations that change something;
* `stayInside_of_safe` concludes for a whole output directory.
-/

namespace ServiceStubs

namespace FileTree

/-! ## Changes inside of a place -/

/-- The second tree comes from the first one by changes at and below a place, and all directories are still
there. -/
structure Within (inside : TreePlace) (t t' : FileTree) : Prop where
  working : t'.working = t.working
  outside : ∀ place, ¬inside <+: place → entry? t' place = t.entry? place
  directories : ∀ place, t.isDirectory place → t'.isDirectory place

theorem Within.refl (inside : TreePlace) (t : FileTree) : Within inside t t :=
  ⟨rfl, fun _ _ => rfl, fun _ h => h⟩

theorem Within.trans {inside : TreePlace} {t t' t'' : FileTree} (h : Within inside t t')
    (h' : Within inside t' t'') : Within inside t t'' :=
  ⟨h'.working.trans h.working, fun place hplace => (h'.outside place hplace).trans (h.outside place hplace),
    fun place hplace => h'.directories place (h.directories place hplace)⟩

/-- Leaving out entries of other places does not change what is at a place. -/
theorem lookup_filter {entries : List (TreePlace × Entry)} {keep : TreePlace × Entry → Bool}
    {place : TreePlace} (h : ∀ e ∈ entries, e.1 = place → keep e) :
    (entries.filter keep).lookup place = entries.lookup place := by
  induction entries with
  | nil => rfl
  | cons e rest ih =>
    have hrest := ih fun e' he' => h e' (List.mem_cons_of_mem e he')
    by_cases hkeep : keep e
    · rw [List.filter_cons_of_pos hkeep, List.lookup_cons, List.lookup_cons, hrest]
    · have hne : (place == e.1) = false := by
        rw [beq_eq_false_iff_ne]
        exact fun heq => hkeep (h e List.mem_cons_self heq.symm)
      rw [List.filter_cons_of_neg hkeep, hrest, List.lookup_cons, hne]

theorem at_put_of_ne {t : FileTree} {place other : TreePlace} (entry : Entry) (h : other ≠ place) :
    entry? (t.put place entry) other = t.entry? other := by
  have hne : (other == place) = false := beq_eq_false_iff_ne.mpr h
  have hfilter : (t.entries.filter fun e => e.1 ≠ place).lookup other = t.entries.lookup other :=
    lookup_filter fun e _ heq => by simpa [heq] using h
  unfold entry? put
  dsimp only
  rw [List.lookup_append, hfilter, List.lookup_cons, hne]
  simp

theorem at_put_self {t : FileTree} {place : TreePlace} (entry : Entry) (h : place ≠ []) :
    entry? (t.put place entry) place = some entry := by
  have hnone : (t.entries.filter fun e => e.1 ≠ place).lookup place = none := by
    rw [List.lookup_eq_none_iff]
    intro e he
    have hne := (List.mem_filter.mp he).2
    rw [decide_eq_true_iff] at hne
    exact bne_iff_ne.mpr hne.symm
  unfold entry? put
  dsimp only
  rw [if_neg h, List.lookup_append, hnone, List.lookup_cons]
  simp

/-- Putting something where no directory is. -/
theorem put_within {inside place : TreePlace} {t : FileTree} (entry : Entry) (hinside : inside <+: place)
    (hnot : ¬t.isDirectory place) : Within inside t (t.put place entry) := by
  refine ⟨rfl, ?_, ?_⟩
  · intro other hother
    exact at_put_of_ne entry fun heq => hother (heq ▸ hinside)
  · intro other hother
    have hne : other ≠ place := fun heq => hnot (heq ▸ hother)
    unfold isDirectory at hother ⊢
    rwa [at_put_of_ne entry hne]

theorem at_cut {t : FileTree} {inside place : TreePlace} (h : ¬inside <+: place) :
    entry? (t.cut inside) place = t.entry? place := by
  have hfilter : (t.entries.filter fun e => !inside.isPrefixOf e.1).lookup place = t.entries.lookup place :=
    lookup_filter fun e _ heq => by
      rw [heq, Bool.not_eq_true', Bool.eq_false_iff]
      exact fun hprefix => h (List.isPrefixOf_iff_prefix.mp hprefix)
  unfold entry? cut
  dsimp only
  rw [hfilter]

/-! ## Places -/

/-- The place to which one segment leads. -/
def next (here : TreePlace) (segment : String) : TreePlace :=
  if segment = "" ∨ segment = "." then here
  else if segment = ".." then here.dropLast
  else here ++ [segment]

theorem walk?_cons (t : FileTree) (here : TreePlace) (segment : String) (rest : List String) :
    t.walk? here (segment :: rest) =
      if t.isDirectory here then t.walk? (next here segment) rest else none := by
  rw [walk?]
  unfold next
  split
  · split
    · rfl
    · split
      · rfl
      · rfl
  · rfl

theorem walk?_append (t : FileTree) (here : TreePlace) (front back : List String) :
    t.walk? here (front ++ back) = (t.walk? here front).bind fun place => t.walk? place back := by
  induction front generalizing here with
  | nil => rfl
  | cons segment rest ih =>
    rw [List.cons_append, walk?_cons, walk?_cons]
    split
    · exact ih (next here segment)
    · rfl

theorem next_of_isName (here : TreePlace) {name : String} (h : IsName name) :
    next here name = here ++ [name] := by
  unfold next
  rw [if_neg (by simp [h.nonempty, h.not_here]), if_neg h.not_up]

/-- Names lead down, one step each. -/
theorem walk?_names {t : FileTree} {here place : TreePlace} {names : List String}
    (hnames : ∀ s ∈ names, IsName s) (h : t.walk? here names = some place) : place = here ++ names := by
  induction names generalizing here with
  | nil =>
    cases h
    simp
  | cons segment rest ih =>
    rw [walk?_cons, next_of_isName here (hnames segment List.mem_cons_self)] at h
    split at h
    · rw [ih (fun s hs => hnames s (List.mem_cons_of_mem segment hs)) h]
      simp
    · cases h

theorem walk?_mono {t t' : FileTree} (hdirectories : ∀ place, t.isDirectory place → t'.isDirectory place)
    {here place : TreePlace} {segments : List String} (h : t.walk? here segments = some place) :
    t'.walk? here segments = some place := by
  induction segments generalizing here with
  | nil => exact h
  | cons segment rest ih =>
    rw [walk?_cons] at h ⊢
    split at h
    · rename_i hhere
      rw [if_pos (hdirectories here hhere)]
      exact ih h
    · cases h

theorem locate?_mono {t t' : FileTree} (hworking : t'.working = t.working)
    (hdirectories : ∀ place, t.isDirectory place → t'.isDirectory place) {path : String} {place : TreePlace}
    (h : t.locate? path = some place) : t'.locate? path = some place := by
  unfold locate? at h ⊢
  split at h
  · cases h
  · rename_i hne
    rw [if_neg hne, hworking]
    exact walk?_mono hdirectories h

theorem locate?_eq {t : FileTree} {path : String} (h : EndsInName (Text.splitOn '/' path)) :
    t.locate? path = t.walk? (if Files.isAbsolute path then [] else t.working) (Text.splitOn '/' path) := by
  have hne := h.path_ne
  obtain ⟨outer, name, hsplit, hname⟩ := h
  unfold locate?
  rw [if_neg hne, hsplit, List.reverse_append, List.reverse_singleton, List.singleton_append,
    List.dropWhile_cons_of_neg (by simpa using hname.nonempty)]
  simp

/-- A directory is at a path. -/
structure DirectoryAt (t : FileTree) (path : String) (place : TreePlace) : Prop where
  located : t.locate? path = some place
  directory : t.isDirectory place

theorem DirectoryAt.within {t t' : FileTree} {path : String} {place inside : TreePlace}
    (h : t.DirectoryAt path place) (hwithin : Within inside t t') : t'.DirectoryAt path place :=
  ⟨locate?_mono hwithin.working hwithin.directories h.located, hwithin.directories place h.directory⟩

theorem DirectoryAt.find {t : FileTree} {path : String} {place : TreePlace} (h : t.DirectoryAt path place) :
    t.find? path = some (place, .directory) := by
  have hentry : t.entry? place = some .directory := by simpa [isDirectory] using h.directory
  unfold find?
  rw [h.located]
  simp [hentry]

/-- A path that goes on with names from a directory leads to the place below that directory. -/
theorem locate?_below {t : FileTree} {directory path : String} {inside place : TreePlace}
    {names : List String} (hdirectory : t.DirectoryAt directory inside)
    (hends : EndsInName (Text.splitOn '/' directory))
    (hsplit : Text.splitOn '/' path = Text.splitOn '/' directory ++ names) (hnames : ∀ s ∈ names, IsName s)
    (h : t.locate? path = some place) : place = inside ++ names := by
  have hpath : EndsInName (Text.splitOn '/' path) := hsplit ▸ hends.append hnames
  have habsolute : Files.isAbsolute path = Files.isAbsolute directory := by
    rw [Bool.eq_iff_iff, isAbsolute_iff hpath.path_ne, isAbsolute_iff hends.path_ne, hsplit]
    rcases hsegments : Text.splitOn '/' directory with _ | ⟨first, rest⟩
    · exact absurd hsegments (Text.splitOn_ne_nil '/' directory)
    · rfl
  have hstart := hdirectory.located
  rw [locate?_eq hends] at hstart
  rw [locate?_eq hpath, habsolute, hsplit, walk?_append, hstart] at h
  exact walk?_names hnames h

/-! ## Operations -/

theorem kind?_of_directoryAt {t : FileTree} {path : String} {place : TreePlace}
    (h : t.DirectoryAt path place) : t.kind? path = some .directory := by
  unfold kind?
  rw [h.find]
  rfl

theorem directoryAt_of_kind? {t : FileTree} {path : String} (h : t.kind? path = some .directory) :
    ∃ place, t.DirectoryAt path place := by
  obtain ⟨⟨found, entry⟩, hfind, hentry⟩ := Option.map_eq_some_iff.mp h
  cases entry with
  | file content => cases hentry
  | directory =>
    unfold find? at hfind
    rcases hplace : t.locate? path with _ | place
    · simp [hplace] at hfind
    · refine ⟨place, hplace, ?_⟩
      rcases hget : t.entry? place with _ | entry
      · simp [hplace, hget] at hfind
      · have hsame : entry = .directory := by
          by_contra hne
          cases hdemands : demandsDirectory path <;> simp [hplace, hget, hne, hdemands] at hfind
        simp [isDirectory, hget, hsame]

theorem makeDirectory?_eq_some {t t' : FileTree} {path : String} (h : t.makeDirectory? path = some t') :
    ∃ place, t.locate? path = some place ∧ t.entry? place = none ∧ t' = t.put place .directory := by
  unfold makeDirectory? at h
  rcases hplace : t.locate? path with _ | place
  · rw [hplace] at h
    cases h
  · rw [hplace] at h
    dsimp only [bind, Option.bind] at h
    split at h
    · cases h
    · rename_i hfree
      cases h
      exact ⟨place, rfl, by simpa using hfree, rfl⟩

theorem writeText?_eq_some {t t' : FileTree} {path text : String} (h : t.writeText? path text = some t') :
    ∃ place, t.locate? path = some place ∧ ¬t.isDirectory place ∧ t' = t.put place (.file (.text text)) := by
  unfold writeText? writeContent? at h
  rcases hplace : t.locate? path with _ | place
  · rw [hplace] at h
    cases h
  · rw [hplace] at h
    dsimp only [bind, Option.bind] at h
    split at h
    · cases h
    · rename_i hfree
      rw [Bool.or_eq_true, not_or] at hfree
      cases h
      exact ⟨place, rfl, hfree.2, rfl⟩

/-- A directory that has been made is there. -/
theorem kind?_of_makeDirectory? {t t' : FileTree} {path : String} (h : t.makeDirectory? path = some t') :
    t'.kind? path = some .directory := by
  obtain ⟨place, hplace, hfree, rfl⟩ := makeDirectory?_eq_some h
  have hne : place ≠ [] := by
    rintro rfl
    unfold entry? at hfree
    simp at hfree
  have hnot : ¬t.isDirectory place := by simp [isDirectory, hfree]
  have hwithin := put_within .directory (List.prefix_refl place) hnot
  have hdirectory : (t.put place .directory).isDirectory place := by
    simp [isDirectory, at_put_self .directory hne]
  exact kind?_of_directoryAt ⟨locate?_mono hwithin.working hwithin.directories hplace, hdirectory⟩

/-- What making directories can do where the last one is missing: nothing, or only what making the parent
does, or one more directory after it. -/
theorem makeDirectoriesFrom_cases (t : FileTree) (bound : Nat) {path : String}
    (hmissing : ¬(path = "" ∨ t.kind? path = some .directory)) :
    t.makeDirectoriesFrom bound path = (false, t) ∨
      ∃ bound' parent made t', bound = bound' + 1 ∧ Files.parent? path = some parent ∧
        t.makeDirectoriesFrom bound' parent = (made, t') ∧
        (t.makeDirectoriesFrom bound path = (false, t') ∨
          t.makeDirectoriesFrom bound path = (decide (t'.kind? path = some .directory), t') ∨
          ∃ t'', t'.makeDirectory? path = some t'' ∧ t.makeDirectoriesFrom bound path = (true, t'')) := by
  rcases bound with _ | bound
  · left
    unfold makeDirectoriesFrom
    rw [if_neg hmissing]
  · rcases hparent : Files.parent? path with _ | parent
    · left
      unfold makeDirectoriesFrom
      rw [if_neg hmissing, hparent]
    · right
      rcases hmade : t.makeDirectoriesFrom bound parent with ⟨made, t'⟩
      refine ⟨bound, parent, made, t', rfl, rfl, hmade, ?_⟩
      unfold makeDirectoriesFrom
      rw [if_neg hmissing, hparent]
      simp only [hmade]
      -- Whether the parent is there by now decides if the last directory is tried.
      cases made with
      | false => exact .inl rfl
      | true =>
        right
        rcases hmake : t'.makeDirectory? path with _ | t''
        · exact .inl rfl
        · exact .inr ⟨t'', rfl, rfl⟩

theorem kind?_of_makeDirectoriesFrom {t : FileTree} {bound : Nat} {path : String} (hne : path ≠ "")
    (h : (t.makeDirectoriesFrom bound path).1) :
    (t.makeDirectoriesFrom bound path).2.kind? path = some .directory := by
  by_cases hthere : path = "" ∨ t.kind? path = some .directory
  · unfold makeDirectoriesFrom
    rw [if_pos hthere]
    exact hthere.resolve_left hne
  · rcases makeDirectoriesFrom_cases t bound hthere with heq | ⟨_, _, made, t', -, -, -, heq⟩
    · rw [heq] at h
      cases h
    · rcases heq with heq | heq | ⟨t'', hmake, heq⟩
      · rw [heq] at h
        cases h
      · rw [heq] at h ⊢
        simpa using h
      · rw [heq]
        exact kind?_of_makeDirectory? hmake

variable {directory : String} {inside : TreePlace}

/-- The directories made on the way to a path below a directory are below it too. -/
theorem makeDirectoriesFrom_within (hends : EndsInName (Text.splitOn '/' directory)) (bound : Nat)
    {t : FileTree} (hdirectory : t.DirectoryAt directory inside) {path : String} {names : List String}
    (hsplit : Text.splitOn '/' path = Text.splitOn '/' directory ++ names) (hnames : ∀ s ∈ names, IsName s) :
    Within inside t (t.makeDirectoriesFrom bound path).2 := by
  induction bound generalizing path names with
  | zero =>
    unfold makeDirectoriesFrom
    split
    · exact .refl inside t
    · exact .refl inside t
  | succ bound ih =>
    by_cases hthere : path = "" ∨ t.kind? path = some .directory
    · unfold makeDirectoriesFrom
      rw [if_pos hthere]
      exact .refl inside t
    · -- What is missing is not the directory itself, so that the path has a name below it.
      rcases List.eq_nil_or_concat names with rfl | ⟨outer, name, rfl⟩
      · have hsame : path = directory := by
          rw [← Text.intercalate_splitOn path, hsplit, List.append_nil, Text.intercalate_splitOn]
        exact absurd (.inr (hsame ▸ kind?_of_directoryAt hdirectory)) hthere
      · have houter : ∀ s ∈ outer, IsName s := fun s hs => hnames s (by simp [hs])
        have hparent : Files.parent? path = some ("/".intercalate (Text.splitOn '/' directory ++ outer)) :=
          Files.parent?_eq (by rw [hsplit]; simp) (hnames name (by simp)) (hends.append houter)
        have hslash : ∀ s ∈ Text.splitOn '/' directory ++ outer, '/' ∉ s.toList := by
          intro s hs
          have hmem : s ∈ Text.splitOn '/' path := by
            rw [hsplit]
            simp only [List.mem_append, List.concat_eq_append] at hs ⊢
            tauto
          exact Text.not_mem_of_mem_splitOn hmem
        have hwithin := ih (Text.splitOn_intercalate (by simp [Text.splitOn_ne_nil]) hslash) houter
        rcases makeDirectoriesFrom_cases t (bound + 1) hthere with heq | ⟨_, _, made, t', hb, hp, hmade, heq⟩
        · rw [heq]
          exact .refl inside t
        · cases hb
          rw [hparent] at hp
          cases hp
          rw [hmade] at hwithin
          rcases heq with heq | heq | ⟨t'', hmake, heq⟩
          · rw [heq]
            exact hwithin
          · rw [heq]
            exact hwithin
          · rw [heq]
            obtain ⟨place, hplace, hfree, rfl⟩ := makeDirectory?_eq_some hmake
            have hbelow := locate?_below (hdirectory.within hwithin) hends hsplit hnames hplace
            exact hwithin.trans (put_within .directory ⟨_, hbelow.symm⟩ (by simp [isDirectory, hfree]))

theorem writeText?_within (hends : EndsInName (Text.splitOn '/' directory)) {t t' : FileTree}
    (hdirectory : t.DirectoryAt directory inside) {path text : String} {names : List String}
    (hsplit : Text.splitOn '/' path = Text.splitOn '/' directory ++ names) (hnames : ∀ s ∈ names, IsName s)
    (h : t.writeText? path text = some t') : Within inside t t' := by
  obtain ⟨place, hplace, hfree, rfl⟩ := writeText?_eq_some h
  have hbelow := locate?_below hdirectory hends hsplit hnames hplace
  exact put_within _ ⟨_, hbelow.symm⟩ hfree

end FileTree

/-! ## Writing an output directory -/

open FileTree

/-- Work on a tree of files. -/
abbrev TreeWork (α : Type) := ExceptT Failure (StateM FileTree) α

/-- Wherever the directory is, the work changes something only inside of it. -/
def Keeps (directory : String) {α : Type} (x : TreeWork α) : Prop :=
  ∀ (t : FileTree) (inside : TreePlace), t.DirectoryAt directory inside → Within inside t (start x t).2

variable {directory : String} {α β : Type}

theorem Keeps.pure (a : α) : Keeps directory (pure a) :=
  fun t inside _ => .refl inside t

theorem Keeps.throw (failure : Failure) : Keeps directory (throw failure : TreeWork α) :=
  fun t inside _ => .refl inside t

theorem Keeps.bind {x : TreeWork α} {f : α → TreeWork β} (hx : Keeps directory x)
    (hf : ∀ a, Keeps directory (f a)) : Keeps directory (x >>= f) := by
  intro t inside hdirectory
  have hfirst := hx t inside hdirectory
  rw [start_bind]
  rcases hs : start x t with ⟨r, t'⟩
  rw [hs] at hfirst
  cases r with
  | ok a => exact hfirst.trans (hf a t' inside (hdirectory.within hfirst))
  | error failure => exact hfirst

theorem Keeps.demand {activity : Activity} {operation : TreeWork Bool} (h : Keeps directory operation) :
    Keeps directory (demand activity operation) := by
  unfold ServiceStubs.demand
  refine h.bind fun done => ?_
  cases done with
  | true => exact .pure _
  | false => exact .throw _

theorem start_makeDirectories (path : String) (t : FileTree) :
    start (FileStore.makeDirectories path : TreeWork Bool) t =
      (.ok (t.makeDirectories path).1, (t.makeDirectories path).2) := rfl

theorem makeParents_keeps (hends : EndsInName (Text.splitOn '/' directory)) {path : String}
    (hsafe : SafePath path) : Keeps directory (makeParents (Files.join directory path) : TreeWork Unit) := by
  have hsplit := Files.splitOn_join hends hsafe.relative
  obtain ⟨outer, name, hnames⟩ : ∃ outer name, Text.splitOn '/' path = outer ++ [name] := by
    rcases List.eq_nil_or_concat (Text.splitOn '/' path) with hnil | ⟨outer, name, hconcat⟩
    · exact absurd hnil (Text.splitOn_ne_nil '/' path)
    · exact ⟨outer, name, by rw [hconcat, List.concat_eq_append]⟩
  have hname : IsName name := hsafe.names name (by simp [hnames])
  have houter : ∀ s ∈ outer, IsName s := fun s hs => hsafe.names s (by simp [hnames, hs])
  rw [hnames, ← List.append_assoc] at hsplit
  have hslash : ∀ s ∈ Text.splitOn '/' directory ++ outer, '/' ∉ s.toList := fun s hs =>
    Text.not_mem_of_mem_splitOn (hsplit ▸ List.mem_append_left _ hs)
  -- Directories are made for all segments but the last one, which is the name of the file.
  unfold makeParents
  rw [Files.parent?_eq hsplit hname (hends.append houter)]
  dsimp only
  split
  · exact .pure _
  · apply Keeps.demand
    intro t inside hdirectory
    rw [start_makeDirectories]
    exact makeDirectoriesFrom_within hends _ hdirectory
      (Text.splitOn_intercalate (by simp [Text.splitOn_ne_nil]) hslash) houter

theorem start_attempt (operation : FileTree → Option FileTree) (t : FileTree) :
    start (ExceptT.lift (attempt operation) : TreeWork Bool) t =
      match operation t with
      | some t' => (.ok true, t')
      | none => (.ok false, t) := by
  have hrun : start (ExceptT.lift (attempt operation) : TreeWork Bool) t =
      (.ok ((attempt operation).run t).1, ((attempt operation).run t).2) := rfl
  rw [hrun]
  unfold attempt
  rw [StateT.run_bind]
  rcases hop : operation t with _ | t'
  · simp [hop]
    exact ⟨rfl, rfl⟩
  · simp [hop]
    exact ⟨rfl, rfl⟩

theorem start_writeText (path text : String) (t : FileTree) :
    start (FileStore.writeText path text : TreeWork Bool) t =
      match t.writeText? path text with
      | some t' => (.ok true, t')
      | none => (.ok false, t) :=
  start_attempt (fun t => t.writeText? path text) t

theorem start_removeDirectory (path : String) (t : FileTree) :
    start (FileStore.removeDirectory path : TreeWork Bool) t =
      match t.removeDirectory? path with
      | some t' => (.ok true, t')
      | none => (.ok false, t) :=
  start_attempt (fun t => t.removeDirectory? path) t

theorem writeInto_keeps (hends : EndsInName (Text.splitOn '/' directory)) {file : OutputFile}
    (hsafe : SafePath file.path) : Keeps directory (writeInto directory file : TreeWork Unit) := by
  have hsplit := Files.splitOn_join hends hsafe.relative
  unfold writeInto
  refine (makeParents_keeps hends hsafe).bind fun _ => .demand ?_
  intro t inside hdirectory
  rw [start_writeText]
  rcases hwrite : t.writeText? (Files.join directory file.path) file.content with _ | t'
  · exact .refl inside t
  · exact writeText?_within hends hdirectory hsplit hsafe.names hwrite

/-- Any number of files with safe paths. -/
theorem writeFiles_keeps (hends : EndsInName (Text.splitOn '/' directory)) {files : List OutputFile}
    (hsafe : ∀ f ∈ files, SafePath f.path) :
    Keeps directory (files.forM (writeInto directory) : TreeWork Unit) := by
  induction files with
  | nil => exact .pure _
  | cons file rest ih =>
    show Keeps directory (writeInto directory file >>= fun _ => rest.forM (writeInto directory))
    refine (writeInto_keeps hends (hsafe file List.mem_cons_self)).bind fun _ => ?_
    exact ih fun f hf => hsafe f (List.mem_cons_of_mem file hf)

/-- Removing the directory changes nothing outside of it. -/
theorem removeDirectory_outside {t : FileTree} {inside place : TreePlace}
    (hdirectory : t.DirectoryAt directory inside) (hplace : ¬inside <+: place) :
    entry? (start (FileStore.removeDirectory directory : TreeWork Bool) t).2 place = t.entry? place := by
  have hremove : t.removeDirectory? directory = some (t.cut inside) := by
    unfold removeDirectory?
    rw [hdirectory.find]
  rw [start_removeDirectory, hremove]
  exact at_cut hplace

/-- Whatever tree they are written into, and whether all of them can be written or not, the files change
nothing outside of their directory, once it has been made. -/
def StayInside (directory : String) (files : List OutputFile) : Prop :=
  ∀ (t : FileTree) (place : TreePlace),
    (∀ inside, (t.makeDirectories directory).2.locate? directory = some inside → ¬inside <+: place) →
      entry? (start (writeDirectory directory files : TreeWork Unit) t).2 place =
        entry? (t.makeDirectories directory).2 place

theorem stayInside_of_safe (hends : EndsInName (Text.splitOn '/' directory)) {files : List OutputFile}
    (hsafe : ∀ f ∈ files, SafePath f.path) : StayInside directory files := by
  intro t place houtside
  unfold writeDirectory demand
  rw [start_bind, start_bind, start_makeDirectories]
  dsimp only
  rcases hmade : t.makeDirectories directory with ⟨made, t₁⟩
  rw [hmade] at houtside
  cases made with
  | false => rfl
  | true =>
    have hkind : t₁.kind? directory = some .directory := by
      have hmake : t.makeDirectoriesFrom directory.length directory = (true, t₁) := hmade
      have hthere := kind?_of_makeDirectoriesFrom hends.path_ne (by rw [hmake])
      rwa [hmake] at hthere
    obtain ⟨inside, hdirectory⟩ := directoryAt_of_kind? hkind
    have hplace : ¬inside <+: place := houtside inside hdirectory.located
    have hkeeps := writeFiles_keeps hends hsafe t₁ inside hdirectory
    unfold orUndo
    simp only [start_pure, start_tryCatch, if_true]
    rcases hwritten : start (files.forM (writeInto directory) : TreeWork Unit) t₁ with ⟨result, t₂⟩
    rw [hwritten] at hkeeps
    cases result with
    | ok done => exact hkeeps.outside place hplace
    | error failure =>
      -- The directory is still where it was made, so that it is what is removed.
      dsimp only
      rw [start_bind, start_discard]
      have hremoved := removeDirectory_outside (hdirectory.within hkeeps) hplace
      rcases hundone : start (FileStore.removeDirectory directory : TreeWork Bool) t₂ with ⟨undone, t₃⟩
      rw [hundone] at hremoved
      cases undone with
      | ok done => exact hremoved.trans (hkeeps.outside place hplace)
      | error failure => exact hremoved.trans (hkeeps.outside place hplace)

end ServiceStubs
