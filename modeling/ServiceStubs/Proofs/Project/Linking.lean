import Mathlib.Data.List.Lex
import Mathlib.Data.String.Basic
import ServiceStubs.Project.Link
import ServiceStubs.Proofs.Files.Orderly
import ServiceStubs.Proofs.Project.Delivery
import ServiceStubs.Proofs.Text.Replaced

/-!
# Directories into which an address has been written

Linking a directory writes the address of a service into all files below it that have the placeholder. It changes these
files and nothing else, tells which they are, and has nothing more to do when it is run again.

* `not_contains_linked` says which addresses leave no placeholder behind;
* `Links` says what becomes of a tree when the files of a scope are linked, and `Links.append` joins two scopes;
* `linkFile_links` is about one file, `gathered_links` about the names of a directory, and `linkBelow_links` about all
  that is below it, down to the depth at which the walk gives up;
* `linkDirectory_links` concludes for a run that succeeds.
-/

namespace ServiceStubs

open FileTree

/-! ## Texts -/

/-- An address without percent signs that has a character of its own leaves no placeholder behind. -/
theorem not_contains_linked {url : String} (hpercent : '%' ∉ url.toList)
    (hother : ∃ c ∈ url.toList, c ∉ remoteUrlPlaceholder.toList) (content : String) :
    ¬Text.contains (linked content url) remoteUrlPlaceholder := by
  have hapart : Text.Apart remoteUrlPlaceholder.toList url.toList := by
    refine ⟨by decide, ?_, ?_, hother⟩
    · have hhead : remoteUrlPlaceholder.toList.head (by decide) = '%' := by decide
      rwa [hhead]
    · have hlast : remoteUrlPlaceholder.toList.getLast (by decide) = '%' := by decide
      rwa [hlast]
  unfold Text.contains linked Text.replaceAll
  rw [String.toList_ofList]
  exact hapart.not_occursIn_replaceFrom content.toList

theorem linked_of_not_contains {content : String} (h : ¬Text.contains content remoteUrlPlaceholder) (url : String) :
    linked content url = content := by
  unfold linked Text.replaceAll
  rw [Text.replaceFrom_of_not_occursIn h, String.ofList_toList]

/-! ## Entries -/

/-- What becomes of an entry when an address is written into it. -/
def Entry.linked (url : String) : Entry → Entry
  | .file (.text content) => .file (.text (ServiceStubs.linked content url))
  | entry => entry

namespace FileTree

/-- A file holds a text with the placeholder in it. -/
def Awaits (t : FileTree) (place : TreePlace) : Prop :=
  ∃ content, t.entry? place = some (.file (.text content)) ∧ Text.contains content remoteUrlPlaceholder

variable {t t' : FileTree} {place other : TreePlace}

/-- Where no placeholder is, linking changes nothing. -/
theorem map_linked_of_not_awaits (h : ¬t.Awaits place) (url : String) :
    (t.entry? place).map (Entry.linked url) = t.entry? place := by
  rcases hentry : t.entry? place with _ | entry
  · rfl
  · match entry with
    | .directory => rfl
    | .file (.binary bytes) => rfl
    | .file (.text content) =>
      have hnone : ¬Text.contains content remoteUrlPlaceholder := fun hcontains => h ⟨content, hentry, hcontains⟩
      rw [Option.map_some, Entry.linked, linked_of_not_contains hnone]

theorem awaits_congr (h : t'.entry? place = t.entry? other) : t'.Awaits place ↔ t.Awaits other := by
  unfold Awaits
  rw [h]

end FileTree

/-- The path of something below a directory. -/
def pathBelow (directory : String) (below : TreePlace) : String :=
  below.foldl Files.join directory

/-! ## Linking a part of a tree -/

/-- The files in a scope below a directory have been linked: the trees differ only there, and the list has the paths of
the files with the placeholder. -/
structure Links (url directory : String) (place : TreePlace) (scope : TreePlace → Prop) (t : FileTree)
    (changed : List String) (t' : FileTree) : Prop where
  orderly : t'.Orderly
  working : t'.working = t.working
  inside : ∀ q, scope q → t'.entry? q = (t.entry? q).map (Entry.linked url)
  outside : ∀ q, ¬scope q → t'.entry? q = t.entry? q
  quiet : changed = [] → t' = t
  listed : ∃ belows : List TreePlace, changed = belows.map (pathBelow directory) ∧ belows.Nodup ∧
    ∀ below, below ∈ belows ↔ scope (place ++ below) ∧ t.Awaits (place ++ below)

variable {url directory name : String} {place : TreePlace} {scope scope' : TreePlace → Prop}
  {t t' t'' : FileTree} {changed changed' : List String}

namespace Links

/-- Linking makes no directories, and takes none away. -/
theorem isDirectory_iff (h : Links url directory place scope t changed t') (q : TreePlace) :
    t'.isDirectory q ↔ t.isDirectory q := by
  by_cases hq : scope q
  · unfold isDirectory
    rw [h.inside q hq]
    rcases t.entry? q with _ | entry
    · rfl
    · match entry with
      | .directory => rfl
      | .file (.binary bytes) => rfl
      | .file (.text content) => simp [Entry.linked]
  · unfold isDirectory
    rw [h.outside q hq]

theorem isSome_iff (h : Links url directory place scope t changed t') (q : TreePlace) :
    (t'.entry? q).isSome ↔ (t.entry? q).isSome := by
  by_cases hq : scope q
  · rw [h.inside q hq, Option.isSome_map]
  · rw [h.outside q hq]

theorem directoryAt (h : Links url directory place scope t changed t') (hat : t.DirectoryAt directory place) :
    t'.DirectoryAt directory place :=
  ⟨locate?_mono h.working (fun q => (h.isDirectory_iff q).mpr) hat.located, (h.isDirectory_iff place).mpr hat.directory⟩

/-- Nothing has been linked. -/
theorem refl (horderly : t.Orderly) (hnone : ∀ q, scope q → ¬t.Awaits q) : Links url directory place scope t [] t :=
  ⟨horderly, rfl, fun q hq => (map_linked_of_not_awaits (hnone q hq) url).symm, fun _ _ => rfl, fun _ => rfl,
    [], rfl, List.nodup_nil, fun below => by
      simp only [List.not_mem_nil, false_iff, not_and]
      exact hnone (place ++ below)⟩

/-- Two scopes have been linked, one after the other. -/
theorem append (h : Links url directory place scope t changed t')
    (h' : Links url directory place scope' t' changed' t'') (hdisjoint : ∀ q, scope q → ¬scope' q) :
    Links url directory place (fun q => scope q ∨ scope' q) t (changed ++ changed') t'' := by
  obtain ⟨belows, hchanged, hnodup, hbelows⟩ := h.listed
  obtain ⟨belows', hchanged', hnodup', hbelows'⟩ := h'.listed
  -- What is in the second scope is as it was.
  have hsame : ∀ q, scope' q → t'.entry? q = t.entry? q := fun q hq => h.outside q fun hscope => hdisjoint q hscope hq
  refine ⟨h'.orderly, h'.working.trans h.working, ?_, ?_, ?_, ?_⟩
  · rintro q (hq | hq)
    · rw [h'.outside q (hdisjoint q hq), h.inside q hq]
    · rw [h'.inside q hq, hsame q hq]
  · intro q hq
    rw [not_or] at hq
    rw [h'.outside q hq.2, h.outside q hq.1]
  · intro hnil
    obtain ⟨hnil, hnil'⟩ := List.append_eq_nil_iff.mp hnil
    rw [h'.quiet hnil', h.quiet hnil]
  · refine ⟨belows ++ belows', by rw [List.map_append, hchanged, hchanged'], ?_, ?_⟩
    · rw [List.nodup_append]
      refine ⟨hnodup, hnodup', ?_⟩
      rintro below hbelow _ hbelow' rfl
      exact hdisjoint _ ((hbelows below).mp hbelow).1 ((hbelows' below).mp hbelow').1
    · intro below
      rw [List.mem_append, hbelows, hbelows', or_and_right]
      refine or_congr_right (and_congr_right fun hscope => ?_)
      exact awaits_congr (hsame _ hscope)

/-- A scope can be told in other words where nothing is, or no file. -/
theorem congr (h : Links url directory place scope t changed t') (hscope : ∀ q, scope q → scope' q)
    (hmore : ∀ q, scope' q → ¬scope q → ¬t.Awaits q) : Links url directory place scope' t changed t' := by
  obtain ⟨belows, hchanged, hnodup, hbelows⟩ := h.listed
  refine ⟨h.orderly, h.working, ?_, ?_, h.quiet, belows, hchanged, hnodup, ?_⟩
  · intro q hq
    by_cases hq' : scope q
    · exact h.inside q hq'
    · rw [h.outside q hq', map_linked_of_not_awaits (hmore q hq hq')]
  · intro q hq
    exact h.outside q fun hq' => hq (hscope q hq')
  · intro below
    rw [hbelows]
    constructor
    · exact fun hmem => ⟨hscope _ hmem.1, hmem.2⟩
    · rintro ⟨hq, hawaits⟩
      exact ⟨by_contra fun hq' => hmore _ hq hq' hawaits, hawaits⟩

/-- What is linked below something in a directory is linked below the directory. -/
theorem above (h : Links url (Files.join directory name) (place ++ [name]) scope t changed t')
    (hscope : ∀ q, scope q → place ++ [name] <+: q) : Links url directory place scope t changed t' := by
  obtain ⟨belows, hchanged, hnodup, hbelows⟩ := h.listed
  refine ⟨h.orderly, h.working, h.inside, h.outside, h.quiet, belows.map (name :: ·), ?_, ?_, ?_⟩
  · rw [hchanged, List.map_map]
    rfl
  · exact hnodup.map fun _ _ heq => (List.cons.inj heq).2
  · intro below
    rw [List.mem_map]
    constructor
    · rintro ⟨rest, hrest, rfl⟩
      have hmem := (hbelows rest).mp hrest
      rwa [List.append_assoc] at hmem
    · rintro ⟨hq, hawaits⟩
      obtain ⟨rest, hrest⟩ := hscope _ hq
      rw [List.append_assoc, List.append_cancel_left_eq] at hrest
      refine ⟨rest, (hbelows rest).mpr ?_, hrest⟩
      rw [List.append_assoc]
      have hbelow : [name] ++ rest = below := hrest
      rw [hbelow]
      exact ⟨hq, hawaits⟩

end Links

/-! ## Runs -/

/-- Work links a scope if the tree fits, and fails otherwise. -/
def LinksIf (url directory : String) (place : TreePlace) (scope : TreePlace → Prop) (fits : Prop)
    (work : TreeWork (List String)) (t : FileTree) : Prop :=
  (fits ∧ ∃ changed t', start work t = (.ok changed, t') ∧ Links url directory place scope t changed t') ∨
    ¬fits ∧ ∃ failure t', start work t = (.error failure, t')

/-! ### Files -/

/-- A file with the placeholder is written again. -/
theorem start_linkFile_of_contains {path content : String} (hsited : t.Sited path place)
    (hentry : t.entry? place = some (.file (.text content))) (hcontains : Text.contains content remoteUrlPlaceholder)
    (url : String) :
    start (linkFile url path : TreeWork (List String)) t =
      (.ok [path], t.put place (.file (.text (linked content url)))) := by
  have hread : start (FileStore.readText? path : TreeWork (Option String)) t = (.ok (some content), t) := by
    rw [← hsited.readText?_eq_some_iff.mpr hentry]
    rfl
  have hnot : ¬t.isDirectory place := by simp [isDirectory_iff_directory, hentry]
  unfold linkFile
  rw [start_bind, hread]
  dsimp only
  rw [if_pos hcontains, start_bind, start_demand, start_writeText, hsited.writeText?_eq hnot]
  rfl

/-- Nothing else is. -/
theorem start_linkFile_of_not_awaits {path : String} (hsited : t.Sited path place) (hnot : ¬t.Awaits place)
    (url : String) : start (linkFile url path : TreeWork (List String)) t = (.ok [], t) := by
  have hread : start (FileStore.readText? path : TreeWork (Option String)) t = (.ok (t.readText? path), t) := rfl
  unfold linkFile
  rw [start_bind, hread]
  rcases htext : t.readText? path with _ | content
  · rfl
  · have hnone : ¬Text.contains content remoteUrlPlaceholder := fun hcontains =>
      hnot ⟨content, hsited.readText?_eq_some_iff.mp htext, hcontains⟩
    dsimp only
    rw [if_neg hnone]
    rfl

/-- Writing the address into a file links the file, and there is nothing below it. -/
theorem links_put (horderly : t.Orderly) {path content : String}
    (hentry : t.entry? place = some (.file (.text content))) (hcontains : Text.contains content remoteUrlPlaceholder)
    (url : String) :
    Links url path place (place <+: ·) t [path] (t.put place (.file (.text (linked content url)))) := by
  have hnot : ¬t.isDirectory place := by simp [isDirectory_iff_directory, hentry]
  have hplace : place ≠ [] := by
    rintro rfl
    cases hentry
  have hbelow : ∀ s, s ≠ [] → t.entry? (place ++ s) = none := fun s hs => horderly.grounded.free_below hnot hs
  -- All that the steps are about is the file itself, since nothing is below a file.
  refine ⟨horderly.put_file hentry _, rfl, ?_, ?_, by simp, [[]], rfl, by simp, ?_⟩
  · rintro _ ⟨s, rfl⟩
    by_cases hs : s = []
    · subst hs
      rw [List.append_nil, at_put_self _ hplace, hentry]
      rfl
    · rw [at_put_of_ne _ (by simpa using hs), hbelow s hs]
      rfl
  · intro q hq
    exact at_put_of_ne _ fun heq => hq (heq ▸ List.prefix_refl place)
  · intro s
    rw [List.mem_singleton]
    constructor
    · rintro rfl
      rw [List.append_nil]
      exact ⟨List.prefix_refl place, content, hentry, hcontains⟩
    · rintro ⟨-, content', hentry', -⟩
      by_contra hs
      rw [hbelow s hs] at hentry'
      cases hentry'

/-- One file is linked, whatever is in it. -/
theorem linkFile_links (horderly : t.Orderly) {path : String} (hsited : t.Sited path place)
    (hnot : ¬t.isDirectory place) (url : String) :
    ∃ changed t', start (linkFile url path : TreeWork (List String)) t = (.ok changed, t') ∧
      Links url path place (place <+: ·) t changed t' := by
  by_cases hawaits : t.Awaits place
  · obtain ⟨content, hentry, hcontains⟩ := hawaits
    exact ⟨_, _, start_linkFile_of_contains hsited hentry hcontains url, links_put horderly hentry hcontains url⟩
  · refine ⟨[], t, start_linkFile_of_not_awaits hsited hawaits url, Links.refl horderly ?_⟩
    rintro _ ⟨s, rfl⟩ hbelow
    by_cases hs : s = []
    · subst hs
      rw [List.append_nil] at hbelow
      exact hawaits hbelow
    · obtain ⟨content, hentry, -⟩ := hbelow
      rw [horderly.grounded.free_below hnot hs] at hentry
      cases hentry

/-! ### The names of a directory -/

/-- Work on some names, one after the other, and all that it has listed. -/
def gathered (work : String → TreeWork (List String)) (names : List String) : TreeWork (List String) := do
  return (← names.mapM work).flatten

theorem start_gathered_cons (work : String → TreeWork (List String)) (name : String) (rest : List String)
    (t : FileTree) :
    start (gathered work (name :: rest)) t =
      match start (work name) t with
      | (.ok changed, t') =>
        match start (gathered work rest) t' with
        | (.ok changed', t'') => (.ok (changed ++ changed'), t'')
        | (.error failure, t'') => (.error failure, t'')
      | (.error failure, t') => (.error failure, t') := by
  unfold gathered
  rw [List.mapM_cons, start_bind, start_bind]
  rcases start (work name) t with ⟨result, t'⟩
  cases result with
  | error failure => rfl
  | ok changed =>
    dsimp only
    rw [start_bind, start_bind]
    rcases start (rest.mapM work) t' with ⟨results, t''⟩
    cases results <;> rfl

/-- Work on names links what is below them if it does so for each, and fitting is not a matter of what is in files. -/
theorem gathered_links {work : String → TreeWork (List String)} {fits : FileTree → String → Prop}
    (hwork : ∀ (t : FileTree) (name : String), t.Orderly → t.DirectoryAt directory place →
      (t.entry? (place ++ [name])).isSome →
      LinksIf url directory place (place ++ [name] <+: ·) (fits t name) (work name) t)
    (hfits : ∀ {t t' : FileTree} {scope : TreePlace → Prop} {changed : List String} (name : String),
      Links url directory place scope t changed t' → (fits t' name ↔ fits t name))
    {names : List String} (hnodup : names.Nodup) (horderly : t.Orderly) (hat : t.DirectoryAt directory place)
    (hsome : ∀ name ∈ names, (t.entry? (place ++ [name])).isSome) :
    LinksIf url directory place (fun q => ∃ name ∈ names, place ++ [name] <+: q) (∀ name ∈ names, fits t name)
      (gathered work names) t := by
  induction names generalizing t with
  | nil => exact .inl ⟨by simp, [], t, rfl, Links.refl horderly (by simp)⟩
  | cons name rest ih =>
    obtain ⟨hnew, hnodup⟩ := List.nodup_cons.mp hnodup
    obtain ⟨hfirst, hrest⟩ := List.forall_mem_cons.mp hsome
    unfold LinksIf
    rw [start_gathered_cons, List.forall_mem_cons]
    rcases hwork t name horderly hat hfirst with ⟨hok, changed, t', hstart, hlinks⟩ | ⟨hnot, failure, t', hstart⟩
    · -- What is left to do is the same as before.
      have hrest' : ∀ name' ∈ rest, (t'.entry? (place ++ [name'])).isSome :=
        fun name' hname' => (hlinks.isSome_iff _).mpr (hrest name' hname')
      have hsame : (∀ name' ∈ rest, fits t' name') ↔ ∀ name' ∈ rest, fits t name' :=
        forall₂_congr fun name' _ => hfits name' hlinks
      rw [hstart, ← hsame]
      dsimp only
      rcases ih hnodup hlinks.orderly (hlinks.directoryAt hat) hrest' with
        ⟨hall, changed', t'', hstart', hlinks'⟩ | ⟨hnot, failure, t'', hstart'⟩
      · refine .inl ⟨⟨hok, hall⟩, changed ++ changed', t'', by rw [hstart'], ?_⟩
        -- No place is below two names.
        have hdisjoint : ∀ q, place ++ [name] <+: q → ¬∃ name' ∈ rest, place ++ [name'] <+: q := by
          rintro q ⟨s, rfl⟩ ⟨name', hname', s', heq⟩
          simp only [List.append_assoc, List.append_cancel_left_eq, List.cons_append, List.cons.injEq] at heq
          exact hnew (heq.1 ▸ hname')
        have hboth := hlinks.append hlinks' hdisjoint
        simpa only [List.exists_mem_cons_iff] using hboth
      · exact .inr ⟨fun hall => hnot hall.2, failure, t'', by rw [hstart']⟩
    · rw [hstart]
      exact .inr ⟨fun hall => hnot hall.1, failure, t', rfl⟩

/-! ### Directories -/

/-- All directories at and below a place are less deep than some number. -/
def FileTree.Shallow (t : FileTree) (depth : Nat) (place : TreePlace) : Prop :=
  ∀ s, t.isDirectory (place ++ s) → s.length < depth

theorem Links.shallow_iff (h : Links url directory place scope t changed t') (depth : Nat) (q : TreePlace) :
    t'.Shallow depth q ↔ t.Shallow depth q := by
  unfold FileTree.Shallow
  simp only [h.isDirectory_iff]

/-- A directory is as deep as the deepest thing in it, and one more. -/
theorem shallow_succ_iff (hgrounded : t.Grounded) (depth : Nat) (place : TreePlace) :
    t.Shallow (depth + 1) place ↔ ∀ name ∈ t.namesIn place, t.Shallow depth (place ++ [name]) := by
  constructor
  · intro h name _ s hs
    rw [List.append_assoc] at hs
    have hdepth := h ([name] ++ s) hs
    rw [List.length_append, List.length_singleton] at hdepth
    omega
  · intro h s hs
    cases s with
    | nil => exact Nat.succ_pos depth
    | cons name rest =>
      have hsome : (t.entry? (place ++ name :: rest)).isSome := by
        rw [isDirectory_iff_directory.mp hs]
        rfl
      have hmem := mem_namesIn_iff.mpr (hgrounded.isSome_of_below hsome)
      have hdepth := h name hmem rest (by rwa [List.append_assoc])
      rw [List.length_cons]
      omega

/-- The work on one name in a directory. -/
def linkName (url : String) (depth : Nat) (directory name : String) : TreeWork (List String) := do
  match ← FileStore.kind? (Files.join directory name) with
  | some .directory => linkBelow url depth (Files.join directory name)
  | _ => linkFile url (Files.join directory name)

/-- The work in a directory is that on its names. -/
theorem start_linkBelow_succ (hat : t.DirectoryAt directory place) (url : String) (depth : Nat) :
    start (linkBelow url (depth + 1) directory : TreeWork (List String)) t =
      start (gathered (linkName url depth directory) (t.namesIn place)) t := by
  have hnames : start (FileStore.names? directory : TreeWork (Option (List String))) t =
      (.ok (some (t.namesIn place)), t) := by
    have hthere : t.names? directory = some (t.namesIn place) := by
      unfold names?
      rw [hat.find]
    rw [← hthere]
    rfl
  rw [linkBelow, start_bind, hnames]
  rfl

/-- One name is that of a directory or of a file. -/
theorem linkName_links {depth : Nat}
    (hbelow : ∀ {directory : String} {place : TreePlace} {t : FileTree}, t.Orderly → t.DirectoryAt directory place →
      LinksIf url directory place (place <+: ·) (t.Shallow depth place) (linkBelow url depth directory) t)
    (horderly : t.Orderly) (hat : t.DirectoryAt directory place) (hsome : (t.entry? (place ++ [name])).isSome) :
    LinksIf url directory place (place ++ [name] <+: ·) (t.Shallow depth (place ++ [name]))
      (linkName url depth directory name) t := by
  obtain ⟨hname, hslash⟩ := horderly.name_of_isSome hsome
  have hsited := hat.sited hname hslash
  have hkind : start (FileStore.kind? (Files.join directory name) : TreeWork (Option EntryKind)) t =
      (.ok ((t.entry? (place ++ [name])).map Entry.kind), t) := by
    rw [← hsited.kind?_eq]
    rfl
  unfold LinksIf linkName
  rw [start_bind, hkind]
  obtain ⟨entry, hentry⟩ := Option.isSome_iff_exists.mp hsome
  rw [hentry]
  cases entry with
  | directory =>
    have hat' : t.DirectoryAt (Files.join directory name) (place ++ [name]) :=
      ⟨hsited.locate?_eq, isDirectory_iff_directory.mpr hentry⟩
    rcases hbelow horderly hat' with ⟨hfits, changed, t', hstart, hlinks⟩ | ⟨hnot, failure, t', hstart⟩
    · exact .inl ⟨hfits, changed, t', hstart, hlinks.above fun q hq => hq⟩
    · exact .inr ⟨hnot, failure, t', hstart⟩
  | file content =>
    have hnot : ¬t.isDirectory (place ++ [name]) := by simp [isDirectory_iff_directory, hentry]
    obtain ⟨changed, t', hstart, hlinks⟩ := linkFile_links horderly hsited hnot url
    refine .inl ⟨?_, changed, t', hstart, hlinks.above fun q hq => hq⟩
    -- There are no directories at or below a file.
    intro s hs
    cases s with
    | nil => exact absurd (by rwa [List.append_nil] at hs) hnot
    | cons first rest =>
      rw [isDirectory_iff_directory, horderly.grounded.free_below hnot (List.cons_ne_nil first rest)] at hs
      cases hs

/-- All that is below a directory is linked if it is not too deep, and otherwise the walk fails. -/
theorem linkBelow_links (url : String) (depth : Nat) :
    ∀ {directory : String} {place : TreePlace} {t : FileTree}, t.Orderly → t.DirectoryAt directory place →
      LinksIf url directory place (place <+: ·) (t.Shallow depth place) (linkBelow url depth directory) t := by
  induction depth with
  | zero =>
    intro directory place t _ hat
    refine .inr ⟨?_, _, t, rfl⟩
    intro hshallow
    exact absurd (hshallow [] (by rw [List.append_nil]; exact hat.directory)) (Nat.not_lt_zero _)
  | succ depth ih =>
    intro directory place t horderly hat
    have hgathered := gathered_links (fun t name horderly hat hsome => linkName_links ih horderly hat hsome)
      (fun name hlinks => hlinks.shallow_iff depth _) (horderly.nodup_namesIn place) horderly hat
      fun name hname => mem_namesIn_iff.mp hname
    unfold LinksIf
    rw [start_linkBelow_succ hat, shallow_succ_iff horderly.grounded]
    rcases hgathered with ⟨hall, changed, t', hstart, hlinks⟩ | hfails
    · refine .inl ⟨hall, changed, t', hstart, hlinks.congr ?_ ?_⟩
      · rintro q ⟨name, -, hq⟩
        exact (List.prefix_append place [name]).trans hq
      · -- Besides what the names lead to, there is the directory itself, and what is not there.
        rintro _ ⟨s, rfl⟩ hnone ⟨content, hentry, -⟩
        cases s with
        | nil =>
          rw [List.append_nil, isDirectory_iff_directory.mp hat.directory] at hentry
          cases hentry
        | cons name rest =>
          have hmem := mem_namesIn_iff.mpr (horderly.grounded.isSome_of_below (by rw [hentry]; rfl))
          exact hnone ⟨name, hmem, rest, by simp⟩
    · exact .inr hfails

/-! ## Paths -/

/-- The path of something below a directory names its place. -/
theorem locate?_pathBelow (horderly : t.Orderly) {below : TreePlace} (hat : t.DirectoryAt directory place)
    (hsome : (t.entry? (place ++ below)).isSome) : t.locate? (pathBelow directory below) = some (place ++ below) := by
  induction below generalizing directory place with
  | nil =>
    rw [List.append_nil]
    exact hat.located
  | cons name rest ih =>
    obtain ⟨hname, hslash⟩ := horderly.name_of_isSome (horderly.grounded.isSome_of_below hsome)
    have hsited := hat.sited hname hslash
    have hcons : place ++ name :: rest = place ++ [name] ++ rest := by simp
    rw [hcons] at hsome ⊢
    by_cases hdirectory : t.isDirectory (place ++ [name])
    · exact ih ⟨hsited.locate?_eq, hdirectory⟩ hsome
    · by_cases hrest : rest = []
      · subst hrest
        rw [List.append_nil]
        exact hsited.locate?_eq
      · rw [horderly.grounded.free_below hdirectory hrest] at hsome
        cases hsome

/-! ## Order -/

theorem segmentsPrecede_iff (segments others : List String) : segmentsPrecede segments others ↔ ¬others < segments := by
  induction segments generalizing others with
  | nil => simp [segmentsPrecede]
  | cons segment rest ih =>
    cases others with
    | nil => simp [segmentsPrecede]
    | cons other others =>
      rw [segmentsPrecede, List.cons_lt_cons_iff]
      by_cases heq : segment = other
      · subst heq
        simp [ih]
      · rw [if_neg heq, decide_eq_true_iff]
        constructor
        · rintro hless (hgreater | ⟨rfl, -⟩)
          · exact lt_asymm hless hgreater
          · exact heq rfl
        · intro hnot
          exact lt_of_le_of_ne (not_lt.mp fun hgreater => hnot (.inl hgreater)) heq

theorem pathPrecedes_iff (path other : String) :
    pathPrecedes path other ↔ ¬Text.splitOn '/' other < Text.splitOn '/' path :=
  segmentsPrecede_iff _ _

/-- Different paths are sorted by their segments. -/
theorem pairwise_mergeSort_pathPrecedes {paths : List String} (h : paths.Nodup) :
    (paths.mergeSort pathPrecedes).Pairwise fun path path' => Text.splitOn '/' path < Text.splitOn '/' path' := by
  have htrans : ∀ a b c, pathPrecedes a b → pathPrecedes b c → pathPrecedes a c := by
    intro a b c hab hbc
    rw [pathPrecedes_iff, not_lt] at hab hbc ⊢
    exact le_trans hab hbc
  have htotal : ∀ a b, pathPrecedes a b || pathPrecedes b a := by
    intro a b
    rw [Bool.or_eq_true, pathPrecedes_iff, pathPrecedes_iff, not_lt, not_lt]
    exact le_total _ _
  have hsorted := List.pairwise_mergeSort htrans htotal paths
  have hnodup : (paths.mergeSort pathPrecedes).Nodup := (List.mergeSort_perm paths _).nodup_iff.mpr h
  refine (hsorted.and hnodup).imp ?_
  rintro path path' ⟨hle, hne⟩
  exact lt_of_le_of_ne (not_lt.mp ((pathPrecedes_iff path path').mp hle)) fun heq => hne (Text.splitOn_injective heq)

/-! ## Whole directories -/

/-- What linking a directory does to a tree, and which paths it lists. -/
structure LinkedDirectory (url directory : String) (place : TreePlace) (t : FileTree) (changed : List String)
    (t' : FileTree) : Prop where
  /-- No file below the directory waits for an address any more. -/
  filled : ∀ below, ¬t'.Awaits (place ++ below)
  /-- The list has the paths of the files that did. -/
  listed : ∀ path, path ∈ changed ↔ ∃ below, pathBelow directory below = path ∧ t.Awaits (place ++ below)
  located : ∀ below, t.Awaits (place ++ below) → t.locate? (pathBelow directory below) = some (place ++ below)
  /-- It is sorted, and no path is in it twice. -/
  sorted : changed.Pairwise fun path path' => Text.splitOn '/' path < Text.splitOn '/' path'
  /-- These files have the address in them now. -/
  written : ∀ below content, t.entry? (place ++ below) = some (.file (.text content)) →
    t'.entry? (place ++ below) = some (.file (.text (linked content url)))
  /-- Everything else is as it was. -/
  kept : ∀ q, ¬(place <+: q ∧ t.Awaits q) → t'.entry? q = t.entry? q
  working : t'.working = t.working

theorem start_linkDirectory (directory url : String) (t : FileTree) :
    start (linkDirectory directory url : TreeWork (List String)) t =
      match start (linkBelow url deepestDirectory directory : TreeWork (List String)) t with
      | (.ok changed, t') => (.ok (changed.mergeSort pathPrecedes), t')
      | (.error failure, t') => (.error failure, t') := by
  unfold linkDirectory
  rw [start_bind]
  rcases start (linkBelow url deepestDirectory directory : TreeWork (List String)) t with ⟨result, t'⟩
  cases result <;> rfl

/-- Only a directory can be linked. -/
theorem directoryAt_of_linkBelow {depth : Nat}
    (h : start (linkBelow url depth directory : TreeWork (List String)) t = (.ok changed, t')) :
    ∃ place, t.DirectoryAt directory place := by
  cases depth with
  | zero => cases h
  | succ depth =>
    have hnames : start (FileStore.names? directory : TreeWork (Option (List String))) t =
        (.ok (t.names? directory), t) := rfl
    rw [linkBelow, start_bind, hnames] at h
    rcases hthere : t.names? directory with _ | names
    · rw [hthere] at h
      cases h
    · unfold names? at hthere
      split at hthere
      · rename_i place hfind
        obtain ⟨hlocate, hentry⟩ := find?_eq_some hfind
        exact ⟨place, hlocate, isDirectory_iff_directory.mpr hentry⟩
      · cases hthere

/-- A directory can be linked if nothing in it is too deep. -/
theorem linkDirectory_isOk (horderly : t.Orderly) (hat : t.DirectoryAt directory place)
    (hshallow : t.Shallow deepestDirectory place) (url : String) :
    ∃ changed t', start (linkDirectory directory url : TreeWork (List String)) t = (.ok changed, t') := by
  rcases linkBelow_links url deepestDirectory horderly hat with ⟨-, changed, t', hstart, -⟩ | ⟨hnot, -⟩
  · exact ⟨changed.mergeSort pathPrecedes, t', by rw [start_linkDirectory, hstart]⟩
  · exact absurd hshallow hnot

/-- Where nothing waits, nothing is done. -/
theorem linkDirectory_of_filled (horderly : t.Orderly) (hat : t.DirectoryAt directory place)
    (hshallow : t.Shallow deepestDirectory place) (hfilled : ∀ below, ¬t.Awaits (place ++ below)) (url : String) :
    start (linkDirectory directory url : TreeWork (List String)) t = (.ok [], t) := by
  rcases linkBelow_links url deepestDirectory horderly hat with ⟨-, changed, t', hstart, hlinks⟩ | ⟨hnot, -⟩
  · obtain ⟨belows, hchanged, -, hbelows⟩ := hlinks.listed
    have hnil : belows = [] := List.eq_nil_iff_forall_not_mem.mpr fun below hbelow =>
      hfilled below ((hbelows below).mp hbelow).2
    rw [hnil, List.map_nil] at hchanged
    rw [start_linkDirectory, hstart, hchanged, hlinks.quiet hchanged]
    simp only [List.mergeSort_nil]
  · exact absurd hshallow hnot

/-- If a directory in a tree is linked with an address that has no percent sign and some character of its own, all
placeholders below it are filled in, the files that had them are listed, and nothing else changes; nothing is left to do
then, for any address. -/
theorem linkDirectory_links (horderly : t.Orderly) (hpercent : '%' ∉ url.toList)
    (hother : ∃ c ∈ url.toList, c ∉ remoteUrlPlaceholder.toList)
    (h : start (linkDirectory directory url : TreeWork (List String)) t = (.ok changed, t')) :
    ∃ place, t.DirectoryAt directory place ∧ LinkedDirectory url directory place t changed t' ∧
      ∀ url', start (linkDirectory directory url' : TreeWork (List String)) t' = (.ok [], t') := by
  rw [start_linkDirectory] at h
  rcases hbelow : start (linkBelow url deepestDirectory directory : TreeWork (List String)) t with ⟨result, t₁⟩
  rw [hbelow] at h
  cases result with
  | error failure => cases h
  | ok paths =>
    cases h
    obtain ⟨place, hat⟩ := directoryAt_of_linkBelow hbelow
    -- The walk has not failed, so that the tree is not too deep for it, now or in another run.
    obtain ⟨hshallow, hlinks⟩ : t.Shallow deepestDirectory place ∧
        Links url directory place (place <+: ·) t paths t' := by
      rcases linkBelow_links url deepestDirectory horderly hat with ⟨hfits, _, _, hstart, hlinks⟩ | ⟨-, _, _, hstart⟩
      · rw [hbelow] at hstart
        cases hstart
        exact ⟨hfits, hlinks⟩
      · rw [hbelow] at hstart
        cases hstart
    have hunder : ∀ below, place <+: place ++ below := List.prefix_append place
    have hwritten : ∀ below content, t.entry? (place ++ below) = some (.file (.text content)) →
        t'.entry? (place ++ below) = some (.file (.text (linked content url))) := by
      intro below content hentry
      rw [hlinks.inside _ (hunder below), hentry]
      rfl
    have hfilled : ∀ below, ¬t'.Awaits (place ++ below) := by
      rintro below ⟨content, hentry, hcontains⟩
      rw [hlinks.inside _ (hunder below), Option.map_eq_some_iff] at hentry
      obtain ⟨entry, -, hlinked⟩ := hentry
      match entry with
      | .directory => cases hlinked
      | .file (.binary bytes) => cases hlinked
      | .file (.text before) =>
        cases hlinked
        exact not_contains_linked hpercent hother before hcontains
    have hlocated : ∀ below, t.Awaits (place ++ below) →
        t.locate? (pathBelow directory below) = some (place ++ below) := by
      rintro below ⟨content, hentry, -⟩
      exact locate?_pathBelow horderly hat (by rw [hentry]; rfl)
    obtain ⟨belows, rfl, hnodup, hbelows⟩ := hlinks.listed
    refine ⟨place, hat, ⟨hfilled, ?_, hlocated, ?_, hwritten, ?_, hlinks.working⟩, ?_⟩
    · intro path
      rw [List.mem_mergeSort, List.mem_map]
      refine exists_congr fun below => ?_
      rw [hbelows, and_iff_right (hunder below), and_comm]
    · -- Paths are different because they name different places.
      refine pairwise_mergeSort_pathPrecedes (hnodup.map_on ?_)
      intro below hmem below' hmem' heq
      have hplace := hlocated below ((hbelows below).mp hmem).2
      rw [heq, hlocated below' ((hbelows below').mp hmem').2] at hplace
      exact (List.append_cancel_left (Option.some.inj hplace)).symm
    · intro q hq
      by_cases hin : place <+: q
      · rw [hlinks.inside q hin, map_linked_of_not_awaits fun hawaits => hq ⟨hin, hawaits⟩]
      · exact hlinks.outside q hin
    · intro url'
      exact linkDirectory_of_filled hlinks.orderly (hlinks.directoryAt hat)
        ((hlinks.shallow_iff deepestDirectory place).mpr hshallow) hfilled url'

/-- Clients and a model that wait for an address, one of them between further percent signs, and a file that is no
text. -/
def waitingTree : FileTree where
  entries := [
    (["out"], .directory),
    (["out", "client.ts"], .file (.text "new Remote(\"%%%RPCGEN_REMOTE_URL%%%\")")),
    (["out", "models"], .directory),
    (["out", "models", "user.ts"], .file (.text "100%%%%RPCGEN_REMOTE_URL%%%%")),
    (["out", "models", "user.png"], .file (.binary [137, 80]))]
  working := []

theorem linkDirectory_links_waiting :
    ∃ changed t', start (linkDirectory "out" "https://rpc" : TreeWork (List String)) waitingTree = (.ok changed, t') ∧
      "out/models/user.ts" ∈ changed ∧
      t'.entry? ["out", "models", "user.png"] = some (.file (.binary [137, 80])) ∧
      start (linkDirectory "out" "/rpc" : TreeWork (List String)) t' = (.ok [], t') := by
  have hplaces : ∀ q ∈ waitingTree.entries.map (·.1), q.length ≤ 3 ∧
      ∀ name ∈ q, 3 ≤ name.toList.length ∧ '/' ∉ name.toList := by decide
  have horderly : waitingTree.Orderly :=
    ⟨grounded_of_entries (by decide), by decide, fun q hq name hname =>
      ⟨isName_of_length ((hplaces q hq).2 name hname).1, ((hplaces q hq).2 name hname).2⟩⟩
  have hat : waitingTree.DirectoryAt "out" ["out"] := ⟨by decide, by decide⟩
  -- Whatever is a directory is among the entries, and none of these lies deep.
  have hshallow : waitingTree.Shallow deepestDirectory ["out"] := by
    intro s hs
    have hmem : ["out"] ++ s ∈ waitingTree.entries.map (·.1) := by
      apply (entry?_isSome_iff (by simp)).mp
      rw [isDirectory_iff_directory.mp hs]
      rfl
    have hlength := (hplaces _ hmem).1
    rw [List.length_append, List.length_singleton] at hlength
    unfold deepestDirectory
    omega
  obtain ⟨changed, t', h⟩ := linkDirectory_isOk horderly hat hshallow "https://rpc"
  obtain ⟨place, hat', hlinked, hagain⟩ := linkDirectory_links horderly (by decide) ⟨'h', by decide, by decide⟩ h
  obtain rfl : ["out"] = place := Option.some.inj (hat.located.symm.trans hat'.located)
  refine ⟨changed, t', h, (hlinked.listed _).mpr ⟨["models", "user.ts"], by decide, ?_⟩, ?_, hagain "/rpc"⟩
  · exact ⟨"100%%%%RPCGEN_REMOTE_URL%%%%", by decide, by decide⟩
  · rw [hlinked.kept]
    · decide
    · rintro ⟨-, content, hentry, -⟩
      cases hentry

end ServiceStubs
