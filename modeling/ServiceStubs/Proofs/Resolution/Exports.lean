import Mathlib.Data.List.Basic
import Mathlib.Logic.Relation
import ServiceStubs.Proofs.Resolution.Search

/-!
# What exports stand for

Modules export names of their own, names of other modules, and all that other modules export. This says
which declaration an exported name stands for, and that the search for it finds this one, unless one of the
modules on its way disturbs it.

* `Designates` is the meaning of exports: the one declaration at the end of all chains from a name;
* `Undisturbed` says when a module shows the search what it exports;
* `locateExport_sound` and `locateExport_complete` compare the search with the chains;
* `locate_designated` says that a name that a module imports is found over at most fifteen exports;
* `locate_not_designated` shows the two ways in which a module disturbs the search.
-/

namespace ServiceStubs.Source

/-! ## Tables of imports and exports -/

/-- What a statement exports: the names, and what they stand for. A declaration is exported under its own
name, or as `default`. -/
def Item.exports : Item → List (String × ExportAlias)
  | .exported found _ _ => [(found.name, .here found.name)]
  | .exportedDefault (.classDefinition name _) _ _ => [("default", .here (name.getD "default"))]
  | .exportedDefault (.interface body) _ _ => [("default", .here body.name)]
  | .exportedDefaultName name => [("default", .here name)]
  | .exportedNames names specifier => names.map fun n =>
    (n.exported, match specifier with
      | some specifier => .elsewhere ⟨specifier, n.localName⟩
      | none => .here n.localName)
  | _ => []

/-- The names that a statement imports, and where they come from. -/
def Item.imported : Item → List (String × Origin)
  | .imports names specifier => names.map fun n => (n.localName, ⟨specifier, n.imported⟩)
  | _ => []

/-- The module exports the name, which stands for this. -/
def Module.Exports (m : Module) (name : String) (what : ExportAlias) : Prop :=
  ∃ item ∈ m.items, (name, what) ∈ item.exports

/-- The module imports the name from there. -/
def Module.Imports (m : Module) (name : String) (origin : Origin) : Prop :=
  ∃ item ∈ m.items, (name, origin) ∈ item.imported

/-- The module declares the name, exported or not. -/
def Module.Declares (m : Module) (name : String) : Prop :=
  (m.definition? name).isSome

instance (m : Module) (name : String) : Decidable (m.Declares name) :=
  inferInstanceAs (Decidable (_ = true))

/-- What every module has to heed: a name is exported as one thing, and imported from one place, unless it
is declared. -/
structure Module.WellFormed (m : Module) : Prop where
  exports : ∀ name what what', m.Exports name what → m.Exports name what' → what = what'
  imports : ∀ name origin origin', m.Imports name origin → m.Imports name origin' → origin = origin'
  apart : ∀ name origin, m.Imports name origin → ¬m.Declares name

theorem Item.mem_imported_of_importOf? {item : Item} {name : String} {origin : Origin}
    (h : item.importOf? name = some origin) : (name, origin) ∈ item.imported := by
  match item with
  | .imports names specifier =>
    obtain ⟨n, hfind, rfl⟩ := Option.map_eq_some_iff.mp h
    have hname : n.localName = name := by simpa using List.find?_some hfind
    exact List.mem_map.mpr ⟨n, List.mem_of_find?_eq_some hfind, by rw [hname]⟩
  | .definition .. | .exported .. | .exportedDefault .. | .exportedDefaultName _ | .exportedNames ..
  | .exportedAll _ | .other => cases h

theorem Item.isSome_importOf? {item : Item} {name : String} {origin : Origin}
    (h : (name, origin) ∈ item.imported) : (item.importOf? name).isSome := by
  match item with
  | .imports names specifier =>
    obtain ⟨n, hn, heq⟩ := List.mem_map.mp h
    cases heq
    simp only [Item.importOf?, Option.isSome_map, List.find?_isSome]
    exact ⟨n, hn, by simp⟩
  | .definition .. | .exported .. | .exportedDefault .. | .exportedDefaultName _ | .exportedNames ..
  | .exportedAll _ | .other => cases h

theorem Module.imports_of_importOf? {m : Module} {name : String} {origin : Origin}
    (h : m.importOf? name = some origin) : m.Imports name origin := by
  obtain ⟨item, hitem, hfound⟩ := List.exists_of_findSome?_eq_some h
  exact ⟨item, hitem, item.mem_imported_of_importOf? hfound⟩

/-- The table of imports is searched in full. -/
theorem Module.WellFormed.importOf? {m : Module} (hm : m.WellFormed) {name : String} {origin : Origin}
    (h : m.Imports name origin) : m.importOf? name = some origin := by
  obtain ⟨item, hitem, horigin⟩ := h
  have hsome : (m.importOf? name).isSome :=
    List.findSome?_isSome_iff.mpr ⟨item, hitem, item.isSome_importOf? horigin⟩
  obtain ⟨found, hfound⟩ := Option.isSome_iff_exists.mp hsome
  rw [hfound, hm.imports name found origin (Module.imports_of_importOf? hfound) ⟨item, hitem, horigin⟩]

/-! ## Declarations among the exports -/

/-- The name of a default declaration that has one. -/
def Item.namedDefault? : Item → Option String
  | .exportedDefault (.classDefinition name _) _ _ => name
  | .exportedDefault (.interface body) _ _ => some body.name
  | _ => none

theorem Item.mem_exports_of_exportAlias? {item : Item} {name : String} {what : ExportAlias}
    (h : item.exportAlias? name = some what) : (name, what) ∈ item.exports := by
  unfold Item.exportAlias? at h
  split at h
  · rename_i names specifier
    obtain ⟨n, hfind, rfl⟩ := Option.map_eq_some_iff.mp h
    obtain rfl : n.exported = name := by simpa using List.find?_some hfind
    refine List.mem_map.mpr ⟨n, List.mem_of_find?_eq_some hfind, ?_⟩
    cases specifier <;> rfl
  · split at h
    · rename_i hname
      cases h
      rw [hname]
      exact List.mem_singleton_self _
    · cases h
  · cases h

/-- A statement that exports a name declares what the name stands for, under the name itself or as a named
default, or it is one of those that are searched for the name. -/
theorem Item.exports_cases {item : Item} {name : String} {what : ExportAlias}
    (h : (name, what) ∈ item.exports) :
    (item.exportAlias? name).isSome ∨
      ∃ declared, what = .here declared ∧ (item.definition? declared).isSome ∧
        (declared = name ∨ (name = "default" ∧ item.namedDefault? = some declared)) := by
  match item with
  | .exportedNames names specifier =>
    obtain ⟨n, hn, heq⟩ := List.mem_map.mp h
    cases heq
    refine .inl ?_
    simp only [Item.exportAlias?, Option.isSome_map, List.find?_isSome]
    exact ⟨n, hn, by simp⟩
  | .exportedDefaultName localName =>
    cases List.mem_singleton.mp h
    exact .inl rfl
  -- Declarations that are exported on the spot, the default ones under their own names if they have one.
  | .exported found docs innerDocs =>
    cases List.mem_singleton.mp h
    exact .inr ⟨found.name, rfl, by simp [Item.definition?], .inl rfl⟩
  | .exportedDefault (.classDefinition none body) docs innerDocs =>
    cases List.mem_singleton.mp h
    exact .inr ⟨"default", rfl, rfl, .inl rfl⟩
  | .exportedDefault (.classDefinition (some className) body) docs innerDocs =>
    cases List.mem_singleton.mp h
    exact .inr ⟨className, rfl, by simp [Item.definition?], .inr ⟨rfl, rfl⟩⟩
  | .exportedDefault (.interface body) docs innerDocs =>
    cases List.mem_singleton.mp h
    exact .inr ⟨body.name, rfl, by simp [Item.definition?], .inr ⟨rfl, rfl⟩⟩
  | .imports .. | .definition .. | .exportedAll _ | .other => cases h

theorem Module.exports_of_exportAlias? {m : Module} {name : String} {what : ExportAlias}
    (h : m.exportAlias? name = some what) : m.Exports name what := by
  obtain ⟨item, hitem, hfound⟩ := List.exists_of_findSome?_eq_some h
  exact ⟨item, hitem, item.mem_exports_of_exportAlias? hfound⟩

/-- An exported name is in the table that is searched, or stands for a declaration of the module, its own
or a named default. -/
theorem Module.Exports.cases {m : Module} {name : String} {what : ExportAlias} (hm : m.WellFormed)
    (h : m.Exports name what) :
    m.exportAlias? name = some what ∨
      ∃ declared, what = .here declared ∧ m.Declares declared ∧
        (declared = name ∨ (name = "default" ∧ ∃ item ∈ m.items, item.namedDefault? = some declared)) := by
  obtain ⟨item, hitem, hwhat⟩ := h
  rcases item.exports_cases hwhat with hsome | ⟨declared, rfl, hdeclared, hname⟩
  · left
    have hsome : (m.exportAlias? name).isSome := List.findSome?_isSome_iff.mpr ⟨item, hitem, hsome⟩
    obtain ⟨found, hfound⟩ := Option.isSome_iff_exists.mp hsome
    rw [hfound, hm.exports name found what (Module.exports_of_exportAlias? hfound) ⟨item, hitem, hwhat⟩]
  · right
    refine ⟨declared, rfl, List.findSome?_isSome_iff.mpr ⟨item, hitem, hdeclared⟩, ?_⟩
    exact hname.imp_right fun hdefault => ⟨hdefault.1, item, hitem, hdefault.2⟩

end ServiceStubs.Source

namespace ServiceStubs.Resolution

open Source Relation

variable {library : Library} {m target : Module} {e x specifier : String} {origin : Origin}
  {what : ExportAlias} {loc : Location} {n steps : Nat}

/-! ## The meaning of exports -/

/-- A chain of exports leads from an exported name to a declaration. A name that a module does not list can
be exported by one of the modules that it exports as a whole, but a default is not. -/
inductive LeadsTo (library : Library) : Nat → Module → String → Location → Prop where
  | own {m : Module} {e x : String} (hexport : m.Exports e (.here x)) (hdeclared : m.Declares x) :
      LeadsTo library 0 m e ⟨m, x⟩
  | imported {n : Nat} {m target : Module} {e x : String} {origin : Origin} {loc : Location}
      (hexport : m.Exports e (.here x)) (himport : m.Imports x origin)
      (hload : library.load? m origin.specifier = .ok (some target))
      (h : LeadsTo library n target origin.name loc) : LeadsTo library (n + 1) m e loc
  | elsewhere {n : Nat} {m target : Module} {e : String} {origin : Origin} {loc : Location}
      (hexport : m.Exports e (.elsewhere origin))
      (hload : library.load? m origin.specifier = .ok (some target))
      (h : LeadsTo library n target origin.name loc) : LeadsTo library (n + 1) m e loc
  | all {n : Nat} {m target : Module} {e specifier : String} {loc : Location}
      (hlisted : ∀ what, ¬m.Exports e what) (hdefault : e ≠ "default")
      (hspecifier : specifier ∈ m.exportedAll) (hload : library.load? m specifier = .ok (some target))
      (h : LeadsTo library n target e loc) : LeadsTo library (n + 1) m e loc

/-- An exported name stands for a declaration if all chains from the name lead to this declaration, and one
does. -/
structure Designates (library : Library) (m : Module) (e : String) (loc : Location) : Prop where
  leads : ∃ n, LeadsTo library n m e loc
  only : ∀ n loc', LeadsTo library n m e loc' → loc' = loc

theorem LeadsTo.declares (h : LeadsTo library n m e loc) : loc.module.Declares loc.name := by
  induction h with
  | own _ hdeclared => exact hdeclared
  | imported _ _ _ _ ih => exact ih
  | elsewhere _ _ _ ih => exact ih
  | all _ _ _ _ _ ih => exact ih

/-! ## The way of the search -/

/-- From one module and name the search goes on to another, by a name that is imported and exported, by a
name of another module, or by all that another module exports. -/
inductive GoesTo (library : Library) : Module × String → Module × String → Prop where
  | imported {m target : Module} {e x : String} {origin : Origin} (hexport : m.Exports e (.here x))
      (himport : m.Imports x origin) (hload : library.load? m origin.specifier = .ok (some target)) :
      GoesTo library (m, e) (target, origin.name)
  | elsewhere {m target : Module} {e : String} {origin : Origin} (hexport : m.Exports e (.elsewhere origin))
      (hload : library.load? m origin.specifier = .ok (some target)) :
      GoesTo library (m, e) (target, origin.name)
  | all {m target : Module} {e specifier : String} (hlisted : ∀ what, ¬m.Exports e what)
      (hspecifier : specifier ∈ m.exportedAll) (hload : library.load? m specifier = .ok (some target)) :
      GoesTo library (m, e) (target, e)

/-- The module has a meaning where it is asked for the name: the modules that it imports from or exports
from can be read if they are there, and it has a default if it is asked for one. -/
structure Linked (library : Library) (m : Module) (e : String) : Prop where
  wellFormed : m.WellFormed
  imports : ∀ name origin, m.Imports name origin → ∃ target?, library.load? m origin.specifier = .ok target?
  exports : ∀ name origin, m.Exports name (.elsewhere origin) →
    ∃ target?, library.load? m origin.specifier = .ok target?
  all : ∀ specifier ∈ m.exportedAll, ∃ target?, library.load? m specifier = .ok target?
  default : e = "default" → ∃ what, m.Exports e what

/-- The module shows the search what it exports under the name: a declaration of this name is the exported
one, and no default declaration has a name of its own. -/
structure Undisturbed (m : Module) (e : String) : Prop where
  exported : m.Declares e → m.Exports e (.here e)
  unnamed : e = "default" → ∀ item ∈ m.items, item.namedDefault? = none

/-- Wherever the search goes, the modules have a meaning and show what they export. -/
def Clear (library : Library) (m : Module) (e : String) : Prop :=
  ∀ m' e', ReflTransGen (GoesTo library) (m, e) (m', e') → Linked library m' e' ∧ Undisturbed m' e'

theorem Clear.linked (h : Clear library m e) : Linked library m e := (h m e .refl).1

theorem Clear.undisturbed (h : Clear library m e) : Undisturbed m e := (h m e .refl).2

theorem Clear.next {m' : Module} {e' : String} (h : Clear library m e)
    (hstep : GoesTo library (m, e) (m', e')) : Clear library m' e' :=
  fun m'' e'' hsteps => h m'' e'' (.head hstep hsteps)

/-- An exported name that is not declared stands in the table that is searched. -/
theorem Clear.exportAlias? (h : Clear library m e) (hexport : m.Exports e what) (hdeclared : ¬m.Declares e) :
    m.exportAlias? e = some what := by
  rcases hexport.cases h.linked.wellFormed with
    halias | ⟨declared, rfl, hdeclares, rfl | ⟨hdefault, item, hitem, hnamed⟩⟩
  · exact halias
  · exact absurd hdeclares hdeclared
  · rw [h.undisturbed.unnamed hdefault item hitem] at hnamed
    cases hnamed

/-- A name that is declared stands for itself. -/
theorem Clear.eq_here (h : Clear library m e) (hexport : m.Exports e what) (hdeclared : m.Declares e) :
    what = .here e :=
  h.linked.wellFormed.exports e what (.here e) hexport (h.undisturbed.exported hdeclared)

/-! ## One step of the search -/

theorem locateExport_of_declares (h : m.Declares e) (steps : Nat) :
    locateExport library (steps + 1) m e = .ok (some ⟨m, e⟩) := by
  rw [locateExport]
  exact if_pos h

/-- One step of the search for a name that a module does not declare. -/
theorem locateExport_succ (h : ¬m.Declares e) :
    locateExport library (steps + 1) m e =
      match m.exportAlias? e with
      | some (.here localName) =>
        locateWith library (fun target name =>
          match steps with
          | 0 => .ok none
          | steps + 1 => locateExport library steps target name) m localName
      | some (.elsewhere origin) =>
        inModule library m origin.specifier fun target => locateExport library steps target origin.name
      | none =>
        firstFound (fun specifier =>
          inModule library m specifier fun target => locateExport library steps target e)
          m.exportedAll := by
  rw [locateExport]
  exact if_neg h

theorem locateWith_of_declares {search : Module → String → Except Error (Option Location)} {name : String}
    (h : m.Declares name) : locateWith library search m name = .ok (some ⟨m, name⟩) :=
  if_pos h

theorem locateWith_of_imports {search : Module → String → Except Error (Option Location)} {name : String}
    (hm : m.WellFormed) (h : m.Imports name origin) :
    locateWith library search m name =
      inModule library m origin.specifier fun target => search target origin.name := by
  unfold locateWith
  refine (if_neg (hm.apart name origin h)).trans ?_
  rw [hm.importOf? h]

theorem locateWith_of_unknown {search : Module → String → Except Error (Option Location)} {name : String}
    (hdeclared : ¬m.Declares name) (himport : m.importOf? name = none) :
    locateWith library search m name = .ok none := by
  unfold locateWith
  refine (if_neg hdeclared).trans ?_
  rw [himport]

/-! ## The search and the chains -/

/-- What a search answers is no failure, and to what it has found there is a chain from the name. -/
def Sound (library : Library) (m : Module) (e : String) (answer : Except Error (Option Location)) : Prop :=
  ∃ found?, answer = .ok found? ∧ ∀ loc, found? = some loc → ∃ n, LeadsTo library n m e loc

theorem sound_none : Sound library m e (.ok none) :=
  ⟨none, rfl, by simp⟩

theorem LeadsTo.sound (h : LeadsTo library n m e loc) : Sound library m e (.ok (some loc)) := by
  refine ⟨some loc, rfl, ?_⟩
  rintro _ ⟨⟩
  exact ⟨n, h⟩

/-- What is sound one export further on is sound here. -/
theorem Sound.back {e' : String} {answer : Except Error (Option Location)}
    (h : Sound library target e' answer)
    (hstep : ∀ {n loc}, LeadsTo library n target e' loc → LeadsTo library (n + 1) m e loc) :
    Sound library m e answer := by
  obtain ⟨found?, hanswer, hleads⟩ := h
  refine ⟨found?, hanswer, fun loc hloc => ?_⟩
  obtain ⟨n, hn⟩ := hleads loc hloc
  exact ⟨n + 1, hstep hn⟩

/-- A module that can be read if it is there is left out if it is not. -/
theorem sound_inModule {search : Module → Except Error (Option Location)}
    (h : ∃ target?, library.load? m specifier = .ok target?)
    (hsearch : ∀ target, library.load? m specifier = .ok (some target) → Sound library m e (search target)) :
    Sound library m e (inModule library m specifier search) := by
  obtain ⟨target?, hload⟩ := h
  cases target? with
  | none =>
    unfold inModule
    rw [hload]
    exact sound_none
  | some target =>
    rw [inModule_of_load hload]
    exact hsearch target hload

theorem sound_firstFound {α : Type} {search : α → Except Error (Option Location)} {l : List α}
    (h : ∀ a ∈ l, Sound library m e (search a)) : Sound library m e (firstFound search l) := by
  obtain ⟨found?, hfound?⟩ := firstFound_isOk fun a ha => (h a ha).imp fun _ hanswer => hanswer.1
  refine ⟨found?, hfound?, ?_⟩
  rintro loc rfl
  obtain ⟨a, ha, hsearch⟩ := mem_of_firstFound hfound?
  obtain ⟨_, hanswer, hleads⟩ := h a ha
  rw [hsearch] at hanswer
  cases hanswer
  exact hleads loc rfl

/-- The search does not fail, and to what it finds there is a chain of exports. -/
theorem locateExport_sound (hclear : Clear library m e) (steps : Nat) :
    Sound library m e (locateExport library steps m e) := by
  -- A name that is imported and exported uses up two steps, so that the bound is needed for all smaller ones.
  induction steps using Nat.strongRecOn generalizing m e with
  | ind steps ih =>
  cases steps with
  | zero => exact sound_none
  | succ steps =>
    by_cases hdeclared : m.Declares e
    · rw [locateExport_of_declares hdeclared]
      exact (LeadsTo.own (hclear.undisturbed.exported hdeclared) hdeclared).sound
    · rw [locateExport_succ hdeclared]
      rcases halias : m.exportAlias? e with _ | (x | origin)
      · have hlisted : ∀ what, ¬m.Exports e what := by
          intro what hexport
          rw [hclear.exportAlias? hexport hdeclared] at halias
          cases halias
        -- No default is asked for, since a module that is asked for one lists it.
        have hdefault : e ≠ "default" := by
          intro hdefault
          obtain ⟨what, hexport⟩ := hclear.linked.default hdefault
          exact hlisted what hexport
        refine sound_firstFound fun specifier hspecifier => ?_
        refine sound_inModule (hclear.linked.all specifier hspecifier) fun target hload => ?_
        exact (ih steps (by omega) (hclear.next (.all hlisted hspecifier hload))).back
          (.all hlisted hdefault hspecifier hload)
      · have hexport := Module.exports_of_exportAlias? halias
        dsimp only
        by_cases hx : m.Declares x
        · rw [locateWith_of_declares hx]
          exact (LeadsTo.own hexport hx).sound
        · rcases himport : m.importOf? x with _ | origin
          · rw [locateWith_of_unknown hx himport]
            exact sound_none
          · have himport := Module.imports_of_importOf? himport
            rw [locateWith_of_imports hclear.linked.wellFormed himport]
            refine sound_inModule (hclear.linked.imports x origin himport) fun target hload => ?_
            cases steps with
            | zero => exact sound_none
            | succ steps =>
              exact (ih steps (by omega) (hclear.next (.imported hexport himport hload))).back
                (.imported hexport himport hload)
      · have hexport := Module.exports_of_exportAlias? halias
        refine sound_inModule (hclear.linked.exports e origin hexport) fun target hload => ?_
        exact (ih steps (by omega) (hclear.next (.elsewhere hexport hload))).back (.elsewhere hexport hload)

/-- Where there is a chain of exports the search finds something, with two steps for each export. -/
theorem locateExport_complete (h : LeadsTo library n m e loc) (hclear : Clear library m e)
    (hsteps : 2 * n + 1 ≤ steps) : ∃ found, locateExport library steps m e = .ok (some found) := by
  induction h generalizing steps with
  | @own m e x hexport hdeclared =>
    obtain ⟨steps, rfl⟩ := Nat.exists_eq_add_of_le' hsteps
    by_cases hsame : m.Declares e
    · exact ⟨_, locateExport_of_declares hsame steps⟩
    · rw [locateExport_succ hsame, hclear.exportAlias? hexport hsame]
      exact ⟨_, locateWith_of_declares hdeclared⟩
  | @imported n m target e x origin loc hexport himport hload h ih =>
    obtain ⟨steps, rfl⟩ := Nat.exists_eq_add_of_le' (show 2 ≤ steps by omega)
    -- A declaration of this name would be what is exported, and it is not imported then.
    have hsame : ¬m.Declares e := by
      intro hsame
      cases hclear.eq_here hexport hsame
      exact hclear.linked.wellFormed.apart e origin himport hsame
    rw [locateExport_succ hsame, hclear.exportAlias? hexport hsame]
    dsimp only
    rw [locateWith_of_imports hclear.linked.wellFormed himport, inModule_of_load hload]
    exact ih (hclear.next (.imported hexport himport hload)) (by omega)
  | @elsewhere n m target e origin loc hexport hload h ih =>
    obtain ⟨steps, rfl⟩ := Nat.exists_eq_add_of_le' (show 1 ≤ steps by omega)
    have hsame : ¬m.Declares e := by
      intro hsame
      cases hclear.eq_here hexport hsame
    rw [locateExport_succ hsame, hclear.exportAlias? hexport hsame]
    dsimp only
    rw [inModule_of_load hload]
    exact ih (hclear.next (.elsewhere hexport hload)) (by omega)
  | @all n m target e specifier loc hlisted hdefault hspecifier hload h ih =>
    obtain ⟨steps, rfl⟩ := Nat.exists_eq_add_of_le' (show 1 ≤ steps by omega)
    have hsame : ¬m.Declares e := fun hsame => hlisted _ (hclear.undisturbed.exported hsame)
    have halias : m.exportAlias? e = none :=
      Option.eq_none_iff_forall_ne_some.mpr fun what hwhat =>
        hlisted what (Module.exports_of_exportAlias? hwhat)
    rw [locateExport_succ hsame, halias]
    have hrest : 2 * n + 1 ≤ steps := by omega
    obtain ⟨found, hfound⟩ := ih (hclear.next (.all hlisted hspecifier hload)) hrest
    refine firstFound_eq_some ?_ hspecifier (b := found) ?_
    · -- Modules that are searched before do not fail, whatever they answer.
      intro other hother
      obtain ⟨found?, hfound?, -⟩ := sound_inModule (hclear.linked.all other hother) fun target hload =>
        (locateExport_sound (hclear.next (.all hlisted hother hload)) steps).back
          (.all hlisted hdefault hother hload)
      exact ⟨found?, hfound?⟩
    · rw [inModule_of_load hload, hfound]

/-- A name that a module imports. If the module that it comes from exports it, over a chain of at most
fifteen exports, then the declaration that it stands for is found, provided that all modules on the way have
a meaning and show what they export. -/
theorem locate_designated {name : String} (hm : m.WellFormed) (himport : m.Imports name origin)
    (hload : library.load? m origin.specifier = .ok (some target))
    (h : Designates library target origin.name loc)
    (hchain : ∃ n ≤ 15, LeadsTo library n target origin.name loc)
    (hclear : Clear library target origin.name) :
    locate library m name = .ok (some loc) ∧ loc.module.Declares loc.name := by
  obtain ⟨n, hn, hleads⟩ := hchain
  refine ⟨?_, hleads.declares⟩
  unfold locate
  rw [locateWith_of_imports hm himport, inModule_of_load hload]
  have hsteps : 2 * n + 1 ≤ longestChain := by
    unfold longestChain
    omega
  obtain ⟨found, hfound⟩ := locateExport_complete hleads hclear hsteps
  obtain ⟨found?, hfound?, hsound⟩ := locateExport_sound hclear longestChain
  rw [hfound] at hfound?
  cases hfound?
  obtain ⟨n', hleads'⟩ := hsound found rfl
  rw [hfound, h.only n' found hleads']

/-! ## Modules that export each other -/

/-- `export * from "./b"; export * from "./c"` -/
def moduleA : Module := ⟨"a.ts", .typeScript, [.exportedAll "./b", .exportedAll "./c"]⟩

/-- `export * from "./a"` -/
def moduleB : Module := ⟨"b.ts", .typeScript, [.exportedAll "./a"]⟩

/-- `interface Q {} export { Q as P }` -/
def moduleC : Module :=
  ⟨"c.ts", .typeScript, [.definition (.interface ⟨"Q", [], [], []⟩) none, .exportedNames [⟨"Q", "P"⟩] none]⟩

/-- `import { P } from "./a"` -/
def importingModule : Module := ⟨"s.ts", .typeScript, [.imports [⟨"P", "P"⟩] "./a"]⟩

/-- The library of the modules that export each other. -/
def exportingLibrary : Library :=
  .ofModules [("a.ts", .ok moduleA), ("b.ts", .ok moduleB), ("c.ts", .ok moduleC)]

/-- The module is one of those that export each other. -/
def Exporting (m : Module) : Prop :=
  m = moduleA ∨ m = moduleB ∨ m = moduleC

theorem Exporting.not_imports {name : String} (h : Exporting m) : ¬m.Imports name origin := by
  rcases h with rfl | rfl | rfl <;> simp [Module.Imports, moduleA, moduleB, moduleC, Item.imported]

theorem Exporting.exports (h : Exporting m) (hexport : m.Exports e what) :
    m = moduleC ∧ e = "P" ∧ what = .here "Q" := by
  rcases h with rfl | rfl | rfl
  · simp [Module.Exports, moduleA, Item.exports] at hexport
  · simp [Module.Exports, moduleB, Item.exports] at hexport
  · simpa [Module.Exports, moduleC, Item.exports] using hexport

theorem Exporting.load (h : Exporting m) (hspecifier : specifier ∈ m.exportedAll) :
    ∃ target, exportingLibrary.load? m specifier = .ok (some target) ∧ Exporting target := by
  rcases h with rfl | rfl | rfl
  · obtain rfl | rfl : specifier = "./b" ∨ specifier = "./c" := by
      simpa [moduleA, Module.exportedAll] using hspecifier
    · exact ⟨moduleB, rfl, .inr (.inl rfl)⟩
    · exact ⟨moduleC, rfl, .inr (.inr rfl)⟩
  · obtain rfl : specifier = "./a" := by simpa [moduleB, Module.exportedAll] using hspecifier
    exact ⟨moduleA, rfl, .inl rfl⟩
  · simp [moduleC, Module.exportedAll] at hspecifier

theorem Exporting.goesTo {q : Module × String} (h : Exporting m) (hstep : GoesTo exportingLibrary (m, e) q) :
    Exporting q.1 ∧ q.2 = e := by
  cases hstep with
  | imported hexport himport hload => exact absurd himport h.not_imports
  | elsewhere hexport hload => cases (h.exports hexport).2.2
  | all hlisted hspecifier hload =>
    obtain ⟨target, hload', htarget⟩ := h.load hspecifier
    rw [hload] at hload'
    cases hload'
    exact ⟨htarget, rfl⟩

theorem Exporting.clear (h : Exporting m) : Clear exportingLibrary m "P" := by
  intro m' e' hsteps
  have hall : Exporting m' ∧ e' = "P" := by
    refine ReflTransGen.rec (motive := fun q _ => Exporting q.1 ∧ q.2 = "P") ⟨h, rfl⟩ ?_ hsteps
    rintro ⟨m₁, e₁⟩ q - hstep ⟨hm₁, rfl⟩
    exact hm₁.goesTo hstep
  obtain ⟨hm', rfl⟩ := hall
  refine ⟨⟨⟨?_, ?_, ?_⟩, ?_, ?_, ?_, ?_⟩, ?_, ?_⟩
  · intro name what what' hwhat hwhat'
    rw [(hm'.exports hwhat).2.2, (hm'.exports hwhat').2.2]
  · exact fun name origin origin' himport => absurd himport hm'.not_imports
  · exact fun name origin himport => absurd himport hm'.not_imports
  · exact fun name origin himport => absurd himport hm'.not_imports
  · exact fun name origin hexport => nomatch (hm'.exports hexport).2.2
  · intro specifier hspecifier
    obtain ⟨target, hload, -⟩ := hm'.load hspecifier
    exact ⟨some target, hload⟩
  · exact fun hdefault => absurd hdefault (by decide)
  · intro hdeclared
    rcases hm' with rfl | rfl | rfl <;> exact absurd hdeclared (by decide)
  · exact fun hdefault => absurd hdefault (by decide)

theorem Exporting.leadsTo (h : Exporting m) (hleads : LeadsTo exportingLibrary n m e loc) :
    loc = ⟨moduleC, "Q"⟩ := by
  induction hleads with
  | own hexport hdeclared =>
    obtain ⟨rfl, -, hx⟩ := h.exports hexport
    cases hx
    rfl
  | imported hexport himport hload hleads ih => exact absurd himport h.not_imports
  | elsewhere hexport hload hleads ih => cases (h.exports hexport).2.2
  | all hlisted hdefault hspecifier hload hleads ih =>
    exact ih (h.goesTo (.all hlisted hspecifier hload)).1

/-- The name is found behind two modules that export all of each other. -/
theorem locate_designated_behind_cycle :
    importingModule.Imports "P" ⟨"./a", "P"⟩ ∧
      locate exportingLibrary importingModule "P" = .ok (some ⟨moduleC, "Q"⟩) := by
  have himport : importingModule.Imports "P" ⟨"./a", "P"⟩ := by
    simp [Module.Imports, importingModule, Item.imported]
  have hm : importingModule.WellFormed :=
    ⟨by simp [Module.Exports, importingModule, Item.exports],
      by simp +contextual [Module.Imports, importingModule, Item.imported],
      by simp [Module.Imports, Module.Declares, importingModule, Item.imported, Module.definition?,
        Item.definition?]⟩
  have hlisted : ∀ what, ¬moduleA.Exports "P" what := by
    simp [Module.Exports, moduleA, Item.exports]
  have hspecifier : "./c" ∈ moduleA.exportedAll := by simp [moduleA, Module.exportedAll]
  have hexport : moduleC.Exports "P" (.here "Q") := by simp [Module.Exports, moduleC, Item.exports]
  have hleads : LeadsTo exportingLibrary 1 moduleA "P" ⟨moduleC, "Q"⟩ :=
    .all hlisted (by decide) hspecifier rfl (.own hexport (by decide))
  have hA : Exporting moduleA := .inl rfl
  have hdesignates : Designates exportingLibrary moduleA "P" ⟨moduleC, "Q"⟩ :=
    ⟨⟨1, hleads⟩, fun n loc' hleads' => hA.leadsTo hleads'⟩
  exact ⟨himport,
    (locate_designated hm himport rfl hdesignates ⟨1, by decide, hleads⟩ hA.clear).1⟩

/-! ## Modules that disturb the search -/

/-- `export default class Point {}` -/
def namedDefaultModule : Module :=
  ⟨"a.ts", .typeScript, [.exportedDefault (.classDefinition (some "Point") ⟨[], []⟩) none none]⟩

/-- `import Point from "./a"` -/
def importingDefaultModule : Module := ⟨"s.ts", .typeScript, [.imports [⟨"Point", "default"⟩] "./a"]⟩

/-- `interface P {} interface Q {} export { Q as P }` -/
def hidingModule : Module :=
  ⟨"a.ts", .typeScript,
    [.definition (.interface ⟨"P", [], [], []⟩) none, .definition (.interface ⟨"Q", [], [], []⟩) none,
      .exportedNames [⟨"Q", "P"⟩] none]⟩

/-- A name stands for a declaration of the module if it is exported for one. -/
theorem designates_own {declared : String} (hm : m.WellFormed) (hexport : m.Exports e (.here declared))
    (hdeclared : m.Declares declared) : Designates library m e ⟨m, declared⟩ := by
  refine ⟨⟨0, .own hexport hdeclared⟩, fun n loc' hleads => ?_⟩
  cases hleads with
  | own hexport' =>
    cases hm.exports _ _ _ hexport hexport'
    rfl
  | imported hexport' himport =>
    cases hm.exports _ _ _ hexport hexport'
    exact absurd hdeclared (hm.apart _ _ himport)
  | elsewhere hexport' => cases hm.exports _ _ _ hexport hexport'
  | all hlisted => exact absurd hexport (hlisted _)

/-- A default that has a name is not found, and a declaration that is not exported is found in the place of
the exported one. -/
theorem locate_not_designated :
    (∃ library loc, library.load? importingDefaultModule "./a" = .ok (some namedDefaultModule) ∧
        importingDefaultModule.Imports "Point" ⟨"./a", "default"⟩ ∧
        Designates library namedDefaultModule "default" loc ∧
        locate library importingDefaultModule "Point" = .ok none) ∧
      ∃ library loc found, library.load? importingModule "./a" = .ok (some hidingModule) ∧
        importingModule.Imports "P" ⟨"./a", "P"⟩ ∧
        Designates library hidingModule "P" loc ∧
        locate library importingModule "P" = .ok (some found) ∧ found.name ≠ loc.name := by
  -- Neither module exports a name twice, so that what an import means is not in doubt.
  have hnamed : namedDefaultModule.WellFormed :=
    ⟨by simp +contextual [Module.Exports, namedDefaultModule, Item.exports],
      by simp [Module.Imports, namedDefaultModule, Item.imported],
      by simp [Module.Imports, namedDefaultModule, Item.imported]⟩
  have hhiding : hidingModule.WellFormed :=
    ⟨by simp +contextual [Module.Exports, hidingModule, Item.exports],
      by simp [Module.Imports, hidingModule, Item.imported],
      by simp [Module.Imports, hidingModule, Item.imported]⟩
  have hpoint : namedDefaultModule.Exports "default" (.here "Point") := by
    simp [Module.Exports, namedDefaultModule, Item.exports]
  have hq : hidingModule.Exports "P" (.here "Q") := by simp [Module.Exports, hidingModule, Item.exports]
  refine ⟨⟨.ofModules [("a.ts", .ok namedDefaultModule)], _, rfl, ?_,
      designates_own hnamed hpoint (by decide), rfl⟩,
    ⟨.ofModules [("a.ts", .ok hidingModule)], _, ⟨hidingModule, "P"⟩, rfl, ?_,
      designates_own hhiding hq (by decide), rfl, by decide⟩⟩
  · simp [Module.Imports, importingDefaultModule, Item.imported]
  · simp [Module.Imports, importingModule, Item.imported]

end ServiceStubs.Resolution
