import Mathlib.Data.List.Nodup
import Mathlib.Data.List.Pairwise
import Mathlib.Data.List.Perm.Basic
import ServiceStubs.Build

/-!
# Exported classes

A module lists the classes that it exports: first those that are exported where they are declared, then those
that are exported apart, in the order in which they are first named. This compares the list with the order of
the declarations.

* `Module.classesInOrder` are the exported classes in the order of their declarations;
* `exportedClasses_listed` describes the list, by what one more name adds to it;
* `Module.ShowsClasses` says when the list has the exported classes and nothing else, and
  `Module.OrdersClasses` when it has them in order;
* `exportedClasses_eq_iff` compares the list with the declarations, and the class that is picked with the first
  one;
* `exportedClasses_ne` are modules whose list is not in order, or misses a class.
-/

namespace ServiceStubs.Source

/-! ## Classes in order -/

/-- Whether the statement exports a name of the module apart from its declaration. -/
def Item.exportsApart (name : String) : Item → Bool
  | .exportedDefaultName localName => localName = name
  | .exportedNames names none => names.any fun n => n.localName = name
  | _ => false

/-- Whether the module exports a name apart from its declaration. -/
def Module.exportsApart (m : Module) (name : String) : Bool :=
  m.items.any (Item.exportsApart name)

/-- The class that the statement declares and exports. -/
def Item.inlineClass? (m : Module) : Item → Option ExportedClass
  | .exported (.classDefinition name body) docs innerDocs => some ⟨name, body, docs <|> innerDocs⟩
  | .exportedDefault (.classDefinition name body) docs innerDocs =>
    some ⟨name.getD m.defaultClassName, body, docs <|> innerDocs⟩
  | _ => none

/-- The class that the statement declares and another one exports. -/
def Item.apartClass? (m : Module) : Item → Option ExportedClass
  | .definition (.classDefinition name body) docs => if m.exportsApart name then some ⟨name, body, docs⟩ else none
  | _ => none

/-- The classes that are exported apart from their declarations, in the order of these. -/
def Module.classesExportedApart (m : Module) : List ExportedClass :=
  m.items.filterMap (Item.apartClass? m)

/-- The classes that the module declares and exports, in the order of their declarations. -/
def Module.classesInOrder (m : Module) : List ExportedClass :=
  m.items.filterMap fun item => (item.inlineClass? m).or (item.apartClass? m)

/-- The name under which the statement declares a class. -/
def Item.className? : Item → Option String
  | .definition (.classDefinition name _) _ => some name
  | .exported (.classDefinition name _) _ _ => some name
  | .exportedDefault (.classDefinition name _) _ _ => some (name.getD "default")
  | _ => none

/-- The names of the classes at the top of the module. -/
def Module.classNames (m : Module) : List String :=
  m.items.filterMap Item.className?

theorem mem_namesExportedApart {m : Module} {name : String} :
    name ∈ m.namesExportedApart ↔ m.exportsApart name := by
  unfold Module.namesExportedApart Module.exportsApart
  rw [List.mem_flatMap, List.any_eq_true]
  refine exists_congr fun item => and_congr_right fun _ => ?_
  match item with
  | .exportedDefaultName _ => simp [Item.exportsApart, eq_comm]
  | .exportedNames names none => simp [Item.exportsApart]
  | .exportedNames names (some _) | .imports .. | .definition .. | .exported .. | .exportedDefault ..
  | .exportedAll _ | .other => simp [Item.exportsApart]

theorem classesExportedInline_eq (m : Module) :
    m.classesExportedInline = m.items.filterMap (Item.inlineClass? m) := by
  unfold Module.classesExportedInline
  refine congrArg (m.items.filterMap ·) (funext fun item => ?_)
  match item with
  | .exported (.classDefinition ..) .. | .exported (.alias _) .. | .exported (.interface _) ..
  | .exported (.enumeration _) .. | .exportedDefault (.classDefinition ..) .. | .exportedDefault (.interface _) ..
  | .imports .. | .definition .. | .exportedDefaultName _ | .exportedNames .. | .exportedAll _ | .other => rfl

/-- No statement exports a class in both ways. -/
theorem Item.inlineClass?_eq_none {m : Module} {item : Item} {c : ExportedClass} (h : item.apartClass? m = some c) :
    item.inlineClass? m = none := by
  match item with
  | .definition .. => rfl
  | .imports .. | .exported .. | .exportedDefault .. | .exportedDefaultName _ | .exportedNames .. | .exportedAll _
  | .other => cases h

theorem mem_classesExportedApart {m : Module} {c : ExportedClass} :
    c ∈ m.classesExportedApart ↔
      .definition (.classDefinition c.name c.body) c.docs ∈ m.items ∧ m.exportsApart c.name := by
  unfold Module.classesExportedApart
  rw [List.mem_filterMap]
  constructor
  · rintro ⟨item, hitem, hclass⟩
    unfold Item.apartClass? at hclass
    split at hclass
    · split at hclass
      · rename_i hexports
        cases hclass
        exact ⟨hitem, hexports⟩
      · cases hclass
    · cases hclass
  · rintro ⟨hitem, hexports⟩
    exact ⟨_, hitem, by simp [Item.apartClass?, hexports]⟩

/-- Each class is exported in one of the two ways. -/
theorem classesInOrder_perm (m : Module) :
    m.classesInOrder.Perm (m.classesExportedInline ++ m.classesExportedApart) := by
  rw [classesExportedInline_eq]
  unfold Module.classesInOrder Module.classesExportedApart
  induction m.items with
  | nil => exact .nil
  | cons item rest ih =>
    rcases hinline : item.inlineClass? m with _ | c <;> rcases hapart : item.apartClass? m with _ | d
    · simpa [hinline, hapart] using ih
    · simpa [hinline, hapart] using (ih.cons d).trans List.perm_middle.symm
    · simpa [hinline, hapart] using ih
    · rw [Item.inlineClass?_eq_none hapart] at hinline
      cases hinline

/-! ## The list -/

/-- What the list has after the classes that are exported inline, when these names have been looked up. -/
structure Module.Listed (m : Module) (names : List String) (apart : List ExportedClass) : Prop where
  mem : ∀ c, c ∈ apart ↔
    c.name ∈ names ∧ (∀ d ∈ m.classesExportedInline, d.name ≠ c.name) ∧ m.classNamed? c.name = some c
  sorted : apart.Pairwise fun c d => names.idxOf c.name < names.idxOf d.name

theorem name_of_classNamed? {m : Module} {name : String} {c : ExportedClass} (h : m.classNamed? name = some c) :
    c.name = name := by
  unfold Module.classNamed? at h
  split at h
  · cases h
    rfl
  · cases h

section

variable {m : Module} {names : List String} {apart : List ExportedClass}

theorem Module.Listed.sorted_append (h : m.Listed names apart) (name : String) :
    apart.Pairwise fun c d => (names ++ [name]).idxOf c.name < (names ++ [name]).idxOf d.name := by
  refine h.sorted.imp_of_mem fun hc hd hlt => ?_
  rwa [List.idxOf_append_of_mem ((h.mem _).mp hc).1, List.idxOf_append_of_mem ((h.mem _).mp hd).1]

/-- A name whose class is listed under it or another name, or that has no class, adds nothing. -/
theorem Module.Listed.append_same (h : m.Listed names apart) {name : String}
    (hsame : ∀ c, (∀ d ∈ m.classesExportedInline, d.name ≠ name) → m.classNamed? name = some c → name ∈ names) :
    m.Listed (names ++ [name]) apart := by
  refine ⟨fun c => ?_, h.sorted_append name⟩
  rw [h.mem, List.mem_append, List.mem_singleton]
  refine ⟨fun ⟨hmem, hrest⟩ => ⟨.inl hmem, hrest⟩, fun ⟨hmem, hfree, hfound⟩ => ⟨?_, hfree, hfound⟩⟩
  rcases hmem with hmem | rfl
  · exact hmem
  · exact hsame c hfree hfound

/-- A new name adds its class. -/
theorem Module.Listed.append_new (h : m.Listed names apart) {c : ExportedClass}
    (hfound : m.classNamed? c.name = some c) (hfree : ∀ d ∈ m.classesExportedInline, d.name ≠ c.name)
    (hnew : ∀ d ∈ apart, d.name ≠ c.name) : m.Listed (names ++ [c.name]) (apart ++ [c]) := by
  refine ⟨fun d => ?_, ?_⟩
  · rw [List.mem_append, List.mem_singleton, h.mem, List.mem_append, List.mem_singleton]
    constructor
    · rintro (⟨hmem, hrest⟩ | rfl)
      · exact ⟨.inl hmem, hrest⟩
      · exact ⟨.inr rfl, hfree, hfound⟩
    · rintro ⟨hmem | hname, hfree', hd⟩
      · exact .inl ⟨hmem, hfree', hd⟩
      · rw [hname, hfound] at hd
        exact .inr (Option.some.inj hd).symm
  · -- The name has not been looked up before, or its class would be there.
    have hlast : c.name ∉ names := fun hmem => hnew c ((h.mem c).mpr ⟨hmem, hfree, hfound⟩) rfl
    refine List.pairwise_append.mpr ⟨h.sorted_append c.name, List.pairwise_singleton _ c, fun d hd e he => ?_⟩
    rw [List.mem_singleton] at he
    subst he
    have hmem := ((h.mem d).mp hd).1
    have hlt := List.idxOf_lt_length_of_mem hmem
    rw [List.idxOf_append_of_mem hmem, List.idxOf_append_of_notMem hlast]
    omega

/-- One more name adds its class, unless a class of this name is listed. -/
theorem Module.Listed.withClass (h : m.Listed names apart) (name : String) :
    ∃ apart', m.withClass (m.classesExportedInline ++ apart) name = m.classesExportedInline ++ apart' ∧
      m.Listed (names ++ [name]) apart' := by
  unfold Module.withClass
  split
  · rename_i hany
    obtain ⟨d, hd, hname⟩ := List.any_eq_true.mp hany
    rw [decide_eq_true_iff] at hname
    -- A class of this name is listed: it is exported inline, or it has been added for this very name before.
    refine ⟨apart, rfl, h.append_same fun c hfree hfound => ?_⟩
    rcases List.mem_append.mp hd with hd | hd
    · exact absurd hname (hfree d hd)
    · exact hname ▸ ((h.mem d).mp hd).1
  · rename_i hany
    have hnew : (∀ d ∈ m.classesExportedInline, d.name ≠ name) ∧ ∀ d ∈ apart, d.name ≠ name := by
      rw [← List.forall_mem_append]
      intro d hd hname
      exact hany (List.any_eq_true.mpr ⟨d, hd, decide_eq_true hname⟩)
    rcases hfound : m.classNamed? name with _ | c
    · refine ⟨apart, by simp, h.append_same fun c _ hc => ?_⟩
      rw [hfound] at hc
      cases hc
    · obtain rfl := name_of_classNamed? hfound
      exact ⟨apart ++ [c], by simp, h.append_new hfound hnew.1 hnew.2⟩

end

theorem exportedClasses_listed (m : Module) :
    ∃ apart, m.exportedClasses = m.classesExportedInline ++ apart ∧ m.Listed m.namesExportedApart apart := by
  have hfold : ∀ names looked apart, m.Listed looked apart →
      ∃ apart', names.foldl m.withClass (m.classesExportedInline ++ apart) = m.classesExportedInline ++ apart' ∧
        m.Listed (looked ++ names) apart' := by
    intro names
    induction names with
    | nil => exact fun looked apart h => ⟨apart, rfl, by rwa [List.append_nil]⟩
    | cons name rest ih =>
      intro looked apart h
      obtain ⟨apart', hadded, hlisted⟩ := h.withClass name
      obtain ⟨apart'', hall, hlisted'⟩ := ih (looked ++ [name]) apart' hlisted
      refine ⟨apart'', by rw [List.foldl_cons, hadded, hall], ?_⟩
      rwa [List.append_assoc, List.singleton_append] at hlisted'
  obtain ⟨apart, hall, hlisted⟩ := hfold m.namesExportedApart [] [] ⟨by simp, .nil⟩
  exact ⟨apart, by rwa [List.append_nil] at hall, hlisted⟩

/-! ## Names that stand for their classes -/

/-- The list has each class that is exported apart, and nothing else. -/
structure Module.ShowsClasses (m : Module) : Prop where
  /-- No alias, interface or enumeration of the same name is declared in front of the class. -/
  found : ∀ c ∈ m.classesExportedApart, (m.classNamed? c.name).isSome
  /-- No default class without a name goes by the name of the class. -/
  free : ∀ c ∈ m.classesExportedApart, ∀ d ∈ m.classesExportedInline, d.name ≠ c.name
  /-- A default class without a name is not exported once more as `default`. -/
  unnamed : m.exportsApart "default" → (m.classNamed? "default").isSome → ∃ c ∈ m.classesInOrder, c.name = "default"

theorem eq_of_className? {m : Module} (hnames : m.classNames.Nodup) {item item' : Item} {name : String}
    (hitem : item ∈ m.items) (hitem' : item' ∈ m.items) (h : item.className? = some name)
    (h' : item'.className? = some name) : item = item' := by
  let Same (a b : Item) : Prop := a.className? = some name → b.className? = some name → a = b
  have hsymm : Std.Symm Same := ⟨fun a b hab hb ha => (hab ha hb).symm⟩
  have hpairs : m.items.Pairwise Same :=
    (List.pairwise_filterMap.mp hnames).imp fun hne ha hb => absurd rfl (hne name ha name hb)
  exact hpairs.forall_of_forall (fun _ _ _ _ => rfl) hitem hitem' h h'

/-- What stands behind a name that is looked up is declared under it. -/
theorem exists_item_of_classNamed? {m : Module} {name : String} {c : ExportedClass}
    (h : m.classNamed? name = some c) :
    ∃ item ∈ m.items, item.className? = some name ∧
      item.definition? name = some ⟨.classDefinition name c.body, c.docs⟩ := by
  unfold Module.classNamed? at h
  split at h
  · rename_i name' body docs hfound
    cases h
    obtain ⟨item, hitem, hdefinition⟩ := List.exists_of_findSome?_eq_some hfound
    refine ⟨item, hitem, ?_⟩
    dsimp only
    -- Among the kinds of items only a class, alone or exported, is looked up as one.
    unfold Item.definition? at hdefinition ⊢
    split at hdefinition
    · split at hdefinition
      · rename_i found _ hname
        cases hdefinition
        obtain rfl : name' = name := hname
        exact ⟨rfl, if_pos rfl⟩
      · cases hdefinition
    · split at hdefinition
      · rename_i found _ _ hname
        cases hdefinition
        obtain rfl : name' = name := hname
        exact ⟨rfl, if_pos rfl⟩
      · cases hdefinition
    · split at hdefinition
      · rename_i hname
        cases hdefinition
        exact ⟨congrArg some hname, if_pos hname⟩
      · cases hdefinition
    · split at hdefinition
      · cases hdefinition
      · cases hdefinition
    · cases hdefinition
  · cases h

/-- If a name stands for a class, it stands for the one that is exported under it. -/
theorem classNamed?_of_mem {m : Module} (hnames : m.classNames.Nodup) {c : ExportedClass}
    (hc : c ∈ m.classesExportedApart) (hfound : (m.classNamed? c.name).isSome) : m.classNamed? c.name = some c := by
  obtain ⟨d, hd⟩ := Option.isSome_iff_exists.mp hfound
  obtain ⟨item, hitem, hname, hdefinition⟩ := exists_item_of_classNamed? hd
  have hplain := (mem_classesExportedApart.mp hc).1
  obtain rfl := eq_of_className? hnames hitem hplain hname rfl
  have hown : (Item.definition (.classDefinition c.name c.body) c.docs).definition? c.name =
      some ⟨.classDefinition c.name c.body, c.docs⟩ :=
    if_pos rfl
  rw [hown] at hdefinition
  injection hdefinition with hdefinition
  injection hdefinition with hbody hdocs
  injection hbody with _ hbody
  rw [hd]
  rcases c with ⟨name, body, docs⟩
  rcases d with ⟨name', body', docs'⟩
  obtain rfl : name' = name := name_of_classNamed? hd
  cases hbody
  cases hdocs
  rfl

/-- A class that a name stands for is one that is exported under this name, if the name is free. -/
theorem mem_of_classNamed? {m : Module} (hnames : m.classNames.Nodup) (hshows : m.ShowsClasses) {c : ExportedClass}
    (hexports : m.exportsApart c.name) (hfree : ∀ d ∈ m.classesExportedInline, d.name ≠ c.name)
    (hfound : m.classNamed? c.name = some c) : c ∈ m.classesExportedApart := by
  have hinline : ∀ {item d}, item ∈ m.items → Item.inlineClass? m item = some d → d.name ≠ c.name := by
    intro item d hitem hd
    refine hfree d ?_
    rw [classesExportedInline_eq]
    exact List.mem_filterMap.mpr ⟨item, hitem, hd⟩
  obtain ⟨item, hitem, hname, hdefinition⟩ := exists_item_of_classNamed? hfound
  unfold Item.className? at hname
  split at hname
  · obtain rfl := Option.some.inj hname
    have hown := hdefinition.symm.trans (if_pos rfl)
    injection hown with hown
    injection hown with hbody hdocs
    injection hbody with _ hbody
    rw [mem_classesExportedApart, hbody, hdocs]
    exact ⟨hitem, hexports⟩
  · obtain rfl := Option.some.inj hname
    have hne := hinline hitem rfl
    exact absurd rfl hne
  · rename_i className body docs innerDocs
    rcases className with _ | className
    · -- The default class has no name: then no other class is called `default`.
      have hdefault : "default" = c.name := Option.some.inj hname
      rw [← hdefault] at hexports hfound
      obtain ⟨d, hd, hdname⟩ := hshows.unnamed hexports (by rw [hfound]; rfl)
      rcases List.mem_append.mp ((classesInOrder_perm m).mem_iff.mp hd) with hd | hd
      · exact absurd (hdname.trans hdefault) (hfree d hd)
      · have hplain := (mem_classesExportedApart.mp hd).1
        rw [hdname] at hplain
        have hitems := eq_of_className? hnames hitem hplain rfl rfl
        cases hitems
    · obtain rfl : className = c.name := Option.some.inj hname
      have hne := hinline hitem rfl
      exact absurd rfl hne
  · cases hname

/-! ## The list and the declarations -/

theorem classesExportedApart_nodup {m : Module} (hnames : m.classNames.Nodup) : m.classesExportedApart.Nodup := by
  refine List.pairwise_filterMap.mpr ((List.pairwise_filterMap.mp hnames).imp fun hne c hc d hd => ?_)
  have hclass : ∀ {item : Item} {c : ExportedClass}, item.apartClass? m = some c → item.className? = some c.name := by
    intro item c h
    unfold Item.apartClass? at h
    split at h
    · split at h
      · cases h
        rfl
      · cases h
    · cases h
  rintro rfl
  exact hne _ (hclass hc) _ (hclass hd) rfl

theorem Module.Listed.nodup {m : Module} {names : List String} {apart : List ExportedClass}
    (h : m.Listed names apart) : apart.Nodup :=
  h.sorted.imp fun hlt heq => absurd (heq ▸ hlt) (Nat.lt_irrefl _)

/-- What the list has after the inline classes are the classes that are exported apart. -/
theorem Module.Listed.perm_iff {m : Module} (hnames : m.classNames.Nodup) {apart : List ExportedClass}
    (h : m.Listed m.namesExportedApart apart) : apart.Perm m.classesExportedApart ↔ m.ShowsClasses := by
  constructor
  · intro hperm
    refine ⟨fun c hc => ?_, fun c hc => ?_, fun hexports hfound => ?_⟩
    · rw [((h.mem c).mp (hperm.mem_iff.mpr hc)).2.2]
      rfl
    · exact ((h.mem c).mp (hperm.mem_iff.mpr hc)).2.1
    · obtain ⟨c, hc⟩ := Option.isSome_iff_exists.mp hfound
      have hname := name_of_classNamed? hc
      -- Either an inline class has the name, or the class is listed.
      by_cases hfree : ∀ d ∈ m.classesExportedInline, d.name ≠ "default"
      · have hlisted : c ∈ apart :=
          (h.mem c).mpr (hname ▸ ⟨mem_namesExportedApart.mpr hexports, hfree, hc⟩)
        exact ⟨c, (classesInOrder_perm m).mem_iff.mpr (List.mem_append_right _ (hperm.mem_iff.mp hlisted)), hname⟩
      · push Not at hfree
        obtain ⟨d, hd, hdname⟩ := hfree
        exact ⟨d, (classesInOrder_perm m).mem_iff.mpr (List.mem_append_left _ hd), hdname⟩
  · intro hshows
    rw [List.perm_ext_iff_of_nodup h.nodup (classesExportedApart_nodup hnames)]
    intro c
    rw [h.mem]
    constructor
    · rintro ⟨hexports, hfree, hfound⟩
      exact mem_of_classNamed? hnames hshows (mem_namesExportedApart.mp hexports) hfree hfound
    · intro hc
      exact ⟨mem_namesExportedApart.mpr (mem_classesExportedApart.mp hc).2, hshows.free c hc,
        classNamed?_of_mem hnames hc (hshows.found c hc)⟩

/-- The list has the exported classes in the order of their declarations. -/
structure Module.OrdersClasses (m : Module) : Prop where
  /-- The classes that are exported inline are declared before the others. -/
  inlineFirst : m.items.Pairwise fun item item' => item.apartClass? m = none ∨ item'.inlineClass? m = none
  /-- The others are first named in the order in which they are declared. -/
  named : m.classesExportedApart.Pairwise fun c d =>
    m.namesExportedApart.idxOf c.name < m.namesExportedApart.idxOf d.name

/-- The order of the declarations begins with the inline classes if these are declared first. -/
theorem filterMap_eq_append_iff {m : Module} {items : List Item}
    (hapart : (items.filterMap (Item.apartClass? m)).Disjoint (items.filterMap (Item.inlineClass? m)))
    (rest : List ExportedClass) :
    (items.filterMap fun item => (item.inlineClass? m).or (item.apartClass? m)) =
        items.filterMap (Item.inlineClass? m) ++ rest ↔
      items.filterMap (Item.apartClass? m) = rest ∧
        items.Pairwise fun item item' => item.apartClass? m = none ∨ item'.inlineClass? m = none := by
  induction items with
  | nil => simp [eq_comm]
  | cons item items ih =>
    have htail := List.sublist_cons_self item items
    have hrest := ih (List.disjoint_of_subset_left (htail.filterMap _).subset
      (List.disjoint_of_subset_right (htail.filterMap _).subset hapart))
    rw [List.pairwise_cons]
    rcases hclass : item.apartClass? m with _ | c
    · rcases hinline : item.inlineClass? m with _ | d
      · simpa [hclass, hinline] using hrest
      · simpa [hclass, hinline] using hrest
    · have hinline := Item.inlineClass?_eq_none hclass
      have hnone : (∀ item' ∈ items, item'.inlineClass? m = none) ↔ items.filterMap (Item.inlineClass? m) = [] :=
        List.filterMap_eq_nil_iff.symm
      rw [List.filterMap_cons_some hclass, List.filterMap_cons_none hinline] at hapart ⊢
      rw [List.filterMap_cons_some (b := c) (by rw [hinline, hclass]; rfl)]
      simp only [reduceCtorEq, false_or, hnone]
      rcases hfirst : items.filterMap (Item.inlineClass? m) with _ | ⟨d, others⟩
      · have hnever := List.filterMap_eq_nil_iff.mp hfirst
        have hsame : (items.filterMap fun item => (item.inlineClass? m).or (item.apartClass? m)) =
            items.filterMap (Item.apartClass? m) :=
          List.filterMap_congr fun item' hitem' => by rw [hnever item' hitem']; rfl
        have hpairs : items.Pairwise fun item item' => item.apartClass? m = none ∨ item'.inlineClass? m = none :=
          List.pairwise_of_forall_mem_list fun _ _ item' hitem' => .inr (hnever item' hitem')
        rw [hsame]
        simp [hpairs]
      · -- Here an inline class is declared later, and the orders differ at once.
        rw [hfirst] at hapart
        have hne : c ≠ d := fun heq => hapart (heq ▸ List.mem_cons_self) List.mem_cons_self
        simp [hne]

theorem Module.ShowsClasses.disjoint {m : Module} (h : m.ShowsClasses) :
    m.classesExportedApart.Disjoint m.classesExportedInline :=
  fun c hc hc' => h.free c hc c hc' rfl

theorem classesInOrder_eq_append_iff {m : Module} (h : m.classesExportedApart.Disjoint m.classesExportedInline)
    (rest : List ExportedClass) :
    m.classesInOrder = m.classesExportedInline ++ rest ↔
      m.classesExportedApart = rest ∧
        m.items.Pairwise fun item item' => item.apartClass? m = none ∨ item'.inlineClass? m = none := by
  rw [classesExportedInline_eq] at h ⊢
  exact filterMap_eq_append_iff h rest

theorem head?_classesExportedInline {m : Module} (h : m.classesExportedApart.Disjoint m.classesExportedInline)
    {c : ExportedClass} (hfirst : m.classesInOrder.head? = some c) (hc : c ∈ m.classesExportedInline) :
    m.classesExportedInline.head? = some c := by
  unfold Module.classesInOrder at hfirst
  rw [List.head?_filterMap, List.findSome?_eq_some_iff] at hfirst
  obtain ⟨front, item, back, hitems, hclass, hfront⟩ := hfirst
  rw [classesExportedInline_eq, List.head?_filterMap, List.findSome?_eq_some_iff]
  refine ⟨front, item, back, hitems, ?_, fun item' h' => (Option.or_eq_none_iff.mp (hfront item' h')).1⟩
  rcases Option.or_eq_some_iff.mp hclass with hinline | ⟨-, hapart⟩
  · exact hinline
  · have hmem : c ∈ m.classesExportedApart :=
      List.mem_filterMap.mpr ⟨item, by rw [hitems]; simp, hapart⟩
    exact absurd hc (h hmem)

/-- The list has its first class in front of all others: it is exported inline, or no class is and it is named
before the others. -/
def Module.Leads (m : Module) (c : ExportedClass) : Prop :=
  c ∈ m.classesExportedInline ∨
    m.classesExportedInline = [] ∧
      ∀ d ∈ m.classesExportedApart, m.namesExportedApart.idxOf c.name ≤ m.namesExportedApart.idxOf d.name

theorem exportedClasses_head?_iff {m : Module} (hnames : m.classNames.Nodup) (hshows : m.ShowsClasses) :
    m.exportedClasses.head? = m.classesInOrder.head? ↔ ∀ c, m.classesInOrder.head? = some c → m.Leads c := by
  obtain ⟨apart, hlist, hlisted⟩ := exportedClasses_listed m
  have hperm : apart.Perm m.classesExportedApart := (hlisted.perm_iff hnames).mpr hshows
  have horder := classesInOrder_perm m
  rw [hlist]
  -- Classes that are exported inline come first in the list, if there are any.
  by_cases hinline : m.classesExportedInline = []
  · have hall : m.classesInOrder = m.classesExportedApart := by
      have hnone : m.items.Pairwise fun item item' => item.apartClass? m = none ∨ item'.inlineClass? m = none := by
        rw [classesExportedInline_eq, List.filterMap_eq_nil_iff] at hinline
        exact List.pairwise_of_forall_mem_list fun _ _ item' hitem' => .inr (hinline item' hitem')
      rw [(classesInOrder_eq_append_iff hshows.disjoint _).mpr ⟨rfl, hnone⟩, hinline, List.nil_append]
    rw [hall, hinline, List.nil_append]
    constructor
    · intro hhead c hc
      refine .inr ⟨hinline, fun d hd => ?_⟩
      rw [← hhead] at hc
      obtain ⟨others, rfl⟩ := List.head?_eq_some_iff.mp hc
      rcases List.mem_cons.mp (hperm.mem_iff.mpr hd) with rfl | hd
      · exact Nat.le_refl _
      · exact Nat.le_of_lt (List.rel_of_pairwise_cons hlisted.sorted hd)
    · intro hleads
      rcases hhead : m.classesExportedApart with _ | ⟨c, others⟩
      · rw [hhead] at hperm
        rw [hperm.eq_nil]
      · have hc : c ∈ m.classesExportedApart := by simp [hhead]
        -- The class that comes first is named first, and the list is in the order of names.
        have hleast := (hleads c (by rw [hhead]; rfl)).resolve_left (by simp [hinline])
        rcases apart with _ | ⟨d, rest⟩
        · cases hperm.mem_iff.mpr hc
        · rcases List.mem_cons.mp (hperm.mem_iff.mpr hc) with rfl | hlater
          · rfl
          · have hlt := List.rel_of_pairwise_cons hlisted.sorted hlater
            have hle := hleast.2 d (hperm.mem_iff.mp List.mem_cons_self)
            omega
  · rw [List.head?_append_of_ne_nil _ hinline]
    constructor
    · intro hhead c hc
      exact .inl (List.mem_of_head? (hhead.trans hc))
    · intro hleads
      rcases hfirst : m.classesInOrder.head? with _ | c
      · rw [List.head?_eq_none_iff] at hfirst
        rw [hfirst, List.nil_perm, List.append_eq_nil_iff] at horder
        exact absurd horder.1 hinline
      · have hc := (hleads c hfirst).resolve_right fun h => hinline h.1
        exact head?_classesExportedInline hshows.disjoint hfirst hc

/-- The list has exactly the classes that the module declares and exports if each of them can be looked up under
its name; it has them in order if the statements come in order; and the class that is picked if none is asked for
is the first of them if nothing overtakes it. -/
theorem exportedClasses_eq_iff {m : Module} (hnames : m.classNames.Nodup) :
    (m.exportedClasses.Perm m.classesInOrder ↔ m.ShowsClasses) ∧
      (m.exportedClasses = m.classesInOrder ↔ m.ShowsClasses ∧ m.OrdersClasses) ∧
      (m.ShowsClasses → ∀ r : BuildRequest, r.className = none →
        (r.wantedClass? m = m.classesInOrder.head? ↔ ∀ c, m.classesInOrder.head? = some c → m.Leads c)) := by
  obtain ⟨apart, hlist, hlisted⟩ := exportedClasses_listed m
  have hperm : m.exportedClasses.Perm m.classesInOrder ↔ m.ShowsClasses := by
    rw [← hlisted.perm_iff hnames, hlist, (classesInOrder_perm m).congr_right, List.perm_append_left_iff]
  refine ⟨hperm, ?_, ?_⟩
  · constructor
    · intro heq
      have hshows := hperm.mp (List.Perm.of_eq heq)
      rw [hlist, eq_comm, classesInOrder_eq_append_iff hshows.disjoint] at heq
      exact ⟨hshows, heq.2, heq.1 ▸ hlisted.sorted⟩
    · rintro ⟨hshows, horders⟩
      -- Two lists with the same classes, both in the order in which these are named, are equal.
      have hsame : apart = m.classesExportedApart :=
        ((hlisted.perm_iff hnames).mpr hshows).eq_of_pairwise
          (fun _ _ _ _ hlt hgt => absurd (Nat.lt_trans hlt hgt) (Nat.lt_irrefl _)) hlisted.sorted horders.named
      rw [hlist, eq_comm, classesInOrder_eq_append_iff hshows.disjoint]
      exact ⟨hsame.symm, horders.inlineFirst⟩
  · intro hshows r hnone
    rw [← exportedClasses_head?_iff hnames hshows]
    unfold BuildRequest.wantedClass?
    rw [hnone]

/-- A module that exports a class inline and the next one apart. -/
def servingModule : Module :=
  { path := "s.ts"
    language := .typeScript
    items := [.exported (.classDefinition "A" ⟨[], []⟩) none none, .definition (.classDefinition "B" ⟨[], []⟩) none,
      .exportedNames [⟨"B", "B"⟩] none] }

/-- The list of this module is in order. -/
theorem exportedClasses_eq_iff_serving :
    servingModule.classNames.Nodup ∧ servingModule.exportedClasses = servingModule.classesInOrder := by
  have hnames : servingModule.classNames.Nodup := by decide
  have hshows : servingModule.ShowsClasses := ⟨by decide, by decide, by decide⟩
  have horders : servingModule.OrdersClasses := ⟨by decide, by decide⟩
  exact ⟨hnames, (exportedClasses_eq_iff hnames).2.1.mpr ⟨hshows, horders⟩⟩

/-- Of a file: the names of its classes, of those that it exports in order, and of those that it lists. -/
def classesOfFile (path text : String) : Option (List String × List String × List String) :=
  (Module.read path text).toOption.map fun m =>
    (m.classNames, m.classesInOrder.map (·.name), m.exportedClasses.map (·.name))

/-- A class that is exported apart comes after one that is declared later and exported inline, or named first; and
it is missing if an interface or the file goes by its name. -/
theorem exportedClasses_ne :
    classesOfFile "s.ts" "class A { a(): void {} }\nexport class B { b(): void {} }\nexport { A };" =
        some (["A", "B"], ["A", "B"], ["B", "A"]) ∧
      classesOfFile "s.ts" "class A { a(): void {} }\nclass B { b(): void {} }\nexport { B, A };" =
        some (["A", "B"], ["A", "B"], ["B", "A"]) ∧
      classesOfFile "s.ts" "interface A { x: string }\nclass A { a(): void {} }\nexport { A };" =
        some (["A"], ["A"], []) ∧
      classesOfFile "greeter.ts"
          "export default class { a(): void {} }\nclass Greeter { b(): void {} }\nexport { Greeter };" =
        some (["default", "Greeter"], ["Greeter", "Greeter"], ["Greeter"]) := by
  decide +kernel

end ServiceStubs.Source
