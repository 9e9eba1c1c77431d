import ServiceStubs.Service

/-!
# Declarations that clients need

A client needs the declarations that the signatures of its exposed methods mention, those that their
bodies mention, and so on. `reachableKeys` finds them breadth first; the search ends because every
declaration is opened once.
-/

namespace ServiceStubs

/-- The first declaration with a key. -/
def findDeclaration (table : List Declaration) (key : DeclKey) : Option Declaration :=
  table.find? fun d => d.key = key

theorem key_eq_of_findDeclaration {table : List Declaration} {key : DeclKey} {d : Declaration}
    (h : findDeclaration table key = some d) : d.key = key := by
  simpa using List.find?_some h

theorem mem_of_findDeclaration {table : List Declaration} {key : DeclKey} {d : Declaration}
    (h : findDeclaration table key = some d) : d ∈ table :=
  List.mem_of_find?_eq_some h

/-- The declarations of a table that have not been seen. -/
def unseen (table : List Declaration) (seen : List DeclKey) : List Declaration :=
  table.filter fun d => d.key ∉ seen

/-- Seeing one more key takes away the declarations of that key. -/
theorem unseen_append (table : List Declaration) (seen : List DeclKey) (key : DeclKey) :
    unseen table (seen ++ [key]) = (unseen table seen).filter fun d => d.key ≠ key := by
  simp [unseen, List.filter_filter, and_comm]

theorem unseen_length_le (table : List Declaration) (seen : List DeclKey) (key : DeclKey) :
    (unseen table (seen ++ [key])).length ≤ (unseen table seen).length := by
  rw [unseen_append]
  exact List.length_filter_le _ _

theorem unseen_length_lt {table : List Declaration} {seen : List DeclKey} {d : Declaration}
    (mem : d ∈ table) (new : d.key ∉ seen) :
    (unseen table (seen ++ [d.key])).length < (unseen table seen).length := by
  have unseen_d : d ∈ unseen table seen := List.mem_filter.2 ⟨mem, by simpa using new⟩
  rw [unseen_append]
  exact List.length_filter_lt_length_iff_exists.2 ⟨d, unseen_d, by simp⟩

/-- The keys seen once every key of the queue, and every key its declaration leads to, has been seen;
in the order in which they are first met. -/
def closeKeys (table : List Declaration) (seen : List DeclKey) :
    List DeclKey → List DeclKey
  | [] => seen
  | key :: queue =>
    if key ∈ seen then closeKeys table seen queue
    else
      match _h : findDeclaration table key with
      | some d => closeKeys table (seen ++ [key]) (queue ++ d.references.map TypeRef.key)
      | none => closeKeys table (seen ++ [key]) queue
termination_by queue => ((unseen table seen).length, queue.length)
decreasing_by
  · exact Prod.Lex.right _ (by simp)
  · refine Prod.Lex.left _ _ ?_
    have hk := key_eq_of_findDeclaration _h
    subst hk
    exact unseen_length_lt (mem_of_findDeclaration _h) ‹_›
  · rcases Nat.lt_or_eq_of_le (unseen_length_le table seen key) with lt | eq
    · exact Prod.Lex.left _ _ lt
    · rw [eq]
      exact Prod.Lex.right _ (by simp)

/-- The keys of everything the exposed methods of some services lead to, in order of discovery. -/
def reachableKeys (table : List Declaration) (services : List Service) : List DeclKey :=
  closeKeys table [] (services.flatMap fun s => s.exposedReferences.map TypeRef.key)

/-- The declarations of one service that its exposed methods lead to, in order of discovery. Of two
declarations with one key the later one counts. -/
def Service.reachableDeclarations (s : Service) : List Declaration :=
  let table := s.declarations.reverse
  (reachableKeys table [s]).filterMap (findDeclaration table)

end ServiceStubs
