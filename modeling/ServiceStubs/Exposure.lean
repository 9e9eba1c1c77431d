/-!
# Who may call a method

A project says for each class, and inside a class for each method, whether it is called through the
generated clients, by plain HTTP requests, or by a scheduler. `ExposureMap.exposure` answers for one
method.
-/

namespace ServiceStubs

/-- How a deployed method is invoked. -/
inductive Exposure where
  /-- Called through the generated clients. -/
  | rpc
  /-- Receives HTTP requests as they come. -/
  | http
  /-- Runs on a schedule. -/
  | cron (schedule : String)
deriving DecidableEq, Repr

instance : Inhabited Exposure := ⟨.rpc⟩

/-- Whether generated clients have the method. -/
def Exposure.isCallable : Exposure → Bool
  | .rpc => true
  | _ => false

/-- The word for the kind of exposure. -/
def Exposure.label : Exposure → String
  | .rpc => "jsonrpc"
  | .http => "http"
  | .cron _ => "cron"

/-- The schedule of a scheduled method. -/
def Exposure.schedule? : Exposure → Option String
  | .cron schedule => some schedule
  | _ => none

/-- The exposure of a class: one kind for all methods, and exceptions by name. -/
structure ClassExposure where
  kind : Exposure
  methods : List (String × Exposure)
deriving DecidableEq, Repr

/-- The exposure of one method. A class that is not called through clients never gains methods that
are: an exception to the contrary is passed over. -/
def ClassExposure.method (c : ClassExposure) (name : String) : Exposure :=
  match c.methods.lookup name with
  | some override => if !c.kind.isCallable && override.isCallable then c.kind else override
  | none => c.kind

/-- The exposure of the classes of a project, by name. -/
structure ExposureMap where
  classes : List (String × ClassExposure)
deriving DecidableEq, Repr

/-- The map that says nothing about any class. -/
def ExposureMap.empty : ExposureMap := ⟨[]⟩

/-- The exposure of one class; classes that are not listed are called through clients. -/
def ExposureMap.ofClass (m : ExposureMap) (className : String) : ClassExposure :=
  (m.classes.lookup className).getD ⟨.rpc, []⟩

/-- The exposure of one method. -/
def ExposureMap.exposure (m : ExposureMap) (className methodName : String) : Exposure :=
  (m.ofClass className).method methodName

/-! ## Tables in order of their keys -/

/-- The table with `value` under `key`, in place of an earlier entry; keys stay in increasing
order. -/
def insertSorted {α : Type} (key : String) (value : α) : List (String × α) → List (String × α)
  | [] => [(key, value)]
  | (k, v) :: rest =>
    if key = k then (key, value) :: rest
    else if key < k then (key, value) :: (k, v) :: rest
    else (k, v) :: insertSorted key value rest

/-- A table in increasing order of its keys; of two entries with one key the later one stays. -/
def sortedTable {α : Type} (entries : List (String × α)) : List (String × α) :=
  entries.foldl (fun table e => insertSorted e.1 e.2 table) []

end ServiceStubs
