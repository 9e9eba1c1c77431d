import ServiceStubs.Error

/-!
# Why work on a project fails

A `Failure` tells what went wrong and, around it, what was being done. `Failure.message` is its text, from
the outside in.
-/

namespace ServiceStubs

/-- What was being done. -/
inductive Activity where
  | readingConfig (path : String)
  | inConfig (path : String)
  | clientEntry (path : String)
  | writingClients (target directory : String)
  | reading (path : String)
  | creating (path : String)
  | writing (path : String)
  | removing (path : String)
  | movingAside (path : String)
  | movingInto (path : String)
deriving DecidableEq, Repr

/-- The text for an activity. -/
def Activity.message : Activity → String
  | .readingConfig path => "reading config " ++ path
  | .inConfig path => "in config " ++ path
  | .clientEntry path => "sdk entry for " ++ path
  | .writingClients target directory => target ++ " sdk in " ++ directory
  | .reading path => "reading " ++ path
  | .creating path => "creating " ++ path
  | .writing path => "writing " ++ path
  | .removing path => "removing " ++ path
  | .movingAside path => "moving " ++ path ++ " aside"
  | .movingInto path => "moving output into " ++ path

/-- What went wrong. -/
inductive Failure where
  | error (error : Error)
  | invalidConfig
  | missingSchedule (job : String)
  | noDirectoryName (path : String)
  | unequalFlags (languages outputs : Nat)
  | failedInputs (count : Nat)
  /-- A file operation did not succeed. What is said about it is what was being done. -/
  | refused (activity : Activity)
  | during (activity : Activity) (inner : Failure)
deriving DecidableEq, Repr

/-- The text of a failure. -/
def Failure.message : Failure → String
  | .error e => e.message
  | .invalidConfig => "invalid rpcgen config"
  | .missingSchedule job => job ++ " is a cron job but has no cronString"
  | .noDirectoryName path => path ++ " has no directory name"
  | .unequalFlags languages outputs =>
    toString languages ++ " --language flags but " ++ toString outputs ++ " --output flags"
  | .failedInputs count => toString count ++ " of the inputs failed"
  | .refused activity => activity.message
  | .during activity inner => activity.message ++ ": " ++ inner.message

/-- A result in which failures tell what was being done. -/
def Failure.within {α : Type} (activity : Activity) : Except Failure α → Except Failure α
  | .ok a => .ok a
  | .error f => .error (.during activity f)

end ServiceStubs
