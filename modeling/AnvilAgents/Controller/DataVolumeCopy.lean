import AnvilAgents.Controller.Naming

/-! The copies of data volumes: the two Jobs of a copy, and when it is marked as done. -/

namespace AnvilAgents.DataVolumeCopy

/-- The Job that serves the source, or receives into the destination. -/
inductive Role where
  | source
  | destination
  deriving DecidableEq

def Role.token : Role → String
  | .source => "vcopy-src"
  | .destination => "vcopy-dst"

/-- The name of a Job, from its role and the name of the copy. -/
def jobName (shortHash : String → String) (name : String) (role : Role) : String :=
  agentRunChildName shortHash [role.token, name]

/-- A Job: the claim that it mounts, and how many of its pods have ended in which way. -/
structure Job where
  claimName : String
  succeeded : Nat := 0
  failed : Nat := 0

/-- What the API server answers during a pass: the Jobs at each call, and the calls that fail. -/
structure Answers where
  jobs : Nat → String → Option Job
  fails : Nat → Bool

variable (answers : Answers)

/-- Find a Job or create it, with the calls from one on. -/
def ensureJob (call : Nat) (name claimName : String) : Option Job :=
  if answers.fails call then none
  else (answers.jobs call name).or <|
    if answers.fails (call + 1) then none
    else if (answers.jobs (call + 1) name).isNone then some { claimName }
    else if answers.fails (call + 2) then none
    else answers.jobs (call + 2) name

/-- Whether a pass over a copy of the two claims marks it as Succeeded. -/
def marksSucceeded (claims : Role → String) (shortHash : String → String) (name : String) : Bool :=
  match ensureJob answers 0 (jobName shortHash name .source) (claims .source),
    ensureJob answers 3 (jobName shortHash name .destination) (claims .destination) with
  | some sourceJob, some destJob => sourceJob.failed = 0 && destJob.failed = 0 &&
      0 < destJob.succeeded && 0 < sourceJob.succeeded
  | _, _ => false

end AnvilAgents.DataVolumeCopy
