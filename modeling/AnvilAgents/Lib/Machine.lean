/-! Machines that take one enabled move at a time, and what holds of every state they reach. -/

/-- What each move does in a state, or nothing when the move is not enabled. -/
structure Machine (State Move : Type) where
  next : State → Move → Option State

namespace Machine

variable {State Move : Type}

/-- The states reached from an initial one by moves that all meet a condition. -/
inductive Reaches (m : Machine State Move) (init : State → Prop) (good : State → Move → Prop) :
    State → Prop
  | start {s : State} (initial : init s) : Reaches m init good s
  | step {s s' : State} {move : Move} (reached : Reaches m init good s) (meets : good s move)
      (stepped : m.next s move = some s') : Reaches m init good s'

/-- Play moves in order; a move that fails the check or is not enabled ends the play. -/
def play (m : Machine State Move) (check : State → Move → Bool) : List Move → State → Option State
  | [], s => some s
  | move :: moves, s => if check s move then (m.next s move).bind (m.play check moves) else none

variable {m : Machine State Move} {init : State → Prop} {good : State → Move → Prop} {s s' : State}

/-- A play whose moves pass a check that implies the condition stays among the reached states. -/
theorem Reaches.play {check : State → Move → Bool} {moves : List Move}
    (reached : m.Reaches init good s) (checked : ∀ s move, check s move = true → good s move)
    (played : m.play check moves s = some s') : m.Reaches init good s' := by
  -- Each played move is one step of the reachability relation.
  induction moves generalizing s with
  | nil =>
    cases played
    exact reached
  | cons move moves ih =>
    rw [Machine.play] at played
    split at played
    next passes =>
      obtain ⟨middle, stepped, rest⟩ := Option.bind_eq_some_iff.mp played
      exact ih (reached.step (checked _ _ passes) stepped) rest
    next => cases played

/-- What follows from what holds at the end of such a play is true of a reached state. -/
theorem Reaches.played {P Q : State → Prop} (check : State → Move → Bool) (moves : List Move)
    (reached : m.Reaches init good s) (checked : ∀ s move, check s move = true → good s move)
    (ends : ∃ s' ∈ m.play check moves s, P s') (so : ∀ s', m.Reaches init good s' → P s' → Q s') :
    ∃ s', m.Reaches init good s' ∧ Q s' := by
  obtain ⟨s', played, holds⟩ := ends
  have reached := reached.play checked played
  exact ⟨s', reached, so s' reached holds⟩

/-- The states that a given one leads to by moves that all meet a condition. -/
abbrev Leads (m : Machine State Move) (good : State → Move → Prop) (s : State) : State → Prop :=
  m.Reaches (· = s) good

theorem Reaches.leads (reached : m.Reaches init good s) (leads : m.Leads good s s') :
    m.Reaches init good s' := by
  induction leads with
  | start same => exact same ▸ reached
  | step _ meets stepped ih => exact ih.step meets stepped

theorem Reaches.mono {good' : State → Move → Prop} (weaker : ∀ s move, good s move → good' s move)
    (reached : m.Reaches init good s) : m.Reaches init good' s := by
  induction reached with
  | start initial => exact .start initial
  | step _ meets stepped ih => exact ih.step (weaker _ _ meets) stepped

/-- Whatever its moves met, the state is reachable. -/
theorem Reaches.unrestricted (reached : m.Reaches init good s) :
    m.Reaches init (fun _ _ => True) s :=
  reached.mono fun _ _ _ => trivial

theorem Reaches.invariant {I : State → Prop} (base : ∀ s, init s → I s)
    (keep : ∀ {s s' move}, m.Reaches init good s → I s → good s move → m.next s move = some s' → I s')
    (reached : m.Reaches init good s) : I s := by
  induction reached with
  | start initial => exact base _ initial
  | step before meets stepped ih => exact keep before ih meets stepped

end Machine
