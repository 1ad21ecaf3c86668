import AnvilAgents.Lib.Machine
import Mathlib.Logic.Function.Basic

/-! Programs that talk to a shared server one atomic call at a time, and their interleavings. -/

namespace Conc

open Function

/-- A program whose only effects are calls to a server, each answered by a reply of its own type. -/
inductive Prog (Call : Type) (Reply : Call → Type) (α : Type) where
  | ret (value : α)
  | fail (fault : String)
  | call (request : Call) (next : Reply request → Prog Call Reply α)

namespace Prog

variable {Call : Type} {Reply : Call → Type} {α β : Type}

/-- Sequencing; a failed program stops the whole computation. -/
def bind : Prog Call Reply α → (α → Prog Call Reply β) → Prog Call Reply β
  | ret value, rest => rest value
  | fail fault, _ => fail fault
  | call request next, rest => call request fun reply => (next reply).bind rest

instance : Monad (Prog Call Reply) where
  pure := ret
  bind := bind

/-- Issue one call and return its reply. -/
def ask (request : Call) : Prog Call Reply (Reply request) :=
  call request ret

/-- Run a program to its end with no other process interfering. -/
def run {State : Type} (serve : (c : Call) → State → Reply c × State) :
    Prog Call Reply α → State → Except String α × State
  | ret value, s => (.ok value, s)
  | fail fault, s => (.error fault, s)
  | call request next, s => (next (serve request s).1).run serve (serve request s).2

@[simp]
theorem run_pure {State : Type} (serve : (c : Call) → State → Reply c × State) (value : α)
    (s : State) : (pure value : Prog Call Reply α).run serve s = (.ok value, s) := rfl

@[simp]
theorem run_ask_bind {State : Type} (serve : (c : Call) → State → Reply c × State) (request : Call)
    (rest : Reply request → Prog Call Reply β) (s : State) :
    (ask request >>= rest).run serve s =
      (rest (serve request s).1).run serve (serve request s).2 := rfl

/-- Running a sequence runs its first part and continues from the value and the state it left. -/
theorem run_bind {State : Type} (serve : (c : Call) → State → Reply c × State)
    (p : Prog Call Reply α) (rest : α → Prog Call Reply β) (s : State) :
    (p >>= rest).run serve s =
      match p.run serve s with
      | (.ok value, s') => (rest value).run serve s'
      | (.error fault, s') => (.error fault, s') := by
  -- Induction on the program; only its leaves decide which continuation is taken.
  induction p generalizing s with
  | ret | fail => rfl
  | call request next ih => exact ih _ _

/-- Some replies lead the program to a call of this kind. -/
inductive CanCall (kind : Call → Prop) : Prog Call Reply α → Prop
  | now {request : Call} {next : Reply request → Prog Call Reply α} (calls : kind request) :
      CanCall kind (.call request next)
  | later {request : Call} {next : Reply request → Prog Call Reply α} (reply : Reply request)
      (calls : CanCall kind (next reply)) : CanCall kind (.call request next)

section Runs

variable {State : Type} {serve : (c : Call) → State → Reply c × State} {p : Prog Call Reply α}
  {rest : α → Prog Call Reply β} {s s' : State}

theorem run_bind_of_ok {value : α} (first : p.run serve s = (.ok value, s')) :
    (p >>= rest).run serve s = (rest value).run serve s' := by
  rw [run_bind, first]

theorem run_bind_of_error {fault : String} (first : p.run serve s = (.error fault, s')) :
    (p >>= rest).run serve s = (.error fault, s') := by
  rw [run_bind, first]

/-- A sequence that succeeded is two runs that succeeded, one after the other. -/
theorem run_bind_eq_ok {value : β} :
    (p >>= rest).run serve s = (.ok value, s') ↔
      ∃ first between, p.run serve s = (.ok first, between) ∧
        (rest first).run serve between = (.ok value, s') := by
  rw [run_bind]
  rcases p.run serve s with ⟨fault | first, between⟩
  · simp
  · constructor
    · intro second
      exact ⟨first, between, rfl, second⟩
    · rintro ⟨_, _, ⟨⟩, second⟩
      exact second

end Runs

end Prog

/-- One call of a pass together with the reply it got. -/
abbrev Event (Call : Type) (Reply : Call → Type) := (request : Call) × Reply request

/-- A pass in flight: the server state it began in, what it has done, and what is left to do. -/
structure Proc (Call : Type) (Reply : Call → Type) (State : Type) where
  began : State
  seen : List (Event Call Reply)
  code : Prog Call Reply Unit

/-- The server and the passes in flight, at most one for each process identity. -/
structure Config (Pid Call : Type) (Reply : Call → Type) (State : Type) where
  server : State
  procs : Pid → Option (Proc Call Reply State)

/-- What may happen next: a process makes one move, or the environment acts on the server. -/
inductive Move (Pid Act : Type) where
  | start (pid : Pid)
  | advance (pid : Pid)
  | stop (pid : Pid)
  | act (action : Act)

/-- A server, the program each process runs on every start, and the actions of the environment. -/
structure System (Pid Call : Type) (Reply : Call → Type) (State Act : Type) where
  serve : (c : Call) → State → Reply c × State
  program : Pid → Prog Call Reply Unit
  act : Act → State → Option State

namespace System

variable {Pid Call : Type} {Reply : Call → Type} {State Act : Type} [DecidableEq Pid]

/-- The configuration in which no pass is in flight. -/
def idle (s : State) : Config Pid Call Reply State :=
  ⟨s, fun _ => none⟩

/--
One atomic step.

A process stops when its pass returns, and also when its worker crashes between two calls.
-/
def next (sys : System Pid Call Reply State Act) (cfg : Config Pid Call Reply State) :
    Move Pid Act → Option (Config Pid Call Reply State)
  | .start pid =>
    match cfg.procs pid with
    | none => some { cfg with
        procs := update cfg.procs pid (some ⟨cfg.server, [], sys.program pid⟩) }
    | some _ => none
  | .advance pid =>
    match cfg.procs pid with
    | some ⟨began, seen, .call request rest⟩ =>
      let answer := sys.serve request cfg.server
      some ⟨answer.2, update cfg.procs pid
        (some ⟨began, seen ++ [⟨request, answer.1⟩], rest answer.1⟩)⟩
    | _ => none
  | .stop pid =>
    match cfg.procs pid with
    | none => none
    | some _ => some { cfg with procs := update cfg.procs pid none }
  | .act action => (sys.act action cfg.server).map fun s => { cfg with server := s }

/-- The machine that takes these steps. -/
abbrev machine (sys : System Pid Call Reply State Act) :
    Machine (Config Pid Call Reply State) (Move Pid Act) :=
  ⟨sys.next⟩

abbrev play (sys : System Pid Call Reply State Act) := sys.machine.play

abbrev Leads (sys : System Pid Call Reply State Act) := sys.machine.Leads

/-- The configurations reached from an initial server state by steps that all meet a condition. -/
abbrev Reaches (sys : System Pid Call Reply State Act) (init : State → Prop) :=
  sys.machine.Reaches fun cfg => ∃ s, init s ∧ cfg = idle s

theorem Reaches.idle {sys : System Pid Call Reply State Act} {init : State → Prop}
    {good : Config Pid Call Reply State → Move Pid Act → Prop} {s : State} (initial : init s) :
    sys.Reaches init good (idle s) :=
  .start ⟨s, initial, rfl⟩

end System

end Conc
