import AnvilAgents.Lib.Contract
import Mathlib.Logic.Relation

/-! One program among others: what it can return when the server changes between its calls. -/

namespace Conc

open Relation

variable {Call : Type} {Reply : Call → Type} {State α β : Type}

/-- The runs of a program to its value; before each of its calls, others may have acted. -/
inductive Prog.Returns (serve : (c : Call) → State → Reply c × State)
    (others : State → State → Prop) : Prog Call Reply α → State → α → State → Prop
  | ret {value : α} {s : State} : Returns serve others (.ret value) s value s
  | call {request : Call} {next : Reply request → Prog Call Reply α} {s between s' : State} {value : α}
      (acted : ReflTransGen others s between)
      (rest : Returns serve others (next (serve request between).1) (serve request between).2
        value s') :
      Returns serve others (.call request next) s value s'

namespace Prog

variable {serve : (c : Call) → State → Reply c × State} {others : State → State → Prop}
  {s s' : State}

theorem returns_pure {value result : α} :
    (pure value : Prog Call Reply α).Returns serve others s result s' ↔ result = value ∧ s' = s := by
  constructor
  · intro returns
    cases returns
    exact ⟨rfl, rfl⟩
  · rintro ⟨rfl, rfl⟩
    exact .ret

variable {result : α}

theorem not_returns_fail {fault : String} :
    ¬(fail fault : Prog Call Reply α).Returns serve others s result s' := nofun

theorem returns_ask {request : Call} {result : Reply request} :
    (ask request : Prog Call Reply _).Returns serve others s result s' ↔
      ∃ between, ReflTransGen others s between ∧ (result, s') = serve request between := by
  constructor
  · intro returns
    cases returns with
    | call acted rest =>
      cases rest
      exact ⟨_, acted, rfl⟩
  · rintro ⟨between, acted, served⟩
    refine .call acted ?_
    rw [← served]
    exact .ret

variable {p : Prog Call Reply α}

/-- A sequence returns what its second part returns after the first. -/
theorem returns_bind {rest : α → Prog Call Reply β} {result : β} :
    (p >>= rest).Returns serve others s result s' ↔
      ∃ first between, p.Returns serve others s first between ∧
        (rest first).Returns serve others between result s' := by
  -- Follow the calls of the first part; its leaf hands over to the rest.
  induction p generalizing s with
  | ret value =>
    constructor
    · exact fun returns => ⟨value, s, .ret, returns⟩
    · rintro ⟨first, between, ⟨⟩, returns⟩
      exact returns
  | fail fault =>
    constructor
    · exact fun returns => (not_returns_fail returns).elim
    · rintro ⟨_, _, ⟨⟩, _⟩
  | call request next ih =>
    constructor
    · intro returns
      cases returns with
      | call acted after =>
        obtain ⟨first, between, before, after⟩ := (ih _).mp after
        exact ⟨first, between, .call acted before, after⟩
    · rintro ⟨first, between, before, after⟩
      cases before with
      | call acted before => exact .call acted ((ih _).mpr ⟨first, between, before, after⟩)

/-- A check that lets the program go on. -/
theorem returns_check {cond : Prop} [Decidable cond] {fault : String} {rest : Prog Call Reply α}
    (returns : (if cond then fail fault else rest).Returns serve others s result s') :
    ¬cond ∧ rest.Returns serve others s result s' := by
  split at returns
  next => exact (not_returns_fail returns).elim
  next fails => exact ⟨fails, returns⟩

/-- A run with nobody else acting is one of the runs. -/
theorem returns_of_run (ran : p.run serve s = (.ok result, s')) :
    p.Returns serve others s result s' := by
  induction p generalizing s with
  | ret value =>
    cases ran
    exact .ret
  | fail fault => cases ran
  | call request next ih => exact .call .refl (ih _ ran)

end Prog

/-- Calls, each with the state in which the server answered it. -/
abbrev Calls (Call State : Type) := List (Call × State)

/--
The calls of a program, up to where it ends or is cut off.

Before each of them, others may have acted.
-/
inductive Prog.Makes (serve : (c : Call) → State → Reply c × State)
    (others : State → State → Prop) : Prog Call Reply α → State → Calls Call State → Prop
  | stop {p : Prog Call Reply α} {s : State} : Makes serve others p s []
  | call {request : Call} {next : Reply request → Prog Call Reply α} {s between : State}
      {rest : Calls Call State} (acted : ReflTransGen others s between)
      (later : Makes serve others (next (serve request between).1) (serve request between).2 rest) :
      Makes serve others (.call request next) s ((request, between) :: rest)

/-- The calls with their replies. -/
def Calls.events (serve : (c : Call) → State → Reply c × State) (calls : Calls Call State) :
    List (Event Call Reply) :=
  calls.map fun call => ⟨call.1, (serve call.1 call.2).1⟩

/-- The calls of a program when someone acts before each of them in a given way. -/
def Prog.script (serve : (c : Call) → State → Reply c × State) (meddle : Call → State → State) :
    Prog Call Reply α → State → Calls Call State
  | .ret _, _ => []
  | .fail _, _ => []
  | .call request next, s =>
    (request, meddle request s) ::
      (next (serve request (meddle request s)).1).script serve meddle
        (serve request (meddle request s)).2

section Makes

variable {serve : (c : Call) → State → Reply c × State} {others : State → State → Prop}
  {p : Prog Call Reply α} {s : State} {calls : Calls Call State}

theorem Prog.makes_script {meddle : Call → State → State}
    (acts : ∀ request s, ReflTransGen others s (meddle request s))
    (p : Prog Call Reply α) (s : State) : p.Makes serve others s (p.script serve meddle s) := by
  induction p generalizing s with
  | ret | fail => exact .stop
  | call request next ih => exact .call (acts request s) (ih _ _)

variable {later : Calls Call State}

/-- A program may be cut off anywhere. -/
theorem Prog.Makes.cut (makes : p.Makes serve others s (calls ++ later)) :
    p.Makes serve others s calls := by
  induction calls generalizing p s with
  | nil => exact .stop
  | cons call calls ih =>
    cases makes with
    | call acted rest => exact .call acted (ih rest)

/-- Every call of a program that keeps a contract is permitted by what was learnt before it. -/
theorem Contract.Conforms.permits {C : Contract Call Reply} {K : C.Know} {post : C.Know → α → Prop}
    (conforms : C.Conforms K p post) (honest : ∀ request s, C.promised request (serve request s).1)
    {request : Call} {between : State}
    (makes : p.Makes serve others s (calls ++ (request, between) :: later)) :
    C.permits (C.know K (calls.events serve)) request := by
  -- Follow the calls; the knowledge grows by each reply.
  induction calls generalizing p s K with
  | nil =>
    cases makes with
    | call => exact conforms.1
  | cons call calls ih =>
    cases makes with
    | call acted rest => exact ih (conforms.2 _ (honest _ _)) rest

end Makes

end Conc
