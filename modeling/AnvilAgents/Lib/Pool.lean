import AnvilAgents.Lib.Contract
import AnvilAgents.Lib.Machine

/-! Requests that arrive one after another and are handled side by side, each one giving an answer. -/

namespace Conc

open List

namespace Contract

variable {Call : Type} {Reply : Call → Type} {α β : Type} {C : Contract Call Reply} {K : C.Know}
  {post post' : C.Know → α → Prop}

/-- The program makes permitted calls only and always ends with a value that meets `post`. -/
def Settles (C : Contract Call Reply) : C.Know → Prog Call Reply α → (C.Know → α → Prop) → Prop
  | K, .ret value, post => post K value
  | _, .fail _, _ => False
  | K, .call request next, post =>
    C.permits K request ∧
      ∀ reply, C.promised request reply → C.Settles (C.learn K request reply) (next reply) post

theorem Settles.mono {p : Prog Call Reply α} (settles : C.Settles K p post)
    (weaker : ∀ K value, post K value → post' K value) : C.Settles K p post' := by
  induction p generalizing K with
  | ret value => exact weaker K value settles
  | fail fault => exact settles
  | call request next ih =>
    exact ⟨settles.1, fun reply honest => ih reply (settles.2 reply honest)⟩

theorem settles_ite {cond : Prop} [Decidable cond] {p q : Prog Call Reply α}
    (yes : C.Settles K p post) (no : C.Settles K q post) :
    C.Settles K (if cond then p else q) post := by
  split
  · exact yes
  · exact no

theorem Settles.bind {p : Prog Call Reply α} {rest : α → Prog Call Reply β}
    {final : C.Know → β → Prop} (first : C.Settles K p post)
    (later : ∀ K value, post K value → C.Settles K (rest value) final) :
    C.Settles K (p >>= rest) final := by
  -- Follow the calls of the first part; each of its ends hands over to the rest.
  induction p generalizing K with
  | ret value => exact later K value first
  | fail fault => exact first.elim
  | call request next ih =>
    exact ⟨first.1, fun reply honest => ih reply (first.2 reply honest)⟩

end Contract

/-- A request being handled: the calls made for it so far, and what is left to do. -/
structure Task (Req Call : Type) (Reply : Call → Type) (Res : Type) where
  request : Req
  seen : List (Event Call Reply)
  code : Prog Call Reply Res

/-- A server and the requests that arrived, in order of arrival; answered ones stay. -/
structure Pool (Req Call : Type) (Reply : Call → Type) (Res State : Type) where
  server : State
  tasks : List (Task Req Call Reply Res)

/-- What may happen next to a pool. -/
inductive PoolMove (Req Act : Type) where
  | arrive (request : Req)
  | advance (index : Nat)
  /-- The server turns the next call of a request down and changes nothing. -/
  | refuse (index : Nat)
  | act (action : Act)

/-- A server, what it replies when it turns a call down, and how requests are handled. -/
structure Service (Req Call : Type) (Reply : Call → Type) (Res State Act : Type) where
  serve : (c : Call) → State → Reply c × State
  refusal : (c : Call) → Reply c
  handler : Req → Prog Call Reply Res
  act : Act → State → Option State

/-- The answer of a request that has one. -/
def Task.answer {Req Call : Type} {Reply : Call → Type} {Res : Type}
    (task : Task Req Call Reply Res) : Option Res :=
  match task.code with
  | .ret value => some value
  | _ => none

namespace Service

variable {Req Call : Type} {Reply : Call → Type} {Res State Act : Type}

variable (svc : Service Req Call Reply Res State Act)

/-- A request before its first call. -/
def fresh (request : Req) : Task Req Call Reply Res :=
  ⟨request, [], svc.handler request⟩

/-- One step; a request whose handler crashed is one that never moves again. -/
def next (pool : Pool Req Call Reply Res State) : PoolMove Req Act → Option
    (Pool Req Call Reply Res State)
  | .arrive request => some { pool with tasks := pool.tasks ++ [svc.fresh request] }
  | .advance index =>
    match pool.tasks[index]? with
    | some ⟨request, seen, .call c rest⟩ =>
      let answer := svc.serve c pool.server
      some ⟨answer.2, pool.tasks.set index ⟨request, seen ++ [⟨c, answer.1⟩], rest answer.1⟩⟩
    | _ => none
  | .refuse index =>
    match pool.tasks[index]? with
    | some ⟨request, seen, .call c rest⟩ =>
      let reply := svc.refusal c
      some { pool with tasks := pool.tasks.set index ⟨request, seen ++ [⟨c, reply⟩], rest reply⟩ }
    | _ => none
  | .act action => (svc.act action pool.server).map fun s => { pool with server := s }

def machine : Machine (Pool Req Call Reply Res State) (PoolMove Req Act) where
  next := svc.next

/-- A server of a given kind to which no request has come. -/
def Idle (init : State → Prop) (pool : Pool Req Call Reply Res State) : Prop :=
  init pool.server ∧ pool.tasks = []

/-- The pools reached from a server without requests by steps that all meet a condition. -/
abbrev Reaches (init : State → Prop)
    (good : Pool Req Call Reply Res State → PoolMove Req Act → Prop) : Pool Req Call Reply Res State
    → Prop :=
  svc.machine.Reaches (Idle init) good

variable {svc : Service Req Call Reply Res State Act} {init : State → Prop}
  {good : Pool Req Call Reply Res State → PoolMove Req Act → Prop}
  {pool pool' : Pool Req Call Reply Res State}

/-- The four shapes of a step, with everything each one changes. -/
inductive StepCases (svc : Service Req Call Reply Res State Act)
    (pool : Pool Req Call Reply Res State) :
    PoolMove Req Act → Pool Req Call Reply Res State → Prop
  | arrive (request : Req) :
      StepCases svc pool (.arrive request) ⟨pool.server, pool.tasks ++ [svc.fresh request]⟩
  | advance (index : Nat) (request : Req) (seen : List (Event Call Reply)) (c : Call)
      (rest : Reply c → Prog Call Reply Res)
      (found : pool.tasks[index]? = some ⟨request, seen, .call c rest⟩) :
      StepCases svc pool (.advance index)
        ⟨(svc.serve c pool.server).2, pool.tasks.set index
          ⟨request, seen ++ [⟨c, (svc.serve c pool.server).1⟩], rest (svc.serve c pool.server).1⟩⟩
  | refuse (index : Nat) (request : Req) (seen : List (Event Call Reply)) (c : Call)
      (rest : Reply c → Prog Call Reply Res)
      (found : pool.tasks[index]? = some ⟨request, seen, .call c rest⟩) :
      StepCases svc pool (.refuse index)
        ⟨pool.server, pool.tasks.set index
          ⟨request, seen ++ [⟨c, svc.refusal c⟩], rest (svc.refusal c)⟩⟩
  | act (action : Act) (s : State) (acted : svc.act action pool.server = some s) :
      StepCases svc pool (.act action) ⟨s, pool.tasks⟩

theorem next_cases {move : PoolMove Req Act} (stepped : svc.next pool move = some pool') :
    StepCases svc pool move pool' := by
  cases move with
  | arrive request =>
    cases stepped
    exact .arrive request
  | advance index =>
    simp only [next] at stepped
    split at stepped
    next request seen c rest found =>
      cases stepped
      exact .advance index request seen c rest found
    next => cases stepped
  | refuse index =>
    simp only [next] at stepped
    split at stepped
    next request seen c rest found =>
      cases stepped
      exact .refuse index request seen c rest found
    next => cases stepped
  | act action =>
    obtain ⟨s, acted, rfl⟩ := Option.map_eq_some_iff.mp stepped
    exact .act action s acted

theorem Reaches.pool_invariant {I : Pool Req Call Reply Res State → Prop}
    (base : ∀ s, init s → I ⟨s, []⟩)
    (keep : ∀ {pool pool' move}, svc.Reaches init good pool → I pool → good pool move →
      StepCases svc pool move pool' → I pool')
    (reached : svc.Reaches init good pool) : I pool := by
  refine Machine.Reaches.invariant ?_ ?_ reached
  · rintro ⟨s, tasks⟩ ⟨initial, rfl⟩
    exact base s initial
  · intro pool pool' move before holds meets stepped
    exact keep before holds meets (next_cases stepped)

variable {G : State → Prop}

/-- A property of the server that calls, and actions which meet the condition, keep. -/
theorem Reaches.server_invariant (base : ∀ s, init s → G s)
    (called : ∀ s c, G s → G (svc.serve c s).2)
    (acted : ∀ pool action s', good pool (.act action) → G pool.server →
      svc.act action pool.server = some s' → G s') (reached : svc.Reaches init good pool) :
    G pool.server := by
  refine Reaches.pool_invariant (I := fun pool => G pool.server) base ?_ reached
  intro pool pool' move _ holds meets cases
  cases cases with
  | arrive request => exact holds
  | advance index request seen c rest found => exact called _ _ holds
  | refuse index request seen c rest found => exact holds
  | act action s stepped => exact acted _ _ _ meets holds stepped

/--
Handlers that keep a contract keep it for every request that arrived, whatever the others do.

The promises of the contract must hold for every reply a reached server gives, refusals included.
-/
theorem Reaches.settles {C : Contract Call Reply} (start : Req → C.Know)
    (post : Req → C.Know → Res → Prop) (handlers : ∀ pool request, good pool (.arrive request) →
      C.Settles (start request) (svc.handler request) (post request))
    (honest : ∀ pool index request seen c rest, svc.Reaches init good pool →
      good pool (.advance index) → pool.tasks[index]? = some ⟨request, seen, .call c rest⟩ →
      C.promised c (svc.serve c pool.server).1)
    (refused : ∀ c, C.promised c (svc.refusal c)) (reached : svc.Reaches init good pool) :
    ∀ task ∈ pool.tasks,
      C.Settles (C.know (start task.request) task.seen) task.code (post task.request) := by
  refine Reaches.pool_invariant (I := fun pool => ∀ task ∈ pool.tasks,
    C.Settles (C.know (start task.request) task.seen) task.code (post task.request)) ?_ ?_ reached
  · intro s _ task member
    cases member
  · intro pool pool' move before holds meets cases
    cases cases with
    | arrive request =>
      intro task member
      rcases mem_append.mp member with old | new
      · exact holds task old
      · rw [mem_singleton.mp new]
        exact handlers pool request meets
    | advance index request seen c rest found =>
      -- The task that moved goes on after the reply; every other task is as it was.
      intro task member
      rcases mem_or_eq_of_mem_set member with old | rfl
      · exact holds task old
      · rw [Contract.know_append]
        exact (holds _ (mem_of_getElem? found)).2 _ (honest _ _ _ _ c rest before meets found)
    | refuse index request seen c rest found =>
      intro task member
      rcases mem_or_eq_of_mem_set member with old | rfl
      · exact holds task old
      · rw [Contract.know_append]
        exact (holds _ (mem_of_getElem? found)).2 _ (refused c)
    | act action s acted => exact holds

/-- A request handled with nothing in between is one way to go on from an idle server. -/
theorem Reaches.uninterrupted (svc : Service Req Call Reply Res State Act) (init : State → Prop)
    (good : Pool Req Call Reply Res State → PoolMove Req Act → Prop) {request : Req} {s s' : State} {value : Res} (initial : init s)
    (arrives : ∀ pool, good pool (.arrive request)) (advances : ∀ pool index, good pool (.advance index))
    (ran : (svc.handler request).run svc.serve s = (.ok value, s')) :
    ∃ seen, svc.Reaches init good ⟨s', [⟨request, seen, .ret value⟩]⟩ := by
  -- The arrival is the first step; then every call of the handler is one more.
  have idle : svc.Reaches init good ⟨s, []⟩ := .start ⟨initial, rfl⟩
  have arrived : svc.Reaches init good ⟨s, [svc.fresh request]⟩ := idle.step (arrives _) rfl
  unfold fresh at arrived
  generalize svc.handler request = code at ran arrived
  generalize [] = seen at arrived
  clear initial idle
  induction code generalizing s seen with
  | ret result =>
    cases ran
    exact ⟨seen, arrived⟩
  | fail fault => cases ran
  | call c rest ih => exact ih _ ran _ (arrived.step (advances _ 0) rfl)

end Service

end Conc
