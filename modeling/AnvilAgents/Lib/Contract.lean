import AnvilAgents.Lib.Program

/-! Contracts say which calls a pass may make, given what the replies so far have taught it. -/

namespace Conc

open Function Option

/--
A contract over the calls of a server.

`Know` is what a pass has learnt, `permits` the calls it may make next, `learn` what a reply adds,
and `promised` what the server promises about a reply.
-/
structure Contract (Call : Type) (Reply : Call → Type) where
  Know : Type
  permits : Know → Call → Prop
  learn : Know → (c : Call) → Reply c → Know
  promised : (c : Call) → Reply c → Prop

variable {cond : Prop}

namespace Contract

variable {Call : Type} {Reply : Call → Type} {α β : Type}

/-- Every call a program makes is permitted, and its result meets a postcondition. -/
def Conforms (C : Contract Call Reply) :
    C.Know → Prog Call Reply α → (C.Know → α → Prop) → Prop
  | K, .ret value, post => post K value
  | _, .fail _, _ => True
  | K, .call request next, post =>
    C.permits K request ∧
      ∀ reply, C.promised request reply → C.Conforms (C.learn K request reply) (next reply) post

/-- What a pass knows after the calls it has made. -/
def know (C : Contract Call Reply) (K : C.Know) (seen : List (Event Call Reply)) : C.Know :=
  seen.foldl (fun K event => C.learn K event.1 event.2) K

variable {C : Contract Call Reply} {K : C.Know} {post post' : C.Know → α → Prop}

@[simp]
theorem know_append (seen : List (Event Call Reply)) (event : Event Call Reply) :
    C.know K (seen ++ [event]) = C.learn (C.know K seen) event.1 event.2 := by
  simp [know]

@[simp]
theorem conforms_pure (value : α) :
    C.Conforms K (pure value : Prog Call Reply α) post ↔ post K value := Iff.rfl

variable {p : Prog Call Reply α}

theorem Conforms.mono (weaker : ∀ K value, post K value → post' K value)
    (conforms : C.Conforms K p post) : C.Conforms K p post' := by
  induction p generalizing K with
  | ret value => exact weaker K value conforms
  | fail fault => trivial
  | call request next ih =>
    exact ⟨conforms.1, fun reply honest => ih reply (conforms.2 reply honest)⟩

/-- A sequence conforms when its first part ends in a state from which the rest conforms. -/
@[simp]
theorem conforms_bind {rest : α → Prog Call Reply β}
    {post : C.Know → β → Prop} :
    C.Conforms K (p >>= rest) post ↔
      C.Conforms K p fun K' value => C.Conforms K' (rest value) post := by
  -- Follow the calls of the first part; its leaves hand over to the rest.
  induction p generalizing K with
  | ret | fail => exact Iff.rfl
  | call request next ih =>
    exact and_congr Iff.rfl (forall_congr' fun reply => imp_congr Iff.rfl (ih reply))

/-- A branching program conforms when each branch does under its own condition. -/
theorem conforms_ite [Decidable cond] {p q : Prog Call Reply α} (yes : cond → C.Conforms K p post)
    (no : ¬ cond → C.Conforms K q post) :
    C.Conforms K (if cond then p else q) post := by
  split
  next holds => exact yes holds
  next fails => exact no fails

/--
Conformance with one rule for each way in which a program goes on.

It is sealed, so that a proof about a long program does not unfold what is left of it.
-/
@[irreducible]
def Obeys (C : Contract Call Reply) (K : C.Know) (p : Prog Call Reply α) (post : C.Know → α → Prop) :
    Prop :=
  C.Conforms K p post

theorem obeys_iff : C.Obeys K p post ↔ C.Conforms K p post := by
  rw [Obeys]

@[simp]
theorem obeys_pure (value : α) : C.Obeys K (pure value : Prog Call Reply α) post ↔ post K value :=
  obeys_iff

theorem Obeys.pure {value : α} (holds : post K value) :
    C.Obeys K (Pure.pure value : Prog Call Reply α) post :=
  obeys_iff.mpr holds

@[simp]
theorem Obeys.fail {fault : String} : C.Obeys K (.fail fault : Prog Call Reply α) post :=
  obeys_iff.mpr trivial

theorem Obeys.mono (obeys : C.Obeys K p post) (weaker : ∀ K value, post K value → post' K value) :
    C.Obeys K p post' :=
  obeys_iff.mpr ((obeys_iff.mp obeys).mono weaker)

theorem Obeys.bind {rest : α → Prog Call Reply β} {post' : C.Know → β → Prop}
    (obeys : C.Obeys K p post) (later : ∀ K' value, post K' value → C.Obeys K' (rest value) post') :
    C.Obeys K (p >>= rest) post' :=
  obeys_iff.mpr (conforms_bind.mpr ((obeys_iff.mp obeys).mono fun K' value holds =>
    obeys_iff.mp (later K' value holds)))

theorem Obeys.call {request : Call} {rest : Reply request → Prog Call Reply α}
    (permitted : C.permits K request)
    (later : ∀ reply, C.promised request reply → C.Obeys (C.learn K request reply) (rest reply) post) :
    C.Obeys K (Prog.ask request >>= rest) post :=
  obeys_iff.mpr ⟨permitted, fun reply honest => obeys_iff.mp (later reply honest)⟩

theorem Obeys.ite {decided : Decidable cond} {p q : Prog Call Reply α}
    (yes : cond → C.Obeys K p post) (no : ¬cond → C.Obeys K q post) :
    C.Obeys K (if cond then p else q) post := by
  split
  next holds => exact yes holds
  next fails => exact no fails

/-- Two kinds of passes side by side: each keeps its own contract. -/
def sum (C D : Contract Call Reply) : Contract Call Reply where
  Know := C.Know ⊕ D.Know
  permits := Sum.elim C.permits D.permits
  learn K request reply := K.map (C.learn · request reply) (D.learn · request reply)
  promised request reply := C.promised request reply ∧ D.promised request reply

variable {D : Contract Call Reply}

theorem know_inl (K : C.Know) (seen : List (Event Call Reply)) :
    (C.sum D).know (.inl K) seen = .inl (C.know K seen) := by
  induction seen generalizing K with
  | nil => rfl
  | cons event seen ih => exact ih _

theorem know_inr (K : D.Know) (seen : List (Event Call Reply)) :
    (C.sum D).know (.inr K) seen = .inr (D.know K seen) := by
  induction seen generalizing K with
  | nil => rfl
  | cons event seen ih => exact ih _

/-- A program that keeps one of the contracts keeps it beside the other. -/
theorem Conforms.inl {K : C.Know} (conforms : C.Conforms K p fun _ _ => True) :
    (C.sum D).Conforms (.inl K) p fun _ _ => True := by
  induction p generalizing K with
  | ret | fail => trivial
  | call request next ih =>
    exact ⟨conforms.1, fun reply honest => ih reply (conforms.2 reply honest.1)⟩

theorem Conforms.inr {K : D.Know} (conforms : D.Conforms K p fun _ _ => True) :
    (C.sum D).Conforms (.inr K) p fun _ _ => True := by
  induction p generalizing K with
  | ret | fail => trivial
  | call request next ih =>
    exact ⟨conforms.1, fun reply honest => ih reply (conforms.2 reply honest.2)⟩

end Contract

namespace Prog

variable {Call : Type} {Reply : Call → Type} {α β : Type} {within within' : Call → Bool}

/-- Whatever the replies, the program keeps to these calls. -/
def Confined (within : Call → Bool) : Prog Call Reply α → Prop
  | .ret _ => True
  | .fail _ => True
  | .call request next => within request = true ∧ ∀ reply, (next reply).Confined within

theorem confined_ask {request : Call} (mine : within request = true) :
    (ask request : Prog Call Reply _).Confined within :=
  ⟨mine, fun _ => trivial⟩

variable {p : Prog Call Reply α}

theorem Confined.bind {rest : α → Prog Call Reply β} (first : p.Confined within)
    (later : ∀ value, (rest value).Confined within) : (p >>= rest).Confined within := by
  induction p with
  | ret value => exact later value
  | fail fault => trivial
  | call request next ih => exact ⟨first.1, fun reply => ih reply (first.2 reply)⟩

theorem Confined.ite [Decidable cond] {p q : Prog Call Reply α} (yes : p.Confined within)
    (no : q.Confined within) : (if cond then p else q).Confined within := by
  split
  next => exact yes
  next => exact no

/-- A program of calls that only read leaves the server as it was. -/
theorem Confined.run_snd {S : Type} {serve : (c : Call) → S → Reply c × S}
    (reads : ∀ c s, within c = true → (serve c s).2 = s) (confined : p.Confined within) (s : S) :
    (p.run serve s).2 = s := by
  induction p generalizing s with
  | ret | fail => rfl
  | call request next ih =>
    exact (ih _ (confined.2 _) _).trans (reads request s confined.1)

theorem Confined.mono (more : ∀ request, within request → within' request)
    (confined : p.Confined within) : p.Confined within' := by
  induction p with
  | ret | fail => trivial
  | call request next ih => exact ⟨more request confined.1, fun reply => ih reply (confined.2 reply)⟩

end Prog

namespace Contract

variable {Call : Type} {Reply : Call → Type} {α : Type} {C : Contract Call Reply} {K : C.Know}
  {within : Call → Bool}

/--
A program conforms whose calls are all permitted while a condition on what it knows holds.

The condition is kept by whatever these calls teach.
-/
theorem obeys_of_confined {p : Prog Call Reply α} {J : C.Know → Prop}
    (permitted : ∀ K request, J K → within request → C.permits K request)
    (kept : ∀ K request reply, J K → within request → J (C.learn K request reply))
    (holds : J K) (confined : p.Confined within) : C.Obeys K p fun K' _ => J K' := by
  rw [obeys_iff]
  induction p generalizing K with
  | ret value => exact holds
  | fail fault => trivial
  | call request next ih =>
    refine ⟨permitted K request holds confined.1, fun reply _ => ?_⟩
    exact ih reply (kept K request reply holds confined.1) (confined.2 reply)

end Contract

namespace System

variable {Pid Call : Type} {Reply : Call → Type} {State Act : Type} [DecidableEq Pid]
  {sys : System Pid Call Reply State Act} {init : State → Prop}
  {good : Config Pid Call Reply State → Move Pid Act → Prop}
  {cfg cfg' : Config Pid Call Reply State}

/-- The four shapes of a step, with everything each one changes. -/
inductive StepCases (sys : System Pid Call Reply State Act) (cfg : Config Pid Call Reply State) :
    Move Pid Act → Config Pid Call Reply State → Prop
  | start (pid : Pid) (free : cfg.procs pid = none) :
      StepCases sys cfg (.start pid)
        ⟨cfg.server, update cfg.procs pid (some ⟨cfg.server, [], sys.program pid⟩)⟩
  | advance (pid : Pid) (began : State) (seen : List (Event Call Reply)) (request : Call)
      (rest : Reply request → Prog Call Reply Unit)
      (found : cfg.procs pid = some ⟨began, seen, .call request rest⟩) :
      StepCases sys cfg (.advance pid)
        ⟨(sys.serve request cfg.server).2, update cfg.procs pid
          (some ⟨began, seen ++ [⟨request, (sys.serve request cfg.server).1⟩],
            rest (sys.serve request cfg.server).1⟩)⟩
  | stop (pid : Pid) : StepCases sys cfg (.stop pid)
        ⟨cfg.server, update cfg.procs pid none⟩
  | act (action : Act) (s : State) (acted : sys.act action cfg.server = some s) :
      StepCases sys cfg (.act action) ⟨s, cfg.procs⟩

theorem next_cases {move : Move Pid Act} (stepped : sys.next cfg move = some cfg') :
    StepCases sys cfg move cfg' := by
  cases move with
  | start pid =>
    cases free : cfg.procs pid with
    | none =>
      simp only [next, free, some.injEq] at stepped
      exact stepped ▸ .start pid free
    | some p => simp [next, free] at stepped
  | advance pid =>
    rcases found : cfg.procs pid with _ | ⟨began, seen, code⟩
    · simp [next, found] at stepped
    · cases code with
      | ret | fail => simp [next, found] at stepped
      | call request rest =>
        simp only [next, found, some.injEq] at stepped
        exact stepped ▸ .advance pid began seen request rest found
  | stop pid =>
    cases found : cfg.procs pid with
    | none => simp [next, found] at stepped
    | some p =>
      simp only [next, found, some.injEq] at stepped
      exact stepped ▸ .stop pid
  | act action =>
    obtain ⟨s, acted, rfl⟩ := map_eq_some_iff.mp stepped
    exact .act action s acted

theorem Reaches.invariant {I : Config Pid Call Reply State → Prop}
    (base : ∀ s, init s → I (System.idle s))
    (keep : ∀ {cfg cfg' move}, sys.Reaches init good cfg → I cfg → good cfg move →
      StepCases sys cfg move cfg' → I cfg')
    (reached : sys.Reaches init good cfg) : I cfg := by
  refine Machine.Reaches.invariant ?_ (fun before holds meets stepped => ?_) reached
  · rintro _ ⟨s, initial, rfl⟩
    exact base s initial
  · exact keep before holds meets (next_cases stepped)

omit [DecidableEq Pid] in
/-- A value found after updating one entry is the new one, or was there before. -/
theorem update_cases [DecidableEq Pid] {α : Type} {entries : Pid → Option α} {mover pid : Pid}
    {value : Option α} {p : α} (found : update entries mover value pid = some p) :
    (pid = mover ∧ value = some p) ∨ (pid ≠ mover ∧ entries pid = some p) := by
  by_cases same : pid = mover
  · subst same
    exact .inl ⟨rfl, by simpa using found⟩
  · exact .inr ⟨same, by simpa [update_of_ne same] using found⟩

/-- The process makes this call if it moves next, having seen these events since it began. -/
def Calling (cfg : Config Pid Call Reply State) (pid : Pid) (began : State)
    (seen : List (Event Call Reply)) (request : Call) : Prop :=
  ∃ rest, cfg.procs pid = some ⟨began, seen, .call request rest⟩

/--
The invariant rule for systems whose programs keep a contract.

`G` speaks of the server and `L` of one pass in flight and what it knows. The promises of the server
follow from `G`, and the pass that calls is permitted its call, so no obligation looks at program text.
-/
theorem Reaches.local_invariant {C : Contract Call Reply} (start : Pid → C.Know)
    (programs : ∀ pid, C.Conforms (start pid) (sys.program pid) fun _ _ => True)
    {G : State → Prop} {L : State → Pid → State → C.Know → Prop}
    (honest : ∀ cfg, sys.Reaches init good cfg → G cfg.server →
      ∀ c, C.promised c (sys.serve c cfg.server).1)
    (base : ∀ s, init s → G s)
    (begun : ∀ cfg pid, sys.Reaches init good cfg → good cfg (.start pid) → G cfg.server →
      L cfg.server pid cfg.server (start pid))
    (own : ∀ cfg pid began seen request, sys.Reaches init good cfg → good cfg (.advance pid) →
      Calling cfg pid began seen request → G cfg.server →
      L cfg.server pid began (C.know (start pid) seen) →
      C.permits (C.know (start pid) seen) request →
      G (sys.serve request cfg.server).2 ∧
      L (sys.serve request cfg.server).2 pid began
        (C.learn (C.know (start pid) seen) request (sys.serve request cfg.server).1))
    (others : ∀ cfg pid began seen request other p, sys.Reaches init good cfg →
      good cfg (.advance pid) → Calling cfg pid began seen request → G cfg.server →
      L cfg.server pid began (C.know (start pid) seen) →
      C.permits (C.know (start pid) seen) request → other ≠ pid → cfg.procs other = some p →
      L cfg.server other p.began (C.know (start other) p.seen) →
      L (sys.serve request cfg.server).2 other p.began (C.know (start other) p.seen))
    (env : ∀ cfg action s, sys.Reaches init good cfg → good cfg (.act action) →
      sys.act action cfg.server = some s → G cfg.server →
      G s ∧ ∀ pid p, cfg.procs pid = some p →
        L cfg.server pid p.began (C.know (start pid) p.seen) →
        L s pid p.began (C.know (start pid) p.seen))
    (reached : sys.Reaches init good cfg) :
    G cfg.server ∧ ∀ pid p, cfg.procs pid = some p →
      (C.Conforms (C.know (start pid) p.seen) p.code fun _ _ => True) ∧
      L cfg.server pid p.began (C.know (start pid) p.seen) := by
  refine reached.invariant
    (I := fun cfg => G cfg.server ∧ ∀ pid p, cfg.procs pid = some p →
      (C.Conforms (C.know (start pid) p.seen) p.code fun _ _ => True) ∧
      L cfg.server pid p.began (C.know (start pid) p.seen)) ?_ ?_
  · intro s initial
    exact ⟨base s initial, fun pid p found => by cases found⟩
  · intro cfg cfg' move before holds meets cases
    obtain ⟨global, passes⟩ := holds
    cases cases with
    | start mover free =>
      refine ⟨global, fun pid p found => ?_⟩
      rcases update_cases found with ⟨rfl, started⟩ | ⟨-, earlier⟩
      · cases started
        exact ⟨programs pid, begun cfg pid before meets global⟩
      · exact passes pid p earlier
    | advance mover began seen request rest calling =>
      -- Only the mover's knowledge grows; the server's promise lets its code go on conforming.
      obtain ⟨⟨permitted, later⟩, mine⟩ := passes mover _ calling
      have kept := own cfg mover began seen request before meets ⟨rest, calling⟩ global mine permitted
      refine ⟨kept.1, fun pid p found => ?_⟩
      rcases update_cases found with ⟨rfl, advanced⟩ | ⟨distinct, earlier⟩
      · cases advanced
        rw [Contract.know_append]
        exact ⟨later _ (honest cfg before global request), kept.2⟩
      · obtain ⟨conforms, theirs⟩ := passes pid p earlier
        exact ⟨conforms, others cfg mover began seen request pid p before meets ⟨rest, calling⟩ global
          mine permitted distinct earlier theirs⟩
    | stop mover =>
      refine ⟨global, fun pid p found => ?_⟩
      rcases update_cases found with ⟨-, stopped⟩ | ⟨-, earlier⟩
      · cases stopped
      · exact passes pid p earlier
    | act action s acted =>
      have kept := env cfg action s before meets acted global
      refine ⟨kept.1, fun pid p found => ?_⟩
      obtain ⟨conforms, mine⟩ := passes pid p found
      exact ⟨conforms, kept.2 pid p found mine⟩

end System

end Conc
