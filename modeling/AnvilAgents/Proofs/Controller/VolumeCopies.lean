import AnvilAgents.Controller.DataVolumeCopy
import AnvilAgents.Proofs.Controller.Labels

/-! The two Jobs that copy one data volume to another, and whether they are two. -/

namespace AnvilAgents.DataVolumeCopy

open Text List

/-- What the name of a Job shows of its role whenever it shows the role. -/
def Role.front : Role → List Char
  | .source => ['v', 'c', 'o', 'p', 'y', '-', 's']
  | .destination => ['v', 'c', 'o', 'p', 'y', '-', 'd']

variable {shortHash : String → String} {name : String} {role : Role}

section Names

/-- A text that starts with a trimmed one still does so when it is trimmed. -/
theorem starts_trimDashes {front text : List Char} (trimmed : Trimmed (· = '-') front)
    (some_ : front ≠ []) (starts : front <+: text) : front <+: trimDashes text := by
  obtain ⟨back, rfl⟩ := starts
  obtain ⟨c, rest, rfl⟩ := exists_cons_of_ne_nil some_
  have first : decide (c = '-') = false := trimmed c (.inl rfl)
  have all := trim_of_trimmed trimmed
  rw [trim_cons first, cons.injEq] at all
  rw [trimDashes, cons_append, trim_cons first, reverse_append, dropWhile_append]
  split
  · simp [all.2]
  · simp

variable (valid : name.toList.head?.any isLabelChar = true)

include valid

/-- The name of a copy Job; a long one is cut in front of the name of the copy. -/
theorem jobName_eq : jobName shortHash name role =
    let label := sanitizeDNSLabel name
    let full := role.token ++ "-" ++ label
    if label.length ≤ 53 then full
    else cutBefore full (if label.length < 63 then label else shortHash full) := by
  have shown : shownParts [role.token, name] = [role.token, sanitizeDNSLabel name] := by
    have kept : sanitizeDNSLabel role.token = role.token ∧ role.token ≠ "" := by
      rw [← String.toList_inj, sanitizeDNSLabel_toList]
      cases role <;> decide
    simp [shownParts, kept, solid_of_valid valid]
  have size : (role.token ++ "-" ++ sanitizeDNSLabel name).length =
      (sanitizeDNSLabel name).length + 10 := by
    have nine : (role.token ++ "-").length = 10 := by cases role <;> rfl
    rw [String.length_append, nine, Nat.add_comm]
  have joined : "-".intercalate [role.token, sanitizeDNSLabel name] =
      role.token ++ "-" ++ sanitizeDNSLabel name := rfl
  rw [jobName, agentRunChildName_cut, shown]
  simp only [joined, size, getLastD_cons, getLastD_nil, apply_ite (cutBefore _)]
  by_cases short : (sanitizeDNSLabel name).length ≤ 53
  · rw [if_pos (by omega), if_pos short]
  · rw [if_neg (by omega), if_neg short]

/-- The name of a copy Job starts with its role, unless the name of the copy leaves no room. -/
theorem jobName_front (role : Role) (digests : Digests shortHash)
    (room : (sanitizeDNSLabel name).length ≤ 55 ∨ 63 ≤ (sanitizeDNSLabel name).length) :
    role.front <+: (jobName shortHash name role).toList := by
  have starts : role.front <+: (role.token ++ "-" ++ sanitizeDNSLabel name).toList := by
    have token : role.front <+: role.token.toList := by cases role <;> decide
    rw [String.toList_append, String.toList_append, append_assoc]
    exact token.trans (prefix_append _ _)
  rw [jobName_eq valid]
  dsimp only
  split
  · exact starts
  · -- Seven characters are left in front of what is kept whole.
    generalize kept : (if (sanitizeDNSLabel name).length < 63 then sanitizeDNSLabel name
      else shortHash (role.token ++ "-" ++ sanitizeDNSLabel name)) = last
    have short : last.length ≤ 55 := by
      subst kept
      split
      · omega
      · simp [digests.twelve]
    have front : Trimmed (· = '-') role.front ∧ role.front.length = 7 := by
      cases role <;> exact ⟨by rintro c (⟨⟨⟩⟩ | ⟨⟨⟩⟩) <;> rfl, rfl⟩
    have cut := starts_trimDashes front.1 (ne_nil_of_length_eq_add_one front.2)
      (prefix_take_iff.mpr ⟨starts, show _ ≤ 63 - last.length - 1 by omega⟩)
    rw [cutBefore, if_neg, String.toList_append, String.toList_append, String.toList_ofList,
      append_assoc]
    · exact cut.trans (prefix_append _ _)
    · intro none
      rw [← String.toList_ofList (l := trimDashes _), none] at cut
      cases (congrArg length (prefix_nil.mp cut)).symm.trans front.2

/-- Otherwise nothing that tells the roles apart is left in front of the name of the copy. -/
theorem jobName_cut (few : 56 ≤ (sanitizeDNSLabel name).length)
    (many : (sanitizeDNSLabel name).length < 63) :
    jobName shortHash name role = cutBefore "vcopy-" (sanitizeDNSLabel name) := by
  obtain ⟨rest, spelled⟩ : "vcopy-".toList <+: role.token.toList := by cases role <;> decide
  have six : "vcopy-".toList.length = 6 := rfl
  rw [jobName_eq valid]
  dsimp only
  rw [if_neg (by omega), if_pos many, cutBefore, cutBefore, String.toList_append,
    String.toList_append, ← spelled, append_assoc, append_assoc,
    take_append_of_le_length (by omega)]

theorem jobNames_differ_iff (digests : Digests shortHash) :
    jobName shortHash name .source ≠ jobName shortHash name .destination ↔
      (sanitizeDNSLabel name).length ≤ 55 ∨ 63 ≤ (sanitizeDNSLabel name).length := by
  constructor
  · intro differ
    by_contra within
    simp only [not_or, not_le] at within
    exact differ <| (jobName_cut valid within.1 within.2).trans
      (jobName_cut valid within.1 within.2).symm
  · intro room same
    have first := jobName_front valid .source digests room
    rw [same] at first
    have second := jobName_front valid .destination digests room
    exact absurd (prefix_of_prefix_length_le first second le_rfl) (by decide)

end Names

variable {answers : Answers} {claims : Role → String} {made : String → String → Prop}

/-- Of the Jobs that are made in a namespace, told by name and claim, those with a name of the copy
mount what it would have them mount. -/
def OwnJobs (made : String → String → Prop) (claims : Role → String) (shortHash : String → String)
    (name : String) : Prop :=
  ∀ role claim, made (jobName shortHash name role) claim → claim = claims role

/-- The Jobs of a copy are two, and it succeeds only after both, for either claim one. -/
def UsesTwoJobs (made : String → String → Prop) (claims : Role → String)
    (shortHash : String → String) (name : String) : Prop :=
  jobName shortHash name .source ≠ jobName shortHash name .destination ∧
    ∀ answers : Answers,
      (∀ call at_ job, answers.jobs call at_ = some job → made at_ job.claimName) →
      marksSucceeded answers claims shortHash name = true →
      ∀ role, ∃ call job, answers.jobs call (jobName shortHash name role) = some job ∧
        job.claimName = claims role ∧ 0 < job.succeeded

/-- A Job that has succeeded is not one that was just made. -/
theorem ensureJob_succeeded {call : Nat} {jobName claimName : String} {job : Job}
    (ensured : ensureJob answers call jobName claimName = some job) (done : 0 < job.succeeded) :
    ∃ call, answers.jobs call jobName = some job := by
  unfold ensureJob at ensured
  split at ensured
  · cases ensured
  · rcases Option.or_eq_some_iff.mp ensured with found | ⟨-, made⟩
    · exact ⟨call, found⟩
    · split_ifs at made
      · cases made
        cases done
      · exact ⟨call + 2, made⟩

/-- Both Jobs of a copy that is marked as done were found, and have succeeded. -/
theorem found_of_marked (marked : marksSucceeded answers claims shortHash name = true) (role : Role) :
    ∃ call job, answers.jobs call (jobName shortHash name role) = some job ∧ 0 < job.succeeded := by
  unfold marksSucceeded at marked
  split at marked
  next sourceJob destJob source destination =>
    simp only [Bool.and_eq_true, decide_eq_true_eq] at marked
    cases role with
    | source =>
      obtain ⟨call, found⟩ := ensureJob_succeeded source marked.2
      exact ⟨call, sourceJob, found, marked.2⟩
    | destination =>
      obtain ⟨call, found⟩ := ensureJob_succeeded destination marked.1.2
      exact ⟨call, destJob, found, marked.1.2⟩
  next => cases marked

/-- A namespace in which a Job of each name has succeeded, and which mounts what is told. -/
def succeededJobs (shortHash : String → String) (name : String) (mounts : Role → String) : Answers where
  jobs _ at_ :=
    if at_ = jobName shortHash name .source then some { claimName := mounts .source, succeeded := 1 }
    else if at_ = jobName shortHash name .destination then
      some { claimName := mounts .destination, succeeded := 1 }
    else none
  fails _ := false

/-- No pass looks at what a Job mounts. -/
theorem marks_succeededJobs (mounts : Role → String) :
    marksSucceeded (succeededJobs shortHash name mounts) claims shortHash name = true := by
  unfold marksSucceeded ensureJob succeededJobs
  by_cases same : jobName shortHash name .destination = jobName shortHash name .source <;> simp [same]

theorem succeededJobs_found {mounts : Role → String} {call : Nat} {at_ : String} {job : Job}
    (found : (succeededJobs shortHash name mounts).jobs call at_ = some job) :
    ∃ role, jobName shortHash name role = at_ ∧ job.claimName = mounts role := by
  simp only [succeededJobs] at found
  split_ifs at found with source destination
  · cases found
    exact ⟨.source, source.symm, rfl⟩
  · cases found
    exact ⟨.destination, destination.symm, rfl⟩

theorem jobName_injective (differ : jobName shortHash name .source ≠ jobName shortHash name .destination) :
    Function.Injective (jobName shortHash name) := by
  intro role role' same
  cases role <;> cases role'
  · rfl
  · exact absurd same differ
  · exact absurd same.symm differ
  · rfl

/-- A copy uses two Jobs just when its name leaves room for their roles, or none at all for itself,
and nobody makes a Job of one of these names that mounts another claim. -/
theorem two_jobs_iff (digests : Digests shortHash)
    (valid : name.toList.head?.any isLabelChar = true)
    (own : ∀ role, made (jobName shortHash name role) (claims role)) :
    UsesTwoJobs made claims shortHash name ↔
      ((sanitizeDNSLabel name).length ≤ 55 ∨ 63 ≤ (sanitizeDNSLabel name).length) ∧
        OwnJobs made claims shortHash name := by
  rw [← jobNames_differ_iff valid digests]
  refine and_congr_right fun differ => ⟨fun uses role claim foreign => ?_, ?_⟩
  · -- The Job of the other claim is taken for the Job of the copy.
    have among (call : Nat) (at_ : String) (job : Job)
        (found : (succeededJobs shortHash name (Function.update claims role claim)).jobs call at_ =
          some job) : made at_ job.claimName := by
      obtain ⟨other, rfl, told⟩ := succeededJobs_found found
      rw [told]
      by_cases same : other = role
      · subst same
        rw [Function.update_self]
        exact foreign
      · rw [Function.update_of_ne same]
        exact own other
    obtain ⟨call, job, found, mounts, -⟩ := uses _ among (marks_succeededJobs _) role
    obtain ⟨role', same, told⟩ := succeededJobs_found found
    rw [← mounts, told, jobName_injective differ same, Function.update_self]
  · intro mine answers among marked role
    obtain ⟨call, job, found, done⟩ := found_of_marked marked role
    exact ⟨call, job, found, mine role _ (among _ _ _ found), done⟩

/-- The Jobs that passes over copies make: of each copy the name and the claims. -/
def madeBy (shortHash : String → String) (copies : List (String × (Role → String)))
    (at_ claim : String) : Prop :=
  ∃ copy ∈ copies, ∃ role, jobName shortHash copy.1 role = at_ ∧ copy.2 role = claim

/-- The claims of a copy from an old volume to a new one. -/
def oldToNew : Role → String
  | .source => "old"
  | .destination => "new"

theorem two_jobs_short :
    UsesTwoJobs (madeBy twelveDigits [("home", oldToNew)]) oldToNew twelveDigits "home" := by
  have size : (sanitizeDNSLabel "home").length ≤ 55 := by
    rw [sanitizeDNSLabel_of_kept (all_eq_true.mp rfl)]
    decide
  refine (two_jobs_iff twelveDigits_digests (by decide) fun role =>
    ⟨_, .head _, role, rfl, rfl⟩).mpr ⟨.inl size, ?_⟩
  rintro role claim ⟨copy, member, role', same, rfl⟩
  obtain rfl := mem_singleton.mp member
  rw [jobName_injective ((jobNames_differ_iff (by decide) twelveDigits_digests).mpr (.inl size)) same]

/-- A name that leaves no room for the role of a Job. -/
def longName : String :=
  String.ofList (replicate 56 'a')

/-- The two Jobs of one copy have one name, and the one that mounts the source is enough. Of two
copies whose names make one label, the Jobs of one are enough for the other. -/
theorem one_job_suffices :
    (jobName twelveDigits longName .source = jobName twelveDigits longName .destination ∧
      ∃ answers : Answers, marksSucceeded answers oldToNew twelveDigits longName = true ∧
        ∀ call at_ job, answers.jobs call at_ = some job →
          madeBy twelveDigits [(longName, oldToNew)] at_ job.claimName ∧ job.claimName = "old") ∧
      ∃ answers : Answers, marksSucceeded answers oldToNew twelveDigits "data-v1" = true ∧
        ∀ call at_ job, answers.jobs call at_ = some job →
          madeBy twelveDigits [("data.v1", fun _ => "other")] at_ job.claimName := by
  have same :
      jobName twelveDigits longName .source = jobName twelveDigits longName .destination := by
    have plain (count : Nat) : sanitizeDNSLabel (String.ofList (replicate count 'a')) =
        String.ofList (replicate count 'a') := by
      refine sanitizeDNSLabel_of_kept fun c member => ?_
      rw [String.toList_ofList] at member
      rw [eq_of_mem_replicate member]
      rfl
    have size (count : Nat) : (sanitizeDNSLabel (String.ofList (replicate count 'a'))).length = count := by
      rw [plain, ← String.length_toList, String.toList_ofList, length_replicate]
    have valid : longName.toList.head?.any isLabelChar = true :=
      congrArg (fun cs => cs.head?.any isLabelChar) String.toList_ofList
    have few : 56 ≤ (sanitizeDNSLabel longName).length := (size 56).ge
    have many : (sanitizeDNSLabel longName).length < 63 := (size 56).trans_lt (by decide)
    exact (jobName_cut valid few many).trans (jobName_cut valid few many).symm
  have label (role : Role) :
      jobName twelveDigits "data.v1" role = jobName twelveDigits "data-v1" role := by
    have same : sanitizeDNSLabel "data.v1" = sanitizeDNSLabel "data-v1" := by
      rw [← String.toList_inj, sanitizeDNSLabel_toList, sanitizeDNSLabel_toList]
      decide
    refine agentRunChildName_congr ?_
    simp only [shownParts, map_cons, same]
  refine ⟨⟨same, succeededJobs twelveDigits longName fun _ => "old", marks_succeededJobs _, ?_⟩,
    succeededJobs twelveDigits "data-v1" fun _ => "other", marks_succeededJobs _, ?_⟩
  · intro call at_ job found
    obtain ⟨role, at_, told⟩ := succeededJobs_found found
    rw [told]
    refine ⟨⟨_, .head _, .source, ?_, rfl⟩, rfl⟩
    cases role with
    | source => exact at_
    | destination => exact same.trans at_
  · intro call at_ job found
    obtain ⟨role, at_, told⟩ := succeededJobs_found found
    rw [told]
    exact ⟨_, .head _, role, (label role).trans at_, rfl⟩

end AnvilAgents.DataVolumeCopy
