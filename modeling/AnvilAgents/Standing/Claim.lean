import AnvilAgents.Lib.Text

/-! The claim by which one API replica owns a standing turn for a while. -/

namespace AnvilAgents

open Text

/-- Nanoseconds in a second; clocks count nanoseconds and stored times are whole seconds. -/
def second : Nat := 1000000000

def claimTTL : Nat := 90 * second

structure Claim where
  turnID : String
  owner : String
  atUnix : Nat
deriving DecidableEq

/-- A claim is live while it is younger than its time to live; a claim from the future is young. -/
def Claim.fresh (claim : Claim) (now ttl : Nat) : Bool :=
  now ≠ 0 && 0 < ttl && 0 < claim.atUnix && now - claim.atUnix * second < ttl

/-- The annotation value for a claim, as it reads back; blank identities are refused. -/
def encodeClaim (claim : Claim) : Option Claim :=
  if isBlank claim.turnID || isBlank claim.owner || claim.atUnix = 0 then none
  else some ⟨trimSpace claim.turnID, trimSpace claim.owner, claim.atUnix⟩

/-- A claim that can be written names the trimmed turn and owner, and has a date. -/
theorem encodeClaim_eq_some {claim written : Claim} (encoded : encodeClaim claim = some written) :
    written = ⟨trimSpace claim.turnID, trimSpace claim.owner, claim.atUnix⟩ ∧
      isBlank claim.turnID = false ∧ claim.atUnix ≠ 0 := by
  unfold encodeClaim at encoded
  split at encoded
  · cases encoded
  next named =>
    cases encoded
    simp only [Bool.or_eq_true, decide_eq_true_eq, not_or, Bool.not_eq_true] at named
    exact ⟨rfl, named.1.1, named.2⟩

/-- The live claim on a turn, if the annotation holds one; a malformed annotation holds none. -/
def claimForTurn (noted : Option Claim) (turnID : String) (now ttl : Nat) : Option Claim :=
  if isBlank turnID then none
  else noted.filter fun claim => claim.turnID = trimSpace turnID && claim.fresh now ttl

/-- A claim that is live is live at any earlier time as well. -/
theorem Claim.fresh_earlier {claim : Claim} {now later ttl : Nat} (live : claim.fresh later ttl = true)
    (earlier : now ≤ later) (dated : now ≠ 0) : claim.fresh now ttl = true := by
  simp only [Claim.fresh, Bool.and_eq_true, decide_eq_true_eq] at live ⊢
  omega

/-- The annotation holds the live claim on the turn it names. -/
theorem claimForTurn_of_fresh {claim : Claim} {turnID : String} {now ttl : Nat}
    (named : isBlank turnID = false) (bound : claim.turnID = trimSpace turnID)
    (live : claim.fresh now ttl = true) : claimForTurn (some claim) turnID now ttl = some claim := by
  simp [claimForTurn, named, bound, live]

end AnvilAgents
