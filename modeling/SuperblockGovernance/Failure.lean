/-
What can go wrong, as values, and the words each failure is reported with. A failure
of the engine carries a label that names its kind; a submission that is refused takes
the label of its cause. A chain of steps succeeds when each of its steps does, which lets
a chain be taken apart step by step.
-/

import SuperblockGovernance.Hash256
import SuperblockGovernance.Amount
import SuperblockGovernance.Text.Quoted

namespace SuperblockGovernance

/-! ### Texts that denote nothing -/

/-- A text that is no amount, or no payout address. -/
inductive ScalarError
  | invalidAmount (text : String)
  | invalidAddress (text : String)
  deriving DecidableEq

/-- What is said about a text that is no amount or no address. -/
def ScalarError.message : ScalarError → String
  | invalidAmount text => "invalid amount `" ++ text ++ "`"
  | invalidAddress text => "invalid payout address `" ++ text ++ "`"

/-- The octet in question is shown as the character of that number. -/
def Hexadecimal.Fault.message : Hexadecimal.Fault → String
  | .oddLength => "Odd number of digits"
  | .invalidCharacter octet position =>
    "Invalid character " ++ Text.quotedCharacter (Char.ofNat octet.toNat) ++ " at position " ++
      toString position

/-! ### Contracts and triggers -/

/-- Contract data that is malformed, or a height or total that a contract may not have. -/
inductive ValidationError
  | missingSection (tag : String)
  | countMismatch (addresses amounts : Nat)
  | duplicateAddress (address : String)
  | scalar (cause : ScalarError)
  | nonCanonical (reason : String)
  | notSuperblockHeight (height : Height)
  | beyondHorizon (height horizon : Height)
  | malformedPayload (reason : String)
  | emptyContract
  | belowMinimum (total : Nat)
  deriving DecidableEq

/-- What is said about a contract that is not valid. -/
def ValidationError.message : ValidationError → String
  | missingSection tag => "missing <" ++ tag ++ "> section"
  | countMismatch addresses amounts =>
    toString addresses ++ " payout addresses but " ++ toString amounts ++ " amounts"
  | duplicateAddress address => "payout address " ++ address ++ " appears twice"
  | scalar cause => cause.message
  | nonCanonical reason => "non-canonical contract text: " ++ reason
  | notSuperblockHeight height => "height " ++ toString height ++ " is not a superblock height"
  | beyondHorizon height horizon =>
    "superblock " ++ toString height ++ " is beyond the voting horizon " ++ toString horizon
  | malformedPayload reason => "malformed trigger payload: " ++ reason
  | emptyContract => "contract has no payouts"
  | belowMinimum total => "contract pays " ++ toString total ++ " which is below one coin"

/-- A payout total above the ceiling of its height. -/
structure BudgetError where
  height : Height
  total : Nat
  limit : Amount
  deriving DecidableEq

/-- What is said about a total over its limit. -/
def BudgetError.message (error : BudgetError) : String :=
  "payout total " ++ toString error.total ++ " exceeds budget limit " ++ toString error.limit ++
    " at height " ++ toString error.height

/-! ### Votes, relay and submission -/

/-- A vote or an object that failed the identity checks. -/
inductive QuorumError
  | invalidVoter (voter : Identity)
  | notASanctuary
  | unknownObject (object : ObjectId)
  deriving DecidableEq

/-- What is said about a vote that cannot be made or taken. -/
def QuorumError.message : QuorumError → String
  | invalidVoter voter => "vote from " ++ voter.text ++ " failed identity verification"
  | notASanctuary => "this node is not a sanctuary"
  | unknownObject object => "unknown governance object " ++ object.toMarkedHex

/-- The relay did not take a message. -/
inductive NetworkError
  | relay (reason : String)
  | queueClosed
  deriving DecidableEq

/-- What is said about a relay that took nothing. -/
def NetworkError.message : NetworkError → String
  | relay reason => "relay failed: " ++ reason
  | queueClosed => "relay queue closed"

/-- Why a trigger was not submitted. -/
inductive SubmitError
  | notASanctuary
  | notSynced
  | rateLimited (retryIn : Nat)
  | validation (cause : ValidationError)
  | budget (cause : BudgetError)
  | network (cause : NetworkError)
  deriving DecidableEq

/-- What is said about a trigger that is not submitted. -/
def SubmitError.message : SubmitError → String
  | notASanctuary => "this node is not a sanctuary"
  | notSynced => "chain is not synced"
  | rateLimited retryIn =>
    "a trigger was submitted recently, retry in " ++ toString retryIn ++ "s"
  | validation cause => cause.message
  | budget cause => cause.message
  | network cause => cause.message

/-! ### Block payments -/

/-- The bound that a coinbase passed. -/
inductive ValueBound
  | regularReward
  | superblockMaximum
  | rewardWithoutTrigger
  | triggeredContract
  deriving DecidableEq

/-- What is said about the bound that a block passes. -/
def ValueBound.reason : ValueBound → String
  | regularReward => "only regular blocks are allowed at this height"
  | superblockMaximum => "exceeded superblock max value"
  | rewardWithoutTrigger => "no triggered superblock"
  | triggeredContract => "exceeded triggered contract value"

/-- Why a block is rejected for its payments. -/
inductive PaymentError
  | valueTooHigh (height : Height) (actual limit : Nat) (bound : ValueBound)
  | missingSuperblockPayee (height : Height) (payee : String) (amount : Amount)
  | missingMasternodePayee (height : Height) (payee : String) (amount : Amount)
  | budget (cause : BudgetError)
  deriving DecidableEq

/-- What is said about a block that pays wrongly. -/
def PaymentError.message : PaymentError → String
  | valueTooHigh height actual limit bound =>
    "coinbase pays too much at height " ++ toString height ++ " (actual=" ++ toString actual ++
      " vs limit=" ++ toString limit ++ "): " ++ bound.reason
  | missingSuperblockPayee height payee amount =>
    "superblock payee " ++ payee ++ " for " ++ toString amount ++ " missing at height " ++
      toString height
  | missingMasternodePayee height payee amount =>
    "masternode payee " ++ payee ++ " for " ++ toString amount ++ " missing at height " ++
      toString height
  | budget cause => cause.message

/-! ### The engine -/

/-- Any failure of a call to the engine. -/
inductive GovernanceError
  | validation (cause : ValidationError)
  | budget (cause : BudgetError)
  | quorum (cause : QuorumError)
  | network (cause : NetworkError)
  | submit (cause : SubmitError)
  deriving DecidableEq

namespace GovernanceError

/-- What is said about a failure. -/
def message : GovernanceError → String
  | validation cause => cause.message
  | budget cause => cause.message
  | quorum cause => cause.message
  | network cause => cause.message
  | submit cause => cause.message

/-- The kind of failure, reported next to the message. -/
def label : GovernanceError → String
  | validation _ => "ValidationError"
  | budget _ => "BudgetError"
  | quorum _ => "QuorumError"
  | network _ => "NetworkError"
  | submit cause =>
    match cause with
    | .notASanctuary => "QuorumError"
    | .validation _ => "ValidationError"
    | .budget _ => "BudgetError"
    | .notSynced | .rateLimited _ | .network _ => "NetworkError"

end GovernanceError

/-! ### Results that may be failures -/

section

variable {ε δ α β : Type}

theorem bind_eq_ok_iff {first : Except ε α} {next : α → Except ε β} {result : β} :
    (first >>= next) = .ok result ↔ ∃ value, first = .ok value ∧ next value = .ok result := by
  cases first with
  | error cause => simp [bind, Except.bind]
  | ok value => simp [bind, Except.bind]

/-- One check after another succeeds when both do. -/
theorem seq_eq_ok_iff {first second : Except ε Unit} :
    (first >>= fun _ => second) = .ok () ↔ first = .ok () ∧ second = .ok () := by
  rw [bind_eq_ok_iff]
  exact ⟨fun ⟨_, one, other⟩ => ⟨one, other⟩, fun ⟨one, other⟩ => ⟨(), one, other⟩⟩

theorem mapError_eq_ok_iff {result : Except ε α} {change : ε → δ} {value : α} :
    result.mapError change = .ok value ↔ result = .ok value := by
  cases result with
  | error cause => exact iff_of_false nofun nofun
  | ok found =>
    exact ⟨fun same => congrArg _ (Except.ok.inj same), fun same => congrArg _ (Except.ok.inj same)⟩

theorem toOption_eq_some_iff {result : Except ε α} {value : α} :
    result.toOption = some value ↔ result = .ok value := by
  cases result <;> simp [Except.toOption]

end

end SuperblockGovernance
