import ChainClient.Json.Envelope
import ChainClient.Json.Scalars

/-!
# Governance messages

Submitting a proposal, adding to its deposit and voting on it. A proposal's content is an envelope that may hold anything; the texts of a text proposal are checked when it holds one.
-/

namespace ChainClient.Governance

open Wire

inductive VoteOption where
  | empty
  | yes
  | abstain
  | no
  | noWithVeto
  deriving DecidableEq, Repr

/-- A name as people write it: without blanks around, letter case and underscores. -/
def normalName (text : String) : String :=
  String.ofList (((Text.trimChars text.toList).map Char.toLower).filter (· != '_'))

namespace VoteOption

def text : VoteOption → String
  | empty => ""
  | yes => "Yes"
  | abstain => "Abstain"
  | no => "No"
  | noWithVeto => "NoWithVeto"

def parse (text : String) : Except ValueError VoteOption :=
  let name := normalName text
  if name = "yes" then .ok yes
  else if name = "abstain" then .ok abstain
  else if name = "no" then .ok no
  else if name = "nowithveto" then .ok noWithVeto
  else .error (.invalidVoteOption text)

def wire : Wire VoteOption := parsed VoteOption.text fun text => if text.isEmpty then .ok empty else parse text

end VoteOption

inductive ProposalStatus where
  | none
  | depositPeriod
  | votingPeriod
  | passed
  | rejected
  | failed
  deriving DecidableEq, Repr

namespace ProposalStatus

def text : ProposalStatus → String
  | none => ""
  | depositPeriod => "DepositPeriod"
  | votingPeriod => "VotingPeriod"
  | passed => "Passed"
  | rejected => "Rejected"
  | failed => "Failed"

/-- A status that proposals can be filtered by. -/
def parseFilter (text : String) : Except ValueError ProposalStatus :=
  let name := normalName text
  if name = "depositperiod" then .ok depositPeriod
  else if name = "votingperiod" then .ok votingPeriod
  else if name = "passed" then .ok passed
  else if name = "rejected" then .ok rejected
  else .error (.invalidProposalStatus text)

def parse (text : String) : Except ValueError ProposalStatus :=
  if text = "" then .ok none else if text = "Failed" then .ok failed else parseFilter text

def wire : Wire ProposalStatus := parsed ProposalStatus.text parse

end ProposalStatus

structure TextProposal where
  title : String
  description : String
  deriving DecidableEq, Repr

namespace TextProposal

def typeName : String := "okexchain/gov/TextProposal"

def wire : Wire TextProposal :=
  record (field "title" string <| field "description" string .nil)
    (fun p => (p.title, p.description, ()))
    (fun (title, description, ()) => { title, description })

def maxTitle : Nat := 140

def maxDescription : Nat := 5000

/-- The proposal as the content of a submission. -/
def content (p : TextProposal) : Envelope := ⟨typeName, wire.json p⟩

/-- The text proposal that a content holds. -/
def ofContent? (content : Envelope) : Option TextProposal :=
  if content.typeName = typeName then (wire.readJson content.value).toOption else none

/-- Both texts must say something and be at most so many bytes long. -/
def validate (p : TextProposal) : Except MessageFlaw Unit :=
  if Text.blank p.title ∨ maxTitle < p.title.utf8ByteSize then .error .titleLength
  else if Text.blank p.description ∨ maxDescription < p.description.utf8ByteSize then .error .descriptionLength
  else .ok ()

end TextProposal

structure SubmitProposal where
  content : Envelope
  initialDeposit : List Coin
  proposer : AccountAddress

def SubmitProposal.wire : Wire SubmitProposal :=
  record
    (field "content" Envelope.wire <| field "initial_deposit" (list Coin.wire) <| field "proposer" Address.wire .nil)
    (fun m => (m.content, m.initialDeposit, m.proposer, ()))
    (fun (content, initialDeposit, proposer, ()) => { content, initialDeposit, proposer })

def SubmitProposal.validate (m : SubmitProposal) : Except MessageFlaw Unit :=
  match TextProposal.ofContent? m.content with
  | some proposal => proposal.validate
  | none => .ok ()

structure Deposit where
  proposal : UInt64
  depositor : AccountAddress
  amount : List Coin
  deriving DecidableEq

def Deposit.wire : Wire Deposit :=
  record
    (field "proposal_id" quotedUInt64 <| field "depositor" Address.wire <| field "amount" (list Coin.wire) .nil)
    (fun m => (m.proposal, m.depositor, m.amount, ()))
    (fun (proposal, depositor, amount, ()) => { proposal, depositor, amount })

def Deposit.validate (m : Deposit) : Except MessageFlaw Unit :=
  if m.amount.isEmpty ∨ m.amount.any (!·.isPositive) then .error .depositNotPositive else .ok ()

structure Vote where
  proposal : UInt64
  voter : AccountAddress
  option : VoteOption
  deriving DecidableEq

def Vote.wire : Wire Vote :=
  record
    (field "proposal_id" quotedUInt64 <| field "voter" Address.wire <| field "option" VoteOption.wire .nil)
    (fun m => (m.proposal, m.voter, m.option, ()))
    (fun (proposal, voter, option, ()) => { proposal, voter, option })

def Vote.validate (m : Vote) : Except MessageFlaw Unit := if m.option = .empty then .error .emptyVote else .ok ()

end ChainClient.Governance
