import ChainClient.Message.Governance

/-!
# Proposals

What the chain keeps about proposals, and the questions by which they are looked up. In a filter, an address that is not given is the empty text.
-/

namespace ChainClient.Governance

open Wire

structure TallyResult where
  yes : Decimal
  abstain : Decimal
  no : Decimal
  noWithVeto : Decimal
  deriving DecidableEq, Repr

def TallyResult.wire : Wire TallyResult :=
  record
    (field "yes" Decimal.wire <| field "abstain" Decimal.wire <| field "no" Decimal.wire <|
      field "no_with_veto" Decimal.wire .nil)
    (fun t => (t.yes, t.abstain, t.no, t.noWithVeto, ()))
    (fun (yes, abstain, no, noWithVeto, ()) => { yes, abstain, no, noWithVeto })

structure Proposal where
  content : Envelope
  id : UInt64
  status : ProposalStatus
  finalTally : TallyResult
  submitTime : String
  depositEndTime : String
  totalDeposit : List Coin
  votingStartTime : String
  votingEndTime : String

def Proposal.wire : Wire Proposal :=
  record
    (field "content" Envelope.wire <| field "id" quotedUInt64 <| field "proposal_status" ProposalStatus.wire <|
      field "final_tally_result" TallyResult.wire <| optionalField "submit_time" string "" <|
      optionalField "deposit_end_time" string "" <| optionalField "total_deposit" (list Coin.wire) [] <|
      optionalField "voting_start_time" string "" <| optionalField "voting_end_time" string "" .nil)
    (fun p => (p.content, p.id, p.status, p.finalTally, p.submitTime, p.depositEndTime, p.totalDeposit,
      p.votingStartTime, p.votingEndTime, ()))
    (fun (content, id, status, finalTally, submitTime, depositEndTime, totalDeposit, votingStartTime, votingEndTime,
        ()) =>
      { content, id, status, finalTally, submitTime, depositEndTime, totalDeposit, votingStartTime, votingEndTime })

/-- An address, or the empty text for none. -/
def optionalAddress : Wire (Option AccountAddress) :=
  parsed
    (fun | some address => address.text | none => "")
    (fun text => if text.isEmpty then .ok none else (Address.parse text).map some)

structure ProposalFilter where
  voter : Option AccountAddress
  depositor : Option AccountAddress
  status : ProposalStatus
  limit : UInt64
  deriving DecidableEq

def ProposalFilter.wire : Wire ProposalFilter :=
  record
    (field "Voter" optionalAddress <| field "Depositor" optionalAddress <|
      field "ProposalStatus" ProposalStatus.wire <| field "Limit" quotedUInt64 .nil)
    (fun f => (f.voter, f.depositor, f.status, f.limit, ()))
    (fun (voter, depositor, status, limit, ()) => { voter, depositor, status, limit })

structure ProposalQuery where
  id : UInt64
  deriving DecidableEq, Repr

def ProposalQuery.wire : Wire ProposalQuery :=
  record (field "ProposalID" quotedUInt64 .nil) (fun q => (q.id, ())) (fun (id, ()) => { id })

end ChainClient.Governance
