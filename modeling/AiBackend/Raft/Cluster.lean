import AiBackend.Raft.Node
import Mathlib.Logic.Function.Basic

/-!
# A cluster of FSMs and the network between them

`members` FSMs, each constructed with the other members as its peers, and the requests in
flight between them. A step is a `main` step of one member (its requests go on the wire), the
delivery of one request to the callback of its receiver, or the loss of one request. The reply
to a RequestVote reaches the caller's gather only while that gather, of the round the request
belongs to, is pending and the reply is not lost; every other reply counts as not granted, as a
timed-out `request_vote` does. Replies to AppendEntries are not read by the leader.

Two ghost records follow the run: every granted RequestVote (`granted`), and every step in
which a member became LEADER, with the round it won (`elected`).

The client is an assumption. `raft.py` imports `RaftClient` from `.client`, which `client.py`
does not define: it has `AbstractRaftClient` and `GrpcRaftClient`. `_request_vote` adds up what
`request_vote` returns, and `_publish_heartbeat` calls `request_append_entries`, which
`GrpcRaftClient` lacks. The cluster therefore runs the FSMs with a client whose `request_vote`
returns the peer's `vote_granted` flag, false when the call fails or times out, and whose
`request_append_entries` returns; every result about a run holds for that client.
`GrpcRaftClient`'s own methods are modelled below (`GrpcRaftClient.requestVote`,
`GrpcRaftClient.appendEntries`): they return `(term, flag)` tuples, which `sum` cannot add.
-/

namespace AiBackend.Raft

/-! ## The gRPC client of `client.py` -/

/-- How a gRPC call of `GrpcRaftClient` ends: the peer's reply, an `AioRpcError`, the `wait_for`
timeout, or the cancellation of the awaiting task. -/
inductive RpcOutcome
  | reply (term : Nat) (flag : Bool)
  | rpcError
  | timeout
  | cancelled
  deriving DecidableEq, Repr

/-- `GrpcRaftClient.request_vote` with its `_request_vote`: the reply's term and
`vote_granted`, or the caller's term and `False` on `AioRpcError` and on `TimeoutError`; a
cancellation goes through (`none`). -/
def GrpcRaftClient.requestVote (term : Nat) : RpcOutcome → Option (Nat × Bool)
  | .reply replyTerm voteGranted => some (replyTerm, voteGranted)
  | .rpcError | .timeout => some (term, false)
  | .cancelled => none

/-- `GrpcRaftClient.append_entries` with its `_append_entries`: the reply's term and
`success`, or the caller's term and `False`, a cancellation included. -/
def GrpcRaftClient.appendEntries (term : Nat) : RpcOutcome → Nat × Bool
  | .reply replyTerm success => (replyTerm, success)
  | .rpcError | .timeout | .cancelled => (term, false)

/-! ## The cluster -/

/-- A request on the wire: the caller, the round of the caller's gather it belongs to (the term
that round raised to; `0` for heartbeats), and the call. -/
structure Envelope where
  src : PeerId
  round : Nat
  request : Request
  deriving DecidableEq, Repr

/-- The round a pending gather belongs to. -/
def MainPc.round : MainPc → Nat
  | .voteGather round => round
  | _ => 0

/-- Ghost: a granted RequestVote: the voter, the candidate it named, the voter's term after the
call, and the caller, round and term of the request. -/
structure Grant where
  voter : PeerId
  candidateId : PeerId
  term : Nat
  src : PeerId
  round : Nat
  requestTerm : Nat
  deriving DecidableEq, Repr

/-- The members, their FSMs, the requests in flight, and the grants each pending gather has
heard. -/
structure Cluster where
  members : List PeerId
  nodes : PeerId → RaftFiniteStateMachine
  inFlight : List Envelope
  ballots : PeerId → List PeerId
  granted : List Grant
  elected : List (PeerId × Nat)

/-- What the cluster can do next. -/
inductive Event
  /-- `main` of member `i` runs to its next await point. -/
  | main (i : PeerId)
  /-- The receiver of `e` handles it; the reply of a RequestVote may be lost. -/
  | deliver (e : Envelope) (replyLost : Bool)
  /-- `e` is lost. -/
  | drop (e : Envelope)
  deriving DecidableEq, Repr

namespace Cluster

/-- Every member constructed with the others as its peers; nothing in flight. -/
def init (members : List PeerId) (electionTimeout : PeerId → Nat) : Cluster where
  members := members
  nodes i := .init i (members.erase i) (electionTimeout i)
  inFlight := []
  ballots _ := []
  granted := []
  elected := []

/-- What the pending gather of `i` returns: granted for each peer whose grant reached it, not
granted for every other one (refused, lost or timed out). -/
def results (c : Cluster) (i : PeerId) : List Bool :=
  (c.nodes i).peers.map fun p => decide (p ∈ c.ballots i)

/-- The round a member that has just become LEADER won: the round of its gather, or, for a
round with no peers, which never suspends, the term it raised to. -/
def wonRound (s s' : RaftFiniteStateMachine) : Nat :=
  match s.pc with
  | .voteGather r => r
  | _ => s'.currentTerm

/-- `main` of member `i` runs to its next await point; its requests go on the wire, its gather
forgets the grants it heard, and a step that makes it LEADER is recorded with the round won. -/
def runMain (c : Cluster) (i : PeerId) : Cluster :=
  let s' := ((c.nodes i).mainStep (c.results i)).1
  let reqs := ((c.nodes i).mainStep (c.results i)).2
  { c with
    nodes := Function.update c.nodes i s'
    inFlight := c.inFlight ++ reqs.map fun r => ⟨i, s'.pc.round, r⟩
    ballots := Function.update c.ballots i []
    elected :=
      if (c.nodes i).state ≠ .leader ∧ s'.state = .leader then
        c.elected ++ [(i, wonRound (c.nodes i) s')]
      else c.elected }

/-- `dst` handles the RequestVote `e`. A grant reaches the caller's gather unless the reply is
lost or that gather is over. -/
def deliverRequestVote (c : Cluster) (e : Envelope) (replyLost : Bool) (dst : PeerId)
    (term : Nat) (candidateId : PeerId) : Cluster :=
  let s' := ((c.nodes dst).onRequestVote term candidateId).1
  let granted := ((c.nodes dst).onRequestVote term candidateId).2
  let counted := granted && !replyLost && decide ((c.nodes e.src).pc = .voteGather e.round)
  { c with
    nodes := Function.update c.nodes dst s'
    inFlight := c.inFlight.erase e
    ballots := if counted then Function.update c.ballots e.src (c.ballots e.src ++ [dst])
      else c.ballots
    granted := if granted then
        c.granted ++ [⟨dst, candidateId, s'.currentTerm, e.src, e.round, term⟩]
      else c.granted }

/-- `dst` handles the AppendEntries `e`. -/
def deliverAppendEntries (c : Cluster) (e : Envelope) (dst : PeerId) (term : Nat)
    (leaderId : PeerId) : Cluster :=
  { c with
    nodes := Function.update c.nodes dst ((c.nodes dst).onAppendEntries term leaderId).1
    inFlight := c.inFlight.erase e }

/-- One step of the cluster, if the event can happen. -/
def step (c : Cluster) : Event → Option Cluster
  | .main i => if i ∈ c.members then some (c.runMain i) else none
  | .deliver e replyLost =>
    if e ∈ c.inFlight then
      match e.request with
      | .requestVote dst term candidateId =>
        some (c.deliverRequestVote e replyLost dst term candidateId)
      | .appendEntries dst term leaderId => some (c.deliverAppendEntries e dst term leaderId)
    else none
  | .drop e => if e ∈ c.inFlight then some { c with inFlight := c.inFlight.erase e } else none

/-- The state after a sequence of events, if each can happen in turn. -/
def run (c : Cluster) : List Event → Option Cluster
  | [] => some c
  | ev :: evs => (c.step ev).bind fun c' => c'.run evs

/-- The states a cluster reaches from its construction. -/
inductive Reachable (members : List PeerId) (electionTimeout : PeerId → Nat) : Cluster → Prop
  | init : Reachable members electionTimeout (init members electionTimeout)
  | step {c c' : Cluster} (ev : Event) :
      Reachable members electionTimeout c → c.step ev = some c' →
        Reachable members electionTimeout c'

theorem Reachable.run {members : List PeerId} {electionTimeout : PeerId → Nat} :
    ∀ {c c' : Cluster} (evs : List Event), Reachable members electionTimeout c →
      c.run evs = some c' → Reachable members electionTimeout c'
  | _, _, [], h, he => by cases he; exact h
  | c, _, ev :: evs, h, he => by
    simp only [Cluster.run, Option.bind_eq_some] at he
    obtain ⟨c₁, h₁, h₂⟩ := he
    exact Reachable.run evs (h.step ev h₁) h₂

/-! ## Two leaders in one term -/

/-- Three members with an election timeout of five polls. `b` times out, asks `a` and `c` for
their vote with term 0 and gets `a`'s: LEADER of term 1. Its request to `c` is still in flight
when `a` times out in turn: `a` moves to term 1, asks with term 0, gets `c`'s vote and counts its
own, which it never recorded (it had voted for `b` in term 0): LEADER of term 1 as well. -/
theorem two_leaders_in_one_term :
    ∃ c, Reachable ["a", "b", "c"] (fun _ => 5) c ∧
      (c.nodes "a").state = .leader ∧ (c.nodes "b").state = .leader ∧
      (c.nodes "a").currentTerm = 1 ∧ (c.nodes "b").currentTerm = 1 := by
  have h : ((init ["a", "b", "c"] fun _ => 5).run
      (List.replicate 7 (.main "b") ++
        [.deliver ⟨"b", 1, .requestVote "a" 0 "b"⟩ false, .main "b"] ++
        List.replicate 7 (.main "a") ++
        [.deliver ⟨"a", 1, .requestVote "c" 0 "a"⟩ false, .main "a"])).map
      (fun c => ((c.nodes "a").state, (c.nodes "b").state,
        (c.nodes "a").currentTerm, (c.nodes "b").currentTerm)) =
      some (.leader, .leader, 1, 1) := by
    decide
  obtain ⟨c, hc, he⟩ := Option.map_eq_some'.1 h
  simp only [Prod.mk.injEq] at he
  exact ⟨c, Reachable.init.run _ hc, he⟩

end Cluster

end AiBackend.Raft
