import Mathlib.Data.Nat.Defs

/-!
# The Raft finite state machine

`RaftFiniteStateMachine` of `common/distributed/raft/raft.py`, with its state passed explicitly.

`main` is an `async` loop on a cooperative event loop: it is suspended only at its `await`s, and
the protocol callbacks `on_append_entries` and `on_request_vote`, which the server invokes, run
to completion between two such suspensions. `MainPc` names the await point `main` is suspended
at, and `mainStep` runs `main` from one await point to the next. `_request_vote` therefore
splits in two (`requestVoteStart` before `asyncio.gather`, `requestVoteFinish` after it), and
inbound calls may run in between.

Durations are counted in polls of `_wait_for_election_timeout` (`elapsedTime`,
`electionTimeout`); the other sleeps only give the scheduler a turn. The replies a round
gathers are the values `request_vote` returns, summed by `sum(results)` as booleans.
-/

namespace AiBackend.Raft

/-- `types.PeerId`: the id of a participant. A peer is addressed by its id. -/
abbrev PeerId := String

/-- `RaftState`. -/
inductive RaftState
  | follower
  | candidate
  | leader
  deriving DecidableEq, Repr

/-- The await point at which `main` is suspended. -/
inductive MainPc
  /-- Before the `match` of the outer loop: not started yet, or at `await asyncio.sleep(0)`. -/
  | loopTop
  /-- In `_wait_for_election_timeout`, at `await asyncio.sleep(interval)`. -/
  | electionWait
  /-- In `_request_vote`, at `await asyncio.gather(...)` of the round that raised the term to
  `round`. -/
  | voteGather (round : Nat)
  /-- In the candidate loop, at `await asyncio.sleep(self._election_timeout)`. -/
  | candidateSleep
  /-- In `_publish_heartbeat`, at `await asyncio.wait(...)`. -/
  | heartbeatWait
  /-- In the leader loop, at `await asyncio.sleep(self._heartbeat_interval)`. -/
  | heartbeatSleep
  /-- `main` has raised and runs no more. -/
  | crashed
  deriving DecidableEq, Repr

/-- The fields of `RaftFiniteStateMachine` that its methods read or write. -/
structure RaftFiniteStateMachine where
  id : PeerId
  peers : List PeerId
  /-- `_election_timeout`, in polls of `_wait_for_election_timeout`. -/
  electionTimeout : Nat
  currentTerm : Nat
  votedFor : Option PeerId
  leaderId : Option PeerId
  state : RaftState
  /-- `_elapsed_time`, in polls. -/
  elapsedTime : Nat
  pc : MainPc
  deriving DecidableEq, Repr

/-- An outbound call of the FSM to its client. -/
inductive Request
  /-- `request_vote(address=peer, term=term, candidate_id=self.id, last_log_index=0,
  last_log_term=0)`. -/
  | requestVote (address : PeerId) (term : Nat) (candidateId : PeerId)
  /-- `request_append_entries(address=peer, term=self._current_term, leader_id=self.id,
  entries=())`. -/
  | appendEntries (address : PeerId) (term : Nat) (leaderId : PeerId)
  deriving DecidableEq, Repr

namespace RaftFiniteStateMachine

/-- `__init__`: term 0, no vote, no known leader, `execute_transition(RaftState.FOLLOWER)`;
`main` has not started. -/
def init (id : PeerId) (peers : List PeerId) (electionTimeout : Nat) : RaftFiniteStateMachine :=
  { id, peers, electionTimeout, currentTerm := 0, votedFor := none, leaderId := none,
    state := .follower, elapsedTime := 0, pc := .loopTop }

variable (s : RaftFiniteStateMachine)

/-- `membership`. -/
def membership : Nat := s.peers.length + 1

/-- `quorum`: `math.floor(self.membership / 2) + 1`. The float division is exact for every
membership below `2 ^ 53`. -/
def quorum : Nat := s.membership / 2 + 1

/-- `is_leader`. -/
def isLeader : Bool := s.leaderId == some s.id

/-- `execute_transition`; the state-change callback is not modelled. -/
def executeTransition (nextState : RaftState) : RaftFiniteStateMachine :=
  { s with state := nextState }

/-- `reset_timeout`. -/
def resetTimeout : RaftFiniteStateMachine := { s with elapsedTime := 0 }

/-- `_synchronize_term`. -/
def synchronizeTerm (term : Nat) : RaftFiniteStateMachine :=
  if term > s.currentTerm then
    { ({ s with currentTerm := term }).executeTransition .follower with votedFor := none }
  else s

/-- `on_append_entries`; the log arguments are not read. -/
def onAppendEntries (term : Nat) (leaderId : PeerId) : RaftFiniteStateMachine × Bool :=
  if term < s.currentTerm then (s, false)
  else ({ s.synchronizeTerm term with leaderId := some leaderId }.resetTimeout, true)

/-- `on_request_vote`; the log arguments are not read. The stale-term test compares with the
term read before `_synchronize_term`. -/
def onRequestVote (term : Nat) (candidateId : PeerId) : RaftFiniteStateMachine × Bool :=
  let currentTerm := s.currentTerm
  let s := (s.synchronizeTerm term).resetTimeout
  if term < currentTerm then (s, false)
  else
    match s.votedFor with
    | none => ({ s with votedFor := some candidateId }, true)
    | some votedFor => (s, votedFor == candidateId)

/-- `_request_vote` up to `await asyncio.gather(...)`: the term goes up by one, and every peer is
asked for its vote with the term read before the increase. -/
def requestVoteStart : RaftFiniteStateMachine × List Request :=
  let term := s.currentTerm
  let s' := (s.synchronizeTerm (term + 1)).executeTransition .candidate
  (s', s'.peers.map fun peer => .requestVote peer term s'.id)

/-- `_request_vote` after the gather: `if sum(results) + 1 >= self.quorum`. -/
def requestVoteFinish (results : List Bool) : RaftFiniteStateMachine :=
  if results.count true + 1 ≥ s.quorum then s.executeTransition .leader else s

/-- The candidate loop after `await self._request_vote()`: `break` on LEADER, else
`await asyncio.sleep(self._election_timeout)`. -/
def afterRequestVote : RaftFiniteStateMachine :=
  if s.state = .leader then { s with pc := .loopTop } else { s with pc := .candidateSleep }

/-- One pass of the candidate loop up to its next await point. `asyncio.gather()` of no tasks
returns a finished future, so with no peers the round does not suspend. -/
def runRequestVote : RaftFiniteStateMachine × List Request :=
  if s.peers = [] then (((s.requestVoteStart).1.requestVoteFinish []).afterRequestVote, [])
  else ({ s.requestVoteStart.1 with pc := .voteGather (s.currentTerm + 1) }, s.requestVoteStart.2)

/-- `_publish_heartbeat` up to `await asyncio.wait(...)`. `asyncio.wait` of an empty set raises
`ValueError`, which ends `main`. -/
def publishHeartbeat : RaftFiniteStateMachine × List Request :=
  if s.peers = [] then ({ s with pc := .crashed }, [])
  else
    ({ s with pc := .heartbeatWait },
      s.peers.map fun peer => .appendEntries peer s.currentTerm s.id)

/-- `_wait_for_election_timeout` from its loop test on, then
`execute_transition(RaftState.CANDIDATE)` and `await asyncio.sleep(0)`. -/
def waitForElectionTimeout : RaftFiniteStateMachine :=
  if s.elapsedTime < s.electionTimeout then { s with pc := .electionWait }
  else { s.executeTransition .candidate with pc := .loopTop }

/-- `main` from its current await point to the next one. `results` is the value of the gather
when `main` is suspended there. -/
def mainStep (results : List Bool) : RaftFiniteStateMachine × List Request :=
  match s.pc with
  | .loopTop =>
    match s.state with
    | .follower => (s.resetTimeout.waitForElectionTimeout, [])
    | .candidate => { s with leaderId := none }.runRequestVote
    | .leader => { s with leaderId := some s.id }.publishHeartbeat
  | .electionWait => ({ s with elapsedTime := s.elapsedTime + 1 }.waitForElectionTimeout, [])
  | .voteGather _ => ((s.requestVoteFinish results).afterRequestVote, [])
  | .candidateSleep =>
    if s.state = .candidate then s.runRequestVote else ({ s with pc := .loopTop }, [])
  | .heartbeatWait => ({ s with pc := .heartbeatSleep }, [])
  | .heartbeatSleep =>
    if s.state = .leader then s.publishHeartbeat else ({ s with pc := .loopTop }, [])
  | .crashed => (s, [])

/-! ## What each operation does to the term, the vote and the state -/

variable {s}

@[simp] theorem synchronizeTerm_currentTerm (t : Nat) :
    (s.synchronizeTerm t).currentTerm = max s.currentTerm t := by
  unfold synchronizeTerm executeTransition
  split
  · dsimp only; omega
  · omega

theorem synchronizeTerm_of_le {t : Nat} (h : t ≤ s.currentTerm) : s.synchronizeTerm t = s := by
  simp [synchronizeTerm, Nat.not_lt.2 h]

theorem synchronizeTerm_of_lt {t : Nat} (h : s.currentTerm < t) :
    s.synchronizeTerm t = { s with currentTerm := t, state := .follower, votedFor := none } := by
  simp [synchronizeTerm, h, executeTransition]

theorem synchronizeTerm_state (t : Nat) :
    (s.synchronizeTerm t).state = if s.currentTerm < t then .follower else s.state := by
  unfold synchronizeTerm executeTransition; split <;> simp_all

@[simp] theorem synchronizeTerm_leaderId (t : Nat) :
    (s.synchronizeTerm t).leaderId = s.leaderId := by
  unfold synchronizeTerm; split <;> rfl

@[simp] theorem synchronizeTerm_pc (t : Nat) : (s.synchronizeTerm t).pc = s.pc := by
  unfold synchronizeTerm; split <;> rfl

@[simp] theorem synchronizeTerm_id (t : Nat) : (s.synchronizeTerm t).id = s.id := by
  unfold synchronizeTerm; split <;> rfl

@[simp] theorem synchronizeTerm_peers (t : Nat) : (s.synchronizeTerm t).peers = s.peers := by
  unfold synchronizeTerm; split <;> rfl

/-- `_synchronize_term` never makes a node LEADER. -/
theorem synchronizeTerm_state_eq_leader {t : Nat} (h : (s.synchronizeTerm t).state = .leader) :
    s.state = .leader := by
  rw [synchronizeTerm_state] at h
  split at h
  · cases h
  · exact h

/-- An accepted AppendEntries records its sender as leader; a stale one changes nothing. -/
theorem onAppendEntries_eq (term : Nat) (leaderId : PeerId) :
    s.onAppendEntries term leaderId =
      if term < s.currentTerm then (s, false)
      else ({ s.synchronizeTerm term with leaderId := some leaderId, elapsedTime := 0 }, true) :=
  rfl

@[simp] theorem onAppendEntries_id (term : Nat) (l : PeerId) :
    (s.onAppendEntries term l).1.id = s.id := by
  rw [onAppendEntries_eq]; split <;> simp

@[simp] theorem onAppendEntries_peers (term : Nat) (l : PeerId) :
    (s.onAppendEntries term l).1.peers = s.peers := by
  rw [onAppendEntries_eq]; split <;> simp

@[simp] theorem onAppendEntries_pc (term : Nat) (l : PeerId) :
    (s.onAppendEntries term l).1.pc = s.pc := by
  rw [onAppendEntries_eq]; split <;> simp

/-- `on_append_entries` never makes a node LEADER. -/
theorem onAppendEntries_state_eq_leader {term : Nat} {l : PeerId}
    (h : (s.onAppendEntries term l).1.state = .leader) : s.state = .leader := by
  rw [onAppendEntries_eq] at h
  split at h
  · exact h
  · exact synchronizeTerm_state_eq_leader h

@[simp] theorem onRequestVote_currentTerm (term : Nat) (c : PeerId) :
    (s.onRequestVote term c).1.currentTerm = max s.currentTerm term := by
  dsimp only [onRequestVote]
  split
  · simp [resetTimeout]
  · split <;> simp [resetTimeout]

@[simp] theorem onRequestVote_state (term : Nat) (c : PeerId) :
    (s.onRequestVote term c).1.state = (s.synchronizeTerm term).state := by
  dsimp only [onRequestVote]
  split
  · rfl
  · split <;> rfl

@[simp] theorem onRequestVote_id (term : Nat) (c : PeerId) :
    (s.onRequestVote term c).1.id = s.id := by
  dsimp only [onRequestVote]
  split
  · simp [resetTimeout]
  · split <;> simp [resetTimeout]

@[simp] theorem onRequestVote_peers (term : Nat) (c : PeerId) :
    (s.onRequestVote term c).1.peers = s.peers := by
  dsimp only [onRequestVote]
  split
  · simp [resetTimeout]
  · split <;> simp [resetTimeout]

@[simp] theorem onRequestVote_pc (term : Nat) (c : PeerId) :
    (s.onRequestVote term c).1.pc = s.pc := by
  dsimp only [onRequestVote]
  split
  · simp [resetTimeout]
  · split <;> simp [resetTimeout]

@[simp] theorem onRequestVote_leaderId (term : Nat) (c : PeerId) :
    (s.onRequestVote term c).1.leaderId = s.leaderId := by
  dsimp only [onRequestVote]
  split
  · simp [resetTimeout]
  · split <;> simp [resetTimeout]

/-- `on_request_vote` never makes a node LEADER. -/
theorem onRequestVote_state_eq_leader {term : Nat} {c : PeerId}
    (h : (s.onRequestVote term c).1.state = .leader) : s.state = .leader :=
  synchronizeTerm_state_eq_leader (by rwa [onRequestVote_state] at h)

/-- `on_request_vote` grants exactly when the term is not stale and the vote, after the term
synchronisation, is free or already the candidate's. -/
theorem onRequestVote_grant_iff (term : Nat) (c : PeerId) :
    (s.onRequestVote term c).2 = true ↔
      s.currentTerm ≤ term ∧
        ((s.synchronizeTerm term).votedFor = none ∨
          (s.synchronizeTerm term).votedFor = some c) := by
  dsimp only [onRequestVote]
  split
  · simp only [Bool.false_eq_true, false_iff, not_and]; omega
  · split <;> simp_all [resetTimeout]

/-- After `on_request_vote` the vote names the candidate if it granted, and is the synchronised
vote otherwise. -/
theorem onRequestVote_votedFor (term : Nat) (c : PeerId) :
    (s.onRequestVote term c).1.votedFor =
      if (s.onRequestVote term c).2 then some c else (s.synchronizeTerm term).votedFor := by
  dsimp only [onRequestVote]
  split
  · simp [resetTimeout]
  · split
    · simp [resetTimeout]
    · rename_i v hv
      by_cases e : v = c <;> simp_all [resetTimeout]

/-! ## The steps of `main` -/

@[simp] theorem waitForElectionTimeout_eq :
    s.waitForElectionTimeout =
      { s with state := if s.elapsedTime < s.electionTimeout then s.state else .candidate,
               pc := if s.elapsedTime < s.electionTimeout then .electionWait else .loopTop } := by
  unfold waitForElectionTimeout executeTransition; split <;> simp_all

@[simp] theorem afterRequestVote_eq :
    s.afterRequestVote =
      { s with pc := if s.state = .leader then .loopTop else .candidateSleep } := by
  unfold afterRequestVote; split <;> simp_all

@[simp] theorem requestVoteFinish_eq (results : List Bool) :
    s.requestVoteFinish results =
      { s with state := if results.count true + 1 ≥ s.quorum then .leader else s.state } := by
  unfold requestVoteFinish executeTransition; split <;> simp_all

@[simp] theorem publishHeartbeat_fst :
    s.publishHeartbeat.1 = { s with pc := if s.peers = [] then .crashed else .heartbeatWait } := by
  unfold publishHeartbeat; split <;> simp_all

/-- A heartbeat sends, to each peer, an AppendEntries naming the node with its term. -/
theorem mem_publishHeartbeat_snd {q : Request} (h : q ∈ s.publishHeartbeat.2) :
    ∃ dst, q = .appendEntries dst s.currentTerm s.id := by
  unfold publishHeartbeat at h
  split at h
  · cases h
  · obtain ⟨dst, -, rfl⟩ := List.mem_map.1 h
    exact ⟨dst, rfl⟩

theorem appendEntries_mem_publishHeartbeat {dst l : PeerId} {t : Nat}
    (h : Request.appendEntries dst t l ∈ s.publishHeartbeat.2) : l = s.id ∧ t = s.currentTerm := by
  obtain ⟨_, he⟩ := mem_publishHeartbeat_snd h
  cases he
  exact ⟨rfl, rfl⟩

/-- A heartbeat sends no RequestVote. -/
theorem requestVote_not_mem_publishHeartbeat (dst : PeerId) (t : Nat) (c : PeerId) :
    Request.requestVote dst t c ∉ s.publishHeartbeat.2 := fun h => by
  obtain ⟨_, he⟩ := mem_publishHeartbeat_snd h
  cases he

@[simp] theorem requestVoteStart_fst :
    s.requestVoteStart.1 =
      { s with currentTerm := s.currentTerm + 1, votedFor := none, state := .candidate } := by
  simp [requestVoteStart, synchronizeTerm_of_lt, executeTransition]

/-- A round raises the term by one and clears the vote; with no peers it is won at once. -/
@[simp] theorem runRequestVote_fst :
    s.runRequestVote.1 =
      { s with currentTerm := s.currentTerm + 1, votedFor := none,
               state := if s.peers = [] then .leader else .candidate,
               pc := if s.peers = [] then .loopTop else .voteGather (s.currentTerm + 1) } := by
  unfold runRequestVote
  split <;> simp_all [quorum, membership]

/-- Every step of `main` either keeps the term and the vote, or starts a vote round: the term
goes up by one, the vote is cleared, and the node is CANDIDATE, or LEADER when it has no
peers. -/
theorem mainStep_cases (results : List Bool) :
    ((s.mainStep results).1.currentTerm = s.currentTerm ∧
        (s.mainStep results).1.votedFor = s.votedFor) ∨
      ((s.mainStep results).1.currentTerm = s.currentTerm + 1 ∧
        (s.mainStep results).1.votedFor = none ∧
        ((s.mainStep results).1.state = .candidate ∨
          (s.mainStep results).1.state = .leader ∧ s.peers = [])) := by
  unfold mainStep
  split <;> (try split) <;> simp [resetTimeout] <;> exact (Classical.em _).symm

@[simp] theorem mainStep_id (results : List Bool) : (s.mainStep results).1.id = s.id := by
  unfold mainStep; split <;> (try split) <;> simp [resetTimeout]

@[simp] theorem mainStep_peers (results : List Bool) :
    (s.mainStep results).1.peers = s.peers := by
  unfold mainStep; split <;> (try split) <;> simp [resetTimeout]

theorem runRequestVote_snd :
    s.runRequestVote.2 =
      if s.peers = [] then []
      else s.peers.map fun peer => .requestVote peer s.currentTerm s.id := by
  unfold runRequestVote requestVoteStart
  split <;> simp_all [synchronizeTerm_of_lt, executeTransition]

/-- A round sends, to each peer, a RequestVote naming the node with the term before the round,
and leaves the node at the gather of the round. -/
theorem mem_runRequestVote_snd {q : Request} (h : q ∈ s.runRequestVote.2) :
    ∃ dst, q = .requestVote dst s.currentTerm s.id ∧
      s.runRequestVote.1.pc = .voteGather (s.currentTerm + 1) := by
  rw [runRequestVote_snd] at h
  split at h
  · cases h
  · obtain ⟨dst, -, rfl⟩ := List.mem_map.1 h
    exact ⟨dst, rfl, by simp_all⟩

theorem requestVote_mem_runRequestVote {dst c : PeerId} {t : Nat}
    (h : Request.requestVote dst t c ∈ s.runRequestVote.2) :
    c = s.id ∧ s.runRequestVote.1.pc = .voteGather (t + 1) := by
  obtain ⟨_, he, hpc⟩ := mem_runRequestVote_snd h
  cases he
  exact ⟨rfl, hpc⟩

/-- A round sends no AppendEntries. -/
theorem appendEntries_not_mem_runRequestVote (dst : PeerId) (t : Nat) (l : PeerId) :
    Request.appendEntries dst t l ∉ s.runRequestVote.2 := fun h => by
  obtain ⟨_, he, -⟩ := mem_runRequestVote_snd h
  cases he

/-- The RequestVotes of a step of `main` name the node and carry the term before its round, and
the node is then at the gather of the round that raised the term by one. -/
theorem mainStep_requestVote {results : List Bool} {dst : PeerId} {t : Nat} {c : PeerId}
    (h : Request.requestVote dst t c ∈ (s.mainStep results).2) :
    c = s.id ∧ (s.mainStep results).1.pc = .voteGather (t + 1) := by
  unfold mainStep at h ⊢
  cases hpc : s.pc <;> simp only [hpc] at h ⊢
  case loopTop =>
    cases hst : s.state <;> simp only [hst] at h ⊢
    · cases h
    · exact requestVote_mem_runRequestVote h
    · exact absurd h (requestVote_not_mem_publishHeartbeat _ _ _)
  case candidateSleep =>
    by_cases hc : s.state = .candidate <;> simp only [hc, if_true, if_false] at h ⊢
    · exact requestVote_mem_runRequestVote h
    · cases h
  case heartbeatSleep =>
    by_cases hc : s.state = .leader <;> simp only [hc, if_true, if_false] at h ⊢
    · exact absurd h (requestVote_not_mem_publishHeartbeat _ _ _)
    · cases h
  all_goals cases h

/-- A step of `main` that leaves the node at a gather has raised the term to that gather's
round. -/
theorem mainStep_pc_voteGather {results : List Bool} {r : Nat}
    (h : (s.mainStep results).1.pc = .voteGather r) : (s.mainStep results).1.currentTerm = r := by
  unfold mainStep at h ⊢
  split at h <;> (try split at h) <;> simp_all [resetTimeout] <;> split_ifs at h <;> simp_all

/-- A step of `main` makes the node LEADER only by counting a quorum at the end of its gather,
or by a round that has no peers to ask. -/
theorem mainStep_becomes_leader {results : List Bool} (hs : s.state ≠ .leader)
    (h : (s.mainStep results).1.state = .leader) :
    (∃ r, s.pc = .voteGather r ∧ s.quorum ≤ results.count true + 1) ∨ s.peers = [] := by
  unfold mainStep at h
  cases hpc : s.pc <;> simp only [hpc] at h
  case loopTop =>
    cases hst : s.state <;> simp only [hst] at h <;> simp [resetTimeout] at h <;>
      (try split_ifs at h) <;> simp_all
  all_goals
    (try simp only [waitForElectionTimeout_eq, afterRequestVote_eq, requestVoteFinish_eq] at h)
    (try split_ifs at h) <;> simp_all

/-! ## What `main` sends and records -/

/-- A granting `on_request_vote` leaves the node at the term of the request. -/
theorem onRequestVote_currentTerm_of_grant {term : Nat} {c : PeerId}
    (h : (s.onRequestVote term c).2 = true) : (s.onRequestVote term c).1.currentTerm = term := by
  have := ((onRequestVote_grant_iff term c).1 h).1
  simp only [onRequestVote_currentTerm]; omega

/-- An accepted AppendEntries records its sender as leader; a stale one keeps the record. -/
theorem onAppendEntries_leaderId (term : Nat) (l : PeerId) :
    (s.onAppendEntries term l).1.leaderId =
      if term < s.currentTerm then s.leaderId else some l := by
  rw [onAppendEntries_eq]; split <;> rfl

/-- The AppendEntries of a step of `main` are the heartbeats of a LEADER: they name the node
and carry its term. -/
theorem mainStep_appendEntries {results : List Bool} {dst : PeerId} {t : Nat} {l : PeerId}
    (h : Request.appendEntries dst t l ∈ (s.mainStep results).2) :
    l = s.id ∧ t = s.currentTerm ∧ s.state = .leader := by
  unfold mainStep at h
  cases hpc : s.pc <;> simp only [hpc] at h
  case loopTop =>
    cases hst : s.state <;> simp only [hst] at h
    · cases h
    · exact absurd h (appendEntries_not_mem_runRequestVote _ _ _)
    · exact (appendEntries_mem_publishHeartbeat h).imp_right (⟨·, rfl⟩)
  case candidateSleep =>
    split at h
    · exact absurd h (appendEntries_not_mem_runRequestVote _ _ _)
    · cases h
  case heartbeatSleep =>
    split at h
    · exact (appendEntries_mem_publishHeartbeat h).imp_right (⟨·, ‹_›⟩)
    · cases h
  all_goals cases h

/-- A step of `main` records no leader, or the one recorded before, or the node itself when it
is LEADER. -/
theorem mainStep_leaderId_eq_some {results : List Bool} {l : PeerId}
    (h : (s.mainStep results).1.leaderId = some l) :
    s.leaderId = some l ∨ l = s.id ∧ s.state = .leader := by
  unfold mainStep at h
  split at h <;> (try split at h) <;> simp_all [resetTimeout]

/-- `main` raises only at the heartbeat of a node without peers. -/
theorem mainStep_pc_crashed {results : List Bool} (h : (s.mainStep results).1.pc = .crashed) :
    s.pc = .crashed ∨ s.peers = [] := by
  unfold mainStep at h
  split at h <;> (try split at h) <;> simp_all [resetTimeout] <;> split_ifs at h

end RaftFiniteStateMachine

end AiBackend.Raft
