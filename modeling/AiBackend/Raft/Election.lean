import AiBackend.Raft.Cluster
import AiBackend.Raft.Quorum

/-!
# Votes and leaders on every cluster run

What the ghost records of a cluster run say about its FSMs, on every run from `Cluster.init`.

* `granted_unique_per_voter_term`: the grants of one member that leave it at one term all name
  one candidate, whatever the interleaving: the discipline of `term_vote_discipline`, for every
  member of the cluster at once.
* `leader_won_quorum`: a member in LEADER has won a round `r`: distinct peers, enough to reach
  its quorum with its own vote, each granted it a RequestVote of that round, which carried the
  term `r - 1`.

Neither gives one leader per term (`two_leaders_in_one_term`): the grants a round counts are
for the term before the one it raised to, and the candidate's own vote is counted but never
recorded, so nothing stops its peers granting that term to another candidate.

Two invariants carry the induction. `VotesInv` ties the grants of each member to its state, as
`GrantsBacked` does for one FSM. `Inv` holds the configuration of each FSM, the shape of the
RequestVotes on the wire, the grants each pending gather has heard, and the grants behind each
election.
-/

namespace AiBackend.Raft.Cluster

open RaftFiniteStateMachine

/-! ## The steps of a cluster -/

variable {c c' : Cluster}

/-- What one step of the cluster does: it runs `main` of a member, delivers a request in flight,
or loses one. -/
theorem step_cases {ev : Event} (h : c.step ev = some c') :
    (∃ i ∈ c.members, c' = c.runMain i) ∨
      (∃ e ∈ c.inFlight, ∃ replyLost dst t cand, e.request = .requestVote dst t cand ∧
        c' = c.deliverRequestVote e replyLost dst t cand) ∨
      (∃ e ∈ c.inFlight, ∃ dst t l, e.request = .appendEntries dst t l ∧
        c' = c.deliverAppendEntries e dst t l) ∨
      (∃ e ∈ c.inFlight, c' = { c with inFlight := c.inFlight.erase e }) := by
  cases ev with
  | main i =>
    simp only [step] at h
    split at h
    · exact .inl ⟨i, ‹_›, (Option.some.inj h).symm⟩
    · cases h
  | deliver e replyLost =>
    simp only [step] at h
    split at h
    · rename_i he
      split at h <;> rename_i hr <;> cases h
      · exact .inr (.inl ⟨e, he, replyLost, _, _, _, hr, rfl⟩)
      · exact .inr (.inr (.inl ⟨e, he, _, _, _, hr, rfl⟩))
    · cases h
  | drop e =>
    simp only [step] at h
    split at h
    · exact .inr (.inr (.inr ⟨e, ‹_›, (Option.some.inj h).symm⟩))
    · cases h

@[simp] theorem runMain_ballots (i : PeerId) :
    (c.runMain i).ballots = Function.update c.ballots i [] := rfl

@[simp] theorem runMain_granted (i : PeerId) : (c.runMain i).granted = c.granted := rfl

@[simp] theorem runMain_elected (i : PeerId) :
    (c.runMain i).elected =
      if (c.nodes i).state ≠ .leader ∧
          ((c.nodes i).mainStep (c.results i)).1.state = .leader then
        c.elected ++ [(i, wonRound (c.nodes i) ((c.nodes i).mainStep (c.results i)).1)]
      else c.elected := rfl

/-- A step of `main` records an election exactly when it makes a member LEADER. -/
theorem mem_runMain_elected {i : PeerId} {p : PeerId × Nat} :
    p ∈ (c.runMain i).elected ↔ p ∈ c.elected ∨
      ((c.nodes i).state ≠ .leader ∧ ((c.nodes i).mainStep (c.results i)).1.state = .leader ∧
        p = (i, wonRound (c.nodes i) ((c.nodes i).mainStep (c.results i)).1)) := by
  rw [runMain_elected]
  split <;> rename_i h
  · simp only [List.mem_append, List.mem_singleton, h, Ne, not_false_eq_true, true_and]
  · exact ⟨.inl, fun h' => h'.resolve_right fun h' => h ⟨h'.1, h'.2.1⟩⟩

@[simp] theorem deliverRequestVote_inFlight (e : Envelope) (replyLost : Bool) (dst : PeerId)
    (t : Nat) (cand : PeerId) :
    (c.deliverRequestVote e replyLost dst t cand).inFlight = c.inFlight.erase e := rfl

@[simp] theorem deliverRequestVote_elected (e : Envelope) (replyLost : Bool) (dst : PeerId)
    (t : Nat) (cand : PeerId) : (c.deliverRequestVote e replyLost dst t cand).elected = c.elected :=
  rfl

/-- Each transition is one event of one FSM. -/
theorem runMain_nodes (i : PeerId) :
    (c.runMain i).nodes = Function.update c.nodes i ((c.nodes i).step (.main (c.results i))) :=
  rfl

theorem deliverRequestVote_nodes (e : Envelope) (replyLost : Bool) (dst : PeerId) (t : Nat)
    (cand : PeerId) :
    (c.deliverRequestVote e replyLost dst t cand).nodes =
      Function.update c.nodes dst ((c.nodes dst).step (.requestVote t cand)) :=
  rfl

theorem deliverAppendEntries_nodes (e : Envelope) (dst : PeerId) (t : Nat) (l : PeerId) :
    (c.deliverAppendEntries e dst t l).nodes =
      Function.update c.nodes dst ((c.nodes dst).step (.appendEntries t l)) :=
  rfl

/-- Two members with an election timeout of zero polls: `a` times out, `b` grants its
RequestVote, and `a` becomes LEADER. -/
theorem two_member_election :
    ∃ c, Reachable ["a", "b"] (fun _ => 0) c ∧ c.granted ≠ [] ∧
      (c.nodes "a").state = .leader := by
  have h : ((init ["a", "b"] fun _ => 0).run
      [.main "a", .main "a", .deliver ⟨"a", 1, .requestVote "b" 0 "a"⟩ false, .main "a"]).map
      (fun c => (decide (c.granted ≠ []), (c.nodes "a").state)) = some (true, .leader) := by
    decide
  obtain ⟨c, hc, he⟩ := Option.map_eq_some'.1 h
  simp only [Prod.mk.injEq, decide_eq_true_eq] at he
  exact ⟨c, Reachable.init.run _ hc, he⟩

/-! ## Grants by voter -/

/-- The grants of member `v`, by the term they left it at and the candidate they named. -/
def voterHistory (c : Cluster) (v : PeerId) : List (Nat × PeerId) :=
  (c.granted.filter (·.voter = v)).map fun g => (g.term, g.candidateId)

theorem voterHistory_deliverRequestVote (e : Envelope) (replyLost : Bool) (dst : PeerId)
    (t : Nat) (cand v : PeerId) :
    (c.deliverRequestVote e replyLost dst t cand).voterHistory v =
      c.voterHistory v ++
        if v = dst then ((c.nodes dst).grantOf (.requestVote t cand)).toList else [] := by
  simp only [voterHistory, deliverRequestVote, grantOf]
  by_cases hv : v = dst <;> split <;> simp [hv, eq_comm]

/-- The grants of each member are backed by its state, and name one candidate per term. -/
structure VotesInv (c : Cluster) : Prop where
  /-- Every grant's term has been reached, and names the vote while the voter is at it. -/
  backed : ∀ v, GrantsBacked (c.nodes v) (c.voterHistory v)
  /-- One candidate per voter and term. -/
  unique : ∀ v, UniquePerTerm (c.voterHistory v)

theorem VotesInv.init (members : List PeerId) (electionTimeout : PeerId → Nat) :
    VotesInv (init members electionTimeout) :=
  ⟨fun _ _ h => (List.not_mem_nil _ h).elim, fun _ _ h => (List.not_mem_nil _ h).elim⟩

/-- A step of member `i` that records its grant, if it granted, keeps the invariant. -/
theorem VotesInv.update (hv : VotesInv c) (i : PeerId) (ev : NodeEvent)
    (hn : c'.nodes = Function.update c.nodes i ((c.nodes i).step ev))
    (hg : ∀ v, c'.voterHistory v =
      c.voterHistory v ++ if v = i then ((c.nodes i).grantOf ev).toList else []) :
    VotesInv c' := by
  constructor <;> intro v <;> rw [hg] <;> by_cases h : v = i
  · subst h
    simpa [hn] using (hv.backed v).step ev
  · simpa [hn, h] using hv.backed v
  · subst h
    simpa using (hv.unique v).step (hv.backed v) ev
  · simpa [h] using hv.unique v

theorem VotesInv.step {ev : Event} (hv : VotesInv c) (h : c.step ev = some c') : VotesInv c' := by
  rcases step_cases h with ⟨i, -, rfl⟩ | ⟨e, -, lost, dst, t, cand, -, rfl⟩ |
    ⟨e, -, dst, t, l, -, rfl⟩ | ⟨e, -, rfl⟩
  · exact hv.update i _ (runMain_nodes i) fun _ => by simp [grantOf]; rfl
  · exact hv.update dst _ (deliverRequestVote_nodes e lost dst t cand)
      (voterHistory_deliverRequestVote e lost dst t cand)
  · exact hv.update dst _ (deliverAppendEntries_nodes e dst t l) fun _ => by simp [grantOf]; rfl
  · exact ⟨hv.1, hv.2⟩

theorem VotesInv.reachable {members : List PeerId} {electionTimeout : PeerId → Nat}
    (h : Reachable members electionTimeout c) : VotesInv c := by
  induction h with
  | init => exact VotesInv.init _ _
  | step _ _ hs ih => exact ih.step hs

/-- Two grants by one member that leave it at the same term name the same candidate. -/
theorem VotesInv.candidateId_eq (hv : VotesInv c) {g g' : Grant} (hg : g ∈ c.granted)
    (hg' : g' ∈ c.granted) (hvoter : g.voter = g'.voter) (ht : g.term = g'.term) :
    g.candidateId = g'.candidateId := by
  have hmem : ∀ x ∈ c.granted, x.voter = g.voter →
      (x.term, x.candidateId) ∈ c.voterHistory g.voter :=
    fun x hx hxv => List.mem_map.2 ⟨x, List.mem_filter.2 ⟨hx, by simpa using hxv⟩, rfl⟩
  exact hv.unique g.voter _ (hmem g hg rfl) _ (hmem g' hg' hvoter.symm) ht

/-- On every run of the cluster, two grants by one member that leave it at the same term name
the same candidate. -/
theorem granted_unique_per_voter_term {members : List PeerId} {electionTimeout : PeerId → Nat}
    (h : Reachable members electionTimeout c) :
    ∀ g ∈ c.granted, ∀ g' ∈ c.granted, g.voter = g'.voter → g.term = g'.term →
      g.candidateId = g'.candidateId :=
  fun _ hg _ hg' hv ht => (VotesInv.reachable h).candidateId_eq hg hg' hv ht

theorem granted_unique_two_members :
    ∃ c, Reachable ["a", "b"] (fun _ => 0) c ∧ c.granted ≠ [] ∧
      ∀ g ∈ c.granted, ∀ g' ∈ c.granted, g.voter = g'.voter → g.term = g'.term →
        g.candidateId = g'.candidateId :=
  let ⟨c, hr, hg, _⟩ := two_member_election
  ⟨c, hr, hg, granted_unique_per_voter_term hr⟩

/-! ## Elections -/

/-- Member `v` granted `i` a RequestVote of `i`'s round `r`, which carried the term `r - 1`. -/
def GrantedIn (c : Cluster) (v i : PeerId) (r : Nat) : Prop :=
  ∃ g ∈ c.granted, g.voter = v ∧ g.candidateId = i ∧ g.src = i ∧ g.round = r ∧
    g.requestTerm + 1 = r

/-- Distinct peers of `i`, enough to reach its quorum with its own vote, granted it round `r`. -/
def WonRound (c : Cluster) (i : PeerId) (r : Nat) : Prop :=
  ∃ V : List PeerId, V.Nodup ∧ V ⊆ (c.nodes i).peers ∧
    (c.nodes i).quorum ≤ V.length + 1 ∧ ∀ v ∈ V, c.GrantedIn v i r

theorem GrantedIn.mono {v i : PeerId} {r : Nat} (h : c.GrantedIn v i r)
    (hg : c.granted ⊆ c'.granted) : c'.GrantedIn v i r :=
  let ⟨g, hg', hr⟩ := h
  ⟨g, hg hg', hr⟩

theorem WonRound.mono {i : PeerId} {r : Nat} (h : c.WonRound i r)
    (hp : (c'.nodes i).peers = (c.nodes i).peers) (hg : c.granted ⊆ c'.granted) :
    c'.WonRound i r :=
  let ⟨V, hnd, hV, hq, hgr⟩ := h
  ⟨V, hnd, hp ▸ hV, quorum_eq_of_peers_eq _ hp ▸ hq, fun v hv => (hgr v hv).mono hg⟩

/-- The configuration of each FSM, the RequestVotes on the wire, the grants each gather has
heard, and the grants behind each election. -/
structure Inv (members : List PeerId) (c : Cluster) : Prop where
  /-- Every FSM keeps its id and the other members as its peers. -/
  config : ∀ i, (c.nodes i).id = i ∧ (c.nodes i).peers = members.erase i
  /-- A RequestVote on the wire names its caller and carries the term before the caller's
  round. -/
  wire : ∀ e ∈ c.inFlight, ∀ dst t cand, e.request = .requestVote dst t cand →
    cand = e.src ∧ e.round = t + 1
  /-- A grant a gather has heard is a grant of that gather's round. -/
  ballots : ∀ i, ∀ v ∈ c.ballots i,
    ∃ r, (c.nodes i).pc = .voteGather r ∧ c.GrantedIn v i r
  /-- A pending gather belongs to a round whose term its FSM has reached. -/
  gather : ∀ i r, (c.nodes i).pc = .voteGather r → r ≤ (c.nodes i).currentTerm
  /-- Every recorded election won its round. -/
  elected : ∀ p ∈ c.elected, c.WonRound p.1 p.2
  /-- Every recorded election is of a round at or below the member's term. -/
  electedTerm : ∀ p ∈ c.elected, p.2 ≤ (c.nodes p.1).currentTerm
  /-- A LEADER has been elected. -/
  leader : ∀ i, (c.nodes i).state = .leader → ∃ r, (i, r) ∈ c.elected

section Preservation

variable {members : List PeerId}

theorem Inv.init (electionTimeout : PeerId → Nat) :
    Inv members (init members electionTimeout) where
  config _ := ⟨rfl, rfl⟩
  wire _ h := (List.not_mem_nil _ h).elim
  ballots _ _ h := (List.not_mem_nil _ h).elim
  gather _ _ h := by cases h
  elected _ h := (List.not_mem_nil _ h).elim
  electedTerm _ h := (List.not_mem_nil _ h).elim
  leader _ h := by cases h

/-- One FSM takes a step: every FSM keeps its peers, and no term goes down. -/
theorem update_step_frame (i : PeerId) (ev : NodeEvent) (j : PeerId) :
    (Function.update c.nodes i ((c.nodes i).step ev) j).peers = (c.nodes j).peers ∧
      (c.nodes j).currentTerm ≤
        (Function.update c.nodes i ((c.nodes i).step ev) j).currentTerm := by
  by_cases hj : j = i
  · subst hj; simp [step_currentTerm_le]
  · simp [hj]

theorem runMain_frame (i j : PeerId) :
    ((c.runMain i).nodes j).peers = (c.nodes j).peers ∧
      (c.nodes j).currentTerm ≤ ((c.runMain i).nodes j).currentTerm := by
  rw [runMain_nodes]; exact update_step_frame i _ j

/-- The round a step of `main` is recorded to have won is at or below the term it leaves. -/
theorem wonRound_le {s : RaftFiniteStateMachine}
    (h : ∀ r, s.pc = .voteGather r → r ≤ s.currentTerm) (results : List Bool) :
    wonRound s (s.mainStep results).1 ≤ (s.mainStep results).1.currentTerm := by
  unfold wonRound
  split
  · rename_i r hpc
    rw [(mainStep_voteGather hpc results).1]; exact h r hpc
  · exact Nat.le_refl _

/-- The count of a gather is the number of distinct peers whose grant it heard. -/
theorem count_results (i : PeerId) :
    (c.results i).count true =
      ((c.nodes i).peers.filter fun p => decide (p ∈ c.ballots i)).length := by
  rw [results, List.count, List.countP_map, List.countP_eq_length_filter]
  simp [Function.comp_def]

/-- A step of `main` that makes a member LEADER ends a round it won. -/
theorem Inv.runMain_wonRound (hnd : members.Nodup) (hi : Inv members c) {i : PeerId}
    (hs : (c.nodes i).state ≠ .leader)
    (hl : ((c.nodes i).mainStep (c.results i)).1.state = .leader) :
    (c.runMain i).WonRound i (wonRound (c.nodes i) ((c.nodes i).mainStep (c.results i)).1) := by
  have hpeers : ((c.runMain i).nodes i).peers = (c.nodes i).peers := by simp [runMain_nodes]
  rcases mainStep_becomes_leader hs hl with ⟨r, hpc, hq⟩ | hnil
  · refine ⟨(c.nodes i).peers.filter fun p => decide (p ∈ c.ballots i),
      ((hi.config i).2 ▸ hnd.erase i).filter _, hpeers ▸ List.filter_subset' _, ?_, ?_⟩
    · rw [quorum_eq_of_peers_eq _ hpeers, ← count_results]; exact hq
    · intro v hv
      obtain ⟨r', hpc', hg⟩ := hi.ballots i v (by simpa using (List.mem_filter.1 hv).2)
      rw [hpc] at hpc'
      cases hpc'
      simpa [wonRound, hpc] using hg
  · refine ⟨[], List.nodup_nil, List.nil_subset _, ?_, fun _ h => (List.not_mem_nil _ h).elim⟩
    simp [quorum, membership, hpeers, hnil]

theorem Inv.runMain (hnd : members.Nodup) (hi : Inv members c) (i : PeerId) :
    Inv members (c.runMain i) where
  config := by
    rw [runMain_nodes]
    exact (Function.forall_update_iff _ fun j (s : RaftFiniteStateMachine) =>
      s.id = j ∧ s.peers = members.erase j).2
      ⟨by simpa using hi.config i, fun j _ => hi.config j⟩
  wire e he dst t cand hr := by
    rcases List.mem_append.1 he with he | he
    · exact hi.wire e he dst t cand hr
    · obtain ⟨r, hr', rfl⟩ := List.mem_map.1 he
      obtain rfl : r = .requestVote dst t cand := hr
      obtain ⟨h1, h2⟩ := mainStep_requestVote hr'
      exact ⟨h1.trans (hi.config i).1, by simp [MainPc.round, h2]⟩
  ballots j v hv := by
    by_cases hj : j = i
    · subst hj; simp at hv
    · obtain ⟨r, hpc, hg⟩ := hi.ballots j v (by simpa [hj] using hv)
      exact ⟨r, by simpa [runMain_nodes, hj] using hpc, hg⟩
  gather := by
    rw [runMain_nodes]
    exact (Function.forall_update_iff _ fun j (s : RaftFiniteStateMachine) =>
      ∀ r, s.pc = .voteGather r → r ≤ s.currentTerm).2
      ⟨step_voteGather_le (hi.gather i) _, fun j _ => hi.gather j⟩
  elected p hp := by
    rcases mem_runMain_elected.1 hp with hp | ⟨hs, hl, rfl⟩
    · exact (hi.elected p hp).mono (runMain_frame i _).1 (by simp)
    · exact hi.runMain_wonRound hnd hs hl
  electedTerm p hp := by
    rcases mem_runMain_elected.1 hp with hp | ⟨-, -, rfl⟩
    · exact Nat.le_trans (hi.electedTerm p hp) (runMain_frame i _).2
    · simpa [runMain_nodes] using wonRound_le (hi.gather i) (c.results i)
  leader j hj := by
    by_cases hs : (c.nodes j).state = .leader
    · obtain ⟨r, hr⟩ := hi.leader j hs
      exact ⟨r, mem_runMain_elected.2 (.inl hr)⟩
    · by_cases hji : j = i
      · subst hji
        rw [runMain_nodes, Function.update_same] at hj
        exact ⟨_, mem_runMain_elected.2 (.inr ⟨hs, hj, rfl⟩)⟩
      · rw [runMain_nodes, Function.update_noteq hji] at hj
        exact absurd hj hs

/-- A callback keeps the id, the peers and the await point of its FSM, and never makes it
LEADER. -/
theorem step_callback_frame (s : RaftFiniteStateMachine) {ev : NodeEvent}
    (hev : ∀ r, ev ≠ .main r) :
    (s.step ev).id = s.id ∧ (s.step ev).peers = s.peers ∧ (s.step ev).pc = s.pc ∧
      ((s.step ev).state = .leader → s.state = .leader) := by
  cases ev with
  | main r => exact absurd rfl (hev r)
  | appendEntries t l => exact ⟨by simp, by simp, by simp, onAppendEntries_state_eq_leader⟩
  | requestVote t cand => exact ⟨by simp, by simp, by simp, onRequestVote_state_eq_leader⟩

/-- A callback of member `dst` that loses nothing granted, elects no one, and lets a gather hear
only grants of its round keeps the invariant. -/
theorem Inv.callback (hi : Inv members c) (dst : PeerId) {ev : NodeEvent}
    (hev : ∀ r, ev ≠ .main r)
    (hn : c'.nodes = Function.update c.nodes dst ((c.nodes dst).step ev))
    (hw : ∀ e ∈ c'.inFlight, e ∈ c.inFlight) (hg : c.granted ⊆ c'.granted)
    (he : c'.elected = c.elected)
    (hb : ∀ i, ∀ v ∈ c'.ballots i, v ∈ c.ballots i ∨
      ∃ r, (c.nodes i).pc = .voteGather r ∧ c'.GrantedIn v i r) :
    Inv members c' := by
  have hframe : ∀ j, ((c'.nodes j).id = (c.nodes j).id ∧ (c'.nodes j).pc = (c.nodes j).pc) ∧
      ((c'.nodes j).state = .leader → (c.nodes j).state = .leader) := by
    intro j
    by_cases hj : j = dst
    · subst hj
      obtain ⟨h1, -, h3, h4⟩ := step_callback_frame (c.nodes j) hev
      simpa [hn, h1, h3] using h4
    · simp [hn, hj]
  have hupd := fun j => hn ▸ update_step_frame (c := c) dst ev j
  refine ⟨fun i => ?_, fun e h => hi.wire e (hw e h), fun i v hv => ?_, fun i r hr => ?_,
    fun p hp => ?_, fun p hp => ?_, fun i hl => he ▸ hi.leader i ((hframe i).2 hl)⟩
  · rw [(hframe i).1.1, (hupd i).1]; exact hi.config i
  · rw [(hframe i).1.2]
    rcases hb i v hv with hv | hv
    · obtain ⟨r, hpc, hgr⟩ := hi.ballots i v hv
      exact ⟨r, hpc, hgr.mono hg⟩
    · exact hv
  · exact Nat.le_trans (hi.gather i r ((hframe i).1.2 ▸ hr)) (hupd i).2
  · exact (hi.elected p (he ▸ hp)).mono (hupd _).1 hg
  · exact Nat.le_trans (hi.electedTerm p (he ▸ hp)) (hupd _).2

theorem Inv.deliverRequestVote (hi : Inv members c) {e : Envelope} (he : e ∈ c.inFlight)
    {replyLost : Bool} {dst : PeerId} {t : Nat} {cand : PeerId}
    (hr : e.request = .requestVote dst t cand) :
    Inv members (c.deliverRequestVote e replyLost dst t cand) := by
  have hg : c.granted ⊆ (c.deliverRequestVote e replyLost dst t cand).granted := by
    simp only [Cluster.deliverRequestVote]; split <;> simp
  refine hi.callback dst (by simp) (deliverRequestVote_nodes e replyLost dst t cand)
    (fun _ h => List.mem_of_mem_erase h) hg rfl fun i v hv => ?_
  simp only [Cluster.deliverRequestVote, Bool.and_eq_true, Bool.not_eq_true',
    decide_eq_true_eq] at hv
  split at hv
  · rename_i hc
    by_cases hi' : i = e.src
    · subst hi'
      rw [Function.update_same] at hv
      rcases List.mem_append.1 hv with hv | hv
      · exact .inl hv
      · cases List.mem_singleton.1 hv
        obtain ⟨hcand, hround⟩ := hi.wire e he dst t cand hr
        refine .inr ⟨e.round, hc.2,
          ⟨dst, cand, ((c.nodes dst).onRequestVote t cand).1.currentTerm, e.src, e.round, t⟩,
          ?_, rfl, hcand, rfl, rfl, hround.symm⟩
        simp only [Cluster.deliverRequestVote, if_pos hc.1.1]
        exact List.mem_append_right _ (List.mem_singleton_self _)
    · exact .inl (by simpa [hi'] using hv)
  · exact .inl hv

theorem Inv.step (hnd : members.Nodup) (hi : Inv members c) {ev : Event}
    (h : c.step ev = some c') : Inv members c' := by
  rcases step_cases h with ⟨i, -, rfl⟩ | ⟨e, he, lost, dst, t, cand, hr, rfl⟩ |
    ⟨e, -, dst, t, l, -, rfl⟩ | ⟨e, -, rfl⟩
  · exact hi.runMain hnd i
  · exact hi.deliverRequestVote he hr
  · exact hi.callback dst (by simp) (deliverAppendEntries_nodes e dst t l)
      (fun _ h => List.mem_of_mem_erase h) (fun _ h => h) rfl fun _ _ h => .inl h
  · exact ⟨hi.config, fun e' h => hi.wire e' (List.mem_of_mem_erase h), hi.ballots, hi.gather,
      hi.elected, hi.electedTerm, hi.leader⟩

theorem Inv.reachable (hnd : members.Nodup) {electionTimeout : PeerId → Nat}
    (h : Reachable members electionTimeout c) : Inv members c := by
  induction h with
  | init => exact Inv.init _
  | step _ _ hs ih => exact ih.step hnd hs

end Preservation

/-- On every run of a cluster of distinct members, a member in LEADER has won a round `r` at or
below its term: distinct peers, enough to reach its quorum with its own vote, each granted it a
RequestVote of that round, which carried the term `r - 1`. -/
theorem leader_won_quorum {members : List PeerId} {electionTimeout : PeerId → Nat}
    (hnd : members.Nodup) (h : Reachable members electionTimeout c) (i : PeerId)
    (hl : (c.nodes i).state = .leader) :
    ∃ r V, r ≤ (c.nodes i).currentTerm ∧ V.Nodup ∧ V ⊆ (c.nodes i).peers ∧
      (c.nodes i).quorum ≤ V.length + 1 ∧
      ∀ v ∈ V, ∃ g ∈ c.granted, g.voter = v ∧ g.candidateId = i ∧ g.src = i ∧ g.round = r ∧
        g.requestTerm + 1 = r := by
  have hi := Inv.reachable hnd h
  obtain ⟨r, hr⟩ := hi.leader i hl
  obtain ⟨V, hV⟩ := hi.elected _ hr
  exact ⟨r, V, hi.electedTerm _ hr, hV⟩

theorem leader_won_quorum_two_members :
    ∃ c, Reachable ["a", "b"] (fun _ => 0) c ∧ (c.nodes "a").state = .leader ∧
      ∃ r V, r ≤ (c.nodes "a").currentTerm ∧ V.Nodup ∧ V ⊆ (c.nodes "a").peers ∧
        (c.nodes "a").quorum ≤ V.length + 1 ∧
        ∀ v ∈ V, ∃ g ∈ c.granted, g.voter = v ∧ g.candidateId = "a" ∧ g.src = "a" ∧
          g.round = r ∧ g.requestTerm + 1 = r :=
  let ⟨c, hr, _, hl⟩ := two_member_election
  ⟨c, hr, hl, leader_won_quorum (by decide) hr "a" hl⟩

end Cluster

end AiBackend.Raft
