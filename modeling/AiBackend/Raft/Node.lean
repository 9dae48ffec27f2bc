import AiBackend.Raft.Fsm

/-!
# One FSM under every interleaving

A `RaftFiniteStateMachine` changes only when `main` runs to its next await point or when the
server invokes `on_append_entries` or `on_request_vote`, with any arguments, in between.
`Reachable` is every state a run of such events leads to from the constructor.

What holds on every run (`term_vote_discipline`): the term never goes down; a step that keeps
the term keeps the vote or casts it; a step that raises the term clears the vote, casts it in
the same call, or starts a round; and within one term the node grants one candidate only
(`onRequestVote_again` for two calls in a row). What does not: a node deposed by a RequestVote
still reports itself leader, a candidate grants its own term to another candidate, a round
finishes as LEADER in whatever term the node has reached by then.
-/

namespace AiBackend.Raft

/-- What one FSM can do next: `main` runs to its next await point (with the gathered replies
when it is suspended at the gather), or the server invokes a callback. -/
inductive NodeEvent
  | main (results : List Bool)
  | appendEntries (term : Nat) (leaderId : PeerId)
  | requestVote (term : Nat) (candidateId : PeerId)
  deriving DecidableEq, Repr

namespace RaftFiniteStateMachine

/-- The state after one event. -/
def step (s : RaftFiniteStateMachine) : NodeEvent → RaftFiniteStateMachine
  | .main results => (s.mainStep results).1
  | .appendEntries term leaderId => (s.onAppendEntries term leaderId).1
  | .requestVote term candidateId => (s.onRequestVote term candidateId).1

@[simp] theorem step_main (s : RaftFiniteStateMachine) (results : List Bool) :
    s.step (.main results) = (s.mainStep results).1 := rfl

@[simp] theorem step_appendEntries (s : RaftFiniteStateMachine) (term : Nat) (l : PeerId) :
    s.step (.appendEntries term l) = (s.onAppendEntries term l).1 := rfl

@[simp] theorem step_requestVote (s : RaftFiniteStateMachine) (term : Nat) (c : PeerId) :
    s.step (.requestVote term c) = (s.onRequestVote term c).1 := rfl

@[simp] theorem step_id (s : RaftFiniteStateMachine) (ev : NodeEvent) :
    (s.step ev).id = s.id := by
  cases ev <;> simp

@[simp] theorem step_peers (s : RaftFiniteStateMachine) (ev : NodeEvent) :
    (s.step ev).peers = s.peers := by
  cases ev <;> simp

/-- The states an FSM reaches from its constructor. -/
inductive Reachable : RaftFiniteStateMachine → Prop
  | init (id : PeerId) (peers : List PeerId) (electionTimeout : Nat) :
      Reachable (init id peers electionTimeout)
  | step {s : RaftFiniteStateMachine} (ev : NodeEvent) : Reachable s → Reachable (s.step ev)

theorem Reachable.run {s : RaftFiniteStateMachine} (h : Reachable s) :
    ∀ evs : List NodeEvent, Reachable (evs.foldl RaftFiniteStateMachine.step s)
  | [] => h
  | ev :: evs => (h.step ev).run evs

/-! ## Terms and votes along a run -/

variable {s : RaftFiniteStateMachine}

theorem step_currentTerm_le (ev : NodeEvent) : s.currentTerm ≤ (s.step ev).currentTerm := by
  cases ev with
  | main results => rcases s.mainStep_cases results with h | h <;> simp [step, h.1]
  | appendEntries term l =>
    by_cases ht : term < s.currentTerm
    · simp [step, onAppendEntries_eq, ht]
    · simp only [step, onAppendEntries_eq, ht, if_false, synchronizeTerm_currentTerm]; omega
  | requestVote term c => simp only [step, onRequestVote_currentTerm]; omega

/-- A step that keeps the term keeps the vote, or casts a vote that was not cast. -/
theorem step_votedFor_of_currentTerm_eq (ev : NodeEvent)
    (h : (s.step ev).currentTerm = s.currentTerm) :
    (s.step ev).votedFor = s.votedFor ∨
      s.votedFor = none ∧
        ∃ c, ev = .requestVote s.currentTerm c ∧ (s.step ev).votedFor = some c := by
  cases ev with
  | main results =>
    rcases s.mainStep_cases results with h' | h'
    · exact .inl h'.2
    · simp [step, h'.1] at h
  | appendEntries term l =>
    left
    by_cases ht : term < s.currentTerm
    · simp [step, onAppendEntries_eq, ht]
    · simp only [step, onAppendEntries_eq, ht, if_false, synchronizeTerm_currentTerm] at h ⊢
      rw [synchronizeTerm_of_le (by omega)]
  | requestVote term c =>
    simp only [step, onRequestVote_currentTerm] at h ⊢
    rw [onRequestVote_votedFor, synchronizeTerm_of_le (by omega)]
    split
    · rename_i hg
      rw [onRequestVote_grant_iff, synchronizeTerm_of_le (by omega)] at hg
      rcases hg.2 with hv | hv
      · exact .inr ⟨hv, c, by rw [Nat.le_antisymm (by omega) hg.1], rfl⟩
      · exact .inl hv.symm
    · exact .inl rfl

/-- A step that raises the term is an accepted AppendEntries (FOLLOWER, no vote), a
RequestVote that grants in the same call (FOLLOWER, vote for the caller), or the start of a
round (no vote; CANDIDATE, or LEADER for a node without peers). -/
theorem step_of_currentTerm_lt (ev : NodeEvent) (h : s.currentTerm < (s.step ev).currentTerm) :
    (∃ t l, ev = .appendEntries t l ∧ (s.step ev).state = .follower ∧
        (s.step ev).votedFor = none) ∨
      (∃ t c, ev = .requestVote t c ∧ (s.onRequestVote t c).2 = true ∧
        (s.step ev).state = .follower ∧ (s.step ev).votedFor = some c) ∨
      (∃ r, ev = .main r ∧ (s.step ev).votedFor = none ∧
        ((s.step ev).state = .candidate ∨ (s.step ev).state = .leader ∧ s.peers = [])) := by
  cases ev with
  | main results =>
    rcases s.mainStep_cases results with h' | h'
    · simp [step, h'.1] at h
    · exact .inr (.inr ⟨results, rfl, h'.2⟩)
  | appendEntries term l =>
    by_cases ht : term < s.currentTerm
    · simp [step, onAppendEntries_eq, ht] at h
    · simp only [step, onAppendEntries_eq, ht, if_false, synchronizeTerm_currentTerm] at h ⊢
      rw [synchronizeTerm_of_lt (by omega)]
      exact .inl ⟨term, l, rfl, rfl, rfl⟩
  | requestVote term c =>
    simp only [step, onRequestVote_currentTerm] at h
    have hs := synchronizeTerm_of_lt (s := s) (t := term) (by omega)
    have hg : (s.onRequestVote term c).2 = true := by
      rw [onRequestVote_grant_iff, hs]; exact ⟨by omega, .inl rfl⟩
    refine .inr (.inl ⟨term, c, rfl, hg, ?_, ?_⟩)
    · simp [step, hs]
    · simp [step, onRequestVote_votedFor, hg]

/-- Once `on_request_vote` has granted a term to a candidate, a second call with that term
grants exactly when it names the same candidate, and the vote stays with the first. -/
theorem onRequestVote_again {t : Nat} {a : PeerId} (h : (s.onRequestVote t a).2 = true)
    (b : PeerId) :
    (((s.onRequestVote t a).1.onRequestVote t b).2 = true ↔ b = a) ∧
      ((s.onRequestVote t a).1.onRequestVote t b).1.votedFor = some a := by
  have hle := ((onRequestVote_grant_iff t a).1 h).1
  have hv : (s.onRequestVote t a).1.votedFor = some a := by rw [onRequestVote_votedFor, if_pos h]
  have hsync := synchronizeTerm_of_le (s := (s.onRequestVote t a).1) (t := t)
    (by simp only [onRequestVote_currentTerm]; omega)
  have hg : ((s.onRequestVote t a).1.onRequestVote t b).2 = true ↔ b = a := by
    rw [onRequestVote_grant_iff, hsync, hv]
    simp only [onRequestVote_currentTerm, reduceCtorEq, Option.some.injEq, false_or]
    exact ⟨fun h => h.2.symm, fun h => ⟨by omega, h.symm⟩⟩
  refine ⟨hg, ?_⟩
  rw [onRequestVote_votedFor, hsync, hv]
  split
  · rename_i hb; rw [hg.1 hb]
  · rfl

theorem onRequestVote_again_init :
    ((init "x" ["y", "z"] 5).onRequestVote 1 "y").2 = true ∧
      ((((init "x" ["y", "z"] 5).onRequestVote 1 "y").1.onRequestVote 1 "z").2 = true ↔
        "z" = "y") ∧
      (((init "x" ["y", "z"] 5).onRequestVote 1 "y").1.onRequestVote 1 "z").1.votedFor =
        some "y" :=
  have h : ((init "x" ["y", "z"] 5).onRequestVote 1 "y").2 = true := by decide
  ⟨h, onRequestVote_again h "z"⟩

/-- A pending gather belongs to a round whose term the node has reached, whatever the steps in
between. -/
theorem step_voteGather_le (h : ∀ r, s.pc = .voteGather r → r ≤ s.currentTerm) (ev : NodeEvent) :
    ∀ r, (s.step ev).pc = .voteGather r → r ≤ (s.step ev).currentTerm := by
  intro r hr
  have hle := step_currentTerm_le (s := s) ev
  cases ev with
  | main results => exact Nat.le_of_eq (mainStep_pc_voteGather hr).symm
  | appendEntries t l =>
    simp only [step_appendEntries, onAppendEntries_pc] at hr
    exact Nat.le_trans (h r hr) hle
  | requestVote t c =>
    simp only [step_requestVote, onRequestVote_pc] at hr
    exact Nat.le_trans (h r hr) hle

/-- The resulting term and the candidate of a granting `on_request_vote`. -/
def grantOf (s : RaftFiniteStateMachine) : NodeEvent → Option (Nat × PeerId)
  | .requestVote term c =>
    if (s.onRequestVote term c).2 then some ((s.onRequestVote term c).1.currentTerm, c) else none
  | _ => none

/-- The granting `on_request_vote` calls of a run, by resulting term and candidate. -/
def grants (s : RaftFiniteStateMachine) : List NodeEvent → List (Nat × PeerId)
  | [] => []
  | ev :: evs => (s.grantOf ev).toList ++ grants (s.step ev) evs

/-- Every recorded grant is backed by the state: its term has been reached, and while the node
is still at that term its vote names the candidate. -/
def GrantsBacked (s : RaftFiniteStateMachine) (hist : List (Nat × PeerId)) : Prop :=
  ∀ g ∈ hist, g.1 ≤ s.currentTerm ∧ (g.1 = s.currentTerm → s.votedFor = some g.2)

/-- At most one candidate per term. -/
def UniquePerTerm (hist : List (Nat × PeerId)) : Prop :=
  ∀ g ∈ hist, ∀ g' ∈ hist, g.1 = g'.1 → g.2 = g'.2

theorem grantOf_spec {ev : NodeEvent} {g : Nat × PeerId} (h : s.grantOf ev = some g) :
    (s.step ev).currentTerm = g.1 ∧ (s.step ev).votedFor = some g.2 ∧
      (g.1 = s.currentTerm → s.votedFor = none ∨ s.votedFor = some g.2) := by
  cases ev with
  | requestVote term c =>
    simp only [grantOf] at h
    split at h
    · rename_i hg
      cases h
      refine ⟨rfl, by simp [step, onRequestVote_votedFor, hg], fun he => ?_⟩
      rw [onRequestVote_grant_iff] at hg
      simp only [onRequestVote_currentTerm] at he
      rw [synchronizeTerm_of_le (by omega)] at hg
      exact hg.2
    · cases h
  | _ => cases h

theorem GrantsBacked.step {hist : List (Nat × PeerId)} (hb : GrantsBacked s hist)
    (ev : NodeEvent) : GrantsBacked (s.step ev) (hist ++ (s.grantOf ev).toList) := by
  intro g hg
  rcases List.mem_append.1 hg with hg | hg
  · have hle := step_currentTerm_le (s := s) ev
    obtain ⟨h1, h2⟩ := hb g hg
    refine ⟨by omega, fun he => ?_⟩
    have hs : (s.step ev).currentTerm = s.currentTerm := by omega
    rcases step_votedFor_of_currentTerm_eq ev hs with hv | ⟨hv, -⟩
    · rw [hv]; exact h2 (by omega)
    · rw [h2 (by omega)] at hv; cases hv
  · obtain ⟨h1, h2, -⟩ := grantOf_spec (Option.mem_toList.1 hg)
    exact ⟨Nat.le_of_eq h1.symm, fun _ => h2⟩

/-- A new grant agrees with every recorded grant of its term. -/
theorem GrantsBacked.grantOf_agree {hist : List (Nat × PeerId)} (hb : GrantsBacked s hist)
    {ev : NodeEvent} {g : Nat × PeerId} (h : s.grantOf ev = some g) :
    ∀ g' ∈ hist, g.1 = g'.1 → g.2 = g'.2 := by
  intro g' hg' he
  obtain ⟨h1, -, h3⟩ := grantOf_spec h
  obtain ⟨h4, h5⟩ := hb g' hg'
  have hle := step_currentTerm_le (s := s) ev
  have ht : g.1 = s.currentTerm := by omega
  rcases h3 ht with hv | hv
  · rw [h5 (by omega)] at hv; cases hv
  · rw [h5 (by omega)] at hv; exact (Option.some.inj hv).symm

/-- A new grant keeps every term on one candidate. -/
theorem UniquePerTerm.step {hist : List (Nat × PeerId)} (hu : UniquePerTerm hist)
    (hb : GrantsBacked s hist) (ev : NodeEvent) :
    UniquePerTerm (hist ++ (s.grantOf ev).toList) := by
  intro g hg g' hg' he
  rcases List.mem_append.1 hg with hg | hg <;> rcases List.mem_append.1 hg' with hg' | hg'
  · exact hu g hg g' hg' he
  · exact (hb.grantOf_agree (Option.mem_toList.1 hg') g hg he.symm).symm
  · exact hb.grantOf_agree (Option.mem_toList.1 hg) g' hg' he
  · rw [Option.mem_toList.1 hg] at hg'; cases Option.mem_toList.1 hg'; rfl

theorem uniquePerTerm_append_grants :
    ∀ (s : RaftFiniteStateMachine) (hist : List (Nat × PeerId)) (evs : List NodeEvent),
      GrantsBacked s hist → UniquePerTerm hist → UniquePerTerm (hist ++ s.grants evs)
  | s, hist, [], _, hu => by simpa [grants] using hu
  | s, hist, ev :: evs, hb, hu => by
    simpa [grants] using
      uniquePerTerm_append_grants (s.step ev) _ evs (hb.step ev) (hu.step hb ev)

/-- The term and vote discipline of one FSM: on every step the term never goes down; a step
that keeps the term keeps the vote or casts a free one for the caller; a step that raises the term
is an accepted AppendEntries (FOLLOWER, no vote), a RequestVote granted in the same call
(FOLLOWER, vote for the caller), or the start of a round (no vote; CANDIDATE, or LEADER for a
node without peers); and along any run, the granting `on_request_vote` calls name one candidate
per resulting term. -/
theorem term_vote_discipline :
    (∀ (s : RaftFiniteStateMachine) (ev : NodeEvent),
      s.currentTerm ≤ (s.step ev).currentTerm ∧
      ((s.step ev).currentTerm = s.currentTerm →
        (s.step ev).votedFor = s.votedFor ∨
          s.votedFor = none ∧ ∃ c, ev = .requestVote s.currentTerm c ∧
            (s.step ev).votedFor = some c) ∧
      (s.currentTerm < (s.step ev).currentTerm →
        (∃ t l, ev = .appendEntries t l ∧ (s.step ev).state = .follower ∧
            (s.step ev).votedFor = none) ∨
          (∃ t c, ev = .requestVote t c ∧ (s.onRequestVote t c).2 = true ∧
            (s.step ev).state = .follower ∧ (s.step ev).votedFor = some c) ∨
          (∃ r, ev = .main r ∧ (s.step ev).votedFor = none ∧
            ((s.step ev).state = .candidate ∨ (s.step ev).state = .leader ∧ s.peers = [])))) ∧
    ∀ (s : RaftFiniteStateMachine) (evs : List NodeEvent), UniquePerTerm (s.grants evs) :=
  ⟨fun _ ev => ⟨step_currentTerm_le ev, step_votedFor_of_currentTerm_eq ev,
      step_of_currentTerm_lt ev⟩,
    fun s evs => by
      simpa using
        uniquePerTerm_append_grants s [] evs (fun _ h => by cases h) (fun _ h => by cases h)⟩

/-- A node without peers wins the round it starts in the same step: the step raises the term and
leaves it LEADER, not CANDIDATE. -/
theorem lone_node_round_ends_leader :
    ∃ s, s = (List.replicate 6 (NodeEvent.main [])).foldl step (init "a" [] 5) ∧
      Reachable s ∧ s.currentTerm < (s.step (.main [])).currentTerm ∧
      (s.step (.main [])).state = .leader :=
  ⟨_, rfl, (Reachable.init _ _ _).run _, by decide, by decide⟩

/-! ## The leader flag -/

/-- A leader deposed by a RequestVote of a later term is FOLLOWER and still reports itself
leader. -/
theorem deposed_leader_reports_leader :
    ∃ s, s = (List.replicate 7 (NodeEvent.main []) ++ [NodeEvent.main [true], NodeEvent.main [],
        NodeEvent.requestVote 2 "b"]).foldl step (init "a" ["b"] 5) ∧
      Reachable s ∧ s.isLeader = true ∧ s.state = .follower :=
  ⟨_, rfl, (Reachable.init _ _ _).run _, by decide, by decide⟩

/-! ## The candidate's own vote -/

/-- A candidate suspended in its round for term 1 grants term 1 to another candidate. -/
theorem candidate_grants_rival :
    ∃ s, s = (List.replicate 7 (NodeEvent.main [])).foldl step (init "a" ["b"] 5) ∧
      Reachable s ∧ s.pc = .voteGather 1 ∧ s.currentTerm = 1 ∧
      (s.onRequestVote 1 "b").2 = true ∧ (s.onRequestVote 1 "b").1.currentTerm = 1 :=
  ⟨_, rfl, (Reachable.init _ _ _).run _, by decide, by decide, by decide, by decide⟩

/-! ## Finishing a round -/

/-- After the gather the round counts the granted replies against the quorum and nothing else:
neither the state nor the term the node has reached by then, nor any term a reply carries. -/
theorem mainStep_voteGather {r : Nat} (hpc : s.pc = .voteGather r) (results : List Bool) :
    (s.mainStep results).1.currentTerm = s.currentTerm ∧
      (results.count true + 1 ≥ s.quorum → (s.mainStep results).1.state = .leader) := by
  refine ⟨by simp [mainStep, hpc], fun h => ?_⟩
  simp [mainStep, hpc, h]

/-- A candidate whose round raised the term to 1 accepts an AppendEntries of term 2 while it
gathers (FOLLOWER, leader `c`), then finishes the round as LEADER of term 2. Its requests had
carried term 0. -/
theorem round_won_in_later_term :
    ∃ s₀ s s', s₀ = (List.replicate 6 (NodeEvent.main [])).foldl step (init "a" ["b"] 5) ∧
      s = s₀.step (.main []) ∧ s' = s.step (.appendEntries 2 "c") ∧
      Reachable s ∧ (s₀.mainStep []).2 = [.requestVote "b" 0 "a"] ∧
      s.pc = .voteGather 1 ∧ s.currentTerm = 1 ∧
      s'.state = .follower ∧ s'.leaderId = some "c" ∧
      (s'.step (.main [true])).state = .leader ∧ (s'.step (.main [true])).currentTerm = 2 :=
  ⟨_, _, _, rfl, rfl, rfl, ((Reachable.init _ _ _).run _).step _, by decide, by decide, by decide,
    by decide, by decide, by decide, by decide⟩

/-- With the client's `(term, vote_granted)` replies read as their flags, a round that hears a
term of 5 from its peer is still won, in term 1. -/
theorem vote_round_ignores_reply_term :
    ∃ (s : RaftFiniteStateMachine) (replies : List (Nat × Bool)),
      s = (List.replicate 7 (NodeEvent.main [])).foldl step (init "a" ["b"] 5) ∧
      replies = [(5, true)] ∧ Reachable s ∧ s.pc = .voteGather 1 ∧
      (s.step (.main (replies.map Prod.snd))).currentTerm = 1 ∧
      (s.step (.main (replies.map Prod.snd))).state = .leader :=
  ⟨_, _, rfl, rfl, (Reachable.init _ _ _).run _, by decide, by decide, by decide⟩

end RaftFiniteStateMachine

end AiBackend.Raft
