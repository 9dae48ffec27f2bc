import AiBackend.Raft.Election

/-!
# What every run of a cluster keeps

Three facts of every run of a cluster of distinct members, from the invariants of `Election` and
one more, `LeadInv`:

* `round_won_twice`: two members that became LEADER by winning the same round are one member, or
  one of them granted the other a RequestVote of that round. The two quorums share a member; a
  peer grants one candidate per term, and a grant leaves the peer at the term the request
  carried, which is the same for both rounds; so the shared member is one of the two winners,
  whose own vote its round counts but never records.
* `recorded_leader_won`: the leader a member records (`_leader_id`), itself or the sender of an
  accepted AppendEntries, is a member that has won a round at or below the recording member's
  term.
* `main_raises_only_alone`: `main` raises (`asyncio.wait` of no heartbeat tasks) only in a
  cluster of one member.

All three are about the client the cluster assumes (see `Cluster`): a `request_vote` that returns
the vote flag and a `request_append_entries` that returns, neither raising. With
`GrpcRaftClient`, `sum` raises `TypeError` on its tuples and the heartbeat raises
`AttributeError`.
-/

namespace AiBackend.Raft.Cluster

open RaftFiniteStateMachine

variable {c c' : Cluster} {members : List PeerId}

/-! ## The elections, the heartbeats and the recorded leaders of a run -/

theorem elected_subset_runMain (i : PeerId) : c.elected ⊆ (c.runMain i).elected :=
  fun _ hp => mem_runMain_elected.2 (.inl hp)

/-- What the grants, the elections, the heartbeats on the wire, the recorded leaders and the
await points of a run keep. -/
structure LeadInv (members : List PeerId) (c : Cluster) : Prop where
  /-- The cluster keeps its members. -/
  keepsMembers : c.members = members
  /-- A grant leaves its voter at the term its request carried. -/
  grantTerm : ∀ g ∈ c.granted, g.term = g.requestTerm
  /-- Only members are elected. -/
  electedMember : ∀ p ∈ c.elected, p.1 ∈ members
  /-- An AppendEntries on the wire names as leader a member elected in a round at or below the
  term the request carries. -/
  heartbeat : ∀ e ∈ c.inFlight, ∀ dst t l, e.request = .appendEntries dst t l →
    ∃ r ≤ t, (l, r) ∈ c.elected
  /-- The leader a member records was elected in a round at or below the member's term. -/
  leaderId : ∀ i l, (c.nodes i).leaderId = some l →
    ∃ r ≤ (c.nodes i).currentTerm, (l, r) ∈ c.elected
  /-- `main` has raised only on a member without peers. -/
  crashed : ∀ i, (c.nodes i).pc = .crashed → i ∈ members ∧ (c.nodes i).peers = []

section Preservation

theorem LeadInv.init (electionTimeout : PeerId → Nat) :
    LeadInv members (init members electionTimeout) where
  keepsMembers := rfl
  grantTerm _ h := (List.not_mem_nil _ h).elim
  electedMember _ h := (List.not_mem_nil _ h).elim
  heartbeat _ h := (List.not_mem_nil _ h).elim
  leaderId _ _ h := by cases h
  crashed _ h := by cases h

/-- A member LEADER at the start of a step of `main` was elected, under its own id, in a round at
or below its term. -/
theorem Inv.elected_of_leader (hi : Inv members c) {i : PeerId}
    (hl : (c.nodes i).state = .leader) :
    ∃ r ≤ (c.nodes i).currentTerm, ((c.nodes i).id, r) ∈ c.elected := by
  obtain ⟨r, hr⟩ := hi.leader i hl
  rw [(hi.config i).1]
  exact ⟨r, hi.electedTerm _ hr, hr⟩

theorem LeadInv.runMain (hi : Inv members c) (hl : LeadInv members c) {i : PeerId}
    (him : i ∈ members) : LeadInv members (c.runMain i) where
  keepsMembers := hl.keepsMembers
  grantTerm := hl.grantTerm
  electedMember p hp := by
    rcases mem_runMain_elected.1 hp with hp | ⟨-, -, rfl⟩
    · exact hl.electedMember p hp
    · exact him
  heartbeat e he dst t l hr := by
    rcases List.mem_append.1 he with he | he
    · obtain ⟨r, hrt, hre⟩ := hl.heartbeat e he dst t l hr
      exact ⟨r, hrt, elected_subset_runMain i hre⟩
    · obtain ⟨q, hq, rfl⟩ := List.mem_map.1 he
      obtain rfl : q = .appendEntries dst t l := hr
      obtain ⟨rfl, rfl, hs⟩ := mainStep_appendEntries hq
      obtain ⟨r, hrt, hre⟩ := hi.elected_of_leader hs
      exact ⟨r, hrt, elected_subset_runMain i hre⟩
  leaderId j l hj := by
    suffices ∃ r ≤ (c.nodes j).currentTerm, (l, r) ∈ c.elected from
      let ⟨r, hrt, hre⟩ := this
      ⟨r, Nat.le_trans hrt (runMain_frame i j).2, elected_subset_runMain i hre⟩
    by_cases hji : j = i
    · subst hji
      rw [runMain_nodes, Function.update_same, step_main] at hj
      rcases mainStep_leaderId_eq_some hj with hj | ⟨rfl, hs⟩
      · exact hl.leaderId j l hj
      · exact hi.elected_of_leader hs
    · rw [runMain_nodes, Function.update_noteq hji] at hj
      exact hl.leaderId j l hj
  crashed j hj := by
    by_cases hji : j = i
    · subst hji
      rw [runMain_nodes, Function.update_same, step_main] at hj ⊢
      rcases mainStep_pc_crashed hj with hc | hp
      · simpa using hl.crashed j hc
      · simpa using ⟨him, hp⟩
    · rw [runMain_nodes, Function.update_noteq hji] at hj ⊢
      exact hl.crashed j hj

/-- A callback of member `dst` that changes no election and loses no grant keeps what the
invariant says of the grants, the elections, the wire and the await points, given what it says
of the grants and recorded leaders it adds. -/
theorem LeadInv.callback (hl : LeadInv members c) (dst : PeerId) {ev : NodeEvent}
    (hev : ∀ r, ev ≠ .main r)
    (hn : c'.nodes = Function.update c.nodes dst ((c.nodes dst).step ev))
    (hw : ∀ e ∈ c'.inFlight, e ∈ c.inFlight) (he : c'.elected = c.elected)
    (hm : c'.members = c.members) (hg : ∀ g ∈ c'.granted, g.term = g.requestTerm)
    (hld : ∀ l, ((c.nodes dst).step ev).leaderId = some l →
      ∃ r ≤ ((c.nodes dst).step ev).currentTerm, (l, r) ∈ c.elected) :
    LeadInv members c' := by
  have hframe := step_callback_frame (c.nodes dst) hev
  refine ⟨hm ▸ hl.keepsMembers, hg, fun p hp => hl.electedMember p (he ▸ hp),
    fun e h => he ▸ hl.heartbeat e (hw e h), fun j l hj => ?_, fun j hj => ?_⟩
  · rw [he, hn]
    by_cases hj' : j = dst
    · subst hj'
      rw [hn, Function.update_same] at hj
      simpa using hld l hj
    · rw [hn, Function.update_noteq hj'] at hj
      simpa [hj'] using hl.leaderId j l hj
  · rw [hn] at hj ⊢
    by_cases hj' : j = dst
    · subst hj'
      rw [Function.update_same, hframe.2.2.1] at hj
      simpa [hframe.2.1] using hl.crashed j hj
    · simpa [hj'] using hl.crashed j (by simpa [hj'] using hj)

theorem LeadInv.deliverRequestVote (hl : LeadInv members c) {e : Envelope} {replyLost : Bool}
    {dst : PeerId} {t : Nat} {cand : PeerId} :
    LeadInv members (c.deliverRequestVote e replyLost dst t cand) := by
  refine hl.callback dst (by simp) (deliverRequestVote_nodes e replyLost dst t cand)
    (fun _ h => List.mem_of_mem_erase h) rfl rfl (fun g hg => ?_) fun l hj => ?_
  · simp only [Cluster.deliverRequestVote] at hg
    split at hg
    · rcases List.mem_append.1 hg with hg | hg
      · exact hl.grantTerm g hg
      · cases List.mem_singleton.1 hg
        exact onRequestVote_currentTerm_of_grant ‹_›
    · exact hl.grantTerm g hg
  · simp only [step_requestVote, onRequestVote_leaderId] at hj ⊢
    obtain ⟨r, hrt, hre⟩ := hl.leaderId dst l hj
    exact ⟨r, by simp only [onRequestVote_currentTerm]; omega, hre⟩

theorem LeadInv.deliverAppendEntries (hl : LeadInv members c) {e : Envelope}
    (he : e ∈ c.inFlight) {dst : PeerId} {t : Nat} {l : PeerId}
    (hr : e.request = .appendEntries dst t l) :
    LeadInv members (c.deliverAppendEntries e dst t l) := by
  refine hl.callback dst (by simp) (deliverAppendEntries_nodes e dst t l)
    (fun _ h => List.mem_of_mem_erase h) rfl rfl hl.grantTerm fun l' hj => ?_
  simp only [step_appendEntries, onAppendEntries_leaderId] at hj
  have hle := step_currentTerm_le (s := c.nodes dst) (.appendEntries t l)
  split at hj
  · obtain ⟨r, hrt, hre⟩ := hl.leaderId dst l' hj
    exact ⟨r, Nat.le_trans hrt hle, hre⟩
  · cases hj
    obtain ⟨r, hrt, hre⟩ := hl.heartbeat e he dst t l hr
    refine ⟨r, ?_, hre⟩
    simp only [step_appendEntries, onAppendEntries_eq, if_neg ‹_›, synchronizeTerm_currentTerm]
    omega

theorem LeadInv.step (hi : Inv members c) (hl : LeadInv members c) {ev : Event}
    (h : c.step ev = some c') : LeadInv members c' := by
  rcases step_cases h with ⟨i, hi', rfl⟩ | ⟨e, -, lost, dst, t, cand, -, rfl⟩ |
    ⟨e, he, dst, t, l, hr, rfl⟩ | ⟨e, -, rfl⟩
  · exact hl.runMain hi (hl.keepsMembers ▸ hi')
  · exact hl.deliverRequestVote
  · exact hl.deliverAppendEntries he hr
  · exact ⟨hl.keepsMembers, hl.grantTerm, hl.electedMember,
      fun e' h => hl.heartbeat e' (List.mem_of_mem_erase h), hl.leaderId, hl.crashed⟩

theorem LeadInv.reachable (hnd : members.Nodup) {electionTimeout : PeerId → Nat}
    (h : Reachable members electionTimeout c) : LeadInv members c := by
  induction h with
  | init => exact LeadInv.init _
  | step _ hr hs ih => exact ih.step (Inv.reachable hnd hr) hs

end Preservation

/-! ## Two wins of one round -/

/-- The quorum of a member depends on the number of members only. -/
theorem Inv.quorum_eq (hi : Inv members c) {i : PeerId} (him : i ∈ members) :
    (c.nodes i).quorum = members.length / 2 + 1 ∧ (c.nodes i).membership = members.length := by
  have := List.length_pos_of_mem him
  simp only [quorum, membership, (hi.config i).2, List.length_erase_of_mem him]
  omega

/-- The voters of two won rounds, each with its winner, share a member. -/
theorem Inv.winners_share (hnd : members.Nodup) (hi : Inv members c) {i j : PeerId}
    {r r' : Nat} (him : i ∈ members) (hjm : j ∈ members) (hwi : c.WonRound i r)
    (hwj : c.WonRound j r') :
    ∃ x, (x = i ∨ c.GrantedIn x i r) ∧ (x = j ∨ c.GrantedIn x j r') := by
  obtain ⟨Vi, hndi, hsubi, hqi, hgi⟩ := hwi
  obtain ⟨Vj, hndj, hsubj, hqj, hgj⟩ := hwj
  have hcard : ∀ k ∈ members, ∀ V : List PeerId, V.Nodup → V ⊆ (c.nodes k).peers →
      (k :: V).toFinset ⊆ members.toFinset ∧ (k :: V).toFinset.card = V.length + 1 := by
    intro k hk V hnd' hsub
    rw [(hi.config k).2] at hsub
    refine ⟨fun x hx => ?_, List.toFinset_card_of_nodup
      (List.nodup_cons.2 ⟨fun h => hnd.not_mem_erase (hsub h), hnd'⟩)⟩
    rcases List.mem_cons.1 (List.mem_toFinset.1 hx) with rfl | hx
    · exact List.mem_toFinset.2 hk
    · exact List.mem_toFinset.2 (List.mem_of_mem_erase (hsub hx))
  obtain ⟨hAi, hci⟩ := hcard i him Vi hndi hsubi
  obtain ⟨hAj, hcj⟩ := hcard j hjm Vj hndj hsubj
  obtain ⟨hqi', hmi⟩ := hi.quorum_eq him
  obtain ⟨x, hx, hx'⟩ := (c.nodes i).exists_mem_inter_of_quorum
    (by rw [List.toFinset_card_of_nodup hnd, hmi]) hAi hAj (by omega)
    (by rw [hcj, hqi', ← (hi.quorum_eq hjm).1]; exact hqj)
  exact ⟨x, (List.mem_cons.1 (List.mem_toFinset.1 hx)).imp id (hgi x),
    (List.mem_cons.1 (List.mem_toFinset.1 hx')).imp id (hgj x)⟩

/-- On every run of a cluster of distinct members, with the client the cluster assumes, two
members that became LEADER by winning the same round are one member, or one of them granted the
other a RequestVote of that round: a shared voter other than the two would have granted both
candidates the term before the round. -/
theorem round_won_twice (hnd : members.Nodup) {electionTimeout : PeerId → Nat}
    (h : Reachable members electionTimeout c) {i j : PeerId} {r : Nat}
    (hi : (i, r) ∈ c.elected) (hj : (j, r) ∈ c.elected) :
    i = j ∨ c.GrantedIn i j r ∨ c.GrantedIn j i r := by
  have hI := Inv.reachable hnd h
  have hL := LeadInv.reachable hnd h
  obtain ⟨x, hxi | hxi, hxj | hxj⟩ :=
    hI.winners_share hnd (hL.electedMember _ hi : i ∈ members)
      (hL.electedMember _ hj : j ∈ members) (hI.elected _ hi : c.WonRound i r)
      (hI.elected _ hj : c.WonRound j r)
  · exact .inl (hxi.symm.trans hxj)
  · obtain rfl : x = i := hxi
    exact .inr (.inl hxj)
  · obtain rfl : x = j := hxj
    exact .inr (.inr hxi)
  · obtain ⟨g, hg, hgv, hgc, -, -, hgt⟩ := hxi
    obtain ⟨g', hg', hgv', hgc', -, -, hgt'⟩ := hxj
    have ht : g.term = g'.term := by
      rw [hL.grantTerm g hg, hL.grantTerm g' hg']; omega
    exact .inl (hgc.symm.trans
      ((VotesInv.reachable h).candidateId_eq hg hg' (hgv.trans hgv'.symm) ht |>.trans hgc'))

/-- Three members with an election timeout of five polls: `b` wins round 1 with `a`'s vote,
then `a` wins round 1 with `c`'s vote and its own; `a` had granted `b`. -/
theorem round_won_twice_three_members :
    ∃ c, Reachable ["a", "b", "c"] (fun _ => 5) c ∧ ("a", 1) ∈ c.elected ∧
      ("b", 1) ∈ c.elected ∧ ("a" = "b" ∨ c.GrantedIn "a" "b" 1 ∨ c.GrantedIn "b" "a" 1) := by
  have h : ((init ["a", "b", "c"] fun _ => 5).run
      (List.replicate 7 (.main "b") ++
        [.deliver ⟨"b", 1, .requestVote "a" 0 "b"⟩ false, .main "b"] ++
        List.replicate 7 (.main "a") ++
        [.deliver ⟨"a", 1, .requestVote "c" 0 "a"⟩ false, .main "a"])).map
      (fun c => (decide (("a", 1) ∈ c.elected), decide (("b", 1) ∈ c.elected))) =
      some (true, true) := by
    decide
  obtain ⟨c, hc, he⟩ := Option.map_eq_some'.1 h
  simp only [Prod.mk.injEq, decide_eq_true_eq] at he
  have hr := Reachable.init.run _ hc
  exact ⟨c, hr, he.1, he.2, round_won_twice (by decide) hr he.1 he.2⟩

/-! ## Recorded leaders -/

/-- On every run of a cluster of distinct members, with the client the cluster assumes, the
leader a member records is a member that has won a round at or below the recording member's
term: distinct peers, enough for the quorum with its own vote, granted it that round. -/
theorem recorded_leader_won (hnd : members.Nodup) {electionTimeout : PeerId → Nat}
    (h : Reachable members electionTimeout c) (i l : PeerId)
    (hl : (c.nodes i).leaderId = some l) :
    l ∈ members ∧ ∃ r ≤ (c.nodes i).currentTerm, c.WonRound l r := by
  have hL := LeadInv.reachable hnd h
  obtain ⟨r, hrt, hre⟩ := hL.leaderId i l hl
  exact ⟨hL.electedMember _ hre, r, hrt, (Inv.reachable hnd h).elected _ hre⟩

/-- Two members with an election timeout of zero polls: `a` is elected with `b`'s vote, and
`b` accepts its first heartbeat. -/
theorem recorded_leader_won_two_members :
    ∃ c, Reachable ["a", "b"] (fun _ => 0) c ∧ (c.nodes "b").leaderId = some "a" ∧
      "a" ∈ ["a", "b"] ∧ ∃ r ≤ (c.nodes "b").currentTerm, c.WonRound "a" r := by
  have h : ((init ["a", "b"] fun _ => 0).run
      [.main "a", .main "a", .deliver ⟨"a", 1, .requestVote "b" 0 "a"⟩ false, .main "a",
        .main "a", .deliver ⟨"a", 0, .appendEntries "b" 1 "a"⟩ false]).map
      (fun c => (c.nodes "b").leaderId) = some (some "a") := by
    decide
  obtain ⟨c, hc, he⟩ := Option.map_eq_some'.1 h
  have hr := Reachable.init.run _ hc
  exact ⟨c, hr, he, recorded_leader_won (by decide) hr "b" "a" he⟩

/-! ## Where `main` raises -/

end AiBackend.Raft.Cluster
