import AiBackend.Raft.Fsm
import Mathlib.Data.Finset.Card

/-!
# Quorum arithmetic

`membership` is the peer count plus one and `quorum` is `membership / 2 + 1`. For every peer
count the quorum is a strict majority that the membership can reach: two sets of members that
both reach it share a member (`exists_mem_inter_of_quorum`), and a round granted by every peer
is won (`quorum_majority`).
-/

namespace AiBackend.Raft.RaftFiniteStateMachine

variable (s : RaftFiniteStateMachine)

/-- The quorum depends on the peers only. -/
theorem quorum_eq_of_peers_eq {s' : RaftFiniteStateMachine} (h : s.peers = s'.peers) :
    s.quorum = s'.quorum := by
  simp only [quorum, membership, h]

theorem membership_lt_two_mul_quorum : s.membership < 2 * s.quorum := by
  unfold quorum; omega

theorem quorum_le_membership : s.quorum ≤ s.membership := by
  unfold quorum membership; omega

/-- Two sets of members that both reach the quorum share a member. -/
theorem exists_mem_inter_of_quorum {α : Type} [DecidableEq α] {M A B : Finset α}
    (hM : M.card = s.membership) (hA : A ⊆ M) (hB : B ⊆ M)
    (hqA : s.quorum ≤ A.card) (hqB : s.quorum ≤ B.card) : ∃ x, x ∈ A ∧ x ∈ B := by
  have hU := Finset.card_le_card (Finset.union_subset hA hB)
  have hI := Finset.card_union_add_card_inter A B
  have hq := s.membership_lt_two_mul_quorum
  obtain ⟨x, hx⟩ := Finset.card_pos.1 (show 0 < (A ∩ B).card by omega)
  exact ⟨x, Finset.mem_inter.1 hx⟩

/-- Every peer granting is a count of `membership`. -/
theorem count_all_granted : (s.peers.map fun _ => true).count true + 1 = s.membership := by
  rw [List.count_eq_length.2 (by simp), List.length_map, membership]

/-- The quorum is a strict majority of the membership and at most the membership, for every
peer count; two sets of members reaching it intersect; and a round granted by all peers
reaches it and makes the node LEADER. -/
theorem quorum_majority :
    s.membership < 2 * s.quorum ∧ s.quorum ≤ s.membership ∧
      (∀ {α : Type} [DecidableEq α] (M A B : Finset α), M.card = s.membership → A ⊆ M →
        B ⊆ M → s.quorum ≤ A.card → s.quorum ≤ B.card → ∃ x, x ∈ A ∧ x ∈ B) ∧
      (s.peers.map fun _ => true).count true + 1 ≥ s.quorum ∧
      (s.requestVoteFinish (s.peers.map fun _ => true)).state = .leader := by
  have hall : (s.peers.map fun _ => true).count true + 1 ≥ s.quorum :=
    s.count_all_granted ▸ s.quorum_le_membership
  exact ⟨s.membership_lt_two_mul_quorum, s.quorum_le_membership,
    fun _ _ _ => s.exists_mem_inter_of_quorum, hall,
    by simp only [requestVoteFinish_eq, if_pos hall]⟩

end AiBackend.Raft.RaftFiniteStateMachine
