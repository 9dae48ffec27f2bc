import Mathlib.Logic.Function.Defs
import Mathlib.Data.Nat.Defs

/-!
# Session status from kernel statuses

`aggregate_kernel_status` of `manager/models/session.py`. The loop folds the four finished
kernel statuses into `priority_finished_status` and collects every other status in the set
`candidates`; a session with a kernel that is not finished takes the status of its least
advanced one.

The loop is characterised after every prefix (`aggregateLoop_spec`): the flag says whether every
status so far is finished, the priority status is the highest-priority finished status seen
(`finishedStatusOf`), and the candidates are exactly the unfinished statuses seen. With the
distinct values of the `KernelStatus` members, `min(candidates, key=...)` picks the unique least
one, so the result depends on the set of statuses only (`aggregateKernelStatus_eq_reference`).
-/

namespace AiBackend.Session

/-- `SessionStatus`. -/
inductive SessionStatus
  | pending | scheduled | preparing | building | pulling | running | restarting | resizing
  | suspended | terminating | terminated | error | cancelled
  deriving DecidableEq, Repr

/-- The values of the `SessionStatus` members. -/
def SessionStatus.value : SessionStatus → Nat
  | .pending => 0
  | .scheduled => 5
  | .preparing => 10
  | .building => 20
  | .pulling => 21
  | .running => 30
  | .restarting => 31
  | .resizing => 32
  | .suspended => 33
  | .terminating => 40
  | .terminated => 41
  | .error => 42
  | .cancelled => 43

/-- Modelled from the spec: `KernelStatus` is declared in `models/kernel.py`, which is not under
src/. Its members are the thirteen keys of `KERNEL_SESSION_STATUS_MAPPING`, which the spec calls
a total 1:1 mapping. -/
inductive KernelStatus
  | pending | scheduled | preparing | building | pulling | running | restarting | resizing
  | suspended | terminating | terminated | error | cancelled
  deriving DecidableEq, Repr

/-- The values of the `KernelStatus` members, which `kernel.py` fixes and src/ does not show.
Distinct members of a Python `Enum` have distinct values. -/
structure KernelStatusValues where
  value : KernelStatus → Int
  injective : Function.Injective value

/-- `KERNEL_SESSION_STATUS_MAPPING`. -/
def kernelSessionStatusMapping : KernelStatus → SessionStatus
  | .pending => .pending
  | .scheduled => .scheduled
  | .preparing => .preparing
  | .building => .building
  | .pulling => .pulling
  | .running => .running
  | .restarting => .restarting
  | .resizing => .resizing
  | .suspended => .suspended
  | .terminating => .terminating
  | .terminated => .terminated
  | .error => .error
  | .cancelled => .cancelled

/-- `min(iterable, key=key)`: the first element of least key; `none` where Python raises
`ValueError` on an empty iterable. -/
def pyMin {α : Type} (key : α → Int) : List α → Option α
  | [] => none
  | a :: l => some (l.foldl (fun best x => if key x < key best then x else best) a)

/-- The loop variables of `aggregate_kernel_status`; the set `candidates` is a list without
repeats. -/
structure AggregateState where
  candidates : List KernelStatus
  priorityFinishedStatus : SessionStatus
  isFinished : Bool

/-- One iteration of the `for s in kernel_statuses` loop. -/
def aggregateStep (st : AggregateState) : KernelStatus → AggregateState
  | .error => { st with priorityFinishedStatus := .error }
  | .terminating =>
    if st.priorityFinishedStatus ≠ .error then { st with priorityFinishedStatus := .terminating }
    else st
  | .cancelled =>
    if st.priorityFinishedStatus ∉ [.error, .terminating] then
      { st with priorityFinishedStatus := .cancelled }
    else st
  | .terminated =>
    if st.priorityFinishedStatus ∉ [.error, .cancelled, .terminating] then
      { st with priorityFinishedStatus := .terminated }
    else st
  | s => { st with candidates := st.candidates.insert s, isFinished := false }

/-- `aggregate_kernel_status`; `none` where it would raise. -/
def aggregateKernelStatus (kv : KernelStatusValues) (kernelStatuses : List KernelStatus) :
    Option SessionStatus :=
  let st := kernelStatuses.foldl aggregateStep ⟨[], .terminated, true⟩
  if st.isFinished then some st.priorityFinishedStatus
  else (pyMin kv.value st.candidates).map kernelSessionStatusMapping

/-! ## The reference -/

/-- `ERROR`, `TERMINATING`, `CANCELLED` and `TERMINATED`. -/
def KernelStatus.isFinished : KernelStatus → Bool
  | .error | .terminating | .cancelled | .terminated => true
  | _ => false

/-- The finished status the spec assigns to a set of statuses: `ERROR` over `TERMINATING` over
`CANCELLED` over `TERMINATED`. -/
def finishedStatusOf (ks : List KernelStatus) : SessionStatus :=
  if .error ∈ ks then .error
  else if .terminating ∈ ks then .terminating
  else if .cancelled ∈ ks then .cancelled
  else .terminated

/-! ## The loop -/

/-- The loop state once the prefix `p` of the kernel statuses has been consumed. -/
structure AggregateState.Consumed (st : AggregateState) (p : List KernelStatus) : Prop where
  isFinished : st.isFinished = p.all KernelStatus.isFinished
  priority : st.priorityFinishedStatus = finishedStatusOf p
  candidates : ∀ k, k ∈ st.candidates ↔ k ∈ p ∧ k.isFinished = false

theorem aggregateStep_isFinished (st : AggregateState) (k : KernelStatus) :
    (aggregateStep st k).isFinished = (st.isFinished && k.isFinished) := by
  cases k <;> simp only [aggregateStep] <;> (try split) <;> simp [KernelStatus.isFinished]

theorem aggregateStep_candidates (st : AggregateState) (k : KernelStatus) :
    (aggregateStep st k).candidates =
      if k.isFinished then st.candidates else st.candidates.insert k := by
  cases k <;> simp only [aggregateStep, KernelStatus.isFinished, ↓reduceIte, Bool.false_eq_true]
    <;> (try split) <;> rfl

theorem aggregateStep_priority {st : AggregateState} {p : List KernelStatus}
    (h : st.priorityFinishedStatus = finishedStatusOf p) (k : KernelStatus) :
    (aggregateStep st k).priorityFinishedStatus = finishedStatusOf (p ++ [k]) := by
  simp only [finishedStatusOf, List.mem_append, List.mem_singleton] at h ⊢
  cases k <;> simp only [aggregateStep, h, reduceCtorEq, or_false, or_true, ↓reduceIte]
  all_goals split_ifs <;> simp_all

theorem AggregateState.Consumed.step {st : AggregateState} {p : List KernelStatus}
    (h : st.Consumed p) (k : KernelStatus) : (aggregateStep st k).Consumed (p ++ [k]) where
  isFinished := by simp [aggregateStep_isFinished, h.isFinished]
  priority := aggregateStep_priority h.priority k
  candidates x := by
    rw [aggregateStep_candidates, List.mem_append, List.mem_singleton]
    split
    · rw [h.candidates]
      constructor
      · exact fun ⟨hx, hf⟩ => ⟨.inl hx, hf⟩
      · rintro ⟨hx | rfl, hf⟩
        · exact ⟨hx, hf⟩
        · simp_all
    · rw [List.mem_insert_iff, h.candidates]
      constructor
      · rintro (rfl | ⟨hx, hf⟩)
        · simp_all
        · exact ⟨.inl hx, hf⟩
      · rintro ⟨hx | rfl, hf⟩
        · exact .inr ⟨hx, hf⟩
        · exact .inl rfl

theorem AggregateState.Consumed.foldl {st : AggregateState} {p : List KernelStatus}
    (h : st.Consumed p) : ∀ ks : List KernelStatus, (ks.foldl aggregateStep st).Consumed (p ++ ks)
  | [] => by simpa using h
  | k :: ks => by simpa using (h.step k).foldl ks

/-- The loop after the whole list: every status consumed, from the initial values. -/
theorem aggregateLoop_spec (ks : List KernelStatus) :
    (ks.foldl aggregateStep ⟨[], .terminated, true⟩).Consumed ks := by
  simpa using AggregateState.Consumed.foldl (p := []) ⟨rfl, rfl, by simp⟩ ks

/-! ## `min` with a key -/

section PyMin

variable {α : Type} (key : α → Int)

theorem foldl_min_spec : ∀ (l : List α) (b : α),
    (l.foldl (fun best x => if key x < key best then x else best) b = b ∨
        l.foldl (fun best x => if key x < key best then x else best) b ∈ l) ∧
      key (l.foldl (fun best x => if key x < key best then x else best) b) ≤ key b ∧
      ∀ x ∈ l, key (l.foldl (fun best x => if key x < key best then x else best) b) ≤ key x
  | [], b => by simp
  | x :: l, b => by
    obtain ⟨h1, h2, h3⟩ := foldl_min_spec l (if key x < key b then x else b)
    simp only [List.foldl_cons, List.mem_cons, forall_eq_or_imp]
    by_cases hx : key x < key b
    · simp only [hx, if_true] at h1 h2 h3 ⊢
      exact ⟨by rcases h1 with h | h <;> simp [h], by omega, h2, h3⟩
    · simp only [hx, if_false] at h1 h2 h3 ⊢
      exact ⟨by rcases h1 with h | h <;> simp [h], h2, by omega, h3⟩

/-- `min` of a non-empty list returns one of its elements of least key. -/
theorem pyMin_spec {l : List α} (hl : l ≠ []) :
    ∃ m, pyMin key l = some m ∧ m ∈ l ∧ ∀ x ∈ l, key m ≤ key x := by
  obtain _ | ⟨a, l⟩ := l
  · exact absurd rfl hl
  obtain ⟨h1, h2, h3⟩ := foldl_min_spec key l a
  refine ⟨_, rfl, ?_, ?_⟩
  · rcases h1 with h | h
    · rw [h]; exact List.mem_cons_self _ _
    · exact List.mem_cons_of_mem _ h
  · simpa [h2] using h3

end PyMin

/-! ## Aggregation against the reference -/

theorem finishedStatusOf_congr {ks ks' : List KernelStatus} (h : ∀ k, k ∈ ks ↔ k ∈ ks') :
    finishedStatusOf ks = finishedStatusOf ks' := by
  simp only [finishedStatusOf, h]

theorem aggregateKernelStatus_of_all_finished (kv : KernelStatusValues) {ks : List KernelStatus}
    (h : ∀ k ∈ ks, k.isFinished) : aggregateKernelStatus kv ks = some (finishedStatusOf ks) := by
  have hc := aggregateLoop_spec ks
  have hf : (ks.foldl aggregateStep ⟨[], .terminated, true⟩).isFinished = true := by
    rw [hc.isFinished, List.all_eq_true]; exact h
  simp only [aggregateKernelStatus, hf, if_true, hc.priority]

example (kv : KernelStatusValues) :
    aggregateKernelStatus kv [.terminated, .cancelled, .terminating] = some .terminating := rfl

/-- With an unfinished status, the result is the mapped status of the least valued one. -/
theorem aggregateKernelStatus_of_unfinished (kv : KernelStatusValues) {ks : List KernelStatus}
    (h : ¬ ∀ k ∈ ks, k.isFinished) :
    ∃ k ∈ ks, k.isFinished = false ∧
      (∀ k' ∈ ks, k'.isFinished = false → kv.value k ≤ kv.value k') ∧
      aggregateKernelStatus kv ks = some (kernelSessionStatusMapping k) := by
  have hc := aggregateLoop_spec ks
  obtain ⟨k₀, hk₀, hf₀⟩ : ∃ k ∈ ks, k.isFinished = false := by simpa using h
  have hf : (ks.foldl aggregateStep ⟨[], .terminated, true⟩).isFinished = false := by
    rw [hc.isFinished, List.all_eq_false]; exact ⟨k₀, hk₀, by simp [hf₀]⟩
  have hne : (ks.foldl aggregateStep ⟨[], .terminated, true⟩).candidates ≠ [] :=
    List.ne_nil_of_mem ((hc.candidates k₀).2 ⟨hk₀, hf₀⟩)
  obtain ⟨m, hm, hmem, hmin⟩ := pyMin_spec kv.value hne
  obtain ⟨hmks, hmf⟩ := (hc.candidates m).1 hmem
  refine ⟨m, hmks, hmf, fun k' hk' hf' => hmin k' ((hc.candidates k').2 ⟨hk', hf'⟩), ?_⟩
  simp only [aggregateKernelStatus, hf, Bool.false_eq_true, if_false, hm, Option.map_some']

example (kv : KernelStatusValues) (h : kv.value .pending < kv.value .running) :
    aggregateKernelStatus kv [.running, .pending] = some .pending := by
  simp [aggregateKernelStatus, aggregateStep, pyMin, List.insert, Int.not_lt.2 (Int.le_of_lt h),
    kernelSessionStatusMapping]

/-- `aggregate_kernel_status` returns for every list of kernel statuses: the finished status by
priority when all are finished, else the session status of the least valued unfinished one;
so the result depends on the set of statuses only. -/
theorem aggregateKernelStatus_eq_reference (kv : KernelStatusValues) (ks : List KernelStatus) :
    (∃ r, aggregateKernelStatus kv ks = some r) ∧
      ((∀ k ∈ ks, k.isFinished) → aggregateKernelStatus kv ks = some (finishedStatusOf ks)) ∧
      (¬ (∀ k ∈ ks, k.isFinished) → ∃ k ∈ ks, k.isFinished = false ∧
        (∀ k' ∈ ks, k'.isFinished = false → kv.value k ≤ kv.value k') ∧
        aggregateKernelStatus kv ks = some (kernelSessionStatusMapping k)) ∧
      ∀ ks' : List KernelStatus, (∀ k, k ∈ ks ↔ k ∈ ks') →
        aggregateKernelStatus kv ks = aggregateKernelStatus kv ks' := by
  refine ⟨?_, aggregateKernelStatus_of_all_finished kv, aggregateKernelStatus_of_unfinished kv,
    fun ks' hks => ?_⟩
  · by_cases h : ∀ k ∈ ks, k.isFinished
    · exact ⟨_, aggregateKernelStatus_of_all_finished kv h⟩
    · obtain ⟨k, -, -, -, hk⟩ := aggregateKernelStatus_of_unfinished kv h
      exact ⟨_, hk⟩
  · by_cases h : ∀ k ∈ ks, k.isFinished
    · have h' : ∀ k ∈ ks', k.isFinished := fun k hk => h k ((hks k).2 hk)
      rw [aggregateKernelStatus_of_all_finished kv h, aggregateKernelStatus_of_all_finished kv h',
        finishedStatusOf_congr hks]
    · have h' : ¬ ∀ k ∈ ks', k.isFinished := fun h' => h fun k hk => h' k ((hks k).1 hk)
      obtain ⟨k, hk, hf, hmin, he⟩ := aggregateKernelStatus_of_unfinished kv h
      obtain ⟨k', hk', hf', hmin', he'⟩ := aggregateKernelStatus_of_unfinished kv h'
      have : kv.value k = kv.value k' :=
        Int.le_antisymm (hmin k' ((hks k').2 hk') hf') (hmin' k ((hks k).1 hk) hf)
      rw [he, he', kv.injective this]

/-- The values `kernel.py` gives the `KernelStatus` members: those of the `SessionStatus` members
of the same names, which `KERNEL_SESSION_STATUS_MAPPING` pairs them with. -/
def upstreamKernelStatusValues : KernelStatusValues where
  value k := (kernelSessionStatusMapping k).value
  injective a b h := by
    cases a <;> cases b <;>
      first | rfl | simp [kernelSessionStatusMapping, SessionStatus.value] at h

/-- With the upstream values, a running and a pending kernel make a pending session, whatever
the order and the repeats of the two statuses. -/
theorem aggregateKernelStatus_upstream_pending :
    aggregateKernelStatus upstreamKernelStatusValues [.running, .pending] = some .pending ∧
      ∀ ks' : List KernelStatus, (∀ k, k ∈ [KernelStatus.running, .pending] ↔ k ∈ ks') →
        aggregateKernelStatus upstreamKernelStatusValues ks' = some .pending :=
  have h := aggregateKernelStatus_eq_reference upstreamKernelStatusValues [.running, .pending]
  ⟨by decide, fun ks' hks => (h.2.2.2 ks' hks).symm.trans (by decide)⟩

end AiBackend.Session
