import Mathlib.Data.List.Nodup

/-!
# Plugin entry points

`scan_entrypoints` of `plugin/entrypoint.py`: a generator over the build-script entry points
chained with the package-metadata ones. It skips names in the blocklist, yields each other
entry point, and raises `RuntimeError` at the first name it has already yielded, whatever the
value of the new entry point.

`scanEntrypoints_spec`: over the unblocked entry points, the scan yields all of them when their
names are distinct, and otherwise yields the ones before the first repeated name and raises
there, naming the value yielded before and the new one.
-/

namespace AiBackend.Plugin

/-- A Python object as the scan handles it: a `str`, or another object by its type name and its
`repr`, which stand for it in comparisons and in messages. -/
inductive PyObject
  | str (s : String)
  | other (typeName repr : String)
  deriving DecidableEq, Repr

/-- A string literal is the `str` it spells. -/
instance : Coe String PyObject := ⟨PyObject.str⟩

/-- `importlib.metadata.EntryPoint`, which keeps whatever name and value it is given. -/
structure EntryPoint where
  name : PyObject
  value : PyObject
  group : String
  deriving DecidableEq, Repr

/-- What the scan raises. -/
inductive ScanError
  /-- `RuntimeError(f"Detected a duplicate plugin entrypoint name {entrypoint.name!r} from
  {existing_entrypoint.value} and {entrypoint.value}")`. -/
  | duplicateName (name existingValue value : PyObject)
  /-- `UnboundLocalError`: `scan_entrypoint_from_buildscript` reads `src_path` after
  `find_build_root` raised. -/
  | unboundSrcPath
  /-- What `buildscript_path.read_bytes()` or `ast.parse` raises on a BUILD file (`OSError`,
  `SyntaxError`, `ValueError`), by its message. -/
  | parse (msg : String)
  /-- What `ast.literal_eval` raises on the `entry_points` argument (`ValueError` on a node that
  is not a literal, `TypeError` on an unhashable key), by its message. -/
  | literalEval (msg : String)
  /-- `AttributeError: 'typeName' object has no attribute 'attr'`. -/
  | noAttribute (typeName attr : String)
  deriving DecidableEq, Repr

/-- The `for` loop of `scan_entrypoints`, with `existing_names` as an association list, most
recent first. It returns what the generator yields and what it raises: a duplicate name, or
else `raised`, the error of the chained stream after its last entry point. -/
def scanEntrypoints.loop (blocklist : PyObject → Bool) (raised : Option ScanError) :
    List (PyObject × EntryPoint) → List EntryPoint → List EntryPoint × Option ScanError
  | _, [] => ([], raised)
  | existingNames, entrypoint :: rest =>
    if blocklist entrypoint.name then loop blocklist raised existingNames rest
    else
      match existingNames.lookup entrypoint.name with
      | some existingEntrypoint =>
        ([], some (.duplicateName entrypoint.name existingEntrypoint.value entrypoint.value))
      | none =>
        let (yielded, err) :=
          loop blocklist raised ((entrypoint.name, entrypoint) :: existingNames) rest
        (entrypoint :: yielded, err)

/-- `scan_entrypoints(group_name, blocklist)`, over what `scan_entrypoint_from_buildscript`
yields and raises and what `scan_entrypoint_from_package_metadata` yields. -/
def scanEntrypoints (blocklist : Option (PyObject → Bool))
    (buildscript : List EntryPoint × Option ScanError) (metadata : List EntryPoint) :
    List EntryPoint × Option ScanError :=
  match buildscript.2 with
  | none => scanEntrypoints.loop (blocklist.getD fun _ => false) none [] (buildscript.1 ++ metadata)
  | some err => scanEntrypoints.loop (blocklist.getD fun _ => false) (some err) [] buildscript.1

/-- The entry points of a stream whose names are not in the blocklist. -/
def unblocked (blocklist : Option (PyObject → Bool)) (stream : List EntryPoint) :
    List EntryPoint :=
  stream.filter fun e => !(blocklist.getD fun _ => false) e.name

theorem unblocked_append (blocklist : Option (PyObject → Bool)) (bs md : List EntryPoint) :
    unblocked blocklist (bs ++ md) = unblocked blocklist bs ++ unblocked blocklist md :=
  List.filter_append _ _

/-- `existing_names` after the entry points `pre` have been recorded. -/
def recordNames (pre : List EntryPoint) (existingNames : List (PyObject × EntryPoint)) :
    List (PyObject × EntryPoint) :=
  pre.foldl (fun names e => (e.name, e) :: names) existingNames

/-! ## The loop -/

namespace scanEntrypoints

variable {raised : Option ScanError}

/-- The blocklist only filters the stream. -/
theorem loop_filter (blocklist : PyObject → Bool) :
    ∀ (existingNames : List (PyObject × EntryPoint)) (stream : List EntryPoint),
      loop blocklist raised existingNames stream =
        loop (fun _ => false) raised existingNames (stream.filter fun e => !blocklist e.name)
  | _, [] => rfl
  | existingNames, e :: rest => by
    by_cases hb : blocklist e.name
    · simp [loop, hb, loop_filter blocklist existingNames rest]
    · simp only [loop, hb, Bool.false_eq_true, if_false, List.filter_cons, Bool.not_false,
        if_true]
      split <;> simp [loop_filter blocklist _ rest]

theorem lookup_recordNames_of_not_mem {name : PyObject} :
    ∀ {pre : List EntryPoint} {existingNames : List (PyObject × EntryPoint)},
      name ∉ pre.map EntryPoint.name →
        (recordNames pre existingNames).lookup name = existingNames.lookup name
  | [], _, _ => rfl
  | a :: pre, existingNames, h => by
    simp only [List.map_cons, List.mem_cons, not_or] at h
    rw [recordNames, List.foldl_cons, ← recordNames, lookup_recordNames_of_not_mem h.2]
    simp only [List.lookup_cons, beq_false_of_ne h.1]

/-- Once recorded, an entry point is what `existing_names.get` returns for its name. -/
theorem lookup_recordNames :
    ∀ {pre : List EntryPoint} {existingNames : List (PyObject × EntryPoint)} {e : EntryPoint},
      (pre.map EntryPoint.name).Nodup → e ∈ pre →
        (recordNames pre existingNames).lookup e.name = some e
  | a :: pre, existingNames, e, hnd, he => by
    rw [List.map_cons, List.nodup_cons] at hnd
    rw [recordNames, List.foldl_cons, ← recordNames]
    rcases List.mem_cons.1 he with rfl | he
    · rw [lookup_recordNames_of_not_mem hnd.1, List.lookup_cons_self]
    · exact lookup_recordNames hnd.2 he

/-- Entry points with fresh, distinct names are yielded one after the other. -/
theorem loop_append_fresh :
    ∀ {pre : List EntryPoint} (existingNames : List (PyObject × EntryPoint))
      (rest : List EntryPoint), (pre.map EntryPoint.name).Nodup →
      (∀ e ∈ pre, existingNames.lookup e.name = none) →
        loop (fun _ => false) raised existingNames (pre ++ rest) =
          (pre ++ (loop (fun _ => false) raised (recordNames pre existingNames) rest).1,
            (loop (fun _ => false) raised (recordNames pre existingNames) rest).2)
  | [], _, _, _, _ => rfl
  | a :: pre, existingNames, rest, hnd, hfresh => by
    rw [List.map_cons, List.nodup_cons] at hnd
    have hfresh' : ∀ e ∈ pre, ((a.name, a) :: existingNames).lookup e.name = none := by
      intro e he
      have hne : e.name ≠ a.name := fun h => hnd.1 (h ▸ List.mem_map_of_mem _ he)
      simp only [List.lookup_cons, beq_false_of_ne hne, hfresh e (List.mem_cons_of_mem _ he)]
    have hstep : loop (fun _ => false) raised existingNames (a :: (pre ++ rest)) =
        (a :: (loop (fun _ => false) raised ((a.name, a) :: existingNames) (pre ++ rest)).1,
          (loop (fun _ => false) raised ((a.name, a) :: existingNames) (pre ++ rest)).2) := by
      simp [loop, hfresh a (List.mem_cons_self _ _)]
    rw [List.cons_append, hstep, loop_append_fresh _ rest hnd.2 hfresh']
    rfl

/-- A name already recorded stops the scan with the duplicate-name error. -/
theorem loop_recorded {existingNames : List (PyObject × EntryPoint)} {e existing : EntryPoint}
    (h : existingNames.lookup e.name = some existing) (rest : List EntryPoint) :
    loop (fun _ => false) raised existingNames (e :: rest) =
      ([], some (.duplicateName e.name existing.value e.value)) := by
  simp [loop, h]

/-- The value `existing_names` holds for a name was recorded under that name. -/
theorem mem_of_lookup_eq_some :
    ∀ {existingNames : List (PyObject × EntryPoint)} {name : PyObject} {e : EntryPoint},
      existingNames.lookup name = some e → (name, e) ∈ existingNames
  | (k, v) :: existingNames, name, e, h => by
    by_cases hk : name = k
    · subst hk
      rw [List.lookup_cons_self, Option.some_inj] at h
      exact h ▸ List.mem_cons_self _ _
    · rw [List.lookup_cons, beq_false_of_ne hk] at h
      exact List.mem_cons_of_mem _ (mem_of_lookup_eq_some h)

theorem mem_recordNames {kv : PyObject × EntryPoint} :
    ∀ {pre : List EntryPoint} {existingNames : List (PyObject × EntryPoint)},
      kv ∈ recordNames pre existingNames ↔ kv ∈ existingNames ∨ ∃ e ∈ pre, kv = (e.name, e)
  | [], _ => by simp [recordNames]
  | a :: pre, existingNames => by
    rw [recordNames, List.foldl_cons, ← recordNames, mem_recordNames, List.mem_cons]
    simp only [List.mem_cons, exists_eq_or_imp, or_assoc, or_left_comm]

/-- What the scan yields is a prefix of its stream. -/
theorem loop_fst_isPrefix_stream :
    ∀ (existingNames : List (PyObject × EntryPoint)) (stream : List EntryPoint),
      (loop (fun _ => false) raised existingNames stream).1 <+: stream
  | _, [] => List.nil_prefix
  | existingNames, e :: rest => by
    simp only [loop, Bool.false_eq_true, if_false]
    split
    · exact List.nil_prefix
    · exact (List.prefix_cons_inj e).2 (loop_fst_isPrefix_stream _ rest)

theorem lookup_cons_eq_none {existingNames : List (PyObject × EntryPoint)} {k name : PyObject}
    {v : EntryPoint} :
    ((k, v) :: existingNames).lookup name = none ↔ name ≠ k ∧ existingNames.lookup name = none := by
  by_cases h : name = k
  · simp only [h, List.lookup_cons_self, reduceCtorEq, ne_eq, not_true_eq_false, false_and]
  · simp only [List.lookup_cons, beq_false_of_ne h, ne_eq, h, not_false_eq_true, true_and]

/-- The scan raises no duplicate name exactly when the names of its stream are distinct and
none of them is recorded already. -/
theorem loop_snd_eq_none_iff :
    ∀ (existingNames : List (PyObject × EntryPoint)) (stream : List EntryPoint),
      (loop (fun _ => false) none existingNames stream).2 = none ↔
        (stream.map EntryPoint.name).Nodup ∧ ∀ e ∈ stream, existingNames.lookup e.name = none
  | _, [] => by simp [loop]
  | existingNames, e :: rest => by
    simp only [loop, Bool.false_eq_true, if_false, List.map_cons, List.nodup_cons,
      List.forall_mem_cons]
    split
    case h_1 existing h => simp [h]
    case h_2 h =>
      simp only [loop_snd_eq_none_iff, lookup_cons_eq_none, h, List.mem_map, not_exists,
        not_and, imp_and, forall_and, and_true, true_and]
      constructor
      · exact fun ⟨hnd, hne, hfresh⟩ => ⟨⟨fun x hx hxe => hne x hx hxe, hnd⟩, hfresh⟩
      · exact fun ⟨⟨hne, hnd⟩, hfresh⟩ => ⟨hnd, hne, hfresh⟩

/-- When `existing_names` maps each name to an entry point of `yielded` under that name, the
duplicate-name error names an entry point of the stream and a value yielded before under its
name, before or by the scan itself. -/
theorem loop_snd_eq_some {yielded : List EntryPoint} :
    ∀ (existingNames : List (PyObject × EntryPoint)) (stream : List EntryPoint),
      (∀ kv ∈ existingNames, kv.2 ∈ yielded ∧ kv.2.name = kv.1) → ∀ err,
        (loop (fun _ => false) none existingNames stream).2 = some err →
          ∃ e ∈ stream, ∃ e' ∈ yielded ++ (loop (fun _ => false) none existingNames stream).1,
            e'.name = e.name ∧ err = .duplicateName e.name e'.value e.value
  | _, [], _, _, h => by simp [loop] at h
  | existingNames, e :: rest, hex, err, h => by
    simp only [loop, Bool.false_eq_true, if_false] at h ⊢
    split at h
    case h_1 existing hl =>
      obtain ⟨hy, hname⟩ := hex _ (mem_of_lookup_eq_some hl)
      exact ⟨e, List.mem_cons_self _ _, existing, by simpa using hy, hname,
        (Option.some_inj.1 h).symm⟩
    case h_2 hl =>
      have hex' : ∀ kv ∈ (e.name, e) :: existingNames,
          kv.2 ∈ yielded ++ [e] ∧ kv.2.name = kv.1 := by
        simp only [List.forall_mem_cons, List.mem_append, List.mem_singleton, or_true, and_self,
          true_and]
        exact fun kv hkv => ⟨.inl (hex kv hkv).1, (hex kv hkv).2⟩
      obtain ⟨x, hx, e', he', hname, rfl⟩ := loop_snd_eq_some _ rest hex' err h
      refine ⟨x, List.mem_cons_of_mem _ hx, e', ?_, hname, rfl⟩
      simpa using he'

end scanEntrypoints

/-- A list whose images are not distinct has a first repeated image. -/
theorem exists_first_repeat {α β : Type} (f : α → β) :
    ∀ (acc l : List α), (acc.map f).Nodup → ¬ ((acc ++ l).map f).Nodup →
      ∃ pre e post, acc ++ l = pre ++ e :: post ∧ (pre.map f).Nodup ∧ f e ∈ pre.map f
  | acc, [], h, h' => absurd (by simpa using h) h'
  | acc, a :: l, h, h' => by
    by_cases ha : f a ∈ acc.map f
    · exact ⟨acc, a, l, rfl, h, ha⟩
    · have hnd : ((acc ++ [a]).map f).Nodup := by
        simpa [List.nodup_append, h] using ha
      obtain ⟨pre, e, post, he, hpre, hm⟩ :=
        exists_first_repeat f (acc ++ [a]) l hnd (by simpa using h')
      exact ⟨pre, e, post, by simpa using he, hpre, hm⟩

theorem scanEntrypoints_eq_loop (blocklist : Option (PyObject → Bool))
    (bs md : List EntryPoint) :
    scanEntrypoints blocklist (bs, none) md =
      scanEntrypoints.loop (fun _ => false) none [] (unblocked blocklist (bs ++ md)) :=
  scanEntrypoints.loop_filter _ _ _

/-- Over the unblocked entry points of the chained stream: with distinct names the scan yields
them all and raises nothing; otherwise some name recurs, and at its first recurrence the scan
has yielded exactly the entry points before it and raises the duplicate-name error with the
value yielded before and the new value, whatever the two values are. -/
theorem scanEntrypoints_spec (blocklist : Option (PyObject → Bool)) (bs md : List EntryPoint) :
    (((unblocked blocklist (bs ++ md)).map EntryPoint.name).Nodup →
      scanEntrypoints blocklist (bs, none) md = (unblocked blocklist (bs ++ md), none)) ∧
    (¬ ((unblocked blocklist (bs ++ md)).map EntryPoint.name).Nodup →
      ∃ pre e post e', unblocked blocklist (bs ++ md) = pre ++ e :: post ∧
        (pre.map EntryPoint.name).Nodup ∧ e' ∈ pre ∧ e'.name = e.name) ∧
    ∀ pre e post e', unblocked blocklist (bs ++ md) = pre ++ e :: post →
      (pre.map EntryPoint.name).Nodup → e' ∈ pre → e'.name = e.name →
        scanEntrypoints blocklist (bs, none) md =
          (pre, some (.duplicateName e.name e'.value e.value)) := by
  refine ⟨fun hnd => ?_, fun hnd => ?_, fun pre e post e' hk hpre he' hname => ?_⟩
  · rw [scanEntrypoints_eq_loop, ← List.append_nil (unblocked blocklist (bs ++ md)),
      scanEntrypoints.loop_append_fresh [] [] (by simpa using hnd) (fun _ _ => rfl)]
    rfl
  · obtain ⟨pre, e, post, hk, hpre, hm⟩ :=
      exists_first_repeat EntryPoint.name [] _ List.nodup_nil hnd
    obtain ⟨e', he', hname⟩ := List.mem_map.1 hm
    exact ⟨pre, e, post, e', hk, hpre, he', hname⟩
  · rw [scanEntrypoints_eq_loop, hk, scanEntrypoints.loop_append_fresh [] _ hpre (fun _ _ => rfl),
      scanEntrypoints.loop_recorded (hname ▸ scanEntrypoints.lookup_recordNames hpre he')]
    simp

end AiBackend.Plugin
