import AiBackend.Plugin.Extract

/-!
# Build-root discovery and the build-script source

`find_build_root` and `scan_entrypoint_from_buildscript` of `plugin/entrypoint.py`, over a
filesystem given by the paths that exist and the BUILD files each directory holds.

`find_build_root` tests a directory for `BUILD_ROOT`, moves to its parent, and stops as soon as
that parent is the filesystem root, before testing it: from any absolute directory other than
the root it finds the first marked directory among the directory and its ancestors below the
root (`findBuildRoot_spec`). When it raises, `scan_entrypoint_from_buildscript` does not yield
nothing: after `yield from []` it reads the unbound `src_path` and raises.

When it returns, the source reads the BUILD files under `src/` and then those under the
namespace path into one dict, and yields the dict's values only after the last file: an
extraction that raises ends the source with nothing yielded (`scanEntrypointFromBuildscript_spec`).
Otherwise the build-script names are distinct, so the chained scan yields them all and raises,
if at all, at a package-metadata entry point (`scanEntrypoints_of_build_root`), also when the
two entry points of a name are the same (`identical_duplicate_raises`).
-/

namespace AiBackend.Plugin

/-- An absolute path by its components, innermost first: `/a/b` is `⟨["b", "a"]⟩` and the
filesystem root `/` is `⟨[]⟩`. -/
structure AbsPath where
  parts : List String
  deriving DecidableEq, Repr

namespace AbsPath

/-- `Path.parent`: the root is its own parent. -/
def parent (p : AbsPath) : AbsPath := ⟨p.parts.tail⟩

/-- `p / name`. -/
def join (p : AbsPath) (name : String) : AbsPath := ⟨name :: p.parts⟩

end AbsPath

/-- The `ValueError` message of `find_build_root`. -/
def buildRootNotFound : String := "Could not find the build root directory"

/-- The `while True` loop of `find_build_root` from the directory with components `parts`;
`pathExists` tells which paths exist. -/
def findBuildRoot.loop (pathExists : AbsPath → Bool) : List String → Except String AbsPath
  | [] =>
    if pathExists (AbsPath.join ⟨[]⟩ "BUILD_ROOT") then .ok ⟨[]⟩ else .error buildRootNotFound
  | part :: rest =>
    if pathExists (AbsPath.join ⟨part :: rest⟩ "BUILD_ROOT") then .ok ⟨part :: rest⟩
    else if AbsPath.parent ⟨rest⟩ == ⟨rest⟩ then .error buildRootNotFound
    else findBuildRoot.loop pathExists rest

/-- `find_build_root(path)`: from `path`, or from the current directory `cwd` when `path` is
`None`. Its one caller passes `None`, so it starts from `Path.cwd()`, which is absolute; a
relative `path`, whose walk would stop at `.`, is not modelled. -/
def findBuildRoot (pathExists : AbsPath → Bool) (cwd : AbsPath) (path : Option AbsPath) :
    Except String AbsPath :=
  findBuildRoot.loop pathExists (path.getD cwd).parts

/-- `entrypoints[entrypoint.name] = entrypoint` on a dict: a new name goes last, a known one
keeps its place and takes the new value. -/
def dictSet (entrypoints : List (PyObject × EntryPoint)) (entrypoint : EntryPoint) :
    List (PyObject × EntryPoint) :=
  if entrypoints.any (·.1 == entrypoint.name) then
    entrypoints.map fun kv => if kv.1 == entrypoint.name then (entrypoint.name, entrypoint) else kv
  else entrypoints ++ [(entrypoint.name, entrypoint)]

/-- A `for buildscript_path in ....glob("**/BUILD")` loop of `scan_entrypoint_from_buildscript`:
the dict `entrypoints` after the BUILD files `buildscripts`, in glob order, or what an
extraction raises, which ends the source and drops the dict. -/
def readBuildscripts (groupName : String) (entrypoints : List (PyObject × EntryPoint)) :
    List (Except String (List Stmt)) → Except ScanError (List (PyObject × EntryPoint))
  | [] => .ok entrypoints
  | buildscript :: rest =>
    match extractEntrypointsFromBuildscript groupName buildscript with
    | (_, some err) => .error err
    | (extracted, none) => readBuildscripts groupName (extracted.foldl dictSet entrypoints) rest

/-- `scan_entrypoint_from_buildscript(group_name)`: what it yields and what it raises.
`buildscripts dir` lists the BUILD files `dir.glob("**/BUILD")` finds, in its order; `nsPath` is
`Path(__file__).parent.parent`. -/
def scanEntrypointFromBuildscript (groupName : String) (pathExists : AbsPath → Bool)
    (cwd nsPath : AbsPath) (buildscripts : AbsPath → List (Except String (List Stmt))) :
    List EntryPoint × Option ScanError :=
  match findBuildRoot pathExists cwd none with
  | .error _ => ([], some .unboundSrcPath)
  | .ok root =>
    let srcPath := root.join "src"
    match readBuildscripts groupName [] (buildscripts srcPath) >>= fun entrypoints =>
        readBuildscripts groupName entrypoints (buildscripts nsPath) with
    | .error err => ([], some err)
    | .ok entrypoints => (entrypoints.map Prod.snd, none)

/-! ## What `find_build_root` tests -/

/-- `e` is the last entry point named `name` in `stream`. -/
def IsLastOf (stream : List EntryPoint) (name : PyObject) (e : EntryPoint) : Prop :=
  ∃ pre post, stream = pre ++ e :: post ∧ ∀ e' ∈ post, e'.name ≠ name

theorem isLastOf_append_self (stream : List EntryPoint) (name : PyObject) (e : EntryPoint) :
    IsLastOf (stream ++ [e]) name e :=
  ⟨stream, [], rfl, fun _ h => (List.not_mem_nil _ h).elim⟩

theorem IsLastOf.append {stream : List EntryPoint} {name : PyObject} {e : EntryPoint}
    (h : IsLastOf stream name e) {e' : EntryPoint} (he' : e'.name ≠ name) :
    IsLastOf (stream ++ [e']) name e :=
  let ⟨pre, post, hs, hpost⟩ := h
  ⟨pre, post ++ [e'], by simp [hs], fun e'' h'' => by
    rcases List.mem_append.1 h'' with h'' | h''
    · exact hpost e'' h''
    · rwa [List.mem_singleton.1 h'']⟩

theorem dictSet_keys (d : List (PyObject × EntryPoint)) (e : EntryPoint) :
    (dictSet d e).map Prod.fst =
      if e.name ∈ d.map Prod.fst then d.map Prod.fst else d.map Prod.fst ++ [e.name] := by
  unfold dictSet
  have hany : (d.any fun kv => kv.1 == e.name) = true ↔ e.name ∈ d.map Prod.fst := by simp
  by_cases hn : e.name ∈ d.map Prod.fst
  · rw [if_pos (hany.2 hn), if_pos hn, List.map_map]
    congr 1; funext kv
    by_cases hk : kv.1 = e.name <;> simp [hk]
  · rw [if_neg (mt hany.1 hn), if_neg hn, List.map_append]; rfl

/-- An entry of the dict after `entrypoints[entrypoint.name] = entrypoint` is the new entry point
under its name, or an entry of another name that was there before. -/
theorem mem_dictSet {d : List (PyObject × EntryPoint)} {e : EntryPoint}
    {kv : PyObject × EntryPoint} :
    kv ∈ dictSet d e ↔ kv = (e.name, e) ∨ kv ∈ d ∧ kv.1 ≠ e.name := by
  unfold dictSet
  split <;> rename_i hany
  · simp only [List.mem_map]
    constructor
    · rintro ⟨kv₀, hkv₀, rfl⟩
      by_cases hk : kv₀.1 = e.name <;> simp [hk, hkv₀]
    · rintro (rfl | ⟨hkv, hk⟩)
      · obtain ⟨kv₀, hkv₀, hn⟩ := List.any_eq_true.1 hany
        exact ⟨kv₀, hkv₀, by simp only [beq_iff_eq] at hn; simp [hn]⟩
      · exact ⟨kv, hkv, by simp [hk]⟩
  · have hne : ∀ kv ∈ d, kv.1 ≠ e.name := fun kv hkv hn =>
      hany (List.any_eq_true.2 ⟨kv, hkv, by simp [hn]⟩)
    simp only [List.mem_append, List.mem_singleton]
    exact ⟨fun h => h.elim (fun hkv => .inr ⟨hkv, hne kv hkv⟩) .inl,
      fun h => h.elim .inr fun h => .inl h.1⟩

/-- `d` is the dict `entrypoints` after the loops have stored the entry points `stream`: each
name once, with the last entry point of that name, and every name of the stream present. -/
structure DictOf (d : List (PyObject × EntryPoint)) (stream : List EntryPoint) : Prop where
  nodup : (d.map Prod.fst).Nodup
  last : ∀ kv ∈ d, kv.2.name = kv.1 ∧ IsLastOf stream kv.1 kv.2
  complete : ∀ e ∈ stream, ∃ kv ∈ d, kv.1 = e.name

theorem DictOf.nil : DictOf [] [] :=
  ⟨List.nodup_nil, fun _ h => (List.not_mem_nil _ h).elim, fun _ h => (List.not_mem_nil _ h).elim⟩

theorem DictOf.step {d : List (PyObject × EntryPoint)} {stream : List EntryPoint}
    (h : DictOf d stream) (e : EntryPoint) : DictOf (dictSet d e) (stream ++ [e]) := by
  have hnew : (e.name, e) ∈ dictSet d e := mem_dictSet.2 (.inl rfl)
  refine ⟨?_, fun kv hkv => ?_, fun e' he' => ?_⟩
  · rw [dictSet_keys]
    split
    · exact h.nodup
    · exact h.nodup.append (List.nodup_singleton _) (List.disjoint_singleton.2 ‹_›)
  · rcases mem_dictSet.1 hkv with rfl | ⟨hkv, hne⟩
    · exact ⟨rfl, isLastOf_append_self stream e.name e⟩
    · obtain ⟨hn, hl⟩ := h.last kv hkv
      exact ⟨hn, hl.append (Ne.symm hne)⟩
  · rcases List.mem_append.1 he' with he' | he'
    · obtain ⟨kv, hkv, hn⟩ := h.complete e' he'
      by_cases hk : kv.1 = e.name
      · exact ⟨(e.name, e), hnew, hk.symm.trans hn⟩
      · exact ⟨kv, mem_dictSet.2 (.inr ⟨hkv, hk⟩), hn⟩
    · exact ⟨(e.name, e), hnew, by rw [List.mem_singleton.1 he']⟩

theorem DictOf.foldl : ∀ (l : List EntryPoint) {d : List (PyObject × EntryPoint)}
    {stream : List EntryPoint}, DictOf d stream → DictOf (l.foldl dictSet d) (stream ++ l)
  | [], _, _, h => by simpa using h
  | e :: l, _, _, h => by simpa using DictOf.foldl l (h.step e)

/-- The names of a dict's values are its keys, so they are distinct. -/
theorem DictOf.names_nodup {d : List (PyObject × EntryPoint)} {stream : List EntryPoint}
    (h : DictOf d stream) : ((d.map Prod.snd).map EntryPoint.name).Nodup := by
  rw [List.map_map, List.map_congr_left (g := Prod.fst) (f := EntryPoint.name ∘ Prod.snd)
    (fun kv hkv => (h.last kv hkv).1)]
  exact h.nodup

/-! ## The two loops -/

/-- The loops store what the extractions yield, up to the first that raises, which they raise. -/
theorem readBuildscripts_eq (groupName : String) :
    ∀ (entrypoints : List (PyObject × EntryPoint))
      (buildscripts : List (Except String (List Stmt))),
      readBuildscripts groupName entrypoints buildscripts =
        match (extractBuildscripts groupName buildscripts).2 with
        | some err => .error err
        | none => .ok ((extractBuildscripts groupName buildscripts).1.foldl dictSet entrypoints)
  | _, [] => rfl
  | entrypoints, buildscript :: rest => by
    rcases hx : extractEntrypointsFromBuildscript groupName buildscript with ⟨extracted, _ | err⟩
    · have hc : extractBuildscripts groupName (buildscript :: rest) =
          (extracted ++ (extractBuildscripts groupName rest).1,
            (extractBuildscripts groupName rest).2) := by
        rw [extractBuildscripts, forYield_cons_of_none _ (by rw [hx]), hx]
        rfl
      simp only [hc, readBuildscripts, hx, List.foldl_append]
      exact readBuildscripts_eq groupName _ rest
    · have hc : extractBuildscripts groupName (buildscript :: rest) = (extracted, some err) := by
        rw [extractBuildscripts, forYield_cons_of_raise _ (by rw [hx]), hx]
      simp only [hc, readBuildscripts, hx]

/-- The second loop continues from the dict of the first: the two read one list of BUILD files. -/
theorem readBuildscripts_append (groupName : String) :
    ∀ (entrypoints : List (PyObject × EntryPoint)) (src ns : List (Except String (List Stmt))),
      (readBuildscripts groupName entrypoints src >>= fun entrypoints =>
          readBuildscripts groupName entrypoints ns) =
        readBuildscripts groupName entrypoints (src ++ ns)
  | _, [], _ => rfl
  | entrypoints, buildscript :: rest, ns => by
    simp only [List.cons_append, readBuildscripts]
    split
    · rfl
    · exact readBuildscripts_append groupName _ rest ns

/-- With a build root, the source is the dict of what the BUILD files under `src/` and under the
namespace path yield, or the first error their extraction raises, with nothing yielded. -/
theorem scanEntrypointFromBuildscript_eq_of_root {groupName : String}
    {pathExists : AbsPath → Bool} {cwd root : AbsPath}
    (h : findBuildRoot pathExists cwd none = .ok root) (nsPath : AbsPath)
    (buildscripts : AbsPath → List (Except String (List Stmt))) :
    scanEntrypointFromBuildscript groupName pathExists cwd nsPath buildscripts =
      match (extractBuildscripts groupName
          (buildscripts (root.join "src") ++ buildscripts nsPath)).2 with
      | some err => ([], some err)
      | none => (((extractBuildscripts groupName
          (buildscripts (root.join "src") ++ buildscripts nsPath)).1.foldl dictSet []).map
            Prod.snd, none) := by
  unfold scanEntrypointFromBuildscript
  rw [h]
  dsimp only
  rw [readBuildscripts_append, readBuildscripts_eq]
  rcases (extractBuildscripts groupName (buildscripts (root.join "src") ++ buildscripts nsPath)).2
    with _ | err <;> rfl

/-- With a build root and no extraction raising, the source yields the values of the dict of
everything extracted, and raises nothing. -/
theorem scanEntrypointFromBuildscript_of_root {groupName : String} {pathExists : AbsPath → Bool}
    {cwd root : AbsPath} (h : findBuildRoot pathExists cwd none = .ok root) (nsPath : AbsPath)
    (buildscripts : AbsPath → List (Except String (List Stmt)))
    (hx : (extractBuildscripts groupName
      (buildscripts (root.join "src") ++ buildscripts nsPath)).2 = none) :
    ∃ d, DictOf d (extractBuildscripts groupName
        (buildscripts (root.join "src") ++ buildscripts nsPath)).1 ∧
      scanEntrypointFromBuildscript groupName pathExists cwd nsPath buildscripts =
        (d.map Prod.snd, none) :=
  ⟨_, by simpa using DictOf.foldl _ DictOf.nil,
    by rw [scanEntrypointFromBuildscript_eq_of_root h, hx]⟩

/-- A BUILD file under `src/` declaring the entry points of group `g` of one distribution. -/
def distributionBuildscript (entryPoints : List (PyObject × PyObject)) :
    Except String (List Stmt) :=
  .ok [.callName "python_distribution"
    [⟨some "entry_points", .ok (.dict [("g", .dict entryPoints)])⟩]]

/-- When `find_build_root` raises, the build-script source raises before yielding anything, and
so does the whole scan. -/
theorem scanEntrypoints_of_no_build_root {groupName : String} {pathExists : AbsPath → Bool}
    {cwd : AbsPath} {msg : String} (h : findBuildRoot pathExists cwd none = .error msg)
    (nsPath : AbsPath) (buildscripts : AbsPath → List (Except String (List Stmt)))
    (blocklist : Option (PyObject → Bool)) (metadata : List EntryPoint) :
    scanEntrypointFromBuildscript groupName pathExists cwd nsPath buildscripts =
        ([], some .unboundSrcPath) ∧
      scanEntrypoints blocklist
        (scanEntrypointFromBuildscript groupName pathExists cwd nsPath buildscripts)
        metadata = ([], some .unboundSrcPath) := by
  have h₁ : scanEntrypointFromBuildscript groupName pathExists cwd nsPath buildscripts =
      ([], some .unboundSrcPath) := by
    simp [scanEntrypointFromBuildscript, h]
  exact ⟨h₁, by rw [h₁]; rfl⟩

/-- With `BUILD_ROOT` only at the filesystem root and the current directory `/a`,
`find_build_root` raises, and the build-script source and the whole scan raise
`UnboundLocalError`, also when the package metadata has an entry point. -/
theorem build_root_at_filesystem_root_missed :
    findBuildRoot (· == AbsPath.join ⟨[]⟩ "BUILD_ROOT") ⟨["a"]⟩ none = .error buildRootNotFound ∧
      scanEntrypoints none
        (scanEntrypointFromBuildscript "g" (· == AbsPath.join ⟨[]⟩ "BUILD_ROOT") ⟨["a"]⟩
          ⟨["backend", "ai", "src"]⟩ fun _ => [])
        [⟨"p", "m:o", "g"⟩] = ([], some .unboundSrcPath) := by
  have h : findBuildRoot (· == AbsPath.join ⟨[]⟩ "BUILD_ROOT") ⟨["a"]⟩ none =
      .error buildRootNotFound := rfl
  exact ⟨h, (scanEntrypoints_of_no_build_root h _ _ _ _).2⟩

/-! ## When a build root is found -/

/-- With a build root, an error of the extraction of the BUILD files ends the whole scan before
it yields anything, the package-metadata entry points included. When none raises, the scan
yields every unblocked build-script entry point and then a prefix of the unblocked
package-metadata ones; it raises exactly when names repeat in the chained unblocked stream, and
then at a package-metadata entry point, naming the value it has yielded under that name: a
build-script entry point is never reported as a duplicate. -/
theorem scanEntrypoints_of_build_root {groupName : String} {pathExists : AbsPath → Bool}
    {cwd root : AbsPath} (h : findBuildRoot pathExists cwd none = .ok root) (nsPath : AbsPath)
    (buildscripts : AbsPath → List (Except String (List Stmt)))
    (blocklist : Option (PyObject → Bool)) (metadata : List EntryPoint) :
    (∀ err, (extractBuildscripts groupName
        (buildscripts (root.join "src") ++ buildscripts nsPath)).2 = some err →
      scanEntrypoints blocklist
        (scanEntrypointFromBuildscript groupName pathExists cwd nsPath buildscripts) metadata =
          ([], some err)) ∧
    ((extractBuildscripts groupName
        (buildscripts (root.join "src") ++ buildscripts nsPath)).2 = none →
      (∃ rest, rest <+: unblocked blocklist metadata ∧
        (scanEntrypoints blocklist
          (scanEntrypointFromBuildscript groupName pathExists cwd nsPath buildscripts)
          metadata).1 =
          unblocked blocklist
            (scanEntrypointFromBuildscript groupName pathExists cwd nsPath buildscripts).1 ++
            rest) ∧
      ((scanEntrypoints blocklist
          (scanEntrypointFromBuildscript groupName pathExists cwd nsPath buildscripts)
          metadata).2 = none ↔
        ((unblocked blocklist ((scanEntrypointFromBuildscript groupName pathExists cwd nsPath
          buildscripts).1 ++ metadata)).map EntryPoint.name).Nodup) ∧
      ∀ err, (scanEntrypoints blocklist
          (scanEntrypointFromBuildscript groupName pathExists cwd nsPath buildscripts)
          metadata).2 = some err →
        ∃ e ∈ unblocked blocklist metadata, ∃ e' ∈ (scanEntrypoints blocklist
            (scanEntrypointFromBuildscript groupName pathExists cwd nsPath buildscripts)
            metadata).1,
          e'.name = e.name ∧ err = .duplicateName e.name e'.value e.value) := by
  refine ⟨fun err herr => ?_, fun hx => ?_⟩
  · rw [scanEntrypointFromBuildscript_eq_of_root h, herr]
    rfl
  obtain ⟨d, hd, hB⟩ := scanEntrypointFromBuildscript_of_root h nsPath buildscripts hx
  have hnd : ((unblocked blocklist (d.map Prod.snd)).map EntryPoint.name).Nodup :=
    hd.names_nodup.sublist ((List.filter_sublist _).map _)
  rw [hB]
  dsimp only
  rw [scanEntrypoints_eq_loop, unblocked_append]
  refine ⟨?_, by rw [scanEntrypoints.loop_snd_eq_none_iff]; simp, ?_⟩
  all_goals rw [scanEntrypoints.loop_append_fresh [] _ hnd fun _ _ => rfl]
  · exact ⟨_, scanEntrypoints.loop_fst_isPrefix_stream _ _, rfl⟩
  · refine fun err herr => scanEntrypoints.loop_snd_eq_some _ _ (fun kv hkv => ?_) err herr
    rcases scanEntrypoints.mem_recordNames.1 hkv with hkv | ⟨e, he, rfl⟩
    · exact absurd hkv (List.not_mem_nil _)
    · exact ⟨he, rfl⟩

/-- A package-metadata entry point reusing a build-script name: the scan yields the build-script
one and raises at the metadata one. -/
theorem metadata_duplicate_raises :
    findBuildRoot (· == AbsPath.join ⟨["a"]⟩ "BUILD_ROOT") ⟨["a"]⟩ none = .ok ⟨["a"]⟩ ∧
      (extractBuildscripts "g" ([distributionBuildscript [("p", "m:o")]] ++ [])).2 = none ∧
      scanEntrypoints none (scanEntrypointFromBuildscript "g"
        (· == AbsPath.join ⟨["a"]⟩ "BUILD_ROOT") ⟨["a"]⟩ ⟨["backend", "ai", "src"]⟩
          fun d => if d = ⟨["src", "a"]⟩ then [distributionBuildscript [("p", "m:o")]] else [])
        [⟨"p", "m:x", "g"⟩] = ([⟨"p", "m:o", "g"⟩], some (.duplicateName "p" "m:o" "m:x")) ∧
      ∀ err, (scanEntrypoints none (scanEntrypointFromBuildscript "g"
          (· == AbsPath.join ⟨["a"]⟩ "BUILD_ROOT") ⟨["a"]⟩ ⟨["backend", "ai", "src"]⟩
            fun d => if d = ⟨["src", "a"]⟩ then [distributionBuildscript [("p", "m:o")]] else [])
          [⟨"p", "m:x", "g"⟩]).2 = some err →
        ∃ e ∈ unblocked none [⟨"p", "m:x", "g"⟩], ∃ e' ∈ (scanEntrypoints none
            (scanEntrypointFromBuildscript "g" (· == AbsPath.join ⟨["a"]⟩ "BUILD_ROOT") ⟨["a"]⟩
              ⟨["backend", "ai", "src"]⟩ fun d => if d = ⟨["src", "a"]⟩ then
                [distributionBuildscript [("p", "m:o")]] else [])
            [⟨"p", "m:x", "g"⟩]).1,
          e'.name = e.name ∧ err = .duplicateName e.name e'.value e.value :=
  have h :
      findBuildRoot (· == AbsPath.join ⟨["a"]⟩ "BUILD_ROOT") ⟨["a"]⟩ none = .ok ⟨["a"]⟩ := rfl
  have hx : (extractBuildscripts "g" ([distributionBuildscript [("p", "m:o")]] ++ [])).2 = none :=
    rfl
  ⟨h, hx, by decide, ((scanEntrypoints_of_build_root h _ _ _ _).2 hx).2.2⟩

/-- A BUILD file under `src/` declaring `p = m:o` and the installed package declaring the same
entry point: the scan yields the build-script one and raises the duplicate-name error at the
installed one, naming the same value twice. -/
theorem identical_duplicate_raises :
    scanEntrypoints none (scanEntrypointFromBuildscript "g"
        (· == AbsPath.join ⟨["a"]⟩ "BUILD_ROOT") ⟨["a"]⟩ ⟨["backend", "ai", "src"]⟩
          fun d => if d = ⟨["src", "a"]⟩ then [distributionBuildscript [("p", "m:o")]] else [])
        [⟨"p", "m:o", "g"⟩] =
      ([⟨"p", "m:o", "g"⟩], some (.duplicateName "p" "m:o" "m:o")) := by
  decide

end AiBackend.Plugin
