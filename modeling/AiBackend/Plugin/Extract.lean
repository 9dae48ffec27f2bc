import AiBackend.Plugin.Entrypoint

/-!
# Reading a BUILD file

`extract_entrypoints_from_buildscript` of `plugin/entrypoint.py`. It parses a BUILD file with
`ast.parse`, and for each expression statement calling `python_distribution` it evaluates the
`entry_points` keyword with `ast.literal_eval` and yields an `EntryPoint` for every item under
the key `group_name`. Every step of that can raise: the read or the parse, the evaluation, and
`.items()` on a value that is not a dict. The generator then stops there, after what it has
yielded.

A BUILD file is given by what `ast.parse` returns for it, and a keyword argument by what
`ast.literal_eval` returns for its value: the parser and the evaluator are CPython's. Both are
modelled as far as the code looks into them (`Stmt`, `EntryPointsLiteral`).

`forYield` is a `for` loop of a generator. `extractBuildscripts` chains the extractions of a
list of BUILD files, which is what the loops of `scan_entrypoint_from_buildscript` consume.
-/

namespace AiBackend.Plugin

/-- What `ast.literal_eval` returns under a key of the `entry_points` dict, as far as the code
looks into it: a dict, by its items in order, or another object, by its type name. -/
inductive GroupLiteral
  | dict (items : List (PyObject × PyObject))
  | other (typeName : String)
  deriving DecidableEq, Repr

/-- What `ast.literal_eval` returns for the `entry_points` argument, as far as the code looks
into it: a dict, by its items in order, or another object, by its type name. -/
inductive EntryPointsLiteral
  | dict (items : List (PyObject × GroupLiteral))
  | other (typeName : String)
  deriving DecidableEq, Repr

/-- A keyword argument of a call: its name (`none` for `**kwargs`), and what `ast.literal_eval`
returns for its value, or the message of what it raises. -/
structure Keyword where
  arg : Option String
  literal : Except String EntryPointsLiteral

/-- A statement of the module `ast.parse` returns, as far as the code looks into it. -/
inductive Stmt
  /-- An expression statement calling a plain name: `Expr(Call(func=Name(id), keywords))`. -/
  | callName (id : String) (keywords : List Keyword)
  /-- Any other statement. -/
  | other

/-- A `for` loop of a generator: the runs of `body` over `xs`, one after the other, up to the
first that raises. A run is what a generator yields and what it raises. -/
def forYield {α : Type} (body : α → List EntryPoint × Option ScanError) :
    List α → List EntryPoint × Option ScanError
  | [] => ([], none)
  | x :: xs =>
    match body x with
    | (yielded, some err) => (yielded, some err)
    | (yielded, none) => (yielded ++ (forYield body xs).1, (forYield body xs).2)

/-- `for name, ref in raw_entry_points.items(): yield EntryPoint(name=name, value=ref, group=...)`.
`EntryPoint` does not check its fields, so its `except ValueError` never runs. -/
def extractGroup (groupName : String) : GroupLiteral → List EntryPoint × Option ScanError
  | .dict items => (items.map fun item => ⟨item.1, item.2, groupName⟩, none)
  | .other typeName => ([], some (.noAttribute typeName "items"))

/-- `for key, raw_entry_points in raw_data.items()`, skipping every key that is not the string
`group_name`. -/
def extractEntryPointsLiteral (groupName : String) :
    EntryPointsLiteral → List EntryPoint × Option ScanError
  | .dict items =>
    forYield (fun item => if item.1 = .str groupName then extractGroup groupName item.2
      else ([], none)) items
  | .other typeName => ([], some (.noAttribute typeName "items"))

/-- `for kwarg in node.value.keywords`: the `entry_points` keyword, by `ast.literal_eval`. -/
def extractKeyword (groupName : String) (kwarg : Keyword) : List EntryPoint × Option ScanError :=
  if kwarg.arg = some "entry_points" then
    match kwarg.literal with
    | .error msg => ([], some (.literalEval msg))
    | .ok rawData => extractEntryPointsLiteral groupName rawData
  else ([], none)

/-- `for node in tree.body`: the expression statements calling `python_distribution`. -/
def extractStmt (groupName : String) : Stmt → List EntryPoint × Option ScanError
  | .callName id keywords =>
    if id = "python_distribution" then forYield (extractKeyword groupName) keywords
    else ([], none)
  | .other => ([], none)

/-- `extract_entrypoints_from_buildscript(group_name, buildscript_path)`, the BUILD file given
by the body of the module `ast.parse(buildscript_path.read_bytes())` returns, or by the message
of what the read or the parse raises. -/
def extractEntrypointsFromBuildscript (groupName : String) :
    Except String (List Stmt) → List EntryPoint × Option ScanError
  | .error msg => ([], some (.parse msg))
  | .ok body => forYield (extractStmt groupName) body

/-- The extractions of the BUILD files `buildscripts`, one after the other, up to the first that
raises. -/
def extractBuildscripts (groupName : String) (buildscripts : List (Except String (List Stmt))) :
    List EntryPoint × Option ScanError :=
  forYield (extractEntrypointsFromBuildscript groupName) buildscripts

/-! ## Generator loops -/

section ForYield

variable {α : Type} (body : α → List EntryPoint × Option ScanError)

theorem forYield_cons_of_raise {x : α} {err : ScanError} (h : (body x).2 = some err)
    (xs : List α) : forYield body (x :: xs) = ((body x).1, some err) := by
  unfold forYield
  split <;> simp_all

theorem forYield_cons_of_none {x : α} (h : (body x).2 = none) (xs : List α) :
    forYield body (x :: xs) = ((body x).1 ++ (forYield body xs).1, (forYield body xs).2) := by
  conv_lhs => unfold forYield
  split <;> simp_all

end ForYield

end AiBackend.Plugin
