import AiBackend.Session.Status

/-!
# Session rows: the main kernel and the GraphQL object

`SessionRow.main_kernel` and `ComputeSession.parse_row` / `from_row` of
`manager/models/session.py`.

`main_kernel` filters the kernels of the session by `cluster_role == DEFAULT_ROLE` and raises
unless exactly one is left. `parse_row` copies the row into the fields of a `ComputeSession`,
reading `main_kernel` four times, so it raises what `main_kernel` raises. It maps
`status_history` through `or {}`, takes the names of the enum members, and leaves three fields
`None`. `from_row` maps no row to no object.

`KernelRow` is declared in `models/kernel.py` and `DEFAULT_ROLE` in `manager/defs.py`, neither
under src/: a kernel is given by the fields these functions read, and the default role is a
parameter. A column holds a value of a type `V`, which the functions only copy.
-/

namespace AiBackend.Session

/-- The names of the `SessionStatus` members. -/
def SessionStatus.name : SessionStatus → String
  | .pending => "PENDING"
  | .scheduled => "SCHEDULED"
  | .preparing => "PREPARING"
  | .building => "BUILDING"
  | .pulling => "PULLING"
  | .running => "RUNNING"
  | .restarting => "RESTARTING"
  | .resizing => "RESIZING"
  | .suspended => "SUSPENDED"
  | .terminating => "TERMINATING"
  | .terminated => "TERMINATED"
  | .error => "ERROR"
  | .cancelled => "CANCELLED"

/-- The fields of a `KernelRow` that `main_kernel` and `parse_row` read. -/
structure KernelRow (V : Type) where
  id : V
  clusterRole : String
  architecture : V
  registry : V
  servicePorts : V

/-- The columns and relations of a `SessionRow` that `main_kernel` and `parse_row` read. An enum
column is held by the name of its member, except `status`, and a relation by the column read
through it (`group.name`, `user.email`). `status_history` is a JSONB column holding `None` or a
dict. -/
structure SessionRow (V : Type) where
  id : String
  kernels : List (KernelRow V)
  tag : V
  name : V
  sessionTypeName : String
  imageId : V
  clusterMode : V
  clusterSize : V
  domainName : V
  groupName : V
  groupId : V
  userEmail : V
  userUuid : V
  accessKey : V
  status : SessionStatus
  statusChanged : V
  statusInfo : V
  statusData : V
  statusHistory : Option (List (String × V))
  createdAt : V
  terminatedAt : V
  startsAt : V
  startupCommand : V
  resultName : String
  resourceOpts : V
  scalingGroupName : V
  vfolderMounts : V
  numQueries : V

/-- `TooManyKernelsFound` and `MainKernelNotFound`, with their messages. -/
inductive MainKernelError
  | tooManyKernelsFound (message : String)
  | mainKernelNotFound (message : String)
  deriving DecidableEq, Repr

variable {V : Type} (defaultRole : String)

/-- `SessionRow.main_kernel`; `defaultRole` is `DEFAULT_ROLE`. -/
def SessionRow.mainKernel (row : SessionRow V) : Except MainKernelError (KernelRow V) :=
  let kerns := row.kernels.filter fun kern => kern.clusterRole == defaultRole
  if kerns.length > 1 then
    .error (.tooManyKernelsFound
      ("Session (id: " ++ row.id ++ ") " ++ "has more than 1 main kernel."))
  else if h : kerns.length = 0 then
    .error (.mainKernelNotFound ("Session (id: " ++ row.id ++ ") has no main kernel."))
  else .ok (kerns.get ⟨0, Nat.pos_of_ne_zero h⟩)

/-- The fields of a `ComputeSession`, as `parse_row` fills them: `id` is the main kernel's id,
and `cluster_template`, `created_user_email` and `created_user_id` are not implemented. -/
structure ComputeSession (V : Type) where
  sessionId : String
  id : V
  tag : V
  name : V
  type : String
  image : V
  architecture : V
  registry : V
  clusterTemplate : Option V
  clusterMode : V
  clusterSize : V
  domainName : V
  groupName : V
  groupId : V
  userEmail : V
  userId : V
  accessKey : V
  createdUserEmail : Option V
  createdUserId : Option V
  status : String
  statusChanged : V
  statusInfo : V
  statusData : V
  statusHistory : List (String × V)
  createdAt : V
  terminatedAt : V
  startsAt : V
  startupCommand : V
  result : String
  resourceOpts : V
  scalingGroup : V
  servicePorts : V
  vfolderMounts : V
  numQueries : V

/-- `ComputeSession.parse_row`: the dict literal in order, each `row.main_kernel` read where the
code reads it. -/
def ComputeSession.parseRow (row : SessionRow V) : Except MainKernelError (ComputeSession V) := do
  let id := (← row.mainKernel defaultRole).id
  let architecture := (← row.mainKernel defaultRole).architecture
  let registry := (← row.mainKernel defaultRole).registry
  let servicePorts := (← row.mainKernel defaultRole).servicePorts
  pure {
    sessionId := row.id, id, tag := row.tag, name := row.name, type := row.sessionTypeName,
    image := row.imageId, architecture, registry, clusterTemplate := none,
    clusterMode := row.clusterMode, clusterSize := row.clusterSize,
    domainName := row.domainName, groupName := row.groupName, groupId := row.groupId,
    userEmail := row.userEmail, userId := row.userUuid, accessKey := row.accessKey,
    createdUserEmail := none, createdUserId := none,
    status := row.status.name, statusChanged := row.statusChanged,
    statusInfo := row.statusInfo, statusData := row.statusData,
    statusHistory := row.statusHistory.getD [],
    createdAt := row.createdAt, terminatedAt := row.terminatedAt, startsAt := row.startsAt,
    startupCommand := row.startupCommand, result := row.resultName,
    resourceOpts := row.resourceOpts, scalingGroup := row.scalingGroupName, servicePorts,
    vfolderMounts := row.vfolderMounts, numQueries := row.numQueries }

/-- `ComputeSession.from_row`: no object for no row, else `cls(**cls.parse_row(ctx, row))`. -/
def ComputeSession.fromRow :
    Option (SessionRow V) → Except MainKernelError (Option (ComputeSession V))
  | none => .ok none
  | some row => (ComputeSession.parseRow defaultRole row).map some

end AiBackend.Session
