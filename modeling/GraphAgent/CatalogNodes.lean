import GraphAgent.FiniteClosure
import GraphAgent.NavigationExecutor

/-!
# The node table of the session catalog

The rows of `nodes` that the tree operations read and write, and the methods of
`nodes.py` on them.  A method runs inside one write transaction: an error rolls
it back.
-/

namespace GraphAgent.Catalog

open KeyedRows Navigation

inductive NodeKind where
  | folder
  | session
  deriving DecidableEq

def NodeKind.text : NodeKind → String
  | .folder => "folder"
  | .session => "session"

inductive NodeState where
  | active
  | deleting
  deriving DecidableEq

def NodeState.text : NodeState → String
  | .active => "active"
  | .deleting => "deleting"

inductive TitleSource where
  | default
  | user
  | auto
  deriving DecidableEq

structure SessionCatalogNode where
  nodeId : String
  kind : NodeKind
  parentNodeId : Option String
  displayName : String
  titleSource : Option TitleSource
  state : NodeState
  revision : Nat
  workspaceId : String
  createdAt : Option String
  storageRelativeLocator : Option String
  mainThreadId : Option String
  deriving DecidableEq

abbrev Nodes := List SessionCatalogNode

namespace Nodes

def fetchNode (nodes : Nodes) (nodeId : String) : Option SessionCatalogNode :=
  fetch (·.nodeId) nodes nodeId

def requireNode (nodes : Nodes) (nodeId : String) :
    Except NavigationError SessionCatalogNode :=
  match nodes.fetchNode nodeId with
  | some node => .ok node
  | none => .error (.keyError s!"会话目录节点不存在: {nodeId}")

def validateCommonFields (workspaceId displayName : String) : Except NavigationError Unit :=
  if workspaceId = "" then
    .error (.valueError "workspace_id 不能为空: ''")
  else if displayName = "" then
    .error (.valueError "显示名不能为空: ''")
  else
    .ok ()

def requireNodeIdAvailable (nodes : Nodes) (nodeId : String) : Except NavigationError Unit :=
  match nodes.fetchNode nodeId with
  | some _ => .error (.runtimeError s!"节点 ID 已存在: {nodeId}")
  | none => .ok ()

def requireMutableParent (nodes : Nodes) (parentNodeId : Option String) (workspaceId : String) :
    Except NavigationError Unit :=
  match parentNodeId with
  | none => .ok ()
  | some parentNodeId => do
      let parent ← nodes.requireNode parentNodeId
      if parent.state = .deleting then
        .error (.runtimeError s!"父节点正在删除，拒绝挂载: {parentNodeId}")
      else if parent.workspaceId ≠ workspaceId then
        .error (.runtimeError
          (s!"父节点属于其他 workspace，拒绝跨 workspace 挂载: parent={parentNodeId}, " ++
            s!"parent_workspace={parent.workspaceId}, child_workspace={workspaceId}"))
      else
        .ok ()

def requireUniqueSessionFields (nodes : Nodes)
    (workspaceId storageRelativeLocator mainThreadId : String) : Except NavigationError Unit :=
  match nodes.find? fun row =>
      row.workspaceId = workspaceId && row.mainThreadId = some mainThreadId with
  | some existing =>
    .error (.runtimeError
      (s!"main_thread_id 已被同 workspace 的 session 占用: workspace_id={workspaceId}, " ++
        s!"main_thread_id={mainThreadId}, existing_node={existing.nodeId}"))
  | none =>
    match nodes.find? fun row =>
        row.workspaceId = workspaceId &&
          row.storageRelativeLocator = some storageRelativeLocator with
    | some existing =>
      .error (.runtimeError
        (s!"storage_relative_locator 已被同 workspace 的 session 占用: " ++
          s!"workspace_id={workspaceId}, locator={storageRelativeLocator}, " ++
          s!"existing_node={existing.nodeId}"))
    | none => .ok ()

def links (nodes : Nodes) : List (String × String) :=
  nodes.filterMap fun row => row.parentNodeId.map fun parent => (parent, row.nodeId)

def descendantNodeIds (nodes : Nodes) (nodeId : String) : List String :=
  FiniteClosure.closure nodes.links
    ((nodes.filter fun row => row.parentNodeId = some nodeId).map (·.nodeId))

def folderNode (nodeId workspaceId : String) (parentNodeId : Option String)
    (displayName : String) : SessionCatalogNode where
  nodeId := nodeId
  kind := .folder
  parentNodeId := parentNodeId
  displayName := displayName
  titleSource := none
  state := .active
  revision := 1
  workspaceId := workspaceId
  createdAt := none
  storageRelativeLocator := none
  mainThreadId := none

def createFolder (nodes : Nodes) (nodeId workspaceId : String) (parentNodeId : Option String)
    (displayName : String) : Except NavigationError Nodes := do
  validateCommonFields workspaceId displayName
  nodes.requireNodeIdAvailable nodeId
  nodes.requireMutableParent parentNodeId workspaceId
  return nodes ++ [folderNode nodeId workspaceId parentNodeId displayName]

structure SessionNodeRequest where
  nodeId : String
  workspaceId : String
  parentNodeId : Option String
  displayName : String
  createdAt : String
  storageRelativeLocator : String
  mainThreadId : String
  titleSource : TitleSource

def sessionNode (request : SessionNodeRequest) : SessionCatalogNode where
  nodeId := request.nodeId
  kind := .session
  parentNodeId := request.parentNodeId
  displayName := request.displayName
  titleSource := some request.titleSource
  state := .active
  revision := 1
  workspaceId := request.workspaceId
  createdAt := some request.createdAt
  storageRelativeLocator := some request.storageRelativeLocator
  mainThreadId := some request.mainThreadId

def createSessionNode (nodes : Nodes) (request : SessionNodeRequest) :
    Except NavigationError Nodes := do
  validateCommonFields request.workspaceId request.displayName
  nodes.requireNodeIdAvailable request.nodeId
  nodes.requireUniqueSessionFields request.workspaceId request.storageRelativeLocator
    request.mainThreadId
  nodes.requireMutableParent request.parentNodeId request.workspaceId
  return nodes ++ [sessionNode request]

/-- `UPDATE nodes SET … WHERE node_id = ?`. -/
def updateNode (nodes : Nodes) (nodeId : String)
    (change : SessionCatalogNode → SessionCatalogNode) : Nodes :=
  updateWhere (fun row => row.nodeId = nodeId) change nodes

def renamedNode (displayName : String) (node : SessionCatalogNode) : SessionCatalogNode :=
  { node with
    displayName := displayName
    titleSource := if node.kind = .session then some .user else node.titleSource }

def movedNode (parentNodeId : Option String) (node : SessionCatalogNode) : SessionCatalogNode :=
  { node with parentNodeId := parentNodeId }

def revisedNode (node : SessionCatalogNode) : SessionCatalogNode :=
  { node with revision := node.revision + 1 }

def renameNode (nodes : Nodes) (nodeId displayName : String) : Except NavigationError Nodes :=
  if displayName = "" then
    .error (.valueError "显示名不能为空: ''")
  else do
    let _ ← nodes.requireNode nodeId
    return nodes.updateNode nodeId fun node => revisedNode (renamedNode displayName node)

def validateMoveTarget (nodes : Nodes) (nodeId : String) (newParentNodeId : Option String) :
    Except NavigationError SessionCatalogNode := do
  let node ← nodes.requireNode nodeId
  if node.state = .deleting then
    .error (.runtimeError s!"被移动节点正在删除: {nodeId}")
  else if newParentNodeId = some nodeId then
    .error (.runtimeError s!"移动目标不能是节点自身: {nodeId}")
  else
    match newParentNodeId with
    | none => return node
    | some newParentNodeId => do
        let parent ← nodes.requireNode newParentNodeId
        if parent.state = .deleting then
          .error (.runtimeError s!"目标父节点正在删除: {newParentNodeId}")
        else if parent.workspaceId ≠ node.workspaceId then
          .error (.runtimeError
            (s!"目标父节点属于其他 workspace: node={nodeId}, " ++
              s!"node_workspace={node.workspaceId}, parent={newParentNodeId}, " ++
              s!"parent_workspace={parent.workspaceId}"))
        else if newParentNodeId ∈ nodes.descendantNodeIds nodeId then
          .error (.runtimeError
            s!"移动会形成循环: node={nodeId}, new_parent={newParentNodeId}")
        else
          return node

def moveNode (nodes : Nodes) (nodeId : String) (newParentNodeId : Option String) :
    Except NavigationError Nodes := do
  let _ ← nodes.validateMoveTarget nodeId newParentNodeId
  return nodes.updateNode nodeId fun node => revisedNode (movedNode newParentNodeId node)

def requireDisplayNameAvailable (nodes : Nodes) (nodeId displayName : String) :
    Except NavigationError Unit := do
  let row ← nodes.requireNode nodeId
  match nodes.find? fun other =>
      other.parentNodeId = row.parentNodeId && other.workspaceId = row.workspaceId &&
        other.displayName = displayName && other.nodeId ≠ nodeId with
  | some duplicate =>
    .error (.runtimeError
      (s!"同名兄弟冲突，拒绝改名: node_id={nodeId}, display_name={displayName}, " ++
        s!"existing_node={duplicate.nodeId}"))
  | none => .ok ()

def validateMutationTarget (nodes : Nodes) (nodeId : String)
    (newParentNodeId : Option (Option String)) : Except NavigationError SessionCatalogNode :=
  match newParentNodeId with
  | some newParentNodeId => nodes.validateMoveTarget nodeId newParentNodeId
  | none => nodes.requireNode nodeId

def validateMutationName (nodes : Nodes) (nodeId : String) (newDisplayName : Option String) :
    Except NavigationError Unit :=
  match newDisplayName with
  | some newDisplayName => nodes.requireDisplayNameAvailable nodeId newDisplayName
  | none => .ok ()

def mutatedNode (newParentNodeId : Option (Option String)) (newDisplayName : Option String)
    (node : SessionCatalogNode) : SessionCatalogNode :=
  let moved :=
    match newParentNodeId with
    | some newParentNodeId => movedNode newParentNodeId node
    | none => node
  let renamed :=
    match newDisplayName with
    | some newDisplayName => renamedNode newDisplayName moved
    | none => moved
  revisedNode renamed

def applyNavigationMutation (nodes : Nodes) (nodeId : String) (expectedRevision : Nat)
    (newParentNodeId : Option (Option String)) (newDisplayName : Option String) :
    Except NavigationError Nodes :=
  if newDisplayName = some "" then
    .error (.valueError "new_display_name 不能为空字符串")
  else do
    let row ← nodes.validateMutationTarget nodeId newParentNodeId
    if row.revision ≠ expectedRevision then
      .error (.runtimeError
        (s!"导航 mutation CAS 失败：节点 revision 已漂移: node_id={nodeId}, " ++
          s!"expected_revision={expectedRevision}, actual_revision={row.revision}"))
    else do
      nodes.validateMutationName nodeId newDisplayName
      return nodes.updateNode nodeId (mutatedNode newParentNodeId newDisplayName)

/-- `DELETE FROM nodes WHERE node_id = ?`, under the parent foreign key. -/
def deleteNode (nodes : Nodes) (nodeId : String) : Except NavigationError Nodes :=
  if nodes.any fun row => row.nodeId ≠ nodeId && row.parentNodeId = some nodeId then
    .error (.runtimeError "FOREIGN KEY constraint failed")
  else
    .ok (nodes.filter fun row => row.nodeId ≠ nodeId)

def deleteEmptyFolder (nodes : Nodes) (folderId : String) : Except NavigationError Nodes := do
  let row ← nodes.requireNode folderId
  if row.kind ≠ .folder then
    .error (.runtimeError
      (s!"非 folder 节点拒绝非递归删除（session 走子树删除协议）: node_id={folderId}, " ++
        s!"kind={row.kind.text}"))
  else if row.state ≠ .active then
    .error (.runtimeError
      s!"folder 非 active，拒绝删除: node_id={folderId}, state={row.state.text}")
  else
    let childCount := nodes.countP fun child => child.parentNodeId = some folderId
    if 0 < childCount then
      .error (.runtimeError
        (s!"非空 folder 的非递归删除被明确拒绝: folder_id={folderId}, " ++
          s!"child_count={childCount}"))
    else
      nodes.deleteNode folderId

end Nodes

end GraphAgent.Catalog
