import GraphAgent.PercentText
import GraphAgent.Transactions

/-!
# The grammar of resource URIs

`app/core/resource_uri.py`: parsing a `boxteam://` URI into its logical address
and building the display URI of an address.  Texts are well-formed, so the
encoding error of a lone surrogate has no input here.
-/

namespace GraphAgent.ResourceUri

open Terminal PercentText

/-- `_GRAMMAR_REASON_CODES`. -/
inductive ReasonCode where
  | emptyUri
  | unknownScheme
  | schemeCaseError
  | userinfoRejected
  | queryRejected
  | fragmentRejected
  | backslashRejected
  | controlCharRejected
  | invalidPercentEncoding
  | invalidPathEncoding
  | nonAsciiRejected
  | emptySegment
  | dotSegment
  | invalidCharacter
  | caseError
  | unknownScope
  | unknownResourceKind
  | malformedPath

/-- `ResourceUriGrammarError`. -/
structure GrammarError where
  reasonCode : ReasonCode
  message : String

/-- `if bad: raise ResourceUriGrammarError(...)`. -/
def rejectIf (bad : Prop) [Decidable bad] (reasonCode : ReasonCode) (message : String) :
    Except GrammarError Unit :=
  if bad then .error ⟨reasonCode, message⟩ else .ok ()

def reject {Result : Type} (reasonCode : ReasonCode) (message : String) :
    Except GrammarError Result :=
  .error ⟨reasonCode, message⟩

scoped instance lawfulText : LawfulBEq Text :=
  inferInstanceAs (LawfulBEq (List Char))

def scheme : Text := "boxteam://".toList

def scopeKeywords : List Text :=
  ["workspace".toList, "user".toList, "gateway".toList, "inline".toList]

def resourceKinds : List Text :=
  ["agent-spec".toList, "skills".toList, "config".toList, "session".toList, "workspace".toList,
    "folder".toList, "files".toList, "attachments".toList]

def fileKinds : List Text :=
  ["skills".toList, "files".toList, "attachments".toList]

/-- `_NAME_CHARSET`. -/
def inNameCharset (char : Char) : Bool :=
  char.isAlphanum || char == '_' || char == '-'

/-- `str.lower` of ASCII text. -/
def lower (text : Text) : Text :=
  text.map Char.toLower

def isHex (char : Char) : Bool :=
  char.isDigit || "abcdef".toList.contains char

/-- `re.fullmatch` of a pattern that fixes each character by a class. -/
def fullmatch : List (Char → Bool) → Text → Bool
  | [], [] => true
  | accepts :: pattern, char :: text => accepts char && fullmatch pattern text
  | _, _ => false

def literal (text : String) : List (Char → Bool) :=
  text.toList.map fun char => (char == ·)

def directoryId : List (Char → Bool) :=
  List.replicate 12 isHex ++ literal "7" ++ List.replicate 3 isHex ++
    [("89ab".toList.contains ·)] ++ List.replicate 15 isHex

def gatewayId : List (Char → Bool) :=
  literal "gateway_" ++ List.replicate 32 isHex

/-- `validate_session_id`: the pattern and the version and variant digits. -/
def sessionId : List (Char → Bool) :=
  literal "ses_" ++ List.replicate 12 isHex ++ literal "7" ++ List.replicate 3 isHex ++
    [("89ab".toList.contains ·)] ++ List.replicate 15 isHex

inductive ArtifactKind where
  | attachments
  | toolResults

def ArtifactKind.name : ArtifactKind → Text
  | .attachments => "attachments".toList
  | .toolResults => "tool-results".toList

/-- `_SESSION_ARTIFACT_ID_PATTERNS`. -/
def ArtifactKind.pattern : ArtifactKind → List (Char → Bool)
  | .attachments => literal "att_" ++ List.replicate 32 isHex
  | .toolResults => literal "tool_" ++ List.replicate 24 isHex ++ literal ".txt"

def artifactKindOf (segment : Text) : Option ArtifactKind :=
  if lower segment = ArtifactKind.attachments.name then some .attachments
  else if lower segment = ArtifactKind.toolResults.name then some .toolResults
  else none

structure ParsedResourceUri where
  scope : Text
  scopeId : Text
  kind : Text
  logicalName : Text
  displayUri : Text
  gatewayAuthority : Option Text
  tailSegments : List Text
  sessionArtifactKind : Option ArtifactKind

def hasControlChar (value : Text) : Bool :=
  value.any fun char => char.toNat < 0x20 || (0x7F ≤ char.toNat && char.toNat ≤ 0x9F)

def rejectIdentityEscape (segment : Text) : Except GrammarError Unit :=
  rejectIf ('%' ∈ segment) .invalidPercentEncoding "URI 结构或身份段不得使用百分号编码"

/-- `segment in (".", "..")`. -/
def isDotSegment (segment : Text) : Prop :=
  segment = ['.'] ∨ segment = ['.', '.']

instance : DecidablePred isDotSegment :=
  fun _ => inferInstanceAs (Decidable (_ ∨ _))

def validateDynamicSegment (segment : Text) (field : String) : Except GrammarError Unit := do
  rejectIdentityEscape segment
  rejectIf (segment = []) .emptySegment s!"URI {field} 不得为空"
  rejectIf (isDotSegment segment) .dotSegment s!"URI {field} 不得是 '.' 或 '..'"
  rejectIf (¬segment.all inNameCharset) .invalidCharacter s!"URI {field} 含未登记字符"

def encodeFileSegment (segment : Text) : Except GrammarError Text := do
  rejectIf (segment = []) .emptySegment "URI 文件段不得为空"
  rejectIf (isDotSegment segment) .dotSegment "URI 文件段不得是 '.' 或 '..'"
  rejectIf ('/' ∈ segment) .invalidCharacter "URI 文件段不得包含分隔符"
  rejectIf ('\\' ∈ segment) .backslashRejected "URI 文件段不得包含反斜杠"
  rejectIf (hasControlChar segment) .controlCharRejected "URI 文件段含控制字符"
  return quote segment

def decodeFileSegment (segment : Text) : Except GrammarError Text := do
  rejectIf (invalidPercentEscape segment) .invalidPercentEncoding "URI 文件段含非法百分号编码"
  match unquote segment with
  | some text => return text
  | none => reject .invalidPathEncoding "URI 文件段不是有效 UTF-8"

def parseScope (segment : Text) : Except GrammarError Text := do
  rejectIdentityEscape segment
  if segment ∈ scopeKeywords then return segment
  rejectIf (lower segment ∈ scopeKeywords) .caseError "URI scope 大小写错误，必须全小写"
  reject .unknownScope "URI scope 未登记"

def parseKind (segment : Text) : Except GrammarError Text := do
  rejectIdentityEscape segment
  if segment ∈ resourceKinds then return segment
  rejectIf (lower segment ∈ resourceKinds) .caseError "URI 资源 kind 大小写错误"
  reject .unknownResourceKind "URI 资源 kind 未登记"

def expectFixedSegment (segment : Text) (expected : String) : Except GrammarError Unit := do
  rejectIdentityEscape segment
  if segment = expected.toList then return ()
  rejectIf (lower segment = lower expected.toList) .caseError
    s!"URI 固定 segment 大小写错误，期望 '{expected}'"
  reject .malformedPath s!"URI 固定 segment 不匹配，期望 '{expected}'"

def validateDirectoryRoot (scope scopeId kind root : Text) : Except GrammarError Unit := do
  if kind = "skills".toList then validateDynamicSegment root "skill name"
  else if kind = "attachments".toList then do
    rejectIf (scope ≠ "workspace".toList) .malformedPath "附件目录只属于 workspace scope"
    validateDynamicSegment root "attachment id"
    rejectIf (¬fullmatch ArtifactKind.attachments.pattern root) .invalidCharacter
      "附件目录必须使用稳定 attachment_id"
  else if scope = "workspace".toList then expectFixedSegment root "root"
  else if scope = "gateway".toList then do
    validateDynamicSegment root "directory id"
    rejectIf (¬fullmatch gatewayId scopeId ∨ ¬fullmatch directoryId root) .invalidCharacter
      "Gateway files 根必须使用真实 Gateway ID 和 UUIDv7 directory_id"
  else reject .malformedPath "files 只属于 workspace 或 gateway scope"

/-- `"/".join(segments)`. -/
def joinSegments (segments : List Text) : Text :=
  List.intercalate ['/'] segments

structure ParsedTail where
  tailSegments : List Text
  logicalName : Text
  sessionArtifactKind : Option ArtifactKind
  written : List Text

/-- A tail that the URI already writes as it is. -/
def plainTail (tails : List Text) (logicalName : Text)
    (sessionArtifactKind : Option ArtifactKind) : ParsedTail :=
  ⟨tails, logicalName, sessionArtifactKind, tails⟩

def parseFolderTail (scope : Text) (tails : List Text) : Except GrammarError ParsedTail := do
  rejectIf (scope ≠ "workspace".toList ∨ tails.length ≠ 1) .malformedPath
    "Folder 容器必须使用 Workspace 内的单个稳定 Folder ID"
  validateDynamicSegment (tails.headD []) "folder id"
  return plainTail tails (tails.headD []) none

def parseDirectoryTail (scope scopeId kind : Text) (tails : List Text) :
    Except GrammarError ParsedTail := do
  let kindName := String.ofList kind
  rejectIf (tails = []) .malformedPath s!"{kindName} URI 必须携带已登记的目录根"
  let root := tails.headD []
  validateDirectoryRoot scope scopeId kind root
  let children ← tails.tail.mapM decodeFileSegment
  let written ← children.mapM encodeFileSegment
  return ⟨root :: children, root, none, root :: written⟩

def parseAgentSpecTail (scope : Text) (tails : List Text) : Except GrammarError ParsedTail := do
  let scopeName := String.ofList scope
  rejectIf (tails.length ≠ 2) .malformedPath
    s!"agent-spec URI 必须是 boxteam://{scopeName}/\x7bid\x7d/resources/agent-spec/root/AGENTS.md"
  expectFixedSegment (tails.headD []) "root"
  expectFixedSegment (tails.getD 1 []) "AGENTS.md"
  return plainTail tails "root/AGENTS.md".toList none

/-- A single attachment or tool result of a session. -/
def parseArtifactTail (scope : Text) (artifactKind : ArtifactKind) (tails : List Text) :
    Except GrammarError ParsedTail := do
  tails.forM rejectIdentityEscape
  rejectIf (scope ≠ "workspace".toList ∨ tails.length ≠ 3) .malformedPath
    "Session 产物必须精确指向 Workspace 内的单个附件或工具结果"
  expectFixedSegment (tails.getD 1 []) (String.ofList artifactKind.name)
  validateDynamicSegment (tails.headD []) "session id"
  rejectIf (¬fullmatch sessionId (tails.headD [])) .invalidCharacter
    "Session 产物的 session_id 非法"
  rejectIf (isDotSegment (tails.getD 2 [])) .dotSegment "Session 产物 ID 不得是点段"
  rejectIf (¬fullmatch artifactKind.pattern (tails.getD 2 [])) .invalidCharacter
    "Session 产物 ID 不符合原 owner profile"
  return plainTail tails (joinSegments tails) (some artifactKind)

def parsePathTail (scope kind : Text) (tails : List Text) : Except GrammarError ParsedTail := do
  let kindName := String.ofList kind
  let scopeName := String.ofList scope
  rejectIf (tails = [] ∧ (kind = "config".toList ∨
      kind = "session".toList ∧ scope ≠ "workspace".toList)) .malformedPath
    s!"{kindName} URI 必须携带规范化尾段: boxteam://{scopeName}/\x7bid\x7d/resources/{kindName}/\x7b...canonical path segments\x7d"
  tails.forM fun tail => validateDynamicSegment tail s!"{kindName} path"
  return plainTail tails (joinSegments tails) none

def sessionArtifact (kind : Text) (tails : List Text) : Option ArtifactKind :=
  if kind = "session".toList ∧ 2 ≤ tails.length then artifactKindOf (tails.getD 1 []) else none

/-- The branches of `parse_resource_uri` on the kind. -/
def parseTail (scope scopeId kind : Text) (tails : List Text) : Except GrammarError ParsedTail :=
  if kind = "workspace".toList then
    reject .malformedPath "Workspace 容器必须使用 boxteam://workspace/\x7bid\x7d"
  else if kind = "folder".toList then parseFolderTail scope tails
  else if kind ∈ fileKinds then parseDirectoryTail scope scopeId kind tails
  else if kind = "agent-spec".toList then parseAgentSpecTail scope tails
  else
    match sessionArtifact kind tails with
    | some artifactKind => parseArtifactTail scope artifactKind tails
    | none => parsePathTail scope kind tails

/-- `parse_resource_uri` behind the scope; only file names are written anew. -/
def parseBody (uri : Text) (authority : Option Text) (scope : Text) (body : List Text) :
    Except GrammarError ParsedResourceUri := do
  if scope = "workspace".toList ∧ body.length = 1 then do
    validateDynamicSegment (body.headD []) "workspace id"
    return ⟨scope, body.headD [], "workspace".toList, body.headD [], uri, authority, [], none⟩
  else
    match body with
    | scopeId :: fixed :: kindSegment :: tails => do
        validateDynamicSegment scopeId "scope id"
        expectFixedSegment fixed "resources"
        let kind ← parseKind kindSegment
        let tail ← parseTail scope scopeId kind tails
        let displayUri :=
          if kind ∈ fileKinds then
            scheme ++ joinSegments
              (authority.toList ++ scope :: scopeId :: fixed :: kind :: tail.written)
          else uri
        return ⟨scope, scopeId, kind, tail.logicalName, displayUri, authority, tail.tailSegments,
          tail.sessionArtifactKind⟩
    | _ =>
      let scopeName := String.ofList scope
      reject .malformedPath
        s!"资源 URI 必须是 boxteam://{scopeName}/\x7bid\x7d/resources/\x7bkind\x7d/..."

/-- The checks of `parse_resource_uri` on the whole text. -/
def checkText (uri : Text) : Except GrammarError Unit := do
  rejectIf (uri = []) .emptyUri "URI 必须是非空字符串"
  rejectIf ('\\' ∈ uri) .backslashRejected "URI 不得包含反斜杠"
  rejectIf ('?' ∈ uri) .queryRejected "URI 不得携带 query"
  rejectIf ('#' ∈ uri) .fragmentRejected "URI 不得携带 fragment"
  rejectIf (hasControlChar uri) .controlCharRejected "URI 含控制字符"
  rejectIf (¬uri.all (·.toNat < 128)) .nonAsciiRejected "URI 必须是纯 ASCII"
  rejectIf (' ' ∈ uri) .invalidCharacter "URI 空格必须在文件段编码为 %20"
  if scheme <+: uri then return ()
  rejectIf (scheme <+: lower uri) .schemeCaseError "URI scheme 大小写错误，必须全小写"
  reject .unknownScheme "URI 只接受 boxteam:// scheme"

def splitUri (uri : Text) : Except GrammarError (List Text) := do
  checkText uri
  let segments := (uri.drop scheme.length).splitOn '/'
  rejectIf ('@' ∈ segments.headD []) .userinfoRejected "URI 不得携带 userinfo"
  rejectIf ([] ∈ segments) .emptySegment "URI 不得有空 segment"
  return segments

def takeAuthority (uri : Text) (segments : List Text) (localGatewayId : Option Text) :
    Except GrammarError (Text × Option Text × List Text) :=
  match segments with
  | first :: second :: rest =>
    if lower first ∉ scopeKeywords ∧ second ∈ scopeKeywords then do
      validateDynamicSegment first "gateway authority"
      if some first = localGatewayId then
        return (scheme ++ joinSegments (second :: rest), none, second :: rest)
      else return (uri, some first, second :: rest)
    else return (uri, none, segments)
  | _ => return (uri, none, segments)

def parseResourceUri (uri : Text) (localGatewayId : Option Text) :
    Except GrammarError ParsedResourceUri := do
  let segments ← splitUri uri
  let (uri, authority, segments) ← takeAuthority uri segments localGatewayId
  let scope ← parseScope (segments.headD [])
  parseBody uri authority scope segments.tail

def encodeTail (scope scopeId kind : Text) : List Text → Except GrammarError (List Text)
  | [] => return []
  | root :: children => do
      if kind ∈ fileKinds then do
        validateDirectoryRoot scope scopeId kind root
        let written ← children.mapM encodeFileSegment
        return root :: written
      else return root :: children

def resourceDisplayUri (scope scopeId kind : Text) (tailSegments : List Text)
    (gatewayAuthority : Option Text) : Except GrammarError Text := do
  rejectIf (scope ∉ scopeKeywords) .unknownScope "URI scope 未登记"
  rejectIf (kind ∉ resourceKinds) .unknownResourceKind "URI 资源 kind 未登记"
  validateDynamicSegment scopeId "scope id"
  gatewayAuthority.toList.forM fun authority =>
    validateDynamicSegment authority "gateway authority"
  rejectIf (∃ segment ∈ tailSegments, '/' ∈ segment) .invalidCharacter
    "URI 构造的单个尾段不得包含分隔符"
  let written ← encodeTail scope scopeId kind tailSegments
  rejectIf (kind = "workspace".toList ∧ (scope ≠ "workspace".toList ∨ written ≠ []))
    .malformedPath "Workspace 容器不接受尾段"
  let segments :=
    if kind = "workspace".toList then [scope, scopeId]
    else scope :: scopeId :: "resources".toList :: kind :: written
  let parsed ← parseResourceUri (scheme ++ joinSegments (gatewayAuthority.toList ++ segments)) none
  return parsed.displayUri

end GraphAgent.ResourceUri
