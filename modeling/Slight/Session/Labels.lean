import Slight.Session.Types

/-!
# Slight.Session.Labels

The texts the session manager derives: titles, working directories, stop
reasons, and the summary of a row that cannot be read.
-/

namespace Slight

/-- `char::is_whitespace`: the Unicode `White_Space` property. -/
def isWhitespace (c : Char) : Bool :=
  let n := c.toNat
  (9 ≤ n && n ≤ 13) || n == 0x20 || n == 0x85 || n == 0xA0 || n == 0x1680 ||
    (0x2000 ≤ n && n ≤ 0x200A) || n == 0x2028 || n == 0x2029 || n == 0x202F || n == 0x205F ||
    n == 0x3000

/-- `str::trim`. -/
def trim (text : String) : String :=
  String.ofList ((text.toList.dropWhile isWhitespace).reverse.dropWhile isWhitespace).reverse

/-- The title of a session nobody named. -/
def agentTitle (agent : AgentKind) : String := agent.asStr ++ " session"

def defaultTitle (request : CreateSessionRequest) : String :=
  match request.initialPrompt with
  | some prompt =>
      let trimmed := trim prompt
      if trimmed ≠ "" then String.ofList (trimmed.toList.take 40) else agentTitle request.agent
  | none => agentTitle request.agent

/-- The title of an imported session: the one asked for, unless it is blank. -/
def importTitle (request : ImportSessionRequest) : String :=
  match request.title.filter fun title => trim title ≠ "" with
  | some title => title
  | none => agentTitle request.agent

def normalizedWorkingDirectoryLabel (label : String) : String :=
  let trimmed := trim label
  if trimmed = "" then "~" else trimmed

/-- `Path::join`: an absolute path replaces the base. -/
def joinPath (base : String) (relative : String) : String :=
  match relative.toList with
  | '/' :: _ => relative
  | _ => if base.toList.getLast? = some '/' then base ++ relative else base ++ "/" ++ relative

/-- Expands `~` and `~/…` against the home directory; anything else is used
verbatim. -/
def resolveWorkingDirectory (home : String) (label : String) : String :=
  match label.toList with
  | ['~'] => home
  | '~' :: '/' :: relative => joinPath home (String.ofList relative)
  | _ => label

/-- The ACP wire string of a stop reason. -/
def stopReasonString : StopReason → String
  | .endTurn => "end_turn"
  | .maxTokens => "max_tokens"
  | .maxTurnRequests => "max_turn_requests"
  | .refusal => "refusal"
  | .cancelled => "cancelled"

/-- The name of a stop reason's variant. -/
def stopReasonName : StopReason → String
  | .endTurn => "EndTurn"
  | .maxTokens => "MaxTokens"
  | .maxTurnRequests => "MaxTurnRequests"
  | .refusal => "Refusal"
  | .cancelled => "Cancelled"

/-- The current value of the first selectable option of a category. -/
def currentConfigValue (options : List AcpConfigOption) (category : AcpConfigCategory) :
    Option String :=
  options.findSome? fun option =>
    if option.category ≠ some category then none
    else
      match option.kind with
      | .select currentValueId _ => some currentValueId
      | .boolean _ => none

/-- Names that are not built in are kept. -/
def agentKindFromStr (agent : String) : AgentKind :=
  if agent = "claude_code" then .claudeCode
  else if agent = "codex" then .codex
  else if agent = "fake" then .fake
  else .custom agent

/-- The payload of a piece of tool output; `id` is a fresh UUID. -/
def ToolCallContentPayload.fromNormalized (id : String) :
    NormalizedToolContent → ToolCallContentPayload
  | .content block => .content (.fromNormalized id block)
  | .diff change => .diff change.path change.oldText change.newText
  | .terminal ref => .terminal ref.terminalId

def ToolCallLocationPayload.ofLocation (location : ToolLocation) : ToolCallLocationPayload where
  path := location.path
  line := location.line

end Slight
