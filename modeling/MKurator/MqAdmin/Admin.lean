import MKurator.Api.Types
import MKurator.Lib.Strings

/-! The port between the reconcilers and IBM MQ: its error values, and the shapes it sends and observes. -/

namespace MKurator.MqAdmin
open MKurator.Api MKurator.Lib.Strings

/-- The reasons that the operator gives its `TerminalError` values; `unset` is an empty one. -/
inductive TerminalReason where
  | unset
  | unauthorized
  | unreachable
  | invalidSpec
  | invalidArgument
  | invalidClientCertificate
  | unsupportedQueueType
  | unsupportedChannelType
  | badRequest
  | invalidResponse
  | mqscError
  deriving DecidableEq, Repr

def TerminalReason.text : TerminalReason → String
  | .unset => ""
  | .unauthorized => "Unauthorized"
  | .unreachable => "Unreachable"
  | .invalidSpec => "InvalidSpec"
  | .invalidArgument => "InvalidArgument"
  | .invalidClientCertificate => "InvalidClientCertificate"
  | .unsupportedQueueType => "UnsupportedQueueType"
  | .unsupportedChannelType => "UnsupportedChannelType"
  | .badRequest => "BadRequest"
  | .invalidResponse => "InvalidResponse"
  | .mqscError => "MQSCError"

/-- A Go error chain. `plain` is an error of another library, `wrapped` is `fmt.Errorf("context: %w", cause)`. -/
inductive MqError where
  | plain (text : String)
  | wrapped (context : String) (cause : MqError)
  | terminal (reason : TerminalReason) (message : String)
  | terminalCaused (reason : TerminalReason) (message : String) (cause : MqError)
  | transient (message : String)
  | transientCaused (message : String) (cause : MqError)
  | notFound (object : String)
  | connectionNotFound (name : String) (cause : MqError)
  | secretNotFound (name role : String) (cause : MqError)
  deriving DecidableEq, Repr

namespace MqError

/-- `Error()` -/
def text [UnicodeTables] : MqError → String
  | .plain text => text
  | .wrapped context cause => context ++ ": " ++ text cause
  | .terminal _ message => message
  | .terminalCaused _ message cause => message ++ ": " ++ text cause
  | .transient message => message
  | .transientCaused message cause => message ++ ": " ++ text cause
  | .notFound object => "mq object " ++ quote object ++ " not found"
  | .connectionNotFound name cause => "get connection " ++ quote name ++ ": " ++ text cause
  | .secretNotFound name role cause =>
      (if role = "" then "get secret " ++ quote name else "get " ++ role ++ " secret " ++ quote name) ++
        ": " ++ text cause

/-- The errors that `errors.Is` and `errors.As` visit, outermost first. -/
def chain : MqError → List MqError
  | .plain text => [.plain text]
  | .wrapped context cause => .wrapped context cause :: chain cause
  | .terminal reason message => [.terminal reason message]
  | .terminalCaused reason message cause => .terminalCaused reason message cause :: chain cause
  | .transient message => [.transient message]
  | .transientCaused message cause => .transientCaused message cause :: chain cause
  | .notFound object => [.notFound object]
  | .connectionNotFound name cause => .connectionNotFound name cause :: chain cause
  | .secretNotFound name role cause => .secretNotFound name role cause :: chain cause

/-- `errors.As(err, &term)` for a `*TerminalError`: its reason and message. -/
def asTerminal (e : MqError) : Option (TerminalReason × String) :=
  e.chain.findSome? fun
    | .terminal reason message | .terminalCaused reason message _ => some (reason, message)
    | _ => none

/-- `errors.Is(err, ErrTerminal)` -/
def isTerminal (e : MqError) : Bool := e.asTerminal.isSome

def isTransient (e : MqError) : Bool :=
  e.chain.any fun
    | .transient _ | .transientCaused .. => true
    | _ => false

def isNotFound (e : MqError) : Bool :=
  e.chain.any fun
    | .notFound _ => true
    | _ => false

def isConnectionNotFound (e : MqError) : Bool :=
  e.chain.any fun
    | .connectionNotFound .. => true
    | _ => false

def isSecretNotFound (e : MqError) : Bool :=
  e.chain.any fun
    | .secretNotFound .. => true
    | _ => false

end MqError

structure QueueSpec where
  name : String
  type : QueueType
  attributes : StringMap

structure QueueState where
  name : String
  attributes : StringMap

structure TopicSpec where
  name : String
  attributes : StringMap

structure TopicState where
  name : String
  attributes : StringMap

structure ChannelSpec where
  name : String
  type : ChannelType
  attributes : StringMap

structure ChannelState where
  name : String
  attributes : StringMap

/-- An empty rule type is `none`. -/
structure ChannelAuthSpec where
  channelName : String
  ruleType : Option ChannelAuthRuleType
  address : String
  userList : String
  clientUser : String
  sslPeerName : String
  remoteQueueManager : String
  mcaUser : String
  userSource : String
  checkClient : String
  description : String
  deriving DecidableEq, Repr

structure ChannelAuthState where
  channelName : String
  ruleType : Option ChannelAuthRuleType
  address : String
  userList : String
  clientUser : String
  sslPeerName : String
  remoteQueueManager : String
  mcaUser : String
  userSource : String
  checkClient : String
  description : String
  deriving DecidableEq, Repr

/-- An empty object type is `none`. -/
structure AuthoritySpec where
  profile : String
  objectType : Option AuthorityObjectType
  principal : String
  group : String
  authorities : List String
  deriving DecidableEq, Repr

/-- An observed record lists only non-blank authorities, which is what keeps the set comparison inside its bounds. -/
structure AuthorityState where
  profile : String
  objectType : Option AuthorityObjectType
  principal : String
  group : String
  authorities : List String
  nonblank : ∀ authority ∈ authorities, trimSpace authority ≠ ""

def normalizeQueueType : QueueType → QueueType
  | .unset => .localQueue
  | t => t

def normalizeChannelType : ChannelType → ChannelType
  | .unset => .svrconn
  | t => t

def channelTypeSupported (t : ChannelType) : Bool :=
  match normalizeChannelType t with
  | .svrconn | .sdr | .rcvr => true
  | _ => false

end MKurator.MqAdmin
