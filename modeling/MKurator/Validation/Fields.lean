import MKurator.Controller.Steps

/-! Admission checks that look into the cluster: the connection, the Secrets and the channels that a spec refers to. -/

namespace MKurator.Validation
open MKurator.Api MKurator.MqAdmin MKurator.Lib.Strings MKurator.Controller

inductive FieldErrorType where
  | required
  | notFound
  | invalid
  | internal
  deriving DecidableEq, Repr

/-- One entry of a `field.ErrorList`. -/
structure FieldError where
  type : FieldErrorType
  field : String
  badValue : String
  detail : String
  deriving DecidableEq, Repr

namespace FieldError

def requiredAt (path detail : String) : FieldError := ⟨.required, path, "", detail⟩

/-- `field.NotFound`, whose value is all it carries. -/
def notFoundAt (path value : String) : FieldError := ⟨.notFound, path, value, ""⟩

def invalidAt (path value detail : String) : FieldError := ⟨.invalid, path, value, detail⟩

def internalAt [UnicodeTables] (path : String) (e : MqError) : FieldError := ⟨.internal, path, "", e.text⟩

end FieldError

/-- `field.NewPath` and `Child` -/
def fieldPath (parts : List String) : String := join parts "."

structure Secret where
  name : String
  data : StringMap

inductive ListAnswer (α : Type) where
  | items (found : List α)
  | notRegistered (e : MqError)
  | failed (e : MqError)

/-- The cluster as a webhook reads it. `channels ns n` answers the `n`-th List of one validation. -/
structure Reader where
  connection : String → String → Lookup QueueManagerConnection
  secret : String → String → Lookup Secret
  channels : String → Nat → ListAnswer (Workload Api.ChannelSpec)

def connectionRefPath : String := fieldPath ["spec", "connectionRef", "name"]

variable [UnicodeTables] (reader : Reader) (namespaceName : String)

def validateConnectionRef (refName path : String) : List FieldError :=
  if refName = "" then [.requiredAt path "connectionRef.name is required"]
  else match reader.connection namespaceName refName with
    | .notFound _ => [.notFoundAt path
        ("QueueManagerConnection " ++ quote refName ++ " not found in namespace " ++ quote namespaceName)]
    | .failed e => [.internalAt path (.wrapped ("get QueueManagerConnection " ++ quote refName) e)]
    | .found conn =>
      if conn.metadata.deletionTimestamp.isSome then
        [.invalidAt path refName ("QueueManagerConnection " ++ quote refName ++
          " is deleting; remove or wait for deletion to finish before creating dependents")]
      else []

def getSecretOrErrors (name path : String) : List FieldError × Option Secret :=
  match reader.secret namespaceName name with
  | .notFound _ => ([.notFoundAt path ("Secret " ++ quote name ++ " not found in namespace " ++ quote namespaceName)], none)
  | .failed e => ([.internalAt path (.wrapped ("get Secret " ++ quote name) e)], none)
  | .found secret => ([], some secret)

def validateSecretExists (name path : String) : List FieldError := (getSecretOrErrors reader namespaceName name path).1

def ConnectionUsable (refName : String) : Prop :=
  refName ≠ "" ∧ ∃ conn, reader.connection namespaceName refName = .found conn ∧ conn.metadata.deletionTimestamp = none

theorem validateConnectionRef_eq_nil_iff (refName path : String) :
    validateConnectionRef reader namespaceName refName path = [] ↔ ConnectionUsable reader namespaceName refName := by
  unfold validateConnectionRef ConnectionUsable
  by_cases empty : refName = ""
  · simp [empty]
  · cases lookup : reader.connection namespaceName refName with
    | notFound e => simp [empty]
    | failed e => simp [empty]
    | found conn => cases deleting : conn.metadata.deletionTimestamp <;> simp [empty, deleting]

theorem validateSecretExists_eq_nil_iff (name path : String) :
    validateSecretExists reader namespaceName name path = [] ↔
      ∃ secret, reader.secret namespaceName name = .found secret := by
  unfold validateSecretExists getSecretOrErrors
  cases reader.secret namespaceName name <;> simp

def matchingChannel (connectionRef channelName : String) (channels : List (Workload Api.ChannelSpec)) :
    Option (Workload Api.ChannelSpec) :=
  channels.find? fun channel => channel.spec.channelName == channelName &&
    (connectionRef == "" || channel.spec.connectionRef == connectionRef)

/-- An unregistered kind counts as an empty list. -/
def listedChannels (n : Nat) : Except MqError (List (Workload Api.ChannelSpec)) :=
  match reader.channels namespaceName n with
  | .items found => .ok found
  | .notRegistered _ => .ok []
  | .failed e => .error e

def channelDeletingError (channel : Workload Api.ChannelSpec) (channelName path : String) : List FieldError :=
  if channel.metadata.deletionTimestamp.isSome then
    [.invalidAt path channelName ("Channel " ++ quote channel.metadata.name ++
      " is deleting; wait for deletion to finish or point channelName at another Channel")]
  else []

/-- The source lists the same kind a second time when the first list has no match. -/
def validateManagedChannelRef (connectionRef channelName path : String) : List FieldError :=
  if channelName = "" then []
  else match listedChannels reader namespaceName 0 with
    | .error e => [.internalAt path (.wrapped "list Channels" e)]
    | .ok channels =>
      match matchingChannel connectionRef channelName channels with
      | some channel => channelDeletingError channel channelName path
      | none =>
        match listedChannels reader namespaceName 1 with
        | .error e => [.internalAt path (.wrapped "list Channels (v1beta1)" e)]
        | .ok channels =>
          match matchingChannel connectionRef channelName channels with
          | some channel => channelDeletingError channel channelName path
          | none => [.notFoundAt path ("Channel with channelName " ++ quote channelName ++ " and connectionRef " ++
              quote connectionRef ++ " not found in namespace " ++ quote namespaceName ++ "; create a Channel CR first")]

end MKurator.Validation
