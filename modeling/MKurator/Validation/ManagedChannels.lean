import MKurator.Lib.Quoting
import MKurator.Validation.Fields

/-! The check that a CHLAUTH rule names a managed Channel, over every order in which the Channels of a namespace can be
listed. -/

namespace MKurator.Validation
open MKurator.Api MKurator.MqAdmin MKurator.Lib.Strings MKurator.Controller

def listing (channels : List (Workload Api.ChannelSpec)) : Reader where
  connection _ name := .notFound (.plain name)
  secret _ name := .notFound (.plain name)
  channels _ _ := .items channels

/-- Every List returns the content of the namespace, each time in an order of its own. -/
def Lists (reader : Reader) (namespaceName : String) (content : List (Workload Api.ChannelSpec)) : Prop :=
  ∀ n, ∃ channels, reader.channels namespaceName n = .items channels ∧ channels.Perm content

def Defines (connectionRef channelName : String) (channel : Workload Api.ChannelSpec) : Prop :=
  channel.spec.channelName = channelName ∧ channel.spec.connectionRef = connectionRef

def Deleting (channel : Workload Api.ChannelSpec) : Prop := channel.metadata.deletionTimestamp.isSome = true

theorem lists_listing {channels content : List (Workload Api.ChannelSpec)} (same : channels.Perm content)
    (namespaceName : String) : Lists (listing channels) namespaceName content :=
  fun _ => ⟨channels, rfl, same⟩

section Search

variable {connectionRef channelName : String} {channels : List (Workload Api.ChannelSpec)}

theorem matchingChannel_some {channel : Workload Api.ChannelSpec} (connected : connectionRef ≠ "")
    (found : matchingChannel connectionRef channelName channels = some channel) :
    channel ∈ channels ∧ Defines connectionRef channelName channel := by
  have fits := List.find?_some found
  rw [Bool.and_eq_true, Bool.or_eq_true, beq_iff_eq, beq_iff_eq, beq_iff_eq, or_iff_right connected] at fits
  exact ⟨List.mem_of_find?_eq_some found, fits⟩

theorem matchingChannel_none (none_found : matchingChannel connectionRef channelName channels = none) :
    ∀ channel ∈ channels, ¬Defines connectionRef channelName channel := by
  intro channel member ⟨named, connected⟩
  apply List.find?_eq_none.mp none_found channel member
  rw [named, connected, beq_self_eq_true, beq_self_eq_true, Bool.or_true, Bool.and_self]

theorem matchingChannel_eq_none (connected : connectionRef ≠ "")
    (undefined : ∀ channel ∈ channels, ¬Defines connectionRef channelName channel) :
    matchingChannel connectionRef channelName channels = none := by
  cases search : matchingChannel connectionRef channelName channels with
  | none => rfl
  | some channel =>
    obtain ⟨member, defines⟩ := matchingChannel_some connected search
    exact absurd defines (undefined channel member)

theorem matchingChannel_head {channel : Workload Api.ChannelSpec} (defines : Defines connectionRef channelName channel) :
    matchingChannel connectionRef channelName (channel :: channels) = some channel := by
  apply List.find?_cons_of_pos
  rw [defines.1, defines.2, beq_self_eq_true, beq_self_eq_true, Bool.or_true, Bool.and_self]

end Search

section Verdict

variable [UnicodeTables] {connectionRef channelName path : String}

theorem channelDeletingError_eq_nil_iff (channel : Workload Api.ChannelSpec) :
    channelDeletingError channel channelName path = [] ↔ ¬Deleting channel := by
  unfold channelDeletingError Deleting
  split
  next deleting => exact iff_of_false (List.cons_ne_nil _ _) (not_not_intro deleting)
  next live => exact iff_of_true rfl live

theorem channelDeletingError_congr_iff {first second : Workload Api.ChannelSpec} (deleting : Deleting first) :
    channelDeletingError first channelName path = channelDeletingError second channelName path ↔
      Deleting second ∧ first.metadata.name = second.metadata.name := by
  unfold Deleting at deleting ⊢
  rw [channelDeletingError, channelDeletingError, if_pos deleting]
  split
  next gone =>
    rw [and_iff_right gone]
    constructor
    · intro same
      injection same with same
      have detail := congrArg FieldError.detail same
      change "Channel " ++ quote first.metadata.name ++ _ = "Channel " ++ quote second.metadata.name ++ _ at detail
      rw [String.append_left_inj, String.append_right_inj] at detail
      exact quote_injective detail
    · intro same
      rw [same]
  next live => exact iff_of_false (List.cons_ne_nil _ _) fun both => live both.1

variable {reader : Reader} {namespaceName : String} {content : List (Workload Api.ChannelSpec)}

/-- Whichever order a List has, the check judges one defining Channel alone, or finds none. -/
theorem validateManagedChannelRef_cases (lists : Lists reader namespaceName content) (named : channelName ≠ "")
    (connected : connectionRef ≠ "") :
    (∃ channel ∈ content, Defines connectionRef channelName channel ∧
        validateManagedChannelRef reader namespaceName connectionRef channelName path =
          channelDeletingError channel channelName path) ∨
      (∀ channel ∈ content, ¬Defines connectionRef channelName channel) ∧
        validateManagedChannelRef reader namespaceName connectionRef channelName path =
          [.notFoundAt path ("Channel with channelName " ++ quote channelName ++ " and connectionRef " ++
            quote connectionRef ++ " not found in namespace " ++ quote namespaceName ++ "; create a Channel CR first")] := by
  obtain ⟨channels, answer, same⟩ := lists 0
  obtain ⟨again, second, same_again⟩ := lists 1
  have listed : listedChannels reader namespaceName 0 = .ok channels := by rw [listedChannels, answer]
  have relisted : listedChannels reader namespaceName 1 = .ok again := by rw [listedChannels, second]
  unfold validateManagedChannelRef
  rw [if_neg named, listed, relisted]
  cases search : matchingChannel connectionRef channelName channels with
  | some channel =>
    obtain ⟨member, defines⟩ := matchingChannel_some connected search
    refine .inl ⟨channel, same.mem_iff.mp member, defines, ?_⟩
    simp only [search]
  | none =>
    have undefined : ∀ channel ∈ content, ¬Defines connectionRef channelName channel :=
      fun channel member => matchingChannel_none search channel (same.mem_iff.mpr member)
    -- the second search goes through the same Channels
    have research : matchingChannel connectionRef channelName again = none :=
      matchingChannel_eq_none connected fun channel member => undefined channel (same_again.mem_iff.mp member)
    refine .inr ⟨undefined, ?_⟩
    simp only [search, research]

theorem exists_judged {channel : Workload Api.ChannelSpec} (member : channel ∈ content)
    (defines : Defines connectionRef channelName channel) (named : channelName ≠ "") (namespaceName : String) :
    ∃ reader, Lists reader namespaceName content ∧
      validateManagedChannelRef reader namespaceName connectionRef channelName path =
        channelDeletingError channel channelName path := by
  obtain ⟨before, behind, rfl⟩ := List.append_of_mem member
  refine ⟨listing (channel :: (before ++ behind)), lists_listing List.perm_middle.symm namespaceName, ?_⟩
  have listed : listedChannels (listing (channel :: (before ++ behind))) namespaceName 0 =
    .ok (channel :: (before ++ behind)) := rfl
  unfold validateManagedChannelRef
  rw [if_neg named, listed]
  simp only [matchingChannel_head defines]

end Verdict

section Order

variable [UnicodeTables] (namespaceName connectionRef channelName path : String)
  (content : List (Workload Api.ChannelSpec))

/-- The check accepts exactly when a defining Channel is there to stay, and its result is the same for every order. -/
structure ChecksManaged : Prop where
  accepts_iff : ∀ reader, Lists reader namespaceName content →
    (validateManagedChannelRef reader namespaceName connectionRef channelName path = [] ↔
      ∃ channel ∈ content, Defines connectionRef channelName channel ∧ ¬Deleting channel)
  any_order : ∀ reader other, Lists reader namespaceName content → Lists other namespaceName content →
    validateManagedChannelRef reader namespaceName connectionRef channelName path =
      validateManagedChannelRef other namespaceName connectionRef channelName path

/-- No defining Channel stands beside one that is deleting: none that stays, and none of another name. -/
def DeletingAlone : Prop :=
  ∀ first ∈ content, ∀ second ∈ content, Defines connectionRef channelName first →
    Defines connectionRef channelName second → Deleting first →
      Deleting second ∧ first.metadata.name = second.metadata.name

variable {namespaceName connectionRef channelName path content}

theorem checksManaged_of_deletingAlone (named : channelName ≠ "") (connected : connectionRef ≠ "")
    (alone : DeletingAlone connectionRef channelName content) :
    ChecksManaged namespaceName connectionRef channelName path content where
  accepts_iff reader lists := by
    rcases validateManagedChannelRef_cases lists named connected with
      ⟨channel, member, defines, judged⟩ | ⟨undefined, missing⟩
    · rw [judged, channelDeletingError_eq_nil_iff]
      constructor
      · intro stays
        exact ⟨channel, member, defines, stays⟩
      · intro ⟨other, present, fits, stays⟩ deleting
        exact stays (alone channel member other present defines fits deleting).1
    · rw [missing]
      refine iff_of_false (List.cons_ne_nil _ _) ?_
      intro ⟨channel, member, defines, _⟩
      exact undefined channel member defines
  any_order reader other lists relists := by
    rcases validateManagedChannelRef_cases lists named connected with
      ⟨channel, member, defines, judged⟩ | ⟨undefined, missing⟩
    · rcases validateManagedChannelRef_cases relists named connected with
        ⟨second, present, fits, rejudged⟩ | ⟨undefined, -⟩
      · rw [judged, rejudged]
        by_cases deleting : Deleting channel
        · exact (channelDeletingError_congr_iff deleting).mpr (alone channel member second present defines fits deleting)
        · have stays : ¬Deleting second :=
            fun gone => deleting (alone second present channel member fits defines gone).1
          rw [(channelDeletingError_eq_nil_iff channel).mpr deleting, (channelDeletingError_eq_nil_iff second).mpr stays]
      · exact absurd defines (undefined channel member)
    · rcases validateManagedChannelRef_cases relists named connected with
        ⟨second, present, fits, -⟩ | ⟨-, missing_again⟩
      · exact absurd fits (undefined second present)
      · rw [missing, missing_again]

theorem deletingAlone_of_checksManaged (named : channelName ≠ "")
    (checks : ChecksManaged namespaceName connectionRef channelName path content) :
    DeletingAlone connectionRef channelName content := by
  intro first member second present defines fits deleting
  obtain ⟨reader, lists, judged⟩ := exists_judged member defines named namespaceName
  obtain ⟨other, relists, rejudged⟩ := exists_judged present fits named namespaceName
  have same := checks.any_order reader other lists relists
  rw [judged, rejudged] at same
  exact (channelDeletingError_congr_iff deleting).mp same

/-- The check is right for a namespace, and blind to the order of its Channels, exactly when no defining Channel stands
beside one that is deleting. -/
theorem validateManagedChannelRef_checks_iff (named : channelName ≠ "") (connected : connectionRef ≠ "") :
    ChecksManaged namespaceName connectionRef channelName path content ↔
      DeletingAlone connectionRef channelName content :=
  ⟨deletingAlone_of_checksManaged named, checksManaged_of_deletingAlone named connected⟩

end Order

def ordersChannelOn (connectionRef name : String) (deletionTimestamp : Option Nat) : Workload Api.ChannelSpec where
  metadata := { name, ns := "apps", generation := 1, deletionTimestamp, finalizers := [], annotations := ∅ }
  spec :=
    { connectionRef, suspend := false, policies := ⟨none, none⟩, channelName := "ORDERS.APP", type := .svrconn,
      attributes := ∅, description := "", maxMsgLength := none, transportType := none, shareConv := none, mcaUser := "",
      maxInstances := none, maxInstancesClient := none, sslCipherSpec := "", sslClientAuth := none, connName := "",
      xmitQueue := "" }
  status := ⟨[], 0, "", "", none, none⟩

section Cases

attribute [local instance] asciiTables

theorem ordersChannel_checks :
    ChecksManaged "apps" "qm1" "ORDERS.APP" "spec.channelName"
      [ordersChannelOn "qm2" "orders-old" (some 100), ordersChannelOn "qm1" "orders" none] := by
  refine (validateManagedChannelRef_checks_iff (by decide) (by decide)).mpr ?_
  intro first member second present defines fits deleting
  rcases List.mem_pair.mp member with rfl | rfl
  · exact absurd defines.2 (by decide)
  · cases deleting

/-- While the old Channel is deleting, a rule for the new one is refused or accepted as the list has them. -/
theorem deleting_channel_hides_other :
    validateManagedChannelRef (listing [ordersChannelOn "qm1" "orders-old" (some 100), ordersChannelOn "qm1" "orders" none])
        "apps" "qm1" "ORDERS.APP" "spec.channelName" =
      [.invalidAt "spec.channelName" "ORDERS.APP" ("Channel \"orders-old\" is deleting; wait for deletion to finish or " ++
        "point channelName at another Channel")] ∧
    validateManagedChannelRef (listing [ordersChannelOn "qm1" "orders" none, ordersChannelOn "qm1" "orders-old" (some 100)])
        "apps" "qm1" "ORDERS.APP" "spec.channelName" = [] := by
  decide +kernel

end Cases

end MKurator.Validation
