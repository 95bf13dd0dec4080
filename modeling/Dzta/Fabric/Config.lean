import Dzta.Library.IterMap
import Dzta.Shared.Models

/-!
# The connection profile

The configuration of the client: peers, orderers, organizations and channels, which refer to each
other by name.  The maps of a profile carry an order of iteration (`IterMap`), and `Reordered`
relates the profiles that differ in nothing else: what one process and the next one read from the
same file.

**References.**  `validate` stops at the first reference it cannot resolve, and which one that is
depends on the order.  Whether there is one does not (`validate_eq_ok_iff`), so in an accepted
profile every name that a getter returns is one that the other getters take
(**`validate_referentially_closed`**).

**Identity.**  The signing identity is that of the first user in the order of iteration, and nothing
makes sure that there is a user at all: the check that should reads the peers.  So an accepted
profile determines the identity only if the users of the client's organization are one and the same
(**`getUserContext_determined_iff`**).
-/

namespace DZTA

/-! ## The profile

The parts of a connection profile that the client uses. -/

/-- `PathWrapper`: a file that the configuration names. -/
structure PathWrapper where
  path : String
deriving DecidableEq

/-- `GrpcOptions`: the name that a certificate is checked against, and how long a connection is
kept. -/
structure GrpcOptions where
  sslTargetNameOverride : Option String
  keepAliveTimeMs : Option UInt64
deriving DecidableEq

/-- `PeerConfig`: where a peer is reached, and the certificate it is trusted by. -/
structure PeerConfig where
  url : String
  grpcOptions : GrpcOptions
  tlsCaCerts : Option PathWrapper
  tlsCaCertsTonic : Option PathWrapper
deriving DecidableEq

/-- `OrdererConfig`: where an orderer is reached. -/
structure OrdererConfig where
  url : String
  grpcOptions : GrpcOptions
  tlsCaCerts : Option PathWrapper
deriving DecidableEq

/-- `UserConfig`: the files with the certificate and the key of a user. -/
structure UserConfig where
  cert : PathWrapper
  key : PathWrapper
deriving DecidableEq

/-- `OrgConfig`: an organization with its peers and users. -/
structure OrgConfig where
  mspid : String
  users : IterMap String UserConfig
  peers : List String

/-- `PeerInChannelConfig`: what a peer does in a channel. -/
structure PeerInChannelConfig where
  endorsingPeer : Bool
  chaincodeQuery : Bool
  ledgerQuery : Bool
  eventSource : Bool
deriving DecidableEq

/-- `ChannelConfig`: the peers and the orderers of a channel. -/
structure ChannelConfig where
  peers : IterMap String PeerInChannelConfig
  orderers : List String

/-- `ClientConfig`: the organization that the client belongs to. -/
structure ClientConfig where
  organization : String
deriving DecidableEq

/-- `ConnectionConfig`: the whole connection profile. -/
structure ConnectionConfig where
  peers : IterMap String PeerConfig
  orderers : IterMap String OrdererConfig
  organizations : IterMap String OrgConfig
  channels : IterMap String ChannelConfig
  client : ClientConfig

/-- `UserContext`: the certificate and the key of a user, and the id of the organization. -/
structure UserContext where
  certPem : String
  keyPem : String
  mspId : String
deriving DecidableEq

/-- `UserContext::new`: the one way to a user, which refuses an empty part. -/
def UserContext.new (certPem keyPem mspId : String) : WalletResult UserContext :=
  if certPem = "" then .error (.configError "Certificate cannot be empty")
  else if keyPem = "" then .error (.configError "Private key cannot be empty")
  else if mspId = "" then .error (.configError "MSP ID cannot be empty")
  else .ok ⟨certPem, keyPem, mspId⟩

namespace ConnectionConfig

variable (config : ConnectionConfig)

/-! ## Validation

References between the parts, checked one after the other. -/

/-- A loop over names that stops at the first one that is not a key. -/
def checkDefined {α : Type} (m : IterMap String α) (missing : String → String)
    (names : List String) : WalletResult Unit :=
  names.forM fun name =>
    if m.containsKey name then .ok () else .error (.configError (missing name))

/-- The references of one organization.  (One without peers is only warned about.) -/
def validateOrganization (orgName : String) (org : OrgConfig) : WalletResult Unit :=
  checkDefined config.peers
    (fun peerName => "Peer '" ++ peerName ++ "' referenced in org '" ++ orgName ++ "' not found")
    org.peers

/-- The references of one channel: its orderers, and then its peers. -/
def validateChannel (channelName : String) (channel : ChannelConfig) : WalletResult Unit := do
  checkDefined config.orderers
    (fun ordererName => "Orderer '" ++ ordererName ++ "' referenced in channel '" ++ channelName ++
      "' not found") channel.orderers
  checkDefined config.peers
    (fun peerName => "Peer '" ++ peerName ++ "' referenced in channel '" ++ channelName ++
      "' not found") channel.peers.keys

/-- `validate`: the checks of a profile, in the order of their errors. -/
def validate : WalletResult Unit :=
  if ¬ config.organizations.containsKey config.client.organization then
    .error (.configError
      ("Client organization '" ++ config.client.organization ++ "' not found in configuration"))
  else if config.peers.isEmpty then .error (.configError "No peers configured")
  else if config.orderers.isEmpty then .error (.configError "No orderers configured")
  else if config.channels.isEmpty then .error (.configError "No channels configured")
  else do
    config.organizations.entries.forM fun (orgName, org) => config.validateOrganization orgName org
    config.channels.entries.forM fun (channelName, channel) =>
      config.validateChannel channelName channel

/-! ## Getters

A part by its name, or the error that it is missing. -/

/-- `get_user_context`: the first user of the organization of the client. -/
def getUserContext : WalletResult UserContext := do
  let org ← Except.okOr (.configError "Organization not found")
    (config.organizations.get? config.client.organization)
  let user ← Except.okOr (.configError "No users configured for organization")
    org.users.values.head?
  UserContext.new user.cert.path user.key.path org.mspid

/-- `get_orderer_config`: an orderer by its name. -/
def getOrdererConfig (ordererName : String) : WalletResult OrdererConfig :=
  Except.okOr (.configError ("Orderer '" ++ ordererName ++ "' not found"))
    (config.orderers.get? ordererName)

/-- `get_peer_config`: a peer by its name. -/
def getPeerConfig (peerName : String) : WalletResult PeerConfig :=
  Except.okOr (.configError ("Peer '" ++ peerName ++ "' not found")) (config.peers.get? peerName)

/-- A getter of a channel. -/
def ofChannel {α : Type} (f : ChannelConfig → α) (channelName : String) : WalletResult α :=
  Except.okOr (.configError ("Channel '" ++ channelName ++ "' not found"))
    ((config.channels.get? channelName).map f)

/-- `get_channel_peers`: the names of the peers of a channel. -/
def getChannelPeers : String → WalletResult (List String) :=
  config.ofChannel fun c => c.peers.keys

/-- `get_channel_orderers`: the names of its orderers. -/
def getChannelOrderers : String → WalletResult (List String) :=
  config.ofChannel fun c => c.orderers

/-- `get_endorsing_peers`: the names of its peers that endorse. -/
def getEndorsingPeers : String → WalletResult (List String) :=
  config.ofChannel fun c =>
    (c.peers.entries.filter fun (_, config) => config.endorsingPeer).map Prod.fst

/-- `get_org_mspid`: the id under which the members of an organization are known. -/
def getOrgMspid (orgName : String) : WalletResult String :=
  Except.okOr (.configError ("Organization '" ++ orgName ++ "' not found"))
    ((config.organizations.get? orgName).map fun o => o.mspid)

/-! ## References

A profile passes exactly if no reference is open, in whatever order its maps come. -/

/-- A profile without dangling references: the client's organization is defined, there are peers,
orderers and channels, and every peer and orderer that is named somewhere is defined. -/
structure Closed : Prop where
  client : config.organizations.containsKey config.client.organization = true
  peers : ∃ peerName, config.peers.containsKey peerName = true
  orderers : ∃ ordererName, config.orderers.containsKey ordererName = true
  channels : ∃ channelName, config.channels.containsKey channelName = true
  orgPeers : ∀ orgName org, config.organizations.get? orgName = some org →
    ∀ peerName ∈ org.peers, config.peers.containsKey peerName = true
  channelOrderers : ∀ channelName channel, config.channels.get? channelName = some channel →
    ∀ ordererName ∈ channel.orderers, config.orderers.containsKey ordererName = true
  channelPeers : ∀ channelName channel, config.channels.get? channelName = some channel →
    ∀ peerName, channel.peers.containsKey peerName = true →
      config.peers.containsKey peerName = true

/-- The same profile with its maps in other orders. -/
structure Reordered (config' : ConnectionConfig) : Prop where
  peers : IterMap.Same (· = ·) config.peers config'.peers
  orderers : IterMap.Same (· = ·) config.orderers config'.orderers
  organizations : IterMap.Same (fun org org' => org.mspid = org'.mspid ∧ org.peers = org'.peers ∧
    IterMap.Same (· = ·) org.users org'.users) config.organizations config'.organizations
  channels : IterMap.Same (fun channel channel' => channel.orderers = channel'.orderers ∧
    IterMap.Same (· = ·) channel.peers channel'.peers) config.channels config'.channels
  client : config.client = config'.client

variable {config}

lemma checkDefined_eq_ok_iff {α : Type} {m : IterMap String α} {missing : String → String}
    {names : List String} :
    checkDefined m missing names = .ok () ↔ ∀ name ∈ names, m.containsKey name = true := by
  rw [checkDefined, Except.forM_eq_ok_iff]
  refine forall₂_congr fun name _ => ?_
  split
  · rename_i h
    exact iff_of_true rfl h
  · rename_i h
    exact iff_of_false (by simp) h

lemma validateOrganization_eq_ok_iff {orgName : String} {org : OrgConfig} :
    config.validateOrganization orgName org = .ok () ↔
      ∀ peerName ∈ org.peers, config.peers.containsKey peerName = true :=
  checkDefined_eq_ok_iff

lemma validateChannel_eq_ok_iff {channelName : String} {channel : ChannelConfig} :
    config.validateChannel channelName channel = .ok () ↔
      (∀ ordererName ∈ channel.orderers, config.orderers.containsKey ordererName = true) ∧
      ∀ peerName, channel.peers.containsKey peerName = true →
        config.peers.containsKey peerName = true := by
  rw [validateChannel, Except.bind_eq_ok_iff]
  constructor
  · rintro ⟨⟨⟩, horderers, hpeers⟩
    refine ⟨checkDefined_eq_ok_iff.mp horderers, fun peerName h => ?_⟩
    exact checkDefined_eq_ok_iff.mp hpeers peerName (IterMap.mem_keys_iff.mpr h)
  · rintro ⟨horderers, hpeers⟩
    refine ⟨(), checkDefined_eq_ok_iff.mpr horderers, checkDefined_eq_ok_iff.mpr ?_⟩
    exact fun peerName h => hpeers peerName (IterMap.mem_keys_iff.mp h)

/-- A loop over the entries of a map. -/
lemma forM_entries_eq_ok_iff {α : Type} {m : IterMap String α}
    {f : String × α → WalletResult Unit} :
    m.entries.forM f = .ok () ↔ ∀ name a, m.get? name = some a → f (name, a) = .ok () := by
  rw [Except.forM_eq_ok_iff]
  constructor
  · exact fun h name a ha => h (name, a) (IterMap.mem_entries_iff.mpr ha)
  · exact fun h e he => h e.1 e.2 (IterMap.mem_entries_iff.mp he)

/-- **What `validate` accepts**: the profiles without dangling references. -/
theorem validate_eq_ok_iff : config.validate = .ok () ↔ config.Closed := by
  rw [validate]
  split
  · rename_i h
    exact iff_of_false (by simp) fun hclosed => h hclosed.client
  rename_i hclient
  split
  · rename_i h
    refine iff_of_false (by simp) fun hclosed => ?_
    rw [IterMap.isEmpty_eq_false_iff.mpr hclosed.peers] at h
    cases h
  rename_i hpeers
  split
  · rename_i h
    refine iff_of_false (by simp) fun hclosed => ?_
    rw [IterMap.isEmpty_eq_false_iff.mpr hclosed.orderers] at h
    cases h
  rename_i horderers
  split
  · rename_i h
    refine iff_of_false (by simp) fun hclosed => ?_
    rw [IterMap.isEmpty_eq_false_iff.mpr hclosed.channels] at h
    cases h
  rename_i hchannels
  rw [Except.bind_eq_ok_iff]
  constructor
  · rintro ⟨⟨⟩, horganization, hchannel⟩
    have horganization := forM_entries_eq_ok_iff.mp horganization
    have hchannel := forM_entries_eq_ok_iff.mp hchannel
    exact
      { client := not_not.mp hclient
        peers := IterMap.isEmpty_eq_false_iff.mp (Bool.eq_false_iff.mpr hpeers)
        orderers := IterMap.isEmpty_eq_false_iff.mp (Bool.eq_false_iff.mpr horderers)
        channels := IterMap.isEmpty_eq_false_iff.mp (Bool.eq_false_iff.mpr hchannels)
        orgPeers := fun orgName org h =>
          validateOrganization_eq_ok_iff.mp (horganization orgName org h)
        channelOrderers := fun channelName channel h =>
          (validateChannel_eq_ok_iff.mp (hchannel channelName channel h)).1
        channelPeers := fun channelName channel h =>
          (validateChannel_eq_ok_iff.mp (hchannel channelName channel h)).2 }
  · intro hclosed
    refine ⟨(), forM_entries_eq_ok_iff.mpr fun orgName org h => ?_,
      forM_entries_eq_ok_iff.mpr fun channelName channel h => ?_⟩
    · exact validateOrganization_eq_ok_iff.mpr (hclosed.orgPeers orgName org h)
    · exact validateChannel_eq_ok_iff.mpr ⟨hclosed.channelOrderers channelName channel h,
        hclosed.channelPeers channelName channel h⟩

lemma Reordered.symm {config' : ConnectionConfig} (h : config.Reordered config') :
    config'.Reordered config where
  peers := h.peers.symm fun _ _ => Eq.symm
  orderers := h.orderers.symm fun _ _ => Eq.symm
  organizations := h.organizations.symm fun _ _ horg =>
    ⟨horg.1.symm, horg.2.1.symm, horg.2.2.symm fun _ _ => Eq.symm⟩
  channels := h.channels.symm fun _ _ hchannel =>
    ⟨hchannel.1.symm, hchannel.2.symm fun _ _ => Eq.symm⟩
  client := h.client.symm

/-- References are resolved in any order. -/
lemma Closed.reordered {config' : ConnectionConfig} (h : config.Reordered config')
    (hclosed : config'.Closed) : config.Closed where
  client := by
    rw [h.organizations.containsKey_eq, h.client]
    exact hclosed.client
  peers := by
    simp_rw [h.peers.containsKey_eq]
    exact hclosed.peers
  orderers := by
    simp_rw [h.orderers.containsKey_eq]
    exact hclosed.orderers
  channels := by
    simp_rw [h.channels.containsKey_eq]
    exact hclosed.channels
  orgPeers orgName org horg peerName hpeer := by
    obtain ⟨org', horg', -, hpeers, -⟩ := h.organizations.exists_get? horg
    rw [hpeers] at hpeer
    rw [h.peers.containsKey_eq]
    exact hclosed.orgPeers orgName org' horg' peerName hpeer
  channelOrderers channelName channel hchannel ordererName horderer := by
    obtain ⟨channel', hchannel', horderers, -⟩ := h.channels.exists_get? hchannel
    rw [horderers] at horderer
    rw [h.orderers.containsKey_eq]
    exact hclosed.channelOrderers channelName channel' hchannel' ordererName horderer
  channelPeers channelName channel hchannel peerName hpeer := by
    obtain ⟨channel', hchannel', -, hpeers⟩ := h.channels.exists_get? hchannel
    rw [hpeers.containsKey_eq] at hpeer
    rw [h.peers.containsKey_eq]
    exact hclosed.channelPeers channelName channel' hchannel' peerName hpeer

lemma exists_getPeerConfig {peerName : String} (h : config.peers.containsKey peerName = true) :
    ∃ peer, config.getPeerConfig peerName = .ok peer := by
  obtain ⟨peer, hpeer⟩ := Option.isSome_iff_exists.mp h
  exact ⟨peer, Except.okOr_eq_ok_iff.mpr hpeer⟩

/-- What a getter of a channel returns comes from the channel. -/
lemma ofChannel_eq_ok_iff {α : Type} {f : ChannelConfig → α} {channelName : String} {a : α} :
    config.ofChannel f channelName = .ok a ↔
      ∃ channel, config.channels.get? channelName = some channel ∧ f channel = a := by
  rw [ofChannel, Except.okOr_eq_ok_iff, Option.map_eq_some_iff]

/-- **An accepted profile is referentially closed.**  A profile is accepted exactly if it has no
dangling references, so whatever the orders of its maps; and in one that is accepted the MSP id of
the client's organization is found, and so is every peer and every orderer that a channel names. -/
theorem validate_referentially_closed (config : ConnectionConfig) :
    (config.validate = .ok () ↔ config.Closed) ∧
    (∀ config', config.Reordered config' →
      (config'.validate = .ok () ↔ config.validate = .ok ())) ∧
    (config.validate = .ok () →
      (∃ mspid, config.getOrgMspid config.client.organization = .ok mspid) ∧
      ∀ channelName names,
        (config.getChannelPeers channelName = .ok names →
          ∀ name ∈ names, ∃ peer, config.getPeerConfig name = .ok peer) ∧
        (config.getEndorsingPeers channelName = .ok names →
          ∀ name ∈ names, ∃ peer, config.getPeerConfig name = .ok peer) ∧
        (config.getChannelOrderers channelName = .ok names →
          ∀ name ∈ names, ∃ orderer, config.getOrdererConfig name = .ok orderer)) := by
  refine ⟨validate_eq_ok_iff, fun config' h => ?_, fun h => ?_⟩
  · rw [validate_eq_ok_iff, validate_eq_ok_iff]
    exact ⟨.reordered h, .reordered h.symm⟩
  · have hclosed := validate_eq_ok_iff.mp h
    refine ⟨?_, fun channelName names => ⟨fun hnames name hname => ?_, fun hnames name hname => ?_,
      fun hnames name hname => ?_⟩⟩
    · obtain ⟨org, horg⟩ := Option.isSome_iff_exists.mp hclosed.client
      exact ⟨org.mspid, Except.okOr_eq_ok_iff.mpr (by rw [horg, Option.map_some])⟩
    · obtain ⟨channel, hchannel, rfl⟩ := ofChannel_eq_ok_iff.mp hnames
      exact exists_getPeerConfig
        (hclosed.channelPeers channelName channel hchannel name (IterMap.mem_keys_iff.mp hname))
    · obtain ⟨channel, hchannel, rfl⟩ := ofChannel_eq_ok_iff.mp hnames
      have hkey : name ∈ channel.peers.keys := by
        obtain ⟨e, he, rfl⟩ := List.mem_map.mp hname
        exact List.mem_map_of_mem (List.mem_filter.mp he).1
      exact exists_getPeerConfig
        (hclosed.channelPeers channelName channel hchannel name (IterMap.mem_keys_iff.mp hkey))
    · obtain ⟨channel, hchannel, rfl⟩ := ofChannel_eq_ok_iff.mp hnames
      obtain ⟨orderer, horderer⟩ := Option.isSome_iff_exists.mp
        (hclosed.channelOrderers channelName channel hchannel name hname)
      exact ⟨orderer, Except.okOr_eq_ok_iff.mpr horderer⟩

/-! ## The signing identity

The user that signs is the first one in the order of a map, so it is determined only if there is no
choice. -/

variable (config)

/-- Every listed user has paths, and every organization has an MSP id. -/
structure Filled : Prop where
  paths : ∀ orgName org userName user, config.organizations.get? orgName = some org →
    org.users.get? userName = some user → user.cert.path ≠ "" ∧ user.key.path ≠ ""
  mspids : ∀ orgName org, config.organizations.get? orgName = some org → org.mspid ≠ ""

/-- The users of the client's organization are one: there is one, and all have its certificate and
its key. -/
def OneIdentity : Prop :=
  ∃ org userName user, config.organizations.get? config.client.organization = some org ∧
    org.users.get? userName = some user ∧
    ∀ userName' user', org.users.get? userName' = some user' →
      user'.cert.path = user.cert.path ∧ user'.key.path = user.key.path

variable {config}

/-- **What `get_user_context` returns** is made of the first user in the order of iteration. -/
lemma getUserContext_eq_ok_iff (hfilled : config.Filled) {context : UserContext} :
    config.getUserContext = .ok context ↔
      ∃ org user, config.organizations.get? config.client.organization = some org ∧
        org.users.values.head? = some user ∧
        context = ⟨user.cert.path, user.key.path, org.mspid⟩ := by
  rw [getUserContext, Except.bind_eq_ok_iff]
  simp only [Except.bind_eq_ok_iff, Except.okOr_eq_ok_iff]
  have hnew : ∀ org user, config.organizations.get? config.client.organization = some org →
      org.users.values.head? = some user →
      UserContext.new user.cert.path user.key.path org.mspid =
        .ok ⟨user.cert.path, user.key.path, org.mspid⟩ := by
    intro org user horg huser
    obtain ⟨userName, hname⟩ := IterMap.mem_values_iff.mp (List.mem_of_mem_head? huser)
    obtain ⟨hcert, hkey⟩ := hfilled.paths _ org userName user horg hname
    rw [UserContext.new, if_neg hcert, if_neg hkey, if_neg (hfilled.mspids _ org horg)]
  constructor
  · rintro ⟨org, horg, user, huser, h⟩
    rw [hnew org user horg huser] at h
    exact ⟨org, user, horg, huser, (Except.ok.inj h).symm⟩
  · rintro ⟨org, user, horg, huser, rfl⟩
    exact ⟨org, horg, user, huser, hnew org user horg huser⟩

lemma Reordered.refl (config : ConnectionConfig) : config.Reordered config where
  peers := .refl (fun _ => rfl) _
  orderers := .refl (fun _ => rfl) _
  organizations := .refl (fun _ => ⟨rfl, rfl, .refl (fun _ => rfl) _⟩) _
  channels := .refl (fun _ => ⟨rfl, .refl (fun _ => rfl) _⟩) _
  client := rfl

lemma Filled.reordered {config' : ConnectionConfig} (h : config'.Reordered config)
    (hfilled : config.Filled) : config'.Filled where
  paths orgName org userName user horg huser := by
    obtain ⟨org', horg', -, -, husers⟩ := h.organizations.exists_get? horg
    obtain ⟨user', huser', rfl⟩ := husers.exists_get? huser
    exact hfilled.paths orgName org' userName user horg' huser'
  mspids orgName org horg := by
    obtain ⟨org', horg', hmspid, -⟩ := h.organizations.exists_get? horg
    rw [hmspid]
    exact hfilled.mspids orgName org' horg'

/-- The profile with a user of the client's organization first. -/
def withFirstUser (config : ConnectionConfig) (userName : String) : ConnectionConfig :=
  { config with
    organizations := config.organizations.modify config.client.organization fun org =>
      { org with users := org.users.bringForward userName } }

lemma reordered_withFirstUser (config : ConnectionConfig) (userName : String) :
    config.Reordered (config.withFirstUser userName) := by
  refine { Reordered.refl config with organizations := fun orgName => ?_ }
  have hbring : ∀ org : OrgConfig, IterMap.Same (· = ·) org.users
      (org.users.bringForward userName) := by
    intro org k
    rw [IterMap.get?_bringForward]
    exact IterMap.Same.refl (fun _ => rfl) org.users k
  have hsame := (Reordered.refl config).organizations orgName
  rw [withFirstUser]
  dsimp only
  by_cases hclient : orgName = config.client.organization
  · subst hclient
    rw [IterMap.get?_modify_self]
    cases config.organizations.get? config.client.organization with
    | none => exact .none
    | some org => exact .some ⟨rfl, rfl, hbring org⟩
  · rwa [IterMap.get?_modify_of_ne _ hclient]

/-- **Every user may be the first one.** -/
lemma getUserContext_withFirstUser (hfilled : config.Filled) {org : OrgConfig} {userName : String}
    {user : UserConfig}
    (horg : config.organizations.get? config.client.organization = some org)
    (huser : org.users.get? userName = some user) :
    (config.withFirstUser userName).getUserContext =
      .ok ⟨user.cert.path, user.key.path, org.mspid⟩ := by
  have hfilled' : (config.withFirstUser userName).Filled :=
    hfilled.reordered (reordered_withFirstUser config userName).symm
  refine (getUserContext_eq_ok_iff hfilled').mpr
    ⟨{ org with users := org.users.bringForward userName }, user, ?_,
      IterMap.head?_values_bringForward huser, rfl⟩
  rw [withFirstUser]
  dsimp only
  rw [IterMap.get?_modify_self, horg, Option.map_some]

/-- **When an accepted profile determines the identity**: if there is a user in the client's
organization, and all its users have one certificate and one key. -/
theorem getUserContext_determined_iff {config : ConnectionConfig}
    (hvalid : config.validate = .ok ()) (hfilled : config.Filled) :
    (∃ context, ∀ config', config.Reordered config' → config'.getUserContext = .ok context) ↔
      config.OneIdentity := by
  obtain ⟨org, horg⟩ := Option.isSome_iff_exists.mp (validate_eq_ok_iff.mp hvalid).client
  constructor
  · rintro ⟨context, hcontext⟩
    obtain ⟨org', user, horg', huser, rfl⟩ :=
      (getUserContext_eq_ok_iff hfilled).mp (hcontext config (.refl config))
    obtain rfl := Option.some.inj (horg'.symm.trans horg)
    obtain ⟨userName, hname⟩ := IterMap.mem_values_iff.mp (List.mem_of_mem_head? huser)
    refine ⟨org', userName, user, horg, hname, fun userName' user' hname' => ?_⟩
    have hfirst := hcontext _ (reordered_withFirstUser config userName')
    rw [getUserContext_withFirstUser hfilled horg hname'] at hfirst
    have hsame := UserContext.mk.inj (Except.ok.inj hfirst)
    exact ⟨hsame.1, hsame.2.1⟩
  · rintro ⟨org', userName, user, horg', hname, hone⟩
    refine ⟨⟨user.cert.path, user.key.path, org'.mspid⟩, fun config' h => ?_⟩
    obtain ⟨org'', horg'', hmspid, -, husers⟩ := h.organizations.exists_get? horg'
    obtain ⟨user', huser', -⟩ := husers.exists_get? hname
    -- whoever is first in the other order is a user of this one too
    obtain ⟨first, hfirst⟩ : ∃ first, org''.users.values.head? = some first := by
      have hmem := IterMap.mem_values_iff.mpr ⟨userName, huser'⟩
      exact ⟨_, List.head?_eq_some_head (List.ne_nil_of_mem hmem)⟩
    obtain ⟨firstName, hfirstName⟩ := IterMap.mem_values_iff.mp (List.mem_of_mem_head? hfirst)
    obtain ⟨_, hsame, rfl⟩ := (husers.symm fun _ _ => Eq.symm).exists_get? hfirstName
    obtain ⟨hcert, hkey⟩ := hone firstName first hsame
    refine (getUserContext_eq_ok_iff (hfilled.reordered h.symm)).mpr
      ⟨org'', first, h.client ▸ horg'', hfirst, ?_⟩
    rw [hcert, hkey, hmspid]

/-! ### A profile with one user, and with two

The second user makes the identity depend on the order. -/

/-- A profile with one peer, one orderer, one channel and one organization. -/
def staffProfile (users : IterMap String UserConfig) : ConnectionConfig where
  peers := ⟨[("org1-peer1", ⟨"localhost:7051", ⟨none, none⟩, none, none⟩)], List.nodup_singleton _⟩
  orderers := ⟨[("orderer", ⟨"localhost:7050", ⟨none, none⟩, none⟩)], List.nodup_singleton _⟩
  organizations := ⟨[("Org1", ⟨"Org1MSP", users, ["org1-peer1"]⟩)], List.nodup_singleton _⟩
  channels := ⟨[("mychannel", ⟨⟨[("org1-peer1", ⟨true, true, true, true⟩)],
    List.nodup_singleton _⟩, ["orderer"]⟩)], List.nodup_singleton _⟩
  client := ⟨"Org1"⟩

def adminUser : UserConfig := ⟨⟨"admin-cert.pem"⟩, ⟨"admin-key.pem"⟩⟩

def clerkUser : UserConfig := ⟨⟨"clerk-cert.pem"⟩, ⟨"clerk-key.pem"⟩⟩

lemma validate_staffProfile (users : IterMap String UserConfig) :
    (staffProfile users).validate = .ok () := rfl

lemma filled_staffProfile {users : IterMap String UserConfig}
    (h : ∀ user ∈ users.values, user.cert.path ≠ "" ∧ user.key.path ≠ "") :
    (staffProfile users).Filled := by
  have horg : ∀ orgName org, (staffProfile users).organizations.get? orgName = some org →
      org = ⟨"Org1MSP", users, ["org1-peer1"]⟩ := fun orgName org horg =>
    (Prod.mk.inj (List.mem_singleton.mp (IterMap.mem_entries_iff.mpr horg))).2
  constructor
  · intro orgName org userName user hget huser
    obtain rfl := horg orgName org hget
    exact h user (IterMap.mem_values_iff.mpr ⟨userName, huser⟩)
  · intro orgName org hget
    obtain rfl := horg orgName org hget
    exact (by decide : "Org1MSP" ≠ "")

/-- A profile in which only the administrator signs. -/
def adminProfile : ConnectionConfig :=
  staffProfile ⟨[("Admin", adminUser)], List.nodup_singleton _⟩

/-- A profile in which a clerk may sign too. -/
def clerkProfile : ConnectionConfig :=
  staffProfile ⟨[("Admin", adminUser), ("Clerk", clerkUser)], by decide⟩

lemma filled_clerkProfile : clerkProfile.Filled := by
  refine filled_staffProfile fun user huser => ?_
  rcases List.mem_pair.mp huser with rfl | rfl <;> decide

/-- A profile with one user gives that user in every order of its maps. -/
theorem getUserContext_determined_admin :
    ∃ context, ∀ config', adminProfile.Reordered config' →
      config'.getUserContext = .ok context := by
  have hfilled : adminProfile.Filled := by
    refine filled_staffProfile fun user huser => ?_
    rw [List.mem_singleton.mp huser]
    decide
  refine (getUserContext_determined_iff (validate_staffProfile _) hfilled).mpr
    ⟨_, "Admin", adminUser, rfl, rfl, fun userName user huser => ?_⟩
  rw [(Prod.mk.inj (List.mem_singleton.mp (IterMap.mem_entries_iff.mpr huser))).2]
  exact ⟨rfl, rfl⟩

/-- **An accepted profile need not determine the identity**: it may list no user, and of two users
either may be the first. -/
theorem getUserContext_not_determined :
    (¬ ∀ config : ConnectionConfig, config.validate = .ok () → config.Filled →
      ∃ context, config.getUserContext = .ok context) ∧
    ¬ ∀ config config' : ConnectionConfig, config.validate = .ok () → config.Filled →
      config.Reordered config' → config.getUserContext = config'.getUserContext := by
  constructor
  · intro hclaim
    obtain ⟨context, h⟩ := hclaim (staffProfile ⟨[], List.nodup_nil⟩) (validate_staffProfile _)
      (filled_staffProfile fun _ h => absurd h List.not_mem_nil)
    cases h
  · intro hclaim
    have hsame := hclaim clerkProfile (clerkProfile.withFirstUser "Clerk")
      (validate_staffProfile _) filled_clerkProfile (reordered_withFirstUser clerkProfile "Clerk")
    have hadmin : clerkProfile.getUserContext =
        .ok ⟨"admin-cert.pem", "admin-key.pem", "Org1MSP"⟩ := rfl
    have hclerk : (clerkProfile.withFirstUser "Clerk").getUserContext =
        .ok ⟨"clerk-cert.pem", "clerk-key.pem", "Org1MSP"⟩ := rfl
    rw [hadmin, hclerk] at hsame
    exact absurd (UserContext.mk.inj (Except.ok.inj hsame)).1 (by decide)

end ConnectionConfig

end DZTA
