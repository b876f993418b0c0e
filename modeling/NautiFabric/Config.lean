import NautiFabric.Lib.Record
import NautiFabric.Rpc.Auth
import NautiFabric.Text

/-!
# NautiFabric.Config — the configuration of an agent

`from_file` reads a TOML document, given as the tree of its values, by derived readers. A
table has its defaults twice: the `default` of its type, for the whole table, and those of
its fields, for what the table leaves out. `omitted_tables_iff` says where they come apart.

`validate` and `build_auth_provider` each have a table of the authentication methods;
`auth_never_dropped_iff` says which methods both of them know.
-/

namespace NautiFabric

open Record

/-! ## The settings -/

/-- The Cargo features that the settings depend on. -/
structure Features where
  authTtl : Bool
  authOauth : Bool
  authSharedSecret : Bool
  vfio : Bool
  cloudHypervisor : Bool
deriving DecidableEq, Repr

structure FabricConfig where
  autoRefreshInterval : UInt64
deriving DecidableEq, Repr

structure TtlConfig where
  minSecs : UInt64
  maxSecs : UInt64
deriving DecidableEq, Repr

structure OAuth2Config where
  jwksUrl : Option String
  audience : Option String
  clientSecretsFile : Option String
deriving DecidableEq, Repr

structure SharedSecretConfig where
  file : Option String
deriving DecidableEq, Repr

structure AuthConfig where
  method : String
  ttl : TtlConfig
  oauth2 : OAuth2Config
  sharedSecret : SharedSecretConfig
deriving DecidableEq, Repr

structure VfioConfig where
  excludeVendors : Option String
  excludeIommuGroups : Option String
  autoBind : Bool
deriving DecidableEq, Repr

structure CloudHypervisorConfig where
  binary : String
  socketDir : String
  kernel : Option String
  rootfs : Option String
  vcpus : UInt32
  memoryMib : UInt32
deriving DecidableEq, Repr

structure AgentConfig where
  node : String
  fabric : FabricConfig
  auth : AuthConfig
  /-- none where the feature is not compiled -/
  vfio : Option VfioConfig
  /-- none where the feature is not compiled -/
  cloudHypervisor : Option CloudHypervisorConfig
deriving DecidableEq, Repr

/-! ## `Default::default()` -/

def FabricConfig.default : FabricConfig := ⟨0⟩

def TtlConfig.default : TtlConfig := ⟨0, 0⟩

def OAuth2Config.default : OAuth2Config := ⟨none, none, none⟩

def SharedSecretConfig.default : SharedSecretConfig := ⟨none⟩

def defaultAuthMethod : String := "none"

def AuthConfig.default : AuthConfig := ⟨defaultAuthMethod, .default, .default, .default⟩

def VfioConfig.default : VfioConfig := ⟨none, none, false⟩

def CloudHypervisorConfig.default : CloudHypervisorConfig := ⟨"", "", none, none, 0, 0⟩

def AgentConfig.default (features : Features) : AgentConfig where
  node := ""
  fabric := .default
  auth := .default
  vfio := if features.vfio then some .default else none
  cloudHypervisor := if features.cloudHypervisor then some .default else none

/-! ## Values -/

inductive Toml where
  | string (value : String)
  | integer (value : ℤ)
  | float (text : String)
  | boolean (value : Bool)
  | datetime (text : String)
  | array (items : List Toml)
  | table (entries : List (String × Toml))

namespace Toml

def asString : Toml → Option String
  | string value => some value
  | _ => none

def asBool : Toml → Option Bool
  | boolean value => some value
  | _ => none

def asU64 : Toml → Option UInt64
  | integer value => if 0 ≤ value ∧ value < 2 ^ 64 then some (.ofNat value.toNat) else none
  | _ => none

def asU32 : Toml → Option UInt32
  | integer value => if 0 ≤ value ∧ value < 2 ^ 32 then some (.ofNat value.toNat) else none
  | _ => none

/-- A derived reader takes a table, or a list of the fields in their order. -/
def fields : Toml → Option (Fields String Toml)
  | table entries => some (.named entries)
  | array items => some (.listed items)
  | _ => none

end Toml

/-! ## The derived readers -/

def FabricConfig.ofFields (src : Fields String Toml) : Option FabricConfig := do
  let interval ← (Field.defaulted "auto-refresh-interval" 0 Toml.asU64).read 0 src
  return ⟨interval⟩

def defaultTtlMin : UInt64 := 1

def defaultTtlMax : UInt64 := 3600

def TtlConfig.ofFields (src : Fields String Toml) : Option TtlConfig := do
  let minSecs ← (Field.defaulted "min-secs" defaultTtlMin Toml.asU64).read 0 src
  let maxSecs ← (Field.defaulted "max-secs" defaultTtlMax Toml.asU64).read 1 src
  return ⟨minSecs, maxSecs⟩

def OAuth2Config.ofFields (src : Fields String Toml) : Option OAuth2Config := do
  let jwksUrl ← (Field.optional "jwks-url" Toml.asString).read 0 src
  let audience ← (Field.optional "audience" Toml.asString).read 1 src
  let clientSecretsFile ← (Field.optional "client-secrets-file" Toml.asString).read 2 src
  return ⟨jwksUrl, audience, clientSecretsFile⟩

def SharedSecretConfig.ofFields (src : Fields String Toml) : Option SharedSecretConfig := do
  let file ← (Field.optional "file" Toml.asString).read 0 src
  return ⟨file⟩

namespace AuthConfig

def methodField : Field String Toml String := .defaulted "method" defaultAuthMethod Toml.asString

def ttlField : Field String Toml TtlConfig :=
  .defaulted "ttl" .default fun v => v.fields.bind TtlConfig.ofFields

def oauth2Field : Field String Toml OAuth2Config :=
  .defaulted "oauth2" .default fun v => v.fields.bind OAuth2Config.ofFields

def sharedSecretField : Field String Toml SharedSecretConfig :=
  .defaulted "shared-secret" .default fun v => v.fields.bind SharedSecretConfig.ofFields

def ofFields (src : Fields String Toml) : Option AuthConfig := do
  let method ← methodField.read 0 src
  let ttl ← ttlField.read 1 src
  let oauth2 ← oauth2Field.read 2 src
  let sharedSecret ← sharedSecretField.read 3 src
  return ⟨method, ttl, oauth2, sharedSecret⟩

end AuthConfig

def VfioConfig.ofFields (src : Fields String Toml) : Option VfioConfig := do
  let excludeVendors ← (Field.optional "exclude-vendors" Toml.asString).read 0 src
  let excludeIommuGroups ← (Field.optional "exclude-iommu-groups" Toml.asString).read 1 src
  let autoBind ← (Field.defaulted "auto-bind" false Toml.asBool).read 2 src
  return ⟨excludeVendors, excludeIommuGroups, autoBind⟩

def CloudHypervisorConfig.ofFields (src : Fields String Toml) :
    Option CloudHypervisorConfig := do
  let binary ← (Field.defaulted "binary" "/usr/bin/cloud-hypervisor" Toml.asString).read 0 src
  let socketDir ← (Field.defaulted "socket-dir" "/var/run/nauti" Toml.asString).read 1 src
  let kernel ← (Field.optional "kernel" Toml.asString).read 2 src
  let rootfs ← (Field.optional "rootfs" Toml.asString).read 3 src
  let vcpus ← (Field.defaulted "vcpus" 1 Toml.asU32).read 4 src
  let memoryMib ← (Field.defaulted "memory-mib" 512 Toml.asU32).read 5 src
  return ⟨binary, socketDir, kernel, rootfs, vcpus, memoryMib⟩

namespace AgentConfig

def nodeField : Field String Toml String := .defaulted "node" "local" Toml.asString

def fabricField : Field String Toml FabricConfig :=
  .defaulted "fabric" .default fun v => v.fields.bind FabricConfig.ofFields

def authField : Field String Toml AuthConfig :=
  .defaulted "auth" .default fun v => v.fields.bind AuthConfig.ofFields

def vfioField : Field String Toml VfioConfig :=
  .defaulted "vfio" .default fun v => v.fields.bind VfioConfig.ofFields

def cloudHypervisorField : Field String Toml CloudHypervisorConfig :=
  .defaulted "cloud-hypervisor" .default fun v => v.fields.bind CloudHypervisorConfig.ofFields

/-- A field that is there only with its feature. -/
def readFeature {α : Type} (compiled : Bool) (field : Field String Toml α) (position : ℕ)
    (src : Fields String Toml) : Option (Option α) :=
  if compiled then (field.read position src).map some else some none

/-- `toml::from_str` of a document, behind its syntax. -/
def ofDocument (features : Features) (doc : List (String × Toml)) : Option AgentConfig := do
  let src : Fields String Toml := .named doc
  let node ← nodeField.read 0 src
  let fabric ← fabricField.read 1 src
  let auth ← authField.read 2 src
  let vfio ← readFeature features.vfio vfioField 3 src
  let cloudHypervisor ← readFeature features.cloudHypervisor cloudHypervisorField 4 src
  return ⟨node, fabric, auth, vfio, cloudHypervisor⟩

end AgentConfig

/-! ## `from_file` -/

inductive ConfigError where
  | unreadable (error : String)
  | invalidToml
deriving DecidableEq, Repr

/-- What is found at the path. -/
inductive ConfigFile where
  | missing
  | unreadable (error : String)
  /-- no TOML -/
  | malformed
  | document (doc : List (String × Toml))

def AgentConfig.fromFile (features : Features) : ConfigFile → Except ConfigError AgentConfig
  | .missing => .ok (.default features)
  | .unreadable e => .error (.unreadable e)
  | .malformed => .error .invalidToml
  | .document doc =>
    match AgentConfig.ofDocument features doc with
    | none => .error .invalidToml
    | some config => .ok config

/-! ## The provider -/

def AuthError.notConfigured (adapter hint : String) : AuthError := ⟨.notConfigured adapter hint⟩

structure OAuth2Bearer where
  jwksUrl : Option String
  audience : Option String
deriving DecidableEq, Repr

def OAuth2Bearer.provider (bearer : OAuth2Bearer) : AuthProvider where
  name := "oauth2-bearer"
  authorize _ _ := .error (.notConfigured "oauth2-bearer"
    (match bearer.jwksUrl, bearer.audience with
    | none, _ => "set [auth] jwks_url in nauti-agent.toml"
    | _, none => "set [auth] oauth.audience in nauti-agent.toml"
    | some _, some _ => "token validation not yet implemented; this is a documented stub"))

structure SharedSecret where
  token : Option String
deriving DecidableEq, Repr

def SharedSecret.provider (secret : SharedSecret) : AuthProvider where
  name := "shared-secret"
  authorize _ _ := .error (.notConfigured "shared-secret"
    (match secret.token with
    | none => "set [auth] shared_secret.file in nauti-agent.toml"
    | some _ => "header check not yet implemented; needs X-Nauti-Token on RpcRequest"))

/-- The providers that the configuration can choose. -/
inductive BuiltProvider where
  | noAuth
  | ttlBound (bound : TtlBound)
  | oauth2Bearer (bearer : OAuth2Bearer)
  | sharedSecret (secret : SharedSecret)
deriving DecidableEq, Repr

def BuiltProvider.provider (debug : String → String) : BuiltProvider → AuthProvider
  | noAuth => NautiFabric.noAuth
  | ttlBound bound => bound.provider debug
  | oauth2Bearer bearer => bearer.provider
  | sharedSecret secret => secret.provider

/-- `readToString` reads the file of the shared secret. -/
def AgentConfig.buildAuthProvider (features : Features) (readToString : String → Option String)
    (config : AgentConfig) : BuiltProvider :=
  match config.auth.method with
  | "ttl" =>
    if features.authTtl then
      .ttlBound ⟨.fromSecs config.auth.ttl.minSecs, .fromSecs config.auth.ttl.maxSecs⟩
    else .noAuth
  | "oauth2" =>
    if features.authOauth then
      .oauth2Bearer ⟨config.auth.oauth2.jwksUrl, config.auth.oauth2.audience⟩
    else .noAuth
  | "shared-secret" =>
    if features.authSharedSecret then
      .sharedSecret ⟨config.auth.sharedSecret.file.map fun p => trim ((readToString p).getD "")⟩
    else .noAuth
  | _ => .noAuth

/-! ## The warnings -/

/-- The warning about a method that is not compiled. -/
def fallingBack (method feature : String) : String :=
  "auth method '" ++ method ++ "' selected but --features " ++ feature ++
    " is not enabled; falling back to 'none'"

/-- One check of `validate`. -/
def warnIf (condition : Bool) (warning : String) : List String :=
  if condition then [warning] else []

def AgentConfig.validate (features : Features) (config : AgentConfig) : List String :=
  warnIf (config.auth.method == "ttl" && !features.authTtl) (fallingBack "ttl" "auth-ttl") ++
  warnIf (config.auth.method == "oauth2" && !features.authOauth)
    (fallingBack "oauth2" "auth-oauth") ++
  warnIf (config.auth.method == "shared-secret" && !features.authSharedSecret)
    (fallingBack "shared-secret" "auth-shared-secret") ++
  warnIf (config.fabric.autoRefreshInterval > 0)
    "fabric.auto_refresh_interval is set but not yet implemented in agent loop" ++
  warnIf (config.vfio.any VfioConfig.autoBind)
    "vfio.auto_bind is experimental; requires root and driverctl installed" ++
  warnIf (config.cloudHypervisor.any fun ch => ch.kernel.isNone || ch.rootfs.isNone)
    "cloud_hypervisor.kernel and rootfs should be set for VM launch to work"

/-! ## Methods that are not compiled, and methods that are not known -/

/-- A warning about the authentication method. -/
def AboutAuth (warning : String) : Bool := "auth method ".toList.isPrefixOf warning.toList

theorem aboutAuth_fallingBack (method feature : String) :
    AboutAuth (fallingBack method feature) := by
  unfold AboutAuth fallingBack
  rw [List.isPrefixOf_iff_prefix]
  simp only [String.toList_append, List.append_assoc]
  have hstart : "auth method ".toList <+: "auth method '".toList := by decide
  exact hstart.trans (List.prefix_append _ _)

theorem mem_warnIf {condition : Bool} {warning w : String} :
    w ∈ warnIf condition warning ↔ condition ∧ w = warning := by
  unfold warnIf
  split
  · simp_all
  · simp_all

/-- The method is one of the three, and its feature is not compiled. -/
def NotCompiled (features : Features) (method : String) : Prop :=
  (method = "ttl" ∧ features.authTtl = false) ∨
    (method = "oauth2" ∧ features.authOauth = false) ∨
    (method = "shared-secret" ∧ features.authSharedSecret = false)

theorem warns_iff (features : Features) (config : AgentConfig) :
    (∃ w ∈ config.validate features, AboutAuth w) ↔
      NotCompiled features config.auth.method := by
  unfold AgentConfig.validate NotCompiled
  constructor
  · rintro ⟨w, hw, habout⟩
    simp only [List.mem_append, mem_warnIf] at hw
    rcases hw with ((((⟨h, -⟩ | ⟨h, -⟩) | ⟨h, -⟩) | ⟨-, rfl⟩) | ⟨-, rfl⟩) | ⟨-, rfl⟩
    · exact .inl (by simpa using h)
    · exact .inr (.inl (by simpa using h))
    · exact .inr (.inr (by simpa using h))
    -- the other warnings are about other settings
    · exact absurd habout (by decide)
    · exact absurd habout (by decide)
    · exact absurd habout (by decide)
  · rintro (⟨hmethod, hfeature⟩ | ⟨hmethod, hfeature⟩ | ⟨hmethod, hfeature⟩)
    · refine ⟨_, ?_, aboutAuth_fallingBack "ttl" "auth-ttl"⟩
      simp [mem_warnIf, hmethod, hfeature]
    · refine ⟨_, ?_, aboutAuth_fallingBack "oauth2" "auth-oauth"⟩
      simp [mem_warnIf, hmethod, hfeature]
    · refine ⟨_, ?_, aboutAuth_fallingBack "shared-secret" "auth-shared-secret"⟩
      simp [mem_warnIf, hmethod, hfeature]

/-- The methods that the documentation lists. -/
def knownMethods : List String := ["none", "ttl", "oauth2", "shared-secret"]

theorem buildAuthProvider_noAuth (features : Features) (readToString : String → Option String)
    {config : AgentConfig} (h : config.auth.method ∉ knownMethods) :
    config.buildAuthProvider features readToString = .noAuth := by
  unfold AgentConfig.buildAuthProvider
  simp only [knownMethods, List.mem_cons, List.not_mem_nil, or_false, not_or] at h
  obtain ⟨-, httl, hoauth2, hshared⟩ := h
  split
  · contradiction
  · contradiction
  · contradiction
  · rfl

/-- An agent that is open though a method is set says so among its warnings. -/
def AuthNotDropped (features : Features) (readToString : String → Option String)
    (config : AgentConfig) : Prop :=
  config.auth.method ≠ "none" → config.buildAuthProvider features readToString = .noAuth →
    ∃ w ∈ config.validate features, AboutAuth w

/-- With a known method, and only then. -/
theorem auth_never_dropped_iff (features : Features) (readToString : String → Option String)
    (config : AgentConfig) :
    AuthNotDropped features readToString config ↔ config.auth.method ∈ knownMethods := by
  unfold AuthNotDropped
  rw [warns_iff]
  constructor
  · intro h
    -- an unknown method gives `NoAuth`, and none of the warnings is about it
    by_contra hunknown
    have hnone : config.auth.method ≠ "none" := by
      intro hnone
      exact hunknown (by simp [knownMethods, hnone])
    have hcompiled := h hnone (buildAuthProvider_noAuth features readToString hunknown)
    rcases hcompiled with ⟨hmethod, -⟩ | ⟨hmethod, -⟩ | ⟨hmethod, -⟩
    all_goals exact hunknown (by simp [knownMethods, hmethod])
  · intro hknown hnone hopen
    simp only [knownMethods, List.mem_cons, List.not_mem_nil, or_false] at hknown
    unfold AgentConfig.buildAuthProvider at hopen
    rcases hknown with hmethod | hmethod | hmethod | hmethod
    · exact absurd hmethod hnone
    · refine .inl ⟨hmethod, ?_⟩
      by_contra hfeature
      simp [hmethod, hfeature] at hopen
    · refine .inr (.inl ⟨hmethod, ?_⟩)
      by_contra hfeature
      simp [hmethod, hfeature] at hopen
    · refine .inr (.inr ⟨hmethod, ?_⟩)
      by_contra hfeature
      simp [hmethod, hfeature] at hopen

namespace ConfigScenario

/-- Everything compiled. -/
def everything : Features := ⟨true, true, true, true, true⟩

/-- A method in the wrong case. -/
def upperCase : AgentConfig :=
  { AgentConfig.default everything with auth := { AuthConfig.default with method := "TTL" } }

end ConfigScenario

open ConfigScenario in
theorem misspelt_method_dropped :
    ¬ AuthNotDropped everything (fun _ => none) upperCase := by
  intro h
  have hopen : upperCase.buildAuthProvider everything (fun _ => none) = .noAuth := by
    decide +kernel
  have hsilent : upperCase.validate everything =
      ["cloud_hypervisor.kernel and rootfs should be set for VM launch to work"] := by
    decide +kernel
  obtain ⟨w, hw, habout⟩ := h (by decide) hopen
  rw [hsilent] at hw
  rw [List.mem_singleton.mp hw] at habout
  exact absurd habout (by decide)

/-! ## Tables that are left out -/

/-- The tables that may be left out, or written empty. -/
inductive OmittedTable where
  | fabric
  | auth
  | authTtl
deriving DecidableEq, Repr

/-- The document with the table in it, empty, if it can be added. -/
def OmittedTable.add : OmittedTable → List (String × Toml) → Option (List (String × Toml))
  | fabric, doc =>
    if (doc.lookup "fabric").isNone then some (Entries.set "fabric" (.table []) doc) else none
  | auth, doc =>
    if (doc.lookup "auth").isNone then some (Entries.set "auth" (.table []) doc) else none
  | authTtl, doc =>
    match doc.lookup "auth" with
    | none => some (Entries.set "auth" (.table [("ttl", .table [])]) doc)
    | some (.table entries) =>
      if (entries.lookup "ttl").isNone then
        some (Entries.set "auth" (.table (Entries.set "ttl" (.table []) entries)) doc)
      else none
    | some _ => none

section Readers

variable {features : Features} {doc : List (String × Toml)} {config : AgentConfig}

/-- What `auth.ttl` is where it is written empty. -/
def TtlConfig.empty : TtlConfig := ⟨defaultTtlMin, defaultTtlMax⟩

theorem AuthConfig.ofFields_eq_some_iff {src : Fields String Toml} {auth : AuthConfig} :
    AuthConfig.ofFields src = some auth ↔ methodField.read 0 src = some auth.method ∧
      ttlField.read 1 src = some auth.ttl ∧ oauth2Field.read 2 src = some auth.oauth2 ∧
      sharedSecretField.read 3 src = some auth.sharedSecret := by
  unfold AuthConfig.ofFields
  simp only [Option.bind_eq_bind, Option.bind_eq_some_iff, Option.pure_def, Option.some.injEq]
  constructor
  · rintro ⟨method, hmethod, ttl, httl, oauth2, hoauth2, shared, hshared, rfl⟩
    exact ⟨hmethod, httl, hoauth2, hshared⟩
  · rintro ⟨hmethod, httl, hoauth2, hshared⟩
    exact ⟨_, hmethod, _, httl, _, hoauth2, _, hshared, rfl⟩

theorem AgentConfig.ofDocument_eq_some_iff :
    AgentConfig.ofDocument features doc = some config ↔
      nodeField.read 0 (.named doc) = some config.node ∧
      fabricField.read 1 (.named doc) = some config.fabric ∧
      authField.read 2 (.named doc) = some config.auth ∧
      readFeature features.vfio vfioField 3 (.named doc) = some config.vfio ∧
      readFeature features.cloudHypervisor cloudHypervisorField 4 (.named doc) =
        some config.cloudHypervisor := by
  unfold AgentConfig.ofDocument
  simp only [Option.bind_eq_bind, Option.bind_eq_some_iff, Option.pure_def, Option.some.injEq]
  constructor
  · rintro ⟨node, hnode, fabric, hfabric, auth, hauth, vfio, hvfio, ch, hch, rfl⟩
    exact ⟨hnode, hfabric, hauth, hvfio, hch⟩
  · rintro ⟨hnode, hfabric, hauth, hvfio, hch⟩
    exact ⟨_, hnode, _, hfabric, _, hauth, _, hvfio, _, hch, rfl⟩

theorem readFeature_congr {α : Type} {field : Field String Toml α} {position : ℕ}
    {src src' : Fields String Toml} (h : field.read position src = field.read position src')
    (compiled : Bool) : AgentConfig.readFeature compiled field position src =
      AgentConfig.readFeature compiled field position src' := by
  unfold AgentConfig.readFeature
  rw [h]

open AgentConfig in
/-- An empty table is as good as none, but for the node, which is a text, and for
`cloud-hypervisor`, whose fields have other defaults than the whole. -/
theorem ofDocument_add_empty {key : String} (habsent : doc.lookup key = none)
    (hnode : nodeField.key ≠ key) (hch : cloudHypervisorField.key ≠ key) :
    ofDocument features (Entries.set key (.table []) doc) = ofDocument features doc := by
  have hfabric : fabricField.EmptyIsMissing (.table []) := rfl
  have hauth : authField.EmptyIsMissing (.table []) := rfl
  have hvfio : vfioField.EmptyIsMissing (.table []) := rfl
  unfold ofDocument
  dsimp only
  rw [Field.read_set_of_ne hnode, Field.read_set_empty (fun _ => hfabric) 1 habsent,
    Field.read_set_empty (fun _ => hauth) 2 habsent,
    readFeature_congr (Field.read_set_empty (fun _ => hvfio) 3 habsent),
    readFeature_congr (Field.read_set_of_ne hch 4 _ _)]

/-- Another `auth`. -/
theorem ofDocument_set_auth (h : AgentConfig.ofDocument features doc = some config) {v : Toml}
    {auth : AuthConfig} (hv : AgentConfig.authField.decode v = some auth) :
    AgentConfig.ofDocument features (Entries.set "auth" v doc) =
      some { config with auth := auth } := by
  obtain ⟨hnode, hfabric, -, hvfio, hch⟩ := AgentConfig.ofDocument_eq_some_iff.mp h
  refine AgentConfig.ofDocument_eq_some_iff.mpr ⟨?_, ?_, ?_, ?_, ?_⟩
  · rwa [Field.read_set_of_ne (by decide)]
  · rwa [Field.read_set_of_ne (by decide)]
  · rw [Field.read_set, if_pos (by decide)]
    exact hv
  · rwa [readFeature_congr (Field.read_set_of_ne (by decide) 3 _ _)]
  · rwa [readFeature_congr (Field.read_set_of_ne (by decide) 4 _ _)]

/-- An `auth.ttl` that is written empty has other bounds than one that is left out. -/
theorem ofDocument_add_authTtl (h : AgentConfig.ofDocument features doc = some config)
    {doc' : List (String × Toml)} (hadd : OmittedTable.authTtl.add doc = some doc') :
    config.auth.ttl = .default ∧ AgentConfig.ofDocument features doc' =
      some { config with auth := { config.auth with ttl := .empty } } := by
  have hauth := (AgentConfig.ofDocument_eq_some_iff.mp h).2.2.1
  unfold Field.read at hauth
  dsimp only at hauth
  unfold OmittedTable.add at hadd
  dsimp only at hadd
  -- without `auth` the table is written with `ttl` alone; otherwise `ttl` is put into it
  split at hadd
  case h_1 habsent =>
    have hdefault : config.auth = .default := by
      rw [show AgentConfig.authField.key = "auth" from rfl, habsent] at hauth
      exact (Option.some.inj hauth).symm
    cases hadd
    rw [hdefault]
    exact ⟨rfl, ofDocument_set_auth h rfl⟩
  case h_2 entries htable =>
    rw [show AgentConfig.authField.key = "auth" from rfl, htable] at hauth
    split at hadd
    case isTrue hnone =>
      have habsent : entries.lookup AuthConfig.ttlField.key = none :=
        Option.isNone_iff_eq_none.mp hnone
      cases hadd
      obtain ⟨hmethod, httl, hoauth2, hshared⟩ := AuthConfig.ofFields_eq_some_iff.mp hauth
      refine ⟨?_, ofDocument_set_auth h ?_⟩
      · unfold Field.read at httl
        dsimp only at httl
        rw [habsent] at httl
        exact (Option.some.inj httl).symm
      · refine AuthConfig.ofFields_eq_some_iff.mpr ⟨?_, ?_, ?_, ?_⟩
        · rwa [Field.read_set_of_ne (by decide)]
        · rw [Field.read_set, if_pos (by decide)]
          rfl
        · rwa [Field.read_set_of_ne (by decide)]
        · rwa [Field.read_set_of_ne (by decide)]
    case isFalse => cases hadd
  case h_3 => cases hadd

/-- Every other table. -/
theorem ofDocument_add_of_ne {table : OmittedTable} {doc' : List (String × Toml)}
    (h : table = .authTtl → table.add doc = none) (hadd : table.add doc = some doc') :
    AgentConfig.ofDocument features doc' = AgentConfig.ofDocument features doc := by
  cases table with
  | fabric =>
    unfold OmittedTable.add at hadd
    dsimp only at hadd
    split at hadd
    case isTrue habsent =>
      cases hadd
      exact ofDocument_add_empty (Option.isNone_iff_eq_none.mp habsent) (by decide) (by decide)
    case isFalse => cases hadd
  | auth =>
    unfold OmittedTable.add at hadd
    dsimp only at hadd
    split at hadd
    case isTrue habsent =>
      cases hadd
      exact ofDocument_add_empty (Option.isNone_iff_eq_none.mp habsent) (by decide) (by decide)
    case isFalse => cases hadd
  | authTtl =>
    rw [h rfl] at hadd
    cases hadd

end Readers

theorem fromFile_document_iff {features : Features} {doc : List (String × Toml)}
    {config : AgentConfig} : AgentConfig.fromFile features (.document doc) = .ok config ↔
      AgentConfig.ofDocument features doc = some config := by
  unfold AgentConfig.fromFile
  dsimp only
  rcases AgentConfig.ofDocument features doc with _ | config'
  · simp
  · simp

/-- A missing file gives no node name, and an empty one the default. -/
theorem fromFile_empty (features : Features) :
    AgentConfig.fromFile features (.document []) =
      .ok { AgentConfig.default features with node := "local" } := by
  refine fromFile_document_iff.mpr (AgentConfig.ofDocument_eq_some_iff.mpr ⟨rfl, rfl, rfl, ?_, ?_⟩)
  · unfold AgentConfig.readFeature AgentConfig.default
    cases features.vfio
    · rfl
    · rfl
  · unfold AgentConfig.readFeature AgentConfig.default
    cases features.cloudHypervisor
    · rfl
    · rfl

theorem buildAuthProvider_of_not_ttl {features : Features} {readToString : String → Option String}
    {config : AgentConfig} (hmethod : config.auth.method = "ttl")
    (hfeature : ¬ features.authTtl) :
    config.buildAuthProvider features readToString = .noAuth := by
  unfold AgentConfig.buildAuthProvider
  rw [hmethod]
  exact if_neg hfeature

@[simp]
theorem BuiltProvider.authorize_ttlBound (debug : String → String) (bound : TtlBound) :
    ((BuiltProvider.ttlBound bound).provider debug).authorize = bound.authorize debug := rfl

/-- The providers allow the same requests. -/
def SameVerdicts (debug : String → String) (built built' : BuiltProvider) : Prop :=
  ∀ ctx request, (built.provider debug).authorize ctx request = .ok () ↔
    (built'.provider debug).authorize ctx request = .ok ()

/-- A lease for a minute is refused by the bounds of a `ttl` that is left out, and granted by
those of an empty one. -/
theorem not_sameVerdicts_of_ttl {features : Features} {readToString : String → Option String}
    {config : AgentConfig} (hmethod : config.auth.method = "ttl") (hfeature : features.authTtl)
    (httl : config.auth.ttl = .default) (debug : String → String) :
    ¬ SameVerdicts debug (config.buildAuthProvider features readToString)
      (AgentConfig.buildAuthProvider features readToString
        { config with auth := { config.auth with ttl := .empty } }) := by
  have hleft : config.buildAuthProvider features readToString =
      .ttlBound ⟨.fromSecs 0, .fromSecs 0⟩ := by
    unfold AgentConfig.buildAuthProvider
    rw [hmethod, httl]
    exact if_pos hfeature
  have hempty : AgentConfig.buildAuthProvider features readToString
      { config with auth := { config.auth with ttl := .empty } } =
        .ttlBound ⟨.fromSecs 1, .fromSecs 3600⟩ := by
    unfold AgentConfig.buildAuthProvider
    dsimp only
    rw [hmethod]
    exact if_pos hfeature
  -- the first range holds no lease but of no time at all, the second one of a minute
  intro hsame
  have hminute := (hsame ⟨"", ""⟩ (.leaseExclusive "" "" 60)).mpr
  rw [hleft, hempty, BuiltProvider.authorize_ttlBound, BuiltProvider.authorize_ttlBound] at hminute
  have hgranted : TtlBound.authorize debug ⟨.fromSecs 1, .fromSecs 3600⟩ ⟨"", ""⟩
      (.leaseExclusive "" "" 60) = .ok () := by
    unfold TtlBound.authorize
    dsimp only
    rw [if_neg (by decide +kernel), if_neg (by decide +kernel)]
  have hrefused : TtlBound.authorize debug ⟨.fromSecs 0, .fromSecs 0⟩ ⟨"", ""⟩
      (.leaseExclusive "" "" 60) ≠ .ok () := by
    intro hok
    have hbound := ttl_le_of_authorize debug _ _ _ _ _ hok
    exact absurd hbound (by decide +kernel)
  exact hrefused (hminute hgranted)

/-- Only an `auth.ttl` that is left out is not the same as an empty one. -/
theorem fromFile_add_iff {features : Features} {doc : List (String × Toml)} {config : AgentConfig}
    (h : AgentConfig.fromFile features (.document doc) = .ok config) (table : OmittedTable) :
    (∀ doc', table.add doc = some doc' →
        AgentConfig.fromFile features (.document doc') = .ok config) ↔
      (table = .authTtl → table.add doc = none) := by
  have haccepted := fromFile_document_iff.mp h
  constructor
  · rintro hsame rfl
    rw [Option.eq_none_iff_forall_ne_some]
    intro doc' hadd
    obtain ⟨httl, hchanged⟩ := ofDocument_add_authTtl haccepted hadd
    have hunchanged := fromFile_document_iff.mp (hsame doc' hadd)
    rw [hchanged] at hunchanged
    have hempty := congrArg (fun c => c.auth.ttl) (Option.some.inj hunchanged)
    dsimp only at hempty
    rw [httl] at hempty
    exact absurd hempty (by decide)
  · intro hnone doc' hadd
    rw [fromFile_document_iff, ofDocument_add_of_ne hnone hadd]
    exact haccepted

/-- The verdicts show it where the feature is compiled. -/
theorem sameVerdicts_add_iff {features : Features} (readToString : String → Option String)
    (debug : String → String) {doc : List (String × Toml)} {config : AgentConfig}
    (h : AgentConfig.fromFile features (.document doc) = .ok config)
    (hmethod : config.auth.method = "ttl") (table : OmittedTable) :
    (∀ doc' config', table.add doc = some doc' →
        AgentConfig.fromFile features (.document doc') = .ok config' →
          SameVerdicts debug (config.buildAuthProvider features readToString)
            (config'.buildAuthProvider features readToString)) ↔
      (features.authTtl → table = .authTtl → table.add doc = none) := by
  have haccepted := fromFile_document_iff.mp h
  constructor
  · rintro hsame hfeature rfl
    rw [Option.eq_none_iff_forall_ne_some]
    intro doc' hadd
    obtain ⟨httl, hchanged⟩ := ofDocument_add_authTtl haccepted hadd
    exact not_sameVerdicts_of_ttl hmethod hfeature httl debug
      (hsame doc' _ hadd (fromFile_document_iff.mpr hchanged))
  · intro hcondition doc' config' hadd hfile
    have hread := fromFile_document_iff.mp hfile
    by_cases hnone : table = .authTtl → table.add doc = none
    · rw [ofDocument_add_of_ne hnone hadd, haccepted] at hread
      rw [Option.some.inj hread]
      exact fun _ _ => Iff.rfl
    · -- the bounds differ, but the feature is off and nothing is bounded
      have hfeature : ¬ features.authTtl := fun hfeature => hnone (hcondition hfeature)
      obtain ⟨rfl, -⟩ := Classical.not_imp.mp hnone
      rw [(ofDocument_add_authTtl haccepted hadd).2] at hread
      have hmethod' : config'.auth.method = "ttl" := by
        rw [← Option.some.inj hread]
        exact hmethod
      rw [buildAuthProvider_of_not_ttl hmethod hfeature,
        buildAuthProvider_of_not_ttl hmethod' hfeature]
      exact fun _ _ => Iff.rfl

theorem fromFile_missing_ne (features : Features) :
    AgentConfig.fromFile features .missing ≠ AgentConfig.fromFile features (.document []) := by
  rw [fromFile_empty]
  intro hsame
  have hnode := congrArg AgentConfig.node (Except.ok.inj hsame)
  exact absurd hnode (by simp [AgentConfig.default])

/-- Of the tables, only an `auth.ttl` that is left out is not the same as an empty one; a
missing file is not the same as an empty one. -/
theorem omitted_tables_iff (features : Features) (readToString : String → Option String)
    (debug : String → String) {doc : List (String × Toml)} {config : AgentConfig}
    (h : AgentConfig.fromFile features (.document doc) = .ok config) :
    (∀ table : OmittedTable, (∀ doc', table.add doc = some doc' →
        AgentConfig.fromFile features (.document doc') = .ok config) ↔
      (table = .authTtl → table.add doc = none)) ∧
    (config.auth.method = "ttl" → ∀ table : OmittedTable,
      (∀ doc' config', table.add doc = some doc' →
        AgentConfig.fromFile features (.document doc') = .ok config' →
          SameVerdicts debug (config.buildAuthProvider features readToString)
            (config'.buildAuthProvider features readToString)) ↔
      (features.authTtl → table = .authTtl → table.add doc = none)) ∧
    AgentConfig.fromFile features .missing ≠ AgentConfig.fromFile features (.document []) := by
  refine ⟨fromFile_add_iff h, ?_, fromFile_missing_ne features⟩
  intro hmethod
  exact sameVerdicts_add_iff readToString debug h hmethod

namespace ConfigScenario

/-- A document that chooses `ttl` and gives no bounds. -/
def noBounds : List (String × Toml) := [("auth", .table [("method", .string "ttl")])]

/-- The same with an empty `auth.ttl`. -/
def emptyBounds : List (String × Toml) :=
  [("auth", .table [("method", .string "ttl"), ("ttl", .table [])])]

/-- What the first is read as. -/
def refusing : AgentConfig :=
  { AgentConfig.default everything with
    node := "local"
    auth := { AuthConfig.default with method := "ttl" } }

end ConfigScenario

open ConfigScenario in
theorem omitted_tables_iff_noBounds :
    AgentConfig.fromFile everything (.document noBounds) = .ok refusing ∧
    ¬ (∀ doc', OmittedTable.authTtl.add noBounds = some doc' →
      AgentConfig.fromFile everything (.document doc') = .ok refusing) ∧
    (∀ doc', OmittedTable.fabric.add noBounds = some doc' →
      AgentConfig.fromFile everything (.document doc') = .ok refusing) := by
  have haccepted : AgentConfig.fromFile everything (.document noBounds) = .ok refusing := by
    decide +kernel
  have htables := (omitted_tables_iff everything (fun _ => none) id haccepted).1
  refine ⟨haccepted, ?_, ?_⟩
  · intro hsame
    exact absurd ((htables .authTtl).mp hsame rfl) (by decide +kernel)
  · exact (htables .fabric).mpr (fun h => by cases h)

open ConfigScenario in
/-- Every lease is refused, and with an empty table one of a minute is granted. -/
theorem omitted_ttl_refuses :
    AgentConfig.fromFile everything (.document noBounds) = .ok refusing ∧
    OmittedTable.authTtl.add noBounds = some emptyBounds ∧
    ∃ granting, AgentConfig.fromFile everything (.document emptyBounds) = .ok granting ∧
      granting ≠ refusing ∧
      ¬ SameVerdicts id (refusing.buildAuthProvider everything (fun _ => none))
        (granting.buildAuthProvider everything (fun _ => none)) := by
  refine ⟨by decide +kernel, rfl,
    { refusing with auth := { refusing.auth with ttl := .empty } }, by decide +kernel,
    by decide +kernel, ?_⟩
  exact not_sameVerdicts_of_ttl rfl rfl rfl id

end NautiFabric
