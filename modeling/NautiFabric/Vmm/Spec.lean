import NautiFabric.Lib.Entries
import NautiFabric.Vmm.CloudHypervisor

/-!
# NautiFabric.Vmm.Spec — the launch command of a VM spec

A `VmResourceSpec` becomes the attributes of a resource, and these become the argument
list of `cloud-hypervisor`. `NormalSpec` is what of a spec a launch depends on; its
`argv` is a list of flags with a value each, and a `--watchdog` behind them.

The command is that of the normal form (`buildArgv_intoAttributes`), and the normal form
can be told from the command when the texts that stand between commas have none
(`NormalSpec.argv_inj`).
-/

namespace NautiFabric

open Entries

/-! ## Specs and their attributes -/

structure VmResourceSpec where
  apiSocket : String
  kernel : String
  rootfs : String
  vmName : Option String
  vcpus : Option String
  memoryMib : Option String
  virtioBlk : Option String
  net : Option String
  userDevice : Option String
  userDeviceType : Option String
  userDeviceQueueSizes : Option String
  fs : Option String
  vsock : Option String
  watchdog : Option String
  cmdline : Option String
  initramfs : Option String
  rngSrc : Option String
  shared : Option String
deriving DecidableEq

namespace VmResourceSpec

/-- The attributes of a spec, in the order in which they are inserted. -/
def entries (spec : VmResourceSpec) : List (String × Option String) :=
  [("vmm.api_socket", some spec.apiSocket),
    ("vmm.kernel", some spec.kernel),
    ("vmm.rootfs", some spec.rootfs),
    ("vmm.vm_name", spec.vmName),
    ("vmm.vcpus", spec.vcpus),
    ("vmm.memory_mib", spec.memoryMib),
    ("vmm.virtio_blk", spec.virtioBlk),
    ("vmm.net", spec.net),
    ("vmm.user_device", spec.userDevice),
    ("vmm.user_device_type", spec.userDeviceType),
    ("vmm.user_device_queue_sizes", spec.userDeviceQueueSizes),
    ("vmm.fs", spec.fs),
    ("vmm.vsock", spec.vsock),
    ("vmm.watchdog", spec.watchdog),
    ("vmm.cmdline", spec.cmdline),
    ("vmm.initramfs", spec.initramfs),
    ("vmm.rng_src", spec.rngSrc),
    ("vmm.shared", spec.shared)]

def intoAttributes (spec : VmResourceSpec) : StringMap String :=
  spec.entries.foldl insertSome ∅

theorem nodup_entries (spec : VmResourceSpec) : (spec.entries.map Prod.fst).Nodup := by
  have hkeys : spec.entries.map Prod.fst = ["vmm.api_socket", "vmm.kernel", "vmm.rootfs",
      "vmm.vm_name", "vmm.vcpus", "vmm.memory_mib", "vmm.virtio_blk", "vmm.net",
      "vmm.user_device", "vmm.user_device_type", "vmm.user_device_queue_sizes", "vmm.fs",
      "vmm.vsock", "vmm.watchdog", "vmm.cmdline", "vmm.initramfs", "vmm.rng_src",
      "vmm.shared"] := rfl
  rw [hkeys]
  decide +kernel

theorem getElem?_intoAttributes (spec : VmResourceSpec) (key : String) :
    spec.intoAttributes[key]? = (spec.entries.lookup key).join := by
  unfold intoAttributes
  rw [getElem?_insertPresent spec.nodup_entries]
  simp

end VmResourceSpec

/-! ## Normal forms -/

/-- A vhost-user device. -/
structure VhostUser where
  socket : String
  deviceType : String
  queueSizes : String
deriving DecidableEq

/-- What of a spec a launch depends on. -/
structure NormalSpec where
  apiSocket : String
  kernel : String
  rootfs : String
  vcpus : String
  memoryMib : String
  virtioBlk : Option String
  net : Option String
  userDevice : Option VhostUser
  fs : Option String
  vsock : Option String
  watchdog : Bool
  cmdline : Option String
  initramfs : Option String
  rngSrc : String
  shared : Bool
deriving DecidableEq

/-- Whether a switch is set, to `on` or to `true`. -/
def switchedOn (value : Option String) : Bool := value.any fun v => v == "on" || v == "true"

def VmResourceSpec.normal (spec : VmResourceSpec) : NormalSpec where
  apiSocket := spec.apiSocket
  kernel := spec.kernel
  rootfs := spec.rootfs
  vcpus := spec.vcpus.getD "1"
  memoryMib := spec.memoryMib.getD "512"
  virtioBlk := spec.virtioBlk
  net := spec.net
  userDevice := spec.userDevice.map fun socket =>
    { socket := socket
      deviceType := spec.userDeviceType.getD "rng"
      queueSizes := spec.userDeviceQueueSizes.getD "1024" }
  fs := spec.fs
  vsock := spec.vsock
  watchdog := switchedOn spec.watchdog
  cmdline := spec.cmdline
  initramfs := spec.initramfs
  rngSrc := spec.rngSrc.getD "/dev/urandom"
  shared := spec.userDevice.isSome || spec.fs.isSome || spec.vsock.isSome || switchedOn spec.shared

/-- The value of `--generic-vhost-user`. -/
def VhostUser.text (device : VhostUser) : String :=
  "device_type=" ++ device.deviceType ++ ",socket=" ++ device.socket ++
    ",queue_sizes=" ++ device.queueSizes

namespace NormalSpec

/-- The value of `--memory`. -/
def memory (spec : NormalSpec) : String :=
  "size=" ++ spec.memoryMib ++ "M" ++ (if spec.shared then ",shared=on" else "")

def required (spec : NormalSpec) : List (String × String) :=
  [("--api-socket", "path=" ++ spec.apiSocket),
    ("--cpus", "boot=" ++ spec.vcpus),
    ("--memory", spec.memory),
    ("--kernel", spec.kernel),
    ("--disk", "path=" ++ spec.rootfs),
    ("--serial", "tty"),
    ("--console", "off"),
    ("--rng", "src=" ++ spec.rngSrc ++ ",id=ch-builtin-rng")]

def optional (spec : NormalSpec) : List (String × Option String) :=
  [("--initramfs", spec.initramfs),
    ("--cmdline", spec.cmdline),
    ("--disk", spec.virtioBlk.map ("path=" ++ ·)),
    ("--net", spec.net),
    ("--generic-vhost-user", spec.userDevice.map VhostUser.text),
    ("--fs", spec.fs),
    ("--vsock", spec.vsock)]

/-- The flags of a command, with their values. -/
def pairs (spec : NormalSpec) : List (String × String) := spec.required ++ present spec.optional

def watchdogFlag (spec : NormalSpec) : List String := if spec.watchdog then ["--watchdog"] else []

def argv (spec : NormalSpec) : List String := words spec.pairs ++ spec.watchdogFlag

end NormalSpec

/-- The command, option by option. -/
theorem NormalSpec.argv_eq (spec : NormalSpec) : spec.argv =
    words spec.required ++ words (present [("--initramfs", spec.initramfs)]) ++
      words (present [("--cmdline", spec.cmdline)]) ++
      words (present [("--disk", spec.virtioBlk.map ("path=" ++ ·))]) ++
      words (present [("--net", spec.net)]) ++
      words (present [("--generic-vhost-user", spec.userDevice.map VhostUser.text)]) ++
      words (present [("--fs", spec.fs)]) ++ words (present [("--vsock", spec.vsock)]) ++
      spec.watchdogFlag := by
  unfold argv pairs optional
  simp only [present_cons_cons, words_append, List.append_assoc]

/-! ## The command of a spec -/

section Command

variable {attrs : StringMap String} {key : String} {value : Option String}

theorem optionalFlag_eq (h : attrs[key]? = value) (flag : String) (text : String → String) :
    optionalFlag attrs key flag text = words (present [(flag, value.map text)]) := by
  unfold optionalFlag
  rw [h]
  rcases value with _ | value
  · rfl
  · rfl

theorem isOn_eq (h : attrs[key]? = value) : isOn attrs key = switchedOn value := by
  unfold isOn
  rw [h]
  rfl

theorem decide_mem_eq (h : attrs[key]? = value) : decide (key ∈ attrs) = value.isSome := by
  rw [← h]
  simp only [Std.ExtTreeMap.mem_iff_isSome_getElem?, Bool.decide_eq_true]

end Command

theorem buildArgv_intoAttributes (spec : VmResourceSpec) (resource : Resource) :
    buildArgv { resource with attributes := spec.intoAttributes } = .ok spec.normal.argv := by
  -- every attribute that is read was written from its own field, `vmm.device` from none
  have hlookup := spec.getElem?_intoAttributes
  have hsocket : spec.intoAttributes["vmm.api_socket"]? = some spec.apiSocket := hlookup _
  have hkernel : spec.intoAttributes["vmm.kernel"]? = some spec.kernel := hlookup _
  have hrootfs : spec.intoAttributes["vmm.rootfs"]? = some spec.rootfs := hlookup _
  have hvcpus : spec.intoAttributes["vmm.vcpus"]? = spec.vcpus := hlookup _
  have hmemory : spec.intoAttributes["vmm.memory_mib"]? = spec.memoryMib := hlookup _
  have hblk : spec.intoAttributes["vmm.virtio_blk"]? = spec.virtioBlk := hlookup _
  have hdevice : spec.intoAttributes["vmm.device"]? = none := hlookup _
  have hnet : spec.intoAttributes["vmm.net"]? = spec.net := hlookup _
  have huser : spec.intoAttributes["vmm.user_device"]? = spec.userDevice := hlookup _
  have htype : spec.intoAttributes["vmm.user_device_type"]? = spec.userDeviceType := hlookup _
  have hqueues : spec.intoAttributes["vmm.user_device_queue_sizes"]? =
      spec.userDeviceQueueSizes := hlookup _
  have hfs : spec.intoAttributes["vmm.fs"]? = spec.fs := hlookup _
  have hvsock : spec.intoAttributes["vmm.vsock"]? = spec.vsock := hlookup _
  have hwatchdog : spec.intoAttributes["vmm.watchdog"]? = spec.watchdog := hlookup _
  have hcmdline : spec.intoAttributes["vmm.cmdline"]? = spec.cmdline := hlookup _
  have hinitramfs : spec.intoAttributes["vmm.initramfs"]? = spec.initramfs := hlookup _
  have hrng : spec.intoAttributes["vmm.rng_src"]? = spec.rngSrc := hlookup _
  have hshared : spec.intoAttributes["vmm.shared"]? = spec.shared := hlookup _
  unfold buildArgv deviceFlags
  simp only [requireAttr, hsocket, hkernel, hrootfs, hvcpus, hmemory, hdevice, htype, hqueues,
    hrng, optionalFlag_eq hinitramfs, optionalFlag_eq hcmdline, optionalFlag_eq hblk,
    optionalFlag_eq hnet, optionalFlag_eq huser, optionalFlag_eq hfs, optionalFlag_eq hvsock,
    isOn_eq hshared, isOn_eq hwatchdog, decide_mem_eq huser, decide_mem_eq hfs,
    decide_mem_eq hvsock]
  simp only [Option.map_id_fun, id_eq, List.append_nil]
  have hvhost : (spec.normal.userDevice.map VhostUser.text) = spec.userDevice.map fun userDevice =>
      "device_type=" ++ spec.userDeviceType.getD "rng" ++ ",socket=" ++ userDevice ++
        ",queue_sizes=" ++ spec.userDeviceQueueSizes.getD "1024" := Option.map_map _ _ _
  rw [spec.normal.argv_eq, hvhost]
  rfl

/-! ## Reading the command back -/

theorem append_comma_inj {a b c d : String} (ha : ',' ∉ a.toList) (hb : ',' ∉ b.toList)
    (h : a ++ ("," ++ c) = b ++ ("," ++ d)) : a = b ∧ c = d := by
  have hchars := congrArg String.toList h
  simp only [String.toList_append] at hchars
  obtain ⟨hbefore, hafter⟩ := append_cons_inj ha hb hchars
  exact ⟨String.toList_injective hbefore, String.toList_injective hafter⟩

/-- The texts of a device that others follow have no comma. -/
def VhostUser.CommaFree (device : VhostUser) : Prop :=
  ',' ∉ device.deviceType.toList ∧ ',' ∉ device.socket.toList

theorem VhostUser.text_inj {device device' : VhostUser} (h : device.CommaFree)
    (h' : device'.CommaFree) (htext : device.text = device'.text) : device = device' := by
  obtain ⟨socket, deviceType, queueSizes⟩ := device
  obtain ⟨socket', deviceType', queueSizes'⟩ := device'
  have hsocket : ",socket=" = "," ++ "socket=" := by decide
  have hqueues : ",queue_sizes=" = "," ++ "queue_sizes=" := by decide
  unfold VhostUser.text at htext
  rw [hsocket, hqueues] at htext
  simp only [String.append_assoc, String.append_right_inj] at htext
  obtain ⟨hdeviceType, hfirst⟩ := append_comma_inj h.1 h'.1 htext
  rw [String.append_right_inj] at hfirst
  obtain ⟨hsame, hsecond⟩ := append_comma_inj h.2 h'.2 hfirst
  rw [String.append_right_inj] at hsecond
  dsimp only at hdeviceType hsame
  rw [hdeviceType, hsame, hsecond]

namespace NormalSpec

theorem memory_inj {spec spec' : NormalSpec} (h : spec.memory = spec'.memory) :
    spec.memoryMib = spec'.memoryMib ∧ spec.shared = spec'.shared := by
  have hlast : ∀ spec : NormalSpec, spec.memory.toList.getLast? =
      some (if spec.shared then 'n' else 'M') := by
    intro spec
    unfold memory
    rw [String.toList_append, List.getLast?_append, String.toList_append, List.getLast?_append]
    rcases spec.shared with _ | _
    · rfl
    · rfl
  have hshared : spec.shared = spec'.shared := by
    have hsame := hlast spec
    rw [h, hlast spec', Option.some_inj] at hsame
    rcases hleft : spec.shared with _ | _
    · rcases hright : spec'.shared with _ | _
      · rfl
      · simp [hleft, hright] at hsame
    · rcases hright : spec'.shared with _ | _
      · simp [hleft, hright] at hsame
      · rfl
  refine ⟨?_, hshared⟩
  unfold memory at h
  rw [hshared, String.append_left_inj, String.append_left_inj, String.append_right_inj] at h
  exact h

/-- A command comes from one normal form. -/
theorem argv_inj {spec spec' : NormalSpec}
    (h : ∀ device, spec.userDevice = some device → device.CommaFree)
    (h' : ∀ device, spec'.userDevice = some device → device.CommaFree)
    (hargv : spec.argv = spec'.argv) : spec = spec' := by
  have hshort : ∀ spec : NormalSpec, spec.watchdogFlag.length ≤ 1 := by
    intro spec
    unfold watchdogFlag
    split
    · exact Nat.le_refl 1
    · exact Nat.zero_le 1
  -- the words come in pairs of a flag and a value, but for the watchdog flag at the end
  obtain ⟨hpairs, hflag⟩ := words_append_inj (hshort spec) (hshort spec') hargv
  obtain ⟨hrequired, hpresent⟩ := List.append_inj hpairs rfl
  have hnodup : (spec.optional.map Prod.fst).Nodup := by
    have hflags : spec.optional.map Prod.fst = ["--initramfs", "--cmdline", "--disk", "--net",
      "--generic-vhost-user", "--fs", "--vsock"] := rfl
    rw [hflags]
    decide +kernel
  have hoptional : spec.optional = spec'.optional := present_inj rfl hnodup hpresent
  have hwatchdog : spec.watchdog = spec'.watchdog := by
    rcases hleft : spec.watchdog with _ | _
    · rcases hright : spec'.watchdog with _ | _
      · rfl
      · simp [watchdogFlag, hleft, hright] at hflag
    · rcases hright : spec'.watchdog with _ | _
      · simp [watchdogFlag, hleft, hright] at hflag
      · rfl
  -- flag by flag, the values are the same
  simp only [required, List.cons.injEq, Prod.mk.injEq, true_and, and_true, String.append_right_inj,
    String.append_left_inj] at hrequired
  obtain ⟨hsocket, hvcpus, hmemory, hkernel, hrootfs, hrng⟩ := hrequired
  simp only [optional, List.cons.injEq, Prod.mk.injEq, true_and, and_true] at hoptional
  obtain ⟨hinitramfs, hcmdline, hblk, hnet, huser, hfs, hvsock⟩ := hoptional
  -- a user device is written with commas in between, so its parts must have none
  have hdevice : spec.userDevice = spec'.userDevice := by
    rcases hleft : spec.userDevice with _ | device
    · rw [hleft] at huser
      exact (Option.map_eq_none_iff.mp huser.symm).symm
    · rw [hleft, Option.map_some] at huser
      obtain ⟨device', hright, htext⟩ := Option.map_eq_some_iff.mp huser.symm
      rw [hright, VhostUser.text_inj (h device hleft) (h' device' hright) htext.symm]
  have hdisk : spec.virtioBlk = spec'.virtioBlk :=
    Option.map_injective (fun _ _ => (String.append_right_inj _).mp) hblk
  obtain ⟨hmemoryMib, hshared⟩ := memory_inj hmemory
  cases spec
  cases spec'
  dsimp only at *
  subst_vars
  rfl

/-- The flags of a command: which they are depends on which options are set. -/
def flags (spec : NormalSpec) : List String :=
  ["--api-socket", "--cpus", "--memory", "--kernel", "--disk", "--serial", "--console", "--rng"] ++
    ([("--initramfs", spec.initramfs.isSome), ("--cmdline", spec.cmdline.isSome),
      ("--disk", spec.virtioBlk.isSome), ("--net", spec.net.isSome),
      ("--generic-vhost-user", spec.userDevice.isSome), ("--fs", spec.fs.isSome),
      ("--vsock", spec.vsock.isSome)].filter Prod.snd).map Prod.fst

theorem flags_pairs (spec : NormalSpec) : spec.pairs.map Prod.fst = spec.flags := by
  unfold pairs flags
  rw [List.map_append, keys_present]
  simp only [optional, List.map_cons, List.map_nil, Option.isSome_map]
  rfl

/-- The memory is said once, and shared as the spec wants it. -/
theorem memory_pairs {spec : NormalSpec} {memory : String} (h : ("--memory", memory) ∈ spec.pairs) :
    ",shared=on".toList <:+ memory.toList ↔ spec.shared = true := by
  have hmemory : memory = spec.memory := by
    rcases List.mem_append.mp h with hmem | hmem
    · simpa [required] using hmem
    · have hkey := mem_keys_of_present hmem
      simp [optional] at hkey
  rw [hmemory]
  unfold NormalSpec.memory
  rw [String.toList_append]
  rcases spec.shared with _ | _
  · refine iff_of_false ?_ (by simp)
    rintro ⟨before, hbefore⟩
    have hlast := congrArg List.getLast? hbefore
    rw [String.toList_append, List.getLast?_append, List.getLast?_append,
      List.getLast?_append] at hlast
    have hend : some 'n' = some 'M' := hlast
    cases hend
  · exact iff_of_true (List.suffix_append _ _) rfl

end NormalSpec

/-! ## The launch command is faithful -/

/-- No comma in the texts that stand in a list of options. -/
def VmResourceSpec.CommaFree (spec : VmResourceSpec) : Prop :=
  ∀ text, (spec.memoryMib = some text ∨ spec.userDevice = some text ∨
    spec.userDeviceType = some text ∨ spec.userDeviceQueueSizes = some text) → ',' ∉ text.toList

theorem VmResourceSpec.CommaFree.device {spec : VmResourceSpec} (h : spec.CommaFree) :
    ∀ device, spec.normal.userDevice = some device → device.CommaFree := by
  intro device hdevice
  obtain ⟨socket, hsocket, rfl⟩ := Option.map_eq_some_iff.mp hdevice
  constructor
  · dsimp only
    rcases htype : spec.userDeviceType with _ | deviceType
    · decide
    · exact h deviceType (Or.inr (Or.inr (Or.inl htype)))
  · exact h socket (Or.inr (Or.inl hsocket))

/-- Two specs have the same command exactly when they have the same normal form. A
command is a list of flags with their values and at most a `--watchdog`; the flags
depend on which options are set only, and the memory is shared as the spec wants it. -/
theorem buildArgv_faithful (resource resource' : Resource) :
    (∀ spec spec' : VmResourceSpec, spec.CommaFree → spec'.CommaFree →
      (buildArgv { resource with attributes := spec.intoAttributes } =
          buildArgv { resource' with attributes := spec'.intoAttributes } ↔
        spec.normal = spec'.normal)) ∧
    ∀ spec : VmResourceSpec, ∃ pairs : List (String × String),
      buildArgv { resource with attributes := spec.intoAttributes } =
        .ok (words pairs ++ if spec.normal.watchdog then ["--watchdog"] else []) ∧
      pairs.map Prod.fst = spec.normal.flags ∧
      (∃ memory, ("--memory", memory) ∈ pairs) ∧
      ∀ memory, ("--memory", memory) ∈ pairs →
        (",shared=on".toList <:+ memory.toList ↔ spec.normal.shared = true) := by
  constructor
  · intro spec spec' hspec hspec'
    rw [buildArgv_intoAttributes, buildArgv_intoAttributes]
    constructor
    · intro h
      exact NormalSpec.argv_inj hspec.device hspec'.device (Except.ok.inj h)
    · intro h
      rw [h]
  · intro spec
    refine ⟨spec.normal.pairs, buildArgv_intoAttributes spec resource, spec.normal.flags_pairs,
      ⟨spec.normal.memory, ?_⟩, fun memory hmemory => NormalSpec.memory_pairs hmemory⟩
    apply List.mem_append_left
    simp [NormalSpec.required]

namespace Scenario

/-- A VM with a shared file system and a watchdog. -/
def sharedSpec (watchdog : String) : VmResourceSpec where
  apiSocket := "vm.sock"
  kernel := "kernel"
  rootfs := "rootfs"
  vmName := some "vm"
  vcpus := none
  memoryMib := some "2048"
  virtioBlk := none
  net := none
  userDevice := none
  userDeviceType := some "4"
  userDeviceQueueSizes := none
  fs := some "tag=store,socket=fs.sock"
  vsock := none
  watchdog := some watchdog
  cmdline := none
  initramfs := none
  rngSrc := none
  shared := none

theorem sharedSpec_commaFree (watchdog : String) : (sharedSpec watchdog).CommaFree := by
  rintro text (h | h | h | h)
  · obtain rfl := Option.some.inj h
    decide
  · cases h
  · obtain rfl := Option.some.inj h
    decide
  · cases h

end Scenario

open Scenario in
/-- `on` and `true` are the same, another text is not. -/
theorem buildArgv_faithful_watchdog :
    (buildArgv { vmDevice "vm" with attributes := (sharedSpec "on").intoAttributes } =
        buildArgv { vmDevice "vm" with attributes := (sharedSpec "true").intoAttributes } ↔
      (sharedSpec "on").normal = (sharedSpec "true").normal) ∧
    (buildArgv { vmDevice "vm" with attributes := (sharedSpec "on").intoAttributes } =
        buildArgv { vmDevice "vm" with attributes := (sharedSpec "yes").intoAttributes } ↔
      (sharedSpec "on").normal = (sharedSpec "yes").normal) ∧
    (sharedSpec "on").normal = (sharedSpec "true").normal ∧
    (sharedSpec "on").normal ≠ (sharedSpec "yes").normal :=
  ⟨(buildArgv_faithful (vmDevice "vm") (vmDevice "vm")).1 _ _ (sharedSpec_commaFree _)
      (sharedSpec_commaFree _),
    (buildArgv_faithful (vmDevice "vm") (vmDevice "vm")).1 _ _ (sharedSpec_commaFree _)
      (sharedSpec_commaFree _), by decide, by decide⟩

end NautiFabric
