import NautiFabric.Fabric.Types
import NautiFabric.Text

/-!
# NautiFabric.Vmm.CloudHypervisor — the Cloud Hypervisor adapter

`attach` turns a leased device with `vmm.*` attributes into a running VM,
`reconcile` tears down what the adapter manages. The `Launcher` and the
`NetProvisioner` are traits of the code and parameters here: functions on a
type `H` that stands for the host. A launcher may answer whatever it likes.

The managed table sits behind a mutex that nothing panics under, so it is a
plain table. `VmmState.events` is a history variable, newest first: the VMs
that were launched, the calls of `remove_vm`, and the no-op successes. No
function reads it.
-/

namespace NautiFabric

/-! ## The host -/

structure Launcher (H : Type) where
  /-- `std::any::type_name` of the launcher. -/
  typeName : String
  locateBinary : (configuredPath : String) → H → Option String
  launchVm : (binary : String) → (argv : List String) → H → Except String Unit × H
  removeVm : (apiSocket vmName : String) → H → Except String Unit × H
  /-- A probe may clean up: it clears the stale socket of a dead VM. -/
  vmIsRunning : (apiSocket : String) → H → Bool × H

structure NetProvisioner (H : Type) where
  provision : (attrs : StringMap String) → H → Except String Unit × H

/-! ## The adapter and its state -/

/-- What names a VM to the launcher. -/
structure VmId where
  apiSocket : String
  vmName : String
deriving DecidableEq, Repr

/-- The record of a VM that the adapter manages. -/
structure ManagedVm where
  resourceId : String
  apiSocket : String
  vmName : String
deriving DecidableEq, Repr

def ManagedVm.vm (entry : ManagedVm) : VmId := ⟨entry.apiSocket, entry.vmName⟩

/-- A successful `launch_vm`, with the resource and the lease of its `attach`. -/
structure Launched where
  resourceId : String
  vm : VmId
  leaseId : UInt64
deriving DecidableEq, Repr

/-- What the adapter reports to the history. -/
inductive VmmEvent where
  | launched (l : Launched)
  | removeCalled (vm : VmId) (ok : Bool)
  /-- the no-op success `attachment` on `vm` -/
  | reused (vm : VmId) (attachment : Attachment)
deriving DecidableEq

structure CloudHypervisor (H : Type) where
  binary : String
  launcher : Launcher H
  net : NetProvisioner H

/-- The adapter's table, the host it acts on, and the history. -/
structure VmmState (H : Type) where
  /-- resource id → the VM managed for it -/
  managed : StringMap ManagedVm
  host : H
  events : List VmmEvent

/-- A new adapter, which has done nothing. -/
def VmmState.Fresh {H : Type} (st : VmmState H) : Prop := st.managed = ∅ ∧ st.events = []

variable {H : Type}

def VmmState.emit (st : VmmState H) (event : VmmEvent) : VmmState H :=
  { st with events := event :: st.events }

def VmmState.recordManaged (st : VmmState H) (resource : Resource) (vm : VmId) : VmmState H :=
  { st with
      managed := st.managed.insert resource.id ⟨resource.id, vm.apiSocket, vm.vmName⟩ }

/-- The managed VM of a resource, when it has the given name. -/
def VmmState.managed? (st : VmmState H) (resourceId vmName : String) : Option ManagedVm :=
  (st.managed[resourceId]?).filter fun existing => existing.vmName == vmName

/-! ## The command line -/

def requireAttr (attrs : StringMap String) (key : String) : Except FabricError String :=
  match attrs[key]? with
  | none => .error (.missingResourceAttribute key)
  | some value => .ok value

/-- `attrs.get(key).is_some_and(|value| value == "on" || value == "true")`. -/
def isOn (attrs : StringMap String) (key : String) : Bool :=
  (attrs[key]?).any fun value => value == "on" || value == "true"

/-- A flag for each value of an optional attribute. -/
def optionalFlag (attrs : StringMap String) (key flag : String) (value : String → String) :
    List String :=
  match attrs[key]? with
  | none => []
  | some text => [flag, value text]

/-- The `--device` flags: one for each path that `vmm.device` lists. -/
def deviceFlags (attrs : StringMap String) : List String :=
  match attrs["vmm.device"]? with
  | none => []
  | some devices =>
    (((split ',' devices).map trim).filter fun device => !device.isEmpty).flatMap
      fun device => ["--device", "path=" ++ device]

/-- The argument list of `cloud-hypervisor` for a resource. -/
def buildArgv (resource : Resource) : Except FabricError (List String) := do
  let attrs := resource.attributes
  let apiSocket ← requireAttr attrs "vmm.api_socket"
  let kernel ← requireAttr attrs "vmm.kernel"
  let rootfs ← requireAttr attrs "vmm.rootfs"
  let vcpus := (attrs["vmm.vcpus"]?).getD "1"
  let memoryMib := (attrs["vmm.memory_mib"]?).getD "512"
  let needsShared := decide ("vmm.user_device" ∈ attrs) || decide ("vmm.fs" ∈ attrs) ||
    decide ("vmm.vsock" ∈ attrs) || isOn attrs "vmm.shared"
  let memory := "size=" ++ memoryMib ++ "M" ++ (if needsShared then ",shared=on" else "")
  let rngSrc := (attrs["vmm.rng_src"]?).getD "/dev/urandom"
  let deviceType := (attrs["vmm.user_device_type"]?).getD "rng"
  let queueSizes := (attrs["vmm.user_device_queue_sizes"]?).getD "1024"
  return [
      "--api-socket", "path=" ++ apiSocket,
      "--cpus", "boot=" ++ vcpus,
      "--memory", memory,
      "--kernel", kernel,
      "--disk", "path=" ++ rootfs,
      "--serial", "tty",
      "--console", "off",
      "--rng", "src=" ++ rngSrc ++ ",id=ch-builtin-rng"]
    ++ optionalFlag attrs "vmm.initramfs" "--initramfs" id
    ++ optionalFlag attrs "vmm.cmdline" "--cmdline" id
    ++ optionalFlag attrs "vmm.virtio_blk" "--disk" ("path=" ++ ·)
    ++ deviceFlags attrs
    ++ optionalFlag attrs "vmm.net" "--net" id
    ++ optionalFlag attrs "vmm.user_device" "--generic-vhost-user" (fun userDevice =>
        "device_type=" ++ deviceType ++ ",socket=" ++ userDevice ++ ",queue_sizes=" ++ queueSizes)
    ++ optionalFlag attrs "vmm.fs" "--fs" id
    ++ optionalFlag attrs "vmm.vsock" "--vsock" id
    ++ (if isOn attrs "vmm.watchdog" then ["--watchdog"] else [])

/-! ## Attach -/

namespace CloudHypervisor

/-- What the adapter is registered as. -/
def name : String := "cloud-hypervisor"

def detailMap (binary : String) (vm : VmId) (alreadyRunning : Bool) : StringMap String :=
  .ofList [("vmm.binary", binary), ("vmm.api_socket", vm.apiSocket), ("vmm.vm_name", vm.vmName),
    ("vmm.launched_by_adapter", toString (!alreadyRunning))]

/-- The checks at the top of `attach`: the binary to run and the VM to reach. -/
def resolve (ch : CloudHypervisor H) (resource : Resource) (host : H) :
    Except FabricError (String × VmId) := do
  if resource.kind ≠ .device then
    throw (.incompatibleResourceKind name .device resource.kind)
  match ch.launcher.locateBinary ch.binary host with
  | none =>
    throw (.adapterBackendUnavailable name
      ("cloud-hypervisor binary not found at " ++ ch.binary))
  | some binary =>
    let apiSocket ← requireAttr resource.attributes "vmm.api_socket"
    return (binary, ⟨apiSocket, (resource.attributes["vmm.vm_name"]?).getD resource.id⟩)

/-- Set up the tap that `vmm.net` names, if it names one. -/
def provisionNet (ch : CloudHypervisor H) (resource : Resource) (host : H) :
    Except String Unit × H :=
  if "vmm.net" ∈ resource.attributes then ch.net.provision resource.attributes host
  else (.ok (), host)

/-- The end of `attach`: provision the network, build the argv, launch. -/
def boot (ch : CloudHypervisor H) (resource : Resource) (binary : String) (host : H) :
    Except FabricError Unit × H :=
  match ch.provisionNet resource host with
  | (.error reason, host) => (.error (.adapterBackendUnavailable name reason), host)
  | (.ok (), host) =>
    match buildArgv resource with
    | .error e => (.error e, host)
    | .ok argv =>
      match ch.launcher.launchVm binary argv host with
      | (.error reason, host) => (.error (.adapterBackendUnavailable name reason), host)
      | (.ok (), host) => (.ok (), host)

/-- The attachment that a success returns. -/
def attachment (resource : Resource) (lease : Lease) (binary : String) (vm : VmId)
    (alreadyRunning : Bool) : Attachment :=
  ⟨resource.id, lease.id, name, detailMap binary vm alreadyRunning⟩

def attach (ch : CloudHypervisor H) (resource : Resource) (lease : Lease) (st : VmmState H) :
    Except FabricError Attachment × VmmState H :=
  match ch.resolve resource st.host with
  | .error e => (.error e, st)
  | .ok (binary, vm) =>
    let running := attachment resource lease binary vm true
    match st.managed? resource.id vm.vmName with
    -- already managed: taken to be a second attach under the same lease
    | some existing => (.ok running, st.emit (.reused existing.vm running))
    | none =>
      match ch.launcher.vmIsRunning vm.apiSocket st.host with
      -- running already: taken to be started by the operator, and managed from now on
      | (true, host) =>
        (.ok running, ({ st with host }.recordManaged resource vm).emit (.reused vm running))
      | (false, host) =>
        match ch.boot resource binary host with
        | (.error e, host) => (.error e, { st with host })
        | (.ok (), host) =>
          (.ok (attachment resource lease binary vm false),
            ({ st with host }.recordManaged resource vm).emit
              (.launched ⟨resource.id, vm, lease.id⟩))

/-! ## Reconcile -/

/-- One turn of the loop of `reconcile`: `remove_vm` is called with no lock
held, and the entry goes only when the VM went. -/
def removeEntry (ch : CloudHypervisor H) (entry : ManagedVm) (st : VmmState H) :
    Except String String × VmmState H :=
  match ch.launcher.removeVm entry.apiSocket entry.vmName st.host with
  | (.error reason, host) =>
    (.error reason, { st with host }.emit (.removeCalled entry.vm false))
  | (.ok (), host) =>
    (.ok entry.resourceId,
      { st with host, managed := st.managed.erase entry.resourceId }.emit
        (.removeCalled entry.vm true))

def removeEach (ch : CloudHypervisor H) :
    List ManagedVm → VmmState H → List (Except String String) × VmmState H
  | [], st => ([], st)
  | entry :: entries, st =>
    let (outcome, st) := ch.removeEntry entry st
    let (outcomes, st) := ch.removeEach entries st
    (outcome :: outcomes, st)

end CloudHypervisor

/-- The values of the managed table, in the order of the iteration. -/
def VmmState.entries (st : VmmState H) (order : IterOrder) : List ManagedVm :=
  (order.keys st.managed).filterMap (st.managed[·]?)

namespace CloudHypervisor

/-- Tear down the VMs that the table holds at the call. -/
def reconcile (ch : CloudHypervisor H) (order : IterOrder) (st : VmmState H) :
    List (Except String String) × VmmState H :=
  ch.removeEach (st.entries order) st

def capabilityReport (ch : CloudHypervisor H) (st : VmmState H) : AdapterReport where
  name := name
  scope := "vmm-runtime"
  healthy := (ch.launcher.locateBinary ch.binary st.host).isSome
  detail := .ofList [("vmm.binary", ch.binary), ("launcher", ch.launcher.typeName)]

/-- The adapter as the fabric sees it; `detach` is the default no-op. -/
def adapter (ch : CloudHypervisor H) : ResourceAdapter (VmmState H) where
  name := name
  attach := ch.attach
  detach := ResourceAdapter.defaultDetach
  capabilityReport := ch.capabilityReport

/-! ## What an attach does -/

theorem detailMap_launchedByAdapter (binary : String) (vm : VmId) (alreadyRunning : Bool) :
    (detailMap binary vm alreadyRunning)["vmm.launched_by_adapter"]? =
      some (toString (!alreadyRunning)) :=
  Std.ExtTreeMap.getElem?_ofList_of_mem (k := "vmm.launched_by_adapter") (by simp) (by simp)
    (by simp)

theorem detailMap_apiSocket (binary : String) (vm : VmId) (alreadyRunning : Bool) :
    (detailMap binary vm alreadyRunning)["vmm.api_socket"]? = some vm.apiSocket :=
  Std.ExtTreeMap.getElem?_ofList_of_mem (k := "vmm.api_socket") (by simp) (by simp) (by simp)

theorem attachment_apiSocket (resource : Resource) (lease : Lease) (binary : String) (vm : VmId)
    (alreadyRunning : Bool) :
    (attachment resource lease binary vm alreadyRunning).details["vmm.api_socket"]? =
      some vm.apiSocket :=
  detailMap_apiSocket binary vm alreadyRunning

/-- The socket that `attach` resolves is the one of the resource. -/
theorem apiSocket_of_resolve {ch : CloudHypervisor H} {resource : Resource} {host : H}
    {binary : String} {vm : VmId} (h : ch.resolve resource host = .ok (binary, vm)) :
    resource.attributes["vmm.api_socket"]? = some vm.apiSocket := by
  unfold resolve at h
  by_cases hkind : resource.kind ≠ .device
  · rw [if_pos hkind] at h
    cases h
  rw [if_neg hkind] at h
  dsimp only at h
  rcases hbinary : ch.launcher.locateBinary ch.binary host with _ | found
  · rw [hbinary] at h
    cases h
  rcases hattr : resource.attributes["vmm.api_socket"]? with _ | apiSocket
  · simp [hbinary, requireAttr, hattr, bind, Except.bind] at h
  · simp only [hbinary, requireAttr, hattr] at h
    cases h
    rfl

/-- The ways through `attach`. -/
inductive Branch where
  /-- it fails -/
  | refuse
  /-- its resource is managed under the same name -/
  | reuse (existing : ManagedVm)
  /-- a VM is running on its socket -/
  | adopt (vm : VmId)
  /-- it launches a VM -/
  | boot (vm : VmId)

/-- The way that the table and the launcher's answers lead to. -/
def branch (ch : CloudHypervisor H) (resource : Resource) (st : VmmState H) : Branch :=
  match ch.resolve resource st.host with
  | .error _ => .refuse
  | .ok (binary, vm) =>
    match st.managed? resource.id vm.vmName with
    | some existing => .reuse existing
    | none =>
      match ch.launcher.vmIsRunning vm.apiSocket st.host with
      | (true, _) => .adopt vm
      | (false, host) =>
        match (ch.boot resource binary host).1 with
        | .error _ => .refuse
        | .ok () => .boot vm

/-- Another VM, or none, is managed for the resource. -/
def Unmanaged (st : VmmState H) (resource : Resource) (vm : VmId) : Prop :=
  ∀ existing, st.managed[resource.id]? = some existing → existing.vmName ≠ vm.vmName

/-- Everything an `attach` can answer and do, by the way it takes. -/
inductive Attaches (resource : Resource) (lease : Lease) (st : VmmState H) :
    Branch → Except FabricError Attachment × VmmState H → Prop
  | refuse (e : FabricError) (host : H) :
      Attaches resource lease st .refuse (.error e, { st with host })
  | reuse {existing : ManagedVm} (binary : String) (vm : VmId)
      (hmanaged : st.managed[resource.id]? = some existing) (hname : existing.vmName = vm.vmName)
      (hsocket : resource.attributes["vmm.api_socket"]? = some vm.apiSocket) :
      Attaches resource lease st (.reuse existing)
        (.ok (attachment resource lease binary vm true),
          st.emit (.reused existing.vm (attachment resource lease binary vm true)))
  | adopt {vm : VmId} (binary : String) (host : H) (hother : Unmanaged st resource vm) :
      Attaches resource lease st (.adopt vm)
        (.ok (attachment resource lease binary vm true),
          ({ st with host }.recordManaged resource vm).emit
            (.reused vm (attachment resource lease binary vm true)))
  | boot {vm : VmId} (binary : String) (host : H) (hother : Unmanaged st resource vm) :
      Attaches resource lease st (.boot vm)
        (.ok (attachment resource lease binary vm false),
          ({ st with host }.recordManaged resource vm).emit
            (.launched ⟨resource.id, vm, lease.id⟩))

theorem managed?_eq_some {st : VmmState H} {resourceId vmName : String} {existing : ManagedVm} :
    st.managed? resourceId vmName = some existing ↔
      st.managed[resourceId]? = some existing ∧ existing.vmName = vmName := by
  simp [VmmState.managed?, Option.filter_eq_some_iff]

theorem unmanaged_of_managed? {st : VmmState H} {resource : Resource} {vm : VmId}
    (h : st.managed? resource.id vm.vmName = none) : Unmanaged st resource vm := by
  intro existing hexisting hname
  have hsome := managed?_eq_some.mpr ⟨hexisting, hname⟩
  simp [h] at hsome

theorem attach_attaches (ch : CloudHypervisor H) (resource : Resource) (lease : Lease)
    (st : VmmState H) :
    Attaches resource lease st (ch.branch resource st) (ch.attach resource lease st) := by
  unfold branch attach
  rcases hresolve : ch.resolve resource st.host with e | ⟨binary, vm⟩
  · exact .refuse e st.host
  dsimp only
  rcases hmanaged : st.managed? resource.id vm.vmName with _ | existing
  · have hother := unmanaged_of_managed? hmanaged
    dsimp only
    rcases ch.launcher.vmIsRunning vm.apiSocket st.host with ⟨_ | _, host⟩
    · dsimp only
      rcases ch.boot resource binary host with ⟨e | ⟨⟩, host'⟩
      · exact .refuse e host'
      · exact .boot binary host' hother
    · exact .adopt binary host hother
  · obtain ⟨hexisting, hname⟩ := managed?_eq_some.mp hmanaged
    exact .reuse binary vm hexisting hname (apiSocket_of_resolve hresolve)

/-- The no-op successes of the history are the ones that `attach` returns. -/
theorem attach_noop_iff (ch : CloudHypervisor H) {resource : Resource} {lease : Lease}
    {st : VmmState H} {reply : Attachment} (h : (ch.attach resource lease st).1 = .ok reply) :
    reply.details["vmm.launched_by_adapter"]? = some "false" ↔
      ∃ vm, (ch.attach resource lease st).2.events = .reused vm reply :: st.events := by
  have hrun := ch.attach_attaches resource lease st
  generalize ch.branch resource st = branch at hrun
  generalize ch.attach resource lease st = result at hrun h
  cases hrun with
  | refuse => cases h
  | @reuse existing binary vm =>
      obtain rfl := Except.ok.inj h
      exact iff_of_true (detailMap_launchedByAdapter binary vm true) ⟨existing.vm, rfl⟩
  | @adopt vm binary =>
      obtain rfl := Except.ok.inj h
      exact iff_of_true (detailMap_launchedByAdapter binary vm true) ⟨vm, rfl⟩
  | @boot vm binary =>
      obtain rfl := Except.ok.inj h
      refine iff_of_false ?_ (by simp [VmmState.emit])
      rw [attachment, detailMap_launchedByAdapter binary vm false]
      decide

end CloudHypervisor

/-! ## A concrete adapter -/

namespace Scenario

/-- A host on which every launch and removal works, and nothing is found running. -/
def hypervisor : CloudHypervisor Unit where
  binary := "/usr/bin/cloud-hypervisor"
  launcher :=
    { typeName := "Obliging"
      locateBinary := fun path _ => some path
      launchVm := fun _ _ host => (.ok (), host)
      removeVm := fun _ _ host => (.ok (), host)
      vmIsRunning := fun _ host => (false, host) }
  net := { provision := fun _ host => (.ok (), host) }

/-- The device `vm.0`, set up for a VM of the given name. -/
def vmDevice (vmName : String) : Resource where
  id := "vm.0"
  kind := .device
  capacity := 1
  unit := "vm"
  node := "local"
  state := .available
  exclusive := true
  attributes := .ofList [("vmm.api_socket", vmName ++ ".sock"), ("vmm.vm_name", vmName),
    ("vmm.kernel", "kernel"), ("vmm.rootfs", "rootfs")]

def newVmm : VmmState Unit := ⟨∅, (), []⟩

end Scenario

end NautiFabric
