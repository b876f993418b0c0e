import NautiFabric.Vmm.CloudHypervisor

/-!
# NautiFabric.Vmm.Doomed — attaches that lack an attribute

`recording` is an adapter whose host also keeps a list of what is done to it, newest
first; it answers what the adapter answers (`recording_attach`). With it an `attach`
can be asked whether it touched the host.

The socket of the API is asked for before anything is done, the kernel and the root
file system only when the command line is built, behind the provisioning of the
network: `ProvisionsDoomed` says when that makes a difference.
-/

namespace NautiFabric

variable {H : Type}

/-! ## Recording -/

/-- What an `attach` does to the host. -/
inductive HostCall where
  | provision (attrs : StringMap String)
  | launchVm (binary : String) (argv : List String)
deriving DecidableEq

/-- A host and what was done to it, newest first. -/
abbrev Recorded (H : Type) := H × List HostCall

def Launcher.recording (launcher : Launcher H) : Launcher (Recorded H) where
  typeName := launcher.typeName
  locateBinary := fun configuredPath (host, _) => launcher.locateBinary configuredPath host
  launchVm := fun binary argv (host, calls) =>
    let (reply, host) := launcher.launchVm binary argv host
    (reply, host, .launchVm binary argv :: calls)
  removeVm := fun apiSocket vmName (host, calls) =>
    let (reply, host) := launcher.removeVm apiSocket vmName host
    (reply, host, calls)
  vmIsRunning := fun apiSocket (host, calls) =>
    let (running, host) := launcher.vmIsRunning apiSocket host
    (running, host, calls)

def NetProvisioner.recording (net : NetProvisioner H) : NetProvisioner (Recorded H) where
  provision := fun attrs (host, calls) =>
    let (reply, host) := net.provision attrs host
    (reply, host, .provision attrs :: calls)

/-- The state with a record of some calls. -/
def VmmState.record (st : VmmState H) (calls : List HostCall) : VmmState (Recorded H) where
  managed := st.managed
  host := (st.host, calls)
  events := st.events

namespace CloudHypervisor

def recording (ch : CloudHypervisor H) : CloudHypervisor (Recorded H) where
  binary := ch.binary
  launcher := ch.launcher.recording
  net := ch.net.recording

/-- The call that sets up the network, if there is one. -/
def provisionCalls (resource : Resource) : List HostCall :=
  if "vmm.net" ∈ resource.attributes then [.provision resource.attributes] else []

/-- The calls of a boot. -/
def bootCalls (ch : CloudHypervisor H) (resource : Resource) (binary : String) (host : H) :
    List HostCall :=
  match ch.provisionNet resource host with
  | (.error _, _) => provisionCalls resource
  | (.ok (), _) =>
    match buildArgv resource with
    | .error _ => provisionCalls resource
    | .ok argv => .launchVm binary argv :: provisionCalls resource

/-- The calls of an `attach`. -/
def attachCalls (ch : CloudHypervisor H) (resource : Resource) (st : VmmState H) :
    List HostCall :=
  match ch.resolve resource st.host with
  | .error _ => []
  | .ok (binary, vm) =>
    match st.managed? resource.id vm.vmName with
    | some _ => []
    | none =>
      match ch.launcher.vmIsRunning vm.apiSocket st.host with
      | (true, _) => []
      | (false, host) => ch.bootCalls resource binary host

variable (ch : CloudHypervisor H) (resource : Resource) (lease : Lease) (binary : String)

theorem recording_provisionNet (host : H) (calls : List HostCall) :
    ch.recording.provisionNet resource (host, calls) =
      ((ch.provisionNet resource host).1, (ch.provisionNet resource host).2,
        provisionCalls resource ++ calls) := by
  unfold provisionNet provisionCalls
  by_cases hnet : "vmm.net" ∈ resource.attributes
  · rw [if_pos hnet, if_pos hnet, if_pos hnet]
    rfl
  · rw [if_neg hnet, if_neg hnet, if_neg hnet]
    rfl

theorem recording_boot (host : H) (calls : List HostCall) :
    ch.recording.boot resource binary (host, calls) =
      ((ch.boot resource binary host).1, (ch.boot resource binary host).2,
        ch.bootCalls resource binary host ++ calls) := by
  unfold boot bootCalls
  rw [recording_provisionNet]
  rcases ch.provisionNet resource host with ⟨reason | ⟨⟩, host₁⟩
  · rfl
  dsimp only
  rcases buildArgv resource with e | argv
  · rfl
  have hlaunch : ch.recording.launcher.launchVm binary argv
      (host₁, provisionCalls resource ++ calls) =
        ((ch.launcher.launchVm binary argv host₁).1, (ch.launcher.launchVm binary argv host₁).2,
          .launchVm binary argv :: (provisionCalls resource ++ calls)) := rfl
  dsimp only
  rw [hlaunch]
  rcases ch.launcher.launchVm binary argv host₁ with ⟨reason | ⟨⟩, host₂⟩
  · rfl
  · rfl

/-- Recording changes no answer and no effect. -/
theorem recording_attach (st : VmmState H) :
    ch.recording.attach resource lease (st.record []) =
      ((ch.attach resource lease st).1,
        (ch.attach resource lease st).2.record (ch.attachCalls resource st)) := by
  have hresolve : ch.recording.resolve resource (st.record []).host =
      ch.resolve resource st.host := rfl
  unfold attach attachCalls
  rw [hresolve]
  rcases ch.resolve resource st.host with e | ⟨binary, vm⟩
  · rfl
  have hmanaged : (st.record []).managed? resource.id vm.vmName =
      st.managed? resource.id vm.vmName := rfl
  dsimp only
  rw [hmanaged]
  rcases st.managed? resource.id vm.vmName with _ | existing
  -- a managed VM is not looked at again, so nothing is recorded
  swap
  · rfl
  have hrunning : ch.recording.launcher.vmIsRunning vm.apiSocket (st.record []).host =
      ((ch.launcher.vmIsRunning vm.apiSocket st.host).1,
        (ch.launcher.vmIsRunning vm.apiSocket st.host).2, []) := rfl
  dsimp only
  rw [hrunning]
  rcases ch.launcher.vmIsRunning vm.apiSocket st.host with ⟨_ | _, host⟩
  · dsimp only
    rw [recording_boot, List.append_nil]
    rcases ch.boot resource binary host with ⟨e | ⟨⟩, host'⟩
    · rfl
    · rfl
  · rfl

/-! ## Attaches that fail for an attribute -/

/-- An `attach` that fails for a missing attribute has called neither the network nor
the launcher, and leaves the table as it was. -/
def TouchesNothing (st : VmmState H) : Prop :=
  ∀ key, (ch.recording.attach resource lease (st.record [])).1 =
      .error (.missingResourceAttribute key) →
    (ch.recording.attach resource lease (st.record [])).2.host.2 = [] ∧
      (ch.recording.attach resource lease (st.record [])).2.managed = st.managed

/-- The network is set up for a VM without a kernel or without a root file system: the
device, its binary and its socket are there, no VM is managed or running for it, and
the network can be set up. -/
def ProvisionsDoomed (st : VmmState H) : Prop :=
  resource.kind = .device ∧ (ch.launcher.locateBinary ch.binary st.host).isSome ∧
    ∃ apiSocket host, resource.attributes["vmm.api_socket"]? = some apiSocket ∧
      Unmanaged st resource ⟨apiSocket, (resource.attributes["vmm.vm_name"]?).getD resource.id⟩ ∧
      ch.launcher.vmIsRunning apiSocket st.host = (false, host) ∧
      "vmm.net" ∈ resource.attributes ∧ (ch.net.provision resource.attributes host).1 = .ok () ∧
      (resource.attributes["vmm.kernel"]? = none ∨ resource.attributes["vmm.rootfs"]? = none)

variable {ch resource lease binary} {st : VmmState H} {vm : VmId} {host : H}

theorem resolve_eq_ok_iff : ch.resolve resource host = .ok (binary, vm) ↔
    resource.kind = .device ∧ ch.launcher.locateBinary ch.binary host = some binary ∧
      resource.attributes["vmm.api_socket"]? = some vm.apiSocket ∧
      vm.vmName = (resource.attributes["vmm.vm_name"]?).getD resource.id := by
  unfold resolve
  -- the three checks, in the order of the code
  by_cases hkind : resource.kind ≠ .device
  · rw [if_pos hkind]
    constructor
    · intro h
      cases h
    · intro h
      exact absurd h.1 hkind
  rw [if_neg hkind]
  rcases ch.launcher.locateBinary ch.binary host with _ | found
  · constructor
    · intro h
      cases h
    · rintro ⟨-, h, -⟩
      cases h
  rcases hsocket : resource.attributes["vmm.api_socket"]? with _ | apiSocket
  · constructor
    · intro h
      simp [requireAttr, hsocket, bind, Except.bind] at h
    · rintro ⟨-, -, h, -⟩
      cases h
  · constructor
    · intro h
      simp only [requireAttr, hsocket] at h
      obtain ⟨rfl, rfl⟩ := Prod.mk.inj (Except.ok.inj h)
      exact ⟨not_not.mp hkind, rfl, rfl, rfl⟩
    · rintro ⟨-, hfound, hsame, hname⟩
      obtain rfl := Option.some.inj hfound
      obtain ⟨vmSocket, vmName⟩ := vm
      dsimp only at hsame hname
      obtain rfl := Option.some.inj hsame
      subst hname
      simp only [requireAttr, hsocket]
      rfl

/-- With its socket there, a command line fails for the kernel or the root file system. -/
theorem buildArgv_error_iff {apiSocket : String}
    (hsocket : resource.attributes["vmm.api_socket"]? = some apiSocket) :
    (∃ key, buildArgv resource = .error (.missingResourceAttribute key)) ↔
      resource.attributes["vmm.kernel"]? = none ∨ resource.attributes["vmm.rootfs"]? = none := by
  unfold buildArgv
  simp only [requireAttr, hsocket]
  rcases resource.attributes["vmm.kernel"]? with _ | kernel
  · exact iff_of_true ⟨"vmm.kernel", rfl⟩ (Or.inl rfl)
  rcases resource.attributes["vmm.rootfs"]? with _ | rootfs
  · exact iff_of_true ⟨"vmm.rootfs", rfl⟩ (Or.inr rfl)
  · refine iff_of_false ?_ (by simp)
    rintro ⟨key, h⟩
    cases h

/-- A boot that fails for an attribute has made a call exactly when it has a network. -/
theorem boot_missing_iff {apiSocket : String}
    (hsocket : resource.attributes["vmm.api_socket"]? = some apiSocket) :
    (∃ key, (ch.boot resource binary host).1 = .error (.missingResourceAttribute key)) ∧
        ch.bootCalls resource binary host ≠ [] ↔
      "vmm.net" ∈ resource.attributes ∧ (ch.net.provision resource.attributes host).1 = .ok () ∧
        (resource.attributes["vmm.kernel"]? = none ∨
          resource.attributes["vmm.rootfs"]? = none) := by
  rw [← buildArgv_error_iff hsocket]
  unfold boot bootCalls provisionNet provisionCalls
  by_cases hnet : "vmm.net" ∈ resource.attributes
  · simp only [if_pos hnet]
    rcases ch.net.provision resource.attributes host with ⟨reason | ⟨⟩, host₁⟩
    · simp
    rcases hargv : buildArgv resource with e | argv
    · simp [hnet]
    · rcases hlaunch : ch.launcher.launchVm binary argv host₁ with ⟨reason | ⟨⟩, host₂⟩
      · simp [hlaunch]
      · simp [hlaunch]
  · simp only [if_neg hnet]
    rcases hargv : buildArgv resource with e | argv
    · simp [hnet]
    · rcases hlaunch : ch.launcher.launchVm binary argv host with ⟨reason | ⟨⟩, host₂⟩
      · simp [hlaunch, hnet]
      · simp [hlaunch, hnet]

/-- The attach comes to boot a VM: there is one to boot, and none managed or running. -/
structure Boots (ch : CloudHypervisor H) (resource : Resource) (st : VmmState H) (binary : String)
    (vm : VmId) (host : H) : Prop where
  resolve : ch.resolve resource st.host = .ok (binary, vm)
  managed : st.managed? resource.id vm.vmName = none
  stopped : ch.launcher.vmIsRunning vm.apiSocket st.host = (false, host)

/-- An attach that makes a call has come to boot. -/
theorem exists_boots (h : ch.attachCalls resource st ≠ []) :
    ∃ binary vm host, ch.Boots resource st binary vm host := by
  unfold attachCalls at h
  rcases hresolve : ch.resolve resource st.host with e | ⟨binary, vm⟩
  · rw [hresolve] at h
    exact absurd rfl h
  rw [hresolve] at h
  dsimp only at h
  rcases hmanaged : st.managed? resource.id vm.vmName with _ | existing
  · rw [hmanaged] at h
    dsimp only at h
    rcases hrunning : ch.launcher.vmIsRunning vm.apiSocket st.host with ⟨_ | _, host⟩
    · exact ⟨binary, vm, host, hresolve, hmanaged, hrunning⟩
    · rw [hrunning] at h
      exact absurd rfl h
  · rw [hmanaged] at h
    exact absurd rfl h

theorem Boots.attachCalls (h : ch.Boots resource st binary vm host) :
    ch.attachCalls resource st = ch.bootCalls resource binary host := by
  unfold CloudHypervisor.attachCalls
  rw [h.resolve]
  dsimp only
  rw [h.managed]
  dsimp only
  rw [h.stopped]

/-- Then it fails as the boot does. -/
theorem Boots.attach_error_iff (h : ch.Boots resource st binary vm host) {e : FabricError} :
    (ch.attach resource lease st).1 = .error e ↔ (ch.boot resource binary host).1 = .error e := by
  unfold CloudHypervisor.attach
  rw [h.resolve]
  dsimp only
  rw [h.managed]
  dsimp only
  rw [h.stopped]
  dsimp only
  rcases ch.boot resource binary host with ⟨e' | ⟨⟩, host'⟩
  · simp
  · simp

theorem provisionsDoomed_iff :
    ch.ProvisionsDoomed resource st ↔
      ∃ binary vm host, ch.Boots resource st binary vm host ∧ "vmm.net" ∈ resource.attributes ∧
        (ch.net.provision resource.attributes host).1 = .ok () ∧
        (resource.attributes["vmm.kernel"]? = none ∨
          resource.attributes["vmm.rootfs"]? = none) := by
  constructor
  · rintro ⟨hkind, hbinary, apiSocket, host, hsocket, hother, hrunning, hmissing⟩
    obtain ⟨binary, hbinary⟩ := Option.isSome_iff_exists.mp hbinary
    let vm : VmId := ⟨apiSocket, (resource.attributes["vmm.vm_name"]?).getD resource.id⟩
    have hresolve : ch.resolve resource st.host = .ok (binary, vm) :=
      resolve_eq_ok_iff.mpr ⟨hkind, hbinary, hsocket, rfl⟩
    refine ⟨binary, vm, host, ⟨hresolve, ?_, hrunning⟩, hmissing⟩
    rcases hfound : st.managed? resource.id vm.vmName with _ | existing
    · rfl
    · obtain ⟨hexisting, hname⟩ := managed?_eq_some.mp hfound
      exact absurd hname (hother existing hexisting)
  · rintro ⟨binary, vm, host, hboots, hmissing⟩
    obtain ⟨hkind, hbinary, hsocket, hname⟩ := resolve_eq_ok_iff.mp hboots.resolve
    have hother := unmanaged_of_managed? hboots.managed
    refine ⟨hkind, ?_, vm.apiSocket, host, hsocket, ?_, hboots.stopped, hmissing⟩
    · rw [hbinary]
      rfl
    · rw [← hname]
      exact hother

/-- An attach that fails for an attribute has made a call when it provisions for a VM
that it cannot launch, and not otherwise. -/
theorem attach_missing_iff :
    (∃ key, (ch.attach resource lease st).1 = .error (.missingResourceAttribute key)) ∧
        ch.attachCalls resource st ≠ [] ↔
      ch.ProvisionsDoomed resource st := by
  -- where it boots, the failure and the calls are those of the boot
  have hboot {binary vm host} (h : ch.Boots resource st binary vm host) :
      (∃ key, (ch.attach resource lease st).1 = .error (.missingResourceAttribute key)) ∧
          ch.attachCalls resource st ≠ [] ↔
        "vmm.net" ∈ resource.attributes ∧ (ch.net.provision resource.attributes host).1 = .ok () ∧
          (resource.attributes["vmm.kernel"]? = none ∨
            resource.attributes["vmm.rootfs"]? = none) := by
    simp only [h.attachCalls, h.attach_error_iff]
    exact boot_missing_iff (resolve_eq_ok_iff.mp h.resolve).2.2.1
  rw [provisionsDoomed_iff]
  constructor
  · intro h
    obtain ⟨binary, vm, host, hboots⟩ := exists_boots h.2
    exact ⟨binary, vm, host, hboots, (hboot hboots).mp h⟩
  · rintro ⟨binary, vm, host, hboots, hmissing⟩
    exact (hboot hboots).mpr hmissing

/-- A failed attach leaves the table as it was. -/
theorem managed_of_attach_error {e : FabricError} (h : (ch.attach resource lease st).1 = .error e) :
    (ch.attach resource lease st).2.managed = st.managed := by
  have hattaches := ch.attach_attaches resource lease st
  generalize ch.attach resource lease st = result at h hattaches
  generalize ch.branch resource st = branch at hattaches
  cases hattaches with
  | refuse => rfl
  | reuse => cases h
  | adopt => cases h
  | boot => cases h

variable (ch resource lease st) in
theorem touches_nothing_iff :
    ch.TouchesNothing resource lease st ↔ ¬ ch.ProvisionsDoomed resource st := by
  have hmissing : (∃ key, (ch.attach resource lease st).1 =
        .error (.missingResourceAttribute key)) ∧ ch.attachCalls resource st ≠ [] ↔
      ch.ProvisionsDoomed resource st := attach_missing_iff
  unfold TouchesNothing
  rw [recording_attach, ← hmissing]
  constructor
  · rintro htouches ⟨⟨key, hfailed⟩, hcalls⟩
    exact hcalls (htouches key hfailed).1
  · intro hdoomed key hfailed
    refine ⟨?_, managed_of_attach_error hfailed⟩
    by_contra hcalls
    exact hdoomed ⟨⟨key, hfailed⟩, hcalls⟩

end CloudHypervisor

open Scenario in
/-- A device with a network and without a kernel: its tap is created before the attach
fails. -/
theorem doomed_attach_provisions :
    ¬ ∀ (ch : CloudHypervisor Unit) (resource : Resource) (lease : Lease) (st : VmmState Unit),
      ch.TouchesNothing resource lease st := by
  intro hall
  let resource : Resource :=
    { vmDevice "vm" with
        attributes := .ofList [("vmm.api_socket", "vm.sock"), ("vmm.rootfs", "rootfs"),
          ("vmm.net", "tap=nauti0")] }
  have hdoomed := (hall hypervisor resource ⟨0, "vm.0", "mission-a"⟩ newVmm) "vmm.kernel"
    (by decide +kernel)
  have hprovisioned : ((hypervisor.recording.attach resource ⟨0, "vm.0", "mission-a"⟩
      (newVmm.record [])).2.host.2).length = 1 := by decide +kernel
  rw [hdoomed.1] at hprovisioned
  cases hprovisioned

end NautiFabric
