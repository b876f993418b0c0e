import NautiFabric.Vmm.Managed

/-!
# NautiFabric.Vmm.Liveness — whether the attached VM runs

A success of `attach` names an API socket, and a VM should run behind it when
the call returns: one that the call launched, or one that the launcher's probe
finds. Two of the three ways to a success see to that. The third one, for a
resource that the table already has under the same VM name, asks nobody: the VM
may have died since, or the resource may have been registered again with another
socket.
-/

namespace NautiFabric

open Interleave

variable {H : Type}

/-! ## Answers -/

/-- A successful `attach`: what it returned, and the states around it. -/
structure Answered (H : Type) where
  before : VmmState H
  reply : Attachment
  after : VmmState H

/-- The probe of `vm_is_running`. -/
def Launcher.Runs (launcher : Launcher H) (apiSocket : String) (host : H) : Prop :=
  (launcher.vmIsRunning apiSocket host).1 = true

/-- A probe that finds a VM running leaves it running. -/
def Launcher.Steady (launcher : Launcher H) : Prop :=
  ∀ (apiSocket : String) (host host' : H),
    launcher.vmIsRunning apiSocket host = (true, host') → launcher.Runs apiSocket host'

/-- The call launched a VM, with this socket on its command line. -/
def Answered.Launched (ch : CloudHypervisor H) (answer : Answered H) (apiSocket : String) :
    Prop :=
  (∃ l : NautiFabric.Launched, l.vm.apiSocket = apiSocket ∧
    answer.after.events = .launched l :: answer.before.events) ∧
  ∃ (binary : String) (argv : List String) (host : H),
    ch.launcher.launchVm binary argv host = (.ok (), answer.after.host) ∧
      ["--api-socket", "path=" ++ apiSocket] <+: argv

/-- At the socket that the answer names a VM runs: just launched, or found by the probe. -/
def Answered.Live (ch : CloudHypervisor H) (answer : Answered H) : Prop :=
  ∃ apiSocket : String, answer.reply.details["vmm.api_socket"]? = some apiSocket ∧
    (answer.Launched ch apiSocket ∨ ch.launcher.Runs apiSocket answer.after.host)

/-- Every success of this `attach` is live. -/
def AnswersLive (ch : CloudHypervisor H) (resource : Resource) (lease : Lease)
    (st : VmmState H) : Prop :=
  ∀ (reply : Attachment) (st' : VmmState H), ch.attach resource lease st = (.ok reply, st') →
    (⟨st, reply, st'⟩ : Answered H).Live ch

/-- If the table has the resource under the VM name it asks for, a VM is running
at the socket it asks for. -/
def CloudHypervisor.ReusesLive (ch : CloudHypervisor H) (resource : Resource)
    (st : VmmState H) : Prop :=
  ∀ (binary : String) (vm : VmId), ch.resolve resource st.host = .ok (binary, vm) →
    (st.managed? resource.id vm.vmName).isSome → ch.launcher.Runs vm.apiSocket st.host

/-! ## Runs with their answers -/

/-- One call of the adapter; a successful `attach` is noted. -/
def CloudHypervisor.answer (ch : CloudHypervisor H) :
    (call : AdapterCall) → VmmState H × List (Answered H) →
      Option call.Reply × VmmState H × List (Answered H)
  | .attach resource lease => fun (st, answers) =>
    match ch.attach resource lease st with
    | (.ok reply, st') => (some (.ok reply), st', ⟨st, reply, st'⟩ :: answers)
    | (.error e, st') => (some (.error e), st', answers)
  | .reconcile order => fun (st, answers) =>
    let (reply, st') := ch.reconcile order st
    (some reply, st', answers)

/-- The calls of the adapter with their answers, newest first. Between them the
host does what it likes: VMs die, and others come up. -/
def answeringSystem (ch : CloudHypervisor H)
    (guard : AdapterCall → VmmState H × List (Answered H) → Prop) :
    Interleave.System AdapterCall.Reply (VmmState H × List (Answered H)) Unit where
  act := ch.answer
  init := fun (st, answers) => st.Fresh ∧ answers = []
  invocable p := ∃ call, p = (Prog.perform call).ignore
  env := fun (st, answers) (st', answers') => (∃ host, st' = { st with host }) ∧ answers' = answers
  guard := guard

/-- Every `attach` that reuses an entry of the table finds its VM running. -/
def AttachesLive (ch : CloudHypervisor H) : AdapterCall → VmmState H × List (Answered H) → Prop
  | .attach resource _, (st, _) => ch.ReusesLive resource st
  | .reconcile _, _ => True

/-! ## The ways to a success -/

open CloudHypervisor (attachment_apiSocket apiSocket_of_resolve)

/-- The command line starts with the socket of the resource. -/
theorem argv_of_buildArgv {resource : Resource} {apiSocket : String} {argv : List String}
    (hattr : resource.attributes["vmm.api_socket"]? = some apiSocket)
    (h : buildArgv resource = .ok argv) : ["--api-socket", "path=" ++ apiSocket] <+: argv := by
  unfold buildArgv at h
  simp only [requireAttr, hattr] at h
  rcases hkernel : resource.attributes["vmm.kernel"]? with _ | kernel
  · rw [hkernel] at h
    cases h
  rcases hrootfs : resource.attributes["vmm.rootfs"]? with _ | rootfs
  · rw [hkernel, hrootfs] at h
    cases h
  rw [hkernel, hrootfs] at h
  obtain rfl := Except.ok.inj h
  simp

/-- A boot that works is a launch with that command line. -/
theorem launchVm_of_boot {ch : CloudHypervisor H} {resource : Resource} {binary : String}
    {apiSocket : String} {host host' : H}
    (hattr : resource.attributes["vmm.api_socket"]? = some apiSocket)
    (h : ch.boot resource binary host = (.ok (), host')) :
    ∃ (argv : List String) (before : H), ch.launcher.launchVm binary argv before = (.ok (), host') ∧
      ["--api-socket", "path=" ++ apiSocket] <+: argv := by
  unfold CloudHypervisor.boot at h
  generalize ch.provisionNet resource host = provisioned at h
  rcases provisioned with ⟨reason | ⟨⟩, before⟩
  · cases h
  rcases hargv : buildArgv resource with e | argv
  · rw [hargv] at h
    cases h
  simp only [hargv] at h
  rcases hlaunch : ch.launcher.launchVm binary argv before with ⟨reason | ⟨⟩, after⟩
  · rw [hlaunch] at h
    cases h
  · rw [hlaunch] at h
    cases h
    exact ⟨argv, before, hlaunch, argv_of_buildArgv hattr hargv⟩

section Ways

variable {ch : CloudHypervisor H} {resource : Resource} {st : VmmState H} {binary : String}
  {vm : VmId} (hresolve : ch.resolve resource st.host = .ok (binary, vm))

include hresolve

/-- The way of an entry in the table: a success that no probe stands behind. -/
theorem attach_reuse {lease : Lease} {existing : ManagedVm}
    (hmanaged : st.managed? resource.id vm.vmName = some existing) :
    ch.attach resource lease st =
      (.ok (CloudHypervisor.attachment resource lease binary vm true),
        st.emit (.reused existing.vm
          (CloudHypervisor.attachment resource lease binary vm true))) := by
  simp only [CloudHypervisor.attach, hresolve, hmanaged]

/-- The VM is live in this way exactly when the probe would find it. -/
theorem answersLive_reuse_iff {lease : Lease}
    (hmanaged : (st.managed? resource.id vm.vmName).isSome) :
    AnswersLive ch resource lease st ↔ ch.launcher.Runs vm.apiSocket st.host := by
  obtain ⟨existing, hexisting⟩ := Option.isSome_iff_exists.mp hmanaged
  have hattach : ch.attach resource lease st = _ := attach_reuse hresolve hexisting
  constructor
  · intro hlive
    obtain ⟨apiSocket, hsocket, hlaunched | hruns⟩ := hlive _ _ hattach
    · -- nothing was launched: the event of the call says so
      obtain ⟨⟨l, -, hevents⟩, -⟩ := hlaunched
      simp [VmmState.emit] at hevents
    · rw [attachment_apiSocket] at hsocket
      rwa [← Option.some.inj hsocket] at hruns
  · intro hruns reply st' h
    rw [hattach] at h
    cases h
    exact ⟨vm.apiSocket, attachment_apiSocket resource lease binary vm true, Or.inr hruns⟩

/-- The two other ways answer for the VM themselves. -/
theorem answersLive_fresh (hsteady : ch.launcher.Steady) {lease : Lease}
    (hmanaged : st.managed? resource.id vm.vmName = none) :
    AnswersLive ch resource lease st := by
  intro reply st' h
  unfold CloudHypervisor.attach at h
  simp only [hresolve, hmanaged] at h
  rcases hprobe : ch.launcher.vmIsRunning vm.apiSocket st.host with ⟨_ | _, host⟩
  · simp only [hprobe] at h
    rcases hboot : ch.boot resource binary host with ⟨e | ⟨⟩, host'⟩
    · simp [hboot] at h
    · -- launched by this call
      simp only [hboot] at h
      cases h
      obtain ⟨argv, before, hlaunch, hargv⟩ :=
        launchVm_of_boot (apiSocket_of_resolve hresolve) hboot
      exact ⟨vm.apiSocket, attachment_apiSocket resource lease binary vm false,
        Or.inl ⟨⟨_, rfl, rfl⟩, binary, argv, before, hlaunch, hargv⟩⟩
  · -- found running by the probe, which leaves it so
    simp only [hprobe] at h
    cases h
    exact ⟨vm.apiSocket, attachment_apiSocket resource lease binary vm true,
      Or.inr (hsteady vm.apiSocket st.host host hprobe)⟩

end Ways

/-- An `attach` answers live exactly when an entry that it reuses stands for a
running VM. -/
theorem answersLive_iff {ch : CloudHypervisor H} (hsteady : ch.launcher.Steady)
    (resource : Resource) (lease : Lease) (st : VmmState H) :
    AnswersLive ch resource lease st ↔ ch.ReusesLive resource st := by
  rcases hresolve : ch.resolve resource st.host with e | ⟨binary, vm⟩
  · -- refused: there is no answer
    refine iff_of_true ?_ ?_
    · intro reply st' h
      simp [CloudHypervisor.attach, hresolve] at h
    · intro binary vm h
      simp [hresolve] at h
  · have hreuses : ch.ReusesLive resource st ↔
        ((st.managed? resource.id vm.vmName).isSome → ch.launcher.Runs vm.apiSocket st.host) := by
      simp [CloudHypervisor.ReusesLive, hresolve]
    rw [hreuses]
    rcases hmanaged : st.managed? resource.id vm.vmName with _ | existing
    · exact iff_of_true (answersLive_fresh hresolve hsteady hmanaged) (by simp)
    · have hsome : (st.managed? resource.id vm.vmName).isSome := by simp [hmanaged]
      rw [answersLive_reuse_iff hresolve hsome]
      simp

/-! ## Every run -/

/-- Every answer so far was live. -/
def AllLive (ch : CloudHypervisor H) (run : VmmState H × List (Answered H)) : Prop :=
  ∀ answer ∈ run.2, answer.Live ch

theorem AllLive.answer {ch : CloudHypervisor H} (hsteady : ch.launcher.Steady)
    {run : VmmState H × List (Answered H)} (h : AllLive ch run) {call : AdapterCall}
    (hg : AttachesLive ch call run) : AllLive ch (ch.answer call run).2 := by
  obtain ⟨st, answers⟩ := run
  cases call with
  | reconcile order => exact h
  | attach resource lease =>
      have hlive : AnswersLive ch resource lease st :=
        (answersLive_iff hsteady resource lease st).mpr hg
      unfold CloudHypervisor.answer
      rcases hattach : ch.attach resource lease st with ⟨e | reply, st'⟩
      · simp only [hattach]
        exact h
      · simp only [hattach]
        intro answer hanswer
        rcases List.mem_cons.mp hanswer with rfl | hold
        · exact hlive reply st' hattach
        · exact h answer hold

theorem allLive_reachable {ch : CloudHypervisor H} (hsteady : ch.launcher.Steady)
    {run : VmmState H × List (Answered H)}
    (h : (answeringSystem ch (AttachesLive ch)).SeqReachable run) : AllLive ch run := by
  refine h.invariant (AllLive ch) ?_ ?_ ?_
  · rintro ⟨st, answers⟩ ⟨-, rfl⟩ answer hanswer
    simp at hanswer
  · rintro p run ⟨call, rfl⟩ hrun
    exact Prog.Leaves.ignore (Prog.leaves_perform (AllLive.answer hsteady hrun))
  · rintro ⟨st, answers⟩ ⟨st', answers'⟩ ⟨-, rfl⟩ hrun
    exact hrun

/-- In a run whose attaches reuse only entries of running VMs, every success was
live when it was returned; and the next `attach` keeps it so exactly when it
does the same. -/
theorem attached_vm_runs {ch : CloudHypervisor H} (hsteady : ch.launcher.Steady)
    {run : VmmState H × List (Answered H)}
    (h : (answeringSystem ch (AttachesLive ch)).SeqReachable run) :
    (∀ answer ∈ run.2, answer.Live ch) ∧ ∀ (resource : Resource) (lease : Lease),
      AnswersLive ch resource lease run.1 ↔ ch.ReusesLive resource run.1 :=
  ⟨allLive_reachable hsteady h, fun resource lease => answersLive_iff hsteady resource lease run.1⟩

/-! ## A VM that dies -/

namespace Scenario

/-- A host that keeps the socket flags of its running VMs. -/
def tracking : CloudHypervisor (List String) where
  binary := "/usr/bin/cloud-hypervisor"
  launcher :=
    { typeName := "Tracking"
      locateBinary := fun path _ => some path
      launchVm := fun _ argv vms => (.ok (), argv.getD 1 "" :: vms)
      removeVm := fun apiSocket _ vms => (.ok (), vms.erase ("path=" ++ apiSocket))
      vmIsRunning := fun apiSocket vms => (("path=" ++ apiSocket) ∈ vms, vms) }
  net := { provision := fun _ vms => (.ok (), vms) }

theorem tracking_steady : tracking.launcher.Steady := by
  intro apiSocket vms vms' h
  obtain ⟨hruns, rfl⟩ := Prod.mk.inj h
  exact hruns

/-- A new adapter on a host without VMs. -/
def newAnswering : VmmState (List String) × List (Answered (List String)) := (⟨∅, [], []⟩, [])

/-- An `attach` of the device for the VM `a`. -/
def attachA : System.Move AdapterCall.Reply (VmmState (List String) × List (Answered (List String)))
    Unit :=
  .invoke (Prog.perform (.attach (vmDevice "a") ⟨1, "vm.0", "alice"⟩)).ignore

/-- Every VM of the host dies. -/
def vmsDie : System.Move AdapterCall.Reply (VmmState (List String) × List (Answered (List String)))
    Unit :=
  .env fun (st, answers) => ({ st with host := [] }, answers)

def afterMoves (moves : List (System.Move AdapterCall.Reply
      (VmmState (List String) × List (Answered (List String))) Unit)) :
    VmmState (List String) × List (Answered (List String)) :=
  moves.foldl (System.seqExec tracking.answer) newAnswering

end Scenario

open Scenario in
/-- A launch, whose answer is live. -/
theorem attached_vm_runs_launched :
    (afterMoves [attachA]).2.length = 1 ∧
      (∀ answer ∈ (afterMoves [attachA]).2, answer.Live tracking) ∧
        ∀ (resource : Resource) (lease : Lease),
          AnswersLive tracking resource lease (afterMoves [attachA]).1 ↔
            tracking.ReusesLive resource (afterMoves [attachA]).1 := by
  have hinit : (answeringSystem tracking (AttachesLive tracking)).SeqReachable newAnswering :=
    .init _ ⟨⟨rfl, rfl⟩, rfl⟩
  have hreuses : tracking.ReusesLive (vmDevice "a") newAnswering.1 := by
    intro binary vm _ hmanaged
    simp [newAnswering, VmmState.managed?] at hmanaged
  have hreach : (answeringSystem tracking (AttachesLive tracking)).SeqReachable
      (afterMoves [attachA]) :=
    hinit.step (.call _ ⟨_, rfl⟩ ⟨hreuses, trivial⟩)
  exact ⟨by decide +kernel, attached_vm_runs tracking_steady hreach⟩

open Scenario in
/-- The VM of a managed resource dies, and the next `attach` reports it attached. -/
theorem dead_vm_attached :
    ¬ ∀ run : VmmState (List String) × List (Answered (List String)),
      (answeringSystem tracking fun _ _ => True).SeqReachable run →
      ∀ answer ∈ run.2, answer.Live tracking := by
  intro hall
  have hinit : (answeringSystem tracking fun _ _ => True).SeqReachable newAnswering :=
    .init _ ⟨⟨rfl, rfl⟩, rfl⟩
  have hreach : (answeringSystem tracking fun _ _ => True).SeqReachable
      (afterMoves [attachA, vmsDie, attachA]) := by
    apply hinit.schedule
    apply System.seqSchedule_of_admits
    · intro _ _
      trivial
    · exact ⟨⟨_, rfl⟩, fun _ => ⟨⟨[], rfl⟩, rfl⟩, ⟨_, rfl⟩, trivial⟩
  -- the second answer names `a.sock`: no VM was launched, and none is running
  obtain ⟨rest, hsecond⟩ : ∃ rest, (afterMoves [attachA, vmsDie, attachA]).2 =
      ⟨(afterMoves [attachA, vmsDie]).1,
        CloudHypervisor.attachment (vmDevice "a") ⟨1, "vm.0", "alice"⟩ tracking.binary
          ⟨"a.sock", "a"⟩ true,
        (afterMoves [attachA, vmsDie, attachA]).1⟩ :: rest := ⟨_, by with_unfolding_all rfl⟩
  have hlive := hall _ hreach _ (hsecond ▸ List.mem_cons_self)
  obtain ⟨apiSocket, -, ⟨⟨l, -, hevents⟩, -⟩ | hruns⟩ := hlive
  · have hreused : (afterMoves [attachA, vmsDie, attachA]).1.events.head? =
        some (.reused ⟨"a.sock", "a"⟩ (CloudHypervisor.attachment (vmDevice "a")
          ⟨1, "vm.0", "alice"⟩ tracking.binary ⟨"a.sock", "a"⟩ true)) := by
      with_unfolding_all rfl
    rw [hevents] at hreused
    simp at hreused
  · have hhost : (afterMoves [attachA, vmsDie, attachA]).1.host = [] := by with_unfolding_all rfl
    simp [Launcher.Runs, tracking, hhost] at hruns

end NautiFabric
