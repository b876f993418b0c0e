import NautiFabric.Fabric.Attachments
import NautiFabric.Vmm.CloudHypervisor

/-!
# NautiFabric.Vmm.Isolation — VMs and the leases they were launched under

The managed table outlives leases: a `release` frees the lease and leaves the VM
running, until a `reconcile` removes it. So an `attach` under the next lease of
the resource can find that VM in place, and then it answers with the no-op
success on the VM of the former holder (`former_vm_reused`).

A no-op success can be on two VMs: the table has the resource on the socket of
the `attach` that recorded it, and the attachment names the socket that the
resource has now (`noopSockets`). Both are judged.

`HandedOver` is what keeps the holders apart: whatever VM an `attach` finds on
these sockets, if the adapter launched it for the resource and has not removed
it, was launched since the last grant on the resource. The runs are all
interleavings of fabric calls on a fabric with one Cloud Hypervisor adapter and
any number of adapters that do not touch its state.
-/

namespace NautiFabric

open Interleave

variable {H : Type}

/-! ## Who launched the VM -/

/-- The id of the lease under which the VM on a socket was launched for a
resource, unless it was removed since. -/
def launchedUnder (resourceId apiSocket : String) : List VmmEvent → Option UInt64
  | [] => none
  | .launched l :: events =>
    if l.resourceId = resourceId ∧ l.vm.apiSocket = apiSocket then some l.leaseId
    else launchedUnder resourceId apiSocket events
  | .removeCalled vm true :: events =>
    if vm.apiSocket = apiSocket then none else launchedUnder resourceId apiSocket events
  | .removeCalled _ false :: events => launchedUnder resourceId apiSocket events
  | .reused _ _ :: events => launchedUnder resourceId apiSocket events

/-- The sockets of the VMs that a no-op success is on: the VM that was found in
place, and the one that the attachment names. -/
def noopSockets (vm : VmId) (attachment : Attachment) : List String :=
  vm.apiSocket :: (attachment.details["vmm.api_socket"]?).toList

/-- No no-op success was on a VM that the adapter had launched for the resource
under another lease. -/
def Isolated : List VmmEvent → Prop
  | [] => True
  | .reused vm attachment :: events =>
    (∀ apiSocket ∈ noopSockets vm attachment, ∀ id,
      launchedUnder attachment.resourceId apiSocket events = some id → id = attachment.leaseId) ∧
    Isolated events
  | .launched _ :: events => Isolated events
  | .removeCalled _ _ :: events => Isolated events

/-- The attachment of a VM that was launched on the socket. -/
def Attachment.boots (attachment : Attachment) (apiSocket : String) : Bool :=
  attachment.details["vmm.launched_by_adapter"]? == some "true" &&
    attachment.details["vmm.api_socket"]? == some apiSocket

/-- Since the last grant on the resource, an `attach` of it launched a VM on the socket. -/
def bootedSince (resourceId apiSocket : String) : List (Event (VmmState H)) → Bool
  | [] => false
  | .granted lease _ _ :: log =>
    lease.resourceId != resourceId && bootedSince resourceId apiSocket log
  | .attachCall adapter resource _ _ (.ok attachment) :: log =>
    (adapter.name == CloudHypervisor.name && resource.id == resourceId &&
      attachment.boots apiSocket) || bootedSince resourceId apiSocket log
  | .attachCall _ _ _ _ (.error _) :: log => bootedSince resourceId apiSocket log
  | .renewed _ _ _ _ :: log => bootedSince resourceId apiSocket log
  | .released _ _ _ :: log => bootedSince resourceId apiSocket log
  | .detachCall _ _ _ _ _ :: log => bootedSince resourceId apiSocket log
  | .attachmentRecorded _ _ :: log => bootedSince resourceId apiSocket log
  | .attachmentTaken _ _ :: log => bootedSince resourceId apiSocket log

/-! ## A fabric with a Cloud Hypervisor adapter -/

/-- An adapter of another kind, which has no access to the adapter's state. -/
structure ResourceAdapter.Foreign (adapter : ResourceAdapter (VmmState H)) : Prop where
  name : adapter.name ≠ CloudHypervisor.name
  attach : ∀ resource lease st, (adapter.attach resource lease st).2.managed = st.managed ∧
    (adapter.attach resource lease st).2.events = st.events
  detach : ∀ resource lease st, (adapter.detach resource lease st).2.managed = st.managed ∧
    (adapter.detach resource lease st).2.events = st.events

/-- The adapters that may be registered: `ch` itself, and foreign ones. -/
def CloudHypervisor.Admits (ch : CloudHypervisor H) (adapter : ResourceAdapter (VmmState H)) :
    Prop := adapter = ch.adapter ∨ adapter.Foreign

def CloudHypervisor.Registers (ch : CloudHypervisor H) : Section (VmmState H) → Prop
  | .registerAdapter adapter => ch.Admits adapter
  | _ => True

/-- Between the sections of the fabric time passes, the host does what it likes,
and a `reconcile` takes a turn. The entry may be any: it was read before, and
the table can have changed since. -/
inductive VmmEnv (ch : CloudHypervisor H) (s : Shared (VmmState H)) : Shared (VmmState H) → Prop
  | elapse (now : Instant) (host : H) (hnow : s.now ≤ now) :
      VmmEnv ch s { s with now, world.host := host }
  | remove (entry : ManagedVm) :
      VmmEnv ch s { s with world := (ch.removeEntry entry s.world).2 }

/-- All interleavings of fabric calls with the adapter `ch` and its `reconcile`. -/
def vmmSystem (ch : CloudHypervisor H)
    (guard : Section (VmmState H) → Shared (VmmState H) → Prop) :
    Interleave.System (@Section.Reply (VmmState H)) (Shared (VmmState H)) Unit where
  act := Section.act
  init s := s.Fresh ∧ s.world.Fresh
  invocable p := ∃ op : Op (VmmState H), p = op.call
  env := VmmEnv ch
  guard sec s := ch.Registers sec ∧ guard sec s

/-- The sockets that an `attach` of the resource finds a VM on. An entry of the
table stands for the VM on its own socket and for the one that the resource names. -/
def CloudHypervisor.found (ch : CloudHypervisor H) (resource : Resource) (st : VmmState H) :
    List String :=
  match ch.branch resource st with
  | .refuse => []
  | .reuse existing =>
    existing.apiSocket :: (resource.attributes["vmm.api_socket"]?).toList
  | .adopt vm => [vm.apiSocket]
  | .boot _ => []

/-- Every `attach` that reaches the adapter finds no VM in place that the
adapter launched for the resource before the last grant on it. -/
def HandedOver (ch : CloudHypervisor H) : Section (VmmState H) → Shared (VmmState H) → Prop
  | .attach resource adapterName lease, s =>
    s.fabric.leases.poisoned = false → s.Honours lease →
    s.fabric.adapters[adapterName]? = some ch.adapter →
    ∀ apiSocket ∈ ch.found resource s.world,
      launchedUnder resource.id apiSocket s.world.events ≠ none →
      bootedSince resource.id apiSocket s.log = true
  | _, _ => True

/-! ## The adapters -/

def AdmittedAdapters (ch : CloudHypervisor H) (s : Shared (VmmState H)) : Prop :=
  ∀ (name : String) (adapter : ResourceAdapter (VmmState H)),
    s.fabric.adapters[name]? = some adapter → ch.Admits adapter

theorem AdmittedAdapters.act {ch : CloudHypervisor H} {s : Shared (VmmState H)}
    (h : AdmittedAdapters ch s) {sec : Section (VmmState H)} (hsec : ch.Registers sec) :
    AdmittedAdapters ch (sec.act s).2 := by
  refine adapters_act h ?_
  rintro adapter rfl
  exact hsec

/-! ## The VMs launched since the last grant -/

/-- A VM launched since the last grant on its resource was launched under that lease. -/
def BootedUnderLatest (s : Shared (VmmState H)) : Prop :=
  ∀ (resourceId apiSocket : String) (id : UInt64),
    bootedSince resourceId apiSocket s.log = true →
    launchedUnder resourceId apiSocket s.world.events = some id →
    ∃ lease, latestGrant s.log resourceId = some lease ∧ lease.id = id

/-- Where no adapter was asked to attach, a launch since the last grant is an
old one, and no lease has been granted on the resource since. -/
theorem bootedSince_append {evs : List (Event (VmmState H))} (hevs : ∀ ev ∈ evs, ev.NoAttach)
    {log : List (Event (VmmState H))} {resourceId apiSocket : String}
    (h : bootedSince resourceId apiSocket (evs ++ log) = true) :
    bootedSince resourceId apiSocket log = true ∧
      latestGrant (evs ++ log) resourceId = latestGrant log resourceId := by
  -- on what was added; a grant on the resource would have made it false
  induction evs with
  | nil => exact ⟨h, rfl⟩
  | cons ev evs ih =>
      have hev : ev.NoAttach := hevs ev (by simp)
      have hrest : ∀ ev ∈ evs, ev.NoAttach := fun ev hm => hevs ev (by simp [hm])
      cases ev with
      | attachCall => exact hev.elim
      | granted lease ttl t =>
          have h : lease.resourceId ≠ resourceId ∧
              bootedSince resourceId apiSocket (evs ++ log) = true := by
            simpa [bootedSince] using h
          obtain ⟨hne, h⟩ := h
          obtain ⟨hbooted, hlatest⟩ := ih hrest h
          refine ⟨hbooted, ?_⟩
          rw [← hlatest]
          simp [latestGrant, grantedLeases, Event.grant?, hne]
      | _ => exact ih hrest h

/-- What an `attachCall` adds to the launches since the last grant. -/
theorem bootedSince_attachCall {adapter : ResourceAdapter (VmmState H)} {resource : Resource}
    {lease : Lease} {t : Instant} {result : Except FabricError Attachment}
    {log : List (Event (VmmState H))} {resourceId apiSocket : String}
    (h : bootedSince resourceId apiSocket (.attachCall adapter resource lease t result :: log) =
      true) :
    bootedSince resourceId apiSocket log = true ∨
      (adapter.name = CloudHypervisor.name ∧ resource.id = resourceId ∧
        ∃ attachment, result = .ok attachment ∧ attachment.boots apiSocket = true) := by
  cases result with
  | error e => exact Or.inl h
  | ok attachment =>
      have h : (adapter.name = CloudHypervisor.name ∧ resource.id = resourceId) ∧
          attachment.boots apiSocket = true ∨ bootedSince resourceId apiSocket log = true := by
        simpa [bootedSince] using h
      rcases h with ⟨⟨hname, hid⟩, hboots⟩ | h
      · exact Or.inr ⟨hname, hid, attachment, rfl, hboots⟩
      · exact Or.inl h

theorem boots_attachment {resource : Resource} {lease : Lease} {binary apiSocket : String}
    {vm : VmId} {alreadyRunning : Bool}
    (h : (CloudHypervisor.attachment resource lease binary vm alreadyRunning).boots apiSocket =
      true) : alreadyRunning = false ∧ vm.apiSocket = apiSocket := by
  simp only [Attachment.boots, CloudHypervisor.attachment,
    CloudHypervisor.detailMap_launchedByAdapter, CloudHypervisor.detailMap_apiSocket,
    Bool.and_eq_true, beq_iff_eq, Option.some.injEq] at h
  obtain ⟨hrunning, hsocket⟩ := h
  refine ⟨?_, hsocket⟩
  cases alreadyRunning with
  | false => rfl
  | true => exact absurd hrunning (by decide)

/-- An `attach` of the adapter launches a VM, and says so, or the launches stay
as they are and no launch is reported. -/
theorem attach_launched (ch : CloudHypervisor H) (resource : Resource) (lease : Lease)
    (st : VmmState H) :
    (∃ vm : VmId,
      (ch.attach resource lease st).2.events = .launched ⟨resource.id, vm, lease.id⟩ :: st.events ∧
      ∀ attachment apiSocket, (ch.attach resource lease st).1 = .ok attachment →
        attachment.boots apiSocket = true → vm.apiSocket = apiSocket) ∨
    ((∀ resourceId apiSocket,
        launchedUnder resourceId apiSocket (ch.attach resource lease st).2.events =
          launchedUnder resourceId apiSocket st.events) ∧
      ∀ attachment apiSocket, (ch.attach resource lease st).1 = .ok attachment →
        attachment.boots apiSocket = false) := by
  have hrun := ch.attach_attaches resource lease st
  generalize ch.branch resource st = branch at hrun
  generalize ch.attach resource lease st = result at hrun
  -- a VM that is reused or adopted is not reported as booted
  have hquiet : ∀ (binary apiSocket : String) (vm : VmId) (attachment : Attachment),
      Except.ok (ε := FabricError) (CloudHypervisor.attachment resource lease binary vm true) =
        .ok attachment → attachment.boots apiSocket = false := by
    intro binary apiSocket vm attachment heq
    obtain rfl := Except.ok.inj heq
    rw [← Bool.not_eq_true]
    intro hboots
    exact absurd (boots_attachment hboots).1 (by decide)
  cases hrun with
  | refuse e host => exact Or.inr ⟨fun _ _ => rfl, fun _ _ heq => by cases heq⟩
  | reuse binary vm =>
      refine Or.inr ⟨fun _ _ => rfl, fun attachment apiSocket => ?_⟩
      exact hquiet binary apiSocket vm attachment
  | @adopt vm binary host hother =>
      refine Or.inr ⟨fun _ _ => rfl, fun attachment apiSocket => ?_⟩
      exact hquiet binary apiSocket vm attachment
  | @boot vm binary host hother =>
      refine Or.inl ⟨vm, rfl, fun attachment apiSocket heq hboots => ?_⟩
      obtain rfl := Except.ok.inj heq
      exact (boots_attachment hboots).2

/-! ## What keeps the holders apart -/

/-- A section that reaches no adapter keeps what was launched since the last grant. -/
theorem BootedUnderLatest.still {s s' : Shared (VmmState H)} (h : BootedUnderLatest s)
    (hevents : s'.world.events = s.world.events)
    (hlog : ∃ evs, s'.log = evs ++ s.log ∧ ∀ ev ∈ evs, ev.NoAttach) : BootedUnderLatest s' := by
  obtain ⟨evs, hlog, hevs⟩ := hlog
  intro resourceId apiSocket id hbooted hlaunched
  rw [hlog] at hbooted ⊢
  rw [hevents] at hlaunched
  obtain ⟨hbooted, hlatest⟩ := bootedSince_append hevs hbooted
  rw [hlatest]
  exact h resourceId apiSocket id hbooted hlaunched

/-- A foreign adapter launches none of this adapter's VMs. -/
theorem BootedUnderLatest.attach_foreign {s s' : Shared (VmmState H)} (h : BootedUnderLatest s)
    {adapter : ResourceAdapter (VmmState H)} (hforeign : adapter.Foreign) {resource : Resource}
    {lease : Lease} (hworld : s'.world = (adapter.attach resource lease s.world).2)
    (hlog : s'.log = .attachCall adapter resource lease s.now
      (adapter.attach resource lease s.world).1 :: s.log) : BootedUnderLatest s' := by
  intro resourceId apiSocket id hbooted hlaunched
  rw [hlog] at hbooted ⊢
  rw [hworld, (hforeign.attach resource lease s.world).2] at hlaunched
  rcases bootedSince_attachCall hbooted with hbooted | ⟨hname, -⟩
  · exact h resourceId apiSocket id hbooted hlaunched
  · exact absurd hname hforeign.name

/-- The adapter launches under the presented lease, and that one was granted last. -/
theorem BootedUnderLatest.attach_own {s s' : Shared (VmmState H)} (h : BootedUnderLatest s)
    (hrecorded : RecordedLatest s) (ch : CloudHypervisor H) {resource : Resource} {lease : Lease}
    (hid : resource.id = lease.resourceId) (hhonours : s.Honours lease)
    (hworld : s'.world = (ch.attach resource lease s.world).2)
    (hlog : s'.log = .attachCall ch.adapter resource lease s.now
      (ch.attach resource lease s.world).1 :: s.log) : BootedUnderLatest s' := by
  intro resourceId apiSocket id hbooted hlaunched
  rw [hlog] at hbooted ⊢
  rw [hworld] at hlaunched
  have hbooted := bootedSince_attachCall hbooted
  rcases attach_launched ch resource lease s.world with
    ⟨vm, hevents, hreports⟩ | ⟨hevents, hquiet⟩
  · rw [hevents, launchedUnder] at hlaunched
    split at hlaunched
    · -- the VM that was launched just now
      rename_i hvm
      obtain ⟨active, hactive, -⟩ := hhonours
      obtain ⟨hgrant, hactiveId⟩ := hrecorded.of_recorded hactive
      refine ⟨active.lease, ?_, ?_⟩
      · rw [← hvm.1, hid]
        exact hgrant
      · rw [hactiveId]
        exact Option.some.inj hlaunched
    · rename_i hvm
      rcases hbooted with hbooted | ⟨-, hres, attachment, hresult, hboots⟩
      · exact h resourceId apiSocket id hbooted hlaunched
      · exact absurd ⟨hres, hreports attachment apiSocket hresult hboots⟩ hvm
  · rw [hevents] at hlaunched
    rcases hbooted with hbooted | ⟨-, -, attachment, hresult, hboots⟩
    · exact h resourceId apiSocket id hbooted hlaunched
    · have hno := hquiet attachment apiSocket hresult
      rw [hboots] at hno
      cases hno

theorem BootedUnderLatest.attach {s s' : Shared (VmmState H)} (h : BootedUnderLatest s)
    (hrecorded : RecordedLatest s) {ch : CloudHypervisor H} {adapter : ResourceAdapter (VmmState H)}
    (hadmits : ch.Admits adapter) {resource : Resource} {lease : Lease}
    (hid : resource.id = lease.resourceId) (hhonours : s.Honours lease)
    (hworld : s'.world = (adapter.attach resource lease s.world).2)
    (hlog : ∃ evs, s'.log = evs ++ .attachCall adapter resource lease s.now
      (adapter.attach resource lease s.world).1 :: s.log ∧ ∀ ev ∈ evs, ev.NoAttach) :
    BootedUnderLatest s' := by
  obtain ⟨evs, hlog, hevs⟩ := hlog
  -- first the call of the adapter, then what the section notes after it
  have hcall : BootedUnderLatest { s' with
      log := .attachCall adapter resource lease s.now
        (adapter.attach resource lease s.world).1 :: s.log } := by
    rcases hadmits with rfl | hforeign
    · exact h.attach_own hrecorded ch hid hhonours hworld rfl
    · exact h.attach_foreign hforeign hworld rfl
  exact hcall.still rfl ⟨evs, hlog, hevs⟩

theorem noopSockets_attachment (vm found : VmId) (resource : Resource) (lease : Lease)
    (binary : String) (alreadyRunning : Bool) :
    noopSockets found (CloudHypervisor.attachment resource lease binary vm alreadyRunning) =
      [found.apiSocket, vm.apiSocket] := by
  rw [noopSockets, CloudHypervisor.attachment_apiSocket]
  rfl

/-- What the adapter finds in place it launched under the presented lease. -/
theorem isolated_attach {s : Shared (VmmState H)} (h : Isolated s.world.events)
    (hrecorded : RecordedLatest s) (hunder : BootedUnderLatest s) (ch : CloudHypervisor H)
    {resource : Resource} {lease : Lease} (hid : resource.id = lease.resourceId)
    (hhonours : s.Honours lease)
    (hfound : ∀ apiSocket ∈ ch.found resource s.world,
      launchedUnder resource.id apiSocket s.world.events ≠ none →
      bootedSince resource.id apiSocket s.log = true) :
    Isolated (ch.attach resource lease s.world).2.events := by
  have hown : ∀ apiSocket ∈ ch.found resource s.world, ∀ id,
      launchedUnder resource.id apiSocket s.world.events = some id → id = lease.id := by
    intro apiSocket hmem id hlaunched
    -- launched since the last grant, so under the lease granted last
    have hbooted := hfound apiSocket hmem (by simp [hlaunched])
    obtain ⟨latest, hlatest, hlatestId⟩ := hunder resource.id apiSocket id hbooted hlaunched
    obtain ⟨active, hactive, -⟩ := hhonours
    obtain ⟨hgrant, hactiveId⟩ := hrecorded.of_recorded hactive
    rw [hid, hgrant] at hlatest
    obtain rfl := Option.some.inj hlatest
    rw [← hlatestId, hactiveId]
  unfold CloudHypervisor.found at hown
  have hrun := ch.attach_attaches resource lease s.world
  generalize ch.branch resource s.world = branch at hrun hown
  generalize ch.attach resource lease s.world = result at hrun
  cases hrun with
  | refuse => exact h
  | @reuse existing binary vm hmanaged hname hsocket =>
      -- the attachment names the socket of the resource
      refine ⟨fun apiSocket hmem => hown apiSocket ?_, h⟩
      rw [noopSockets_attachment] at hmem
      dsimp only
      rw [hsocket]
      exact hmem
  | @adopt vm binary host hother =>
      refine ⟨fun apiSocket hmem => hown apiSocket ?_, h⟩
      rw [noopSockets_attachment] at hmem
      simpa using hmem
  | boot => exact h

theorem launchedUnder_removeEntry (ch : CloudHypervisor H) (entry : ManagedVm) (st : VmmState H)
    {resourceId apiSocket : String} {id : UInt64}
    (h : launchedUnder resourceId apiSocket (ch.removeEntry entry st).2.events = some id) :
    launchedUnder resourceId apiSocket st.events = some id := by
  unfold CloudHypervisor.removeEntry at h
  split at h
  · exact h
  · have h : (if entry.vm.apiSocket = apiSocket then none
        else launchedUnder resourceId apiSocket st.events) = some id := h
    split at h
    · cases h
    · exact h

theorem isolated_removeEntry (ch : CloudHypervisor H) (entry : ManagedVm) {st : VmmState H}
    (h : Isolated st.events) : Isolated (ch.removeEntry entry st).2.events := by
  unfold CloudHypervisor.removeEntry
  split <;> exact h

/-- What a run with the adapter `ch` keeps, as long as VMs are handed over. -/
structure VmmInv (ch : CloudHypervisor H) (s : Shared (VmmState H)) : Prop where
  registry : RegistryKeyed s
  recorded : RecordedLatest s
  adapters : AdmittedAdapters ch s
  booted : BootedUnderLatest s
  isolated : Isolated s.world.events

theorem VmmInv.fresh {ch : CloudHypervisor H} {s : Shared (VmmState H)} (h : s.Fresh)
    (hworld : s.world.Fresh) : VmmInv ch s where
  registry := .fresh h
  recorded := .fresh h
  adapters := by
    intro name adapter hk
    rw [h.1] at hk
    simp [Fabric.default] at hk
  booted := by
    intro resourceId apiSocket id hbooted
    rw [h.2] at hbooted
    cases hbooted
  isolated := by
    rw [hworld.2]
    trivial

theorem VmmInv.act {ch : CloudHypervisor H} {s : Shared (VmmState H)} (h : VmmInv ch s)
    {sec : Section (VmmState H)} (hsec : sec.WellFormed) (hregisters : ch.Registers sec)
    (hg : HandedOver ch sec s) : VmmInv ch (sec.act s).2 := by
  have hregistry := h.registry.act sec
  have hrecorded := h.recorded.act sec
  have hadapters := h.adapters.act hregisters
  have hstep := act_worldStep sec s
  generalize (sec.act s).2 = s' at hregistry hrecorded hadapters hstep
  -- only an adapter changes the VMs: this one, or another, which leaves them alone
  refine ⟨hregistry, hrecorded, hadapters, ?_, ?_⟩
  · cases hstep with
    | still hstill => exact h.booted.still (by rw [hstill.1]) hstill.2
    | attach _ hhonours hadapter hworld hlog =>
        exact h.booted.attach h.recorded (h.adapters _ _ hadapter) hsec hhonours hworld hlog
    | @detach resource adapterName lease adapter _ hadapter hworld hlog =>
        refine h.booted.still ?_ ⟨[_], hlog, by simp [Event.NoAttach]⟩
        rw [hworld]
        rcases h.adapters adapterName adapter hadapter with rfl | hforeign
        · rfl
        · exact (hforeign.detach resource lease s.world).2
  · cases hstep with
    | still hstill =>
        rw [hstill.1]
        exact h.isolated
    | @attach resource adapterName lease adapter _ hpoisoned hhonours hadapter hworld _ =>
        rw [hworld]
        rcases h.adapters adapterName adapter hadapter with rfl | hforeign
        · exact isolated_attach h.isolated h.recorded h.booted ch hsec hhonours
            (hg hpoisoned hhonours hadapter)
        · rw [(hforeign.attach resource lease s.world).2]
          exact h.isolated
    | @detach resource adapterName lease adapter _ hadapter hworld _ =>
        rw [hworld]
        rcases h.adapters adapterName adapter hadapter with rfl | hforeign
        · exact h.isolated
        · rw [(hforeign.detach resource lease s.world).2]
          exact h.isolated

theorem VmmInv.env {ch : CloudHypervisor H} {s s' : Shared (VmmState H)} (h : VmmInv ch s)
    (he : VmmEnv ch s s') : VmmInv ch s' := by
  cases he with
  | elapse now host hnow => exact ⟨h.registry, h.recorded, h.adapters, h.booted, h.isolated⟩
  | remove entry =>
      refine ⟨h.registry, h.recorded, h.adapters, ?_, isolated_removeEntry ch entry h.isolated⟩
      intro resourceId apiSocket id hbooted hlaunched
      exact h.booted resourceId apiSocket id hbooted
        (launchedUnder_removeEntry ch entry s.world hlaunched)

/-! ## Every run -/

/-- In every interleaving whose attaches find no VM of a former holder in place,
no no-op success is on a VM that was launched under another lease. -/
theorem vm_isolation (ch : CloudHypervisor H)
    {c : Config (@Section.Reply (VmmState H)) (Shared (VmmState H)) Unit}
    (h : (vmmSystem ch (HandedOver ch)).Reachable c) : Isolated c.state.world.events := by
  have hinv := h.sound (VmmInv ch) Section.WellFormed ?_ ?_ ?_ ?_
  · exact hinv.1.isolated
  · rintro s ⟨hfresh, hworld⟩
    exact .fresh hfresh hworld
  · rintro p ⟨op, rfl⟩
    exact call_sound (fun s hs => hs.registry) op
  · rintro sec s hsec ⟨hregisters, hg⟩ hs
    exact hs.act hsec hregisters hg
  · intro s s' he hs
    exact hs.env he

namespace Scenario

/-- The device is registered and leased to `alice`. -/
def leaseVm : Schedule (VmmState Unit) :=
  [.invoke (Op.register (vmDevice "a")).call,
   .invoke (Op.registerAdapter hypervisor.adapter).call,
   .invoke (Op.leaseExclusive "vm.0" "alice" 30).call]

def attachAlice : System.Move (@Section.Reply (VmmState Unit)) (Shared (VmmState Unit)) Unit :=
  .invoke (Op.attach "cloud-hypervisor" ⟨1, "vm.0", "alice"⟩).call

/-- `alice` attaches twice. -/
def reattach : Schedule (VmmState Unit) := leaseVm ++ [attachAlice, attachAlice]

/-- `alice` attaches and releases, and `bob` leases the device and attaches. -/
def nextHolder : Schedule (VmmState Unit) :=
  leaseVm ++
  [attachAlice, .invoke (Op.release ⟨1, "vm.0", "alice"⟩).call,
   .invoke (Op.leaseExclusive "vm.0" "bob" 30).call,
   .invoke (Op.attach "cloud-hypervisor" ⟨2, "vm.0", "bob"⟩).call]

theorem events_reattach : (afterCalls (start newVmm) reattach).world.events =
    [.reused ⟨"a.sock", "a"⟩ (CloudHypervisor.attachment (vmDevice "a") ⟨1, "vm.0", "alice"⟩
        "/usr/bin/cloud-hypervisor" ⟨"a.sock", "a"⟩ true),
     .launched ⟨"vm.0", ⟨"a.sock", "a"⟩, 1⟩] := by with_unfolding_all rfl

theorem events_nextHolder : (afterCalls (start newVmm) nextHolder).world.events =
    [.reused ⟨"a.sock", "a"⟩ (CloudHypervisor.attachment (vmDevice "a") ⟨2, "vm.0", "bob"⟩
        "/usr/bin/cloud-hypervisor" ⟨"a.sock", "a"⟩ true),
     .launched ⟨"vm.0", ⟨"a.sock", "a"⟩, 1⟩] := by with_unfolding_all rfl

/-- A call that registers no other adapter may run anywhere. -/
theorem guarded_of_sound (op : Op (VmmState Unit))
    (s : Shared (VmmState Unit))
    (hp : op.call.Sound Section.act (fun _ => True) hypervisor.Registers) :
    op.call.Guarded Section.act (vmmSystem hypervisor anySection).guard s :=
  hp.guarded (fun _ _ hsec => ⟨hsec, trivial⟩) s

theorem seqSchedule_nextHolder :
    (vmmSystem hypervisor anySection).SeqSchedule (start newVmm) nextHolder := by
  have hlease : ∀ owner s, (Op.leaseExclusive "vm.0" owner 30).call.Guarded Section.act
      (vmmSystem hypervisor anySection).guard s := fun owner s =>
    guarded_of_sound (.leaseExclusive "vm.0" owner 30) s
      ((leaseExclusive_sound trivial trivial).bind fun _ => trivial)
  have hattach : ∀ lease s, (Op.attach "cloud-hypervisor" lease).call.Guarded Section.act
      (vmmSystem hypervisor anySection).guard s := fun lease s =>
    guarded_of_sound (.attach "cloud-hypervisor" lease) s
      ((attach_sound trivial fun _ _ _ _ => trivial).bind fun _ => trivial)
  have hrelease : ∀ lease s, (Op.release lease).call.Guarded Section.act
      (vmmSystem hypervisor anySection).guard s := fun lease s =>
    guarded_of_sound (.release lease) s
      ((release_sound trivial trivial trivial (fun _ _ _ _ _ => trivial) trivial).bind
        fun _ => trivial)
  exact ⟨⟨.register _, rfl⟩, guarded_of_sound (.register _) _ ⟨trivial, fun _ _ _ _ => trivial⟩,
    ⟨.registerAdapter _, rfl⟩,
    guarded_of_sound (.registerAdapter _) _ ⟨Or.inl rfl, fun _ _ _ _ => trivial⟩,
    ⟨.leaseExclusive _ _ _, rfl⟩, hlease "alice" _,
    ⟨.attach _ _, rfl⟩, hattach ⟨1, "vm.0", "alice"⟩ _,
    ⟨.release _, rfl⟩, hrelease ⟨1, "vm.0", "alice"⟩ _,
    ⟨.leaseExclusive _ _ _, rfl⟩, hlease "bob" _,
    ⟨.attach _ _, rfl⟩, hattach ⟨2, "vm.0", "bob"⟩ _, trivial⟩

/-- The first `attach` finds nothing in place. -/
theorem handedOver_first : HandedOver hypervisor
    (.attach (vmDevice "a") "cloud-hypervisor" ⟨1, "vm.0", "alice"⟩)
    (afterCalls (start newVmm) leaseVm) := by
  intro _ _ _ apiSocket hmem
  have hnone : hypervisor.found (vmDevice "a")
      (afterCalls (start newVmm) leaseVm).world = [] := by
    with_unfolding_all rfl
  rw [hnone] at hmem
  cases hmem

/-- The second one finds the VM that the first one launched. -/
theorem handedOver_second : HandedOver hypervisor
    (.attach (vmDevice "a") "cloud-hypervisor" ⟨1, "vm.0", "alice"⟩)
    (afterCalls (start newVmm) (leaseVm ++ [attachAlice])) := by
  intro _ _ _ apiSocket hmem _
  have hsockets : hypervisor.found (vmDevice "a")
      (afterCalls (start newVmm) (leaseVm ++ [attachAlice])).world = ["a.sock", "a.sock"] := by
    with_unfolding_all rfl
  rw [hsockets] at hmem
  obtain rfl : apiSocket = "a.sock" := by simpa using hmem
  decide +kernel

theorem seqSchedule_reattach :
    (vmmSystem hypervisor (HandedOver hypervisor)).SeqSchedule (start newVmm) reattach := by
  refine ⟨⟨.register _, rfl⟩, ⟨⟨trivial, trivial⟩, trivial⟩,
    ⟨.registerAdapter _, rfl⟩, ⟨⟨Or.inl rfl, trivial⟩, trivial⟩,
    ⟨.leaseExclusive _ _ _, rfl⟩, ⟨⟨trivial, trivial⟩, ?_⟩,
    ⟨.attach _ _, rfl⟩, ⟨⟨trivial, trivial⟩, ?_⟩,
    ⟨.attach _ _, rfl⟩, ⟨⟨trivial, trivial⟩, ?_⟩, trivial⟩
  · with_unfolding_all exact ⟨⟨trivial, trivial⟩, trivial⟩
  · have h := handedOver_first
    with_unfolding_all exact ⟨⟨trivial, h⟩, trivial⟩
  · have h := handedOver_second
    with_unfolding_all exact ⟨⟨trivial, h⟩, trivial⟩
end Scenario
open Scenario in
theorem vm_isolation_reattach :
    (afterCalls (start newVmm) reattach).world.events.length = 2 ∧
      Isolated (afterCalls (start newVmm) reattach).world.events := by
  have hinit : (vmmSystem hypervisor (HandedOver hypervisor)).SeqReachable (start newVmm) :=
    .init _ ⟨⟨rfl, rfl⟩, rfl, rfl⟩
  refine ⟨by rw [events_reattach]; rfl, ?_⟩
  exact vm_isolation hypervisor (hinit.schedule seqSchedule_reattach).reachable

open Scenario in
/-- Without the guard, the next holder of the lease gets the VM of the former one. -/
theorem former_vm_reused :
    ¬ ∀ c : Config (@Section.Reply (VmmState Unit)) (Shared (VmmState Unit)) Unit,
      (vmmSystem hypervisor anySection).Reachable c → Isolated c.state.world.events := by
  intro hall
  have hinit : (vmmSystem hypervisor anySection).SeqReachable (start newVmm) :=
    .init _ ⟨⟨rfl, rfl⟩, rfl, rfl⟩
  have hreach : (vmmSystem hypervisor anySection).Reachable
      ⟨afterCalls (start newVmm) nextHolder, []⟩ :=
    (hinit.schedule seqSchedule_nextHolder).reachable
  have hisolated := hall _ hreach
  dsimp only at hisolated
  rw [events_nextHolder] at hisolated
  have hid : (1 : UInt64) = 2 := hisolated.1 "a.sock" List.mem_cons_self 1 rfl
  exact absurd hid (by decide)

end NautiFabric
