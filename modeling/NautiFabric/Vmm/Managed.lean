import NautiFabric.Lib.Interleave
import NautiFabric.Vmm.CloudHypervisor

/-!
# NautiFabric.Vmm.Managed — what `reconcile` tears down

`reconcile` is meant to tear down the VMs that the adapter launched and has not
removed yet. It goes by the managed table, which is keyed by resource id, while
a VM is named by its socket and its name. `Tracked` says that the two agree:
the table holds every outstanding VM once, and nothing else.

Two ways through `attach` break it. A VM found running is put into the table
although the adapter did not launch it; and a launch for a resource that is
managed under another name overwrites the entry of a VM that still runs.
`Branch.KeepsStep` excludes them, and is exact (`tracked_attach_iff`).
-/

namespace NautiFabric

open Interleave

variable {H : Type}

/-! ## The history -/

/-- The VMs launched and not removed since, newest first. -/
def outstanding : List VmmEvent → List VmId
  | [] => []
  | .launched l :: events => l.vm :: outstanding events
  | .removeCalled vm true :: events => (outstanding events).filter fun v => v ≠ vm
  | .removeCalled _ false :: events => outstanding events
  | .reused _ _ :: events => outstanding events

def VmmEvent.removeCall? : VmmEvent → Option VmId
  | .removeCalled vm _ => some vm
  | _ => none

/-- The calls of `remove_vm`, newest first. -/
def removeCalls (events : List VmmEvent) : List VmId := events.filterMap VmmEvent.removeCall?

/-- A `reconcile` from here calls `remove_vm` for the outstanding VMs, once for
each, and for no other. -/
def ReconcileExact (ch : CloudHypervisor H) (st : VmmState H) : Prop :=
  ∀ order : IterOrder, ∃ events, (ch.reconcile order st).2.events = events ++ st.events ∧
    (removeCalls events).Nodup ∧ ∀ vm, vm ∈ removeCalls events ↔ vm ∈ outstanding st.events

/-! ## The runs of the adapter -/

inductive AdapterCall where
  | attach (resource : Resource) (lease : Lease)
  | reconcile (order : IterOrder)

@[reducible] def AdapterCall.Reply : AdapterCall → Type
  | .attach _ _ => Except FabricError Attachment
  | .reconcile _ => List (Except String String)

def CloudHypervisor.act (ch : CloudHypervisor H) :
    (call : AdapterCall) → VmmState H → Option call.Reply × VmmState H
  | .attach resource lease => fun st =>
    let (reply, st) := ch.attach resource lease st
    (some reply, st)
  | .reconcile order => fun st =>
    let (reply, st) := ch.reconcile order st
    (some reply, st)

/-- Calls of the adapter, one after the other; between them the host does what
it likes. -/
def adapterSystem (ch : CloudHypervisor H) (guard : AdapterCall → VmmState H → Prop) :
    Interleave.System AdapterCall.Reply (VmmState H) Unit where
  act := ch.act
  init := VmmState.Fresh
  invocable p := ∃ call, p = (Prog.perform call).ignore
  env st st' := ∃ host, st' = { st with host }
  guard := guard

/-- The ways through `attach` that keep the table in step: nothing is adopted,
and a launch is for a resource and a VM that the table does not have yet. -/
def CloudHypervisor.Branch.KeepsStep (resource : Resource) (st : VmmState H) :
    CloudHypervisor.Branch → Prop
  | .refuse => True
  | .reuse _ => True
  | .adopt _ => False
  | .boot vm => resource.id ∉ st.managed ∧
      ∀ (k : String) (entry : ManagedVm), st.managed[k]? = some entry → entry.vm ≠ vm

/-- Every `attach` takes a way that keeps the table in step. -/
def AttachesInStep (ch : CloudHypervisor H) : AdapterCall → VmmState H → Prop
  | .attach resource _, st => (ch.branch resource st).KeepsStep resource st
  | .reconcile _, _ => True

/-! ## The table -/

/-- Some entry of the table is `vm`. -/
def VmmState.Manages (st : VmmState H) (vm : VmId) : Prop :=
  ∃ (k : String) (entry : ManagedVm), st.managed[k]? = some entry ∧ entry.vm = vm

def VmmState.Keyed (st : VmmState H) : Prop :=
  ∀ (k : String) (entry : ManagedVm), st.managed[k]? = some entry → entry.resourceId = k

/-- The table holds every outstanding VM once, and nothing else. -/
structure Tracked (st : VmmState H) : Prop where
  distinct : ∀ (k k' : String) (entry entry' : ManagedVm), st.managed[k]? = some entry →
    st.managed[k']? = some entry' → entry.vm = entry'.vm → k = k'
  manages_iff : ∀ vm, st.Manages vm ↔ vm ∈ outstanding st.events

theorem mem_entries {st : VmmState H} {order : IterOrder} {entry : ManagedVm} :
    entry ∈ st.entries order ↔ ∃ k : String, st.managed[k]? = some entry := by
  rw [VmmState.entries, List.mem_filterMap]
  constructor
  · rintro ⟨k, -, hk⟩
    exact ⟨k, hk⟩
  · rintro ⟨k, hk⟩
    exact ⟨k, (order.mem_keys _ k).mpr (StringMap.mem_of_getElem? hk), hk⟩

theorem mem_map_entries {st : VmmState H} {order : IterOrder} {vm : VmId} :
    vm ∈ (st.entries order).map ManagedVm.vm ↔ st.Manages vm := by
  simp only [List.mem_map, mem_entries, VmmState.Manages]
  constructor
  · rintro ⟨entry, ⟨k, hk⟩, hvm⟩
    exact ⟨k, entry, hk, hvm⟩
  · rintro ⟨k, entry, hk, hvm⟩
    exact ⟨entry, ⟨k, hk⟩, hvm⟩

/-- The entries of a keyed table are of different resources. -/
theorem nodup_entries {st : VmmState H} (hkeyed : st.Keyed) (order : IterOrder) :
    ((st.entries order).map ManagedVm.resourceId).Nodup := by
  have hsub : ((st.entries order).map ManagedVm.resourceId).Sublist (order.keys st.managed) := by
    unfold VmmState.entries
    induction order.keys st.managed with
    | nil => simp
    | cons k keys ih =>
        rcases hk : st.managed[k]? with _ | entry
        · rw [List.filterMap_cons_none hk]
          exact ih.cons k
        · rw [List.filterMap_cons_some hk, List.map_cons, hkeyed k entry hk]
          exact ih.cons_cons k
  have hkeys : (order.keys st.managed).Nodup := by
    rw [IterOrder.keys, (order.perm _).nodup_iff]
    exact Std.ExtTreeMap.nodup_keys
  exact hsub.nodup hkeys

/-! ## Reconcile -/

/-- The host moves on, the call is noted, and on success the entry goes. -/
theorem removeEntry_cases (ch : CloudHypervisor H) (entry : ManagedVm) (st : VmmState H) :
    ∃ host : H,
      (ch.removeEntry entry st).2 =
        { managed := st.managed.erase entry.resourceId, host,
          events := .removeCalled entry.vm true :: st.events } ∨
      (ch.removeEntry entry st).2 =
        { st with host, events := .removeCalled entry.vm false :: st.events } := by
  unfold CloudHypervisor.removeEntry
  rcases ch.launcher.removeVm entry.apiSocket entry.vmName st.host with ⟨reason | ⟨⟩, host⟩
  · exact ⟨host, Or.inr rfl⟩
  · exact ⟨host, Or.inl rfl⟩

theorem removeEach_events (ch : CloudHypervisor H) (entries : List ManagedVm) (st : VmmState H) :
    ∃ events, (ch.removeEach entries st).2.events = events ++ st.events ∧
      removeCalls events = (entries.map ManagedVm.vm).reverse := by
  induction entries generalizing st with
  | nil => exact ⟨[], rfl, rfl⟩
  | cons entry entries ih =>
      obtain ⟨events, hevents, hcalls⟩ := ih (ch.removeEntry entry st).2
      have hone : ∃ ok, (ch.removeEntry entry st).2.events =
          .removeCalled entry.vm ok :: st.events := by
        obtain ⟨host, hst | hst⟩ := removeEntry_cases ch entry st
        · exact ⟨true, by rw [hst]⟩
        · exact ⟨false, by rw [hst]⟩
      obtain ⟨ok, hone⟩ := hone
      refine ⟨events ++ [.removeCalled entry.vm ok], ?_, ?_⟩
      · have hall : (ch.removeEach (entry :: entries) st).2.events =
            (ch.removeEach entries (ch.removeEntry entry st).2).2.events := rfl
        rw [hall, hevents, hone]
        simp
      · rw [removeCalls, List.filterMap_append]
        rw [removeCalls] at hcalls
        simp [hcalls, VmmEvent.removeCall?]

/-- `reconcile` tears down what is outstanding exactly when the table is in step. -/
theorem reconcileExact_iff_tracked (ch : CloudHypervisor H) {st : VmmState H}
    (hkeyed : st.Keyed) : ReconcileExact ch st ↔ Tracked st := by
  constructor
  · intro hexact
    -- one order of the iteration is enough to read the table off the calls
    obtain ⟨events, hevents, hnodup, hmem⟩ := hexact .sorted
    obtain ⟨events', hevents', hcalls⟩ := removeEach_events ch (st.entries .sorted) st
    have hsame : events = events' := by
      rw [CloudHypervisor.reconcile, hevents'] at hevents
      exact (List.append_cancel_right hevents).symm
    rw [hsame, hcalls] at hnodup hmem
    refine ⟨fun k k' entry entry' hk hk' hvm => ?_, fun vm => ?_⟩
    · have hinj := List.inj_on_of_nodup_map (List.nodup_reverse.mp hnodup)
      have heq : entry = entry' :=
        hinj (mem_entries.mpr ⟨k, hk⟩) (mem_entries.mpr ⟨k', hk'⟩) hvm
      rw [← hkeyed k entry hk, heq, hkeyed k' entry' hk']
    · rw [← hmem vm, List.mem_reverse, mem_map_entries]
  · intro htracked order
    obtain ⟨events, hevents, hcalls⟩ := removeEach_events ch (st.entries order) st
    refine ⟨events, hevents, ?_, fun vm => ?_⟩
    · rw [hcalls, List.nodup_reverse]
      refine List.Nodup.map_on ?_ (List.Nodup.of_map _ (nodup_entries hkeyed order))
      intro entry hentry entry' hentry' hvm
      obtain ⟨k, hk⟩ := mem_entries.mp hentry
      obtain ⟨k', hk'⟩ := mem_entries.mp hentry'
      have hkk : k = k' := htracked.distinct k k' entry entry' hk hk' hvm
      rw [hkk, hk'] at hk
      exact (Option.some.inj hk).symm
    · rw [hcalls, List.mem_reverse, mem_map_entries, htracked.manages_iff vm]

/-! ## What keeps the table keyed -/

theorem VmmState.Keyed.of_managed {st st' : VmmState H} (h : st.Keyed)
    (hmanaged : st'.managed = st.managed) : st'.Keyed := by
  intro k entry hk
  rw [hmanaged] at hk
  exact h k entry hk

theorem VmmState.Keyed.recordManaged {st st' : VmmState H} (h : st.Keyed) {resource : Resource}
    {vm : VmId} (hmanaged : st'.managed = (st.recordManaged resource vm).managed) : st'.Keyed := by
  intro k entry hk
  rw [hmanaged, VmmState.recordManaged, Std.ExtTreeMap.getElem?_insert] at hk
  split at hk
  · rename_i hcmp
    obtain rfl := Option.some.inj hk
    simpa using hcmp
  · exact h k entry hk

theorem VmmState.Keyed.erase {st st' : VmmState H} (h : st.Keyed) {resourceId : String}
    (hmanaged : st'.managed = st.managed.erase resourceId) : st'.Keyed := by
  intro k entry hk
  rw [hmanaged, Std.ExtTreeMap.getElem?_erase] at hk
  split at hk
  · cases hk
  · exact h k entry hk

theorem keyed_attach (ch : CloudHypervisor H) (resource : Resource) (lease : Lease)
    {st : VmmState H} (h : st.Keyed) : (ch.attach resource lease st).2.Keyed := by
  have hrun := ch.attach_attaches resource lease st
  generalize ch.branch resource st = branch at hrun
  generalize ch.attach resource lease st = result at hrun
  cases hrun with
  | refuse => exact h.of_managed rfl
  | reuse => exact h.of_managed rfl
  | adopt => exact h.recordManaged rfl
  | boot => exact h.recordManaged rfl

theorem keyed_removeEntry (ch : CloudHypervisor H) (entry : ManagedVm) {st : VmmState H}
    (h : st.Keyed) : (ch.removeEntry entry st).2.Keyed := by
  obtain ⟨host, hst | hst⟩ := removeEntry_cases ch entry st
  · exact h.erase (by rw [hst])
  · exact h.of_managed (by rw [hst])

theorem keyed_removeEach (ch : CloudHypervisor H) (entries : List ManagedVm) {st : VmmState H}
    (h : st.Keyed) : (ch.removeEach entries st).2.Keyed := by
  induction entries generalizing st with
  | nil => exact h
  | cons entry entries ih => exact ih (keyed_removeEntry ch entry h)

/-! ## What keeps the table in step -/

theorem Tracked.of_same {st st' : VmmState H} (h : Tracked st)
    (hmanaged : st'.managed = st.managed)
    (hevents : outstanding st'.events = outstanding st.events) : Tracked st' := by
  refine ⟨?_, fun vm => ?_⟩
  · rw [hmanaged]
    exact h.distinct
  · rw [VmmState.Manages, hmanaged, hevents]
    exact h.manages_iff vm

section Record

variable {st st' : VmmState H} {resource : Resource} {vm : VmId}
  (hmanaged : st'.managed = (st.recordManaged resource vm).managed)

include hmanaged

theorem getElem?_recorded_self :
    st'.managed[resource.id]? = some ⟨resource.id, vm.apiSocket, vm.vmName⟩ := by
  rw [hmanaged]
  exact Std.ExtTreeMap.getElem?_insert_self

theorem getElem?_recorded_ne {k : String} (hk : k ≠ resource.id) :
    st'.managed[k]? = st.managed[k]? := by
  rw [hmanaged, VmmState.recordManaged, Std.ExtTreeMap.getElem?_insert, if_neg]
  simpa using Ne.symm hk

theorem recorded_cases {k : String} {entry : ManagedVm} (hk : st'.managed[k]? = some entry) :
    (k = resource.id ∧ entry.vm = vm) ∨ (k ≠ resource.id ∧ st.managed[k]? = some entry) := by
  by_cases hkey : k = resource.id
  · subst hkey
    rw [getElem?_recorded_self hmanaged] at hk
    obtain rfl := Option.some.inj hk
    exact Or.inl ⟨rfl, rfl⟩
  · rw [getElem?_recorded_ne hmanaged hkey] at hk
    exact Or.inr ⟨hkey, hk⟩

/-- Adopting a VM always puts the table out of step: the VM is either none that
the adapter launched, or one that the table already holds. -/
theorem not_tracked_adopt (h : Tracked st) (hother : CloudHypervisor.Unmanaged st resource vm)
    (hevents : outstanding st'.events = outstanding st.events) : ¬ Tracked st' := by
  intro h'
  have hself := getElem?_recorded_self hmanaged
  have hout : vm ∈ outstanding st.events := by
    rw [← hevents, ← h'.manages_iff vm]
    exact ⟨resource.id, _, hself, rfl⟩
  obtain ⟨k, entry, hk, hvm⟩ := (h.manages_iff vm).mpr hout
  by_cases hkey : k = resource.id
  · subst hkey
    have hname : entry.vmName = vm.vmName := by rw [← hvm]; rfl
    exact hother entry hk hname
  · have hk' : st'.managed[k]? = some entry := by rw [getElem?_recorded_ne hmanaged hkey, hk]
    exact hkey (h'.distinct k resource.id entry _ hk' hself hvm)

/-- If a launch keeps the table in step, the resource had no entry: the VM of
that entry is still outstanding, and no other entry has it. -/
theorem free_of_tracked_boot (h : Tracked st) (h' : Tracked st')
    (hother : CloudHypervisor.Unmanaged st resource vm)
    (hevents : outstanding st'.events = vm :: outstanding st.events) :
    resource.id ∉ st.managed := by
  intro hmem
  obtain ⟨old, hold⟩ := StringMap.exists_getElem? hmem
  have hout : old.vm ∈ outstanding st'.events := by
    rw [hevents]
    exact List.mem_cons_of_mem _ ((h.manages_iff _).mp ⟨resource.id, old, hold, rfl⟩)
  obtain ⟨k, entry, hk, hvm⟩ := (h'.manages_iff _).mpr hout
  -- the new entry has another name, an old one another resource
  rcases recorded_cases hmanaged hk with ⟨-, hnew⟩ | ⟨hkey, hk⟩
  · have hname : old.vmName = vm.vmName := congrArg VmId.vmName (hvm.symm.trans hnew)
    exact hother old hold hname
  · exact hkey (h.distinct k resource.id entry old hk hold hvm)

/-- A launch for a resource and a VM that the table does not have. -/
theorem Tracked.boot (h : Tracked st) (hfree : resource.id ∉ st.managed)
    (hnew : ∀ (k : String) (entry : ManagedVm), st.managed[k]? = some entry → entry.vm ≠ vm)
    (hevents : outstanding st'.events = vm :: outstanding st.events) : Tracked st' := by
  refine ⟨fun k k' entry entry' hk hk' hvm => ?_, fun v => ?_⟩
  · rcases recorded_cases hmanaged hk with ⟨rfl, he⟩ | ⟨-, hk⟩
    · rcases recorded_cases hmanaged hk' with ⟨rfl, -⟩ | ⟨-, hk'⟩
      · rfl
      · exact absurd (hvm.symm.trans he) (hnew k' entry' hk')
    · rcases recorded_cases hmanaged hk' with ⟨rfl, he'⟩ | ⟨-, hk'⟩
      · exact absurd (hvm.trans he') (hnew k entry hk)
      · exact h.distinct k k' entry entry' hk hk' hvm
  · rw [hevents, List.mem_cons, ← h.manages_iff v]
    constructor
    · rintro ⟨k, entry, hk, hvm⟩
      rcases recorded_cases hmanaged hk with ⟨-, he⟩ | ⟨-, hk⟩
      · exact Or.inl (hvm.symm.trans he)
      · exact Or.inr ⟨k, entry, hk, hvm⟩
    · rintro (rfl | ⟨k, entry, hk, hvm⟩)
      · exact ⟨resource.id, _, getElem?_recorded_self hmanaged, rfl⟩
      · have hkey : k ≠ resource.id := by
          rintro rfl
          exact hfree (StringMap.mem_of_getElem? hk)
        exact ⟨k, entry, (getElem?_recorded_ne hmanaged hkey).trans hk, hvm⟩

/-- A launch keeps the table in step exactly when the table had neither the
resource nor the VM. -/
theorem tracked_boot_iff (h : Tracked st) (hother : CloudHypervisor.Unmanaged st resource vm)
    (hevents : outstanding st'.events = vm :: outstanding st.events) :
    Tracked st' ↔ resource.id ∉ st.managed ∧
      ∀ (k : String) (entry : ManagedVm), st.managed[k]? = some entry → entry.vm ≠ vm := by
  constructor
  · intro h'
    have hfree := free_of_tracked_boot hmanaged h h' hother hevents
    refine ⟨hfree, fun k entry hk hvm => ?_⟩
    have hkey : k ≠ resource.id := by
      rintro rfl
      exact hfree (StringMap.mem_of_getElem? hk)
    have hk' : st'.managed[k]? = some entry := (getElem?_recorded_ne hmanaged hkey).trans hk
    exact hkey (h'.distinct k resource.id entry _ hk' (getElem?_recorded_self hmanaged) hvm)
  · rintro ⟨hfree, hnew⟩
    exact h.boot hmanaged hfree hnew hevents

end Record

theorem tracked_attach_iff (ch : CloudHypervisor H) (resource : Resource) (lease : Lease)
    {st : VmmState H} (h : Tracked st) :
    Tracked (ch.attach resource lease st).2 ↔ (ch.branch resource st).KeepsStep resource st := by
  have hrun := ch.attach_attaches resource lease st
  generalize ch.branch resource st = branch at hrun
  generalize ch.attach resource lease st = result at hrun
  cases hrun with
  | refuse => exact iff_of_true (h.of_same rfl rfl) trivial
  | reuse => exact iff_of_true (h.of_same rfl rfl) trivial
  | adopt binary host hother => exact iff_of_false (not_tracked_adopt (by rfl) h hother rfl) id
  | @boot vm binary host hother => exact tracked_boot_iff (by rfl) h hother (by rfl)

/-- The turn of `reconcile` for an entry that the table still holds. -/
theorem Tracked.removeEntry {st : VmmState H} (h : Tracked st) (ch : CloudHypervisor H)
    {entry : ManagedVm} (hentry : st.managed[entry.resourceId]? = some entry) :
    Tracked (ch.removeEntry entry st).2 := by
  obtain ⟨host, hst | hst⟩ := removeEntry_cases ch entry st
  · rw [hst]
    have hget : ∀ (k : String) (e : ManagedVm),
        (st.managed.erase entry.resourceId)[k]? = some e ↔
          k ≠ entry.resourceId ∧ st.managed[k]? = some e := by
      intro k e
      rw [Std.ExtTreeMap.getElem?_erase]
      by_cases hk : k = entry.resourceId
      · simp [hk]
      · have hne : entry.resourceId ≠ k := Ne.symm hk
        simp [hk, hne]
    refine ⟨fun k k' e e' hk hk' hvm => ?_, fun vm => ?_⟩
    · exact h.distinct k k' e e' ((hget k e).mp hk).2 ((hget k' e').mp hk').2 hvm
    · -- the erased entry was the only one of its VM
      have hmem : vm ∈ outstanding (.removeCalled entry.vm true :: st.events) ↔
          st.Manages vm ∧ vm ≠ entry.vm := by
        simp [outstanding, h.manages_iff vm]
      rw [hmem]
      constructor
      · rintro ⟨k, e, hk, rfl⟩
        obtain ⟨hne, hk⟩ := (hget k e).mp hk
        exact ⟨⟨k, e, hk, rfl⟩, fun hvm => hne (h.distinct k _ e entry hk hentry hvm)⟩
      · rintro ⟨⟨k, e, hk, rfl⟩, hvm⟩
        refine ⟨k, e, (hget k e).mpr ⟨?_, hk⟩, rfl⟩
        rintro rfl
        rw [hentry] at hk
        exact hvm (congrArg ManagedVm.vm (Option.some.inj hk).symm)
  · rw [hst]
    exact h.of_same rfl rfl

/-- A turn for one entry leaves the entries of the other resources. -/
theorem getElem?_removeEntry_ne (ch : CloudHypervisor H) (entry : ManagedVm) (st : VmmState H)
    {k : String} (hk : k ≠ entry.resourceId) :
    (ch.removeEntry entry st).2.managed[k]? = st.managed[k]? := by
  obtain ⟨host, hst | hst⟩ := removeEntry_cases ch entry st
  · rw [hst, Std.ExtTreeMap.getElem?_erase, if_neg]
    simpa using Ne.symm hk
  · rw [hst]

/-- The loop of `reconcile`, by induction on the entries that are left: they are
still in the table, since those before them were of other resources. -/
theorem Tracked.removeEach (ch : CloudHypervisor H) {entries : List ManagedVm}
    {st : VmmState H} (h : Tracked st)
    (hentries : ∀ entry ∈ entries, st.managed[entry.resourceId]? = some entry)
    (hnodup : (entries.map ManagedVm.resourceId).Nodup) : Tracked (ch.removeEach entries st).2 := by
  induction entries generalizing st with
  | nil => exact h
  | cons entry entries ih =>
      obtain ⟨hfirst, hnodup⟩ := List.nodup_cons.mp hnodup
      have hentry : st.managed[entry.resourceId]? = some entry := hentries entry (by simp)
      refine ih (h.removeEntry ch hentry) (fun other hother => ?_) hnodup
      have hne : other.resourceId ≠ entry.resourceId := by
        intro heq
        exact hfirst (heq ▸ List.mem_map_of_mem hother)
      have hkept := getElem?_removeEntry_ne ch entry st hne
      rw [hentries other (by simp [hother])] at hkept
      exact hkept

theorem Tracked.reconcile (ch : CloudHypervisor H) (order : IterOrder) {st : VmmState H}
    (h : Tracked st) (hkeyed : st.Keyed) : Tracked (ch.reconcile order st).2 := by
  refine h.removeEach ch (fun entry hentry => ?_) (nodup_entries hkeyed order)
  obtain ⟨k, hk⟩ := mem_entries.mp hentry
  rwa [hkeyed k entry hk]

/-! ## Every run -/

/-- The table is keyed and in step. -/
def InStep (st : VmmState H) : Prop := st.Keyed ∧ Tracked st

theorem InStep.fresh {st : VmmState H} (h : st.Fresh) : InStep st := by
  obtain ⟨hmanaged, hevents⟩ := h
  have hnone : ∀ (k : String) (entry : ManagedVm), st.managed[k]? ≠ some entry := by
    intro k entry hk
    simp [hmanaged] at hk
  refine ⟨fun k entry hk => absurd hk (hnone k entry),
    fun k _ entry _ hk => absurd hk (hnone k entry), fun vm => ?_⟩
  rw [hevents]
  refine iff_of_false ?_ (by simp [outstanding])
  rintro ⟨k, entry, hk, -⟩
  exact hnone k entry hk

theorem InStep.act {ch : CloudHypervisor H} {st : VmmState H} (h : InStep st) {call : AdapterCall}
    (hg : AttachesInStep ch call st) : InStep (ch.act call st).2 := by
  obtain ⟨hkeyed, htracked⟩ := h
  cases call with
  | attach resource lease =>
      exact ⟨keyed_attach ch resource lease hkeyed,
        (tracked_attach_iff ch resource lease htracked).mpr hg⟩
  | reconcile order =>
      exact ⟨keyed_removeEach ch (st.entries order) hkeyed, htracked.reconcile ch order hkeyed⟩

theorem inStep_reachable {ch : CloudHypervisor H} {st : VmmState H}
    (h : (adapterSystem ch (AttachesInStep ch)).SeqReachable st) : InStep st := by
  refine h.invariant InStep (fun st hst => .fresh hst) ?_ ?_
  · rintro p st ⟨call, rfl⟩ hst
    exact Prog.Leaves.ignore (Prog.leaves_perform hst.act)
  · rintro st st' ⟨host, rfl⟩ ⟨hkeyed, htracked⟩
    exact ⟨hkeyed.of_managed rfl, htracked.of_same rfl rfl⟩

/-- In a run whose attaches keep the table in step, every `reconcile` tears down
exactly the outstanding VMs; and the next `attach` keeps it so exactly when it
takes one of these ways. -/
theorem reconcile_exact (ch : CloudHypervisor H) {st : VmmState H}
    (h : (adapterSystem ch (AttachesInStep ch)).SeqReachable st) :
    ReconcileExact ch st ∧ ∀ resource lease, ReconcileExact ch (ch.attach resource lease st).2 ↔
      (ch.branch resource st).KeepsStep resource st := by
  obtain ⟨hkeyed, htracked⟩ := inStep_reachable h
  refine ⟨(reconcileExact_iff_tracked ch hkeyed).mpr htracked, fun resource lease => ?_⟩
  rw [reconcileExact_iff_tracked ch (keyed_attach ch resource lease hkeyed)]
  exact tracked_attach_iff ch resource lease htracked

/-! ## A launch, and a launch over it -/

section Runs

open Scenario

/-- An `attach` of the device under the given VM name. -/
def attachVm (vmName : String) : System.Move AdapterCall.Reply (VmmState Unit) Unit :=
  .invoke (Prog.perform (.attach (vmDevice vmName) ⟨1, "vm.0", "alice"⟩)).ignore

def afterAttaches (vmNames : List String) : VmmState Unit :=
  (vmNames.map attachVm).foldl (System.seqExec hypervisor.act) newVmm

/-- After one launch the next `reconcile` tears down that VM. -/
theorem reconcile_exact_launched :
    outstanding (afterAttaches ["a"]).events = [⟨"a.sock", "a"⟩] ∧
      ReconcileExact hypervisor (afterAttaches ["a"]) := by
  have hbranch : hypervisor.branch (vmDevice "a") newVmm = .boot ⟨"a.sock", "a"⟩ := by
    with_unfolding_all rfl
  have hkeeps : (hypervisor.branch (vmDevice "a") newVmm).KeepsStep (vmDevice "a") newVmm := by
    rw [hbranch]
    exact ⟨by simp [newVmm], fun k entry hk => by simp [newVmm] at hk⟩
  have hinit : (adapterSystem hypervisor (AttachesInStep hypervisor)).SeqReachable newVmm :=
    .init _ ⟨rfl, rfl⟩
  have hreach : (adapterSystem hypervisor (AttachesInStep hypervisor)).SeqReachable
      (afterAttaches ["a"]) :=
    hinit.step (.call _ ⟨_, rfl⟩ ⟨hkeeps, trivial⟩)
  exact ⟨by decide +kernel, (reconcile_exact hypervisor hreach).1⟩

/-- The resource comes back with another VM name and socket: the entry of the
first VM is overwritten, and no `reconcile` tears that VM down. -/
theorem vm_forgotten :
    ¬ ∀ st : VmmState Unit, (adapterSystem hypervisor fun _ _ => True).SeqReachable st →
      ReconcileExact hypervisor st := by
  intro hall
  have hinit : (adapterSystem hypervisor fun _ _ => True).SeqReachable newVmm := .init _ ⟨rfl, rfl⟩
  have hreach : (adapterSystem hypervisor fun _ _ => True).SeqReachable
      (afterAttaches ["a", "b"]) := by
    apply hinit.schedule
    apply System.seqSchedule_of_admits
    · intro _ _
      trivial
    · exact ⟨⟨_, rfl⟩, ⟨_, rfl⟩, trivial⟩
  obtain ⟨events, hevents, -, hmem⟩ := hall _ hreach .sorted
  have hcalls : (hypervisor.reconcile .sorted (afterAttaches ["a", "b"])).2.events =
      [.removeCalled ⟨"b.sock", "b"⟩ true] ++ (afterAttaches ["a", "b"]).events := by
    decide +kernel
  rw [hcalls] at hevents
  have hfirst := (hmem ⟨"a.sock", "a"⟩).mpr (by decide +kernel)
  rw [← List.append_cancel_right hevents] at hfirst
  simp [removeCalls, VmmEvent.removeCall?] at hfirst

end Runs

end NautiFabric
