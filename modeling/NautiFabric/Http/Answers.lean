import NautiFabric.Http.Message
import NautiFabric.Http.Truncation
import NautiFabric.Plan.Placement

/-!
# NautiFabric.Http.Answers — what an ask makes of an answer

A head answers with a fragment or refuses, and both travel as a status, fields and a
body.

* `ask_head_answers` — the fragment that is returned is the one in the body. Nobody
  compares it with the ask; a fragment that `head_plan` gave for the ask does name it.
* `refusals_survive` — a refusal of `head_plan`, written as a response, is read back as
  a refusal of its kind.
-/

namespace NautiFabric

open Select

variable {N : Type} {std : Platform N} {json : PlanJson N} {socket : Socket} {baseUrl : String}
  {req : PlanRequest}

/-! ## Fragments -/

/-- The bytes are a response with a 2xx status, and the fragment is its body. -/
def CarriesFragment (json : PlanJson N) (raw : List UInt8) (f : PlanFragment N) : Prop :=
  ∃ status headers resp, parseHttpResponse raw = some (status, headers, resp) ∧
    (200 ≤ status ∧ status ≤ 299) ∧ json.fragment resp = .ok f

theorem askHead_ok_iff {raw : List UInt8} (h : Receives std json socket baseUrl req raw)
    (f : PlanFragment N) :
    askHead std json socket baseUrl req = .ok f ↔ CarriesFragment json raw f := by
  constructor
  · intro hask
    obtain ⟨host', port', body', raw', status, headers, resp, hurl', hbody', hdelivers', hparse,
      hstatus, hfragment⟩ := askHead_ok hask
    obtain ⟨host, port, body, hurl, hbody, hdelivers⟩ := h
    -- there is one request, and so one answer to it
    obtain ⟨rfl, rfl⟩ := Prod.mk.inj (Except.ok.inj (hurl.symm.trans hurl'))
    obtain rfl := Except.ok.inj (hbody.symm.trans hbody')
    obtain rfl := Except.ok.inj (hdelivers.read.symm.trans hdelivers'.read)
    exact ⟨status, headers, resp, hparse, hstatus, hfragment⟩
  · rintro ⟨status, headers, resp, hparse, hstatus, hfragment⟩
    rw [askHead_of_receives h hparse, readAnswer, if_pos hstatus, hfragment]

/-- An ask returns the fragment that it receives, whatever node and role this names; it is
for this ask if a head has planned it for this ask. -/
theorem ask_head_answers (std : Platform N) (json : PlanJson N) (socket : Socket)
    (baseUrl : String) (req : PlanRequest) {raw : List UInt8}
    (h : Receives std json socket baseUrl req raw) :
    (∀ f, askHead std json socket baseUrl req = .ok f ↔ CarriesFragment json raw f) ∧
      ∀ f view roles, askHead std json socket baseUrl req = .ok f →
        headPlan std req view roles = .ok f → f.nodeId = req.nodeId ∧ f.role = req.role := by
  constructor
  · intro f
    exact askHead_ok_iff h f
  · intro f view roles _ hplan
    have hanswers := answers_headPlan hplan
    exact ⟨hanswers.nodeId, hanswers.role⟩

open Scenario in
theorem receives_okResponse (nodeId role : String) :
    Receives rationals oneFragment (delivers okResponse) "http://head" ⟨nodeId, role⟩
      okResponse := by
  refine ⟨"head", 8080, _, ?_, rfl, ⟨rfl, rfl, rfl, rfl⟩⟩
  decide +kernel

open Scenario in
theorem ask_head_answers_coder :
    askHead rationals oneFragment (delivers okResponse) "http://head" askFromA =
      .ok fragmentFromB := by
  refine ((ask_head_answers rationals oneFragment (delivers okResponse) "http://head" askFromA
    (receives_okResponse _ _)).1 fragmentFromB).mpr ?_
  refine ⟨200, ∅, fragmentText, ?_, by decide, by decide +kernel⟩
  decide +kernel

open Scenario in
/-- The fragment is for another node and for another role. -/
theorem misaddressed_answer_accepted :
    askHead rationals oneFragment (delivers okResponse) "http://head" ⟨"node-c", "planner"⟩ =
        .ok fragmentFromB ∧
      fragmentFromB.nodeId ≠ "node-c" ∧ fragmentFromB.role ≠ "planner" := by
  refine ⟨?_, by decide +kernel, by decide +kernel⟩
  decide +kernel

/-! ## Refusals -/

/-- The constraint that a header field can hold: a text of one line, without white space
around it. -/
def PlanReject.sentConstraint : PlanReject → Option String
  | escalateNowhere (some text) =>
    if text ≠ "" ∧ trim text = text ∧ text.toList.all fun c => c != '\r' && c != '\n' then
      some text
    else none
  | _ => none

/-- A refusal written as a response: its status, the constraint in a field if there is one
to send, and any other fields and any body. -/
structure RefusalMessage (e : PlanReject) where
  head : MessageHead
  body : List UInt8
  status : e.httpStatus = some head.status
  constraint : ∀ value,
    (∃ field ∈ head.fields, field.key = "x-escalate-constraint" ∧ field.value = value) ↔
      e.sentConstraint = some value

namespace RefusalMessage

variable {e : PlanReject}

def render (message : RefusalMessage e) : List UInt8 := message.head.render ++ message.body

theorem lastValue_eq (message : RefusalMessage e) :
    HeaderField.lastValue message.head.fields "x-escalate-constraint" = e.sentConstraint := by
  rcases hlast : HeaderField.lastValue message.head.fields "x-escalate-constraint" with _ | value
  · rcases hsent : e.sentConstraint with _ | text
    · rfl
    · -- the field of the constraint would have a last value
      obtain ⟨field, hmem, hkey, -⟩ := (message.constraint text).mpr hsent
      have hsome := HeaderField.lastValue_isSome hmem
      rw [hkey, hlast] at hsome
      cases hsome
  · obtain ⟨field, hmem, hkey, hvalue⟩ := HeaderField.exists_of_lastValue hlast
    exact ((message.constraint value).mp ⟨field, hmem, hkey, hvalue⟩).symm

end RefusalMessage

/-- The other refusal has the same status; it is of the same kind and says the same, as
far as this was sent. -/
structure SameRefusal (e e' : PlanReject) : Prop where
  status : e'.httpStatus = e.httpStatus
  token : (∃ constraint, e = .escalateNowhere constraint) ∨ (∃ role, e = .unknownRole role) →
    e'.reasonToken = e.reasonToken
  role : ∀ role, e = .unknownRole role → e' = .unknownRole role
  constraint : ∀ text, e.sentConstraint = some text →
    e = .escalateNowhere (some text) ∧ e' = .escalateNowhere (some text)

theorem sentConstraint_eq_some {e : PlanReject} {text : String}
    (h : e.sentConstraint = some text) :
    e = .escalateNowhere (some text) ∧ (trim text).isEmpty = false := by
  unfold PlanReject.sentConstraint at h
  split at h
  · split_ifs at h with hsent
    obtain rfl := Option.some.inj h
    refine ⟨rfl, ?_⟩
    rw [hsent.2.1]
    simpa using hsent.1
  · cases h

/-- `head_plan` refuses for a missing field, for the role of the ask, or for the fleet. -/
theorem headPlan_error {view : FleetView N} {roles : RoleCatalogue} {e : PlanReject}
    (h : headPlan std req view roles = .error e) :
    (∃ field, e = .missingField field) ∨ e = .unknownRole req.role ∨
      ∃ constraint, e = .escalateNowhere constraint := by
  rcases hvalid : validateAsk req roles with e' | ⟨⟩
  · have hsame : headPlan std req view roles = .error e' := by
      simp only [headPlan, hvalid]
      rfl
    obtain rfl := Except.error.inj (hsame.symm.trans h)
    unfold validateAsk at hvalid
    split_ifs at hvalid
    · exact Or.inl ⟨_, (Except.error.inj hvalid).symm⟩
    · exact Or.inl ⟨_, (Except.error.inj hvalid).symm⟩
    · exact Or.inr (Or.inl (Except.error.inj hvalid).symm)
  · rcases hslot : view.bestSlot std req.nodeId req.role with _ | slot
    · rcases hscan : scan (Offer.better std) (offers std req view) with _ | offer
      · rw [headPlan_nowhere hvalid hslot hscan] at h
        exact Or.inr (Or.inr ⟨_, (Except.error.inj h).symm⟩)
      · rw [headPlan_remote hvalid hslot hscan] at h
        cases h
    · rw [headPlan_local hvalid hslot] at h
      cases h

/-- A refusal of `head_plan` for an ask, written as a response and received in answer to
this ask, is read as the same refusal. -/
theorem refusals_survive (std : Platform N) (json : PlanJson N) (socket : Socket)
    (baseUrl : String) (req : PlanRequest) (view : FleetView N) (roles : RoleCatalogue)
    {e : PlanReject} (hplan : headPlan std req view roles = .error e)
    (message : RefusalMessage e)
    (hreceives : Receives std json socket baseUrl req message.render) :
    ∃ e', askHead std json socket baseUrl req = .error e' ∧ SameRefusal e e' := by
  obtain ⟨headers, hparse, hheaders⟩ := message.head.parseHttpResponse_render message.body
  rw [askHead_of_receives hreceives hparse]
  have hsent : headers["x-escalate-constraint"]? = e.sentConstraint :=
    (hheaders _).trans message.lastValue_eq
  have hstatus := message.status
  generalize message.head.status = status at hstatus
  -- one refusal for each of the three statuses
  rcases headPlan_error hplan with ⟨field, rfl⟩ | rfl | ⟨constraint, rfl⟩
  · obtain rfl := Option.some.inj hstatus
    refine ⟨_, rfl, rfl, ?_, ?_, ?_⟩
    · rintro (⟨constraint, h⟩ | ⟨role, h⟩)
      · cases h
      · cases h
    · intro role h
      cases h
    · intro text h
      cases h
  · obtain rfl := Option.some.inj hstatus
    refine ⟨_, rfl, rfl, fun _ => rfl, ?_, ?_⟩
    · intro role h
      exact h
    · intro text h
      cases h
  · obtain rfl := Option.some.inj hstatus
    refine ⟨_, rfl, rfl, fun _ => rfl, ?_, ?_⟩
    · intro role h
      cases h
    · intro text h
      obtain ⟨hconstraint, hnonempty⟩ := sentConstraint_eq_some h
      refine ⟨hconstraint, ?_⟩
      rw [hsent, h, Option.filter_some, hnonempty]
      rfl

namespace RefusalScenario

open Scenario

def planner : PlanRequest := ⟨"node-a", "planner"⟩

def nobodyPlans : String := "no healthy unlocked slot serves role planner across 2 host(s)"

def constraintField : HeaderField where
  name := "X-Escalate-Constraint"
  value := nobodyPlans
  name_ne := by decide
  name_plain := by simp
  name_trim := by decide +kernel
  value_plain := by simp [nobodyPlans]
  value_trim := by decide +kernel

def forbidden : RefusalMessage (.escalateNowhere (some nobodyPlans)) where
  head :=
    { status := 403, reason := "Forbidden", fields := [constraintField]
      reason_plain := by simp }
  body := asBytes "escalate-nowhere"
  status := rfl
  constraint := by
    have hsent : PlanReject.sentConstraint (.escalateNowhere (some nobodyPlans)) =
        some nobodyPlans := by decide +kernel
    have hkey : constraintField.key = "x-escalate-constraint" := by decide +kernel
    intro value
    rw [hsent, Option.some.injEq]
    simp only [List.mem_singleton, exists_eq_left, hkey, true_and]
    exact Iff.rfl

end RefusalScenario

open Scenario RefusalScenario in
theorem refusals_survive_planner :
    ∃ e', askHead rationals oneFragment (delivers forbidden.render) "http://head" planner =
      .error e' ∧ SameRefusal (.escalateNowhere (some nobodyPlans)) e' := by
  refine refusals_survive rationals oneFragment (delivers forbidden.render) "http://head" planner
    twoNodes catalogue ?_ forbidden ?_
  · with_unfolding_all rfl
  · refine ⟨"head", 8080, _, ?_, rfl, ⟨rfl, rfl, rfl, rfl⟩⟩
    decide +kernel

end NautiFabric
