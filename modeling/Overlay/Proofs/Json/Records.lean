import Overlay.Http.Client
import Overlay.Message.Downward
import Overlay.Message.Request
import Overlay.Message.Upward
import Overlay.Proofs.Json.RoundTrip
import Overlay.Proofs.Table
import Overlay.Tier.Registration

/-!
# Records on the wire and in a store

Every record and every message is read back as it was written (`records_survive`): from a text, from
a value that was held back, from a table of documents, and from the envelope of an answer.

A record is checked member by member (`Json.Record.Faithful.field`). What is left to see is that no
name occurs twice, and that the record is put together from its members as they were taken apart.
-/

namespace Overlay

open Json

/-! ## Jobs -/

namespace Network

/-- The members of a network. -/
theorem record_faithful : record.Faithful
    ["host_port", "host_ip", "namespace_ip_v6", "namespace_ip"] id :=
  (Record.start_faithful _)
    |>.field (Member.optional_text _) _ (by decide)
    |>.field (Member.optional_text _) _ (by decide)
    |>.field (Member.optional_text _) _ (by decide)
    |>.field (Member.optional_uint16 _) _ (by decide)

end Network

namespace Instance

/-- The members of an instance. -/
theorem record_faithful : record.Faithful
    ["cluster_id", "worker_id", "host_port", "host_ip", "namespace_ip_v6", "namespace_ip",
      "instance_ip_v6", "instance_ip", "instance_number"] id :=
  (Record.start_faithful _)
    |>.field (Member.required_uint32 _) _ (by decide)
    |>.field (Member.optional_text _) _ (by decide)
    |>.field (Member.optional_text _) _ (by decide)
    |>.field (Member.optional_text _) _ (by decide)
    |>.field (Member.optional_text _) _ (by decide)
    |>.field (Member.optional_text _) _ (by decide)
    |>.field (Member.optional_uint16 _) _ (by decide)
    |>.field (Member.optional_text _) _ (by decide)
    |>.field (Member.optional_text _) _ (by decide)

theorem form_faithful : form.Faithful :=
  record_faithful.form fun _ => rfl

end Instance

namespace ServiceAddress

theorem kindForm_faithful : (Form.choice Kind.name [.roundRobin, .oneInstance]).Faithful :=
  Form.choice_faithful (fun kind => by cases kind <;> decide) (by decide)

theorem form_faithful : form.Faithful :=
  (Record.start_faithful _)
    |>.field (Member.required_faithful kindForm_faithful) _ (by decide)
    |>.field (Member.optional_text _) _ (by decide)
    |>.field (Member.optional_text _) _ (by decide)
    |>.form fun _ => rfl

end ServiceAddress

namespace Job

/-- Only the empty set is left out. -/
theorem partiesMember_faithful : partiesMember.Faithful :=
  Member.faithful_of_form Form.names_faithful fun s hs => by
    have hempty : s.isEmpty = true := by simpa [partiesMember] using hs
    exact congrArg some (NameSet.eq_empty_of_isEmpty hempty).symm

theorem form_faithful : form.Faithful :=
  (Record.start_faithful _)
    |>.field (Member.required_text _) _ (by decide)
    |>.field (Member.defaulted_faithful Form.text_faithful) _ (by decide)
    |>.field (Member.defaulted_faithful ServiceAddress.form_faithful.list) _ (by decide)
    |>.field (Member.defaulted_faithful Instance.form_faithful.list) _ (by decide)
    |>.field (Member.defaulted_faithful Form.uint32_faithful) _ (by decide)
    |>.field partiesMember_faithful _ (by decide)
    |>.form fun _ => rfl

end Job

/-! ## Clusters, workers and gateways -/

theorem Cluster.Status.form_faithful : form.Faithful :=
  Form.choice_faithful (fun status => by cases status <;> decide) (by decide)

theorem Cluster.form_faithful : form.Faithful :=
  (Record.start_faithful _)
    |>.field (Member.required_text _) _ (by decide)
    |>.field (Member.required_text _) _ (by decide)
    |>.field (Member.required_uint16 _) _ (by decide)
    |>.field (Member.required_faithful Status.form_faithful) _ (by decide)
    |>.form fun _ => rfl

theorem WorkerNode.form_faithful : form.Faithful :=
  (Record.start_faithful _)
    |>.field (Member.required_text _) _ (by decide)
    |>.field (Member.optional_text _) _ (by decide)
    |>.field (Member.optional_text _) _ (by decide)
    |>.form fun _ => rfl

theorem ExposedService.form_faithful : form.Faithful :=
  (Record.start_faithful _)
    |>.field (Member.required_text _) _ (by decide)
    |>.field (Member.required_text _) _ (by decide)
    |>.field (Member.required_uint16 _) _ (by decide)
    |>.field (Member.required_uint16 _) _ (by decide)
    |>.form fun _ => rfl

namespace Gateway

/-- Only a list without services is left out. -/
theorem servicesMember_faithful : servicesMember.Faithful :=
  Member.faithful_of_form ExposedService.form_faithful.list fun services hservices => by
    have hempty : services.isEmpty = true := by simpa [servicesMember] using hservices
    exact congrArg some (List.isEmpty_iff.1 hempty).symm

theorem form_faithful : form.Faithful :=
  (Record.start_faithful _)
    |>.field (Member.required_text _) _ (by decide)
    |>.field (Member.required_text _) _ (by decide)
    |>.field (Member.required_text _) _ (by decide)
    |>.field (Member.optional_text _) _ (by decide)
    |>.field (Member.optional_text _) _ (by decide)
    |>.field (Member.optional_uint16 _) _ (by decide)
    |>.field (Member.optional_text _) _ (by decide)
    |>.field (Member.optional_text _) _ (by decide)
    |>.field (Member.optional_text _) _ (by decide)
    |>.field (Member.optional_text _) _ (by decide)
    |>.field servicesMember_faithful _ (by decide)
    |>.form fun _ => rfl

end Gateway

theorem GatewayDeployment.form_faithful : form.Faithful :=
  (Record.start_faithful _)
    |>.field (Member.required_text _) _ (by decide)
    |>.field (Member.required_text _) _ (by decide)
    |>.field (Member.required_text _) _ (by decide)
    |>.field (Member.nullable_text _) _ (by decide)
    |>.field (Member.nullable_text _) _ (by decide)
    |>.field (Member.nullable_uint16 _) _ (by decide)
    |>.form fun _ => rfl

theorem ServiceDescriptor.form_faithful : form.Faithful :=
  (Record.start_faithful _)
    |>.field (Member.required_text _) _ (by decide)
    |>.field (Member.required_text _) _ (by decide)
    |>.field (Member.required_text _) _ (by decide)
    |>.field (Member.required_text _) _ (by decide)
    |>.field (Member.optional_text _) _ (by decide)
    |>.field (Member.optional_text _) _ (by decide)
    |>.form fun _ => rfl

/-! ## Messages to the parent tier -/

theorem InstanceReport.form_faithful : form.Faithful :=
  (Record.start_faithful _)
    |>.field (Member.required_uint32 _) _ (by decide)
    |>.including_form Network.record_faithful (by decide) (fun _ => rfl) fun _ => rfl

theorem DeployReport.form_faithful : form.Faithful :=
  (Record.start_faithful _)
    |>.field (Member.required_text _) _ (by decide)
    |>.field (Member.required_faithful InstanceReport.form_faithful.list) _ (by decide)
    |>.form fun _ => rfl

theorem subnetsForm_faithful : subnetsForm.Faithful :=
  (Record.start_faithful _)
    |>.field (Member.optional_text _) _ (by decide)
    |>.field (Member.optional_text _) _ (by decide)
    |>.form fun _ => rfl

/-! ## Messages to child tiers -/

theorem ResolvedInstance.form_faithful : form.Faithful :=
  (Record.start_faithful _)
    |>.field (Member.defaulted_faithful ServiceAddress.form_faithful.list) _ (by decide)
    |>.including_form Instance.record_faithful (by decide) (fun _ => rfl) fun _ => rfl

theorem ResolvedJob.form_faithful : form.Faithful :=
  (Record.start_faithful _)
    |>.field (Member.required_text _) _ (by decide)
    |>.field (Member.defaulted_faithful Form.text_faithful) _ (by decide)
    |>.field (Member.defaulted_faithful ResolvedInstance.form_faithful.list) _ (by decide)
    |>.field (Member.defaulted_faithful ServiceAddress.form_faithful.list) _ (by decide)
    |>.form fun _ => rfl

theorem Change.form_faithful : form.Faithful :=
  Form.choice_faithful (fun change => by cases change <;> decide) (by decide)

theorem JobUpdate.form_faithful : form.Faithful :=
  (Record.start_faithful _)
    |>.field (Member.required_text _) _ (by decide)
    |>.field (Member.required_uint32 _) _ (by decide)
    |>.field (Member.required_faithful Change.form_faithful) _ (by decide)
    |>.form fun _ => rfl

theorem TableAnswer.form_faithful : form.Faithful :=
  (Record.start_faithful _)
    |>.field (Member.required_text _) _ (by decide)
    |>.field (Member.required_faithful ResolvedInstance.form_faithful.list) _ (by decide)
    |>.field (Member.required_text _) _ (by decide)
    |>.form fun _ => rfl

namespace ChildMessage

theorem subnetsForm_faithful : subnetsForm.Faithful :=
  (Record.start_faithful _)
    |>.field (Member.placed_text _) _ (by decide)
    |>.field (Member.placed_text _) _ (by decide)
    |>.form fun _ => rfl

theorem interestRemovedForm_faithful : interestRemovedForm.Faithful :=
  (Record.start_faithful _)
    |>.field (Member.required_text _) _ (by decide)
    |>.form fun _ => rfl

/-- The kind of a message says how its payload is read. -/
theorem readPayload_kind (m : ChildMessage) : ∃ reader, readPayload m.kind = some reader ∧
    ∀ source, reader source m.payload = .ok m := by
  cases m with
  | tableAnswer answer =>
    exact ⟨_, rfl, fun source => congrArg _ (TableAnswer.form_faithful.read_write source answer)⟩
  | subnets addresses =>
    exact ⟨_, rfl, fun source => congrArg _ (subnetsForm_faithful.read_write source addresses)⟩
  | update u =>
    exact ⟨_, rfl, fun source => congrArg _ (JobUpdate.form_faithful.read_write source u)⟩
  | interestRemoved name =>
    exact ⟨_, rfl, fun source => congrArg _ (interestRemovedForm_faithful.read_write source name)⟩

theorem readable_payload (m : ChildMessage) : readable m.payload = true := by
  cases m with
  | tableAnswer answer => exact TableAnswer.form_faithful.readable_write answer
  | subnets addresses => exact subnetsForm_faithful.readable_write addresses
  | update u => exact JobUpdate.form_faithful.readable_write u
  | interestRemoved name => exact interestRemovedForm_faithful.readable_write name

theorem form_faithful : form.Faithful :=
  Form.tagged_faithful readPayload_kind readable_payload

end ChildMessage

/-! ## Requests of child tiers -/

theorem DeployedReport.form_faithful : form.Faithful :=
  (Record.start_faithful _)
    |>.field (Member.required_text _) _ (by decide)
    |>.field (Member.required_uint32 _) _ (by decide)
    |>.field (Member.nullable_text _) _ (by decide)
    |>.field (Member.nullable_text _) _ (by decide)
    |>.field (Member.nullable_text _) _ (by decide)
    |>.field (Member.nullable_uint16 _) _ (by decide)
    |>.form fun _ => rfl

theorem UndeployedReport.form_faithful : form.Faithful :=
  (Record.start_faithful _)
    |>.field (Member.required_text _) _ (by decide)
    |>.field (Member.required_uint32 _) _ (by decide)
    |>.form fun _ => rfl

theorem TableQuery.form_faithful : form.Faithful :=
  (Record.start_faithful _)
    |>.field (Member.nullable_text _) _ (by decide)
    |>.field (Member.nullable_text _) _ (by decide)
    |>.form fun _ => rfl

namespace ChildRequest

theorem methodForm_faithful : (Form.choice SubnetMethod.name [.get, .delete]).Faithful :=
  Form.choice_faithful (fun method => by cases method <;> decide) (by decide)

theorem subnetForm_faithful : subnetForm.Faithful :=
  (Record.start_faithful _)
    |>.field (Member.required_faithful methodForm_faithful) _ (by decide)
    |>.form fun _ => rfl

theorem removeInterestForm_faithful : removeInterestForm.Faithful :=
  (Record.start_faithful _)
    |>.field (Member.required_text _) _ (by decide)
    |>.form fun _ => rfl

/-- The kind of a request says how its payload is read. -/
theorem readPayload_kind (r : ChildRequest) : ∃ reader, readPayload r.kind = some reader ∧
    ∀ source, reader source r.payload = .ok r := by
  cases r with
  | deployed report =>
    exact ⟨_, rfl, fun source => congrArg _ (DeployedReport.form_faithful.read_write source report)⟩
  | undeployed report =>
    exact ⟨_, rfl, fun source =>
      congrArg _ (UndeployedReport.form_faithful.read_write source report)⟩
  | tableQuery query =>
    exact ⟨_, rfl, fun source => congrArg _ (TableQuery.form_faithful.read_write source query)⟩
  | subnet method =>
    exact ⟨_, rfl, fun source => congrArg _ (subnetForm_faithful.read_write source method)⟩
  | removeInterest name =>
    exact ⟨_, rfl, fun source => congrArg _ (removeInterestForm_faithful.read_write source name)⟩

theorem readable_payload (r : ChildRequest) : readable r.payload = true := by
  cases r with
  | deployed report => exact DeployedReport.form_faithful.readable_write report
  | undeployed report => exact UndeployedReport.form_faithful.readable_write report
  | tableQuery query => exact TableQuery.form_faithful.readable_write query
  | subnet method => exact subnetForm_faithful.readable_write method
  | removeInterest name => exact removeInterestForm_faithful.readable_write name

theorem form_faithful : form.Faithful :=
  Form.tagged_faithful readPayload_kind readable_payload

end ChildRequest

/-! ## Documents -/

namespace Json

variable {α : Type}

namespace Form

/-- A table whose records are kept as documents. -/
def documents (form : Form α) (t : Table α) : Table Json :=
  t.map form.write

/-- Keeps a record as a document. -/
def store (form : Form α) (docs : Table Json) (key : String) (a : α) : Table Json :=
  docs.insert key (form.write a)

/-- The record of a key, read from its document. -/
def fetch (form : Form α) (docs : Table Json) (key : String) : Except Fault (Option α) :=
  match docs.get? key with
  | none => .ok none
  | some v => (form.read .direct v).map some

/-- All records, read from their documents. -/
def scan (form : Form α) (docs : Table Json) : Except Fault (List α) :=
  docs.values.mapM (form.read .direct)

/-- Documents stand for records: what is fetched is what was stored, and a table of documents is
used like the table of its records. -/
structure Keeps (form : Form α) : Prop where
  fetch_store : ∀ docs key a key', form.fetch (form.store docs key a) key' =
    if key' = key then .ok (some a) else form.fetch docs key'
  fetch_documents : ∀ t key, form.fetch (form.documents t) key = .ok (t.get? key)
  scan_documents : ∀ t, form.scan (form.documents t) = .ok t.values
  store_documents : ∀ t key a, form.store (form.documents t) key a = form.documents (t.insert key a)

theorem Faithful.fetch_of_get? {form : Form α} (h : form.Faithful) {docs : Table Json}
    {key : String} {a : α} (hget : docs.get? key = some (form.write a)) :
    form.fetch docs key = .ok (some a) := by
  rw [fetch, hget]
  exact congrArg (Except.map some) (h.read_write .direct a)

/-- **Documents.** -/
theorem Faithful.keeps {form : Form α} (h : form.Faithful) : form.Keeps where
  fetch_store docs key a key' := by
    split
    · next hkey =>
      exact h.fetch_of_get? (hkey ▸ docs.get?_insert_self key (form.write a))
    · next hkey => rw [fetch, store, Table.get?_insert_of_ne docs hkey, fetch]
  fetch_documents t key := by
    have hdoc : (form.documents t).get? key = (t.get? key).map form.write := t.get?_map ..
    cases hget : t.get? key with
    | none => rw [fetch, hdoc, hget]; rfl
    | some a => exact h.fetch_of_get? (by rw [hdoc, hget]; rfl)
  scan_documents t := by
    rw [scan, documents, Table.values_map]
    exact h.list.read_write .direct t.values
  store_documents t key a := by
    refine Table.ext_get? fun key' => ?_
    simp only [store, documents, Table.get?_insert, Table.get?_map]
    split <;> rfl

end Form

end Json

/-! ## Answers -/

namespace Http

/-- The client of a tier finds the data of an answer in its envelope, and no error. -/
def Delivers {α : Type} (form : Form α) : Prop :=
  ∀ status a, (Response.success status (form.write a)).body.map
    ((Envelope.form form).read .direct) = some (.ok ⟨some a, none⟩)

/-- **Answers.** -/
theorem delivers {α : Type} {form : Form α} (h : form.Faithful) (hnull : form.NeverNull) :
    Delivers form := by
  intro status a
  have hread : form.option.read .direct (form.write a) = .ok (some a) :=
    (h.option hnull).read_write .direct (some a)
  refine congrArg some ?_
  simp only [Envelope.form, Record.form, Record.fillAll, Record.field, Record.start,
    Member.placed, hread]
  rfl

end Http

/-! ## All of them -/

/-- **Records survive the wire and the store.** Every record and every message is read back as it
was written. So a store that keeps records as documents answers with what was put into it, and the
answers of a tier bring jobs and subnets to the tier that asked. -/
theorem records_survive :
    (Job.form.Faithful ∧ Instance.form.Faithful ∧ ServiceAddress.form.Faithful ∧
      Cluster.form.Faithful ∧ WorkerNode.form.Faithful ∧ Gateway.form.Faithful ∧
      ResolvedInstance.form.Faithful ∧ ResolvedJob.form.Faithful ∧ DeployReport.form.Faithful ∧
      subnetsForm.Faithful ∧ JobUpdate.form.Faithful ∧ ChildMessage.form.Faithful ∧
      ChildRequest.form.Faithful ∧ ServiceDescriptor.form.Faithful ∧
      GatewayDeployment.form.Faithful) ∧
    (Job.form.Keeps ∧ Cluster.form.Keeps ∧ WorkerNode.form.Keeps ∧ Gateway.form.Keeps) ∧
    (Http.Delivers Job.form ∧ Http.Delivers subnetsForm) :=
  ⟨⟨Job.form_faithful, Instance.form_faithful, ServiceAddress.form_faithful,
      Cluster.form_faithful, WorkerNode.form_faithful, Gateway.form_faithful,
      ResolvedInstance.form_faithful, ResolvedJob.form_faithful, DeployReport.form_faithful,
      subnetsForm_faithful, JobUpdate.form_faithful, ChildMessage.form_faithful,
      ChildRequest.form_faithful, ServiceDescriptor.form_faithful,
      GatewayDeployment.form_faithful⟩,
    ⟨Job.form_faithful.keeps, Cluster.form_faithful.keeps, WorkerNode.form_faithful.keeps,
      Gateway.form_faithful.keeps⟩,
    Http.delivers Job.form_faithful (Record.form_neverNull _),
    Http.delivers subnetsForm_faithful (Record.form_neverNull _)⟩

end Overlay
