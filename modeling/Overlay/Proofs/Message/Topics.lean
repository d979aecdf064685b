import Overlay.Proofs.Json.Reading
import Overlay.Proofs.Json.Records
import Overlay.Proofs.Text.Split

/-!
# Requests told from their topics

A topic says who publishes a request and of which kind it is. A publication is a request exactly if its
topic is `nodes/<client>/net/<kind>`, for a client that can stand there and one of the five kinds, and
its payload is a body of this kind (`ChildRequest.ofPublication_eq_ok_iff`). What a body is is said
without its reader (`ChildRequest.Body`).

The topics break at the first `/net/`, while a kind has slashes of its own, and so may the recipient of
a message. Messages to child tiers are never taken for requests all the same: the kind ends the topic,
and no kind of a message ends like one of a request (`ChildRequest.not_suffix_kind`).
-/

namespace Overlay

open Json

/-! ## Bodies -/

/-- A value that says what a request says, as an object or as an array. Optional members may be `null`
or missing. -/
def ChildRequest.Body (v : Json) : ChildRequest → Prop
  | .deployed report =>
    v.Holds ["appname", "instance_number", "nsip", "nsipv6", "host_ip", "host_port"] ∧
    v.Says 0 "appname" (string report.jobName) ∧
    v.Says 1 "instance_number" (nat report.number.toNat) ∧
    v.MaySay 2 "nsip" (report.network.namespaces.v4.map string) ∧
    v.MaySay 3 "nsipv6" (report.network.namespaces.v6.map string) ∧
    v.MaySay 4 "host_ip" (report.network.hostAddress.map string) ∧
    v.MaySay 5 "host_port" (report.network.hostPort.map fun port => nat port.toNat)
  | .undeployed report =>
    v.Holds ["appname", "instance_number"] ∧
    v.Says 0 "appname" (string report.jobName) ∧
    v.Says 1 "instance_number" (nat report.number.toNat)
  | .tableQuery query =>
    v.Holds ["sname", "sip"] ∧
    v.MaySay 0 "sname" (query.name.map string) ∧
    v.MaySay 1 "sip" (query.address.map string)
  | .subnet method =>
    v.Holds ["METHOD"] ∧
    (v.Says 0 "METHOD" (string method.name) ∨ v.Says 0 "METHOD" (object [(method.name, null)]))
  | .removeInterest name =>
    v.Holds ["appname"] ∧
    v.Says 0 "appname" (string name)

section
variable {v : Json}

theorem DeployedReport.read_iff {report : DeployedReport} :
    form.read .direct v = .ok report ↔ (ChildRequest.deployed report).Body v := by
  have hrecord := (Record.start_accepts (ρ := DeployedReport)
      fun name number v4 v6 host port => DeployedReport.mk name number ⟨⟨v4, v6⟩, host, port⟩)
    |>.field (.required "appname" .text) (·.jobName) rfl (by decide)
    |>.field (.required "instance_number" .uint32) (·.number) rfl (by decide)
    |>.field (.nullable "nsip" .text) (·.network.namespaces.v4) rfl (by decide)
    |>.field (.nullable "nsipv6" .text) (·.network.namespaces.v6) rfl (by decide)
    |>.field (.nullable "host_ip" .text) (·.network.hostAddress) rfl (by decide)
    |>.field (.nullable "host_port" .uint16) (·.network.hostPort) rfl (by decide)
  obtain ⟨name, number, ⟨⟨v4, v6⟩, host, port⟩⟩ := report
  refine hrecord.read_iff.trans ?_
  simp [ChildRequest.Body, and_assoc]

theorem UndeployedReport.read_iff {report : UndeployedReport} :
    form.read .direct v = .ok report ↔ (ChildRequest.undeployed report).Body v := by
  have hrecord := (Record.start_accepts (ρ := UndeployedReport) UndeployedReport.mk)
    |>.field (.required "appname" .text) (·.jobName) rfl (by decide)
    |>.field (.required "instance_number" .uint32) (·.number) rfl (by decide)
  obtain ⟨name, number⟩ := report
  refine hrecord.read_iff.trans ?_
  simp [ChildRequest.Body]

theorem TableQuery.read_iff {query : TableQuery} :
    form.read .direct v = .ok query ↔ (ChildRequest.tableQuery query).Body v := by
  have hrecord := (Record.start_accepts (ρ := TableQuery) TableQuery.mk)
    |>.field (.nullable "sname" .text) (·.name) rfl (by decide)
    |>.field (.nullable "sip" .text) (·.address) rfl (by decide)
  obtain ⟨name, address⟩ := query
  refine hrecord.read_iff.trans ?_
  simp [ChildRequest.Body]

namespace ChildRequest

theorem subnetForm_read_iff {method : SubnetMethod} :
    subnetForm.read .direct v = .ok method ↔ (subnet method).Body v := by
  have hrecord := (Record.start_accepts (ρ := SubnetMethod) id)
    |>.field (.required "METHOD" (.choice SubnetMethod.name [.get, .delete])) id rfl (by decide)
  have hall : ∀ method, method ∈ [SubnetMethod.get, .delete] := fun method => by
    cases method <;> decide
  have hnames : ([SubnetMethod.get, .delete].map SubnetMethod.name).Nodup := by decide
  refine hrecord.read_iff.trans ?_
  simp [Body, Member.required_choice_fits hall hnames]

theorem removeInterestForm_read_iff {name : String} :
    removeInterestForm.read .direct v = .ok name ↔ (removeInterest name).Body v := by
  have hrecord := (Record.start_accepts (ρ := String) id)
    |>.field (.required "appname" .text) id rfl (by decide)
  refine hrecord.read_iff.trans ?_
  simp [Body]

end ChildRequest

end

namespace ChildRequest

/-! ## Kinds -/

/-- The five kinds. -/
theorem exists_kind_iff {kind : String} : (∃ request : ChildRequest, request.kind = kind) ↔
    kind ∈ ["service/deployed", "service/undeployed", "tablequery/request", "subnet",
      "interest/remove"] := by
  simp only [List.mem_cons, List.not_mem_nil, or_false]
  constructor
  · rintro ⟨request, rfl⟩
    cases request <;> simp [ChildRequest.kind]
  · rintro (rfl | rfl | rfl | rfl | rfl)
    · exact ⟨deployed ⟨"", 0, ⟨⟨none, none⟩, none, none⟩⟩, rfl⟩
    · exact ⟨undeployed ⟨"", 0⟩, rfl⟩
    · exact ⟨tableQuery ⟨none, none⟩, rfl⟩
    · exact ⟨subnet .get, rfl⟩
    · exact ⟨removeInterest "", rfl⟩

/-- A reader that gives requests of one kind only gives those whose body the payload is. -/
theorem map_eq_ok_iff {α : Type} {form : Form α} {make : α → ChildRequest} {kind : String}
    (hmake : ∀ request : ChildRequest, kind = request.kind ↔ ∃ a, make a = request)
    {v : Json} (hbody : ∀ {a}, form.read .direct v = .ok a ↔ (make a).Body v)
    {request : ChildRequest} : (form.read .direct v).map make = .ok request ↔
      kind = request.kind ∧ request.Body v := by
  have hread : (form.read .direct v).map make = .ok request ↔
      ∃ a, form.read .direct v = .ok a ∧ make a = request := by
    cases form.read .direct v <;> simp [Except.map]
  rw [hread, hmake]
  constructor
  · rintro ⟨a, ha, rfl⟩
    exact ⟨⟨a, rfl⟩, hbody.1 ha⟩
  · rintro ⟨⟨a, rfl⟩, hv⟩
    exact ⟨a, hbody.2 hv, rfl⟩

/-- **Payloads.** A payload is read as a request of a kind exactly if it is a body of it. -/
theorem ofPayload_eq_ok_iff {kind : String} {v : Json} {request : ChildRequest} :
    ofPayload kind v = .ok request ↔ kind = request.kind ∧ request.Body v := by
  cases hreader : readPayload kind with
  | none =>
    have hkind : kind ≠ request.kind := by
      rintro rfl
      obtain ⟨reader, hknown, -⟩ := request.readPayload_kind
      rw [hreader] at hknown
      cases hknown
    simp [ofPayload, hreader, hkind]
  | some reader =>
    have hread : ofPayload kind v = .ok request ↔ reader .direct v = .ok request := by
      rw [ofPayload, hreader]
      cases hv : reader .direct v <;> simp [hv, Except.mapError]
    rw [hread]
    unfold readPayload at hreader
    split at hreader
    · obtain rfl := Option.some.inj hreader
      exact map_eq_ok_iff (fun r => by cases r <;> simp [ChildRequest.kind]) DeployedReport.read_iff
    · obtain rfl := Option.some.inj hreader
      exact map_eq_ok_iff (fun r => by cases r <;> simp [ChildRequest.kind]) UndeployedReport.read_iff
    · obtain rfl := Option.some.inj hreader
      exact map_eq_ok_iff (fun r => by cases r <;> simp [ChildRequest.kind]) TableQuery.read_iff
    · obtain rfl := Option.some.inj hreader
      exact map_eq_ok_iff (fun r => by cases r <;> simp [ChildRequest.kind]) subnetForm_read_iff
    · obtain rfl := Option.some.inj hreader
      exact map_eq_ok_iff (fun r => by cases r <;> simp [ChildRequest.kind])
        removeInterestForm_read_iff
    · cases hreader

/-- The payload of a request is a body of it. -/
theorem body_payload (request : ChildRequest) : request.Body request.payload := by
  obtain ⟨reader, hreader, hread⟩ := request.readPayload_kind
  have hpayload : ofPayload request.kind request.payload = .ok request := by
    rw [ofPayload, hreader]
    exact congrArg (Except.mapError _) (hread .direct)
  exact (ofPayload_eq_ok_iff.1 hpayload).2

/-! ## Topics -/

/-- **Topics.** The client and the kind of a topic stand before and after its first `/net/`. -/
theorem topicParts?_eq_some_iff {topic client kind : String} :
    topicParts? topic = some (client, kind) ↔ topic = "nodes/" ++ client ++ "/net/" ++ kind ∧
      client ≠ "" ∧ '/' ∉ client.toList ∧ kind ≠ "" := by
  constructor
  · intro h
    obtain ⟨rest, hfront, h⟩ := Option.bind_eq_some_iff.1 h
    obtain ⟨⟨before, after⟩, hbreak, h⟩ := Option.bind_eq_some_iff.1 h
    dsimp only at h
    split at h
    · cases h
    · next hparts =>
      obtain ⟨rfl, rfl⟩ := Prod.mk.inj (Option.some.inj h)
      have htopic : topic.toList = "nodes/".toList ++ (before ++ ("/net/".toList ++ after)) := by
        rw [← append_of_breakOn? hbreak]
        exact (List.isPrefixOf?_eq_some_iff_append_eq.1 hfront).symm
      refine ⟨String.toList_injective ?_, ?_⟩
      · simpa [String.toList_append] using htopic
      · simpa [not_or] using hparts
  · rintro ⟨rfl, hclient, hslash, hkind⟩
    have hnonempty : client.toList ≠ [] := fun h => hclient (String.toList_eq_nil_iff.1 h)
    have hends : kind.toList ≠ [] := fun h => hkind (String.toList_eq_nil_iff.1 h)
    have hfront : "nodes/".toList.isPrefixOf? ("nodes/" ++ client ++ "/net/" ++ kind).toList =
        some (client.toList ++ ("/net/".toList ++ kind.toList)) :=
      List.isPrefixOf?_eq_some_iff_append_eq.2 (by simp [String.toList_append])
    have hbreak : breakOn? "/net/".toList (client.toList ++ ("/net/".toList ++ kind.toList)) =
        some (client.toList, kind.toList) := by
      have hpattern : "/net/".toList = ['/', 'n', 'e', 't', '/'] := by simp
      rw [hpattern]
      exact breakOn?_of_not_mem hslash _
    simp only [topicParts?, hfront, Option.bind_eq_bind, Option.bind_some, hbreak]
    simp [hnonempty, hslash, hends]

/-- **Publications.** A publication is a request of a client exactly if its topic says so and its
payload is a body of the request. -/
theorem ofPublication_eq_ok_iff {topic client : String} {v : Json} {request : ChildRequest} :
    ofPublication topic v = .ok (client, request) ↔ topic = request.topic client ∧
      client ≠ "" ∧ '/' ∉ client.toList ∧ request.Body v := by
  have hparts : ofPublication topic v = .ok (client, request) ↔
      ∃ kind, topicParts? topic = some (client, kind) ∧ ofPayload kind v = .ok request := by
    rw [ofPublication]
    rcases topicParts? topic with _ | ⟨client', kind⟩
    · simp
    · cases hrequest : ofPayload kind v <;> simp [Except.map, hrequest, and_assoc]
  have hkind : request.kind ≠ "" := by cases request <;> simp [kind]
  simp only [hparts, topicParts?_eq_some_iff, ofPayload_eq_ok_iff]
  constructor
  · rintro ⟨kind, ⟨htopic, hclient, hslash, -⟩, rfl, hv⟩
    exact ⟨htopic, hclient, hslash, hv⟩
  · rintro ⟨htopic, hclient, hslash, hv⟩
    exact ⟨request.kind, ⟨htopic, hclient, hslash, hkind⟩, rfl, hv⟩

/-- The client and the request are told from the topic and the payload. -/
theorem ofPublication_topic (request : ChildRequest) {client : String} (hclient : client ≠ "")
    (hslash : '/' ∉ client.toList) :
    ofPublication (request.topic client) request.payload = .ok (client, request) :=
  ofPublication_eq_ok_iff.2 ⟨rfl, hclient, hslash, request.body_payload⟩

/-- No kind of a message ends like the kind of a request, or the other way round. -/
theorem not_suffix_kind (request : ChildRequest) (m : ChildMessage) :
    ¬ request.kind.toList <:+ m.kind.toList ∧ ¬ m.kind.toList <:+ request.kind.toList := by
  cases request <;> cases m <;> simp only [ChildRequest.kind, ChildMessage.kind] <;> decide

/-- A message is on no topic of a request. -/
theorem topic_ne_topic (request : ChildRequest) (client : String) (m : ChildMessage)
    (recipient : String) : m.topic recipient ≠ request.topic client := by
  intro htopic
  have hmessage : m.kind.toList <:+ (m.topic recipient).toList :=
    ⟨("nodes/" ++ recipient ++ "/net/").toList, by rw [← String.toList_append, ChildMessage.topic]⟩
  have hrequest : request.kind.toList <:+ (m.topic recipient).toList :=
    ⟨("nodes/" ++ client ++ "/net/").toList, by
      rw [htopic, ← String.toList_append, ChildRequest.topic]⟩
  obtain ⟨hrm, hmr⟩ := request.not_suffix_kind m
  exact (List.suffix_or_suffix_of_suffix hrequest hmessage).elim hrm hmr

/-- How requests are told from what is published on the topics of a bus. -/
structure ToldByTopic : Prop where
  /-- A publication is a request exactly if its topic names a client, which is not empty and has no
  slash, and one of the five kinds, and the payload is a body of this kind; the client and the body are
  what is read. -/
  reads : ∀ topic v client request, ofPublication topic v = .ok (client, request) ↔
    topic = "nodes/" ++ client ++ "/net/" ++ request.kind ∧ client ≠ "" ∧ '/' ∉ client.toList ∧
      request.Body v
  /-- The kinds are five. -/
  kinds : ∀ kind, (∃ request : ChildRequest, request.kind = kind) ↔
    kind ∈ ["service/deployed", "service/undeployed", "tablequery/request", "subnet",
      "interest/remove"]
  /-- A client's request is read back from its topic and its payload. -/
  reads_back : ∀ client (request : ChildRequest), client ≠ "" → '/' ∉ client.toList →
    ofPublication (request.topic client) request.payload = .ok (client, request)
  /-- A message to a child tier is not taken for a request, whoever its recipient is and whatever it
  carries. -/
  passes_messages : ∀ (m : ChildMessage) recipient v, ∃ fault,
    ofPublication (m.topic recipient) v = .error fault

/-- **Child topics.** Requests are told from their topics and payloads: exactly the publications of the
five kinds are taken for requests, each is read back, and no message to a child tier is one. -/
theorem told_by_topic : ToldByTopic where
  reads _ _ _ _ := ofPublication_eq_ok_iff
  kinds _ := exists_kind_iff
  reads_back _ request hclient hslash := request.ofPublication_topic hclient hslash
  passes_messages m recipient v := by
    cases hread : ofPublication (m.topic recipient) v with
    | error fault => exact ⟨fault, rfl⟩
    | ok told =>
      obtain ⟨client, request⟩ := told
      exact absurd (ofPublication_eq_ok_iff.1 hread).1 (request.topic_ne_topic client m recipient)

end ChildRequest

end Overlay
