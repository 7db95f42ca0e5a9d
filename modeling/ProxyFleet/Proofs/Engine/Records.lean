import ProxyFleet.Engine.Codec
import ProxyFleet.Proofs.Json.Values
import ProxyFleet.Proofs.Text.Base64

/-!
Records outlast being written down. What an engine says about services, tasks, configs, its swarm and
events is read back from what is written for it, as a document and as bytes, and in whatever order
the members of objects are written. Containers and networks are not meant to be: they are written
under another name than the one they are identified by when they are read.
-/

namespace ProxyFleet.Engine

open Json (HasValue Canonical required nullable_some optional_some)

/-! Fields -/

theorem required_text {text : String} {json : Json} (h : json.HasValue (.str text)) :
    required Json.text? (some json) = some text := by
  rw [h.eq_str]
  rfl

theorem textOr_of_hasValue {text : String} {json : Json} (h : json.HasValue (.str text)) :
    textOr (some json) = some text := by
  rw [h.eq_str]
  rfl

theorem labels?_of_hasValue {labels : Labels} {json : Json} (h : json.HasValue (textMap labels)) :
    labels? (some json) = some labels :=
  nullable_some rfl (h.map? fun _ _ hs => by rw [hs.eq_str]; rfl)

theorem texts?_of_hasValue {texts : List String} {json : Json}
    (h : json.HasValue (Json.strings texts)) : texts? (some json) = some texts :=
  nullable_some rfl (h.list? fun _ _ hs => by rw [hs.eq_str]; rfl)

@[simp] theorem canonical_textMap (labels : Labels) : Canonical (textMap labels) :=
  Json.canonical_ofKeyed_map .str labels

@[simp] theorem canonical_strings (texts : List String) : Canonical (Json.strings texts) :=
  Json.canonical_arr_map .str texts

theorem fields?_of_text {name text : String} {json : Json}
    (h : json.HasValue (Json.object [(name, .str text)])) :
    Json.fields? [name] json = some [some (.str text)] := by
  have hnames : [name].Nodup := List.pairwise_singleton _ name
  obtain ⟨_, hfields, _ | ⟨htext, _ | _⟩⟩ := h.fields? hnames rfl
  rw [hfields, htext.eq_str]
  rfl

/-! Records, each behind those that it holds -/

namespace VirtualIp

theorem ofJson?_of_hasValue (v : VirtualIp) (json : Json) (h : json.HasValue v.json) :
    ofJson? json = some v := by
  have hnames : ["NetworkID", "Addr"].Nodup := by decide
  obtain ⟨_, hfields, _ | ⟨hid, _ | ⟨haddress, _ | _⟩⟩⟩ := h.fields? hnames rfl
  rw [ofJson?, hfields]
  simp only [List.map_cons, List.map_nil, Option.bind_eq_bind, Option.bind_some,
    textOr_of_hasValue hid, textOr_of_hasValue haddress]

theorem canonical_json (v : VirtualIp) : Canonical v.json := by
  simp [json]

end VirtualIp

namespace Service

theorem specOf?_of_hasValue {name : String} {labels : Labels} {json : Json}
    (h : json.HasValue (Json.object [("Name", .str name), ("Labels", textMap labels)])) :
    specOf? json = some (name, labels) := by
  have hnames : ["Name", "Labels"].Nodup := by decide
  obtain ⟨_, hfields, _ | ⟨hname, _ | ⟨hlabels, _ | _⟩⟩⟩ := h.fields? hnames rfl
  rw [specOf?, hfields]
  simp only [List.map_cons, List.map_nil, Option.bind_eq_bind, Option.bind_some,
    textOr_of_hasValue hname, labels?_of_hasValue hlabels]

theorem virtualIpsOf?_of_hasValue {ips : List VirtualIp} {json : Json}
    (h : json.HasValue (Json.object [("VirtualIPs", .arr (ips.map VirtualIp.json))])) :
    virtualIpsOf? json = some ips := by
  have hnames : ["VirtualIPs"].Nodup := by decide
  obtain ⟨_, hfields, _ | ⟨hips, _ | _⟩⟩ := h.fields? hnames rfl
  rw [virtualIpsOf?, hfields]
  exact nullable_some rfl (hips.list? VirtualIp.ofJson?_of_hasValue)

theorem ofJson?_of_hasValue (s : Service) (json : Json) (h : json.HasValue s.json) :
    ofJson? json = some s := by
  have hnames : ["ID", "Spec", "Endpoint"].Nodup := by decide
  obtain ⟨_, hfields, _ | ⟨hid, _ | ⟨hspec, _ | ⟨hendpoint, _ | _⟩⟩⟩⟩ := h.fields? hnames rfl
  rw [ofJson?, hfields]
  simp only [List.map_cons, List.map_nil, Option.bind_eq_bind, Option.bind_some, optional_some,
    required_text hid, specOf?_of_hasValue hspec,
    nullable_some rfl (virtualIpsOf?_of_hasValue hendpoint)]

theorem canonical_json (s : Service) : Canonical s.json := by
  have hips := Json.canonical_arr_map VirtualIp.canonical_json s.virtualIps
  simp [json, hips]

end Service

namespace TaskAttachment

theorem networkIdOf?_of_hasValue {id : String} {json : Json}
    (h : json.HasValue (Json.object [("ID", .str id)])) : networkIdOf? json = some id := by
  rw [networkIdOf?, fields?_of_text h]
  rfl

theorem ofJson?_of_hasValue (a : TaskAttachment) (json : Json) (h : json.HasValue a.json) :
    ofJson? json = some a := by
  have hnames : ["Network", "Addresses"].Nodup := by decide
  obtain ⟨_, hfields, _ | ⟨hnetwork, _ | ⟨haddresses, _ | _⟩⟩⟩ := h.fields? hnames rfl
  rw [ofJson?, hfields]
  simp only [List.map_cons, List.map_nil, Option.bind_eq_bind, Option.bind_some, optional_some,
    networkIdOf?_of_hasValue hnetwork, texts?_of_hasValue haddresses]

theorem canonical_json (a : TaskAttachment) : Canonical a.json := by
  simp [json]

end TaskAttachment

namespace Task

theorem stateOf?_of_hasValue {state : String} {json : Json}
    (h : json.HasValue (Json.object [("State", .str state)])) : stateOf? json = some state := by
  rw [stateOf?, fields?_of_text h]
  rfl

theorem ofJson?_of_hasValue (t : Task) (json : Json) (h : json.HasValue t.json) :
    ofJson? json = some t := by
  have hnames : ["ID", "ServiceID", "Status", "NetworksAttachments"].Nodup := by decide
  obtain ⟨_, hfields, _ | ⟨hid, _ | ⟨hservice, _ | ⟨hstatus, _ | ⟨hattachments, _ | _⟩⟩⟩⟩⟩ :=
    h.fields? hnames rfl
  rw [ofJson?, hfields]
  simp only [List.map_cons, List.map_nil, Option.bind_eq_bind, Option.bind_some, optional_some,
    required_text hid, textOr_of_hasValue hservice, stateOf?_of_hasValue hstatus,
    nullable_some rfl (hattachments.list? TaskAttachment.ofJson?_of_hasValue)]

theorem canonical_json (t : Task) : Canonical t.json := by
  have hattachments := Json.canonical_arr_map TaskAttachment.canonical_json t.attachments
  simp [json, hattachments]

end Task

namespace Config

theorem data?_of_hasValue {data : Text.Bytes} {json : Json}
    (h : json.HasValue (.str (String.ofList (Text.Base64.encode data)))) :
    data? json = some data := by
  rw [h.eq_str]
  simp only [data?, Json.text?, Option.bind_eq_bind, Option.bind_some, String.toList_ofList,
    Text.Base64.decode?_encode]

theorem specOf?_of_hasValue {name : String} {labels : Labels} {data : Text.Bytes} {json : Json}
    (h : json.HasValue (Json.object [("Name", .str name), ("Labels", textMap labels),
      ("Data", .str (String.ofList (Text.Base64.encode data)))])) :
    specOf? json = some (name, labels, data) := by
  have hnames : ["Name", "Labels", "Data"].Nodup := by decide
  obtain ⟨_, hfields, _ | ⟨hname, _ | ⟨hlabels, _ | ⟨hdata, _ | _⟩⟩⟩⟩ := h.fields? hnames rfl
  rw [specOf?, hfields]
  simp only [List.map_cons, List.map_nil, Option.bind_eq_bind, Option.bind_some,
    textOr_of_hasValue hname, labels?_of_hasValue hlabels,
    nullable_some rfl (data?_of_hasValue hdata)]

theorem ofJson?_of_hasValue (c : Config) (json : Json) (h : json.HasValue c.json) :
    ofJson? json = some c := by
  have hnames : ["ID", "Spec"].Nodup := by decide
  obtain ⟨_, hfields, _ | ⟨hid, _ | ⟨hspec, _ | _⟩⟩⟩ := h.fields? hnames rfl
  rw [ofJson?, hfields]
  simp only [List.map_cons, List.map_nil, Option.bind_eq_bind, Option.bind_some, optional_some,
    required_text hid, specOf?_of_hasValue hspec]

theorem canonical_json (c : Config) : Canonical c.json := by
  simp [json]

end Config

namespace Info

theorem stateOf?_of_hasValue {state : String} {json : Json}
    (h : json.HasValue (Json.object [("LocalNodeState", .str state)])) :
    stateOf? json = some state := by
  rw [stateOf?, fields?_of_text h]
  rfl

theorem ofJson?_of_hasValue (i : Info) (json : Json) (h : json.HasValue i.json) :
    ofJson? json = some i := by
  have hnames : ["Swarm"].Nodup := by decide
  obtain ⟨_, hfields, _ | ⟨hswarm, _ | _⟩⟩ := h.fields? hnames rfl
  rw [ofJson?, hfields]
  simp only [List.map_cons, List.map_nil, Option.bind_eq_bind, Option.bind_some,
    nullable_some rfl (stateOf?_of_hasValue hswarm)]

theorem canonical_json (i : Info) : Canonical i.json := by
  simp [json]

end Info

namespace Event

theorem actorOf?_of_hasValue {id : String} {attributes : Labels} {json : Json}
    (h : json.HasValue (Json.object [("ID", .str id), ("Attributes", textMap attributes)])) :
    actorOf? json = some (id, attributes) := by
  have hnames : ["ID", "Attributes"].Nodup := by decide
  obtain ⟨_, hfields, _ | ⟨hid, _ | ⟨hattributes, _ | _⟩⟩⟩ := h.fields? hnames rfl
  rw [actorOf?, hfields]
  simp only [List.map_cons, List.map_nil, Option.bind_eq_bind, Option.bind_some,
    textOr_of_hasValue hid, labels?_of_hasValue hattributes]

theorem ofJson?_of_hasValue (e : Event) (json : Json) (h : json.HasValue e.json) :
    ofJson? json = some e := by
  have hnames : ["Type", "Action", "Actor", "scope"].Nodup := by decide
  obtain ⟨_, hfields, _ | ⟨hkind, _ | ⟨haction, _ | ⟨hactor, _ | ⟨hscope, _ | _⟩⟩⟩⟩⟩ :=
    h.fields? hnames rfl
  rw [ofJson?, hfields]
  simp only [List.map_cons, List.map_nil, Option.bind_eq_bind, Option.bind_some, optional_some,
    textOr_of_hasValue hkind, textOr_of_hasValue haction, actorOf?_of_hasValue hactor,
    textOr_of_hasValue hscope]

theorem canonical_json (e : Event) : Canonical e.json := by
  simp [json]

end Event

/-! Containers and networks -/

/-- A record whose first field has to be given is not read if no member has its name. -/
theorem bind_fields?_eq_none {α : Type} {pairs : List (String × Json)} {name : String}
    {names : List String} {read? : List (Option Json) → Option α} (h : name ∉ pairs.map Prod.fst)
    (hread : ∀ more, read? (none :: more) = none) :
    (Json.fields? (name :: names) (Json.object pairs)).bind read? = none := by
  have hothers : ∀ m ∈ (Keyed.ofList pairs).entries, ¬decide (m.1 = name) = true := by
    intro m hm he
    exact h (of_decide_eq_true he ▸ List.mem_map_of_mem (Keyed.mem_of_mem_ofList hm))
  have hfield : Json.field? (Keyed.ofList pairs).entries name = some none := by
    rw [Json.field?, List.filter_eq_nil_iff.2 hothers]
  rw [Json.object, Json.ofKeyed, Json.fields?, List.mapM_cons, hfield]
  refine Option.bind_eq_none_iff.2 fun given hgiven => ?_
  simp only [Option.bind_eq_bind, Option.bind_some, Option.bind_eq_some_iff, Option.pure_def,
    Option.some.injEq] at hgiven
  obtain ⟨more, -, rfl⟩ := hgiven
  exact hread more

theorem Container.ofJson?_json (c : Container) : ofJson? c.json = none := by
  refine bind_fields?_eq_none (by simp) fun more => ?_
  split
  · next hgiven =>
    cases hgiven
    rfl
  · rfl

theorem Details.ofJson?_json (d : Details) : ofJson? d.json = none := by
  refine bind_fields?_eq_none (by simp) fun more => ?_
  split
  · next hgiven =>
    cases hgiven
    rfl
  · rfl

theorem Network.ofJson?_json (n : Network) : ofJson? n.json = none := by
  refine bind_fields?_eq_none (by simp) fun more => ?_
  split
  · next hgiven =>
    cases hgiven
    rfl
  · rfl

/-! Writing and reading -/

structure Durable {α : Type} (write : α → Json) (read? : Json → Option α) : Prop where
  /-- A record is read back from its document. -/
  read_write : ∀ a : α, read? (write a) = some a
  /-- The document is a value, -/
  hasValue_write : ∀ a : α, (write a).HasValue (write a)
  /-- and the record is read back from the bytes of every document with that value. -/
  read_bytes : ∀ (a : α) (json : Json), json.HasValue (write a) →
    (Json.ofBytes? (Text.utf8 json.text)).bind read? = some a
  /-- What any document is read as is written, read and written again as it was the first time. -/
  write_again : ∀ (json : Json) (a : α), read? json = some a →
    ∃ b, read? (write a) = some b ∧ write b = write a
  /-- So is what any bytes are read as. -/
  write_bytes_again : ∀ (body : Text.Bytes) (a : α), (Json.ofBytes? body).bind read? = some a →
    ∃ b, (Json.ofBytes? (Text.utf8 (write a).text)).bind read? = some b ∧ write b = write a

/-- It is enough that the documents are canonical and read for their values. -/
theorem durable_of_hasValue {α : Type} {write : α → Json} {read? : Json → Option α}
    (hread : ∀ (a : α) (json : Json), json.HasValue (write a) → read? json = some a)
    (hwrite : ∀ a, Canonical (write a)) : Durable write read? := by
  have hvalue (a : α) : (write a).HasValue (write a) := (hwrite a).hasValue_self
  have hbytes (a : α) (json : Json) (h : json.HasValue (write a)) :
      (Json.ofBytes? (Text.utf8 json.text)).bind read? = some a := by
    rw [h.ofBytes?_text (hwrite a), Option.bind_some, hread a json h]
  exact {
    read_write := fun a => hread a _ (hvalue a)
    hasValue_write := hvalue
    read_bytes := hbytes
    write_again := fun _ a _ => ⟨a, hread a _ (hvalue a), rfl⟩
    write_bytes_again := fun _ a _ => ⟨a, hbytes a _ (hvalue a), rfl⟩ }

/-- Services, tasks, configs with whatever data, what is said about a swarm, and events are read back
from what is written for them. -/
theorem records_durable :
    Durable Service.json Service.ofJson? ∧ Durable Task.json Task.ofJson? ∧
      Durable Config.json Config.ofJson? ∧ Durable Info.json Info.ofJson? ∧
      Durable Event.json Event.ofJson? :=
  ⟨durable_of_hasValue Service.ofJson?_of_hasValue Service.canonical_json,
    durable_of_hasValue Task.ofJson?_of_hasValue Task.canonical_json,
    durable_of_hasValue Config.ofJson?_of_hasValue Config.canonical_json,
    durable_of_hasValue Info.ofJson?_of_hasValue Info.canonical_json,
    durable_of_hasValue Event.ofJson?_of_hasValue Event.canonical_json⟩

def oddConfig : Config := ⟨"c1", "a \"b\"\n", Keyed.ofList [("caddy", "é")], [0xff, 0x00]⟩

/-- Its document with the members in another order. -/
def oddDocument : Json :=
  .obj [("ID", .str "c1"), ("Spec", .obj [("Name", .str "a \"b\"\n"),
    ("Labels", .obj [("caddy", .str "é")]), ("Data", .str "/wA=")])]

/-- A list of its fields, of which one holds a number that nothing reads. -/
def oddList : Json :=
  .arr [.str "c1", .obj [("Data", .str "/wA="), ("Size", .int 2),
    ("Labels", .obj [("caddy", .str "e"), ("caddy", .str "é")]), ("Name", .str "a \"b\"\n")]]

theorem records_durable_oddConfig :
    oddDocument.HasValue oddConfig.json ∧
    (Json.ofBytes? (Text.utf8 oddDocument.text)).bind Config.ofJson? = some oddConfig ∧
    Config.ofJson? oddList = some oddConfig ∧
    ∃ c, Config.ofJson? oddConfig.json = some c ∧ c.json = oddConfig.json := by
  have hvalue : oddDocument.HasValue oddConfig.json := by
    refine ⟨?_, by decide⟩
    simp only [oddDocument, Json.normal_obj, List.map_cons, List.map_nil, Json.normal]
    rfl
  have hlist : Config.ofJson? oddList = some oddConfig := by decide +kernel
  exact ⟨hvalue, records_durable.2.2.1.read_bytes _ _ hvalue, hlist,
    records_durable.2.2.1.write_again _ _ hlist⟩

end ProxyFleet.Engine
