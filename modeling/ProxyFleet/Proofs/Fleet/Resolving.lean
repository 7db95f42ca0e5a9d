import ProxyFleet.Proofs.Fleet.Tolerance
import ProxyFleet.Proofs.Template.Called

/-!
The addresses of a workload are looked for only if a value of its labels mentions upstreams. Where
none does no template calls the function that tells them, so that the blocks are the same whatever
the addresses are; looking for them in any case would add nothing else.
-/

namespace ProxyFleet

namespace Label

open Template (Functions)

section Congruence

variable {fs fs' : Functions} (hnames : fs.SameNames fs') (data : Json)
include hnames

/-- A value is filled in alike with functions that agree on the names that stand in it. -/
theorem expand_congr {value : String}
    (h : ∀ name : String, name.toList <:+: value.toList → fs.find? name = fs'.find? name) :
    expand fs data value = expand fs' data value := by
  unfold expand
  rw [Template.parse_congr hnames]
  split
  · split
    · rfl
    · next ns hread =>
      have hcalled : ∀ name ∈ Template.called ns, fs.find? name = fs'.find? name :=
        fun name hname => h name (Template.forall_called_parse hread name hname).2
      rw [Template.execute_congr ns hcalled]
  · rfl

theorem plantAll_congr {labels : List (String × String)} (branches : List Branch)
    (h : ∀ entry ∈ labels, ∀ name : String,
      name.toList <:+: entry.2.toList → fs.find? name = fs'.find? name) :
    plantAll fs data labels branches = plantAll fs' data labels branches := by
  induction labels generalizing branches with
  | nil => rfl
  | cons entry rest ih =>
    obtain ⟨hentry, hrest⟩ := List.forall_mem_cons.1 h
    have hplant : plant fs data branches entry.1 entry.2 =
        plant fs' data branches entry.1 entry.2 := by
      rw [plant, plant, expand_congr hnames data hentry]
    rw [plantAll, plantAll, hplant]
    split
    · rfl
    · exact ih _ hrest

theorem blocks_congr {labels : Keyed String}
    (h : ∀ value ∈ labels.values, ∀ name : String,
      name.toList <:+: value.toList → fs.find? name = fs'.find? name) :
    blocks fs data labels = blocks fs' data labels := by
  have hentries : ∀ entry ∈ labels.entries, ∀ name : String,
      name.toList <:+: entry.2.toList → fs.find? name = fs'.find? name :=
    fun entry hentry => h entry.2 (List.mem_map_of_mem hentry)
  rw [blocks, blocks, plantAll_congr hnames data [] hentries]

end Congruence

end Label

namespace Fleet

open Engine (Container Service)

/-- The addresses of a workload are told by one function alone. -/
theorem find?_functions_of_ne {name : String} (h : name ≠ upstreamsName)
    (targets targets' : Workload.Targets) (localDomain : Option String) :
    (Workload.functions targets localDomain).find? name =
      (Workload.functions targets' localDomain).find? name := by
  have hne : (name == "upstreams") = false := beq_false_of_ne h
  simp only [Template.Functions.find?, Workload.functions, List.lookup_cons, hne]

/-- No value has the name of the function that tells addresses in it. -/
def Unmentioned (labels : Keyed String) : Prop :=
  ∀ value ∈ labels.values, ¬upstreamsName.toList <:+: value.toList

theorem mentionsUpstreams_eq_false_iff {labels : Engine.Labels} :
    mentionsUpstreams labels = false ↔ Unmentioned labels := by
  have hoccurs (value : String) : Text.occursIn upstreamsName.toList value.toList = true ↔
      upstreamsName.toList <:+: value.toList := by
    rw [Text.occursIn_iff]
    exact exists_congr fun before => exists_congr fun after => eq_comm
  simp only [mentionsUpstreams, Unmentioned, List.any_eq_false, hoccurs]

theorem blocks_of_unmentioned {labels : Keyed String} (h : Unmentioned labels) (data : Json)
    (localDomain : Option String) (targets targets' : Workload.Targets) :
    Label.blocks (Workload.functions targets localDomain) data labels =
      Label.blocks (Workload.functions targets' localDomain) data labels := by
  apply Label.blocks_congr (sameNames_functions targets targets' localDomain)
  intro value hvalue name hname
  apply find?_functions_of_ne
  rintro rfl
  exact h value hvalue hname

theorem described_if_mentions (o : Options) (labels : Engine.Labels) (data : Json)
    (targets : Except Failure (List String)) :
    described o labels data
        (if mentionsUpstreams (configLabels o.labelPrefix labels) then targets else .ok []) =
      described o labels data targets := by
  cases hmentions : mentionsUpstreams (configLabels o.labelPrefix labels) with
  | true => rfl
  | false => exact blocks_of_unmentioned (mentionsUpstreams_eq_false_iff.1 hmentions) _ _ _ _

/-- Labels without a mention of upstreams describe the same blocks, or are refused for the same
reason, whatever the addresses are and whether they are known. So every container and every service
adds what it would add if its addresses were always looked for first. -/
theorem resolving_is_invisible :
    (∀ (labels : Keyed String) (data : Json) (localDomain : Option String)
      (targets targets' : Workload.Targets), Unmentioned labels →
      Label.blocks (Workload.functions targets localDomain) data labels =
        Label.blocks (Workload.functions targets' localDomain) data labels) ∧
    (∀ (o : Options) (g : Groups) (h : Harvest) (c : Container),
      (addContainer o g h c).value =
        h.add (elements (described o c.labels c.json
            (.ok (containerAddresses g.ingress (c.labels.get? o.ingressLabel) c))))
          (containerServers o g c).value) ∧
    ∀ (o : Options) (engines : List Numbered) (g : Groups) (h : Harvest) (s : Service),
      (addService o engines g h s).value =
        h.add (elements (described o s.labels s.json
            (findService o.proxyTasks engines g.ingress s).value))
          (serviceServers o engines g s).value := by
  refine ⟨fun labels data localDomain targets targets' h => ?_, fun o g h c => ?_,
    fun o engines g h s => ?_⟩
  · exact blocks_of_unmentioned h data localDomain targets targets'
  · rw [value_addContainer, Harvest.gain, containerShare, value_containerBlocks,
      described_if_mentions]
  · rw [value_addService, Harvest.gain, serviceShare, value_serviceBlocks, described_if_mentions]

/-- A site that is named by a template is there with addresses and without. -/
theorem domain_needs_no_addresses :
    Unmentioned (Keyed.ofList [("caddy", "\x7b\x7b domain \"app\" \x7d\x7d"),
        ("caddy.respond", "\x7b\x7b print (http) 2 \x7d\x7d")]) ∧
      Label.blocks (Workload.functions (.ok ["10.0.0.2"]) (some "lan")) .null
          (Keyed.ofList [("caddy", "\x7b\x7b domain \"app\" \x7d\x7d"),
            ("caddy.respond", "\x7b\x7b print (http) 2 \x7d\x7d")]) =
        Label.blocks (Workload.functions (.error "no shared network") (some "lan")) .null
          (Keyed.ofList [("caddy", "\x7b\x7b domain \"app\" \x7d\x7d"),
            ("caddy.respond", "\x7b\x7b print (http) 2 \x7d\x7d")]) := by
  have hunmentioned : Unmentioned (Keyed.ofList [("caddy", "\x7b\x7b domain \"app\" \x7d\x7d"),
      ("caddy.respond", "\x7b\x7b print (http) 2 \x7d\x7d")]) :=
    mentionsUpstreams_eq_false_iff.1 (by decide +kernel)
  exact ⟨hunmentioned, resolving_is_invisible.1 _ _ _ _ _ hunmentioned⟩

end Fleet

end ProxyFleet
