import GatewayCompiler.Proofs.FirstSeen
import GatewayCompiler.Proofs.Notices
import GatewayCompiler.Table
import GatewayCompiler.Translation.VirtualHosts

/-!
# Domains of several virtual hosts

Notice is given of a domain that an earlier virtual host has.  This can be seen in two ways: by a
scan that keeps the first owner of every domain it meets, and by a look at the virtual hosts before
the one at hand.  Where virtual hosts have names of their own and no virtual host repeats a domain,
both agree, and there is nothing to give notice of exactly if all domains differ.
-/

namespace GatewayCompiler

/-! The scan -/

/-- The first owners of the domains met so far, and the notices that were given. -/
structure DomainScan where
  owners : Table String String
  notices : List Notice

namespace DomainScan

variable {configuration : String} {scan : DomainScan} {entries : List (String × String)}

/-- What is noted of a domain with its owner, given the first owner of the domain. -/
def note? (configuration : String) (entry : String × String) (first : String) : Option Notice :=
  if first = entry.2 then none
  else some (.sharedDomain configuration entry.1 first entry.2)

/-- The scan after one more domain with its owner.  The first owner of a domain stays. -/
def meet (configuration : String) (scan : DomainScan) (entry : String × String) : DomainScan :=
  match scan.owners.get? entry.1 with
  | none => { scan with owners := scan.owners.insert entry.1 entry.2 }
  | some first => { scan with notices := scan.notices ++ (note? configuration entry first).toList }

/-- What is noted of a domain among domains with their owners. -/
def noteAmong? (configuration : String) (entries : List (String × String))
    (entry : String × String) : Option Notice :=
  (entries.lookup entry.1).bind (note? configuration entry)

/-- A scan that has met some domains: it has the first owner of each and has noted what there is to
note among them. -/
structure HasMet (configuration : String) (entries : List (String × String)) (scan : DomainScan) :
    Prop where
  owners : ∀ domain, scan.owners.get? domain = entries.lookup domain
  notices : scan.notices = entries.filterMap (noteAmong? configuration entries)

/-- What is noted of a domain stays when more domains are met. -/
theorem filterMap_noteAmong?_append (configuration : String)
    (entries more : List (String × String)) :
    entries.filterMap (noteAmong? configuration (entries ++ more)) =
      entries.filterMap (noteAmong? configuration entries) := by
  apply List.filterMap_congr
  intro entry hentry
  have hsome : (entries.lookup entry.1).isSome = true :=
    List.lookup_isSome_iff.2 ⟨entry, hentry, beq_self_eq_true _⟩
  rw [noteAmong?, noteAmong?, List.lookup_append, Option.or_of_isSome hsome]

theorem lookup_concat (entries : List (String × String)) (entry : String × String)
    (domain : String) : (entries ++ [entry]).lookup domain =
      (entries.lookup domain).or (if domain = entry.1 then some entry.2 else none) := by
  rw [List.lookup_append, List.lookup_cons, List.lookup_nil]
  by_cases hdomain : domain = entry.1
  · rw [if_pos hdomain, hdomain, beq_self_eq_true]
  · rw [if_neg hdomain, beq_false_of_ne hdomain]

/-- A domain is noted by the first owner that it had before. -/
theorem noteAmong?_concat (configuration : String) (entries : List (String × String))
    (entry : String × String) : noteAmong? configuration (entries ++ [entry]) entry =
      (entries.lookup entry.1).bind (note? configuration entry) := by
  rw [noteAmong?, lookup_concat, if_pos rfl]
  cases entries.lookup entry.1 with
  | none => exact if_pos rfl
  | some first => rfl

theorem get?_owners_meet (configuration : String) (scan : DomainScan) (entry : String × String)
    (domain : String) : (scan.meet configuration entry).owners.get? domain =
      (scan.owners.get? domain).or (if domain = entry.1 then some entry.2 else none) := by
  unfold meet
  cases hfirst : scan.owners.get? entry.1 with
  | none =>
      by_cases hdomain : domain = entry.1
      · rw [hdomain, Table.get?_insert_self, hfirst, if_pos rfl]
        rfl
      · rw [Table.get?_insert_of_ne (Ne.symm hdomain), if_neg hdomain, Option.or_none]
  | some first =>
      by_cases hdomain : domain = entry.1
      · rw [hdomain, hfirst]
        rfl
      · rw [if_neg hdomain, Option.or_none]

theorem notices_meet (configuration : String) (scan : DomainScan) (entry : String × String) :
    (scan.meet configuration entry).notices =
      scan.notices ++ ((scan.owners.get? entry.1).bind (note? configuration entry)).toList := by
  unfold meet
  cases scan.owners.get? entry.1 with
  | none => exact (List.append_nil _).symm
  | some first => rfl

theorem HasMet.meet (h : HasMet configuration entries scan) (entry : String × String) :
    HasMet configuration (entries ++ [entry]) (scan.meet configuration entry) where
  owners domain := by
    rw [get?_owners_meet, h.owners, lookup_concat]
  notices := by
    rw [notices_meet, h.owners, h.notices, List.filterMap_append, filterMap_noteAmong?_append,
      ← noteAmong?_concat]
    cases hnote : noteAmong? configuration (entries ++ [entry]) entry <;> simp [hnote]

/-- The scan of domains from the first on has met them all. -/
theorem hasMet_foldl (configuration : String) (entries : List (String × String)) :
    HasMet configuration entries (entries.foldl (meet configuration) ⟨∅, []⟩) := by
  induction entries using List.reverseRecOn with
  | nil => exact ⟨fun _ => rfl, rfl⟩
  | append_singleton entries entry ih =>
      rw [List.foldl_append]
      exact ih.meet entry

end DomainScan

namespace RouteConfigurationPlan

/-- The scan of the domains of all virtual hosts, one after another. -/
def domainScan (plan : RouteConfigurationPlan) : DomainScan :=
  (VirtualHostPlan.domainOwners plan.virtualHosts).foldl (DomainScan.meet plan.name) ⟨∅, []⟩

theorem sharedDomains_eq (plan : RouteConfigurationPlan) :
    plan.sharedDomains = (VirtualHostPlan.domainOwners plan.virtualHosts).filterMap
      (DomainScan.noteAmong? plan.name (VirtualHostPlan.domainOwners plan.virtualHosts)) := by
  rw [sharedDomains]
  apply List.filterMap_congr
  rintro ⟨domain, name⟩ _
  rw [DomainScan.noteAmong?]
  dsimp only
  cases (VirtualHostPlan.domainOwners plan.virtualHosts).lookup domain <;> rfl

theorem notices_domainScan (plan : RouteConfigurationPlan) :
    plan.domainScan.notices = plan.sharedDomains := by
  rw [sharedDomains_eq]
  exact (DomainScan.hasMet_foldl plan.name _).notices

end RouteConfigurationPlan

/-! The virtual hosts before -/

/-- A domain of a virtual host.  Its place is that of the virtual host and that of the domain among
the domains of the virtual host. -/
structure DomainEntry where
  place : Nat × Nat
  domain : String
  host : VirtualHostPlan

namespace VirtualHostPlan

variable {hosts : List VirtualHostPlan} {entry : DomainEntry}

/-- The domains of virtual hosts, one after another. -/
def domainEntries (hosts : List VirtualHostPlan) : List DomainEntry :=
  hosts.zipIdx.flatMap fun host =>
    host.1.domains.zipIdx.map fun domain => ⟨(host.2, domain.2), domain.1, host.1⟩

theorem mem_domainEntries_iff : entry ∈ domainEntries hosts ↔
    hosts[entry.place.1]? = some entry.host ∧
      entry.host.domains[entry.place.2]? = some entry.domain := by
  obtain ⟨⟨index, place⟩, domain, host⟩ := entry
  simp only [domainEntries, List.mem_flatMap, List.mem_map, Prod.exists,
    List.mk_mem_zipIdx_iff_getElem?, DomainEntry.mk.injEq, Prod.mk.injEq]
  constructor
  · rintro ⟨_, _, hhost, _, _, hdomain, ⟨rfl, rfl⟩, rfl, rfl⟩
    exact ⟨hhost, hdomain⟩
  · rintro ⟨hhost, hdomain⟩
    exact ⟨host, index, hhost, domain, place, hdomain, ⟨rfl, rfl⟩, rfl, rfl⟩

/-- They are listed in the order of their places. -/
theorem pairwise_place_domainEntries (hosts : List VirtualHostPlan) :
    ((domainEntries hosts).map (·.place)).Pairwise (Prod.Lex (· < ·) (· < ·)) := by
  rw [List.pairwise_map, domainEntries, List.pairwise_flatMap]
  constructor
  · intro host _
    rw [List.pairwise_map]
    exact (pairwise_snd_zipIdx host.1.domains).imp fun hlt => .right _ hlt
  · apply (pairwise_snd_zipIdx hosts).imp
    intro host later hlt entry hentry other hother
    obtain ⟨_, _, rfl⟩ := List.mem_map.1 hentry
    obtain ⟨_, _, rfl⟩ := List.mem_map.1 hother
    exact .left _ _ hlt

theorem domainOwners_eq_map (hosts : List VirtualHostPlan) : domainOwners hosts =
    (domainEntries hosts).map fun entry => (entry.domain, entry.host.name) := by
  have hhost (host : VirtualHostPlan × Nat) :
      (host.1.domains.zipIdx.map fun domain => (domain.1, host.1.name)) =
        host.1.domains.map (·, host.1.name) := by
    conv_rhs => rw [← List.zipIdx_map_fst 0 host.1.domains, List.map_map]
    rfl
  calc domainOwners hosts
    _ = (hosts.zipIdx.map (·.1)).flatMap fun host => host.domains.map (·, host.name) := by
        rw [List.zipIdx_map_fst, domainOwners]
    _ = hosts.zipIdx.flatMap fun host =>
          host.1.domains.zipIdx.map fun domain => (domain.1, host.1.name) := by
        simp only [List.flatMap_map, hhost]
    _ = _ := by
        simp only [domainEntries, List.map_flatMap, List.map_map]
        rfl

theorem lookup_map_owner (domains : List String) (domain name : String) :
    (domains.map (·, name)).lookup domain = if domain ∈ domains then some name else none := by
  induction domains with
  | nil => rfl
  | cons head domains ih =>
      rw [List.map_cons, List.lookup_cons, ih]
      by_cases hhead : domain = head
      · rw [hhead, beq_self_eq_true, if_pos List.mem_cons_self]
      · rw [beq_false_of_ne hhead]
        simp only [List.mem_cons, hhead, false_or]

/-- The first owner of a domain is the first virtual host that has it. -/
theorem lookup_domainOwners (hosts : List VirtualHostPlan) (domain : String) :
    (domainOwners hosts).lookup domain =
      (hosts.find? (domain ∈ ·.domains)).map (·.name) := by
  induction hosts with
  | nil => rfl
  | cons host hosts ih =>
      rw [domainOwners, List.flatMap_cons, List.lookup_append, lookup_map_owner, ← domainOwners,
        ih, List.find?_cons]
      by_cases hdomain : domain ∈ host.domains <;> simp [hdomain]

end VirtualHostPlan

namespace RouteConfigurationPlan

/-- The place of a domain that an earlier virtual host has. -/
def SharesDomain (plan : RouteConfigurationPlan) (place : Nat × Nat) : Prop :=
  ∃ host domain, plan.virtualHosts[place.1]? = some host ∧ host.domains[place.2]? = some domain ∧
    ∃ earlier ∈ plan.virtualHosts.take place.1, domain ∈ earlier.domains

/-- What is noted at such a place: the first virtual host that has the domain, and its own. -/
def NotesDomain (plan : RouteConfigurationPlan) (place : Nat × Nat) (notice : Notice) : Prop :=
  ∃ before first between host domain,
    plan.virtualHosts.take place.1 = before ++ first :: between ∧
      plan.virtualHosts[place.1]? = some host ∧ host.domains[place.2]? = some domain ∧
      domain ∈ first.domains ∧ (∀ other ∈ before, domain ∉ other.domains) ∧
      notice = .sharedDomain plan.name domain first.name host.name

/-- What is given notice of in a route configuration. -/
structure ReportsDomains (plan : RouteConfigurationPlan) (notices : List Notice) : Prop where
  /-- The notices are those of a scan that keeps the first owner of every domain. -/
  scanned : plan.domainScan.notices = notices
  /-- There is one for every domain that an earlier virtual host has, in the order of the virtual
  hosts and of the domains of each. -/
  goThrough : Notice.GoThrough (Prod.Lex (· < ·) (· < ·)) plan.SharesDomain plan.NotesDomain notices
  /-- There is none exactly if all domains differ. -/
  eq_nil_iff : notices = [] ↔ (plan.virtualHosts.flatMap (·.domains)).Nodup

variable {plan : RouteConfigurationPlan} {entry : DomainEntry} {notice : Notice}

/-- What is noted of a domain of a virtual host: the first of those before it that has the domain. -/
def noteOf? (plan : RouteConfigurationPlan) (entry : DomainEntry) : Option Notice :=
  ((plan.virtualHosts.take entry.place.1).find? (entry.domain ∈ ·.domains)).map fun first =>
    .sharedDomain plan.name entry.domain first.name entry.host.name

/-- Of virtual hosts with names of their own, the first owner of a domain is one before, or the
virtual host itself. -/
theorem noteAmong?_eq_noteOf? (hnames : (plan.virtualHosts.map (·.name)).Nodup)
    (hentry : entry ∈ VirtualHostPlan.domainEntries plan.virtualHosts) :
    DomainScan.noteAmong? plan.name (VirtualHostPlan.domainOwners plan.virtualHosts)
      (entry.domain, entry.host.name) = plan.noteOf? entry := by
  obtain ⟨hhost, hdomain⟩ := VirtualHostPlan.mem_domainEntries_iff.1 hentry
  obtain ⟨hplace, hat⟩ := List.getElem?_eq_some_iff.1 hhost
  have hhosts : plan.virtualHosts = plan.virtualHosts.take entry.place.1 ++
      entry.host :: plan.virtualHosts.drop (entry.place.1 + 1) := by
    rw [← hat, ← List.drop_eq_getElem_cons hplace, List.take_append_drop]
  have hhas : entry.domain ∈ entry.host.domains := List.mem_of_getElem? hdomain
  have hfind : plan.virtualHosts.find? (entry.domain ∈ ·.domains) =
      ((plan.virtualHosts.take entry.place.1).find? (entry.domain ∈ ·.domains)).or
        (some entry.host) := by
    conv_lhs => rw [hhosts]
    simp only [List.find?_append, List.find?_cons, hhas, decide_true]
  rw [DomainScan.noteAmong?, VirtualHostPlan.lookup_domainOwners, noteOf?, hfind]
  cases hfirst : (plan.virtualHosts.take entry.place.1).find? (entry.domain ∈ ·.domains) with
  | none => exact if_pos rfl
  | some first =>
      have hdiffers : first.name ≠ entry.host.name := by
        rw [hhosts, List.map_append, List.map_cons, List.nodup_append] at hnames
        exact hnames.2.2 _ (List.mem_map_of_mem (List.mem_of_find?_eq_some hfirst)) _
          List.mem_cons_self
      exact if_neg hdiffers

theorem sharedDomains_eq_filterMap (hnames : (plan.virtualHosts.map (·.name)).Nodup) :
    plan.sharedDomains =
      (VirtualHostPlan.domainEntries plan.virtualHosts).filterMap plan.noteOf? := by
  have hentries := VirtualHostPlan.domainOwners_eq_map plan.virtualHosts
  rw [sharedDomains_eq]
  conv_lhs => rw [hentries, List.filterMap_map, ← hentries]
  apply List.filterMap_congr
  intro entry
  exact noteAmong?_eq_noteOf? hnames

theorem exists_noteOf?_iff : (∃ notice, plan.noteOf? entry = some notice) ↔
    ∃ earlier ∈ plan.virtualHosts.take entry.place.1, entry.domain ∈ earlier.domains := by
  rw [← Option.isSome_iff_exists, noteOf?, Option.isSome_map, List.find?_isSome]
  simp only [decide_eq_true_eq]

theorem notesDomain_of_noteOf? (hentry : entry ∈ VirtualHostPlan.domainEntries plan.virtualHosts)
    (h : plan.noteOf? entry = some notice) : plan.NotesDomain entry.place notice := by
  obtain ⟨hhost, hdomain⟩ := VirtualHostPlan.mem_domainEntries_iff.1 hentry
  obtain ⟨first, hfound, rfl⟩ := Option.map_eq_some_iff.1 h
  obtain ⟨hfirst, before, between, htaken, hbefore⟩ := List.find?_eq_some_iff_append.1 hfound
  refine ⟨before, first, between, entry.host, entry.domain, htaken, hhost, hdomain,
    of_decide_eq_true hfirst, ?_, rfl⟩
  intro other hother
  simpa using hbefore other hother

theorem sharesDomain_iff {place : Nat × Nat} : plan.SharesDomain place ↔
    ∃ entry ∈ VirtualHostPlan.domainEntries plan.virtualHosts,
      (∃ notice, plan.noteOf? entry = some notice) ∧ entry.place = place := by
  simp only [exists_noteOf?_iff, VirtualHostPlan.mem_domainEntries_iff]
  constructor
  · rintro ⟨host, domain, hhost, hdomain, hearlier⟩
    exact ⟨⟨place, domain, host⟩, ⟨hhost, hdomain⟩, hearlier, rfl⟩
  · rintro ⟨entry, ⟨hhost, hdomain⟩, hearlier, rfl⟩
    exact ⟨entry.host, entry.domain, hhost, hdomain, hearlier⟩

/-- Virtual hosts that repeat no domain share none exactly if all their domains differ. -/
theorem forall_not_sharesDomain_iff (hdomains : ∀ host ∈ plan.virtualHosts, host.domains.Nodup) :
    (∀ place, ¬ plan.SharesDomain place) ↔ (plan.virtualHosts.flatMap (·.domains)).Nodup := by
  rw [List.nodup_flatMap, and_iff_right hdomains, List.pairwise_iff_getElem]
  constructor
  · intro h first second hfirst hsecond hlt domain hmem hagain
    obtain ⟨index, hindex⟩ := List.mem_iff_getElem?.1 hagain
    have hbefore : plan.virtualHosts[first] ∈ plan.virtualHosts.take second :=
      List.mem_take_iff_getElem.2 ⟨first, Nat.lt_min.2 ⟨hlt, hfirst⟩, rfl⟩
    exact h (second, index) ⟨_, domain, List.getElem?_eq_getElem hsecond, hindex, _, hbefore, hmem⟩
  · rintro h ⟨second, index⟩ ⟨host, domain, hhost, hdomain, earlier, hearlier, hmem⟩
    obtain ⟨hsecond, rfl⟩ := List.getElem?_eq_some_iff.1 hhost
    obtain ⟨first, hfirst, rfl⟩ := List.mem_take_iff_getElem.1 hearlier
    obtain ⟨hlt, hfirst⟩ := Nat.lt_min.1 hfirst
    exact h first second hfirst hsecond hlt hmem (List.mem_of_getElem? hdomain)

/-- Of virtual hosts with names of their own, none of which repeats a domain, the domains that they
share are reported. -/
theorem reportsDomains_of_nodup (hnames : (plan.virtualHosts.map (·.name)).Nodup)
    (hdomains : ∀ host ∈ plan.virtualHosts, host.domains.Nodup) :
    plan.ReportsDomains plan.sharedDomains := by
  have hthrough : Notice.GoThrough (Prod.Lex (· < ·) (· < ·)) plan.SharesDomain plan.NotesDomain
      plan.sharedDomains := by
    rw [sharedDomains_eq_filterMap hnames]
    apply Notice.goThrough_filterMap DomainEntry.place
    · exact VirtualHostPlan.pairwise_place_domainEntries plan.virtualHosts
    · intro place
      exact sharesDomain_iff
    · intro entry hentry notice
      exact notesDomain_of_noteOf? hentry
  exact ⟨plan.notices_domainScan, hthrough,
    hthrough.eq_nil_iff.trans (forall_not_sharesDomain_iff hdomains)⟩

end RouteConfigurationPlan

namespace Sample

/-- Three virtual hosts, the last of which has a domain of each of the others and one of both. -/
def overlapping : RouteConfigurationPlan :=
  ⟨"infra/edge/http",
    [⟨"first", ["a.example.com", "b.example.com"], []⟩,
      ⟨"second", ["b.example.com", "c.example.com"], []⟩,
      ⟨"third", ["a.example.com", "b.example.com", "c.example.com", "d.example.com"], []⟩]⟩

end Sample

theorem RouteConfigurationPlan.reportsDomains_of_overlapping :
    (Sample.overlapping.virtualHosts.map (·.name)).Nodup ∧
    (∀ host ∈ Sample.overlapping.virtualHosts, host.domains.Nodup) ∧
    Sample.overlapping.sharedDomains =
      [.sharedDomain "infra/edge/http" "b.example.com" "first" "second",
        .sharedDomain "infra/edge/http" "a.example.com" "first" "third",
        .sharedDomain "infra/edge/http" "b.example.com" "first" "third",
        .sharedDomain "infra/edge/http" "c.example.com" "second" "third"] ∧
    Sample.overlapping.ReportsDomains Sample.overlapping.sharedDomains := by
  have hnames : (Sample.overlapping.virtualHosts.map (·.name)).Nodup := by decide
  have hdomains : ∀ host ∈ Sample.overlapping.virtualHosts, host.domains.Nodup := by decide
  exact ⟨hnames, hdomains, by decide, reportsDomains_of_nodup hnames hdomains⟩

end GatewayCompiler
