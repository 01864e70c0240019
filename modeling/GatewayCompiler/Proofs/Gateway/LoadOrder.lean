import GatewayCompiler.Proofs.Gateway.Parts
import GatewayCompiler.Proofs.Snapshot

/-!
# Objects in another order

Objects come in some order, and where several are of one identity the last one counts.  Nothing else
of the order makes a difference to a translation, nor do the objects that are replaced.
-/

namespace GatewayCompiler

/-- The same objects in an order that is the same among the objects of one identity. -/
structure Reorders (objects objects' : List ApiObject) : Prop where
  perm : objects.Perm objects'
  kept : ∀ object ∈ objects, objects.filter (·.identity = object.identity) =
    objects'.filter (·.identity = object.identity)

/-- The objects without those that a later one of their identity replaces. -/
def lastOfEach : List ApiObject → List ApiObject
  | [] => []
  | object :: rest =>
    if rest.any (·.identity = object.identity) then lastOfEach rest
    else object :: lastOfEach rest

theorem Reorders.filter_eq {objects objects' : List ApiObject} (h : Reorders objects objects')
    (identity : ObjectIdentity) :
    objects.filter (·.identity = identity) = objects'.filter (·.identity = identity) := by
  by_cases hoccurs : ∃ object ∈ objects, object.identity = identity
  · obtain ⟨object, hobject, rfl⟩ := hoccurs
    exact h.kept object hobject
  · have hnone : objects.filter (·.identity = identity) = [] := by
      simpa [List.filter_eq_nil_iff] using hoccurs
    rw [hnone]
    exact (List.nil_perm.1 (hnone ▸ h.perm.filter _)).symm

theorem getLast?_filter_lastOfEach (objects : List ApiObject) (identity : ObjectIdentity) :
    ((lastOfEach objects).filter (·.identity = identity)).getLast? =
      (objects.filter (·.identity = identity)).getLast? := by
  induction objects with
  | nil => rfl
  | cons object rest ih =>
      rw [lastOfEach]
      by_cases hidentity : object.identity = identity
      · have hkept : (object :: rest).filter (·.identity = identity) =
            object :: rest.filter (·.identity = identity) := by
          simp [hidentity]
        rw [hkept, List.getLast?_cons]
        split
        · rename_i hreplaced
          -- A later object of the identity is there, so the last one is not this.
          have hsome : (rest.filter (·.identity = identity)).getLast?.isSome = true := by
            simpa [hidentity] using hreplaced
          obtain ⟨last, hlast⟩ := Option.isSome_iff_exists.1 hsome
          rw [ih, hlast]
          rfl
        · rw [List.filter_cons_of_pos (by simpa using hidentity), List.getLast?_cons, ih]
      · have hpassed : (object :: rest).filter (·.identity = identity) =
            rest.filter (·.identity = identity) := by
          simp [hidentity]
        rw [hpassed, ← ih]
        split
        · rfl
        · rw [List.filter_cons_of_neg (by simpa using hidentity)]

namespace Sample

/-- The objects after an earlier Service in place of one of them. -/
def revised : List ApiObject :=
  .service (service "shop" "web" "10.9.9.9") :: objects

end Sample

namespace Translator

/-- Whatever the order in which objects are loaded, and whether or not those that are replaced are
loaded at all, the translations of every Gateway are the same: the graph and with it its bytes, or
the fault, and the notices. -/
theorem translate_of_reorders {objects objects' : List ApiObject} (h : Reorders objects objects') :
    ∃ snapshot snapshot' last,
      (Snapshot.ofObjects objects).outcome = .ok snapshot ∧
      (Snapshot.ofObjects objects').outcome = .ok snapshot' ∧
      (Snapshot.ofObjects (lastOfEach objects)).outcome = .ok last ∧
      ∀ (settings : Settings) (policy : EndpointPolicy) (key : ObjectKey),
        Translator.translate ⟨snapshot', settings, policy⟩ key =
          Translator.translate ⟨snapshot, settings, policy⟩ key ∧
        Translator.translate ⟨last, settings, policy⟩ key =
          Translator.translate ⟨snapshot, settings, policy⟩ key := by
  have hloaded : (Snapshot.ofObjects objects).outcome = .ok (objects.foldl Snapshot.insert ∅) :=
    Snapshot.outcome_putAll objects
  have hreordered : (Snapshot.ofObjects objects).outcome = (Snapshot.ofObjects objects').outcome :=
    Snapshot.outcome_ofObjects_congr fun identity => by rw [h.filter_eq identity]
  have hlast : (Snapshot.ofObjects objects).outcome =
      (Snapshot.ofObjects (lastOfEach objects)).outcome :=
    Snapshot.outcome_ofObjects_congr fun identity =>
      (getLast?_filter_lastOfEach objects identity).symm
  exact ⟨_, _, _, hloaded, hreordered ▸ hloaded, hlast ▸ hloaded, fun _ _ _ => ⟨rfl, rfl⟩⟩

theorem translate_of_reorders_of_sample :
    Reorders Sample.revised (.service (Sample.service "shop" "web" "10.9.9.9") ::
      Sample.objects.reverse) ∧
    lastOfEach Sample.revised = Sample.objects ∧
    ∃ snapshot snapshot' last,
      (Snapshot.ofObjects Sample.revised).outcome = .ok snapshot ∧
      (Snapshot.ofObjects (.service (Sample.service "shop" "web" "10.9.9.9") ::
        Sample.objects.reverse)).outcome = .ok snapshot' ∧
      (Snapshot.ofObjects (lastOfEach Sample.revised)).outcome = .ok last ∧
      Translator.translate ⟨snapshot', .default, .clusterIp⟩ Sample.gateway.key =
        Translator.translate ⟨snapshot, .default, .clusterIp⟩ Sample.gateway.key ∧
      Translator.translate ⟨last, .default, .clusterIp⟩ Sample.gateway.key =
        Translator.translate ⟨snapshot, .default, .clusterIp⟩ Sample.gateway.key := by
  have hreorders : Reorders Sample.revised
      (.service (Sample.service "shop" "web" "10.9.9.9") :: Sample.objects.reverse) := by
    constructor
    · exact (List.reverse_perm _).symm.cons _
    · decide +kernel
  obtain ⟨snapshot, snapshot', last, hloaded, hreordered, hlast, hsame⟩ :=
    translate_of_reorders hreorders
  exact ⟨hreorders, by decide +kernel, snapshot, snapshot', last, hloaded, hreordered, hlast,
    hsame _ _ _⟩

end Translator

end GatewayCompiler
