import ServerTelemetry.Proofs.Document.Reorder
import ServerTelemetry.Proofs.Wiring.Parts

/-!
# What the resource says

The resource is written from four sources, each on top of the ones before it: what is known of the
library, what the environment says, the configured attributes, and the configured name of the service.
`find?_configured` says for every attribute which of them is in the resource. So nothing that is
configured gives way to what is found, and what is found stays where nothing is configured
(`resource_as_configured`). Whatever the sources say, the service has a name
(`find?_serviceName_isSome`).
-/

namespace ServerTelemetry

namespace Labels

/-- Of labels with different names none is written over by another. -/
theorem find?_insertAll_of_nodup {entries : List (Text × Text)}
    (hnames : (entries.map Prod.fst).Nodup) (labels : Labels) (name : Text) :
    (labels.insertAll entries).find? name = (entries.lookup name).or (labels.find? name) := by
  induction entries generalizing labels with
  | nil => rfl
  | cons e entries ih =>
    obtain ⟨hnew, hnames⟩ := List.nodup_cons.1 hnames
    have hrest := ih hnames (labels.insert e.1 e.2)
    rw [find?_insert] at hrest
    rw [lookup_entry]
    by_cases hname : name = e.1
    · -- The name does not come again, so what is written here stays.
      subst hname
      have hnone : entries.lookup e.1 = none := by
        refine List.lookup_eq_none_iff.2 fun other hother => ?_
        exact bne_iff_ne.2 fun heq => hnew (heq ▸ List.mem_map_of_mem hother)
      rw [if_pos rfl] at hrest ⊢
      rw [hnone, Option.none_or] at hrest
      exact hrest
    · rw [if_neg hname] at hrest ⊢
      exact hrest

/-- Of two sets of labels, those that are written last are all there. -/
theorem find?_insertAll_entries (labels more : Labels) (name : Text) :
    (labels.insertAll more.entries).find? name = (more.find? name).or (labels.find? name) :=
  find?_insertAll_of_nodup more.nodup_names labels name

end Labels

namespace Resource

/-- An attribute is the configured one, or else the one that is found. The name of the service has a
setting of its own, which counts more than an attribute with that name. -/
theorem find?_configured (t : TelemetrySettings) (found : Labels) (key : Text) :
    (configured t found).find? key =
      ((if key = serviceNameKey then t.serviceName.or (t.resource.find? key)
        else t.resource.find? key).or (found.find? key)) := by
  have hresource := Labels.find?_insertAll_entries found t.resource key
  unfold configured
  cases t.serviceName with
  | none => simpa using hresource
  | some name =>
    simp only [Labels.find?_insert, hresource, Option.some_or]
    split <;> rfl

/-- The service has a name, whatever the configuration and the environment say. -/
theorem find?_serviceName_isSome (t : TelemetrySettings) (vars : Text → Option Text) :
    ((configured t (detected vars)).find? serviceNameKey).isSome = true := by
  have hfound : ((detected vars).find? serviceNameKey).isSome = true := by
    unfold detected
    have hlibrary : (library.map Prod.fst).Nodup := by decide
    rw [Labels.find?_insertAll_entries, Labels.find?_insertAll_of_nodup hlibrary,
      Labels.find?_insert, if_pos rfl]
    simp
  rw [find?_configured, Option.isSome_or, hfound, Bool.or_true]

/-- **The resource says what was configured**, whatever is found. A configured attribute is there with
its configured text. The service has the name of its setting, or else that of a configured attribute,
or else the one that is found. An attribute that is not configured is there as it is found, and no name
occurs twice. The resource of a provider that is set up is this one, on top of what is found in its
process. -/
theorem resource_as_configured (t : TelemetrySettings) (found : Labels) :
    (∀ key text, key ≠ serviceNameKey → t.resource.find? key = some text →
      (configured t found).find? key = some text) ∧
    (configured t found).find? serviceNameKey =
      (t.serviceName.or (t.resource.find? serviceNameKey)).or (found.find? serviceNameKey) ∧
    (∀ key, t.resource.find? key = none → (key = serviceNameKey → t.serviceName = none) →
      (configured t found).find? key = found.find? key) ∧
    ((configured t found).entries.map Prod.fst).Nodup ∧
    (∀ key text, (key, text) ∈ (configured t found).entries ↔
      (configured t found).find? key = some text) ∧
    ∀ features vars c w o, (Wiring.ofConfiguration features vars c).2 = .ok w →
      w.provider = some o → o.resource = configured c.telemetry (detected vars) := by
  refine ⟨fun key text hkey htext => ?_, ?_, fun key hnone hname => ?_, Labels.nodup_names _,
    fun key text => Labels.mem_entries_iff, fun features vars c w o hw ho => ?_⟩
  · rw [find?_configured, if_neg hkey, htext, Option.some_or]
  · rw [find?_configured, if_pos rfl]
  · rw [find?_configured, hnone]
    by_cases hkey : key = serviceNameKey
    · rw [if_pos hkey, hname hkey]
      rfl
    · rw [if_neg hkey, Option.none_or]
  · have hserves := Wiring.serves_of_ok hw
    cases henabled : c.telemetry.enabled with
    | false =>
      rw [hserves.off henabled] at ho
      cases ho
    | true =>
      obtain ⟨-, provider, hprovider, hresource⟩ := hserves.on henabled
      obtain rfl : provider = o := Option.some.inj (hprovider.symm.trans ho)
      exact hresource.resource

/-- The environment gives the service a name and has two more attributes, one of which is configured;
so is one that the library gives, and the name of the service, twice. -/
theorem resource_as_configured_overlaps :
    let t : TelemetrySettings :=
      { serviceName := some "checkout".toList
        resource := Labels.empty.insertAll [(serviceNameKey, "shop".toList),
          ("host".toList, "a".toList), ("telemetry.sdk.name".toList, "own".toList)] }
    let vars : Text → Option Text := fun name =>
      if name = attributesVariable then some "host=b, zone=eu, service.name=cart".toList else none
    ∃ w o, (Wiring.ofConfiguration (fun _ => true) vars { telemetry := t }).2 = .ok w ∧
      w.provider = some o ∧
      o.resource.find? "host".toList = some "a".toList ∧
      o.resource.find? "telemetry.sdk.name".toList = some "own".toList ∧
      o.resource.find? serviceNameKey = some "checkout".toList ∧
      o.resource.find? "zone".toList = some "eu".toList := by
  intro t vars
  obtain ⟨hgiven, hname, hfound, -, -, hprovider⟩ := resource_as_configured t (detected vars)
  refine ⟨_, _, rfl, rfl, ?_⟩
  rw [hprovider (fun _ => true) vars { telemetry := t } _ _ rfl rfl, hname,
    hgiven "host".toList "a".toList (by decide) (by decide),
    hgiven "telemetry.sdk.name".toList "own".toList (by decide) (by decide),
    hfound "zone".toList (by decide) (by decide)]
  exact ⟨rfl, rfl, rfl, by decide⟩

end Resource

end ServerTelemetry
