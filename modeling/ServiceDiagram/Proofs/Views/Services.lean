import ServiceDiagram.Proofs.Registry.Merge
import ServiceDiagram.Proofs.Views.Faithful

namespace ServiceDiagram

namespace Scope

/-- A scope that is the same as that of services is that of services. -/
theorem eq_services_of_eqv {s : Scope} {config : Config} (same : s.eqv (.services config) = true) :
    s = .services config := by
  obtain ⟨kind, ⟨criteria, canonical⟩⟩ := s
  simp only [eqv, services, Bool.and_eq_true, beq_iff_eq, NodeFilter.eqv, NodeFilter.ofStereotype]
    at same
  obtain ⟨rfl, same⟩ := same
  cases criteria with
  | nil => cases same
  | cons criterion rest =>
    obtain ⟨name, v⟩ := criterion
    simp only [NodeFilter.sameCriteria, Bool.and_eq_true, beq_iff_eq] at same
    obtain ⟨⟨rfl, isText⟩, none'⟩ := same
    have isText : v = .text config.serviceStereotype := by
      cases v <;> simp_all [Value.eqv, Value.number?]
    cases rest with
    | nil => subst isText; rfl
    | cons c rest => cases none'

end Scope

namespace Registry

variable {r : Registry} {scope : Scope} {kind : NodeKind} {n : Node} {cs all : List Capability}

/-- A node that is covered by what a scope holds is given all of it. -/
theorem Holds.find?_gathered (holds : r.Holds scope cs)
    (covers : ∀ s : Scope, s.eqv scope = true → s.Covers kind n)
    (gathered : r.capabilitiesFor kind n = .ok all) :
    ∀ c ∈ cs, all.find? (fun d => d.name == c.name) = some c := by
  intro c member
  have gathers := capabilitiesFor_gathers r kind n
  rw [gathered] at gathers
  obtain ⟨-, differ, members⟩ := gathers
  have here := List.getElem?_eq_getElem holds.inside
  have found := holds.found c member
  rw [findAt?_of_getElem? here] at found
  obtain ⟨sameKind, passes⟩ := covers _ (eqv_at_placeOf holds.inside)
  have covering : c ∈ r.covering kind n := by
    refine List.mem_flatMap.mpr ⟨_, List.mem_filter.mpr ⟨List.mem_of_getElem? here, ?_⟩,
      List.mem_of_find?_eq_some found⟩
    rw [Bool.and_eq_true, beq_iff_eq]
    exact ⟨sameKind, passes⟩
  exact (find?_name_iff differ c.name c).mpr ⟨(members c).mpr covering, rfl⟩

end Registry

/-- The view of a class with the service stereotype, where services have their capabilities. -/
theorem ClassView.isService_of_build {r : Registry} {config : Config} {v : ClassView}
    (holds : r.Holds (.services config) Capability.ofServices) (built : build r v.node = .ok v)
    (stereotype : v.node.stereotype = some config.serviceStereotype) : v.IsService := by
  refine holds.find?_gathered (fun s same => ?_) (ClassView.of_build built).1
  rw [Scope.eq_services_of_eqv same]
  exact ⟨rfl, (Registry.passes_services config v.node).trans (decide_eq_true stereotype)⟩

namespace Workspace

variable {w w' : Workspace}

/-- Building views changes no configuration. -/
theorem config_of_apply (engine : Nat) (model : Option Nat) (other : Nat) :
    (((Work.apply engine model).outcome w).2.engine other).config = (w.engine other).config := by
  rcases apply_cases w engine model with ⟨events, same⟩ | ⟨i, classes, same⟩ <;>
    rw [Step.after] at same <;> rw [same]
  · rfl
  · exact config_withViews engine i classes other

end Workspace

namespace Context

open Workspace

variable {c c' : Context} {w w' : Workspace}

/-- The registry of a run is there, and its engine, once there is one, works for it. -/
structure IsOwn (c : Context) (w : Workspace) : Prop where
  registry : c.registry < w.registries.length
  engine : ∀ e, c.engine = some e → e < w.engines.length ∧
    (w.engine e).registry = c.registry ∧ (w.engine e).config = c.config

/-- The engine that a run uses, just made or made before. -/
theorem IsOwn.withEngine (own : c.IsOwn w) {e : Nat} (used : c.withEngine.outcome w = (.ok (c', e), w')) :
    c'.model = c.model ∧ w'.registries = w.registries ∧ e < w'.engines.length ∧
      (w'.engine e).registry = c.registry ∧ (w'.engine e).config = c.config := by
  unfold Context.withEngine at used
  cases known : c.engine with
  | some e' =>
    rw [known] at used
    cases used
    exact ⟨rfl, rfl, own.engine e known⟩
  | none =>
    rw [known] at used
    cases used
    refine ⟨rfl, rfl, by simp, ?_⟩
    simp [Workspace.engine]

/-- Before the capabilities of a run are registered without a conflict, there is none. -/
theorem clean_of_granted {r : Registry} (clean : (c.granted r).checkConflicts = .ok ()) :
    (c.granted r).conflicts = r.conflicts := by
  have none' : (c.granted r).conflicts = [] := by
    unfold Registry.checkConflicts at clean
    split at clean
    · assumption
    · cases clean
  have grows : r.Grows (c.granted r) := (r.insert_grows _ _).trans (Registry.insert_grows _ _ _)
  rw [none']
  exact (List.prefix_nil.mp (none' ▸ grows.conflicts)).symm

/-- What a run leaves: views of all classes of its model, under its configuration, of which those
with the service stereotype offer what services offer. -/
structure Views (c : Context) (number : Nat) (w : Workspace) : Prop where
  there : number < w.augmented.length
  model : (w.augmentedModel number).model = c.model
  config : (w.augmentedModel number).config = c.config
  upToDate : w.IsUpToDate number
  services : ∀ v ∈ (w.augmentedModel number).classes,
    v.node.stereotype = some c.config.serviceStereotype → v.IsService

/-- The views that an engine gives for a run, once its capabilities are registered. -/
theorem views_of_engine {engine number : Nat} {r : Registry} (faithful : w.Faithful)
    (coherent : Coherent engine w) (known : engine < w.engines.length)
    (onRegistry : (w.engine engine).registry = c.registry)
    (config : (w.engine engine).config = c.config)
    (granted : w.registry c.registry = c.granted r)
    (applied : (Work.apply engine (some c.model)).outcome w = (.ok number, w')) :
    c.Views number w' := by
  have after : (Step.apply (some c.model)).after engine w = w' := by rw [Step.after, applied]
  have faithful' : w'.Faithful := by
    have stays := apply_staysFaithful engine (some c.model) w faithful
    rwa [applied] at stays
  have onRegistry' : (w'.engine engine).registry = c.registry := by
    have later := later_apply known (some c.model)
    rw [applied] at later
    exact later.sameRegistry.trans onRegistry
  have config' : (w'.engine engine).config = c.config := by
    have same := config_of_apply (w := w) engine (some c.model) engine
    rw [applied] at same
    exact same.trans config
  have granted' : w'.registry c.registry = c.granted r := by
    rw [← after, registry_of_apply]
    exact granted
  obtain ⟨a, kept, -, rfl⟩ := appliedBefore?_eq_some.mp (kept_of_apply known applied)
  have belongs := faithful'.kept engine c.model a kept
  have views := views_of_apply coherent known applied
  rw [onRegistry', granted'] at views
  obtain ⟨clean, nodes, each⟩ := AugmentedModel.of_buildClasses views
  have holds := (c.holds_of_granted (clean_of_granted clean)).1
  refine ⟨belongs.there, belongs.model, belongs.config.trans config', ?_,
    fun v member stereotype => ?_⟩
  · rw [IsUpToDate, modelOf, belongs.model, nodes]
  · exact ClassView.isService_of_build holds (each v member) stereotype

/-- After a run has built its views, they are those of its model, and every service offers what
services offer. -/
theorem views_of_augment {number : Nat} (own : c.IsOwn w) (faithful : w.Faithful)
    (sound : ∀ engine, Coherent engine w)
    (built : c.augment.outcome w = (.ok (c', number), w')) : c.Views number w' := by
  obtain ⟨_, w₁, granted, built⟩ := Work.exists_of_outcome_bind built
  obtain ⟨⟨c₁, e⟩, w₂, used, built⟩ := Work.exists_of_outcome_bind built
  obtain ⟨_, w₃, applied, built⟩ := Work.exists_of_outcome_bind built
  cases built
  have faithful₁ := c.follows_initStereotype isFrame_staysFaithful (grant_staysFaithful _ _ _)
    (grant_staysFaithful _ _ _) w faithful
  have sound₁ := (c.advances_initStereotype w).coherent sound
  obtain ⟨events, came⟩ := c.initStereotype_outcome own.registry
  cases granted.symm.trans came
  rw [came] at faithful₁ sound₁
  have own₁ : c.IsOwn { w with
      registries := w.registries.set c.registry (c.granted (w.registry c.registry))
      events := events } := ⟨by simpa using own.registry, own.engine⟩
  obtain ⟨sameModel, registries, known, onRegistry, config⟩ := own₁.withEngine used
  have faithful₂ := c.follows_withEngine isFrame_staysFaithful addEngine_staysFaithful _ faithful₁
  have sound₂ := (c.advances_withEngine _).coherent sound₁
  rw [used] at faithful₂ sound₂
  rw [sameModel] at applied
  have held : w₂.registry c.registry = c.granted (w.registry c.registry) := by
    simp only [Workspace.registry, registries, List.getElem?_set_self own.registry, Option.getD_some]
  exact views_of_engine faithful₂ (sound₂ e) known onRegistry config held applied

end Context

end ServiceDiagram
