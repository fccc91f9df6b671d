import ServiceDiagram.Proofs.Table
import ServiceDiagram.Proofs.Views.Steps

namespace ServiceDiagram

namespace Workspace

variable {engine : Nat} {w w' w'' : Workspace}

/-- What an engine keeps for a model, if it keeps anything. -/
def kept? (w : Workspace) (engine model : Nat) : Option Applied :=
  (w.engine engine).applied.lookup model

/-- What is kept is under the revisions of now. -/
def IsCurrent (w : Workspace) (engine model : Nat) (a : Applied) : Prop :=
  a.registryRevision = (w.registry (w.engine engine).registry).revision ∧
    a.modelRevision = (w.model model).revision

/-- Views are given again exactly if those that are kept are current. -/
theorem appliedBefore?_eq_some {model number : Nat} :
    Work.appliedBefore? w (w.engine engine) model = some number ↔
      ∃ a, w.kept? engine model = some a ∧ w.IsCurrent engine model a ∧ a.augmented = number := by
  unfold Work.appliedBefore? kept? IsCurrent
  cases (w.engine engine).applied.lookup model with
  | none => simp
  | some a =>
    simp only [Option.some.injEq, exists_eq_left']
    split
    · rename_i current
      simp [current]
    · rename_i outdated
      simp [outdated]

/-- What is kept has been built: views that are there, under revisions that have been, and the
views of now if the revisions are. -/
structure Sound (w : Workspace) (engine model : Nat) (a : Applied) : Prop where
  number_lt : a.augmented < w.augmented.length
  registry_le : a.registryRevision ≤ (w.registry (w.engine engine).registry).revision
  model_le : a.modelRevision ≤ (w.model model).revision
  views : w.IsCurrent engine model a →
    AugmentedModel.buildClasses (w.registry (w.engine engine).registry) (w.model model) =
      .ok (w.augmentedModel a.augmented).classes

/-- The engine keeps nothing but what has been built. -/
def Coherent (engine : Nat) (w : Workspace) : Prop :=
  ∀ model a, w.kept? engine model = some a → w.Sound engine model a

/-- What was sound stays so: a revision that has gone up does not come back. -/
theorem Sound.later {model : Nat} {a : Applied} (sound : w.Sound engine model a)
    (later : Later engine w w') : w'.Sound engine model a := by
  obtain ⟨more, views⟩ := later.augmented
  have registry := later.registry (w.engine engine).registry
  have model' := later.model model
  have registryLe := registry.revision_le
  have modelLe := model'.revision_le
  have registryBefore := sound.registry_le
  have modelBefore := sound.model_le
  refine ⟨?_, ?_, ?_, ?_⟩
  · rw [views, List.length_append]
    exact Nat.lt_add_right _ sound.number_lt
  · rw [later.sameRegistry]
    omega
  · omega
  · rintro ⟨registryNow, modelNow⟩
    rw [later.sameRegistry] at registryNow ⊢
    obtain ⟨conflicts, capabilities⟩ := registry.unchanged (by omega)
    have classes := model'.unchanged (by omega)
    rw [AugmentedModel.buildClasses_congr conflicts capabilities classes,
      sound.views ⟨by omega, by omega⟩]
    simp only [augmentedModel, views, List.getElem?_append_left sound.number_lt]

theorem kept?_withViews (known : engine < w.engines.length) (model : Nat)
    (classes : List ClassView) (model' : Nat) :
    (w.withViews engine model classes).kept? engine model' =
      if model' = model then
        some ⟨(w.registry (w.engine engine).registry).revision, (w.model model).revision,
          w.augmented.length⟩
      else w.kept? engine model' := by
  rw [kept?, withViews, engine_set w known]
  exact Table.lookup_put ..

/-- New views are those that the registry and the model give now. -/
theorem sound_withViews (known : engine < w.engines.length) {model : Nat}
    {classes : List ClassView}
    (built : AugmentedModel.buildClasses (w.registry (w.engine engine).registry) (w.model model) =
      .ok classes) :
    (w.withViews engine model classes).Sound engine model
      ⟨(w.registry (w.engine engine).registry).revision, (w.model model).revision,
        w.augmented.length⟩ := by
  have later := later_withViews known model classes
  refine ⟨?_, ?_, ?_, ?_⟩
  · simp [withViews]
  · rw [later.sameRegistry]
    exact Nat.le_refl _
  · exact Nat.le_refl _
  · intro
    rw [later.sameRegistry]
    have views : (w.withViews engine model classes).augmentedModel w.augmented.length =
        ⟨model, (w.engine engine).typeSystem, (w.engine engine).config, classes⟩ := by
      simp [augmentedModel, withViews]
    rw [views]
    exact built

/-- When what is kept is outdated, new views are built. -/
theorem apply_built {model : Nat} {classes : List ClassView}
    (outdated : Work.appliedBefore? w (w.engine engine) model = none)
    (built : AugmentedModel.buildClasses (w.registry (w.engine engine).registry) (w.model model) =
      .ok classes) :
    (Work.apply engine (some model)).outcome w =
      (.ok w.augmented.length, w.withViews engine model classes) := by
  rw [Work.apply_outcome, outdated, built]

/-- A step leaves what an engine keeps for a model, or it is the engine's work on the model and
builds new views. -/
theorem step_cases (known : engine < w.engines.length) (model : Nat) (s : Step) :
    (s.after engine w).kept? engine model = w.kept? engine model ∨
      ∃ classes, s = .apply (some model) ∧
        Work.appliedBefore? w (w.engine engine) model = none ∧
        AugmentedModel.buildClasses (w.registry (w.engine engine).registry) (w.model model) =
          .ok classes := by
  cases s with
  | register registry a =>
    refine .inl ?_
    rw [Step.after, Work.register_outcome]
    cases (w.registry registry).register a <;> rfl
  | addClass i c =>
    refine .inl ?_
    rw [Step.after, Work.addClass_outcome]
    cases (w.model i).addClass c <;> rfl
  | apply target =>
    cases target with
    | none => exact .inl rfl
    | some i =>
      rw [Step.after, Work.apply_outcome]
      cases before : Work.appliedBefore? w (w.engine engine) i with
      | some number => exact .inl rfl
      | none =>
        cases built : AugmentedModel.buildClasses (w.registry (w.engine engine).registry)
          (w.model i) with
        | error e => exact .inl rfl
        | ok classes =>
          by_cases same : model = i
          · subst same
            exact .inr ⟨classes, rfl, before, built⟩
          · refine .inl ?_
            simp only [kept?_withViews known, same, if_false]

/-- What is kept for a model changes only when views of it are given. -/
theorem kept?_step (known : engine < w.engines.length) {model : Nat} {s : Step}
    (quiet : ¬ s.Gives engine model w) :
    (s.after engine w).kept? engine model = w.kept? engine model := by
  rcases step_cases known model s with same | ⟨classes, rfl, outdated, built⟩
  · exact same
  · exact absurd ⟨rfl, _, by rw [apply_built outdated built]⟩ quiet

/-- No step leaves an engine with views that pass for current and are not. -/
theorem Coherent.step (coherent : Coherent engine w) (known : engine < w.engines.length)
    (s : Step) : Coherent engine (s.after engine w) := by
  intro model a kept
  rcases step_cases known model s with same | ⟨classes, rfl, outdated, built⟩
  · exact (coherent model a (same ▸ kept)).later (later_step known s)
  · rw [Step.after, apply_built outdated built] at kept ⊢
    rw [kept?_withViews known, if_pos rfl] at kept
    cases kept
    exact sound_withViews known built

/-- So over any run engines are coherent. -/
theorem Coherent.after (coherent : Coherent engine w) (known : engine < w.engines.length)
    (steps : List Step) : Coherent engine (w.after engine steps) := by
  induction steps generalizing w with
  | nil => exact coherent
  | cons s steps ih =>
    exact ih (coherent.step known s) ((later_step known s).engines ▸ known)

/-- Work that gives views leaves them with the engine under the revisions of now. -/
theorem kept_of_apply (known : engine < w.engines.length) {model number : Nat}
    (applied : (Work.apply engine (some model)).outcome w = (.ok number, w')) :
    Work.appliedBefore? w' (w'.engine engine) model = some number := by
  rw [Work.apply_outcome] at applied
  cases before : Work.appliedBefore? w (w.engine engine) model with
  | some old =>
    rw [before] at applied
    cases applied
    exact before
  | none =>
    rw [before] at applied
    cases built : AugmentedModel.buildClasses (w.registry (w.engine engine).registry)
      (w.model model) with
    | error e =>
      rw [built] at applied
      cases applied
    | ok classes =>
      rw [built] at applied
      cases applied
      refine appliedBefore?_eq_some.mpr ⟨_, by rw [kept?_withViews known, if_pos rfl], ?_, rfl⟩
      rw [IsCurrent, (later_withViews known model classes).sameRegistry]
      exact ⟨rfl, rfl⟩

/-- Work that fails changes nothing. -/
theorem unchanged_of_apply_error {model : Option Nat} {failure : Failure}
    (failed : (Work.apply engine model).outcome w = (.error failure, w')) : w' = w := by
  cases model with
  | none =>
    cases failed
    rfl
  | some model =>
    rw [Work.apply_outcome] at failed
    split at failed
    · cases failed
    · split at failed
      · cases failed
      · cases failed
        rfl

theorem registry_of_register (i : Nat) (a : Registration) {j : Nat} (other : i ≠ j) :
    ((Step.register i a).after engine w).registry j = w.registry j := by
  rw [Step.after, Work.register_outcome]
  cases (w.registry i).register a with
  | error e => rfl
  | ok result => simp only [registry_set, other, false_and, if_false]

theorem model_of_register (i : Nat) (a : Registration) (j : Nat) :
    ((Step.register i a).after engine w).model j = w.model j := by
  rw [Step.after, Work.register_outcome]
  cases (w.registry i).register a <;> rfl

theorem registry_of_addClass (i : Nat) (c : Class) (j : Nat) :
    ((Step.addClass i c).after engine w).registry j = w.registry j := by
  rw [Step.after, Work.addClass_outcome]
  cases (w.model i).addClass c <;> rfl

/-- The revision of a model goes up exactly if a class is added to it. -/
theorem revision_of_addClass {i j : Nat} (c : Class) (isModel : j < w.models.length) :
    (((Step.addClass i c).after engine w).model j).revision = (w.model j).revision ↔
      ¬ (i = j ∧ ((Work.addClass i c).outcome w).1 = .ok (.ok ())) := by
  rw [Step.after, Work.addClass_outcome]
  cases added : (w.model i).addClass c with
  | error e => simp
  | ok m =>
    have revision := Model.addClass_revision added
    simp only [model_set]
    by_cases here : i = j
    · subst here
      simp [isModel, revision]
    · simp [here]

theorem registry_of_apply (model : Option Nat) (j : Nat) :
    ((Step.apply model).after engine w).registry j = w.registry j := by
  cases model with
  | none => rfl
  | some model =>
    rw [Step.after, Work.apply_outcome]
    split
    · rfl
    · split <;> rfl

theorem model_of_apply (model : Option Nat) (j : Nat) :
    ((Step.apply model).after engine w).model j = w.model j := by
  cases model with
  | none => rfl
  | some model =>
    rw [Step.after, Work.apply_outcome]
    split
    · rfl
    · split <;> rfl

/-- A step changes what the views of a model depend on exactly if a revision goes up. -/
theorem changes_iff (known : engine < w.engines.length) {model : Nat}
    (isModel : model < w.models.length) (s : Step) :
    s.Changes engine model w ↔
      ¬ (((s.after engine w).registry (w.engine engine).registry).revision =
          (w.registry (w.engine engine).registry).revision ∧
        ((s.after engine w).model model).revision = (w.model model).revision) := by
  cases s with
  | register i a =>
    have extended : (w.registry i).Extends (((Step.register i a).after engine w).registry i) :=
      (later_step known (.register i a)).registry i
    have counted := extended.revision_eq_iff
    rw [model_of_register]
    by_cases here : i = (w.engine engine).registry
    · simp only [Step.Changes, here, true_and, and_true]
      rw [here] at counted
      omega
    · rw [registry_of_register i a here]
      simp [Step.Changes, here]
  | addClass i c =>
    rw [registry_of_addClass, revision_of_addClass c isModel]
    simp [Step.Changes]
  | apply target =>
    rw [registry_of_apply, model_of_apply]
    simp [Step.Changes]

/-- A run changes something for a model exactly if the revision of the registry or that of the model
is not what it was. -/
theorem meets_changes_iff (known : engine < w.engines.length) {model : Nat}
    (isModel : model < w.models.length) (steps : List Step) :
    Meets engine (fun w s => s.Changes engine model w) w steps ↔
      ¬ (((w.after engine steps).registry (w.engine engine).registry).revision =
          (w.registry (w.engine engine).registry).revision ∧
        ((w.after engine steps).model model).revision = (w.model model).revision) := by
  induction steps generalizing w with
  | nil => simp [Meets, Workspace.after]
  | cons s steps ih =>
    have first := later_step known s
    have known' : engine < (s.after engine w).engines.length := first.engines ▸ known
    have later := later_after known' steps
    have rest := ih known' (first.models ▸ isModel)
    have registryFirst := (first.registry (w.engine engine).registry).revision_le
    have registryLater := (later.registry (w.engine engine).registry).revision_le
    have modelFirst := (first.model model).revision_le
    have modelLater := (later.model model).revision_le
    rw [first.sameRegistry] at rest
    change s.Changes engine model w ∨ Meets engine _ (s.after engine w) steps ↔
      ¬ ((((s.after engine w).after engine steps).registry _).revision = _ ∧
        (((s.after engine w).after engine steps).model model).revision = _)
    rw [changes_iff known isModel s, rest]
    omega

theorem augmentedModel_withViews (engine model : Nat) (classes : List ClassView) :
    (w.withViews engine model classes).augmentedModel w.augmented.length =
      ⟨model, (w.engine engine).typeSystem, (w.engine engine).config, classes⟩ := by
  simp [augmentedModel, withViews]

/-- Views that an engine gives are those that its registry and the model come to. -/
theorem built_of_apply (coherent : Coherent engine w) {model number : Nat}
    (applied : (Work.apply engine (some model)).outcome w = (.ok number, w')) :
    AugmentedModel.buildClasses (w.registry (w.engine engine).registry) (w.model model) =
      .ok (w'.augmentedModel number).classes := by
  rw [Work.apply_outcome] at applied
  cases before : Work.appliedBefore? w (w.engine engine) model with
  | some old =>
    rw [before] at applied
    cases applied
    obtain ⟨a, kept, current, rfl⟩ := appliedBefore?_eq_some.mp before
    exact (coherent model a kept).views current
  | none =>
    rw [before] at applied
    cases built : AugmentedModel.buildClasses (w.registry (w.engine engine).registry)
      (w.model model) with
    | error e =>
      rw [built] at applied
      cases applied
    | ok classes =>
      rw [built] at applied
      cases applied
      rw [augmentedModel_withViews]

/-- Views that an engine gives are those of now. -/
theorem views_of_apply (coherent : Coherent engine w) (known : engine < w.engines.length)
    {model number : Nat}
    (applied : (Work.apply engine (some model)).outcome w = (.ok number, w')) :
    AugmentedModel.buildClasses (w'.registry (w'.engine engine).registry) (w'.model model) =
      .ok (w'.augmentedModel number).classes := by
  have after : (Step.apply (some model)).after engine w = w' := by rw [Step.after, applied]
  have engine' : (w'.engine engine).registry = (w.engine engine).registry :=
    after ▸ (later_step known (.apply (some model))).sameRegistry
  have registry (i : Nat) : w'.registry i = w.registry i := after ▸ registry_of_apply (some model) i
  have model' : w'.model model = w.model model := after ▸ model_of_apply (some model) model
  rw [engine', registry, model']
  exact built_of_apply coherent applied

end Workspace

/-- The views of a model that a new engine builds. -/
def Work.applyNew (registry typeSystem : Nat) (config : Config) (model : Nat) : Work Nat := do
  let engine ← Work.addEngine (some registry) (some typeSystem) config
  Work.apply engine (some model)

namespace Workspace

variable {engine : Nat} {w w' w'' : Workspace}

theorem applyNew_outcome {registry model : Nat} {classes : List ClassView} (typeSystem : Nat)
    (config : Config)
    (built : AugmentedModel.buildClasses (w.registry registry) (w.model model) = .ok classes) :
    ∃ number w', (Work.applyNew registry typeSystem config model).outcome w = (.ok number, w') ∧
      (w'.augmentedModel number).classes = classes := by
  let fresh : Workspace := { w with engines := w.engines ++ [⟨registry, typeSystem, config, []⟩] }
  have isNew : fresh.engine w.engines.length = ⟨registry, typeSystem, config, []⟩ := by
    simp [Workspace.engine, fresh]
  have outdated : Work.appliedBefore? fresh (fresh.engine w.engines.length) model = none := by
    rw [isNew]
    rfl
  have built' : AugmentedModel.buildClasses
      (fresh.registry (fresh.engine w.engines.length).registry) (fresh.model model) =
        .ok classes := by
    rw [isNew]
    exact built
  refine ⟨fresh.augmented.length, fresh.withViews w.engines.length model classes, ?_, ?_⟩
  · change (Work.apply w.engines.length (some model)).outcome fresh = _
    exact apply_built outdated built'
  · exact congrArg AugmentedModel.classes (augmentedModel_withViews _ model classes)

/-- An engine that has just been made, in the workspace that it was made in, keeps nothing. -/
theorem coherent_of_addEngine {registry typeSystem : Nat} {config : Config}
    (made : (Work.addEngine (some registry) (some typeSystem) config).outcome w =
      (.ok engine, w')) : engine < w'.engines.length ∧ Coherent engine w' := by
  cases made
  refine ⟨by simp, ?_⟩
  intro model a kept
  simp [kept?, Workspace.engine] at kept

/-- Over a run that gives no views of a model, what is kept for it stays. -/
theorem kept?_after (known : engine < w.engines.length) {model : Nat} {steps : List Step}
    (quiet : ¬ Meets engine (fun w s => s.Gives engine model w) w steps) :
    (w.after engine steps).kept? engine model = w.kept? engine model := by
  induction steps generalizing w with
  | nil => rfl
  | cons s steps ih =>
    obtain ⟨quietFirst, quietLater⟩ := not_or.mp quiet
    have known' := (later_step known s).engines ▸ known
    exact (ih known' quietLater).trans (kept?_step known quietFirst)

/-- Views that are given are those of before, or new ones at the end. -/
theorem apply_ok_cases {model number : Nat}
    (applied : (Work.apply engine (some model)).outcome w = (.ok number, w')) :
    Work.appliedBefore? w (w.engine engine) model = some number ∨
      Work.appliedBefore? w (w.engine engine) model = none ∧ number = w.augmented.length := by
  rw [Work.apply_outcome] at applied
  split at applied
  · rename_i old before
    cases applied
    exact .inl before
  · rename_i outdated
    split at applied
    · cases applied
      exact .inr ⟨outdated, rfl⟩
    · cases applied

/-- The views given earlier are given again exactly if nothing that they depend on has changed. -/
theorem gives_again_iff (coherent : Coherent engine w) (known : engine < w.engines.length)
    {model first second : Nat} (isModel : model < w.models.length)
    (earlier : (Work.apply engine (some model)).outcome w = (.ok first, w'))
    {between : List Step}
    (quiet : ¬ Meets engine (fun w s => s.Gives engine model w) w' between)
    (later : (Work.apply engine (some model)).outcome (w'.after engine between) =
      (.ok second, w'')) :
    second = first ↔ ¬ Meets engine (fun w s => s.Changes engine model w) w' between := by
  have after : Step.after engine w (.apply (some model)) = w' := by rw [Step.after, earlier]
  have step : Later engine w w' := after ▸ later_step known (.apply (some model))
  have known' : engine < w'.engines.length := step.engines ▸ known
  have isModel' : model < w'.models.length := step.models ▸ isModel
  have run := later_after known' between
  obtain ⟨a, kept, current, rfl⟩ := appliedBefore?_eq_some.mp (kept_of_apply known earlier)
  rw [← kept?_after known' quiet] at kept
  have sound := (after ▸ coherent.step known (.apply (some model))).after known' between model a kept
  have changed := meets_changes_iff known' isModel' between
  have stillCurrent : (w'.after engine between).IsCurrent engine model a ↔
      ¬ Meets engine (fun w s => s.Changes engine model w) w' between := by
    rw [changed, Classical.not_not, IsCurrent, run.sameRegistry, current.1, current.2]
    exact and_congr eq_comm eq_comm
  rw [← stillCurrent]
  rcases apply_ok_cases later with again | ⟨outdated, isNew⟩
  · obtain ⟨b, kept', current', rfl⟩ := appliedBefore?_eq_some.mp again
    cases kept.symm.trans kept'
    exact iff_of_true rfl current'
  · have notCurrent : ¬ (w'.after engine between).IsCurrent engine model a := by
      intro isCurrent
      have again := appliedBefore?_eq_some.mpr ⟨a, kept, isCurrent, rfl⟩
      rw [outdated] at again
      cases again
    have older := sound.number_lt
    exact iff_of_false (by omega) notCurrent

/-- Over any run of a new engine among registrations and additions of classes: the views that it
gives of a model are those given of it last exactly if nothing that they depend on has changed
since, in any case they are the views that a new engine builds, and work that fails leaves what the
engine keeps. -/
theorem apply_coherent {registry typeSystem : Nat} {config : Config} {w₀ w : Workspace}
    {engine : Nat}
    (made : (Work.addEngine (some registry) (some typeSystem) config).outcome w₀ = (.ok engine, w)) :
    (∀ before between model first second w₁ w₂, model < w.models.length →
      (Work.apply engine (some model)).outcome (w.after engine before) = (.ok first, w₁) →
      ¬ Meets engine (fun w s => s.Gives engine model w) w₁ between →
      (Work.apply engine (some model)).outcome (w₁.after engine between) = (.ok second, w₂) →
      (second = first ↔ ¬ Meets engine (fun w s => s.Changes engine model w) w₁ between)) ∧
    (∀ steps model number w',
      (Work.apply engine (some model)).outcome (w.after engine steps) = (.ok number, w') →
      ∀ typeSystem config, ∃ number' w'',
        (Work.applyNew (w'.engine engine).registry typeSystem config model).outcome w' =
          (.ok number', w'') ∧
        (w''.augmentedModel number').classes = (w'.augmentedModel number).classes) ∧
    (∀ steps model failure w',
      (Work.apply engine model).outcome (w.after engine steps) = (.error failure, w') →
      (w'.engine engine).applied = ((w.after engine steps).engine engine).applied) := by
  obtain ⟨known, coherent⟩ := coherent_of_addEngine made
  refine ⟨?_, ?_, ?_⟩
  · intro before between model first second w₁ w₂ isModel earlier quiet later
    have run := later_after known before
    exact gives_again_iff (coherent.after known before) (run.engines ▸ known)
      (run.models ▸ isModel) earlier quiet later
  · intro steps model number w' applied typeSystem config
    have run := later_after known steps
    exact applyNew_outcome typeSystem config
      (views_of_apply (coherent.after known steps) (run.engines ▸ known) applied)
  · intro steps model failure w' failed
    rw [unchanged_of_apply_error failed]

/-- A model without classes, and an engine that has built nothing. -/
def sampleShop : Workspace :=
  { empty with
    models := [.empty "shop"]
    registries := [.empty]
    typeSystems := [.table []]
    engines := [⟨0, 0, .default, []⟩] }

def sampleClass : Class := ⟨"C1", "Cart", none, [], [], [], by decide⟩

/-- After a class is added to the model, its views are built anew. -/
theorem apply_coherent_sample :
    (Work.addEngine (some 0) (some 0) .default).outcome { sampleShop with engines := [] } =
        (.ok 0, sampleShop) ∧
      ∃ w₁ w₂, (Work.apply 0 (some 0)).outcome sampleShop = (.ok 0, w₁) ∧
        ¬ Meets 0 (fun w s => s.Gives 0 0 w) w₁ [.addClass 0 sampleClass] ∧
        (Work.apply 0 (some 0)).outcome (w₁.after 0 [.addClass 0 sampleClass]) = (.ok 1, w₂) ∧
        (1 = 0 ↔ ¬ Meets 0 (fun w s => s.Changes 0 0 w) w₁ [.addClass 0 sampleClass]) := by
  have made : (Work.addEngine (some 0) (some 0) .default).outcome { sampleShop with engines := [] } =
      (.ok 0, sampleShop) := rfl
  have quiet (w : Workspace) :
      ¬ Meets 0 (fun w s => s.Gives 0 0 w) w [.addClass 0 sampleClass] := by
    rintro (⟨same, -⟩ | never)
    · cases same
    · exact never
  refine ⟨made, _, _, rfl, quiet _, rfl, ?_⟩
  exact (apply_coherent made).1 [] [.addClass 0 sampleClass] 0 0 1 _ _ (by decide) rfl (quiet _) rfl

end Workspace
end ServiceDiagram
