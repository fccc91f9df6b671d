import ServiceDiagram.Proofs.Number.Digits
import ServiceDiagram.Proofs.Registry.Conflicts
import ServiceDiagram.Proofs.Registry.Fault
import ServiceDiagram.Proofs.Registry.InPlace
import ServiceDiagram.Proofs.Views.Frame
import ServiceDiagram.Proofs.Views.Generation

namespace ServiceDiagram

/-- The call that an act makes on a registry, if it is a registration without a fault. -/
def Act.call? (i : Nat) : Act → Option Registry.Call
  | .step _ (.register j a) => if j = i then a.read.toOption else none
  | _ => none

theorem Act.exists_of_call? {i : Nat} {act : Act} {call : Registry.Call}
    (isCall : act.call? i = some call) :
    ∃ engine a, act = .step engine (.register i a) ∧ a.read = .ok call := by
  unfold Act.call? at isCall
  split at isCall
  · rename_i engine j a
    split at isCall
    · rename_i same
      subst same
      cases read : a.read with
      | error e =>
        rw [read] at isCall
        cases isCall
      | ok call' =>
        rw [read] at isCall
        cases isCall
        exact ⟨engine, a, rfl, read⟩
    · cases isCall
  · cases isCall

/-- The calls that acts make on a registry, in order. -/
def Act.callsOn (i : Nat) (acts : List Act) : List Registry.Call := acts.filterMap (Act.call? i)

/-- If no conflict comes up while the capabilities of a run are registered, they are held. -/
theorem Context.holds_of_granted (c : Context) {r : Registry}
    (clean : (c.granted r).conflicts = r.conflicts) :
    (c.granted r).Holds (.services c.config) Capability.ofServices ∧
      (c.granted r).Holds .parameters Capability.ofParameters := by
  let services := (r.insert (.services c.config) Capability.ofServices).1
  have first : r.Grows services := r.insert_grows _ _
  have later : services.Grows (c.granted r) := services.insert_grows _ _
  have cleanFirst := first.clean later clean
  have selfServices : (Scope.services c.config).eqv (.services c.config) = true := by
    refine Scope.eqv_self (List.forall_mem_singleton.mpr ⟨rfl, ?_⟩)
    exact beq_self_eq_true c.config.serviceStereotype
  exact ⟨(Registry.holds_of_clean selfServices cleanFirst).grows later,
    Registry.holds_of_clean rfl (clean.trans cleanFirst.symm)⟩

/-- Does a work a number of times. -/
def Work.times (x : Work Unit) : Nat → Work Unit
  | 0 => pure ()
  | n + 1 => x >>= fun _ => x.times n

/-- The views that an engine gives of a model are given again after a work. -/
def Work.Regives {α : Type} (x : Work α) (w : Workspace) : Prop :=
  ∀ engine model number w', engine < w.engines.length →
    (Work.apply engine (some model)).outcome w = (.ok number, w') →
    ((x >>= fun _ => Work.apply engine (some model)).outcome w').1 = .ok number

namespace Workspace

variable {w w' : Workspace} {i : Nat}

/-- An act changes a registry by the call that it makes on it, if any. -/
theorem registry_act (known : i < w.registries.length) (act : Act) :
    (act.after w).registries.length = w.registries.length ∧
      (act.after w).registry i = (w.registry i).after (act.call? i).toList := by
  have ofRead (read : w.ReadTo (act.after w)) :
      (act.after w).registries.length = w.registries.length ∧
        (act.after w).registry i = w.registry i := by
    rw [registry, read.registries]
    exact ⟨rfl, rfl⟩
  cases act with
  | read on name => exact ofRead (readTo_read w on name)
  | call on args => exact ofRead (readTo_call w on args)
  | step engine s =>
    cases s with
    | register j a =>
      change ((Work.register j a).outcome w).2.registries.length = _ ∧
        ((Work.register j a).outcome w).2.registry i = _
      rw [Work.register_outcome, Registry.register_eq, Act.call?]
      cases a.read with
      | error e =>
        refine ⟨rfl, ?_⟩
        change w.registry i = _
        split <;> rfl
      | ok call =>
        refine ⟨List.length_set, ?_⟩
        simp only [Except.map, registry_set]
        by_cases same : j = i
        · rw [if_pos ⟨same, same ▸ known⟩, if_pos same, same]
          rfl
        · rw [if_neg fun both => same both.1, if_neg same]
          rfl
    | addClass j c =>
      have kept : ((Step.addClass j c).after engine w).registry i = w.registry i :=
        registry_of_addClass j c i
      refine ⟨?_, kept⟩
      change ((Work.addClass j c).outcome w).2.registries.length = _
      rw [Work.addClass_outcome]
      cases (w.model j).addClass c <;> rfl
    | apply target =>
      have kept : ((Step.apply target).after engine w).registry i = w.registry i :=
        registry_of_apply target i
      refine ⟨?_, kept⟩
      change ((Step.apply target).after engine w).registries.length = _
      rcases apply_cases w engine target with ⟨events, same⟩ | ⟨model, classes, same⟩ <;> rw [same]
      rfl

/-- The induction is on the acts: a registry is what the calls made on it tell. -/
theorem registry_acts (known : i < w.registries.length) (acts : List Act) :
    (w.afterActs acts).registries.length = w.registries.length ∧
      (w.afterActs acts).registry i = (w.registry i).after (Act.callsOn i acts) := by
  induction acts generalizing w with
  | nil => exact ⟨rfl, rfl⟩
  | cons act acts ih =>
    obtain ⟨length, here⟩ := registry_act known act
    obtain ⟨length', later⟩ := ih (length.symm ▸ known)
    refine ⟨length'.trans length, later.trans ?_⟩
    have split : Act.callsOn i (act :: acts) = (act.call? i).toList ++ Act.callsOn i acts := by
      rw [Act.callsOn, List.filterMap_cons]
      cases act.call? i <;> rfl
    rw [here, split, Registry.after_append]

theorem isHashable_of_calls {acts : List Act} {call : Registry.Call}
    (member : call ∈ Act.callsOn i acts) : call.1.filter.IsHashable := by
  obtain ⟨act, -, isCall⟩ := List.mem_filterMap.mp member
  obtain ⟨engine, a, -, read⟩ := Act.exists_of_call? isCall
  exact (Registration.stands_of_read read).2

section Conflicts

/-- Nothing was registered and no views were built. -/
structure IsFresh (w : Workspace) : Prop where
  registries : ∀ r ∈ w.registries, r = .empty
  engines : ∀ e ∈ w.engines, e.applied = []

theorem IsFresh.registry (fresh : w.IsFresh) (i : Nat) : w.registry i = .empty := by
  unfold Workspace.registry
  cases here : w.registries[i]? with
  | none => rfl
  | some r => exact fresh.registries r (List.mem_of_getElem? here)

/-- In a workspace that begins, engines have no views that could be outdated. -/
theorem IsFresh.coherent (fresh : w.IsFresh) (engine : Nat) : Coherent engine w := by
  intro model a kept
  have none' : (w.engine engine).applied = [] := by
    unfold Workspace.engine
    cases here : w.engines[engine]? with
    | none => rfl
    | some e => exact fresh.engines e (List.mem_of_getElem? here)
  rw [kept?, none'] at kept
  cases kept

/-- An engine whose registry has a conflict gives no views, not even those that it built before. -/
theorem apply_of_conflict {engine model : Nat} {e : Refusal}
    (coherent : Coherent engine w)
    (conflict : (w.registry (w.engine engine).registry).checkConflicts = .error e) :
    (Work.apply engine (some model)).outcome w = (.error (.refused e), w) := by
  have fails : AugmentedModel.buildClasses (w.registry (w.engine engine).registry) (w.model model) =
      .error e := by
    rw [AugmentedModel.buildClasses, conflict]
    rfl
  rw [Work.apply_outcome, fails]
  cases before : Work.appliedBefore? w (w.engine engine) model with
  | none => rfl
  | some number =>
    obtain ⟨a, kept, current, -⟩ := appliedBefore?_eq_some.mp before
    cases fails.symm.trans ((coherent model a kept).views current)

/-- The first conflict of the calls made on a registry is what it reports. -/
theorem checkConflicts_acts (fresh : w.IsFresh) (known : i < w.registries.length)
    (acts : List Act) :
    ((w.afterActs acts).registry i).checkConflicts =
      Registry.reportOf (Registry.firstConflict? (Act.callsOn i acts)) := by
  rw [(registry_acts known acts).2, fresh.registry]
  exact Registry.checkConflicts_after fun call => isHashable_of_calls

/-- Whatever is registered, added, applied and read: as long as the calls made on a registry have no
conflict, none is reported. From their first conflict on, there is one thing that is raised, and every
engine over the registry raises it on every model, whether or not it has built views of it. That is
the conflict with its scope, its name and its reason if the scope can be shown; if its filter has an
integer that is too long for that, only this is raised. There is a conflict exactly if two
capabilities of one name and equal scopes differ. -/
theorem conflict_is_final (fresh : w.IsFresh) (known : i < w.registries.length)
    (acts : List Act) :
    ((∀ call ∈ Act.callsOn i acts, call.1.filter.IsKey) →
      (Registry.firstConflict? (Act.callsOn i acts) = none ↔
        ¬ Entry.Clashes (Registry.entriesOf (Act.callsOn i acts)))) ∧
    (Registry.firstConflict? (Act.callsOn i acts) = none →
      ((w.afterActs acts).registry i).checkConflicts = .ok ()) ∧
    ∀ k, Registry.firstConflict? (Act.callsOn i acts) = some k → ∃ refusal : Refusal,
      (refusal = .configuration (.conflict k.scope k.first k.second) ↔
        k.scope.filter.isShowable = true) ∧
      (refusal = .longInteger ↔ k.scope.filter.isShowable = false) ∧
      ∀ later,
        ((w.afterActs (acts ++ later)).registry i).checkConflicts = .error refusal ∧
        ∀ engine model, ((w.afterActs (acts ++ later)).engine engine).registry = i →
          (Work.apply engine (some model)).outcome (w.afterActs (acts ++ later)) =
            (.error (.refused refusal), w.afterActs (acts ++ later)) := by
  refine ⟨Registry.firstConflict?_eq_none_iff, fun none' => ?_, fun k first => ?_⟩
  · rw [checkConflicts_acts fresh known, none', Registry.reportOf]
  refine ⟨.of (.conflict k.scope k.first k.second), ?_, ?_, fun later => ?_⟩
  · exact Refusal.of_eq_configuration_iff.trans (and_iff_left rfl)
  · exact Refusal.of_eq_longInteger_iff
  · have stays : Registry.firstConflict? (Act.callsOn i (acts ++ later)) = some k := by
      rw [Act.callsOn, List.filterMap_append]
      exact Registry.firstConflict?_append first (Act.callsOn i later)
    have conflict := checkConflicts_acts fresh known (acts ++ later)
    rw [stays, Registry.reportOf] at conflict
    refine ⟨conflict, fun engine model onIt => ?_⟩
    have coherent := (fresh.coherent engine).acts (acts ++ later)
    exact apply_of_conflict coherent (onIt.symm ▸ conflict)

/-- A grade, which the host program computes in one way or another. -/
def sampleCapability (way : String) : Capability := ⟨"grade", .host way, .accessor, by decide⟩

def sampleRegistration (way : String) : Registration :=
  ⟨.ok .ofClass, .ok .all, [.capability (sampleCapability way)], []⟩

/-- A demand that cannot be shown. -/
def sampleDemand : NodeFilter :=
  ⟨[("min_value", .int (10 ^ digitLimit))], by simp [NodeFilter.Canonical]⟩

/-- Views are built, and then the grade is registered in two ways. -/
def sampleConflict : List Act :=
  [.step 0 (.apply (some 0)),
    .step 0 (.register 0 { sampleRegistration "early" with filter := .ok sampleDemand }),
    .step 0 (.register 0 { sampleRegistration "late" with filter := .ok sampleDemand })]

/-- Views that were built before and those of a model that has changed are out of reach, and nothing
tells why. -/
theorem conflict_is_final_sample :
    sampleShop.IsFresh ∧ 0 < sampleShop.registries.length ∧
      ∃ k, Registry.firstConflict? (Act.callsOn 0 sampleConflict) = some k ∧
        k.first = sampleCapability "early" ∧ k.second = sampleCapability "late" ∧
        (Work.apply 0 (some 0)).outcome
          (sampleShop.afterActs (sampleConflict ++ [.step 0 (.addClass 0 sampleClass)])) =
            (.error (.refused .longInteger),
              sampleShop.afterActs (sampleConflict ++ [.step 0 (.addClass 0 sampleClass)])) := by
  have fresh : sampleShop.IsFresh := ⟨by simp [sampleShop], by simp [sampleShop]⟩
  let scope : Scope := ⟨.ofClass, sampleDemand⟩
  have calls : Act.callsOn 0 sampleConflict =
      [(scope, [sampleCapability "early"]), (scope, [sampleCapability "late"])] := rfl
  have equal : scope.eqv scope = true := by
    refine Scope.eqv_self fun c member => ?_
    cases List.mem_singleton.mp member
    exact ⟨rfl, (Value.eqv_iff rfl _).mpr ⟨rfl, rfl⟩⟩
  have first : Registry.firstConflict? (Act.callsOn 0 sampleConflict) =
      some ⟨scope, sampleCapability "early", sampleCapability "late"⟩ := by
    rw [calls, Registry.firstConflict?]
    simp [Registry.conflictsOf, Registry.clashes, Registry.under, equal, Conflict.between,
      sampleCapability]
  have tooLong : sampleDemand.isShowable = false := by
    simp [NodeFilter.isShowable, sampleDemand, Value.isShowable, Number.isShowable,
      isShowableInt_limit]
  obtain ⟨refusal, -, unshown, raised⟩ :=
    (conflict_is_final fresh Nat.one_pos sampleConflict).2.2 _ first
  have outcome := (raised [.step 0 (.addClass 0 sampleClass)]).2 0 0 rfl
  rw [unshown.mpr tooLong] at outcome
  exact ⟨fresh, Nat.one_pos, _, first, rfl, rfl, outcome⟩

end Conflicts

section Faults

/-- A registration fails exactly for its first fault. Then nothing is stored, although what was stored
would not be taken back, and whatever is done later comes to what it comes to without the call. -/
theorem failed_registration_unnoticed (a : Registration) (e : RegistryError) :
    (∀ w i, ((Work.register i a).outcome w).1 = .ok (.error e) ↔ a.Fault e) ∧
      (a.Fault e →
        (∀ r es, (Storing.register a).outcome (r, es) = (.error e, (r, es))) ∧
        ∀ (w : Workspace) i engine acts (α : Type) (x : Work α),
          x.outcome (w.afterActs (.step engine (.register i a) :: acts)) =
            x.outcome (w.afterActs acts)) := by
  have failed (r : Registry) : r.register a = .error e ↔ a.Fault e := by
    rw [Registry.register_eq, ← Registration.read_error_iff]
    cases a.read <;> simp [Except.map]
  refine ⟨fun w i => ?_, fun fault => ⟨fun r es => ?_, fun w i engine acts α x => ?_⟩⟩
  · rw [Work.register_outcome, ← failed (w.registry i)]
    cases (w.registry i).register a <;> simp
  · rw [Storing.register_outcome, (failed r).mpr fault]
  · have same : (Act.step engine (.register i a)).after w = w := by
      change ((Work.register i a).outcome w).2 = w
      rw [Work.register_outcome, (failed (w.registry i)).mpr fault]
    rw [afterActs, List.foldl_cons, same]
    rfl

/-- Between two sound items there is one that cannot be called. -/
def sampleFault : Registration :=
  ⟨.ok .ofClass, .ok .all,
    [.capability .allowExternalAccess, .uncallable "status", .capability .dependentDaos], []⟩

theorem failed_registration_unnoticed_sample :
    sampleFault.Fault (.capability (.notCallable "status")) ∧
      ((Work.apply 0 (some 0)).outcome
        (sampleShop.afterActs [.step 0 (.register 0 sampleFault)])).1 = .ok 0 := by
  have items : sampleFault.accessors = [.capability .allowExternalAccess] ++
      .uncallable "status" :: [.capability .dependentDaos] := rfl
  have fault : sampleFault.Fault (.capability (.notCallable "status")) :=
    .accessor rfl rfl items (List.forall_mem_singleton.mpr ⟨_, rfl⟩)
      (.notCallable rfl (by decide) rfl)
  have unnoticed := ((failed_registration_unnoticed sampleFault _).2 fault).2
  exact ⟨fault, congrArg Prod.fst (unnoticed sampleShop 0 0 [] Nat (Work.apply 0 (some 0)))⟩

end Faults

section Repetition

variable {scope : Scope} {cs : List Capability}

theorem set_registry (w : Workspace) (i : Nat) :
    ({ w with registries := w.registries.set i (w.registry i), events := w.events ++ [] } :
      Workspace) = w := by
  have same : w.registries.set i (w.registry i) = w.registries := by
    refine List.ext_getElem? fun j => ?_
    rw [List.getElem?_set]
    split
    · rename_i here
      subst here
      by_cases known : i < w.registries.length <;> simp [registry, known]
    · rfl
  rw [same, List.append_nil]

/-- To grant what a scope holds already changes nothing. -/
theorem grant_of_holds (holds : (w.registry i).Holds scope cs) :
    (Work.grant i scope cs).outcome w = (.ok (), w) := by
  rw [Work.grant_outcome, holds.insert, set_registry]

theorem register_of_holds {a : Registration} (read : a.read = .ok (scope, cs))
    (holds : (w.registry i).Holds scope cs) :
    (Work.register i a).outcome w = (.ok (.ok ()), w) := by
  rw [Work.register_outcome, Registry.register_eq, read]
  simp only [Except.map, holds.insert, set_registry]

/-- A registry grows over any acts. -/
theorem grows_acts (known : i < w.registries.length) (acts : List Act) :
    (w.registry i).Grows ((w.afterActs acts).registry i) :=
  (registry_acts known acts).2 ▸ Registry.after_grows _ _

/-- What a registration without a conflict leaves: its scope holds what was registered. -/
theorem holds_of_register {a : Registration} (known : i < w.registries.length) (isKey : a.HasKey)
    (first : (Work.register i a).outcome w = (.ok (.ok ()), w'))
    (clean : (w'.registry i).conflicts = (w.registry i).conflicts) :
    i < w'.registries.length ∧
      ∃ scope cs, a.read = .ok (scope, cs) ∧ (w'.registry i).Holds scope cs := by
  rw [Work.register_outcome, Registry.register_eq] at first
  cases read : a.read with
  | error e =>
    rw [read] at first
    cases first
  | ok call =>
    rw [read] at first
    cases first
    rw [registry_set, if_pos ⟨rfl, known⟩] at clean ⊢
    refine ⟨by simpa using known, call.1, call.2, rfl, ?_⟩
    have isKey' := isKey call.1.filter (Registration.exists_of_read read).1
    exact Registry.holds_of_clean (Scope.eqv_self isKey') clean

/-- The registry of a run holds the capabilities of services and of parameters. -/
structure Granted (c : Context) (w : Workspace) : Prop where
  known : c.registry < w.registries.length
  services : (w.registry c.registry).Holds (.services c.config) Capability.ofServices
  parameters : (w.registry c.registry).Holds .parameters Capability.ofParameters

/-- What a run was granted it has ever after. -/
theorem Granted.acts {c : Context} (granted : Granted c w) (acts : List Act) :
    Granted c (w.afterActs acts) where
  known := (registry_acts granted.known acts).1.symm ▸ granted.known
  services := granted.services.grows (grows_acts granted.known acts)
  parameters := granted.parameters.grows (grows_acts granted.known acts)

/-- If no conflict comes up while the capabilities are registered, they are held afterwards. -/
theorem granted_of_initStereotype {c : Context} (known : c.registry < w.registries.length)
    (first : c.initStereotype.outcome w = (.ok (), w'))
    (clean : (w'.registry c.registry).conflicts = (w.registry c.registry).conflicts) :
    Granted c w' := by
  obtain ⟨events, came⟩ := c.initStereotype_outcome known
  cases first.symm.trans came
  refine ⟨by simpa using known, ?_, ?_⟩ <;>
    rw [registry_set, if_pos ⟨rfl, known⟩] at clean ⊢
  · exact (c.holds_of_granted clean).1
  · exact (c.holds_of_granted clean).2

/-- So to begin it again changes nothing, as often as it is done. -/
theorem Granted.initStereotype {c : Context} (granted : Granted c w) :
    c.initStereotype.outcome w =
      (.ok (), { w with
        events := w.events ++
          [.stereotypeReady c.config.serviceStereotype (w.registry c.registry).size] }) := by
  have services := grant_of_holds granted.services
  have parameters := grant_of_holds granted.parameters
  exact (Work.outcome_bind_of_ok services).trans (Work.outcome_bind_of_ok parameters)

/-- The induction is on how often the capabilities are registered again. -/
theorem Granted.times {c : Context} (granted : Granted c w) (n : Nat) :
    (c.initStereotype.times n).outcome w =
      (.ok (), { w with
        events := w.events ++ List.replicate n
          (.stereotypeReady c.config.serviceStereotype (w.registry c.registry).size) }) := by
  induction n generalizing w with
  | zero => rw [List.replicate_zero, List.append_nil]; rfl
  | succ n ih =>
    have again := granted.initStereotype
    have later : Granted c { w with
        events := w.events ++
          [.stereotypeReady c.config.serviceStereotype (w.registry c.registry).size] } :=
      ⟨granted.known, granted.services, granted.parameters⟩
    refine (Work.outcome_bind_of_ok again).trans ((ih later).trans ?_)
    rw [List.append_assoc]
    rfl

theorem afterActs_step (w : Workspace) (acts : List Act) (engine : Nat) (s : Step) :
    s.after engine (w.afterActs acts) = w.afterActs (acts ++ [.step engine s]) := by
  rw [afterActs, afterActs, List.foldl_append]
  rfl

theorem regives_of_events {α : Type} {x : Work α} {acts : List Act}
    (reports : ∀ acts : List Act, ∃ a events,
      x.outcome (w.afterActs acts) = (.ok a, { w.afterActs acts with events := events })) :
    x.Regives (w.afterActs acts) := by
  intro engine model number w' isEngine applied
  have later : w' = w.afterActs (acts ++ [.step engine (.apply (some model))]) := by
    rw [← afterActs_step, Step.after, applied]
  obtain ⟨a, events, came⟩ := reports (acts ++ [.step engine (.apply (some model))])
  rw [← later] at came
  have kept : Work.appliedBefore? w' (w'.engine engine) model = some number :=
    kept_of_apply isEngine applied
  have kept' : Work.appliedBefore? { w' with events := events }
      (({ w' with events := events } : Workspace).engine engine) model = some number := kept
  rw [Work.outcome_bind_of_ok came, Work.apply_outcome, kept']

/-- Whatever is done after a registration without a conflict: to register the same again changes
nothing at all, so an engine that has given views of a model gives them again. In particular, any
number of registrations of the capabilities of a run only reports what is registered, if the first
one went without a conflict. -/
theorem repeated_registration_unnoticed :
    (∀ (w w₁ : Workspace) (i : Nat) (a : Registration), i < w.registries.length → a.HasKey →
      (Work.register i a).outcome w = (.ok (.ok ()), w₁) →
      (w₁.registry i).conflicts = (w.registry i).conflicts →
      ∀ acts : List Act,
        (Work.register i a).outcome (w₁.afterActs acts) = (.ok (.ok ()), w₁.afterActs acts) ∧
        (Work.register i a).Regives (w₁.afterActs acts)) ∧
    ∀ (w w₁ : Workspace) (c : Context), c.registry < w.registries.length →
      c.initStereotype.outcome w = (.ok (), w₁) →
      (w₁.registry c.registry).conflicts = (w.registry c.registry).conflicts →
      ∀ (acts : List Act) (n : Nat),
        (c.initStereotype.times n).outcome (w₁.afterActs acts) =
          (.ok (), { w₁.afterActs acts with
            events := (w₁.afterActs acts).events ++ List.replicate n
              (.stereotypeReady c.config.serviceStereotype
                ((w₁.afterActs acts).registry c.registry).size) }) ∧
        (c.initStereotype.times n).Regives (w₁.afterActs acts) := by
  constructor
  · intro w w₁ i a known isKey first clean acts
    obtain ⟨known₁, scope, cs, read, holds⟩ := holds_of_register known isKey first clean
    have again (acts : List Act) :
        (Work.register i a).outcome (w₁.afterActs acts) = (.ok (.ok ()), w₁.afterActs acts) :=
      register_of_holds read (holds.grows (grows_acts known₁ acts))
    exact ⟨again acts, regives_of_events fun acts => ⟨_, _, again acts⟩⟩
  · intro w w₁ c known first clean acts n
    have granted := granted_of_initStereotype known first clean
    exact ⟨(granted.acts acts).times n,
      regives_of_events fun acts => ⟨_, _, (granted.acts acts).times n⟩⟩

def sampleRun : Context := ⟨0, .default, 0, 0, some 0⟩

/-- A grade is registered again after it was registered in another way, and the capabilities of a
run after a class was added. -/
theorem repeated_registration_unnoticed_sample :
    0 < sampleShop.registries.length ∧ (sampleRegistration "early").HasKey ∧
      (∃ w₁, (Work.register 0 (sampleRegistration "early")).outcome sampleShop = (.ok (.ok ()), w₁) ∧
        (w₁.registry 0).conflicts = (sampleShop.registry 0).conflicts ∧
        (Work.register 0 (sampleRegistration "early")).outcome
          (w₁.afterActs [.step 0 (.register 0 (sampleRegistration "late"))]) =
            (.ok (.ok ()), w₁.afterActs [.step 0 (.register 0 (sampleRegistration "late"))])) ∧
      ∃ w₁ w₂, sampleRun.initStereotype.outcome sampleShop = (.ok (), w₁) ∧
        (w₁.registry 0).conflicts = (sampleShop.registry 0).conflicts ∧
        (Work.apply 0 (some 0)).outcome (w₁.afterActs [.step 0 (.addClass 0 sampleClass)]) =
          (.ok 0, w₂) ∧
        ((sampleRun.initStereotype.times 2 >>= fun _ => Work.apply 0 (some 0)).outcome w₂).1 =
          .ok 0 := by
  have isKey : (sampleRegistration "early").HasKey := by
    intro f isFilter
    cases isFilter
    exact List.forall_mem_nil _
  refine ⟨Nat.one_pos, isKey, ⟨_, rfl, rfl, ?_⟩, _, _, rfl, rfl, rfl, ?_⟩
  · exact (repeated_registration_unnoticed.1 sampleShop _ 0 _ Nat.one_pos isKey rfl rfl _).1
  · exact (repeated_registration_unnoticed.2 sampleShop _ sampleRun Nat.one_pos rfl rfl
      [.step 0 (.addClass 0 sampleClass)] 2).2 0 0 0 _ Nat.one_pos rfl

end Repetition

end Workspace
end ServiceDiagram
