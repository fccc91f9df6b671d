import ServiceDiagram.Proofs.Rule.Unreadable
import ServiceDiagram.Proofs.Types.Builtin
import ServiceDiagram.Proofs.Views.Generation

namespace ServiceDiagram

/-- The type of a parameter is what its reference resolves to in the type system of the run. -/
theorem Work.descriptor_outcome (owner : Class) {w : Workspace} {v : ViewRef} {p : ParameterView}
    {d : TypeDescriptor}
    (resolved : (w.typeSystem (w.augmentedModel v.augmented).typeSystem).resolve? p.parameter.type =
      some d) :
    ∃ system key, (Work.descriptor v owner p).outcome w = (.ok (.descriptor system key d), w) := by
  let system := (w.augmentedModel v.augmented).typeSystem
  refine ⟨system, (w.typeSystem system).keyOf p.parameter.type, ?_⟩
  unfold Work.descriptor
  rw [Work.outcome_get]
  simp only [resolved]
  rfl

/-- The rule of a parameter whose type resolves. -/
theorem joiDefinition_outcome (depth : Nat) {w : Workspace} {v : ViewRef} {owner : Class}
    {p : ParameterView} {d : TypeDescriptor} (there : w.view? v = some (.ofParameter owner p))
    (resolved : (w.typeSystem (w.augmentedModel v.augmented).typeSystem).resolve? p.parameter.type =
      some d) :
    ((joiDefinition v).run (Work.answer (depth + 1))).outcome w =
      (.ok (.text (ruleText p.parameter d.kind d.addOn
        (w.augmentedModel v.augmented).config.ruleNamespace)), w) := by
  obtain ⟨system, key, described⟩ := Work.descriptor_outcome owner resolved
  have parameter := Program.read_own depth "parameter" there rfl
  have descriptor : ((Program.read (.view v) "descriptor").run (Work.answer (depth + 1))).outcome w =
      (.ok (.descriptor system key d), w) := by
    rw [Program.read, Program.run_demand, Work.read_own depth "descriptor" there rfl]
    exact described
  have root := Program.path_config depth "validation_namespace" there rfl
  refine (Program.outcome_bind_of_ok parameter).trans ?_
  refine (Program.outcome_bind_of_ok descriptor).trans ?_
  refine (Program.outcome_bind_of_ok root).trans ?_
  rfl

namespace Context

/-- Over any run: the rule of a parameter whose type resolves is read, with the configured name in
front, exactly if that name begins with an ASCII letter or an underscore and goes on with word
characters, and the declared bounds can be written as numbers. -/
theorem rule_read_iff {m : Model} {config : Config} {c : Class} {o : Operation} {p : Parameter}
    {i : Nat} {d : TypeDescriptor} (member : c ∈ m.classes)
    (place : c.parameters[i]? = some (o, p))
    (resolved : (Catalog.builtin config.seed).resolve? p.type = some d) :
    ∃ w, (augmentModel m config).outcome .empty = (.ok 0, w) ∧
      ((∃ s r, ((Work.read (.view ⟨0, c.id, some i⟩) "joiDefinition").outcome w).1 =
          .ok (.text s) ∧ Rule.read s = .ok r ∧ r.root = config.ruleNamespace) ↔
        Rule.IsName config.ruleNamespace ∧ Rule.WritableBounds p) := by
  obtain ⟨events, run⟩ := augmentModel_outcome m config
  refine ⟨_, run, ?_⟩
  have there : (Workspace.ofRun m config events).view? ⟨0, c.id, some i⟩ =
      some (.ofParameter c ⟨o, p, Capability.ofParameters⟩) := by
    change (AugmentedModel.ofRun m config).view? ⟨0, c.id, some i⟩ = _
    simp only [AugmentedModel.view?, AugmentedModel.class?_ofRun, Model.class?_of_mem member,
      Option.map_some, ClassView.ofRun, List.getElem?_map, place]
  have known : ((Workspace.ofRun m config events).typeSystem 0).resolve? p.type = some d := resolved
  have text := joiDefinition_outcome 398 there known
  have read : ((Work.read (.view ⟨0, c.id, some i⟩) "joiDefinition").outcome
      (.ofRun m config events)).1 = .ok (.text (ruleText p d.kind d.addOn config.ruleNamespace))  :=
    Work.first_read (c := .joiDefinition) there rfl rfl rfl rfl text rfl rfl
  obtain ⟨isKind, further, reads⟩ := Catalog.reads_of_resolve? resolved
  rw [← Rule.ruleText_read_iff isKind reads, read]
  constructor
  · rintro ⟨s, r, same, isRule⟩
    cases same
    exact ⟨r, isRule⟩
  · rintro ⟨r, isRule⟩
    exact ⟨_, r, rfl, isRule⟩

/-- A name that is an identifier and does not begin with an ASCII letter. -/
def sampleConfig : Config :=
  ⟨"Service", "Entity", "externalAccess", "é", 0, Config.default.distinct, Config.default.named,
    by decide +kernel⟩

def sampleText : Parameter :=
  ⟨"title", ⟨"Text", .primitive, none, by decide⟩, false, false, none, false, none, by decide⟩

def sampleOperation : Operation := ⟨"find", [sampleText], by decide⟩

def sampleFinder : Class := ⟨"F", "Finder", none, [], [sampleOperation], [], by decide⟩

def sampleLibrary : Model := ⟨"library", [sampleFinder], 0, by simp⟩

/-- The rules of a run with such a name are not read. -/
theorem rule_read_iff_sample :
    sampleFinder ∈ sampleLibrary.classes ∧
      sampleFinder.parameters[0]? = some (sampleOperation, sampleText) ∧
      ∃ d, (Catalog.builtin sampleConfig.seed).resolve? sampleText.type = some d ∧
        ∃ w, (augmentModel sampleLibrary sampleConfig).outcome .empty = (.ok 0, w) ∧
          ¬ ∃ s r, ((Work.read (.view ⟨0, "F", some 0⟩) "joiDefinition").outcome w).1 =
            .ok (.text s) ∧ Rule.read s = .ok r ∧ r.root = "é" := by
  have member : sampleFinder ∈ sampleLibrary.classes := List.mem_cons_self
  have place : sampleFinder.parameters[0]? = some (sampleOperation, sampleText) := rfl
  have lower : Text.lowercase "Text" = "text" := by decide +kernel
  obtain ⟨d, resolved⟩ :
      ∃ d, (Catalog.builtin sampleConfig.seed).resolve? sampleText.type = some d := by
    refine ⟨⟨"string", none, fun _ => Catalog.sample 0 "text" .sentence, by decide⟩, ?_⟩
    change (Catalog.builtin 0).find? "Text" = _
    rw [Catalog.find?_builtin, lower]
    rfl
  obtain ⟨w, run, isRead⟩ := rule_read_iff member place resolved
  refine ⟨member, place, d, resolved, w, run, fun read => ?_⟩
  obtain ⟨⟨n, text⟩, -⟩ := isRead.mp read
  have first : n.first = 'é' := (List.cons.inj text).1
  have isFirst := n.isFirst
  rw [first] at isFirst
  cases isFirst

end Context
end ServiceDiagram
