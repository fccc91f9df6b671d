import ServiceDiagram.Ingest.Reader
import ServiceDiagram.Proofs.Types.Verdicts
import ServiceDiagram.Proofs.Views.Rules

namespace ServiceDiagram.Context

open Rule

variable {m : Model} {config : Config} {c : Class} {o : Operation} {p : Parameter} {i : Nat}
  {d : TypeDescriptor}

/-- Over any run, the view of a parameter whose type resolves gives the rule of the parameter. -/
theorem exists_ruleText (member : c ∈ m.classes) (place : c.parameters[i]? = some (o, p))
    (resolved : (Catalog.builtin config.seed).resolve? p.type = some d) :
    ∃ w, (augmentModel m config).outcome .empty = (.ok 0, w) ∧
      ((Work.read (.view ⟨0, c.id, some i⟩) "joiDefinition").outcome w).1 =
        .ok (.text (ruleText p d.kind d.addOn config.ruleNamespace)) := by
  obtain ⟨events, run⟩ := augmentModel_outcome m config
  refine ⟨_, run, ?_⟩
  have there : (Workspace.ofRun m config events).view? ⟨0, c.id, some i⟩ =
      some (.ofParameter c ⟨o, p, Capability.ofParameters⟩) := by
    change (AugmentedModel.ofRun m config).view? ⟨0, c.id, some i⟩ = _
    simp only [AugmentedModel.view?, AugmentedModel.class?_ofRun, Model.class?_of_mem member,
      Option.map_some, ClassView.ofRun, List.getElem?_map, place]
  have known : ((Workspace.ofRun m config events).typeSystem 0).resolve? p.type = some d := resolved
  have text := joiDefinition_outcome 398 there known
  exact Work.first_read (c := .joiDefinition) there rfl rfl rfl rfl text rfl rfl

/-- Over any run: the rule of a parameter whose type resolves and whose bounds can be written is read
and comes to a verdict on a value exactly if nothing stops it; what does is the error. -/
theorem rule_verdict_iff (member : c ∈ m.classes) (place : c.parameters[i]? = some (o, p))
    (resolved : (Catalog.builtin config.seed).resolve? p.type = some d)
    (isRoot : IsName config.ruleNamespace) (writable : WritableBounds p) :
    ∃ w s r, (augmentModel m config).outcome .empty = (.ok 0, w) ∧
      ((Work.read (.view ⟨0, c.id, some i⟩) "joiDefinition").outcome w).1 = .ok (.text s) ∧
      Rule.read s = .ok r ∧
      ∀ v, ((∃ verdict, r.check v = .ok verdict) ↔ ∀ e, ¬ Stops d p v e) ∧
        ∀ e, r.check v = .error e ↔ Stops d p v e := by
  obtain ⟨w, run, text⟩ := exists_ruleText member place resolved
  obtain ⟨r, read, stops⟩ := Catalog.exists_rule resolved isRoot writable
  refine ⟨w, _, r, run, text, read, fun v => ⟨⟨?_, fun free => ?_⟩, stops v⟩⟩
  · rintro ⟨verdict, judged⟩ e stopped
    cases judged.symm.trans ((stops v e).mpr stopped)
  · cases judged : r.check v with
    | ok verdict => exact ⟨verdict, rfl⟩
    | error e => exact absurd ((stops v e).mp judged) (free e)

/-- A parameter of an object type, with a bound on it. -/
def sampleFilters : Parameter :=
  ⟨"filters", ⟨"F", .object, some "F", by decide⟩, false, true, some (.int 1), false, none,
    by decide⟩

def sampleQuery : Operation := ⟨"query", [sampleFilters], by decide⟩

def sampleSearch : Class := ⟨"Q", "Search", none, [], [sampleQuery], [], by decide⟩

def sampleIndex : Model := ⟨"index", [sampleSearch], 1, by simp⟩

/-- The ingestion data of the model. -/
def indexData : Value :=
  .record [("classes", .list [.record [("id", .text "Q"), ("name", .text "Search"),
    ("operations", .list [.record [("name", .text "query"),
      ("parameters", .list [.record [("name", .text "filters"),
        ("type", .record [("targetKind", .text "Object"), ("targetClass", .text "F")]),
        ("hasMinValue", .bool true), ("minValue", .number (.int 1))]])]])]])]

/-- No verdict comes of a bound on records. -/
theorem rule_verdict_iff_sample :
    Model.load indexData "index" = .ok sampleIndex ∧
      sampleSearch ∈ sampleIndex.classes ∧
      sampleSearch.parameters[0]? = some (sampleQuery, sampleFilters) ∧
      (Catalog.builtin Config.default.seed).resolve? sampleFilters.type = some .object ∧
      IsName Config.default.ruleNamespace ∧ WritableBounds sampleFilters ∧
      ∃ w s r, (augmentModel sampleIndex Config.default).outcome .empty = (.ok 0, w) ∧
        ((Work.read (.view ⟨0, "Q", some 0⟩) "joiDefinition").outcome w).1 = .ok (.text s) ∧
        Rule.read s = .ok r ∧
        r.check (.record []) = .error (.incomparable ">=" "dict" "int") := by
  have member : sampleSearch ∈ sampleIndex.classes := List.mem_cons_self
  have resolved : (Catalog.builtin Config.default.seed).resolve? sampleFilters.type =
      some .object := rfl
  have writable : WritableBounds sampleFilters := by
    refine ⟨fun _ n bound => ?_, nofun⟩
    cases bound
    exact Nat.one_lt_pow (Nat.succ_ne_zero _) (by omega)
  obtain ⟨w, s, r, run, text, read, outcome⟩ :=
    @rule_verdict_iff sampleIndex .default sampleSearch sampleQuery sampleFilters 0 .object member rfl
      resolved isName_sample writable
  have stopped : Stops .object sampleFilters (.record []) (.incomparable ">="
      (Value.record []).qualifiedTypeName (Value.number (.int 1)).typeName) :=
    .lower (.record []) rfl rfl
  exact ⟨rfl, member, rfl, resolved, isName_sample, writable, w, s, r, run, text, read,
    ((outcome (.record [])).2 _).mpr stopped⟩

end ServiceDiagram.Context
