import ServiceDiagram.Diagram.Dependents
import ServiceDiagram.Proofs.Diagram.WellFormed

namespace ServiceDiagram.Model

variable {m : Model} {c : Class} {d : Dependency} {id : String}

/-- The id at the far end of a dependency, if it is that of a class with a stereotype. -/
def target? (m : Model) (stereotype : Option String) (d : Dependency) : Option String :=
  d.targetClassId.filter fun id => (m.class? id).map Class.stereotype = some stereotype

/-- The ids of the classes with a stereotype on which a class depends, one for each dependency. -/
def targetIds (m : Model) (c : Class) (stereotype : Option String) : List String :=
  c.dependencies.filterMap (m.target? stereotype)

/-- A dependency leads to a class exactly if its far end has an id and the model has a class of that
id, and then to this class. -/
theorem follow_toClass_iff {t : Class} :
    m.follow d = .toClass t ↔ ∃ id, d.targetClassId = some id ∧ m.class? id = some t := by
  unfold follow Dependency.targetClassId TypeRef.isObject
  cases kind : d.target.kind <;> cases far : d.target.classId with
  | none => simp
  | some id => first
    | simp; done
    | cases found : m.class? id <;> simp [found]

/-- The far end counts for a stereotype exactly if it is a class of the model that has it. -/
theorem target?_eq_some {stereotype : Option String} :
    m.target? stereotype d = some id ↔
      ∃ t, d.targetClassId = some id ∧ m.class? id = some t ∧ t.stereotype = stereotype := by
  simp only [target?, Option.filter_eq_some_iff, decide_eq_true_eq, Option.map_eq_some_iff,
    exists_and_left]

theorem target?_of_follow {stereotype : Option String} {t : Class} (leads : m.follow d = .toClass t) :
    m.target? stereotype d = if t.stereotype = stereotype then some t.id else none := by
  obtain ⟨id, far, found⟩ := follow_toClass_iff.mp leads
  obtain ⟨-, rfl⟩ := class?_mem found
  rw [target?, far, Option.filter_some, found]
  simp

theorem target?_of_nowhere {stereotype : Option String} (nowhere : ∀ t, m.follow d ≠ .toClass t) :
    m.target? stereotype d = none := by
  refine Option.eq_none_iff_forall_ne_some.mpr fun id isTarget => ?_
  obtain ⟨t, far, found, -⟩ := target?_eq_some.mp isTarget
  exact nowhere t (follow_toClass_iff.mpr ⟨id, far, found⟩)

/-- What a class depends on by a stereotype can be told from the far ends of its dependencies alone.
-/
theorem map_id_dependents (m : Model) (c : Class) (stereotype : Option String) :
    (m.dependents c stereotype).map Class.id = m.targetIds c stereotype := by
  rw [dependents, List.map_filterMap]
  refine List.filterMap_congr fun d _ => ?_
  cases leads : m.follow d with
  | toClass t =>
    rw [target?_of_follow leads]
    dsimp only
    split <;> rfl
  | _ => exact (target?_of_nowhere fun t same => by cases leads.symm.trans same).symm

/-- Only the classes of a model tell where dependencies lead. -/
theorem targetIds_congr {m' : Model} (same : m'.classes = m.classes) (c : Class)
    (stereotype : Option String) : m'.targetIds c stereotype = m.targetIds c stereotype := by
  have found : m'.class? = m.class? := by
    funext id
    rw [class?, class?, same]
  unfold targetIds target?
  rw [found]

theorem mem_targetIds {stereotype : Option String} (member : id ∈ m.targetIds c stereotype) :
    ∃ t ∈ m.classes, t.id = id ∧ t.stereotype = stereotype := by
  obtain ⟨d, -, isTarget⟩ := List.mem_filterMap.mp member
  obtain ⟨t, -, found, same⟩ := target?_eq_some.mp isTarget
  exact ⟨t, (class?_mem found).1, (class?_mem found).2, same⟩

/-- A class has one stereotype, so what is asked for by two stereotypes has nothing in common. -/
theorem targetIds_disjoint {stereotype stereotype' : Option String}
    (differ : stereotype ≠ stereotype') :
    (m.targetIds c stereotype).Disjoint (m.targetIds c stereotype') := by
  intro id here there
  obtain ⟨t, member, named, first⟩ := mem_targetIds here
  obtain ⟨t', member', named', second⟩ := mem_targetIds there
  have same : t = t' := List.inj_on_of_nodup_map m.unique member member' (named.trans named'.symm)
  exact differ (first.symm.trans (same ▸ second))

/-- A dependency on a class with a stereotype counts for this stereotype and for no other. -/
theorem existsUnique_target? {t : Class} {s : String} (far : d.targetClassId = some id)
    (found : m.class? id = some t) (named : t.stereotype = some s) :
    ∃! s, m.target? (some s) d = some id := by
  refine ⟨s, target?_eq_some.mpr ⟨t, far, found, named⟩, fun s' isTarget => ?_⟩
  obtain ⟨t', -, found', named'⟩ := target?_eq_some.mp isTarget
  cases found.symm.trans found'
  exact Option.some.inj (named'.symm.trans named)

end ServiceDiagram.Model
