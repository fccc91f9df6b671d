import ServiceDiagram.Proofs.Views.Course
import ServiceDiagram.Proofs.Views.Steps

namespace ServiceDiagram

namespace Deed

def reads (v : ViewRef) (name : String) : Deed → Bool
  | read u other => u = v ∧ other = name
  | _ => false

def isEvaluation : Deed → Bool
  | evaluate .. => true
  | _ => false

theorem reads_eq_true {v : ViewRef} {name : String} {deed : Deed} :
    deed.reads v name = true ↔ deed = .read v name := by
  cases deed with
  | read u other => simp [reads]
  | call u d args => simp [reads]
  | evaluate d u args => simp [reads]

theorem reads_eq_false {v : ViewRef} {name : String} {deed : Deed} (other : deed ≠ .read v name) :
    deed.reads v name = false :=
  Bool.eq_false_iff.mpr fun reads => other (reads_eq_true.mp reads)

end Deed

namespace Note

variable {v : ViewRef} {name : String}

/-- A read of an accessor for which its definition is evaluated, with the same result. -/
def evaluated (d : Definition) (v : ViewRef) (name : String) (inside : List Note)
    (result : Except Failure Datum) : Note :=
  ⟨.read v name, [⟨.evaluate d v [], inside, result⟩], result⟩

/-- A read of an accessor for which nothing is evaluated. -/
def recalled (v : ViewRef) (name : String) (r : Datum) : Note := ⟨.read v name, [], .ok r⟩

/-- The reads of an accessor among all that happened, in order. -/
def readings (v : ViewRef) (name : String) (es : List Note) : List Note :=
  (flatAll es).filter fun e => e.deed.reads v name

/-- The note is not of a read of an accessor during which that accessor is read. -/
def IsStraight (e : Note) : Prop :=
  ∀ v name, e.deed = .read v name → readings v name e.inside = []

/-- A read holds evaluations for the view that is read, a call one evaluation of what is called with
its arguments, and an evaluation reads and calls. -/
def IsRegular (e : Note) : Prop :=
  match e.deed with
  | .read v _ => ∀ part ∈ e.inside, ∃ d, part.deed = .evaluate d v []
  | .call v d args => ∃ within, e.inside = [⟨.evaluate d v args, within, e.result⟩]
  | .evaluate .. => ∀ part ∈ e.inside, part.deed.isEvaluation = false

theorem readings_append (es es' : List Note) :
    readings v name (es ++ es') = readings v name es ++ readings v name es' := by
  simp only [readings, flatAll_append, List.filter_append]

theorem readings_of_read {e : Note} (read : e.deed = .read v name) :
    readings v name [e] = readings v name e.inside ++ [e] := by
  have reads : e.deed.reads v name = true := Deed.reads_eq_true.mpr read
  simp [readings, flatAll_singleton, reads]

theorem readings_of_other {e : Note} (other : e.deed ≠ .read v name) :
    readings v name [e] = readings v name e.inside := by
  have reads : e.deed.reads v name = false := Deed.reads_eq_false other
  simp [readings, flatAll_singleton, reads]

/-- The readings of an accessor are the notes of its reads at any depth. -/
theorem mem_readings {e : Note} {es : List Note} :
    e ∈ readings v name es ↔ e ∈ flatAll es ∧ e.deed = .read v name := by
  rw [readings, List.mem_filter, Deed.reads_eq_true]

theorem forall_mem_flatAll_append {P : Note → Prop} {es es' : List Note} :
    (∀ e ∈ flatAll (es ++ es'), P e) ↔ (∀ e ∈ flatAll es, P e) ∧ ∀ e ∈ flatAll es', P e := by
  rw [flatAll_append, List.forall_mem_append]

theorem forall_mem_flatAll_singleton {P : Note → Prop} {e : Note} :
    (∀ part ∈ flatAll [e], P part) ↔ (∀ part ∈ flatAll e.inside, P part) ∧ P e := by
  rw [flatAll_singleton, List.forall_mem_append, List.forall_mem_singleton]

end Note

open Note

/-- Reads of an accessor one after the other, with what is kept of it before them and afterwards. -/
inductive Readings (accessor : Option Definition) (v : ViewRef) (name : String) :
    Option Datum → List Note → Option Datum → Prop
  | nil (kept : Option Datum) : Readings accessor v name kept [] kept
  | failed {d : Definition} {inside later : List Note} {e : Failure} {kept : Option Datum}
    (defined : accessor = some d) (rest : Readings accessor v name none later kept) :
    Readings accessor v name none (evaluated d v name inside (.error e) :: later) kept
  | succeeded {d : Definition} {inside later : List Note} {r : Datum} {kept : Option Datum}
    (defined : accessor = some d) (rest : Readings accessor v name (some r) later kept) :
    Readings accessor v name none (evaluated d v name inside (.ok r) :: later) kept
  | again {d : Definition} {later : List Note} {r : Datum} {kept : Option Datum}
    (defined : accessor = some d) (rest : Readings accessor v name (some r) later kept) :
    Readings accessor v name (some r) (recalled v name r :: later) kept

namespace Readings

variable {accessor accessor' : Option Definition} {v : ViewRef} {name : String}
  {before between after : Option Datum} {es es' : List Note}

/-- Readings may follow on one another. -/
theorem append (first : Readings accessor v name before es between)
    (later : Readings accessor v name between es' after) :
    Readings accessor v name before (es ++ es') after := by
  induction first with
  | nil kept => exact later
  | failed defined _ ih => exact .failed defined (ih later)
  | succeeded defined _ ih => exact .succeeded defined (ih later)
  | again defined _ ih => exact .again defined (ih later)

theorem mono (readings : Readings accessor v name before es after)
    (same : ∀ d, accessor = some d → accessor' = some d) :
    Readings accessor' v name before es after := by
  induction readings with
  | nil kept => exact .nil kept
  | failed defined _ ih => exact .failed (same _ defined) ih
  | succeeded defined _ ih => exact .succeeded (same _ defined) ih
  | again defined _ ih => exact .again (same _ defined) ih

/-- Without a read nothing is kept anew. -/
theorem eq_of_nil (readings : Readings accessor v name before [] after) : after = before := by
  cases readings
  rfl

/-- What is no accessor is never read as one. -/
theorem nil_of_none (readings : Readings none v name before es after) :
    es = [] ∧ after = before := by
  cases readings with
  | nil => exact ⟨rfl, rfl⟩
  | failed defined => cases defined
  | succeeded defined => cases defined
  | again defined => cases defined

/-- Once a result is kept, every read recalls it. -/
theorem replicate_of_some {r : Datum} (readings : Readings accessor v name (some r) es after) :
    es = List.replicate es.length (recalled v name r) := by
  generalize kept : some r = before at readings
  induction readings with
  | nil => rfl
  | failed => cases kept
  | succeeded => cases kept
  | again _ _ ih =>
    cases kept
    exact congrArg (List.cons _) (ih rfl)

end Readings

/-- Reads of an accessor, each with an evaluation that fails as the read does; then, if any more, one
with an evaluation that succeeds, and reads without an evaluation that all give its result. -/
def WriteOnce (d : Definition) (v : ViewRef) (name : String) (es : List Note) : Prop :=
  ∃ failed later, es = failed ++ later ∧
    (∀ e ∈ failed, ∃ inside failure, e = evaluated d v name inside (.error failure)) ∧
    (later = [] ∨ ∃ inside r n,
      later = evaluated d v name inside (.ok r) :: List.replicate n (recalled v name r))

theorem Readings.writeOnce {d : Definition} {v : ViewRef} {name : String} {es : List Note}
    {after : Option Datum} (readings : Readings (some d) v name none es after) :
    WriteOnce d v name es := by
  generalize unread : none = before at readings
  induction readings with
  | nil => exact ⟨[], [], rfl, by simp, .inl rfl⟩
  | @failed _ inside later e _ defined _ ih =>
    cases defined
    obtain ⟨failed, later, rfl, fail, rest⟩ := ih rfl
    exact ⟨_ :: failed, later, rfl, List.forall_mem_cons.mpr ⟨⟨inside, e, rfl⟩, fail⟩, rest⟩
  | @succeeded _ inside later r _ defined rest _ =>
    cases defined
    refine ⟨[], _, rfl, by simp, .inr ⟨inside, r, later.length, ?_⟩⟩
    rw [← rest.replicate_of_some]
  | again => cases unread

namespace Workspace

variable {w w' w'' : Workspace} {v : ViewRef} {name : String} {log log' : List Note}

/-- Views are built besides those that there are. -/
def Grows (w w' : Workspace) : Prop := ∃ more, w'.augmented = w.augmented ++ more

theorem Grows.trans (first : w.Grows w') (later : w'.Grows w'') : w.Grows w'' := by
  obtain ⟨more, views⟩ := first
  obtain ⟨more', views'⟩ := later
  exact ⟨more ++ more', by rw [views', views, List.append_assoc]⟩

theorem Grows.of_eq (same : w'.augmented = w.augmented) : w.Grows w' :=
  ⟨[], same.trans (List.append_nil _).symm⟩

theorem lt_of_view? {n : NodeView} (there : w.view? v = some n) :
    v.augmented < w.augmented.length := by
  refine Nat.lt_of_not_le fun absent => ?_
  have nothing : w.augmentedModel v.augmented = ⟨0, 0, .default, []⟩ := by
    simp only [augmentedModel, List.getElem?_eq_none absent, Option.getD_none]
  simp [Workspace.view?, nothing, AugmentedModel.view?, AugmentedModel.class?] at there

theorem Grows.view? (grows : w.Grows w') {n : NodeView} (there : w.view? v = some n) :
    w'.view? v = some n := by
  obtain ⟨more, views⟩ := grows
  -- views are numbered in the order in which they are built, so the new ones come after all others
  have same : w'.augmentedModel v.augmented = w.augmentedModel v.augmented := by
    simp only [augmentedModel, views, List.getElem?_append_left (lt_of_view? there)]
  unfold Workspace.view?
  rw [same]
  exact there

/-- A view that was built keeps its accessors. -/
theorem Grows.accessor? (grows : w.Grows w') {d : Definition}
    (has : w.accessor? v name = some d) : w'.accessor? v name = some d := by
  unfold Workspace.accessor? capability? at has ⊢
  cases there : w.view? v with
  | none => simp [there] at has
  | some n =>
    rw [there] at has
    rw [grows.view? there]
    exact has

/-- What happens between two workspaces: notes are what they should be, and as long as no accessor
is read while it is being read, the reads of each accessor lead from what is kept of it before to
what is kept of it afterwards. -/
structure Leads (w : Workspace) (log : List Note) (w' : Workspace) : Prop where
  grows : w.Grows w'
  regular : ∀ e ∈ flatAll log, e.IsRegular
  readings : (∀ e ∈ flatAll log, e.IsStraight) → ∀ v name,
    Readings (w'.accessor? v name) v name (w.memo.lookup (v, name)) (readings v name log)
      (w'.memo.lookup (v, name))

theorem Leads.of_eq (grows : w.Grows w') (memo : w'.memo = w.memo) : Leads w [] w' := by
  refine ⟨grows, nofun, fun _ v name => ?_⟩
  rw [memo]
  exact .nil _

/-- Accounts of what is kept follow on one another. -/
theorem Leads.trans (first : Leads w log w') (later : Leads w' log' w'') :
    Leads w (log ++ log') w'' := by
  refine ⟨first.grows.trans later.grows,
    forall_mem_flatAll_append.mpr ⟨first.regular, later.regular⟩, fun straight v name => ?_⟩
  obtain ⟨straightFirst, straightLater⟩ := forall_mem_flatAll_append.mp straight
  rw [readings_append]
  exact ((first.readings straightFirst v name).mono fun _ => later.grows.accessor?).append
    (later.readings straightLater v name)

theorem Leads.note {e : Note} (inner : Leads w e.inside w') (regular : e.IsRegular)
    (noRead : ∀ v name, e.deed ≠ .read v name) : Leads w [e] w' := by
  refine ⟨inner.grows, forall_mem_flatAll_singleton.mpr ⟨inner.regular, regular⟩,
    fun straight v name => ?_⟩
  rw [readings_of_other (noRead v name)]
  exact inner.readings (forall_mem_flatAll_singleton.mp straight).1 v name

/-- A result that is kept is given without an evaluation. -/
theorem Leads.recalled {d : Definition} {r : Datum} (has : w.accessor? v name = some d)
    (kept : w.memo.lookup (v, name) = some r) : Leads w [recalled v name r] w := by
  refine ⟨.of_eq rfl, forall_mem_flatAll_singleton.mpr ⟨nofun, nofun⟩, fun _ u other => ?_⟩
  by_cases same : (v, name) = (u, other)
  · cases same
    rw [readings_of_read rfl, kept]
    exact .again has (.nil _)
  · rw [readings_of_other fun read => same (by cases read; rfl)]
    exact .nil _

/-- A read of an accessor of which nothing is kept: where it is straight, nothing is kept of it
either when its evaluation ends. -/
theorem Leads.read {e : Note} (read : e.deed = .read v name) (inner : Leads w e.inside w')
    (regular : e.IsRegular) (unread : w.memo.lookup (v, name) = none)
    (views : w''.augmented = w'.augmented)
    (others : ∀ key, key ≠ (v, name) → w''.memo.lookup key = w'.memo.lookup key)
    (own : w'.memo.lookup (v, name) = none →
      Readings (w''.accessor? v name) v name none [e] (w''.memo.lookup (v, name))) :
    Leads w [e] w'' := by
  refine ⟨inner.grows.trans (.of_eq views),
    forall_mem_flatAll_singleton.mpr ⟨inner.regular, regular⟩, fun straight u other => ?_⟩
  obtain ⟨straightInside, straightRead⟩ := forall_mem_flatAll_singleton.mp straight
  have inside := inner.readings straightInside u other
  by_cases same : (u, other) = (v, name)
  · cases same
    -- inside of a straight read the accessor is not read, so nothing came to be kept of it
    rw [straightRead v name read] at inside
    rw [readings_of_read read, straightRead v name read, unread]
    exact own (inside.eq_of_nil.trans unread)
  · have noRead : e.deed ≠ .read u other := by
      rw [read]
      intro reads
      cases reads
      exact same rfl
    rw [readings_of_other noRead, others _ same]
    exact inside.mono fun _ => (Grows.of_eq views).accessor?

end Workspace

open Workspace

namespace Work

/-- Work that leaves the views and what is kept for them. -/
def LeavesViews {α : Type} (x : Work α) : Prop :=
  ∀ w, (x.outcome w).2.augmented = w.augmented ∧ (x.outcome w).2.memo = w.memo

theorem leavesViews_viewAttribute {v : ViewRef} {n : NodeView} {name : String} {work : Work Datum}
    (own : viewAttribute? v n name = some work) : work.LeavesViews := by
  intro w
  rw [unchanged_viewAttribute own w]
  exact ⟨rfl, rfl⟩

theorem leavesViews_readView (answer : Request → Work Datum) {w : Workspace} {v : ViewRef}
    {name : String} (noAccessor : w.accessor? v name = none) :
    ((readView answer v name).outcome w).2.augmented = w.augmented ∧
      ((readView answer v name).outcome w).2.memo = w.memo := by
  unfold readView
  rw [outcome_get]
  cases there : w.view? v with
  | none => exact ⟨rfl, rfl⟩
  | some n =>
    dsimp only
    cases own : viewAttribute? v n name with
    | some work => exact leavesViews_viewAttribute own w
    | none =>
      dsimp only
      split
      · exact ⟨rfl, rfl⟩
      · simp only [Workspace.accessor?, Workspace.capability?, there, own] at noAccessor
        cases granted : n.capability? name with
        | none =>
          change ((nodeAttribute n.node name).outcome w).2.augmented = _ ∧ _
          unfold nodeAttribute
          rw [outcome_get]
          split <;> exact ⟨rfl, rfl⟩
        | some c =>
          cases kind : c.kind with
          | function =>
            simp only [kind]
            exact ⟨rfl, rfl⟩
          | accessor => simp [granted, kind] at noAccessor

theorem leavesViews_callDatum {answer : Request → Work Datum} {on : Datum} (args : List Datum)
    (noFunction : ∀ v d, on ≠ .function v d) : (callDatum answer on args).LeavesViews := by
  intro w
  unfold callDatum
  split
  · exact absurd rfl (noFunction _ _)
  · rw [generate_outcome]
    exact ⟨rfl, rfl⟩
  · rename_i m _
    cases checkArity (m.owner ++ "." ++ m.name) args.length m.parameters <;> exact ⟨rfl, rfl⟩
  · exact ⟨rfl, rfl⟩

/-- What reads no view and calls no function leaves the views as they are. -/
theorem leavesViews_answer (depth : Nat) {request : Request}
    (noView : ∀ v name, request ≠ .read (.view v) name)
    (noFunction : ∀ v d args, request ≠ .call (.function v d) args) :
    (Work.answer depth request).LeavesViews := by
  cases depth with
  | zero => exact fun w => ⟨rfl, rfl⟩
  | succ depth =>
    cases request with
    | read on name =>
      intro w
      rw [outcome_read_part depth name fun v same => noView v name (by rw [same])]
      exact ⟨rfl, rfl⟩
    | call on args => exact leavesViews_callDatum args fun v d same => noFunction v d args (by rw [same])
    | dependents model c stereotype =>
      intro w
      cases stereotype with
      | value x => cases x <;> exact ⟨rfl, rfl⟩
      | _ => exact ⟨rfl, rfl⟩

end Work

namespace Noted

variable {answer : Request → Noted Datum}

/-- Work of which the notes lead from the workspace before it to the workspace afterwards; what it
evaluates, it evaluates to read or to call. -/
structure IsSound {α : Type} (x : Noted α) : Prop where
  leads : ∀ w, Leads w (x w).log (x w).after
  demands : ∀ w, ∀ e ∈ (x w).log, e.deed.isEvaluation = false

theorem isSound_quietly {α : Type} {x : Work α} (leaves : x.LeavesViews) : (quietly x).IsSound :=
  ⟨fun w => .of_eq (.of_eq (leaves w).1) (leaves w).2, fun _ => nofun⟩

/-- A program is accounted for if its answers are. -/
theorem isSound_run {α : Type} (answers : ∀ request, (answer request).IsSound) (x : Program α) :
    (run answer x).IsSound := by
  induction x with
  | done a => exact ⟨fun _ => .of_eq (.of_eq rfl) rfl, fun _ => nofun⟩
  | fail e => exact ⟨fun _ => .of_eq (.of_eq rfl) rfl, fun _ => nofun⟩
  | ask request next ih =>
    refine ⟨fun w => ?_, fun w => ?_⟩
    · exact ((answers request).leads w).trans ((ih _).leads _)
    · exact List.forall_mem_append.mpr ⟨(answers request).demands w, (ih _).demands _⟩
  | fetch cell next ih => exact ⟨fun w => (ih _).leads w, fun w => (ih _).demands w⟩
  | keep cell n next ih =>
    refine ⟨fun w => ?_, fun w => ih.demands _⟩
    have kept : Leads w [] { w with cells := Table.put cell n w.cells } := .of_eq (.of_eq rfl) rfl
    exact kept.trans (ih.leads _)

theorem leads_evaluate (answers : ∀ request, (answer request).IsSound) (d : Definition)
    (v : ViewRef) (args : List Datum) (w : Workspace) :
    Leads w (evaluate answer d v args w).log (evaluate answer d v args w).after := by
  unfold evaluate
  cases Work.checkArity d.label args.length (d.parameters w) with
  | error e => exact .note (.of_eq (.of_eq rfl) rfl) nofun nofun
  | ok u =>
    have body := isSound_run answers (d.body w v args)
    exact .note (body.leads w) (body.demands w) nofun

/-- The note of a read for which a definition is evaluated is regular, whatever comes of the read. -/
theorem isRegular_read (v : ViewRef) (name : String) (d : Definition) (inside : List Note)
    (evaluated result : Except Failure Datum) :
    Note.IsRegular ⟨.read v name, [⟨.evaluate d v [], inside, evaluated⟩], result⟩ := by
  intro part member
  cases List.mem_singleton.mp member
  exact ⟨d, rfl⟩

/-- An evaluation that succeeds is kept, and one that fails leaves nothing. -/
theorem leads_keeping {w w' : Workspace} {v : ViewRef} {name : String} {d : Definition}
    {inside : List Note} {result : Except Failure Datum} (has : w.accessor? v name = some d)
    (unread : w.memo.lookup (v, name) = none)
    (evaluation : Leads w [⟨.evaluate d v [], inside, result⟩] w') :
    let c : Course Datum := ⟨result, w', [⟨.evaluate d v [], inside, result⟩]⟩
    let read := (c.keeping (v, name)).under (.read v name)
    Leads w read.log read.after := by
  have has' := evaluation.grows.accessor? has
  have regular := isRegular_read v name d inside result
  cases result with
  | error e =>
    refine .read rfl evaluation (regular _) unread rfl (fun _ _ => rfl) fun unread' => ?_
    exact unread' ▸ .failed has' (.nil _)
  | ok r =>
    simp only [Course.keeping]
    cases kept : w'.memo.lookup (v, name) with
    | some earlier =>
      -- the evaluation read the accessor itself: the read is not straight
      refine .read rfl evaluation (regular _) unread rfl (fun _ _ => rfl) fun unread' => ?_
      cases kept.symm.trans unread'
    | none =>
      refine .read rfl evaluation (regular _) unread rfl (fun key other => ?_) fun _ => ?_
      · simp [Course.under, List.lookup_cons, beq_false_of_ne other]
      · simp only [Course.under, List.lookup_cons_self]
        exact .succeeded has' (.nil _)

/-- So a read of an accessor is accounted for, whether it recalls or evaluates. -/
theorem leads_accessor (answers : ∀ request, (answer request).IsSound) {w : Workspace} {v : ViewRef}
    {name : String} {d : Definition} (has : w.accessor? v name = some d) :
    Leads w (accessor answer d v name w).log (accessor answer d v name w).after := by
  unfold accessor
  cases kept : w.memo.lookup (v, name) with
  | some r => exact .recalled has kept
  | none => exact leads_keeping has kept (leads_evaluate answers d v [] w)

theorem isSound_callFunction (answers : ∀ request, (answer request).IsSound) (d : Definition)
    (v : ViewRef) (args : List Datum) : (callFunction answer d v args).IsSound := by
  refine ⟨fun w => ?_, fun w => List.forall_mem_singleton.mpr rfl⟩
  exact .note (leads_evaluate answers d v args w) ⟨_, rfl⟩ nofun

/-- All answers are accounted for, by induction on the depth. -/
theorem isSound_answer (depth : Nat) (request : Request) : (Noted.answer depth request).IsSound := by
  -- on the depth: what a definition asks for is answered one level further down
  induction depth generalizing request with
  | zero => exact isSound_quietly fun w => ⟨rfl, rfl⟩
  | succ depth ih =>
    rw [Noted.answer]
    rcases respond_cases (Noted.answer depth) (Work.answer (depth + 1) request) request with
      ⟨v, name, rfl⟩ | ⟨v, d, args, rfl⟩ | ⟨noView, noFunction, quiet⟩
    · refine ⟨fun w => ?_, fun w => ?_⟩ <;> rw [respond_read]
      · cases has : w.accessor? v name with
        | none =>
          obtain ⟨views, memo⟩ := Work.leavesViews_readView (Work.answer depth) has
          exact .of_eq (.of_eq views) memo
        | some d => exact leads_accessor ih has
      · cases w.accessor? v name with
        | none => exact List.forall_mem_nil _
        | some d => exact List.forall_mem_singleton.mpr rfl
    · exact isSound_callFunction ih d v args
    · exact quiet ▸ isSound_quietly (Work.leavesViews_answer (depth + 1) noView noFunction)

end Noted

end ServiceDiagram
