import ServiceDiagram.Proofs.Views.Memo
import ServiceDiagram.Proofs.Views.Reuse

namespace ServiceDiagram

open Note

namespace Note

mutual

theorem mem_flat {e part : Note} (member : part ∈ e.flat) :
    part = e ∨ ∃ whole ∈ e.flat, part ∈ whole.inside := by
  obtain ⟨deed, inside, result⟩ := e
  rw [flat, List.mem_append, List.mem_singleton] at member
  rcases member with deeper | rfl
  · right
    rcases mem_flatAll deeper with direct | ⟨whole, there, direct⟩
    · exact ⟨⟨deed, inside, result⟩, by simp [flat], direct⟩
    · exact ⟨whole, by simp [flat, there], direct⟩
  · exact .inl rfl
termination_by structural e

/-- What happened at all is among the first notes, or directly inside of something that happened. -/
theorem mem_flatAll {es : List Note} {part : Note} (member : part ∈ flatAll es) :
    part ∈ es ∨ ∃ whole ∈ flatAll es, part ∈ whole.inside := by
  cases es with
  | nil => cases member
  | cons e es =>
    rw [flatAll, List.mem_append] at member
    rcases member with here | later
    · rcases mem_flat here with rfl | ⟨whole, there, direct⟩
      · exact .inl (List.mem_cons_self ..)
      · exact .inr ⟨whole, List.mem_append_left _ there, direct⟩
    · rcases mem_flatAll later with top | ⟨whole, there, direct⟩
      · exact .inl (List.mem_cons_of_mem _ top)
      · exact .inr ⟨whole, List.mem_append_right _ there, direct⟩
termination_by structural es

end

end Note

inductive Act where
  | read (on : Datum) (name : String)
  | call (on : Datum) (args : List Datum)
  | step (engine : Nat) (s : Step)

namespace Act

def after (w : Workspace) : Act → Workspace
  | read on name => ((Work.read on name).outcome w).2
  | call on args => ((Work.call on args).outcome w).2
  | step engine s => s.after engine w

/-- What happens during an act. No definition is evaluated in a step around an engine. -/
def log (w : Workspace) : Act → List Note
  | read on name => (Noted.answer Work.depthLimit (.read on name) w).log
  | call on args => (Noted.answer Work.depthLimit (.call on args) w).log
  | step .. => []

end Act

namespace Workspace

variable {w w' : Workspace} {v : ViewRef} {name : String}

def afterActs (w : Workspace) (acts : List Act) : Workspace := acts.foldl Act.after w

/-- What happens in a history. -/
def log : Workspace → List Act → List Note
  | _, [] => []
  | w, act :: later => act.log w ++ log (act.after w) later

theorem log_append (w : Workspace) (acts acts' : List Act) :
    w.log (acts ++ acts') = w.log acts ++ (w.afterActs acts).log acts' := by
  induction acts generalizing w with
  | nil => rfl
  | cons act acts ih => simp only [List.cons_append, log, ih, List.append_assoc, afterActs,
      List.foldl_cons]

theorem accessor?_of_capability {c : Capability} (has : w.capability? v name = some c)
    (isAccessor : c.kind = .accessor) : w.accessor? v name = some c.definition := by
  simp [accessor?, has, isAccessor]

theorem leads_step (engine : Nat) (s : Step) : Leads w [] (s.after engine w) := by
  cases s with
  | register registry a =>
    rw [Step.after, Work.register_outcome]
    cases (w.registry registry).register a <;> exact .of_eq (.of_eq rfl) rfl
  | addClass model c =>
    rw [Step.after, Work.addClass_outcome]
    cases (w.model model).addClass c <;> exact .of_eq (.of_eq rfl) rfl
  | apply model =>
    cases model with
    | none => exact .of_eq (.of_eq rfl) rfl
    | some model =>
      rw [Step.after, Work.apply_outcome]
      cases Work.appliedBefore? w (w.engine engine) model with
      | some number => exact .of_eq (.of_eq rfl) rfl
      | none =>
        cases AugmentedModel.buildClasses (w.registry (w.engine engine).registry)
          (w.model model) with
        | error e => exact .of_eq (.of_eq rfl) rfl
        | ok classes => exact .of_eq ⟨_, rfl⟩ rfl

/-- What is noted while a request is answered accounts for what is kept after it. -/
theorem leads_answer (depth : Nat) (request : Request) :
    Leads w (Noted.answer depth request w).log ((Work.answer depth request).outcome w).2 := by
  rw [Noted.answer_describes depth request w]
  exact (Noted.isSound_answer depth request).leads w

theorem leads_act (w : Workspace) (act : Act) : Leads w (act.log w) (act.after w) := by
  cases act with
  | read on name => exact leads_answer Work.depthLimit (.read on name)
  | call on args => exact leads_answer Work.depthLimit (.call on args)
  | step engine s => exact leads_step engine s

/-- The log of acts accounts for what is kept after them. -/
theorem leads_acts (w : Workspace) (acts : List Act) :
    Leads w (w.log acts) (w.afterActs acts) := by
  induction acts generalizing w with
  | nil => exact .of_eq (.of_eq rfl) rfl
  | cons act acts ih => exact (leads_act w act).trans (ih (act.after w))

end Workspace

open Workspace

/-- A note that what is asked for begins with, if it is of a read of an accessor, is of what is asked
for itself. -/
theorem Noted.eq_of_mem_log {depth : Nat} {request : Request} {w : Workspace} {v : ViewRef}
    {name : String} {e : Note} (member : e ∈ (Noted.answer depth request w).log)
    (read : e.deed = .read v name) : request = .read (.view v) name := by
  cases depth with
  | zero => cases member
  | succ depth =>
    rw [Noted.answer] at member
    rcases respond_cases (Noted.answer depth) (Work.answer (depth + 1) request) request with
      ⟨u, other, rfl⟩ | ⟨u, d, args, rfl⟩ | ⟨-, -, quiet⟩
    · rw [respond_read] at member
      cases has : w.accessor? u other with
      | none =>
        rw [has] at member
        cases member
      | some d =>
        rw [has] at member
        cases List.mem_singleton.mp member
        cases read
        rfl
    · cases List.mem_singleton.mp member
      cases read
    · rw [quiet] at member
      cases member

theorem Note.IsRegular.isEvaluation_of_read {e part : Note} {v : ViewRef} {name : String}
    (regular : e.IsRegular) (direct : part ∈ e.inside) (read : part.deed = .read v name) :
    e.deed.isEvaluation = true := by
  unfold Note.IsRegular at regular
  split at regular
  · obtain ⟨d, evaluates⟩ := regular part direct
    cases read.symm.trans evaluates
  · obtain ⟨inside, evaluation⟩ := regular
    rw [evaluation, List.mem_singleton] at direct
    cases direct
    cases read
  · rename_i evaluates
    rw [evaluates]
    rfl

namespace Act

variable {w : Workspace} {v : ViewRef} {name : String}

/-- To read a function leaves none: nothing is evaluated. -/
theorem log_read_of_function {c : Capability} (has : w.capability? v name = some c)
    (isFunction : c.kind = .function) : (Act.read (.view v) name).log w = [] := by
  have noAccessor : w.accessor? v name = none := by simp [accessor?, has, isFunction]
  change (Noted.respond _ _ _ w).log = []
  rw [Noted.respond_read, noAccessor]
  rfl

/-- A read of an accessor leaves one note, with all that happened inside of it and what came of it.
-/
theorem log_read {d : Definition} (has : w.accessor? v name = some d) :
    ∃ inside, (Act.read (.view v) name).log w =
      [⟨.read v name, inside, ((Work.read (.view v) name).outcome w).1⟩] := by
  have described := Noted.answer_describes Work.depthLimit (.read (.view v) name) w
  rw [Work.read, described]
  change ∃ inside, (Noted.respond _ _ _ w).log = [⟨_, inside, (Noted.respond _ _ _ w).answer⟩]
  rw [Noted.respond_read, has]
  exact ⟨_, rfl⟩

/-- A call of a function leaves one note at every call. -/
theorem log_call (w : Workspace) (v : ViewRef) (d : Definition) (args : List Datum) :
    ∃ inside, (Act.call (.function v d) args).log w =
      [⟨.call v d args, inside, ((Work.call (.function v d) args).outcome w).1⟩] := by
  have described := Noted.answer_describes Work.depthLimit (.call (.function v d) args) w
  rw [Work.call, described]
  exact ⟨_, rfl⟩

/-- A note that an act begins with, if it is of a read of an accessor, is of the act itself. -/
theorem eq_read_of_mem_log {act : Act} {e : Note} (member : e ∈ act.log w)
    (read : e.deed = .read v name) : act = .read (.view v) name := by
  cases act with
  | read on other => cases Noted.eq_of_mem_log member read; rfl
  | call on args => cases Noted.eq_of_mem_log member read
  | step engine s => cases member

/-- What is kept of an accessor changes only in reads of it: the act is one, or a definition that is
evaluated during the act reads the accessor. -/
theorem read_of_memo_ne {act : Act} (straight : ∀ e ∈ flatAll (act.log w), e.IsStraight)
    (changed : (act.after w).memo.lookup (v, name) ≠ w.memo.lookup (v, name)) :
    act = .read (.view v) name ∨
      ∃ e ∈ flatAll (act.log w), e.deed.isEvaluation = true ∧
        ∃ part ∈ e.inside, part.deed = .read v name := by
  have leads := leads_act w act
  -- without a read of the accessor, the reads of it lead from what is kept to the same
  have reads : readings v name (act.log w) ≠ [] := by
    intro none
    have kept := leads.readings straight v name
    rw [none] at kept
    exact changed kept.eq_of_nil
  obtain ⟨part, member⟩ := List.exists_mem_of_ne_nil _ reads
  obtain ⟨happened, read⟩ := mem_readings.mp member
  rcases mem_flatAll happened with first | ⟨e, there, direct⟩
  · exact .inl (eq_read_of_mem_log first read)
  · refine .inr ⟨e, there, ?_, part, direct, read⟩
    exact (leads.regular e there).isEvaluation_of_read direct read

end Act

namespace Workspace

/-- In any history of a workspace in which nothing was read before, as long as no accessor is read
while it is being evaluated: taking notes does not change what is done; the reads of each accessor
evaluate its definition once each, failing as it fails, up to the first success, whose result all
later reads give without evaluating; of anything else nothing is kept; every call of a function
evaluates it once and gives what comes of it, and a read of a function only gives the function; and
what is kept for a view changes only when the view is read, in an act or by a definition. -/
theorem accessors_write_once {w : Workspace} (unread : w.memo = []) {acts : List Act}
    (straight : ∀ e ∈ flatAll (w.log acts), e.IsStraight) :
    (∀ depth request, (Noted.answer depth request).Describes (Work.answer depth request)) ∧
    (∀ v name d, (w.afterActs acts).accessor? v name = some d →
      WriteOnce d v name (readings v name (w.log acts))) ∧
    (∀ v name, (w.afterActs acts).accessor? v name = none →
      readings v name (w.log acts) = [] ∧ (w.afterActs acts).memo.lookup (v, name) = none) ∧
    (∀ e ∈ flatAll (w.log acts), ∀ v d args, e.deed = .call v d args →
      ∃ inside, e.inside = [⟨.evaluate d v args, inside, e.result⟩]) ∧
    (∀ before act later, acts = before ++ act :: later →
      (∀ v name c, act = .read (.view v) name →
        (w.afterActs before).capability? v name = some c →
        match c.kind with
        | .accessor => ∃ inside, act.log (w.afterActs before) =
            [⟨.read v name, inside,
              ((Work.read (.view v) name).outcome (w.afterActs before)).1⟩]
        | .function => act.log (w.afterActs before) = [] ∧
            (Work.read (.view v) name).outcome (w.afterActs before) =
              (.ok (.function v c.definition), w.afterActs before)) ∧
      (∀ v d args, act = .call (.function v d) args →
        ∃ inside, act.log (w.afterActs before) =
          [⟨.call v d args, inside,
            ((Work.call (.function v d) args).outcome (w.afterActs before)).1⟩]) ∧
      ∀ v name,
        (w.afterActs (before ++ [act])).memo.lookup (v, name) ≠
          (w.afterActs before).memo.lookup (v, name) →
        act = .read (.view v) name ∨
          ∃ e ∈ flatAll (act.log (w.afterActs before)), e.deed.isEvaluation = true ∧
            ∃ part ∈ e.inside, part.deed = .read v name) := by
  have leads := leads_acts w acts
  refine ⟨Noted.answer_describes, fun v name d has => ?_, fun v name has => ?_,
    fun e member v d args called => ?_, fun before act later split => ⟨?_, ?_, ?_⟩⟩
  · have reads := leads.readings straight v name
    rw [has, unread] at reads
    exact reads.writeOnce
  · have reads := leads.readings straight v name
    rw [has, unread] at reads
    exact reads.nil_of_none
  · have regular := leads.regular e member
    unfold Note.IsRegular at regular
    rw [called] at regular
    exact regular
  · rintro v name c rfl has
    cases kind : c.kind with
    | accessor => exact Act.log_read (accessor?_of_capability has kind)
    | function =>
      refine ⟨Act.log_read_of_function has kind, ?_⟩
      have answered := Work.answer_capability 399 has
      rw [kind] at answered
      exact answered
  · rintro v d args rfl
    exact Act.log_call _ v d args
  · intro v name changed
    rw [afterActs, List.foldl_append] at changed
    refine Act.read_of_memo_ne (fun e member => ?_) changed
    refine straight e ?_
    rw [split, log_append, log, flatAll_append, flatAll_append]
    exact List.mem_append_right _ (List.mem_append_left _ member)

/-- A class whose status is not there at the first evaluation. -/
def sampleStatus : Workspace :=
  { sampleShop with
    augmented := [⟨0, 0, .default, [⟨sampleClass, [⟨"status", .host "status", .accessor, by decide⟩], []⟩]⟩]
    hosts := [("status", ⟨[], fun _ _ => (Program.count "reads").bind fun n =>
      if n = 1 then .fail (.host "RuntimeError" "not ready") else .done (.text "ready")⟩)] }

def sampleView : ViewRef := ⟨0, "C1", none⟩

/-- The status is read three times, and other views are built meanwhile. -/
def sampleActs : List Act :=
  [.read (.view sampleView) "status", .step 0 (.apply (some 0)),
    .read (.view sampleView) "status", .read (.view sampleView) "status"]

theorem log_sampleActs : sampleStatus.log sampleActs =
    [evaluated (.host "status") sampleView "status" [] (.error (.host "RuntimeError" "not ready")),
      evaluated (.host "status") sampleView "status" [] (.ok (.text "ready")),
      recalled sampleView "status" (.text "ready")] := by
  rfl

/-- The first read fails, the second one evaluates again, and the third one does not. -/
theorem accessors_write_once_sample :
    sampleStatus.memo = [] ∧
      (∀ e ∈ flatAll (sampleStatus.log sampleActs), e.IsStraight) ∧
      (sampleStatus.afterActs sampleActs).accessor? sampleView "status" = some (.host "status") ∧
      WriteOnce (.host "status") sampleView "status"
        (readings sampleView "status" (sampleStatus.log sampleActs)) := by
  have straight : ∀ e ∈ flatAll (sampleStatus.log sampleActs), e.IsStraight := by
    rw [log_sampleActs]
    intro e member v name read
    simp only [flatAll, flat, evaluated, recalled, List.mem_append, List.mem_singleton,
      List.not_mem_nil, or_false, false_or] at member
    -- evaluations are not reads, and inside of the two evaluations nothing is read
    rcases member with (rfl | rfl) | (rfl | rfl) | rfl <;> cases read
    all_goals rfl
  have has : (sampleStatus.afterActs sampleActs).accessor? sampleView "status" =
      some (.host "status") := rfl
  exact ⟨rfl, straight, has, (accessors_write_once rfl straight).2.1 sampleView "status" _ has⟩

end Workspace

end ServiceDiagram
