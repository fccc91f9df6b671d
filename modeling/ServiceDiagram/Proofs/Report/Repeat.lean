import ServiceDiagram.Proofs.Views.Generation
import ServiceDiagram.Proofs.Views.Registrations
import ServiceDiagram.Proofs.Views.Retained
import ServiceDiagram.Report.Content

namespace ServiceDiagram

open Workspace

namespace Report

open Work

theorem isReading_cellText (d : Datum) : (cellText d).IsReading := by
  unfold cellText
  split
  · exact .pure _
  · exact .throw _

theorem isReading_classNames (d : Datum) : (classNames d).IsReading := by
  unfold classNames
  cases d.items? with
  | none => exact .throw _
  | some items =>
    refine .mapM (fun item => ?_) items
    exact (IsReading.part item (by decide)).bind fun node =>
      (IsReading.part node (by decide)).bind fun name => .pure name.inline

theorem isReading_namesIn (v : ViewRef) {role : String} (noType : role ≠ "descriptor") :
    (namesIn v role).IsReading := by
  refine (IsReading.view v noType).bind fun d => ?_
  split
  · exact isReading_classNames d
  · exact .pure []

/-- What a report reads of a parameter is attributes and calls only. -/
theorem isReading_readParameter (v : ViewRef) : (readParameter v).IsReading := by
  have own {name : String} (noType : name ≠ "descriptor") := IsReading.view v noType
  refine (own (by decide)).bind fun o => (IsReading.part o (by decide)).bind fun d => ?_
  refine (isReading_cellText d).bind fun operation => ?_
  refine (own (by decide)).bind fun p => (IsReading.part p (by decide)).bind fun d => ?_
  refine (isReading_cellText d).bind fun name => ?_
  refine (IsReading.part p (by decide)).bind fun t => ?_
  refine (IsReading.part t (by decide)).bind fun d => ?_
  refine (isReading_cellText d).bind fun type => ?_
  refine (own (by decide)).bind fun d => (isReading_cellText d).bind fun rule => ?_
  refine (own (by decide)).bind fun d => (isReading_cellText d).bind fun sample => ?_
  exact .pure _

theorem isReading_readService (withParameters : Bool) (number : Nat) (c : ClassView) :
    (readService withParameters number c).IsReading := by
  refine (IsReading.view _ (by decide)).bind fun isOpen => ?_
  refine (isReading_namesIn _ (by decide)).bind fun services => ?_
  refine (isReading_namesIn _ (by decide)).bind fun daos => ?_
  cases withParameters with
  | true => exact (IsReading.mapM isReading_readParameter _).bind fun rows => .pure _
  | false => exact (IsReading.pure []).bind fun rows => .pure _

/-- Reading a report keeps to any relation between workspaces that each answer keeps to. -/
theorem follows_read {R : Workspace → Workspace → Prop} (frame : IsFrame R)
    (answers : ∀ request, (answer depthLimit request).Follows R) (withParameters : Bool)
    (number : Nat) : (Report.read withParameters number).Follows R := by
  intro w
  unfold Report.read
  rw [outcome_get]
  have sections := IsReading.mapM (isReading_readService withParameters number)
    ((w.augmentedModel number).withCapability "allowExternalAccess")
  exact (sections.bind fun parts => .pure _).follows frame answers w

/-- A report changes nothing but what is kept of accessors. -/
theorem onlyReads_read (withParameters : Bool) (number : Nat) :
    (Report.read withParameters number).OnlyReads :=
  follows_read isFrame_readTo (onlyReads_answer depthLimit) withParameters number

/-- Once the content of a report on views that there are has been read, it is read again. -/
theorem read_again {withParameters : Bool} {number : Nat} {w w' w'' : Workspace} {content : Content}
    (there : number < w.augmented.length)
    (given : (Report.read withParameters number).outcome w = (.ok content, w'))
    (retains : w'.Retains w'') :
    (Report.read withParameters number).outcome w'' = (.ok content, w'') := by
  have left := onlyReads_read withParameters number w
  rw [given] at left
  have all := left.retains.trans retains
  unfold Report.read at given ⊢
  rw [outcome_get] at given ⊢
  dsimp only at given ⊢
  rw [all.augmentedModel there, all.names]
  have sections := IsReading.mapM (isReading_readService withParameters number)
    ((w.augmentedModel number).withCapability "allowExternalAccess")
  exact (sections.bind fun parts => .pure _).isRepeatable.again given retains

end Report

namespace Work

/-- Work that succeeded came to a result. -/
theorem exists_of_toBool {α : Type} {x : Work α} {w : Workspace}
    (came : (x.outcome w).1.toBool = true) : ∃ a w', x.outcome w = (.ok a, w') := by
  match result : x.outcome w with
  | (.ok a, w') => exact ⟨a, w', rfl⟩
  | (.error e, w') => simp [result, Except.toBool] at came

theorem follows_reportText {R : Workspace → Workspace → Prop} (frame : IsFrame R)
    (answers : ∀ request, (answer depthLimit request).Follows R) (render : Report.Renderer)
    (console : ReportConfig) (number : Nat) : (reportText render console number).Follows R :=
  (Report.follows_read frame answers console.showParameters number).bind frame fun _ => frame.refl

/-- A text that came once comes again on any workspace that retains what was kept, and changes
nothing. -/
theorem reportText_again {render : Report.Renderer} {console : ReportConfig} {number : Nat}
    {w w' w'' : Workspace} {text : String} (there : number < w.augmented.length)
    (given : (reportText render console number).outcome w = (.ok text, w')) (retains : w'.Retains w'') :
    (reportText render console number).outcome w'' = (.ok text, w'') := by
  obtain ⟨content, w₁, came, given⟩ := exists_of_outcome_bind given
  cases given
  exact outcome_bind_of_ok (Report.read_again there came retains)

end Work

/-- Views that an engine gives are there. -/
theorem Workspace.number_lt_of_apply {engine model number : Nat} {w w' : Workspace}
    (coherent : Coherent engine w)
    (applied : (Work.apply engine (some model)).outcome w = (.ok number, w')) :
    number < w'.augmented.length := by
  rw [Work.apply_outcome] at applied
  cases before : Work.appliedBefore? w (w.engine engine) model with
  | some old =>
    rw [before] at applied
    cases applied
    obtain ⟨a, kept, -, rfl⟩ := appliedBefore?_eq_some.mp before
    exact (coherent model a kept).number_lt
  | none =>
    rw [before] at applied
    cases built : AugmentedModel.buildClasses (w.registry (w.engine engine).registry)
      (w.model model) with
    | error e =>
      rw [built] at applied
      cases applied
    | ok classes =>
      rw [built] at applied
      cases applied
      simp [withViews]

namespace Context

section Frame

variable {R : Workspace → Workspace → Prop} (frame : IsFrame R)

include frame

theorem follows_initStereotype (c : Context) (services : (Work.grantServices c.registry c.config).Follows R)
    (parameters : (Work.grantParameters c.registry).Follows R) : c.initStereotype.Follows R := by
  refine .bind frame services fun _ => .bind frame parameters fun _ => ?_
  refine .bind frame frame.refl fun w => ?_
  exact fun _ => frame.blind rfl rfl rfl rfl rfl rfl rfl

theorem follows_withEngine (c : Context)
    (addsEngine : ∀ r t config, (Work.addEngine (some r) (some t) config).Follows R) :
    c.withEngine.Follows R := by
  unfold withEngine
  cases c.engine with
  | some e => exact frame.refl
  | none => exact .bind frame (addsEngine _ _ _) fun e => frame.refl

theorem follows_augment (c : Context) (services : (Work.grantServices c.registry c.config).Follows R)
    (parameters : (Work.grantParameters c.registry).Follows R)
    (addsEngine : ∀ r t config, (Work.addEngine (some r) (some t) config).Follows R)
    (applies : ∀ e model, (Work.apply e model).Follows R) : c.augment.Follows R := by
  refine .bind frame (follows_initStereotype frame c services parameters) fun _ => ?_
  refine .bind frame (follows_withEngine frame c addsEngine) fun (c, e) => ?_
  exact .bind frame (applies e (some c.model)) fun number => frame.refl

end Frame

theorem advances_initStereotype (c : Context) : c.initStereotype.Advances :=
  follows_initStereotype isFrame_advances c (Work.advances_grant _ _ _) (Work.advances_grant _ _ _)

theorem advances_withEngine (c : Context) : c.withEngine.Advances :=
  follows_withEngine isFrame_advances c Work.advances_addEngine

/-- A run adds to a workspace and takes nothing away. -/
theorem advances_augment (c : Context) : c.augment.Advances :=
  follows_augment isFrame_advances c (Work.advances_grant _ _ _) (Work.advances_grant _ _ _)
    Work.advances_addEngine Work.advances_apply

/-- Views that a run has built are there. -/
theorem number_lt_of_augment {c c' : Context} {number : Nat} {w w' : Workspace}
    (sound : ∀ engine, Coherent engine w)
    (built : c.augment.outcome w = (.ok (c', number), w')) : number < w'.augmented.length := by
  obtain ⟨_, w₁, granted, built⟩ := Work.exists_of_outcome_bind built
  obtain ⟨⟨c₁, e⟩, w₂, engine, built⟩ := Work.exists_of_outcome_bind built
  obtain ⟨_, w₃, applied, built⟩ := Work.exists_of_outcome_bind built
  cases built
  have sound₁ := (c.advances_initStereotype w).coherent sound
  rw [granted] at sound₁
  have sound₂ := (c.advances_withEngine w₁).coherent sound₁
  rw [engine] at sound₂
  exact number_lt_of_apply (sound₂ e) applied

end Context

/-- What a host program may do: act on a workspace, augment models, write reports, and change its type
systems, its definitions, and whatever these and the generators keep. -/
inductive Move where
  | act (act : Act)
  | augment (c : Context)
  | report (render : Report.Renderer) (console : ReportConfig) (number : Nat)
  | host (typeSystems : List TypeSystem) (hosts : List (String × HostDefinition))
    (calls : List ((Nat × TypeKey) × Nat)) (cells : List (String × Nat))

namespace Move

def after (w : Workspace) : Move → Workspace
  | act a => a.after w
  | augment c => (c.augment.outcome w).2
  | report render console number => ((Work.reportText render console number).outcome w).2
  | host typeSystems hosts calls cells =>
    { w with typeSystems := typeSystems, hosts := hosts, calls := calls, cells := cells }

end Move

namespace Workspace

variable {w : Workspace}

def afterMoves (w : Workspace) (moves : List Move) : Workspace := moves.foldl Move.after w

section Frame

variable {R : Workspace → Workspace → Prop} (frame : IsFrame R)

include frame

/-- Every move stays in a relation if answers, steps around engines, augmenting and what the host changes
do. -/
theorem follows_move (answers : ∀ request, (Work.answer Work.depthLimit request).Follows R)
    (steps : ∀ (engine : Nat) (s : Step) (w : Workspace), R w (s.after engine w))
    (augments : ∀ c : Context, c.augment.Follows R)
    (hosts : ∀ typeSystems hosts calls cells (w : Workspace),
      R w ((Move.host typeSystems hosts calls cells).after w))
    (move : Move) (w : Workspace) : R w (move.after w) := by
  cases move with
  | act act =>
    cases act with
    | read on name => exact answers (.read on name) w
    | call on args => exact answers (.call on args) w
    | step engine s => exact steps engine s w
  | augment c => exact augments c w
  | report render console number =>
    exact Work.follows_reportText frame answers render console number w
  | host typeSystems definitions calls cells => exact hosts typeSystems definitions calls cells w

/-- The induction is on the moves. -/
theorem follows_moves (each : ∀ (move : Move) (w : Workspace), R w (move.after w)) (moves : List Move)
    (w : Workspace) : R w (w.afterMoves moves) := by
  induction moves generalizing w with
  | nil => exact frame.refl w
  | cons move moves ih => exact frame.trans (each move w) (ih (move.after w))

end Frame

theorem advances_move (move : Move) : w.Advances (move.after w) := by
  refine follows_move isFrame_advances (fun request w => ?_) (fun engine s w => ?_)
    Context.advances_augment (fun typeSystems hosts calls cells w => ?_) move w
  · exact (Work.onlyReads_answer Work.depthLimit request w).advances
  · exact advances_act (.step engine s)
  · refine ⟨⟨.of_eq rfl, fun _ _ => id, fun _ => rfl⟩, fun sound engine => ?_⟩
    exact (sound engine).later ⟨rfl, rfl, rfl, fun _ => .refl _, fun _ => .refl _, [],
      (List.append_nil _).symm⟩ rfl

theorem advances_moves (moves : List Move) : w.Advances (w.afterMoves moves) :=
  follows_moves isFrame_advances (fun move _ => advances_move move) moves w

/-- Once a report on views that a run has built has come to a text, every later report on them with
the same settings comes to the same text and changes nothing, whatever is done in between. -/
theorem report_reproducible (fresh : w.IsFresh) (before between later : List Move)
    {c c' : Context} {number : Nat} {w₁ w₂ : Workspace} {render : Report.Renderer}
    {console : ReportConfig} {text : String}
    (built : c.augment.outcome (w.afterMoves before) = (.ok (c', number), w₁))
    (first : (Work.reportText render console number).outcome (w₁.afterMoves between) =
      (.ok text, w₂)) :
    (Work.reportText render console number).outcome (w₂.afterMoves later) =
      (.ok text, w₂.afterMoves later) := by
  have sound := (advances_moves before).coherent fresh.coherent
  have there : number < (w₁.afterMoves between).augmented.length := by
    obtain ⟨more, views⟩ := (advances_moves (w := w₁) between).retains.grows
    rw [views, List.length_append]
    exact Nat.lt_add_right _ (Context.number_lt_of_augment sound built)
  exact Work.reportText_again there first (advances_moves later).retains

/-- A type whose generator gives another value at each call. -/
def sampleCounter : TypeDescriptor := ⟨"number", none, fun n => .ok (.number (.int n)), by decide⟩

def sampleAmount : Parameter :=
  ⟨"amount", ⟨"Amount", .primitive, none, by decide⟩, true, false, none, false, none, by decide⟩

/-- A service with a parameter. -/
def sampleTill : Class :=
  ⟨"S1", "Till", some "Service", [], [⟨"pay", [sampleAmount], by decide⟩], [], by decide⟩

def sampleMarket : Workspace :=
  { sampleShop with
    models := [⟨"market", [sampleTill], 0, by simp⟩]
    typeSystems := [.host fun _ => some sampleCounter] }

/-- A class is added, and the types are gone. -/
def sampleMoves : List Move :=
  [.act (.step 0 (.addClass 0 sampleClass)), .act (.read (.view ⟨0, "S1", some 0⟩) "mockValue"),
    .host [] [] [] []]

/-- Writes the samples one after the other. -/
def sampleRenderer : Report.Renderer := fun _ content =>
  String.join (content.sections.flatMap fun s => s.rows.map fun row => row.sample)

theorem report_reproducible_sample :
    sampleMarket.IsFresh ∧ ∃ w₁ w₂ text,
      sampleRun.augment.outcome sampleMarket = (.ok (sampleRun, 0), w₁) ∧
        (Work.reportText sampleRenderer .default 0).outcome w₁ = (.ok text, w₂) ∧
        (Work.reportText sampleRenderer .default 0).outcome (w₂.afterMoves sampleMoves) =
          (.ok text, w₂.afterMoves sampleMoves) := by
  have fresh : sampleMarket.IsFresh :=
    ⟨by simp [sampleMarket, sampleShop], by simp [sampleMarket, sampleShop]⟩
  have built : sampleRun.augment.outcome sampleMarket =
      (.ok (sampleRun, 0), (sampleRun.augment.outcome sampleMarket).2) := rfl
  obtain ⟨text, w₂, first⟩ := Work.exists_of_toBool (x := Work.reportText sampleRenderer .default 0)
    (w := (sampleRun.augment.outcome sampleMarket).2) (by decide +kernel)
  exact ⟨fresh, _, w₂, text, built, first, report_reproducible fresh [] [] sampleMoves built first⟩

end Workspace

end ServiceDiagram
