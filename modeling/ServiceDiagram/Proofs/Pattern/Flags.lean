import ServiceDiagram.Pattern.Reader
import ServiceDiagram.Proofs.Except

namespace ServiceDiagram.Pattern

/-- Whether a flag only tells how characters are compared. -/
def Flag.isStyle : Flag → Bool
  | .ignoreCase | .multiLine | .dotAll => true
  | _ => false

theorem Flags.mem_add {fs : Flags} {f g : Flag} : g ∈ fs.add f ↔ g ∈ fs ∨ g = f := by
  unfold Flags.add
  split
  · rename_i there
    constructor
    · exact .inl
    · rintro (old | rfl)
      · exact old
      · exact List.contains_iff_mem.mp there
  · simp

theorem Flags.mem_union {fs gs : Flags} {g : Flag} : g ∈ fs.union gs ↔ g ∈ fs ∨ g ∈ gs := by
  induction gs generalizing fs with
  | nil => simp [Flags.union]
  | cons f gs ih =>
    have step : g ∈ fs.union (f :: gs) ↔ g ∈ (fs.add f).union gs := Iff.rfl
    rw [step, ih, Flags.mem_add, List.mem_cons, or_assoc]

/-- Which flags hold in a part of a pattern that adds some and removes others. -/
theorem Flags.mem_within {fs added removed : Flags} {f : Flag} (noCharset : f.isCharset = false) :
    f ∈ fs.within added removed ↔ (f ∈ fs ∨ f ∈ added) ∧ f ∉ removed := by
  have kept : f ∈ (if added.any Flag.isCharset then fs.filter (fun f => !f.isCharset) else fs) ↔
      f ∈ fs := by
    split
    · simp [noCharset]
    · exact Iff.rfl
  rw [Flags.within]
  simp only [List.mem_filter, Flags.mem_union, kept, List.contains_eq_mem, Bool.not_eq_true',
    decide_eq_false_iff_not]

/-- States of reading that differ by flags given apart. -/
def Scan.Apart (extra : Flags) (s t : Scan) : Prop :=
  ∃ fs, (∀ f, f ∈ s.flags ↔ f ∈ fs ∨ f ∈ extra) ∧ t = { s with flags := fs }

variable {α β : Type} {extra : Flags}

/-- Both readings fail for one reason, or both give the same and leave states that differ by the
flags given apart. -/
def Agree (extra : Flags) : Except Fault (α × Scan) → Except Fault (α × Scan) → Prop
  | .ok (a, s), .ok (b, t) => a = b ∧ s.Apart extra t
  | .error e, .error e' => e = e'
  | _, _ => False

/-- Two readings agree wherever they begin, up to the flags given apart. -/
def Alike (extra : Flags) (x y : Read α) : Prop :=
  ∀ s t : Scan, s.Apart extra t → Agree extra (x.run s) (y.run t)

/-- What is read does not depend on the flags given apart. -/
abbrev Blind (extra : Flags) (x : Read α) : Prop := Alike extra x x

theorem blind_pure (a : α) : Blind extra (pure a : Read α) := fun _ _ apart => ⟨rfl, apart⟩

theorem blind_throw (e : Fault) : Blind extra (throw e : Read α) := fun _ _ _ => rfl

/-- Two runs that agree in what they read go on to agree if what follows agrees for every result. -/
theorem Alike.bind {x y : Read α} {f g : α → Read β} (first : Alike extra x y)
    (next : ∀ a, Alike extra (f a) (g a)) : Alike extra (x >>= f) (y >>= g) := by
  intro s t apart
  have agree := first s t apart
  rw [StateT.run_bind, StateT.run_bind]
  cases left : x.run s with
  | error e =>
    cases right : y.run t with
    | error e' =>
      rw [left, right] at agree
      exact agree
    | ok b =>
      rw [left, right] at agree
      exact agree.elim
  | ok a =>
    cases right : y.run t with
    | error e' =>
      rw [left, right] at agree
      exact agree.elim
    | ok b =>
      rw [left, right] at agree
      obtain ⟨same, apart'⟩ := agree
      have rest := next a.1 a.2 b.2 apart'
      change Agree extra ((f a.1).run a.2) ((g b.1).run b.2)
      rw [same] at rest ⊢
      exact rest

theorem Alike.map {x y : Read α} {f : α → β} (alike : Alike extra x y) :
    Alike extra (f <$> x) (f <$> y) := by
  rw [map_eq_pure_bind, map_eq_pure_bind]
  exact alike.bind fun _ => blind_pure _

/-- Whichever of two readings comes first, what follows is the same. -/
theorem blind_choose {c : Prop} [Decidable c] {x y : Read α} {next : α → Read β}
    (yes : Blind extra x) (no : Blind extra y) (later : ∀ a, Blind extra (next a)) :
    Blind extra (if c then x >>= next else y >>= next) := by
  split
  · exact yes.bind later
  · exact no.bind later

/-- A reader may look at its state as long as what it does is the same for states that differ in the
flags only. -/
theorem blind_get {f : Scan → Read α}
    (next : ∀ s t : Scan, s.Apart extra t → Alike extra (f s) (f t)) : Blind extra (get >>= f) :=
  fun s t apart => next s t apart s t apart

/-- To look at anything but the flags is harmless. -/
theorem blind_look {f : Scan → Read α} (unseen : ∀ s fs, f { s with flags := fs } = f s)
    (next : ∀ s, Blind extra (f s)) : Blind extra (get >>= f) := by
  refine blind_get fun s t apart => ?_
  obtain ⟨fs, -, rfl⟩ := apart
  rw [unseen s fs]
  exact next s

theorem alike_set {s t : Scan} (apart : s.Apart extra t) :
    Alike extra (set s : Read PUnit) (set t) := fun _ _ _ => ⟨rfl, apart⟩

theorem blind_modify {f : Scan → Scan}
    (keeps : ∀ s t : Scan, s.Apart extra t → (f s).Apart extra (f t)) :
    Blind extra (modify f : Read Unit) :=
  fun _ _ apart => ⟨rfl, keeps _ _ apart⟩

/-- Any part of the state but the flags may be changed. -/
theorem blind_change {f : Scan → Scan} (kept : ∀ s, (f s).flags = s.flags)
    (unseen : ∀ s fs, f { s with flags := fs } = { f s with flags := fs }) :
    Blind extra (modify f : Read Unit) := by
  refine blind_modify fun s t apart => ?_
  obtain ⟨fs, flags, rfl⟩ := apart
  exact ⟨fs, (kept s).symm ▸ flags, unseen s fs⟩

open Read

theorem blind_peek : Blind extra peek := blind_look (fun _ _ => rfl) fun _ => blind_pure _

theorem blind_place : Blind extra place := blind_look (fun _ _ => rfl) fun _ => blind_pure _

theorem blind_fuel : Blind extra fuel := blind_look (fun _ _ => rfl) fun _ => blind_pure _

theorem blind_failAt (cause : Cause) (place : Nat) :
    Blind extra (failAt cause place : Read α) := blind_throw _

theorem blind_fail (cause : Cause) (back : Nat) : Blind extra (fail cause back : Read α) :=
  blind_place.bind fun _ => blind_failAt _ _

/-- What taking a token does to the state. -/
theorem next_run (s : Scan) :
    next.run s =
      if s.rest.drop (((token? s.rest).map List.length).getD 0) = ['\\'] then
        .error (.malformed .endInEscape (some (s.total - 1)))
      else
        .ok (token? s.rest,
          { s with rest := s.rest.drop (((token? s.rest).map List.length).getD 0) }) := by
  unfold next
  simp only [StateT.run_bind, StateT.run_get, pure_bind]
  split <;> rfl

/-- Taking a token does not look at the flags. -/
theorem blind_next : Blind extra next := by
  rintro s t ⟨fs, flags, rfl⟩
  rw [next_run, next_run]
  dsimp only
  split
  · rfl
  · exact ⟨rfl, fs, flags, rfl⟩

theorem blind_accept (c : Char) : Blind extra (accept c) := by
  refine blind_peek.bind fun t => ?_
  split
  · exact blind_next.bind fun _ => blind_pure _
  · exact blind_pure _

theorem blind_takeUpTo (ok : Char → Bool) (n : Nat) : Blind extra (takeUpTo ok n) := by
  induction n with
  | zero => exact blind_pure _
  | succ n ih =>
    refine blind_peek.bind fun t => ?_
    split
    · split
      · exact blind_next.bind fun _ => ih.bind fun _ => blind_pure _
      · exact blind_pure _
    · exact blind_pure _

theorem blind_takeName (terminator : Char) (what : String) (n : Nat) (name : List Char) :
    Blind extra (takeName terminator what n name) := by
  induction n generalizing name with
  | zero => exact blind_fail _ _
  | succ n ih =>
    refine blind_next.bind fun t => ?_
    split
    · split <;> exact blind_fail _ _
    · split
      · split
        · exact blind_fail _ _
        · exact blind_pure _
      · exact ih _

theorem blind_skipLine (n : Nat) : Blind extra (skipLine n) := by
  induction n with
  | zero => exact blind_pure _
  | succ n ih =>
    refine blind_next.bind fun t => ?_
    split
    · exact blind_pure _
    · split
      · exact blind_pure _
      · exact ih

theorem blind_skipComment (start n : Nat) : Blind extra (skipComment start n) := by
  induction n with
  | zero => exact blind_pure _
  | succ n ih =>
    refine blind_next.bind fun t => ?_
    split
    · exact blind_failAt _ _
    · split
      · exact blind_pure _
      · exact ih

theorem blind_badEscape (escape : List Char) : Blind extra (badEscape escape : Read α) :=
  blind_fail _ _

theorem blind_readHexEscape (c : Char) (digits : Nat) : Blind extra (readHexEscape c digits) := by
  refine (blind_takeUpTo _ _).bind fun ds => ?_
  dsimp only
  split
  · exact blind_fail _ _
  · split
    · exact blind_badEscape _
    · exact blind_pure _

theorem blind_readNamedEscape : Blind extra readNamedEscape := by
  refine (blind_accept _).bind fun opened => ?_
  split
  · refine blind_fuel.bind fun _ => (blind_takeName _ _ _ _).bind fun _ => ?_
    split
    · exact blind_pure _
    · exact blind_fail _ _
  · exact blind_fail _ _

theorem blind_readCodeEscape? (c : Char) : Blind extra (readCodeEscape? c) := by
  unfold readCodeEscape?
  split
  · exact (blind_readHexEscape _ _).bind fun _ => blind_pure _
  · split
    · exact (blind_readHexEscape _ _).bind fun _ => blind_pure _
    · split
      · exact (blind_readHexEscape _ _).bind fun _ => blind_pure _
      · split
        · exact blind_readNamedEscape.bind fun _ => blind_pure _
        · exact blind_pure _

theorem blind_readPlainEscape (c : Char) : Blind extra (readPlainEscape c) := by
  unfold readPlainEscape
  split
  · exact blind_badEscape _
  · exact blind_pure _

theorem blind_checkOctal (ds : List Char) : Blind extra (checkOctal ds) := by
  unfold checkOctal
  dsimp only
  split
  · exact blind_fail _ _
  · exact blind_pure _

theorem blind_readSetEscape (c : Char) : Blind extra (readSetEscape c) := by
  unfold readSetEscape
  split
  · exact blind_pure _
  · exact blind_pure _
  · refine (blind_readCodeEscape? c).bind fun code => ?_
    split
    · exact blind_pure _
    · split
      · exact (blind_takeUpTo _ _).bind fun _ => (blind_checkOctal _).bind fun _ => blind_pure _
      · exact (blind_readPlainEscape _).bind fun _ => blind_pure _

theorem blind_checkLookbehind (g : Nat) : Blind extra (checkLookbehind g) := by
  refine blind_look (fun _ _ => rfl) fun s => ?_
  split
  · exact blind_pure _
  · split
    · exact blind_fail _ _
    · split
      · exact blind_fail _ _
      · exact blind_pure _

theorem blind_readReference (digits : List Char) : Blind extra (readReference digits) := by
  refine blind_look (fun _ _ => rfl) fun s => ?_
  split
  · exact blind_fail _ _
  · split
    · exact blind_fail _ _
    · exact (blind_checkLookbehind _).bind fun _ => blind_pure _

theorem blind_readDigitEscape (c : Char) : Blind extra (readDigitEscape c) := by
  unfold readDigitEscape
  split
  · exact (blind_takeUpTo _ _).bind fun _ => blind_pure _
  · refine (blind_takeUpTo _ _).bind fun ds => ?_
    split
    · split
      · refine (blind_takeUpTo _ _).bind fun es => ?_
        split
        · exact (blind_checkOctal _).bind fun _ => blind_pure _
        · exact blind_readReference _
      · exact blind_readReference _
    · exact blind_readReference _

theorem blind_readEscape (c : Char) : Blind extra (readEscape c) := by
  unfold readEscape
  split
  · exact blind_pure _
  · exact blind_pure _
  · exact blind_pure _
  · refine (blind_readCodeEscape? c).bind fun code => ?_
    split
    · exact blind_pure _
    · split
      · exact blind_readDigitEscape c
      · exact (blind_readPlainEscape c).bind fun _ => blind_pure _

theorem blind_readSetMember (t : List Char) : Blind extra (readSetMember t) := by
  unfold readSetMember
  split
  · exact blind_readSetEscape _
  · exact blind_pure _
  · exact blind_pure _

theorem blind_rangeOf (low high : SetItem) (lowToken highToken : List Char) :
    Blind extra (rangeOf low high lowToken highToken) := by
  unfold rangeOf
  dsimp only
  split
  · split
    · exact blind_fail _ _
    · exact blind_pure _
  · exact blind_fail _ _

theorem blind_readSetItems (start n : Nat) (items : List SetItem) :
    Blind extra (readSetItems start n items) := by
  induction n generalizing items with
  | zero => exact blind_failAt _ _
  | succ n ih =>
    refine blind_next.bind fun this => ?_
    split
    · exact blind_failAt _ _
    · split
      · exact blind_pure _
      · refine (blind_readSetMember _).bind fun low => ?_
        refine (blind_accept _).bind fun ranged => ?_
        split
        · refine blind_next.bind fun that => ?_
          split
          · exact blind_failAt _ _
          · split
            · exact blind_pure _
            · exact (blind_readSetMember _).bind fun high =>
                (blind_rangeOf _ _ _ _).bind fun _ => ih _
        · exact ih _

theorem blind_readSet : Blind extra readSet := by
  refine blind_place.bind fun start => ?_
  refine (blind_accept _).bind fun negated => ?_
  refine blind_fuel.bind fun n => (blind_readSetItems _ _ _).bind fun items => ?_
  dsimp only
  split
  · exact blind_pure _
  · exact blind_pure _

/-- A brace that begins no repetition leaves the state as it was found. -/
theorem blind_readBounds? : Blind extra readBounds? := by
  refine blind_get fun s t apart => ?_
  refine blind_place.bind fun start => blind_fuel.bind fun n => ?_
  refine (blind_takeUpTo _ _).bind fun low => (blind_accept _).bind fun comma => ?_
  extract_lets least finish finish'
  have closes (high : List Char) : Alike extra (finish high) (finish' high) := by
    refine (blind_accept _).bind fun closed => ?_
    cases closed with
    | false => exact (alike_set apart).bind fun _ => blind_pure _
    | true =>
      rw [if_pos rfl, if_pos rfl]
      extract_lets most
      split
      · exact blind_throw _
      · split
        · exact blind_pure _
        · split
          · exact blind_failAt _ _
          · exact blind_pure _
  split
  · exact blind_fuel.bind fun _ => (blind_takeUpTo _ _).bind closes
  · exact (blind_pure _).bind closes

theorem blind_readRepeat? (c : Char) : Blind extra (readRepeat? c) := by
  unfold readRepeat?
  split
  · exact blind_pure _
  · split
    · exact blind_pure _
    · split
      · exact blind_pure _
      · refine blind_peek.bind fun t => ?_
        split
        · exact blind_pure _
        · exact blind_readBounds?

theorem blind_repeatLast (start : Nat) (bounds : Nat × Option Nat) (nodes : List Node) :
    Blind extra (repeatLast start bounds nodes) := by
  unfold repeatLast
  split
  · exact blind_failAt _ _
  · split
    · exact blind_failAt _ _
    · exact blind_failAt _ _
    · extract_lets body finish
      have looped (greed : Greed) : Blind extra (finish greed) := blind_pure _
      refine (blind_accept _).bind fun lazily => ?_
      split
      · exact (blind_pure _).bind looped
      · refine (blind_accept _).bind fun possessively => ?_
        exact blind_choose (blind_pure _) (blind_pure _) looped

theorem blind_nextFlag (missing : Cause) (ends : List Char) :
    Blind extra (nextFlag missing ends) := by
  refine blind_next.bind fun t => ?_
  split
  · exact blind_fail _ _
  · split
    · exact blind_pure _
    · split
      · exact blind_pure _
      · exact blind_fail _ _
    · exact blind_fail _ _

theorem blind_readFlagsOn (n : Nat) (f : Flag) (flags : Flags) :
    Blind extra (readFlagsOn n f flags) := by
  induction n generalizing f flags with
  | zero => exact blind_fail _ _
  | succ n ih =>
    unfold readFlagsOn
    split
    · exact blind_fail _ _
    · dsimp only
      split
      · exact blind_fail _ _
      · refine (blind_nextFlag _ _).bind fun g => ?_
        split
        · exact ih _ _
        · exact blind_pure _

theorem blind_readFlagsOff (n : Nat) (f : Flag) (flags : Flags) :
    Blind extra (readFlagsOff n f flags) := by
  induction n generalizing f flags with
  | zero => exact blind_fail _ _
  | succ n ih =>
    unfold readFlagsOff
    split
    · exact blind_fail _ _
    · refine (blind_nextFlag _ _).bind fun g => ?_
      split
      · exact ih _ _
      · exact blind_pure _

theorem Scan.Apart.union {s t : Scan} (apart : s.Apart extra t) (added : Flags) :
    Scan.Apart extra { s with flags := s.flags.union added }
      { t with flags := t.flags.union added } := by
  obtain ⟨fs, flags, rfl⟩ := apart
  refine ⟨fs.union added, fun f => ?_, rfl⟩
  rw [Flags.mem_union, Flags.mem_union, flags f, or_right_comm]

/-- Flags within the pattern are added to those that are there, without a look at the others. -/
theorem blind_readFlags (first : Option Flag) : Blind extra (readFlags first) := by
  unfold readFlags
  extract_lets finish
  have closes (x : Flags × Char) : Blind extra (finish x) := by
    obtain ⟨added, stop⟩ := x
    change Blind extra (if stop = ')' then _ else _)
    split
    · exact (blind_modify fun s t apart => apart.union added).bind fun _ => blind_pure _
    · split
      · exact blind_fail _ _
      · extract_lets checks
        have checked (removed : Flags) : Blind extra (checks removed) := by
          dsimp only [checks]
          split
          · exact blind_fail _ _
          · split
            · exact blind_fail _ _
            · exact blind_pure _
        split
        · refine (blind_nextFlag _ _).bind fun g => ?_
          split
          · exact blind_fuel.bind fun _ => (blind_readFlagsOff _ _ _).bind checked
          · exact (blind_fail _ _).bind checked
        · exact (blind_pure _).bind checked
  split
  · exact blind_fuel.bind fun _ => (blind_readFlagsOn _ _ _).bind closes
  · exact (blind_pure _).bind closes

theorem blind_checkName (name : List Char) : Blind extra (checkName name) := by
  unfold checkName
  split
  · exact blind_pure _
  · exact blind_fail _ _

theorem blind_openGroup (name : Option (List Char)) : Blind extra (openGroup name) := by
  refine blind_get fun s t apart => ?_
  obtain ⟨fs, flags, rfl⟩ := apart
  dsimp only
  split
  · refine Alike.bind (alike_set ?_) fun _ => blind_pure _
    exact ⟨fs, flags, rfl⟩
  · split
    · exact (blind_fail _ _).bind fun _ => blind_pure _
    · refine Alike.bind (alike_set ?_) fun _ => blind_pure _
      exact ⟨fs, flags, rfl⟩

theorem blind_closeGroup (g : Nat) (body : List Node) : Blind extra (closeGroup g body) :=
  blind_change (fun _ => rfl) fun _ _ => rfl

theorem blind_readNamedReference : Blind extra readNamedReference := by
  refine blind_fuel.bind fun n => (blind_takeName _ _ _ _).bind fun name => ?_
  refine (blind_checkName name).bind fun _ => ?_
  refine blind_look (fun _ _ => rfl) fun s => ?_
  split
  · exact blind_fail _ _
  · split
    · exact blind_fail _ _
    · exact (blind_checkLookbehind _).bind fun _ => blind_pure _

theorem blind_readCondition : Blind extra readCondition := by
  refine blind_fuel.bind fun n => (blind_takeName _ _ _ _).bind fun name => ?_
  extract_lets key back finish
  have checked (g : Nat) : Blind extra (finish g) :=
    (blind_checkLookbehind g).bind fun _ => blind_pure _
  refine blind_get fun s t apart => ?_
  obtain ⟨fs, flags, rfl⟩ := apart
  split
  · dsimp only
    split
    · exact (blind_fail _ _).bind checked
    · exact (blind_pure _).bind checked
  · split
    · exact (blind_fail _ _).bind checked
    · split
      · exact (blind_fail _ _).bind checked
      · extract_lets g found
        split
        · exact (blind_fail _ _).bind checked
        · split
          · exact (blind_fail _ _).bind checked
          · refine blind_place.bind fun here => ?_
            have kept (u : PUnit) : Blind extra (found u) := (blind_pure g).bind checked
            dsimp only
            split
            · refine Alike.bind (alike_set ?_) kept
              exact ⟨fs, flags, rfl⟩
            · exact kept ()

theorem blind_expectClose (start : Nat) : Blind extra (expectClose start) := by
  refine (blind_accept _).bind fun closed => ?_
  split
  · exact blind_pure _
  · exact blind_failAt _ _

theorem blind_readExtension (start : Nat) : Blind extra (readExtension start) := by
  unfold readExtension
  extract_lets plain
  refine blind_next.bind fun t => ?_
  split
  · exact blind_fail _ _
  · refine (blind_accept _).bind fun named => ?_
    split
    · exact blind_fuel.bind fun _ => (blind_takeName _ _ _ _).bind fun name =>
        (blind_checkName name).bind fun _ => blind_pure _
    · refine (blind_accept _).bind fun referred => ?_
      split
      · exact blind_readNamedReference.bind fun _ => blind_pure _
      · refine blind_next.bind fun u => ?_
        split
        · exact blind_fail _ _
        · exact blind_fail _ _
  · exact blind_pure _
  · exact blind_fuel.bind fun _ => (blind_skipComment _ _).bind fun _ => blind_pure _
  · exact blind_pure _
  · exact blind_pure _
  · refine blind_next.bind fun u => ?_
    split
    · exact blind_fail _ _
    · exact blind_pure _
    · exact blind_pure _
    · exact blind_fail _ _
  · exact blind_readCondition.bind fun _ => blind_pure _
  · exact blind_pure _
  · split
    · refine (blind_readFlags none).bind fun flags => ?_
      split <;> exact blind_pure _
    · refine (blind_readFlags _).bind fun flags => ?_
      split <;> exact blind_pure _
    · exact blind_fail _ _

/-- Whether the text is verbose is not told by flags for case, lines and dots. -/
theorem Scan.Apart.contains_eq {s t : Scan} (apart : s.Apart extra t)
    (style : ∀ f ∈ extra, f.isStyle = true) {f : Flag} (plain : f.isStyle = false) :
    t.flags.contains f = s.flags.contains f := by
  obtain ⟨fs, flags, rfl⟩ := apart
  have absent : f ∉ extra := fun mem => by
    have := style f mem
    rw [plain] at this
    exact Bool.noConfusion this
  rw [Bool.eq_iff_iff]
  simp only [List.contains_eq_mem, decide_eq_true_eq]
  rw [flags f, or_iff_left absent]

section

variable (style : ∀ f ∈ extra, f.isStyle = true)
include style

/-- The readers that call each other are blind by induction on the fuel that they share. -/
theorem blind_readMoreChoices_succ {n : Nat}
    (nodes : ∀ verbose leading found, Blind extra (readNodes n verbose leading found))
    (more : ∀ verbose outermost, Blind extra (readMoreChoices n verbose outermost))
    (verbose outermost : Bool) : Blind extra (readMoreChoices (n + 1) verbose outermost) := by
  unfold readMoreChoices
  refine (blind_accept _).bind fun bar => ?_
  split
  · refine blind_get fun s t apart => ?_
    dsimp only
    rw [apart.contains_eq style rfl]
    exact (nodes _ _ _).bind fun _ => (more _ _).bind fun _ => blind_pure _
  · exact blind_pure _

theorem blind_readNodes_succ {n : Nat}
    (nodes : ∀ verbose leading found, Blind extra (readNodes n verbose leading found))
    (group : ∀ verbose start, Blind extra (readGroup n verbose start))
    (verbose leading : Bool) (found : List Node) :
    Blind extra (readNodes (n + 1) verbose leading found) := by
  unfold readNodes
  refine blind_peek.bind fun this => ?_
  split
  · exact blind_pure _
  · refine blind_place.bind fun start => blind_next.bind fun t => ?_
    split
    · exact (blind_readEscape _).bind fun _ => nodes _ _ _
    · split
      · exact nodes _ _ _
      · split
        · exact blind_fuel.bind fun _ => (blind_skipLine _).bind fun _ => nodes _ _ _
        · split
          · exact blind_readSet.bind fun _ => nodes _ _ _
          · split
            · refine (blind_readRepeat? _).bind fun bounds => ?_
              split
              · exact (blind_repeatLast _ _ _).bind fun _ => nodes _ _ _
              · exact nodes _ _ _
            · split
              · exact nodes _ _ _
              · split
                · exact nodes _ _ _
                · split
                  · exact nodes _ _ _
                  · split
                    · refine (group _ _).bind fun item => ?_
                      split
                      · exact nodes _ _ _
                      · exact nodes _ _ _
                      · split
                        · refine blind_get fun s t apart => ?_
                          rw [apart.contains_eq style rfl]
                          exact nodes _ _ _
                        · exact blind_failAt _ _
                    · exact nodes _ _ _
    · exact blind_pure _

end

theorem blind_readGroup_succ {n : Nat}
    (choices : ∀ verbose outermost, Blind extra (readChoices n verbose outermost))
    (nodes : ∀ verbose leading found, Blind extra (readNodes n verbose leading found))
    (verbose : Bool) (start : Nat) : Blind extra (readGroup (n + 1) verbose start) := by
  unfold readGroup
  extract_lets finish
  have opened (opening : Opening) : Blind extra (finish opening) := by
    cases opening with
    | nothing => exact blind_pure _
    | node n => exact blind_pure _
    | globalFlags => exact blind_pure _
    | look ahead negated =>
      refine blind_look (fun _ _ => rfl) fun s => ?_
      extract_lets outer looked
      have closes (body : List Node) : Blind extra (do
          expectClose start
          pure (some (some (Node.look ahead negated body)))) :=
        (blind_expectClose start).bind fun _ => blind_pure _
      have within (u : Unit) : Blind extra (looked u) := by
        refine (choices _ _).bind fun body => ?_
        dsimp only
        split
        · refine Alike.bind (blind_change ?_ ?_) fun _ => closes body
          · exact fun _ => rfl
          · exact fun _ _ => rfl
        · exact closes body
      split
      · refine Alike.bind (blind_change ?_ ?_) within
        · exact fun _ => rfl
        · exact fun _ _ => rfl
      · exact within ()
    | conditional g =>
      refine (nodes _ _ _).bind fun yes => (blind_accept _).bind fun bar => ?_
      extract_lets chosen
      have closes (no : Option (List Node)) : Blind extra (chosen no) :=
        (blind_expectClose start).bind fun _ => blind_pure _
      split
      · refine (nodes _ _ _).bind fun body => blind_peek.bind fun t => ?_
        exact blind_choose (blind_fail _ _) (blind_pure _) closes
      · exact (blind_pure _).bind closes
    | group capture atomic name added removed =>
      dsimp only [finish]
      refine blind_choose (blind_openGroup name).map (blind_pure _) fun index => ?_
      refine (choices _ _).bind fun body => (blind_expectClose start).bind fun _ => ?_
      split
      · exact (blind_closeGroup _ _).bind fun _ => blind_pure _
      · exact blind_pure _
  refine (blind_accept _).bind fun extended => ?_
  exact blind_choose (blind_readExtension start) (blind_pure _) opened

theorem blind_readChoices_succ {n : Nat}
    (nodes : ∀ verbose leading found, Blind extra (readNodes n verbose leading found))
    (more : ∀ verbose outermost, Blind extra (readMoreChoices n verbose outermost))
    (verbose outermost : Bool) : Blind extra (readChoices (n + 1) verbose outermost) := by
  unfold readChoices
  refine (nodes _ _ _).bind fun first => (more _ _).bind fun rest => ?_
  split
  · exact blind_pure _
  · exact blind_pure _

/-- The readers that call each other, by induction on the fuel that they share. -/
theorem blind_readers (style : ∀ f ∈ extra, f.isStyle = true) (n : Nat) :
    (∀ verbose outermost, Blind extra (readChoices n verbose outermost)) ∧
      (∀ verbose outermost, Blind extra (readMoreChoices n verbose outermost)) ∧
        (∀ verbose leading found, Blind extra (readNodes n verbose leading found)) ∧
          ∀ verbose start, Blind extra (readGroup n verbose start) := by
  induction n with
  | zero =>
    exact ⟨fun _ _ => blind_throw _, fun _ _ => blind_throw _, fun _ _ _ => blind_throw _,
      fun _ _ => blind_throw _⟩
  | succ n ih =>
    obtain ⟨choices, more, nodes, group⟩ := ih
    exact ⟨blind_readChoices_succ nodes more, blind_readMoreChoices_succ style nodes more,
      blind_readNodes_succ style nodes group, blind_readGroup_succ choices nodes⟩

/-- The whole text is read alike with and without flags of style. -/
theorem blind_readWhole (style : ∀ f ∈ extra, f.isStyle = true) : Blind extra readWhole := by
  refine blind_get fun s t apart => ?_
  rw [apart.contains_eq style rfl]
  obtain ⟨fs, flags, rfl⟩ := apart
  refine ((blind_readers style _).1 _ _).bind fun nodes => blind_get fun s t apart => ?_
  rw [apart.contains_eq style rfl, apart.contains_eq style rfl]
  obtain ⟨fs, flags, rfl⟩ := apart
  split
  · exact blind_throw _
  · split
    · dsimp only
      generalize s.references.find? _ = missing
      cases missing with
      | some missing => exact blind_failAt _ _
      | none => exact blind_pure _
    · exact blind_fail _ _

/-- Flags under which the same patterns pass the checks. -/
def Flags.SameTemplate (fs gs : Flags) : Prop := fs.contains .template = gs.contains .template

theorem Flags.SameTemplate.within {fs gs : Flags} (same : fs.SameTemplate gs)
    (added removed : Flags) :
    (fs.within added removed).SameTemplate (gs.within added removed) := by
  unfold Flags.SameTemplate at same ⊢
  rw [Bool.eq_iff_iff] at same ⊢
  simp only [List.contains_eq_mem, decide_eq_true_eq] at same ⊢
  rw [Flags.mem_within rfl, Flags.mem_within rfl, same]

mutual

/-- What is checked last depends on the one flag that makes a template only. -/
theorem checkNode_congr (groups : List (Option Width)) {fs gs : Flags}
    (same : fs.SameTemplate gs) (n : Node) : checkNode groups fs n = checkNode groups gs n := by
  cases n with
  | group index added removed body =>
    exact checkNodes_congr groups (same.within added removed) body
  | atomicGroup body => exact checkNodes_congr groups same body
  | look ahead negated body =>
    simp only [checkNode, checkNodes_congr groups same body]
  | conditional g yes no =>
    cases no with
    | none => simp only [checkNode, checkNodes_congr groups same yes]
    | some body =>
      simp only [checkNode, checkNodes_congr groups same yes, checkNodes_congr groups same body]
  | loop greed least most body =>
    have agree : fs.contains .template = gs.contains .template := same
    simp only [checkNode, agree, checkNodes_congr groups same body]
  | branch choices => exact checkChoices_congr groups same choices
  | _ => rfl

theorem checkNodes_congr (groups : List (Option Width)) {fs gs : Flags}
    (same : fs.SameTemplate gs) (nodes : List Node) :
    checkNodes groups fs nodes = checkNodes groups gs nodes := by
  cases nodes with
  | nil => rfl
  | cons n rest =>
    rw [checkNodes, checkNodes, checkNode_congr groups same n, checkNodes_congr groups same rest]

theorem checkChoices_congr (groups : List (Option Width)) {fs gs : Flags}
    (same : fs.SameTemplate gs) (choices : List (List Node)) :
    checkChoices groups fs choices = checkChoices groups gs choices := by
  cases choices with
  | nil => rfl
  | cons c rest =>
    rw [checkChoices, checkChoices, checkNodes_congr groups same c,
      checkChoices_congr groups same rest]

end

/-- A text is read as the same structure with flags for case, lines and dots given apart as without
them, and they come on top of the flags that the text itself sets. -/
theorem compile_style {text : List Char} {p : Pattern} (style : ∀ f ∈ extra, f.isStyle = true)
    (read : compile text extra = .ok p) :
    ∃ q, compile text [] = .ok q ∧ q.text = p.text ∧ q.groups = p.groups ∧ q.nodes = p.nodes ∧
      ∀ f, f ∈ p.flags ↔ f ∈ q.flags ∨ f ∈ extra := by
  unfold compile at read ⊢
  split at read
  · nomatch read
  · rename_i plain
    rw [if_neg plain]
    dsimp only at read ⊢
    obtain ⟨⟨nodes, s⟩, whole, read⟩ := exists_of_bind_ok read
    obtain ⟨⟨⟩, checked, made⟩ := exists_of_bind_ok read
    cases made
    have agree := blind_readWhole style ⟨text.length, text, extra, [none], [], none, []⟩
      ⟨text.length, text, [], [none], [], none, []⟩ ⟨[], fun f => by simp, rfl⟩
    rw [whole] at agree
    cases bare : readWhole.run ⟨text.length, text, [], [none], [], none, []⟩ with
    | error e =>
      rw [bare] at agree
      exact agree.elim
    | ok b =>
      rw [bare] at agree
      obtain ⟨nodes', t⟩ := b
      obtain ⟨rfl, apart⟩ := agree
      have same : s.flags.SameTemplate t.flags := (apart.contains_eq style rfl).symm
      obtain ⟨fs, flags, rfl⟩ := apart
      refine ⟨⟨String.ofList text, fs, s.groups, nodes⟩, ?_, rfl, rfl, rfl, flags⟩
      rw [checkNodes_congr s.groups same nodes] at checked
      change (checkNodes s.groups fs nodes >>= fun _ => _) = _
      rw [checked]
      rfl

end ServiceDiagram.Pattern
