import Mathlib.Data.List.Basic

namespace ServiceDiagram

variable {ε ε' α β : Type}

/-- Two steps that come to a result have come to one each. -/
theorem exists_of_bind_ok {x : Except ε α} {f : α → Except ε β} {b : β}
    (ok : (x >>= f) = .ok b) : ∃ a, x = .ok a ∧ f a = .ok b := by
  cases x with
  | error e => cases ok
  | ok a => exact ⟨a, rfl, ok⟩

theorem exists_of_map_ok {x : Except ε α} {f : α → β} {b : β} (given : x.map f = .ok b) :
    ∃ a, x = .ok a ∧ f a = b := by
  cases x with
  | error e => cases given
  | ok a => exact ⟨a, rfl, Except.ok.inj given⟩

theorem exists_of_mapError_ok {x : Except ε α} {f : ε → ε'} {a : α}
    (ok : x.mapError f = .ok a) : x = .ok a := by
  cases x with
  | error e => cases ok
  | ok a' => cases ok; rfl

/-- A list breaks off at the first item that fails. -/
theorem mapM_error_iff {f : α → Except ε β} {as : List α} {e : ε} :
    as.mapM f = .error e ↔
      ∃ before a after, as = before ++ a :: after ∧ (∀ b ∈ before, ∃ c, f b = .ok c) ∧
        f a = .error e := by
  induction as with
  | nil => simp [pure, Except.pure]
  | cons a as ih =>
    rw [List.mapM_cons]
    cases first : f a with
    | error e' =>
      constructor
      · intro failed
        cases failed
        exact ⟨[], a, as, rfl, nofun, first⟩
      · rintro ⟨before, b, after, split, sound, failed⟩
        cases before with
        | nil =>
          cases split
          cases first.symm.trans failed
          rfl
        | cons d before =>
          cases split
          obtain ⟨c, given⟩ := sound a List.mem_cons_self
          cases first.symm.trans given
    | ok c =>
      have later : (Except.ok c >>= fun b => as.mapM f >>= fun bs => pure (b :: bs)) = .error e ↔
          as.mapM f = .error e := by
        cases as.mapM f <;> simp [bind, Except.bind, pure, Except.pure]
      refine later.trans (ih.trans ⟨?_, ?_⟩)
      · rintro ⟨before, b, after, rfl, sound, failed⟩
        exact ⟨a :: before, b, after, rfl, List.forall_mem_cons.mpr ⟨⟨c, first⟩, sound⟩, failed⟩
      · rintro ⟨before, b, after, split, sound, failed⟩
        cases before with
        | nil =>
          cases split
          cases first.symm.trans failed
        | cons d before =>
          cases split
          exact ⟨before, b, after, rfl, (List.forall_mem_cons.mp sound).2, failed⟩

/-- If an item fails exactly if it is bad, a list breaks off at the first bad one. -/
theorem mapM_error_iff_find? {f : α → Except ε β} {bad : α → Bool} {fault : α → ε}
    (fails : ∀ a, bad a = true → f a = .error (fault a))
    (sound : ∀ a, bad a = false → ∃ b, f a = .ok b) {as : List α} {e : ε} :
    as.mapM f = .error e ↔ ∃ a, as.find? bad = some a ∧ e = fault a := by
  rw [mapM_error_iff]
  constructor
  · rintro ⟨before, a, after, rfl, each, failed⟩
    have isBad : bad a = true := by
      by_contra good
      obtain ⟨b, given⟩ := sound a (Bool.eq_false_iff.mpr good)
      cases given.symm.trans failed
    have isFirst : ∀ b ∈ before, (!bad b) = true := by
      intro b earlier
      cases isBad' : bad b with
      | false => rfl
      | true =>
        obtain ⟨c, given⟩ := each b earlier
        cases given.symm.trans (fails b isBad')
    cases failed.symm.trans (fails a isBad)
    exact ⟨a, List.find?_eq_some_iff_append.mpr ⟨isBad, before, after, rfl, isFirst⟩, rfl⟩
  · rintro ⟨a, found, rfl⟩
    obtain ⟨isBad, before, after, split, isFirst⟩ := List.find?_eq_some_iff_append.mp found
    exact ⟨before, a, after, split, fun b earlier => sound b (by simpa using isFirst b earlier),
      fails a isBad⟩

theorem bind_pure_error_iff {x : Except ε α} {g : α → β} {e : ε} :
    (x >>= fun a => pure (g a)) = .error e ↔ x = .error e := by
  cases x <;> simp [bind, Except.bind, pure, Except.pure]

/-- A list that is gone through in groups breaks off where all the items in a row do. -/
theorem mapM_groups_error_iff {γ δ : Type} {f : α → Except ε β} {part : γ → List α}
    (group : γ → List β → δ) {cs : List γ} {e : ε} :
    (cs.mapM fun c => (part c).mapM f >>= fun bs => pure (group c bs)) = .error e ↔
      (cs.flatMap part).mapM f = .error e := by
  induction cs with
  | nil => simp [pure, Except.pure]
  | cons c cs ih =>
    rw [List.mapM_cons, List.flatMap_cons, List.mapM_append]
    cases (part c).mapM f with
    | error e' => simp [bind, Except.bind]
    | ok bs => exact bind_pure_error_iff.trans (ih.trans bind_pure_error_iff.symm)

/-- Going through a list comes to its end exactly if every item of it comes to a result. -/
theorem mapM_ok_iff {f : α → Except ε β} {as : List α} :
    (∃ bs, as.mapM f = .ok bs) ↔ ∀ a ∈ as, ∃ b, f a = .ok b := by
  induction as with
  | nil => simp [pure, Except.pure]
  | cons a as ih =>
    rw [List.mapM_cons, List.forall_mem_cons, ← ih]
    cases f a with
    | error e => simp [bind, Except.bind]
    | ok b => cases as.mapM f <;> simp [bind, Except.bind, pure, Except.pure]

theorem mapM_of_ok {f : α → Except ε β} {g : α → β} {as : List α}
    (each : ∀ a ∈ as, f a = .ok (g a)) : as.mapM f = .ok (as.map g) := by
  induction as with
  | nil => rfl
  | cons a as ih =>
    rw [List.mapM_cons, each a List.mem_cons_self, ih fun b member => each b (.tail _ member)]
    rfl

/-- If each result tells what it came of, all of them tell the list that was gone through. -/
theorem origins_of_mapM_ok {f : α → Except ε β} {g : β → α} {as : List α} {bs : List β}
    (origin : ∀ a b, f a = .ok b → g b = a) (ok : as.mapM f = .ok bs) :
    bs.map g = as ∧ ∀ b ∈ bs, f (g b) = .ok b := by
  induction as generalizing bs with
  | nil =>
    cases ok
    exact ⟨rfl, nofun⟩
  | cons a as ih =>
    rw [List.mapM_cons] at ok
    obtain ⟨b, first, ok⟩ := exists_of_bind_ok ok
    obtain ⟨bs, rest, ok⟩ := exists_of_bind_ok ok
    cases ok
    obtain ⟨same, each⟩ := ih rest
    have here := origin a b first
    exact ⟨by rw [List.map_cons, here, same], List.forall_mem_cons.mpr ⟨here.symm ▸ first, each⟩⟩

/-- A list that is gone through comes to its end, or breaks off where an item fails. -/
theorem mapM_cases (f : α → Except ε β) (as : List α) :
    (∃ bs, as.mapM f = .ok bs ∧ ∀ a ∈ as, ∃ b, f a = .ok b) ∨
      ∃ a ∈ as, ∃ e, f a = .error e ∧ as.mapM f = .error e := by
  cases given : as.mapM f with
  | ok bs => exact .inl ⟨bs, rfl, mapM_ok_iff.mp ⟨bs, given⟩⟩
  | error e =>
    obtain ⟨before, a, after, rfl, -, failed⟩ := mapM_error_iff.mp given
    exact .inr ⟨a, List.mem_append_right before List.mem_cons_self, e, failed, rfl⟩

/-- If the items of one sort come to something and those of the other fail, a list with one of the
other sort breaks off at such an item. -/
theorem exists_of_mapM_error {f : α → Except ε β} {P : α → Prop} {g : α → β} {e : α → ε}
    {as : List α} (ok : ∀ a ∈ as, P a → f a = .ok (g a))
    (error : ∀ a ∈ as, ¬ P a → f a = .error (e a)) (breaks : ∃ a ∈ as, ¬ P a) :
    ∃ a ∈ as, ¬ P a ∧ as.mapM f = .error (e a) := by
  rcases mapM_cases f as with ⟨bs, -, each⟩ | ⟨a, member, e', failed, given⟩
  · obtain ⟨a, member, bad⟩ := breaks
    obtain ⟨b, came⟩ := each a member
    cases came.symm.trans (error a member bad)
  · have bad : ¬ P a := fun good => by cases failed.symm.trans (ok a member good)
    cases failed.symm.trans (error a member bad)
    exact ⟨a, member, bad, given⟩

end ServiceDiagram
