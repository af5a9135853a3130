import Mathlib.Data.List.Induction
import Mathlib.Data.List.Perm.Basic

/-! What a computation has gone through when it ends, well or not. -/

namespace EntityQuery

variable {E α β : Type}

theorem bind_ok {x : Except E α} {f : α → Except E β} {b : β}
    (done : x >>= f = .ok b) : ∃ a, x = .ok a ∧ f a = .ok b := by
  cases x with
  | error e => cases done
  | ok a => exact ⟨a, rfl, done⟩

theorem bind_error {x : Except E α} {f : α → Except E β} {e : E}
    (failed : x >>= f = .error e) : x = .error e ∨ ∃ a, x = .ok a ∧ f a = .error e := by
  cases x with
  | error e =>
    cases failed
    exact Or.inl rfl
  | ok a => exact Or.inr ⟨a, rfl, failed⟩

theorem bind_of_error {x : Except E α} {e : E} (failed : x = .error e)
    (f : α → Except E β) : x >>= f = .error e := by
  rw [failed]
  rfl

theorem mapM_ok {f : α → Except E β} {as : List α} {bs : List β} (done : as.mapM f = .ok bs) :
    ∀ b ∈ bs, ∃ a ∈ as, f a = .ok b := by
  induction as generalizing bs with
  | nil =>
    cases done
    exact nofun
  | cons a rest ih =>
    rw [List.mapM_cons] at done
    obtain ⟨first, found, done⟩ := bind_ok done
    obtain ⟨others, tail, done⟩ := bind_ok done
    cases done
    intro b member
    rcases List.mem_cons.mp member with rfl | member
    · exact ⟨a, List.mem_cons_self, found⟩
    · obtain ⟨a', present, found⟩ := ih tail b member
      exact ⟨a', List.mem_cons_of_mem _ present, found⟩

theorem mapM_ok_iff {f : α → Except E β} {as : List α} {bs : List β} :
    as.mapM f = .ok bs ↔ List.Forall₂ (fun a b => f a = .ok b) as bs := by
  induction as generalizing bs with
  | nil =>
    rw [List.mapM_nil, List.forall₂_nil_left_iff]
    exact ⟨fun done => (Except.ok.inj done).symm, fun none => none ▸ rfl⟩
  | cons a rest ih =>
    rw [List.mapM_cons, List.forall₂_cons_left_iff]
    constructor
    · intro done
      obtain ⟨b, first, done⟩ := bind_ok done
      obtain ⟨others, tail, done⟩ := bind_ok done
      exact ⟨b, others, first, ih.mp tail, (Except.ok.inj done).symm⟩
    · rintro ⟨b, others, first, tail, rfl⟩
      rw [first, ih.mpr tail]
      rfl

theorem mapM_succeeds_iff {f : α → Except E β} {as : List α} :
    (∃ bs, as.mapM f = .ok bs) ↔ ∀ a ∈ as, ∃ b, f a = .ok b := by
  induction as with
  | nil => exact ⟨fun _ => nofun, fun _ => ⟨[], rfl⟩⟩
  | cons a rest ih =>
    rw [List.forall_mem_cons, ← ih]
    constructor
    · rintro ⟨bs, done⟩
      obtain ⟨b, others, first, tail, -⟩ := List.forall₂_cons_left_iff.mp (mapM_ok_iff.mp done)
      exact ⟨⟨b, first⟩, others, mapM_ok_iff.mpr tail⟩
    · rintro ⟨⟨b, first⟩, others, tail⟩
      exact ⟨b :: others, mapM_ok_iff.mpr (.cons first (mapM_ok_iff.mp tail))⟩

theorem any_of_mapM {f : α → Except E β} {g : β → Bool} {h : α → Bool} {as : List α}
    {bs : List β} (agree : ∀ a ∈ as, ∀ b, f a = .ok b → g b = h a) (done : as.mapM f = .ok bs) :
    bs.any g = as.any h := by
  have run := mapM_ok_iff.mp done
  clear done
  induction run with
  | nil => rfl
  | cons first _ ih =>
    rw [List.forall_mem_cons] at agree
    rw [List.any_cons, List.any_cons, agree.1 _ first, ih agree.2]

theorem mapM_perm {f : α → Except E β} {as permuted : List α} {bs : List β}
    (perm : permuted.Perm as) (done : as.mapM f = .ok bs) :
    ∃ bs', permuted.mapM f = .ok bs' ∧ bs'.Perm bs := by
  obtain ⟨bs', run, same⟩ := List.perm_comp_forall₂ perm (mapM_ok_iff.mp done)
  exact ⟨bs', mapM_ok_iff.mpr run, same⟩

theorem filterMap_of_mapM {γ : Type} {f : α → Except E β} {g : β → Option γ} {h : α → Option γ}
    {as : List α} {bs : List β} (agree : ∀ a b, f a = .ok b → g b = h a) (done : as.mapM f = .ok bs) :
    bs.filterMap g = as.filterMap h := by
  have run := mapM_ok_iff.mp done
  clear done
  induction run with
  | nil => rfl
  | cons first _ ih => rw [List.filterMap_cons, List.filterMap_cons, agree _ _ first, ih]

theorem mapM_ok_of_ok {f g : α → Except E β} {as : List α} {bs : List β}
    (agree : ∀ a ∈ as, ∀ b, f a = .ok b → g a = .ok b) (done : as.mapM f = .ok bs) :
    as.mapM g = .ok bs := by
  induction as generalizing bs with
  | nil => exact done
  | cons a rest ih =>
    rw [List.forall_mem_cons] at agree
    rw [List.mapM_cons] at done ⊢
    obtain ⟨first, found, done⟩ := bind_ok done
    obtain ⟨others, tail, done⟩ := bind_ok done
    rw [agree.1 first found, ih agree.2 tail]
    exact done

/-- A run of steps fails with the error of the first one that fails. -/
theorem mapM_error_iff {f : α → Except E β} {as : List α} {e : E} :
    as.mapM f = .error e ↔
      ∃ before a rest, as = before ++ a :: rest ∧ (∀ b ∈ before, ∀ e, f b ≠ .error e) ∧
        f a = .error e := by
  induction as with
  | nil => exact ⟨nofun, fun ⟨_, _, _, split, _⟩ => by simp at split⟩
  | cons a rest ih =>
    rw [List.mapM_cons]
    constructor
    · intro failed
      rcases bind_error failed with failed | ⟨b, done, failed⟩
      · exact ⟨[], a, rest, rfl, nofun, failed⟩
      rcases bind_error failed with failed | ⟨bs, -, failed⟩
      · obtain ⟨before, c, others, rfl, passed, failed⟩ := ih.mp failed
        refine ⟨a :: before, c, others, rfl, List.forall_mem_cons.mpr ⟨?_, passed⟩, failed⟩
        intro e failed
        rw [done] at failed
        cases failed
      · cases failed
    · rintro ⟨before, c, others, split, passed, failed⟩
      cases before with
      | nil =>
        cases split
        exact bind_of_error failed _
      | cons b more =>
        cases split
        rw [List.forall_mem_cons] at passed
        cases done : f a with
        | error e' => exact absurd done (passed.1 e')
        | ok d =>
          rw [ih.mpr ⟨more, c, others, rfl, passed.2, failed⟩]
          rfl

theorem foldlM_keeps {Keeps : β → Prop} {f : β → α → Except E β} {as : List α} {start last : β}
    (begins : Keeps start) (step : ∀ a ∈ as, ∀ b next, Keeps b → f b a = .ok next → Keeps next)
    (done : as.foldlM f start = .ok last) : Keeps last := by
  induction as generalizing start with
  | nil =>
    cases done
    exact begins
  | cons a rest ih =>
    rw [List.foldlM_cons] at done
    obtain ⟨next, first, done⟩ := bind_ok done
    exact ih (step a List.mem_cons_self start next begins first)
      (fun a member => step a (List.mem_cons_of_mem _ member)) done

theorem foldlM_concat (f : β → α → Except E β) (as : List α) (a : α) (start : β) :
    (as ++ [a]).foldlM f start = as.foldlM f start >>= fun b => f b a := by
  rw [List.foldlM_append]
  simp only [List.foldlM_cons, List.foldlM_nil, bind_pure]

/-- A run of steps fails with the error of the first one that fails, after those before it ended well. -/
theorem foldlM_error_iff {f : β → α → Except E β} {as : List α} {start : β} {e : E} :
    as.foldlM f start = .error e ↔
      ∃ before a rest b, as = before ++ a :: rest ∧ before.foldlM f start = .ok b ∧ f b a = .error e := by
  induction as generalizing start with
  | nil => exact ⟨nofun, fun ⟨_, _, _, _, split, _⟩ => by simp at split⟩
  | cons a rest ih =>
    rw [List.foldlM_cons]
    constructor
    · intro failed
      rcases bind_error failed with failed | ⟨next, first, failed⟩
      · exact ⟨[], a, rest, start, rfl, rfl, failed⟩
      · obtain ⟨before, c, others, b, rfl, run, failed⟩ := ih.mp failed
        refine ⟨a :: before, c, others, b, rfl, ?_, failed⟩
        rw [List.foldlM_cons, first]
        exact run
    · rintro ⟨before, c, others, b, split, run, failed⟩
      cases before with
      | nil =>
        cases split
        cases run
        exact bind_of_error failed _
      | cons _ more =>
        cases split
        rw [List.foldlM_cons] at run
        obtain ⟨next, first, run⟩ := bind_ok run
        rw [first]
        exact ih.mpr ⟨more, c, others, b, rfl, run, failed⟩

/-- What holds of the notes taken so far and of where the steps led to, and is carried on by each further step
and its note, holds of a whole run. -/
theorem foldlM_noted {γ : Type} (Follows : List γ → β → Prop) {f : β → α → Except E β}
    {note : α → Option γ} {as : List α} {start last : β} (begins : Follows [] start)
    (step : ∀ notes a b next, Follows notes b → f b a = .ok next → Follows (notes ++ (note a).toList) next)
    (done : as.foldlM f start = .ok last) : Follows (as.filterMap note) last := by
  induction as using List.reverseRecOn generalizing last with
  | nil =>
    cases done
    exact begins
  | append_singleton as a ih =>
    rw [foldlM_concat] at done
    obtain ⟨b, run, ended⟩ := bind_ok done
    have more : [a].filterMap note = (note a).toList := by
      rw [List.filterMap_cons]
      cases note a <;> rfl
    rw [List.filterMap_append, more]
    exact step _ a b last (ih run) ended

theorem foldlM_of_steps {f : β → α → Except E β} {g : β → α → β} {as : List α}
    (steps : ∀ a ∈ as, ∀ b, f b a = .ok (g b a)) (start : β) :
    as.foldlM f start = .ok (as.foldl g start) := by
  induction as generalizing start with
  | nil => rfl
  | cons a rest ih =>
    rw [List.forall_mem_cons] at steps
    rw [List.foldlM_cons, steps.1]
    exact ih steps.2 _

theorem forM_ok_iff {f : α → Except E Unit} {as : List α} :
    as.forM f = .ok () ↔ ∀ a ∈ as, f a = .ok () := by
  rw [List.forM_eq_forM]
  induction as with
  | nil => exact ⟨fun _ => nofun, fun _ => rfl⟩
  | cons a rest ih =>
    rw [List.forM_cons, List.forall_mem_cons, ← ih]
    cases f a with
    | error e => exact ⟨nofun, fun all => nomatch all.1⟩
    | ok _ => exact ⟨fun done => ⟨rfl, done⟩, fun all => all.2⟩

theorem forM_error_iff {f : α → Except E Unit} {as : List α} {e : E} :
    as.forM f = .error e ↔
      ∃ before a rest, as = before ++ a :: rest ∧ (∀ b ∈ before, f b = .ok ()) ∧ f a = .error e := by
  rw [List.forM_eq_forM]
  induction as with
  | nil => exact ⟨nofun, fun ⟨_, _, _, split, _⟩ => by simp at split⟩
  | cons a rest ih =>
    rw [List.forM_cons]
    cases checked : f a with
    | error e' =>
      refine ⟨fun failed => ⟨[], a, rest, rfl, nofun, checked.trans failed⟩, ?_⟩
      rintro ⟨before, b, others, split, passed, failed⟩
      cases before with
      | nil =>
        cases split
        exact checked.symm.trans failed
      | cons b' more =>
        cases split
        rw [passed _ List.mem_cons_self] at checked
        cases checked
    | ok _ =>
      refine ih.trans ⟨?_, ?_⟩
      · rintro ⟨before, b, others, rfl, passed, failed⟩
        exact ⟨a :: before, b, others, rfl, List.forall_mem_cons.mpr ⟨checked, passed⟩, failed⟩
      · rintro ⟨before, b, others, split, passed, failed⟩
        cases before with
        | nil =>
          cases split
          rw [failed] at checked
          cases checked
        | cons b' more =>
          cases split
          exact ⟨more, b, others, rfl, fun c member => passed c (List.mem_cons_of_mem _ member), failed⟩

theorem map_ok {x : Except E α} {f : α → β} {b : β} (done : x.map f = .ok b) :
    ∃ a, x = .ok a ∧ f a = b := by
  cases x with
  | error e => cases done
  | ok a => exact ⟨a, rfl, Except.ok.inj done⟩

theorem map_error_iff {x : Except E α} {f : α → β} {e : E} :
    x.map f = .error e ↔ x = .error e := by
  cases x with
  | error e' => exact ⟨fun failed => Except.error.inj failed ▸ rfl, fun failed => Except.error.inj failed ▸ rfl⟩
  | ok a => exact ⟨nofun, nofun⟩

theorem map_succeeds_iff {x : Except E α} {f : α → β} :
    (∃ b, x.map f = .ok b) ↔ ∃ a, x = .ok a := by
  constructor
  · rintro ⟨b, done⟩
    obtain ⟨a, found, -⟩ := map_ok done
    exact ⟨a, found⟩
  · rintro ⟨a, found⟩
    exact ⟨f a, congrArg (Except.map f) found⟩

end EntityQuery
