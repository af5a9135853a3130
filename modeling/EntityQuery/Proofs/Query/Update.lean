import EntityQuery.Proofs.Query.Setters
import EntityQuery.Proofs.Record.Library

/-!
What an update does to one record. It is refused as a whole, or each path that it names ends with the
last value that its field takes and nothing else changes. The order of setters for different paths does
not count, nor does a second run.
-/

namespace EntityQuery

variable {ε : Type} {entity : ε}

/-! ### The last accepted value -/

section LastAccepted

variable [DecidableEq ε] {storage : Storage} {p : Path ε} {s : Setter ε} {rest setters : List (Setter ε)}

/-- The last value that the setters of one path give it and its storage takes. -/
def lastAccepted (storage : Storage) (p : Path ε) (setters : List (Setter ε)) : Option Value :=
  (setters.filterMap fun s => if s.path = p then (storage.store s.value).toOption else none).getLast?

def lastStored (storage : Storage) (p : Path ε) (setters : List (Setter ε)) : Option storage.Content :=
  (setters.filterMap fun s => if s.path = p then (storage.decode s.value).toOption else none).getLast?

theorem lastAccepted_eq (storage : Storage) (p : Path ε) (setters : List (Setter ε)) :
    lastAccepted storage p setters = (lastStored storage p setters).map storage.encode := by
  unfold lastAccepted lastStored
  rw [← List.getLast?_map, List.map_filterMap]
  refine congrArg (fun f => (setters.filterMap f).getLast?) (funext fun s => ?_)
  split
  · rw [Storage.store]
    cases storage.decode s.value <;> rfl
  · rfl

theorem lastStored_cons_other (other : s.path ≠ p) :
    lastStored storage p (s :: rest) = lastStored storage p rest := by
  unfold lastStored
  rw [List.filterMap_cons, if_neg other]

theorem getD_lastStored_cons_same (same : s.path = p) (old : storage.Content) :
    (lastStored storage p (s :: rest)).getD old =
      (lastStored storage p rest).getD ((storage.decode s.value).toOption.getD old) := by
  unfold lastStored
  rw [List.filterMap_cons, if_pos same]
  cases (storage.decode s.value).toOption with
  | none => rfl
  | some x =>
    simp only [List.getLast?_cons, Option.getD_some]

theorem at?_foldl_apply_same [LayoutCatalog ε] {r : Record ε} {old : storage.Content}
    (writable : ∀ s ∈ setters, s.path.Writable entity) (also : p.Writable entity)
    (found : r.at? p.location = some (.scalar storage old)) :
    (setters.foldl Setter.apply r).at? p.location =
      some (.scalar storage ((lastStored storage p setters).getD old)) := by
  induction setters generalizing r old with
  | nil => exact found
  | cons s rest ih =>
    have tail := fun t member => writable t (List.mem_cons_of_mem s member)
    have first := writable s List.mem_cons_self
    rw [List.foldl_cons, Setter.apply_eq_assign first]
    by_cases same : s.path = p
    · rw [getD_lastStored_cons_same same, same]
      refine ih tail ?_
      rw [Record.at?_assign_same, found]
      rfl
    · have apart : s.path.location ≠ p.location := fun level => same (first.location_injective also level)
      rw [lastStored_cons_other same]
      exact ih tail ((Record.at?_assign_other apart).trans found)

end LastAccepted

namespace UpdateAction

variable {action : UpdateAction entity} {r : Record ε}

/-! ### Refusal -/

theorem apply_of_passed [Catalog ε] (passed : action.check r = .ok ()) :
    action.apply r = ⟨.ok (), action.setters.foldl Setter.apply r⟩ := by
  simp only [apply, passed]

theorem apply_of_failed [Catalog ε] {e : QueryError} (failed : action.check r = .error e) :
    action.apply r = .failed e r := by
  simp only [apply, failed]

theorem check_of_apply [Catalog ε] (done : (action.apply r).result = .ok ()) : action.check r = .ok () := by
  cases checked : action.check r with
  | ok _ => rfl
  | error e =>
    rw [apply_of_failed checked] at done
    cases done

theorem check_cases [Catalog ε] (writable : action.Writable) (r : Record ε) :
    (action.check r = .ok () ∧ ∀ s ∈ action.setters, s.path.checkReachable r = .ok ()) ∨
      action.check r = .error (.wrongKind "relation" "null") ∧
        ¬∀ s ∈ action.setters, s.path.checkReachable r = .ok () := by
  cases checked : action.check r with
  | ok _ => exact Or.inl ⟨rfl, forM_ok_iff.mp checked⟩
  | error e =>
    obtain ⟨before, s, rest, split, -, failed⟩ := forM_error_iff.mp checked
    have member : s ∈ action.setters := by
      rw [split]
      exact List.mem_append_right _ List.mem_cons_self
    refine Or.inr ⟨?_, ?_⟩
    · rw [Path.checkAlong_error_of_single (writable s member).single failed]
    · intro all
      rw [all s member] at failed
      cases failed

/-! ### One update -/

section Entities

variable [LayoutCatalog ε]

/-- What an update leaves of a record: every path that it names reads the last value that its storage
takes of the setters for it, or its old value if there is none, and what lies anywhere else is as it was. -/
structure Rewrites [DecidableEq ε] (action : UpdateAction entity) (before after : Record ε) : Prop where
  named : ∀ s ∈ action.setters, ∃ storage old,
    (LayoutCatalog.layout s.path.owner).fields.lookup s.path.leaf.name = some (.scalar storage) ∧
      s.path.read before = [old] ∧
      s.path.read after = [(lastAccepted storage s.path action.setters).getD old]
  others : ∀ l, (∀ s ∈ action.setters, s.path.location ≠ l) → after.at? l = before.at? l

theorem rewrites_of_check [DecidableEq ε] (writable : action.Writable) (fits : Record.Fits entity r)
    (passed : action.check r = .ok ()) : action.Rewrites r (action.setters.foldl Setter.apply r) := by
  refine ⟨?_, fun l unnamed => Setter.at?_foldl_apply_other writable unnamed r⟩
  intro s member
  have along := (writable s member).singleAlong fits
  rcases (writable s member).at?_location fits with ⟨storage, old, laid, found, -⟩ | ⟨-, failed⟩
  · refine ⟨storage, storage.encode old, laid, Path.readAlong_of_at? along found, ?_⟩
    rw [lastAccepted_eq, Option.getD_map]
    exact Path.readAlong_of_at? (Setter.singleAlong_foldl_apply writable along)
      (at?_foldl_apply_same writable (writable s member) found)
  · rw [forM_ok_iff.mp passed s member] at failed
    cases failed

/-- A check fails with the error of the first setter whose path is not reachable. -/
theorem check_error_iff (writable : action.Writable) (fits : Record.Fits entity r) {e : QueryError} :
    action.check r = .error e ↔ ∃ before s rest, action.setters = before ++ s :: rest ∧
      (∀ t ∈ before, t.path.ReachableOn r) ∧ ¬s.path.ReachableOn r ∧
        s.path.checkReachable r = .error e := by
  have reachable : ∀ s ∈ action.setters, (s.path.checkReachable r = .ok () ↔ s.path.ReachableOn r) :=
    fun s member => (writable s member).checkReachable_iff fits
  refine forM_error_iff.trans ⟨?_, ?_⟩
  · rintro ⟨before, s, rest, split, passed, failed⟩
    rw [split] at reachable
    refine ⟨before, s, rest, split, fun t member => ?_, fun reached => ?_, failed⟩
    · exact (reachable t (List.mem_append_left _ member)).mp (passed t member)
    · rw [(reachable s (List.mem_append_right _ List.mem_cons_self)).mpr reached] at failed
      cases failed
  · rintro ⟨before, s, rest, split, passed, -, failed⟩
    rw [split] at reachable
    exact ⟨before, s, rest, split,
      fun t member => (reachable t (List.mem_append_left _ member)).mpr (passed t member), failed⟩

theorem check_ok_iff (writable : action.Writable) (fits : Record.Fits entity r) :
    action.check r = .ok () ↔ ∀ s ∈ action.setters, s.path.ReachableOn r := by
  refine forM_ok_iff.trans ⟨?_, ?_⟩
  · exact fun passed s member => ((writable s member).checkReachable_iff fits).mp (passed s member)
  · exact fun all s member => ((writable s member).checkReachable_iff fits).mpr (all s member)

/-- An update is refused exactly if the path of some setter is not reachable, with the error of the
first such setter, and then the record is as before. Otherwise it leaves the last accepted value at
each path that it names and changes nothing else. -/
theorem apply_writes_last_accepted [DecidableEq ε] (built : action.Built) (fits : Record.Fits entity r) :
    ((∃ e, (action.apply r).result = .error e) ↔ ∃ s ∈ action.setters, ¬s.path.ReachableOn r) ∧
    (∀ e, (action.apply r).result = .error e → (action.apply r).after = r ∧
      ∃ before s rest, action.setters = before ++ s :: rest ∧ (∀ t ∈ before, t.path.ReachableOn r) ∧
        ¬s.path.ReachableOn r ∧ s.path.checkReachable r = .error e) ∧
    ((action.apply r).result = .ok () → action.Rewrites r (action.apply r).after) := by
  have writable := built.writable
  have passes := check_ok_iff writable fits
  cases checked : action.check r with
  | ok _ =>
    have all := passes.mp checked
    rw [apply_of_passed checked]
    refine ⟨⟨nofun, ?_⟩, nofun, fun _ => rewrites_of_check writable fits checked⟩
    rintro ⟨s, member, missing⟩
    exact absurd (all s member) missing
  | error e =>
    rw [apply_of_failed checked]
    obtain ⟨before, s, rest, split, reached, missing, failed⟩ := (check_error_iff writable fits).mp checked
    have member : s ∈ action.setters := split ▸ List.mem_append_right _ List.mem_cons_self
    refine ⟨⟨fun _ => ⟨s, member, missing⟩, fun _ => ⟨e, rfl⟩⟩, ?_, nofun⟩
    intro e' refused
    cases refused
    exact ⟨rfl, before, s, rest, split, reached, missing, failed⟩

end Entities

end UpdateAction

namespace Library

def titleOf : Path Library :=
  ⟨book, [], ⟨"title", .string, false⟩⟩

def pagesOf : Path Library :=
  ⟨book, [], ⟨"pages", .uint, false⟩⟩

/-- The name is given twice, and the rating cannot be read as a number. -/
def corrections : UpdateAction book :=
  ⟨[⟨nameOfAuthor, .string "Bo"⟩, ⟨nameOfAuthor, .string "Bob"⟩,
    ⟨⟨book, [authorOfBook], ⟨"rating", .float, false⟩⟩, .string "high"⟩]⟩

theorem corrections_built : corrections.Built := by
  have flat : Json.flatten [("author", .object [("Name", .string "Bo"), ("name", .string "Bob"),
      ("rating", .string "high")])] = [("author.Name", .string "Bo"), ("author.name", .string "Bob"),
      ("author.rating", .string "high")] := by
    simp [Json.flatten, Json.flattenUnder]
  have read : UpdateAction.ofMembers {} [("author", .object [("Name", .string "Bo"),
      ("name", .string "Bob"), ("rating", .string "high")])] = .ok corrections := by
    unfold UpdateAction.ofMembers
    rw [flat]
    rfl
  exact .ofJson (show UpdateAction.ofJson {} (.object _) = _ from read)

def bookOfAnn : Record Library :=
  newBookBy "Emma" 120 (newAuthor 1 "Ann" (.ofInt 4) [])

theorem bookOfAnn_fits : Record.Fits book bookOfAnn :=
  newBookBy_fits _ _ (newAuthor_fits _ _ _ nofun)

theorem corrections_of_book : corrections.Built ∧ Record.Fits book bookOfAnn ∧
    (corrections.apply bookOfAnn).result = .ok () ∧
    corrections.Rewrites bookOfAnn (corrections.apply bookOfAnn).after ∧
    nameOfAuthor.read (corrections.apply bookOfAnn).after = [.string "Bob"] :=
  ⟨corrections_built, bookOfAnn_fits, rfl,
    (UpdateAction.apply_writes_last_accepted corrections_built bookOfAnn_fits).2.2 rfl, rfl⟩

end Library

/-! ### Order and repetition -/

namespace UpdateAction

variable [LayoutCatalog ε] {action permuted : UpdateAction entity}

theorem check_perm (writable : action.Writable) (perm : permuted.setters.Perm action.setters) (r : Record ε) :
    permuted.check r = action.check r := by
  have also : permuted.Writable := fun s member => writable s (perm.mem_iff.mp member)
  rcases check_cases also r with ⟨here, all⟩ | ⟨here, some⟩ <;>
    rcases check_cases writable r with ⟨there, all'⟩ | ⟨there, some'⟩
  · rw [here, there]
  · exact absurd (fun s member => all s (perm.mem_iff.mpr member)) some'
  · exact absurd (fun s member => all' s (perm.mem_iff.mp member)) some
  · rw [here, there]

theorem apply_perm (writable : action.Writable) (distinct : (action.setters.map (·.path)).Nodup)
    (perm : permuted.setters.Perm action.setters) (r : Record ε) : permuted.apply r = action.apply r := by
  have same := check_perm writable perm r
  cases checked : action.check r with
  | ok _ =>
    rw [apply_of_passed checked, apply_of_passed (same.trans checked),
      Setter.foldl_apply_perm writable distinct perm]
  | error e => rw [apply_of_failed checked, apply_of_failed (same.trans checked)]

theorem check_after_apply (writable : action.Writable) (r : Record ε) :
    action.check (action.setters.foldl Setter.apply r) = action.check r := by
  unfold check
  exact congrArg (action.setters.forM ·)
    (funext fun s => Setter.checkAlong_foldl_apply writable s.path.relations r)

/-- Setters of different paths can be put in any order, and what an update has done to a record it can
do again without changing anything. -/
theorem apply_permuted_and_repeated [DecidableEq ε] (built : action.Built) (r : Record ε) :
    ((action.setters.map (·.path)).Nodup → ∀ permuted : UpdateAction entity,
      permuted.setters.Perm action.setters → permuted.apply r = action.apply r) ∧
    ((action.apply r).result = .ok () →
      action.apply (action.apply r).after = ⟨.ok (), (action.apply r).after⟩) := by
  have writable := built.writable
  refine ⟨fun distinct permuted perm => apply_perm writable distinct perm r, fun done => ?_⟩
  have passed := check_of_apply done
  have again := (check_after_apply writable r).trans passed
  rw [apply_of_passed passed, apply_of_passed again, Setter.foldl_apply_foldl_apply writable]

end UpdateAction

namespace Library

def nameOf : Path Library :=
  ⟨author, [], ⟨"name", .string, false⟩⟩

def ratingOf : Path Library :=
  ⟨author, [], ⟨"rating", .float, false⟩⟩

def best : Value :=
  .number (.float (.ofInt 5))

def promotion : UpdateAction author :=
  ⟨[⟨nameOf, .string "Bo"⟩, ⟨ratingOf, best⟩]⟩

theorem promotion_built : promotion.Built := by
  have named : ({} : UpdateAction author).set "name" (.string "Bo") =
      .ok ⟨[⟨nameOf, .string "Bo"⟩]⟩ := rfl
  have rated : (⟨[⟨nameOf, .string "Bo"⟩]⟩ : UpdateAction author).set "rating" best =
      .ok promotion := rfl
  exact .set (.set .empty named) rated

def promotionSwapped : UpdateAction author :=
  ⟨[⟨ratingOf, best⟩, ⟨nameOf, .string "Bo"⟩]⟩

theorem promotion_either_way : promotion.Built ∧ (promotion.setters.map (·.path)).Nodup ∧
    promotionSwapped.setters.Perm promotion.setters ∧
    promotionSwapped.apply (newAuthor 1 "Ann" (.ofInt 4) []) =
      promotion.apply (newAuthor 1 "Ann" (.ofInt 4) []) ∧
    corrections.Built ∧ (corrections.apply bookOfAnn).result = .ok () ∧
    corrections.apply (corrections.apply bookOfAnn).after =
      ⟨.ok (), (corrections.apply bookOfAnn).after⟩ := by
  have distinct : (promotion.setters.map (·.path)).Nodup := by decide
  have perm : promotionSwapped.setters.Perm promotion.setters := List.Perm.swap _ _ _
  exact ⟨promotion_built, distinct, perm,
    (UpdateAction.apply_permuted_and_repeated promotion_built _).1 distinct _ perm,
    corrections_built, rfl, (UpdateAction.apply_permuted_and_repeated corrections_built _).2 rfl⟩

end Library

end EntityQuery
