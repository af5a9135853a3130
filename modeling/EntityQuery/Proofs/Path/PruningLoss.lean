import EntityQuery.Proofs.Path.Pruning
import EntityQuery.Proofs.Query.Construction
import Mathlib.Data.List.Flatten

/-!
What a pruning loses. A record that passes is lost only along with a rejected one, where both lie in a list that
may be absent as a whole: the container of such a list is emptied as soon as one of its records is rejected.
-/

namespace EntityQuery

variable {ε : Type}

/-! ### Lists -/

/-- Where each part is no longer than its counterpart, all of them together are as long only if each is. -/
theorem flatMap_sublist_flatMap_iff {α β : Type} {f g : α → List β} {as : List α}
    (shorter : ∀ a ∈ as, (g a).Sublist (f a)) :
    (as.flatMap f).Sublist (as.flatMap g) ↔ ∀ a ∈ as, f a = g a := by
  constructor
  · intro kept
    have others := List.Sublist.flatMap_right as shorter
    have same := kept.length_le
    clear kept
    induction as with
    | nil => exact nofun
    | cons a rest ih =>
      obtain ⟨here, later⟩ := List.forall_mem_cons.mp shorter
      have tail := List.Sublist.flatMap_right rest later
      rw [List.flatMap_cons, List.flatMap_cons, List.length_append, List.length_append] at same
      have lengths := here.length_le
      have lengths' := tail.length_le
      refine List.forall_mem_cons.mpr ⟨?_, ih later tail (by omega)⟩
      exact (here.eq_of_length (by omega)).symm
  · intro same
    exact List.Sublist.flatMap_right as fun a member => same a member ▸ List.Sublist.refl _

/-! ### Containers -/

def ContainerType.several : ContainerType → Bool
  | single => false
  | list => true
  | optional inner => inner.several

theorem ContainerType.Holds.length_le_one {type : ContainerType} {c : Container ε} (held : type.Holds c)
    (one : type.several = false) : c.records.length ≤ 1 := by
  induction type generalizing c with
  | single =>
    cases c with
    | single => exact Nat.le_refl 1
    | _ => exact held.elim
  | list => cases one
  | optional inner ih =>
    cases c with
    | absent => exact Nat.zero_le 1
    | present c => exact ih (c := c) held one
    | _ => exact held.elim

/-- Whether a relation shows a record that passes and is emptied all the same, because it holds another one that
is rejected. -/
def Record.LosesAll (r : Record ε) (name : String) (keep : Record ε → Bool) : Prop :=
  ∃ kind inner, r.cell? name = some (.relation kind (.present inner)) ∧
    (∃ q ∈ kind.shown inner.records, keep q = true) ∧ ∃ q ∈ inner.records, keep q = false

namespace Record

variable {r : Record ε} {name : String} {kind : RelationKind} {type : ContainerType} {c : Container ε}
  {keep : Record ε → Bool}

theorem not_losesAll_of_other (keep : Record ε → Bool) (found : r.cell? name = some (.relation kind c))
    (other : ∀ inner, c ≠ .present inner) : ¬r.LosesAll name keep := by
  rintro ⟨_, inner, also, -⟩
  rw [found] at also
  cases also
  exact other inner rfl

/-- Only an optional list can be emptied with records that pass. -/
theorem LosesAll.several (loses : r.LosesAll name keep) (found : r.cell? name = some (.relation kind c))
    (held : type.Holds c) : type.isOptional = true ∧ type.several = true := by
  obtain ⟨_, inner, also, ⟨q, shown, passes⟩, q', member, rejected⟩ := loses
  rw [found] at also
  cases also
  cases type with
  | single => exact held.elim
  | list => exact held.elim
  | optional sort =>
    refine ⟨rfl, ?_⟩
    cases several : sort.several with
    | true => exact several
    | false =>
      -- The only record cannot pass and be rejected.
      have few := ContainerType.Holds.length_le_one (show sort.Holds inner from held) several
      have present := RelationKind.mem_of_shown shown
      obtain ⟨only, alone⟩ := List.length_eq_one_iff.mp (Nat.le_antisymm few (List.length_pos_of_mem member))
      rw [alone, List.mem_singleton] at present member
      rw [present] at passes
      rw [member, passes] at rejected
      cases rejected

theorem filter_shown_sublist (held : type.Holds c) (always : type.isOptional = false) (kind : RelationKind) :
    ((kind.shown c.records).filter keep).Sublist (kind.shown (c.retain keep).records) := by
  cases c with
  | single r => exact List.filter_sublist
  | list rs =>
    cases kind with
    | many => exact List.Sublist.refl _
    | one =>
      cases rs with
      | nil => exact List.Sublist.slnil
      | cons q rest =>
        cases passes : keep q <;> simp [RelationKind.shown, Container.retain, Container.records, passes]
  | absent =>
    cases type with
    | optional => cases always
    | _ => exact held.elim
  | present =>
    cases type with
    | optional => cases always
    | _ => exact held.elim

theorem shown_retain_present (kind : RelationKind) (inner : Container ε) :
    kind.shown ((Container.present inner).retain keep).records =
      if inner.records.all keep then kind.shown inner.records else [] := by
  rw [Container.retain]
  split
  · rfl
  · cases kind <;> rfl

/-- An optional container shows what passes of its records, unless it shows nothing any more. -/
theorem shown_retain_optional (found : r.cell? name = some (.relation kind c)) (held : type.Holds c)
    (may : type.isOptional = true) :
    (kind.shown (c.retain keep).records).Sublist ((kind.shown c.records).filter keep) ∧
      ((kind.shown c.records).filter keep = kind.shown (c.retain keep).records ↔ ¬r.LosesAll name keep) := by
  cases c with
  | single =>
    cases type with
    | optional => exact held.elim
    | _ => cases may
  | list =>
    cases type with
    | optional => exact held.elim
    | _ => cases may
  | absent =>
    have safe := not_losesAll_of_other keep found nofun
    cases kind <;> exact ⟨List.Sublist.refl _, fun _ => safe, fun _ => rfl⟩
  | present inner =>
    rw [shown_retain_present, Container.records]
    split
    · rename_i all
      rw [List.all_eq_true] at all
      have every : (kind.shown inner.records).filter keep = kind.shown inner.records :=
        List.filter_eq_self.mpr fun q shown => all q (RelationKind.mem_of_shown shown)
      rw [every]
      refine ⟨List.Sublist.refl _, fun _ => ?_, fun _ => rfl⟩
      rintro ⟨_, _, also, -, q, member, rejected⟩
      rw [found] at also
      cases also
      rw [all q member] at rejected
      cases rejected
    · rename_i some
      obtain ⟨q', member, rejected⟩ : ∃ q ∈ inner.records, keep q = false := by simpa using some
      refine ⟨List.nil_sublist _, ?_⟩
      rw [List.filter_eq_nil_iff]
      constructor
      · rintro none ⟨_, _, also, ⟨q, shown, passes⟩, -⟩
        rw [found] at also
        cases also
        exact none q shown passes
      · intro safe q shown passes
        exact safe ⟨kind, inner, found, ⟨q, shown, passes⟩, q', member, rejected⟩

end Record

/-! ### Paths -/

namespace Path

variable [LayoutCatalog ε] {entity owner target : ε} {kind : RelationKind} {type : ContainerType} {p : Path ε}
  {keep : Record ε → Bool} {r o : Record ε}

theorem leaf_laid (reaches : p.Reaches entity owner) (leads : p.type.target? = some target) :
    ∃ kind type, (LayoutCatalog.layout owner).fields.lookup p.leaf.name =
      some (.relation kind type target) := by
  obtain ⟨name, found⟩ := reaches.leaf
  obtain ⟨backing, laid, described⟩ := Layout.lookup_of_field? found
  rw [Path.type, ← described] at leads
  cases backing with
  | scalar => simp [Backing.field] at leads
  | relation kind type _ =>
    simp only [Backing.field, RelationKind.target?_fieldType, Option.some.injEq] at leads
    exact ⟨kind, type, leads ▸ laid⟩

theorem leaf_cell (reaches : p.Reaches entity owner)
    (laid : (LayoutCatalog.layout owner).fields.lookup p.leaf.name = some (.relation kind type target))
    (fits : Record.Fits entity r) (member : o ∈ recordsAlong p.relations r) :
    ∃ c, o.cell? p.leaf.name = some (.relation kind c) ∧ type.Holds c := by
  obtain ⟨name, found⟩ := reaches.leaf
  exact (recordsAlong_fits reaches.leads fits o member).relation_of_laid found laid

omit [LayoutCatalog ε] in
theorem filter_records_eq (keep : Record ε → Bool) (p : Path ε) (r : Record ε) :
    (p.records r).filter keep =
      (recordsAlong p.relations r).flatMap fun o => (o.get p.leaf.name).records.filter keep := by
  rw [records_eq, List.filter_flatMap]

theorem accepted_left_of_always (reaches : p.Reaches entity owner)
    (laid : (LayoutCatalog.layout owner).fields.lookup p.leaf.name = some (.relation kind type target))
    (fits : Record.Fits entity r) (always : type.isOptional = false) :
    ((p.records r).filter keep).Sublist (p.records (p.retain keep r)) := by
  rw [records_retain reaches fits, filter_records_eq]
  refine List.Sublist.flatMap_right _ fun o member => ?_
  obtain ⟨c, lies, held⟩ := leaf_cell reaches laid fits member
  rw [Record.get_records lies, Record.get_retainRelated lies]
  exact Record.filter_shown_sublist held always kind

theorem accepted_left_iff_of_optional (reaches : p.Reaches entity owner)
    (laid : (LayoutCatalog.layout owner).fields.lookup p.leaf.name = some (.relation kind type target))
    (fits : Record.Fits entity r) (may : type.isOptional = true) :
    ((p.records r).filter keep).Sublist (p.records (p.retain keep r)) ↔
      ∀ o ∈ recordsAlong p.relations r, ¬o.LosesAll p.leaf.name keep := by
  have each : ∀ o ∈ recordsAlong p.relations r,
      (((o.retainRelated p.leaf.name keep).get p.leaf.name).records.Sublist
        ((o.get p.leaf.name).records.filter keep)) ∧
      ((o.get p.leaf.name).records.filter keep =
        ((o.retainRelated p.leaf.name keep).get p.leaf.name).records ↔ ¬o.LosesAll p.leaf.name keep) := by
    intro o member
    obtain ⟨c, lies, held⟩ := leaf_cell reaches laid fits member
    rw [Record.get_records lies, Record.get_retainRelated lies]
    exact Record.shown_retain_optional lies held may
  rw [records_retain reaches fits, filter_records_eq]
  rw [flatMap_sublist_flatMap_iff fun o member => (each o member).1]
  exact forall₂_congr fun o member => (each o member).2

end Path

/-- A pruning at a path that may be included with a filter leaves all records that pass, in their order, exactly if
no parent loses all records of an optional container. Only an optional list can be lost so. -/
theorem Path.accepted_left_iff [DecidableEq ε] [LayoutCatalog ε] {entity related : ε}
    {base s : Specification entity} {text : String} {f : Predicate related} {p : Path ε} {r : Record ε}
    (accepted : base.includeFiltered text f = .ok s) (resolved : Path.resolve entity text = .ok p)
    (keep : Record ε → Bool) (fits : Record.Fits entity r) :
    (((p.records r).filter keep).Sublist (p.records (p.retain keep r)) ↔
      ∀ o ∈ recordsAlong p.relations r, ¬o.LosesAll p.leaf.name keep) ∧
    ((∃ o ∈ recordsAlong p.relations r, o.LosesAll p.leaf.name keep) →
      ∃ kind type, (LayoutCatalog.layout p.owner).fields.lookup p.leaf.name =
        some (.relation kind type related) ∧ type.isOptional = true ∧ type.several = true) := by
  obtain ⟨_, found, -, leads, rfl⟩ := Specification.includeFiltered_ok accepted
  cases resolved.symm.trans (Specification.relationPath_ok found).1
  obtain ⟨owner, reaches⟩ := resolve_reaches resolved
  obtain ⟨kind, type, laid⟩ := leaf_laid reaches leads
  have sort : ∀ o ∈ recordsAlong p.relations r, o.LosesAll p.leaf.name keep →
      type.isOptional = true ∧ type.several = true := by
    intro o member loses
    obtain ⟨c, lies, held⟩ := leaf_cell reaches laid fits member
    exact loses.several lies held
  constructor
  · cases may : type.isOptional with
    | true => exact accepted_left_iff_of_optional reaches laid fits may
    | false =>
      refine iff_of_true (accepted_left_of_always reaches laid fits may) fun o member loses => ?_
      rw [(sort o member loses).1] at may
      cases may
  · rintro ⟨o, member, loses⟩
    rw [reaches.owner_eq]
    exact ⟨kind, type, laid, sort o member loses⟩

/-! ### A forum -/

/-- Posts with replies, which are themselves posts. -/
inductive Forum where
  | post
  deriving DecidableEq, Repr

namespace Forum

instance : LayoutCatalog Forum :=
  ⟨fun _ => ⟨"Post", none, [("text", .scalar .string), ("replies", .relation .many (.optional .list) post)]⟩⟩

def newPost (text : String) (replies : List (Record Forum)) : Record Forum :=
  .mk post [("text", .scalar .string text), ("replies", .relation .many (.present (.list replies)))]

theorem newPost_fits {replies : List (Record Forum)} (text : String)
    (fit : ∀ q ∈ replies, Record.Fits post q) : Record.Fits post (newPost text replies) := by
  refine .of_zip rfl ?_
  intro field cell member
  simp only [LayoutCatalog.layout, List.zip_cons_cons, List.zip_nil_left, List.mem_cons, List.not_mem_nil,
    or_false, Prod.mk.injEq] at member
  rcases member with ⟨rfl, rfl⟩ | ⟨rfl, rfl⟩
  · exact ⟨rfl, nofun⟩
  · refine ⟨⟨rfl, trivial⟩, ?_⟩
    intro target leads q present
    cases leads
    exact fit q present

theorem unanswered_fits (text : String) : Record.Fits post (newPost text []) :=
  newPost_fits text nofun

theorem newPost_fits_pair {a b : Record Forum} (text : String) (first : Record.Fits post a)
    (second : Record.Fits post b) : Record.Fits post (newPost text [a, b]) :=
  newPost_fits text (List.forall_mem_cons.mpr ⟨first, List.forall_mem_singleton.mpr second⟩)

def noSpam : Predicate post :=
  ⟨.compare ⟨post, [], ⟨"text", .string, false⟩⟩ .ne (.string "Spam")⟩

def repliesField : Field Forum :=
  ⟨"replies", .many post, true⟩

def replies : Path Forum :=
  ⟨post, [], repliesField⟩

def comments : Path Forum :=
  ⟨post, [repliesField], repliesField⟩

def answeredWithSpam : Record Forum :=
  newPost "Question" [newPost "Answer" [], newPost "Spam" []]

/-- An answer is lost along with the spam beside it, although it is no spam. -/
theorem answer_lost_with_spam :
    Record.Fits post answeredWithSpam ∧ Path.resolve post "replies" = .ok replies ∧
      (∃ s, (Specification.empty : Specification post).includeFiltered "replies" noSpam = .ok s) ∧
      (replies.records answeredWithSpam).filter noSpam.holds = [newPost "Answer" []] ∧
      replies.records (replies.retain noSpam.holds answeredWithSpam) = [] ∧
      ¬((replies.records answeredWithSpam).filter noSpam.holds).Sublist
        (replies.records (replies.retain noSpam.holds answeredWithSpam)) := by
  have fits := newPost_fits_pair "Question" (unanswered_fits "Answer") (unanswered_fits "Spam")
  exact ⟨fits, rfl, ⟨_, rfl⟩, rfl, rfl, nofun⟩

def answerWithThanks : Record Forum :=
  newPost "Answer" [newPost "Thanks" []]

def answerWithSpam : Record Forum :=
  newPost "Other" [newPost "Spam" []]

theorem answer_fits (text comment : String) : Record.Fits post (newPost text [newPost comment []]) :=
  newPost_fits text (List.forall_mem_singleton.mpr (unanswered_fits comment))

/-- Where the spam stands alone, nothing is lost with it. -/
theorem thanks_left_beside_spam :
    let question := newPost "Question" [answerWithThanks, answerWithSpam]
    Record.Fits post question ∧ (comments.records question).filter noSpam.holds = [newPost "Thanks" []] ∧
      ([newPost "Thanks" []]).Sublist (comments.records (comments.retain noSpam.holds question)) := by
  intro question
  have fits := newPost_fits_pair "Question" (answer_fits "Answer" "Thanks") (answer_fits "Other" "Spam")
  have accepted : (Specification.empty : Specification post).includeFiltered "replies.replies" noSpam =
    .ok { includes := [⟨comments, some noSpam.node⟩] } := rfl
  have resolved : Path.resolve post "replies.replies" = .ok comments := rfl
  refine ⟨fits, rfl, (Path.accepted_left_iff accepted resolved noSpam.holds fits).1.mpr ?_⟩
  rintro o member ⟨kind, inner, lies, ⟨q, shown, passes⟩, q', present, rejected⟩
  change o ∈ [answerWithThanks, answerWithSpam] at member
  rcases List.mem_cons.mp member with rfl | member
  · cases lies
    cases List.mem_singleton.mp present
    cases rejected
  · cases List.mem_singleton.mp member
    cases lies
    cases List.mem_singleton.mp shown
    cases passes

end Forum

end EntityQuery
