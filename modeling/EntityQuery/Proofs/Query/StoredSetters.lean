import EntityQuery.Proofs.Path.ReadBack
import EntityQuery.Proofs.Query.Coercion
import EntityQuery.Proofs.Query.Update
import EntityQuery.Proofs.Record.RoundTrip

/-!
Converted values in their storages. What was converted to the type of a field is stored there, unless the
field has a narrow width that an integer goes beyond; so an update passes over no other value that `set` has
converted for it.
-/

namespace EntityQuery

open EntityQuery.Numeric

variable {ε : Type} {entity : ε}

theorem Coercion.stores_of_converted {config : Config} {storage : Storage} {name : String} {v w : Value}
    (converted : ofValue config ((Backing.scalar storage : Backing ε).field name) v = .ok w) :
    storage.Stores w := by
  rcases ofValue_takes converted with admitted | ⟨nullable, rfl⟩
  · exact Storage.stores_of_admits admitted
  · exact Storage.stores_null nullable

/-! ### Setters -/

def Setter.AddedBySet [Catalog ε] (entity : ε) (s : Setter ε) : Prop :=
  ∃ (action : UpdateAction entity) (path : String) (value : Value), action.set path value = .ok (action.push s)

namespace UpdateAction

variable {s : Setter ε}

theorem converted_of_addedBySet [Catalog ε] (added : s.AddedBySet entity) :
    ∃ value, Coercion.ofValue {} s.path.leaf value = .ok s.value := by
  obtain ⟨action, path, value, done⟩ := added
  obtain ⟨p, -, done⟩ := bind_ok done
  obtain ⟨_, -, done⟩ := bind_ok done
  obtain ⟨v, converted, done⟩ := bind_ok done
  have same : (⟨p, v⟩ : Setter ε) = s :=
    List.singleton_injective (List.append_cancel_left (congrArg setters (Except.ok.inj done)))
  subst same
  exact ⟨value, converted⟩

variable [LayoutCatalog ε] [DecidableEq ε] {r : Record ε} {before : List (Setter ε)}

theorem result_write_foldl {storage : Storage} {old : storage.Content} (writable : ∀ t ∈ before, t.path.Writable entity)
    (also : s.path.Writable entity) (found : r.at? s.path.location = some (.scalar storage old)) :
    (s.path.write (before.foldl Setter.apply r) s.value).result = (storage.decode s.value).map fun _ => () :=
  Path.result_writeAlong_of_at? also.single (at?_foldl_apply_same writable also found)

/-- What a storage holds is read back from its value, unless an option is nested in an option. A value that was
converted for a storage is taken and kept unless it is an integer out of the storage's range; and when an update
is applied, a setter that `set` has added is passed over for no other reason. -/
theorem converted_values_stored (entity : ε) :
    (∀ s : Storage, (∀ x, ∃ y, s.decode (s.encode x) = .ok y ∧ s.Alike x y) ↔ s.nests = false) ∧
    (∀ (s : Storage) config name v w,
      Coercion.ofValue config ((Backing.scalar s : Backing ε).field name) v = .ok w →
        ((∃ x, s.decode w = .ok x) ↔ ¬s.OutOfRange w) ∧ ∀ x, s.decode w = .ok x → s.Keeps w (s.encode x)) ∧
    ∀ (s : Setter ε) (action : UpdateAction entity) before after r,
      s.AddedBySet entity → action.Built → action.setters = before ++ s :: after →
      Record.Fits entity r → action.check r = .ok () →
        ∃ storage, (LayoutCatalog.layout s.path.owner).fields.lookup s.path.leaf.name = some (.scalar storage) ∧
          ((∃ e, (s.path.write (before.foldl Setter.apply r) s.value).result = .error e) ↔
            storage.OutOfRange s.value) := by
  refine ⟨Storage.decode_encode_iff, fun s config name v w converted => ?_, ?_⟩
  · have stores := Coercion.stores_of_converted converted
    exact ⟨stores.decodes_iff, fun x => stores.keeps⟩
  · intro s action before after r added built split fits passed
    have writable := built.writable
    unfold Writable at writable
    rw [split] at writable
    have earlier : ∀ t ∈ before, t.path.Writable entity := fun t member =>
      writable t (List.mem_append_left _ member)
    have here : s.path.Writable entity := writable s (List.mem_append_right _ List.mem_cons_self)
    rcases here.at?_location fits with ⟨storage, old, laid, found, -⟩ | ⟨-, failed⟩
    · obtain ⟨value, converted⟩ := converted_of_addedBySet added
      rw [here.leaf_eq laid] at converted
      refine ⟨storage, laid, ?_⟩
      rw [result_write_foldl earlier here found, ← (Coercion.stores_of_converted converted).refuses_iff]
      cases storage.decode s.value with
      | ok x => exact iff_of_false nofun nofun
      | error e => exact iff_of_true ⟨e, rfl⟩ ⟨e, rfl⟩
    · have reached := forM_ok_iff.mp passed s (split ▸ List.mem_append_right _ List.mem_cons_self)
      cases reached.symm.trans failed

end UpdateAction

/-! ### A weather station -/

/-- Stations, which store their numbers in few bits. -/
inductive Weather where
  | station
  deriving DecidableEq, Repr

namespace Weather

instance : LayoutCatalog Weather :=
  ⟨fun _ => ⟨"Station", none, [("offset", .scalar (.signed .w8)), ("reading", .scalar .single),
    ("limit", .scalar (.optional (.unsigned .w16)))]⟩⟩

def newStation : Record Weather :=
  .mk station [("offset", .scalar (.signed .w8) 0#8), ("reading", .scalar .single ⟨0⟩),
    ("limit", .scalar (.optional (.unsigned .w16)) none)]

theorem newStation_fits : Record.Fits station newStation := by
  refine .of_zip rfl ?_
  intro field cell member
  simp only [LayoutCatalog.layout, List.zip_cons_cons, List.zip_nil_left, List.mem_cons, List.not_mem_nil,
    or_false, Prod.mk.injEq] at member
  rcases member with ⟨rfl, rfl⟩ | ⟨rfl, rfl⟩ | ⟨rfl, rfl⟩
  · exact ⟨rfl, nofun⟩
  · exact ⟨rfl, nofun⟩
  · exact ⟨rfl, nofun⟩

def offsetOf : Path Weather :=
  ⟨station, [], ⟨"offset", .int, false⟩⟩

def limitOf : Path Weather :=
  ⟨station, [], ⟨"limit", .uint, true⟩⟩

/-- The offset is given as 200, which takes more than seven bits, and the limit as 65535. -/
def adjusted : UpdateAction station :=
  ⟨[⟨offsetOf, .number (.signed 200)⟩, ⟨limitOf, .number (.unsigned 65535)⟩]⟩

theorem offset_set : ({} : UpdateAction station).set "offset" (.number (.unsigned 200)) =
    .ok (({} : UpdateAction station).push ⟨offsetOf, .number (.signed 200)⟩) :=
  rfl

theorem limit_set :
    (({} : UpdateAction station).push ⟨offsetOf, .number (.signed 200)⟩).set "limit" (.number (.signed 65535)) =
      .ok adjusted :=
  rfl

/-- The double nearest to a tenth, which single precision does not have. -/
def tenth : Binary64 :=
  ⟨0x3FB999999999999A⟩

/-- Of the two settings only the limit is stored, and a tenth is stored as the nearest number. -/
theorem offset_passed_over :
    (∃ y, (Storage.signed .w8).decode ((Storage.signed .w8).encode (-128#8)) = .ok y ∧
      (Storage.signed .w8).Alike (-128#8) y) ∧
    (∃ y, Binary32.Nearest tenth y ∧ y.toBinary64 ≠ tenth ∧
      Storage.single.store (.number (.float tenth)) = .ok (.number (.float y.toBinary64))) ∧
    adjusted.Built ∧ adjusted.check newStation = .ok () ∧
    (∃ e, (offsetOf.write newStation (.number (.signed 200))).result = .error e) ∧
    ¬∃ e, (limitOf.write (Setter.apply newStation ⟨offsetOf, .number (.signed 200)⟩)
      (.number (.unsigned 65535))).result = .error e := by
  have built : adjusted.Built := .set (.set .empty offset_set) limit_set
  obtain ⟨back, converted, setters⟩ := UpdateAction.converted_values_stored station
  refine ⟨(back _).mpr rfl _, ?_, built, rfl, ?_, ?_⟩
  · have kept := (converted .single {} "reading" (.number (.float tenth)) _ rfl).2 tenth.toBinary32 rfl
    obtain ⟨y, nearest, shown⟩ := kept
    have read : tenth.toBinary32.toBinary64 = y.toBinary64 := Number.float.inj (Value.number.inj shown)
    have rounded : tenth.toBinary32.toBinary64 ≠ tenth := by decide +kernel
    exact ⟨y, nearest, read ▸ rounded, congrArg Except.ok shown⟩
  · obtain ⟨storage, laid, passedOver⟩ := setters _ adjusted [] _ newStation ⟨{}, _, _, offset_set⟩ built rfl
      newStation_fits rfl
    cases laid
    exact passedOver.mpr (.signed (by decide) (by decide))
  · obtain ⟨storage, laid, passedOver⟩ := setters _ adjusted [_] [] newStation ⟨_, _, _, limit_set⟩ built rfl
      newStation_fits rfl
    cases laid
    intro refused
    cases passedOver.mp refused with
    | optional inside =>
      cases inside with
      | unsigned narrow beyond => exact absurd beyond (by decide)

end Weather

end EntityQuery
