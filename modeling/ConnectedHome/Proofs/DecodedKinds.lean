import ConnectedHome.Vehicle.Reports
import ConnectedHome.Proofs.ReadFaults
/-!
# DecodedKinds — what the members of a read record hold

`YieldsOnly P x`: every result of the reading `x` satisfies `P`.  Its rules follow the shape of a
reading, as those of `FailsOnly` do for its faults.

A flat record is read member by member (`ConversionRules.readFlat`): a member keeps its default
when it is absent or its conversion is refused, and is converted to its declared kind otherwise.
The one way out of the declared kinds is a float member under rules that keep floats as they are
(the speakers'), which holds the value as it was sent:

- `ConversionRules.convert_kind`: a conversion gives a value of its kind, or the value itself;
- `ConversionRules.readFlat_admits`: every member of a read record is admitted by its spec
  (`MemberSpec.Admits`), which under the vehicle rules means its default or a value of its kind
  (`MemberSpec.admits_vehicle`);
- `StatusReport.read_fields`: what holds of every field read holds of every field of a report,
  through its blocks; so every field has a text or no value (`StatusReport.read_values`).

Readers that follow a path of members instead keep what they find as it was sent: a position's
coordinates (`PositionReport.read_storedLatitude`).  `decodedMembers_law` puts these together.
-/
namespace ConnectedHome

/-- **Every result of `x` satisfies `P`.** -/
def YieldsOnly {α : Type} (P : α → Prop) (x : Except Fault α) : Prop := ∀ a, x = .ok a → P a

namespace YieldsOnly

variable {α β : Type} {P : α → Prop} {Q : β → Prop}

theorem error {f : Fault} : YieldsOnly P (.error f : Except Fault α) := fun _ h => nomatch h

theorem pure {a : α} (h : P a) : YieldsOnly P (Pure.pure a : Except Fault α) := by
  intro b hb
  cases hb
  exact h

theorem trivial (x : Except Fault α) : YieldsOnly (fun _ => True) x := fun _ _ => True.intro

theorem mono {x : Except Fault α} {P' : α → Prop} (hx : YieldsOnly P x) (h : ∀ a, P a → P' a) :
    YieldsOnly P' x :=
  fun a ha => h a (hx a ha)

/-- A result of `x >>= k` is one of `k` at a result of `x`. -/
theorem bind {x : Except Fault α} {k : α → Except Fault β} (hx : YieldsOnly P x)
    (hk : ∀ a, P a → YieldsOnly Q (k a)) : YieldsOnly Q (x >>= k) := by
  intro b hb
  obtain ⟨a, ha, hb⟩ := bind_eq_ok.1 hb
  exact hk a (hx a ha) b hb

/-- Every element of a result of `xs.mapM g` is a result of `g` at an element of `xs`. -/
theorem mapM (Q : β → Prop) {xs : List α} {g : α → Except Fault β} (h : ∀ a ∈ xs, YieldsOnly Q (g a)) :
    YieldsOnly (fun ys => ∀ y ∈ ys, Q y) (xs.mapM g) := by
  induction xs with
  | nil => exact pure fun _ h => nomatch h
  | cons a as ih =>
    rw [List.mapM_cons]
    refine bind (h a List.mem_cons_self) fun b hb => bind (ih fun a' ha' => h a' (List.mem_cons_of_mem _ ha'))
      fun bs hbs => pure ?_
    intro y hy
    rcases List.mem_cons.1 hy with rfl | hy
    · exact hb
    · exact hbs y hy

end YieldsOnly

/-- Whether a value is no list and no object. -/
def Value.isScalar : Value → Bool
  | .list _ | .obj _ => false
  | _ => true

/-- **What a member read by spec `s` under rules `r` may hold**: its default, a value of its
kind, or, for a float member under rules that keep floats, the value as it was sent, present and,
where the rules skip lists and objects, neither. -/
def MemberSpec.Admits (r : ConversionRules) (s : MemberSpec) (v : Value) : Prop :=
  v = s.default ∨ s.kind.holds v = true ∨
    (s.kind = .real ∧ r.convertsReal = false ∧ v.isNull = false ∧ (r.skipsCollections = true → v.isScalar = true))

/-- A conversion gives a value of its kind, or keeps a float member as it is under rules that
keep floats. -/
theorem ConversionRules.convert_kind (r : ConversionRules) (k : MemberKind) (v : Value) :
    YieldsOnly (fun c => k.holds c = true ∨ (k = .real ∧ r.convertsReal = false ∧ c = v)) (r.convert k v) := by
  unfold ConversionRules.convert
  by_cases hk : k.holds v = true
  · rw [if_pos hk]
    exact YieldsOnly.pure (Or.inl hk)
  rw [if_neg hk]
  cases k <;> dsimp only
  case truth => split <;> exact YieldsOnly.pure (Or.inl rfl)
  case real =>
    split
    · exact YieldsOnly.bind (YieldsOnly.trivial _) fun _ _ => YieldsOnly.pure (Or.inl rfl)
    · rename_i hr
      exact YieldsOnly.pure (Or.inr ⟨rfl, Bool.eq_false_iff.2 hr, rfl⟩)
  case whole =>
    split
    · exact YieldsOnly.bind (YieldsOnly.trivial _) fun _ _ =>
        YieldsOnly.bind (YieldsOnly.trivial _) fun _ _ => YieldsOnly.pure (Or.inl rfl)
    · exact YieldsOnly.bind (YieldsOnly.trivial _) fun _ _ => YieldsOnly.pure (Or.inl rfl)
  case text => split <;> exact YieldsOnly.pure (Or.inl rfl)

/-- **Every member of a read record is admitted by its spec**, and is named as the spec names it. -/
theorem ConversionRules.readFlat_admits (r : ConversionRules) (specs : List MemberSpec) (doc : Value) :
    YieldsOnly (fun ms => ∀ m ∈ ms, ∃ s ∈ specs, m.1 = s.name ∧ s.Admits r m.2) (r.readFlat specs doc) := by
  unfold ConversionRules.readFlat
  split
  · -- an absent document gives every default
    refine YieldsOnly.pure fun m hm => ?_
    obtain ⟨s, hs, rfl⟩ := List.mem_map.1 hm
    exact ⟨s, hs, rfl, Or.inl rfl⟩
  refine YieldsOnly.mapM (fun m : String × Value => ∃ s ∈ specs, m.1 = s.name ∧ s.Admits r m.2) fun s hs =>
    YieldsOnly.bind (YieldsOnly.trivial _) fun v _ => ?_
  dsimp only
  split_ifs with hskip
  · exact YieldsOnly.pure ⟨s, hs, rfl, Or.inl rfl⟩
  simp only [Bool.or_eq_true, not_or, Bool.and_eq_true, not_and, Bool.not_eq_true] at hskip
  split
  · rename_i c hc
    refine YieldsOnly.pure ⟨s, hs, rfl, ?_⟩
    rcases ConversionRules.convert_kind r s.kind v c hc with hk | ⟨hk, hr, rfl⟩
    · exact .inr (.inl hk)
    · -- a float kept as it was sent is present and, where collections are skipped, no collection
      refine .inr (.inr ⟨hk, hr, hskip.1, fun hc => ?_⟩)
      have := hskip.2 hc
      cases c <;> simp_all [Value.isScalar]
  · split
    · exact YieldsOnly.pure ⟨s, hs, rfl, Or.inl rfl⟩
    · exact YieldsOnly.error

/-- A member looked up among members each admitted by a spec is missing, or admitted by a spec of
its name. -/
theorem lookup_admits {r : ConversionRules} {specs : List MemberSpec} {ms : Members}
    (h : ∀ m ∈ ms, ∃ s ∈ specs, m.1 = s.name ∧ s.Admits r m.2) (k : String) :
    (Members.lookup ms k).getD .null = .null ∨
      ∃ s ∈ specs, s.name = k ∧ s.Admits r ((Members.lookup ms k).getD .null) := by
  unfold Members.lookup
  split
  · rename_i m hm
    obtain ⟨s, hs, hname, hadm⟩ := h m (List.mem_of_find?_eq_some hm)
    have hk : m.1 = k := by simpa using List.find?_some hm
    exact .inr ⟨s, hs, hname ▸ hk, hadm⟩
  · exact .inl rfl

/-- Under the vehicle rules, which convert floats, a member holds its default or a value of its
kind. -/
theorem MemberSpec.admits_vehicle {s : MemberSpec} {v : Value} (h : s.Admits .vehicle v) :
    v = s.default ∨ s.kind.holds v = true := by
  rcases h with h | h | ⟨-, h, -⟩
  · exact .inl h
  · exact .inr h
  · nomatch h

/-- Under the speakers' rules, which keep floats and skip lists and objects, a float member may
also hold a value as it was sent, present and neither a list nor an object. -/
theorem MemberSpec.admits_speaker {s : MemberSpec} {v : Value} (h : s.Admits .speaker v) :
    v = s.default ∨ s.kind.holds v = true ∨ (s.kind = .real ∧ v.isNull = false ∧ v.isScalar = true) := by
  rcases h with h | h | ⟨hk, -, hn, hs⟩
  · exact .inl h
  · exact .inr (.inl h)
  · exact .inr (.inr ⟨hk, hn, hs rfl⟩)

namespace Vehicle

/-- A status field read from a document has a text or no value. -/
theorem StatusField.read_value (doc : Value) :
    YieldsOnly (fun f : StatusField => f.get "value" = .null ∨ ∃ v, f.get "value" = .str v)
      (StatusField.read doc) := by
  refine YieldsOnly.bind (ConversionRules.readFlat_admits _ _ _) fun ms hms => YieldsOnly.pure ?_
  rcases lookup_admits hms "value" with h | ⟨s, hs, hname, hadm⟩
  · exact .inl h
  -- the one member named `value` is a text defaulting to null
  simp only [StatusField.specs, MemberSpec.plain, List.mem_cons, List.not_mem_nil, or_false] at hs
  rcases hs with rfl | rfl | rfl | rfl | rfl | rfl | rfl | rfl | rfl <;>
    simp only [String.reduceEq] at hname
  change _ = _ ∨ _ ∨ _ at hadm
  rcases hadm with h | h | ⟨h, -⟩
  · exact .inl h
  · change MemberKind.holds .text (memberOf ms "value") = true at h
    cases hv : memberOf ms "value" <;> simp_all [MemberKind.holds, StatusField.get]
  · cases h

/-- Every field of a status block read from a document is one its field reader yields. -/
theorem StatusBlock.read_fields {P : StatusField → Prop} (hP : ∀ d, YieldsOnly P (StatusField.read d))
    (doc : Value) : YieldsOnly (fun b : StatusBlock => ∀ f ∈ b.fields, P f) (StatusBlock.read doc) := by
  unfold StatusBlock.read
  refine YieldsOnly.bind (YieldsOnly.trivial _) fun _ _ => YieldsOnly.bind (YieldsOnly.trivial _) fun _ _ =>
    YieldsOnly.bind (YieldsOnly.trivial _) fun _ _ => YieldsOnly.bind (YieldsOnly.mapM _ fun d _ =>
      hP d) fun _ hfs => YieldsOnly.pure hfs

/-- Every field of a status report read from a document is one its field reader yields. -/
theorem StatusReport.read_fields {P : StatusField → Prop} (hP : ∀ d, YieldsOnly P (StatusField.read d))
    (doc : Value) : YieldsOnly (fun r : StatusReport => ∀ bf ∈ r.fields, P bf.2) (StatusReport.read doc) := by
  unfold StatusReport.read
  refine YieldsOnly.bind (YieldsOnly.trivial _) fun _ _ => YieldsOnly.bind (YieldsOnly.trivial _) fun _ _ =>
    YieldsOnly.bind (YieldsOnly.trivial _) fun _ _ => YieldsOnly.bind (YieldsOnly.trivial _) fun _ _ =>
    YieldsOnly.bind (YieldsOnly.trivial _) fun _ _ =>
    YieldsOnly.bind (YieldsOnly.mapM _ fun d _ => StatusBlock.read_fields hP d) fun bs hbs => YieldsOnly.pure ?_
  intro bf hbf
  obtain ⟨b, hb, hbf⟩ := List.mem_flatMap.1 hbf
  obtain ⟨f, hf, rfl⟩ := List.mem_map.1 hbf
  exact hbs b hb f hf

/-- **Every field of a status report read from a document has a text or no value.** -/
theorem StatusReport.read_values (doc : Value) :
    YieldsOnly (fun r : StatusReport => ∀ bf ∈ r.fields, bf.2.get "value" = .null ∨ ∃ v, bf.2.get "value" = .str v)
      (StatusReport.read doc) :=
  StatusReport.read_fields StatusField.read_value doc

/-- Every member of a status field read from a document is its default or a value of its kind. -/
theorem StatusField.read_members (doc : Value) :
    YieldsOnly (fun f : StatusField => ∀ m ∈ f.members, ∃ s ∈ StatusField.specs, m.1 = s.name ∧
      (m.2 = s.default ∨ s.kind.holds m.2 = true)) (StatusField.read doc) := by
  refine YieldsOnly.bind (ConversionRules.readFlat_admits _ _ _) fun ms hms => YieldsOnly.pure fun m hm => ?_
  obtain ⟨s, hs, hname, hadm⟩ := hms m hm
  exact ⟨s, hs, hname, MemberSpec.admits_vehicle hadm⟩

/-- A stored position whose coordinate is only the latitude `v`. -/
def storedPositionDoc (v : Value) : Value :=
  .obj [("storedPositionResponse", .obj [("position", .obj [("carCoordinate", .obj [("latitude", v)])])])]

/-- A position keeps its latitude as it was sent, whatever its kind. -/
theorem PositionReport.read_storedLatitude (v : Value) :
    PositionReport.read (storedPositionDoc v) = .ok { latitudeRaw := v } := rfl

end Vehicle

/-- **What a read record holds**, for every list of member specs and every document: a record
read under the vehicle rules has each member at its default or of its kind, and so does every
member of every field of a status report, through its blocks; a speaker's reply may also hold, in a
float member, a value as it was sent; and a position holds its latitude as it was sent, whatever its
kind. -/
theorem decodedMembers_law (specs : List MemberSpec) (doc v : Value) :
    YieldsOnly (fun ms => ∀ m ∈ ms, ∃ s ∈ specs, m.1 = s.name ∧ (m.2 = s.default ∨ s.kind.holds m.2 = true))
      (ConversionRules.vehicle.readFlat specs doc) ∧
    YieldsOnly (fun r : Vehicle.StatusReport => ∀ bf ∈ r.fields, ∀ m ∈ bf.2.members,
      ∃ s ∈ Vehicle.StatusField.specs, m.1 = s.name ∧ (m.2 = s.default ∨ s.kind.holds m.2 = true))
      (Vehicle.StatusReport.read doc) ∧
    YieldsOnly (fun r : Speaker.Reply => ∀ m ∈ r.members, ∃ s ∈ Speaker.responseCodeSpec :: specs, m.1 = s.name ∧
      (m.2 = s.default ∨ s.kind.holds m.2 = true ∨ (s.kind = .real ∧ m.2.isNull = false ∧ m.2.isScalar = true)))
      (Speaker.Reply.read specs doc) ∧
    Vehicle.PositionReport.read (Vehicle.storedPositionDoc v) = .ok { latitudeRaw := v } := by
  refine ⟨(ConversionRules.readFlat_admits _ specs doc).mono fun ms h m hm => ?_,
    Vehicle.StatusReport.read_fields Vehicle.StatusField.read_members doc, ?_,
    Vehicle.PositionReport.read_storedLatitude v⟩
  · obtain ⟨s, hs, hname, hadm⟩ := h m hm
    exact ⟨s, hs, hname, MemberSpec.admits_vehicle hadm⟩
  · refine YieldsOnly.bind (ConversionRules.readFlat_admits _ _ doc) fun ms h => YieldsOnly.pure fun m hm => ?_
    obtain ⟨s, hs, hname, hadm⟩ := h m hm
    exact ⟨s, hs, hname, MemberSpec.admits_speaker hadm⟩

end ConnectedHome
