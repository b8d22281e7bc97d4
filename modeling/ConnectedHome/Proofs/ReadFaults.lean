import ConnectedHome.Speaker.Reports
import Mathlib.Tactic.SplitIfs
/-!
# ReadFaults — which faults reading a document can raise

`FailsOnly P x`: every failure of the reading `x` satisfies `P`.  The rules follow the shape of a
reading (`ok`, `error`, `>>=`, `<$>`, `mapM`, `filterMapM`), so that the faults a reader can raise
are found by walking its definition once.

The speakers' readers convert members leniently: a member whose conversion is refused as a bad
value or a bad kind keeps its default (`ConversionRules.readFlat`, `lenientWhole`).  What is left
is the overflow of a float too large for a whole number:

- `Value.toInt_fails`: converting to a whole number fails only by a refusal or an overflow;
- `readFlat_speaker_fails`: a flat record read from an object fails only by an overflow;
- `SpeakerEvent.read_fails`: so does a whole event read from an object, with its zone parts and
  its player part.

The replies of the speaker's calls are read from any document, so their readers also meet what
is no object and members of the wrong kind.  They still fail only by a decoding fault
(`Fault.isDecoding`: a bad value or kind, an overflow, a missing attribute or key), never by a
failure of the speaker: `Features.read_fails`, `PresetInfo.read_fails`, `RecentInfo.read_fails`,
`Distribution.read_fails`, `Reply.read_fails`.
-/
namespace ConnectedHome

/-- **Every failure of `x` satisfies `P`.** -/
def FailsOnly {α : Type} (P : Fault → Prop) (x : Except Fault α) : Prop := ∀ f, x = .error f → P f

namespace FailsOnly

variable {α β : Type} {P Q : Fault → Prop}

theorem ok {a : α} : FailsOnly P (.ok a) := fun _ h => nomatch h

theorem pure {a : α} : FailsOnly P (Pure.pure a : Except Fault α) := ok

theorem error {f : Fault} (h : P f) : FailsOnly P (.error f : Except Fault α) := by
  intro f' hf
  cases hf
  exact h

theorem mono {x : Except Fault α} (hx : FailsOnly P x) (h : ∀ f, P f → Q f) : FailsOnly Q x :=
  fun f hf => h f (hx f hf)

/-- A failure of `x >>= k` is one of `x`, or one of `k` at a result of `x`. -/
theorem bind {x : Except Fault α} {k : α → Except Fault β} (hx : FailsOnly P x)
    (hk : ∀ a, x = .ok a → FailsOnly P (k a)) : FailsOnly P (x >>= k) := by
  intro f hf
  cases h : x with
  | error e =>
    rw [h] at hf
    obtain rfl := Except.error.inj hf
    exact hx e h
  | ok a =>
    rw [h] at hf
    exact hk a h f hf

theorem map {x : Except Fault α} {g : α → β} (hx : FailsOnly P x) : FailsOnly P (g <$> x) := by
  rw [← bind_pure_comp]
  exact bind hx fun _ _ => pure

theorem mapM {xs : List α} {g : α → Except Fault β} (h : ∀ a ∈ xs, FailsOnly P (g a)) :
    FailsOnly P (xs.mapM g) := by
  induction xs with
  | nil => exact pure
  | cons a as ih =>
    rw [List.mapM_cons]
    refine bind (h a List.mem_cons_self) fun _ _ => bind (ih fun a' ha' => h a' (List.mem_cons_of_mem _ ha'))
      fun _ _ => pure

theorem filterMapM {xs : List α} {g : α → Except Fault (Option β)} (h : ∀ a ∈ xs, FailsOnly P (g a)) :
    FailsOnly P (xs.filterMapM g) := by
  induction xs with
  | nil => exact pure
  | cons a as ih =>
    have hs : FailsOnly P (as.filterMapM g) := ih fun a' ha' => h a' (List.mem_cons_of_mem _ ha')
    rw [List.filterMapM_cons]
    refine bind (h a List.mem_cons_self) fun b _ => ?_
    cases b with
    | none => exact hs
    | some b => exact bind hs fun _ _ => pure

theorem foldlM {xs : List α} {g : β → α → Except Fault β} {b : β} (h : ∀ acc, ∀ a ∈ xs, FailsOnly P (g acc a)) :
    FailsOnly P (xs.foldlM g b) := by
  induction xs generalizing b with
  | nil => exact pure
  | cons a as ih =>
    rw [List.foldlM_cons]
    exact bind (h b a List.mem_cons_self) fun _ _ => ih fun acc a' ha' => h acc a' (List.mem_cons_of_mem _ ha')

end FailsOnly

/-- A reading that succeeds succeeded at its first step and at what follows. -/
theorem bind_eq_ok {α β : Type} {x : Except Fault α} {k : α → Except Fault β} {b : β} :
    x >>= k = .ok b ↔ ∃ a, x = .ok a ∧ k a = .ok b := by
  cases x with
  | error f =>
    constructor
    · intro h
      cases h
    · rintro ⟨_, h, _⟩
      cases h
  | ok a => exact ⟨fun h => ⟨a, rfl, h⟩, fun ⟨_, h, hk⟩ => by cases h; exact hk⟩

/-- A reading that fails failed at its first step, or at what follows a first step that succeeded. -/
theorem bind_eq_error {α β : Type} {x : Except Fault α} {k : α → Except Fault β} {f : Fault} :
    x >>= k = .error f ↔ x = .error f ∨ ∃ a, x = .ok a ∧ k a = .error f := by
  cases x with
  | error e =>
    change (Except.error e : Except Fault β) = _ ↔ _
    simp
  | ok a =>
    change k a = _ ↔ _
    simp

/-- An overflow: a float too large for a whole number. -/
def Fault.isOverflow : Fault → Bool
  | .overflow _ => true
  | _ => false

/-- Work nested deeper than the stack allows. -/
def Fault.isRecursion : Fault → Bool
  | .recursion _ => true
  | _ => false

/-- What a lenient conversion lets through: a refusal, which keeps a default, or an overflow. -/
def Fault.RefusalOrOverflow (f : Fault) : Prop := f.isConversionRefusal ∨ f.isOverflow

/-- A fault of decoding a document into a record: a bad value or kind, an overflow, a missing
attribute or key. -/
def Fault.isDecoding : Fault → Bool
  | .badValue _ | .badType _ | .overflow _ | .noAttribute _ | .missingKey _ => true
  | _ => false

theorem Fault.RefusalOrOverflow.isDecoding {f : Fault} (h : f.RefusalOrOverflow) : f.isDecoding := by
  cases f <;> simp_all [Fault.RefusalOrOverflow, Fault.isConversionRefusal, Fault.isOverflow, Fault.isDecoding]

section Access

variable (v : Value) (k : String)

theorem Value.get_fails : FailsOnly (fun f => f.isDecoding) (v.get k) := by
  unfold Value.get
  split
  · exact FailsOnly.ok
  · exact FailsOnly.error rfl

theorem Value.getD_fails (d : Value) : FailsOnly (fun f => f.isDecoding) (v.getD k d) := by
  unfold Value.getD
  split
  · exact FailsOnly.ok
  · exact FailsOnly.error rfl

theorem Value.item_fails : FailsOnly (fun f => f.isDecoding) (v.item k) := by
  unfold Value.item
  split
  · split
    · exact FailsOnly.ok
    · exact FailsOnly.error rfl
  all_goals exact FailsOnly.error rfl

theorem Value.elements_fails : FailsOnly (fun f => f.isDecoding) v.elements := by
  unfold Value.elements
  split
  all_goals first | exact FailsOnly.ok | exact FailsOnly.error rfl

end Access

theorem readInt_fails (s : String) : FailsOnly (fun f => f.isConversionRefusal) (Number.readInt s) := by
  intro f hf
  unfold Number.readInt at hf
  dsimp only at hf
  -- every branch of the reading that fails refuses with a bad value
  repeat' split at hf
  all_goals (cases hf <;> rfl)

theorem floatToInt_fails (x : Float) : FailsOnly Fault.RefusalOrOverflow (Number.floatToInt x) := by
  intro f hf
  unfold Number.floatToInt at hf
  split at hf <;> cases hf
  · exact .inl rfl
  · exact .inr rfl

/-- **Converting to a whole number fails only by a refusal or an overflow.** -/
theorem Value.toInt_fails (v : Value) : FailsOnly Fault.RefusalOrOverflow v.toInt := by
  cases v with
  | float x => exact floatToInt_fails x
  | str s => exact (readInt_fails s).mono fun _ h => .inl h
  | int i => exact FailsOnly.ok
  | bool b => exact FailsOnly.ok
  | null | list _ | obj _ => exact FailsOnly.error (.inl rfl)

theorem speaker_convert_fails (k : MemberKind) (v : Value) :
    FailsOnly Fault.RefusalOrOverflow (ConversionRules.speaker.convert k v) := by
  unfold ConversionRules.convert
  by_cases hk : k.holds v = true
  · rw [if_pos hk]
    exact FailsOnly.ok
  · rw [if_neg hk]
    -- the speakers convert only whole numbers, and those directly
    cases k with
    | truth => dsimp only; split <;> exact FailsOnly.ok
    | real => exact FailsOnly.ok
    | whole =>
      dsimp only
      rw [if_neg (by decide)]
      exact FailsOnly.bind (Value.toInt_fails v) fun _ _ => FailsOnly.pure
    | text => dsimp only; split <;> exact FailsOnly.ok

/-- A truth value is read from anything. -/
theorem convert_truth_fails {P : Fault → Prop} (r : ConversionRules) (v : Value) :
    FailsOnly P (r.convert .truth v) := by
  unfold ConversionRules.convert
  split
  · exact FailsOnly.ok
  · dsimp only
    split <;> exact FailsOnly.ok

/-- A flat record read under the speakers' rules fails only where reading a member fails, or by
an overflow. -/
theorem readFlat_speaker_fails_of {P : Fault → Prop} (specs : List MemberSpec) (doc : Value)
    (hget : ∀ k, FailsOnly P (doc.get k)) (hover : ∀ f, f.isOverflow = true → P f) :
    FailsOnly P (ConversionRules.speaker.readFlat specs doc) := by
  unfold ConversionRules.readFlat
  split
  · exact FailsOnly.ok
  · -- a conversion fault that is no refusal escapes
    refine FailsOnly.mapM fun s _ => FailsOnly.bind (hget s.key) fun v _ => ?_
    dsimp only
    split_ifs
    · exact FailsOnly.pure
    · cases hc : ConversionRules.speaker.convert s.kind v with
      | ok c => exact FailsOnly.pure
      | error f =>
        dsimp only
        split_ifs with hr
        · exact FailsOnly.pure
        · refine FailsOnly.error (hover f ?_)
          simpa [Fault.RefusalOrOverflow, hr] using speaker_convert_fails s.kind v f hc

/-- **A flat record read from an object fails only by an overflow**: an object has every member. -/
theorem readFlat_speaker_fails (specs : List MemberSpec) (ms : Members) :
    FailsOnly (fun f => f.isOverflow) (ConversionRules.speaker.readFlat specs (.obj ms)) :=
  readFlat_speaker_fails_of specs _ (fun _ => FailsOnly.ok) fun _ h => h

theorem readFlat_speaker_decoding (specs : List MemberSpec) (doc : Value) :
    FailsOnly (fun f => f.isDecoding) (ConversionRules.speaker.readFlat specs doc) :=
  readFlat_speaker_fails_of specs doc (Value.get_fails doc) fun _ h => Fault.RefusalOrOverflow.isDecoding (.inr h)

namespace Speaker

theorem readZoneEvent_fails (ms : Members) : FailsOnly (fun f => f.isOverflow) (readZoneEvent (.obj ms)) :=
  FailsOnly.bind (readFlat_speaker_fails _ ms) fun _ _ => FailsOnly.pure

theorem lenientWhole_fails (v : Value) : FailsOnly (fun f => f.isOverflow) (lenientWhole v) := by
  intro f hf
  unfold lenientWhole at hf
  cases h : v.toInt with
  | ok i => rw [h] at hf; cases hf
  | error e =>
    rw [h] at hf
    dsimp only at hf
    split at hf
    · cases hf
    · rename_i hr
      cases hf
      simpa [Fault.RefusalOrOverflow, hr] using Value.toInt_fails v f h

theorem PlayerEvent.read_fails (ms : Members) : FailsOnly (fun f => f.isOverflow) (PlayerEvent.read (.obj ms)) := by
  unfold PlayerEvent.read
  refine FailsOnly.bind FailsOnly.ok fun v _ => ?_
  dsimp only
  -- the preset control is an object whatever the member holds, so its number can be read
  split <;> rw [pure_bind] <;>
    exact FailsOnly.bind FailsOnly.ok fun n _ => FailsOnly.bind (lenientWhole_fails n) fun _ _ =>
      FailsOnly.bind FailsOnly.ok fun u _ => FailsOnly.bind (convert_truth_fails _ u) fun _ _ => FailsOnly.pure

/-- **An event read from an object fails only by an overflow**, of its zone parts' volume or of
its player part's preset number. -/
theorem SpeakerEvent.read_fails (ms : Members) :
    FailsOnly (fun f => f.isOverflow) (SpeakerEvent.read (.obj ms)) := by
  unfold SpeakerEvent.read
  refine FailsOnly.bind (FailsOnly.filterMapM fun z _ => FailsOnly.bind FailsOnly.ok fun v _ => ?_) fun _ _ => ?_
  · -- a zone part
    split
    · exact FailsOnly.bind (readZoneEvent_fails _) fun _ _ => FailsOnly.pure
    · exact FailsOnly.pure
  · -- the device id and the player part
    refine FailsOnly.bind FailsOnly.ok fun _ _ => FailsOnly.bind FailsOnly.ok fun v _ => ?_
    dsimp only
    split
    · exact FailsOnly.bind (FailsOnly.map (PlayerEvent.read_fails _)) fun _ _ => FailsOnly.pure
    · exact FailsOnly.bind FailsOnly.pure fun _ _ => FailsOnly.pure

/-- The device id of an event is the text of the object's `device_id` member, empty when it has
none. -/
theorem SpeakerEvent.read_deviceId {ms : List (String × Value)} {e : SpeakerEvent}
    (h : SpeakerEvent.read (.obj ms) = .ok e) : e.deviceId = plainText ((ms.lookup "device_id").getD (.str "")) := by
  unfold SpeakerEvent.read at h
  obtain ⟨zones, -, h⟩ := bind_eq_ok.1 h
  obtain ⟨v, hv, h⟩ := bind_eq_ok.1 h
  obtain ⟨netusb, -, h⟩ := bind_eq_ok.1 h
  cases hv
  -- the player part, whatever it is, leaves the device id as read
  split at h <;> obtain ⟨player, -, h⟩ := bind_eq_ok.1 h <;> cases h <;> rfl

/-! ### The replies of the speaker's calls -/

theorem Reply.read_fails (specs : List MemberSpec) (doc : Value) :
    FailsOnly (fun f => f.isDecoding) (Reply.read specs doc) :=
  FailsOnly.bind (readFlat_speaker_decoding _ doc) fun _ _ => FailsOnly.pure

theorem zoneIdOf_fails (zone : Value) : FailsOnly (fun f => f.isDecoding) (zoneIdOf zone) :=
  FailsOnly.bind (Value.get_fails zone "id") fun _ _ => FailsOnly.pure

theorem zoneList_fails (zone : Value) (key : String) : FailsOnly (fun f => f.isDecoding) (zoneList zone key) :=
  FailsOnly.bind (Value.get_fails zone key) fun _ _ => Value.elements_fails _

theorem zoneTable_fails (zones : List Value) (key : String) :
    FailsOnly (fun f => f.isDecoding) (zoneTable zones key) := by
  unfold zoneTable
  refine FailsOnly.foldlM fun acc zone _ => FailsOnly.bind (zoneIdOf_fails zone) fun id _ => ?_
  -- a zone without a true id is passed over; one with an id adds or replaces its list
  cases id with
  | none => exact FailsOnly.pure
  | some id =>
    refine FailsOnly.bind (zoneList_fails zone key) fun items _ => ?_
    split <;> exact FailsOnly.pure

/-- **Reading the features fails only by a decoding fault**: of the zone count, which must be a
whole number, or of members and zone entries of the wrong kind. -/
theorem Features.read_fails (doc : Value) : FailsOnly (fun f => f.isDecoding) (Features.read doc) := by
  unfold Features.read
  refine FailsOnly.bind (Value.get_fails doc _) fun _ _ => FailsOnly.bind (Value.get_fails doc _) fun _ _ =>
    FailsOnly.bind (Value.getD_fails doc _ _) fun _ _ => FailsOnly.bind (Value.getD_fails _ _ _) fun n _ => ?_
  refine FailsOnly.bind ((Value.toInt_fails n).mono fun _ h => h.isDecoding) fun _ _ => ?_
  exact FailsOnly.bind (Value.elements_fails _) fun zones _ =>
    FailsOnly.bind (FailsOnly.filterMapM fun z _ => zoneIdOf_fails z) fun _ _ =>
    FailsOnly.bind (zoneTable_fails zones _) fun _ _ => FailsOnly.bind (zoneTable_fails zones _) fun _ _ =>
    FailsOnly.pure

/-- An accepted features reply whose zone count is a word cannot be read: the count is refused as
a bad value. -/
theorem Features.read_zoneNum_word :
    ∃ m, Features.read (.obj [("response_code", .int 0), ("system", .obj [("zone_num", .str "abc")])]) =
      .error (.badValue m) :=
  ⟨_, rfl⟩

theorem PresetInfo.read_fails (doc : Value) : FailsOnly (fun f => f.isDecoding) (PresetInfo.read doc) := by
  unfold PresetInfo.read
  refine FailsOnly.bind (Value.getD_fails doc _ _) fun _ _ => FailsOnly.bind (Value.get_fails doc _) fun _ _ =>
    FailsOnly.bind (Value.elements_fails _) fun _ _ => FailsOnly.bind (FailsOnly.mapM fun e _ => ?_) fun _ _ =>
    FailsOnly.pure
  exact FailsOnly.bind (Value.getD_fails e _ _) fun _ _ => FailsOnly.bind (Value.getD_fails e _ _) fun _ _ =>
    FailsOnly.pure

theorem RecentInfo.read_fails (doc : Value) : FailsOnly (fun f => f.isDecoding) (RecentInfo.read doc) :=
  FailsOnly.bind (Value.getD_fails doc _ _) fun _ _ => FailsOnly.bind (Value.get_fails doc _) fun _ _ =>
    FailsOnly.bind (Value.elements_fails _) fun _ _ =>
    FailsOnly.bind (FailsOnly.mapM fun e _ => FailsOnly.bind (Value.getD_fails e _ _) fun _ _ => FailsOnly.pure)
      fun _ _ => FailsOnly.pure

theorem Distribution.read_fails (doc : Value) : FailsOnly (fun f => f.isDecoding) (Distribution.read doc) := by
  unfold Distribution.read
  refine FailsOnly.bind (Reply.read_fails _ doc) fun _ _ => FailsOnly.bind (Value.get_fails doc _) fun _ _ =>
    FailsOnly.bind (Value.elements_fails _) fun _ _ =>
    FailsOnly.bind (FailsOnly.filterMapM fun c _ => FailsOnly.bind (Value.get_fails c _) fun ip _ => ?_)
      fun _ _ => FailsOnly.pure
  -- a client's address is read only where it is there and true
  split
  · exact FailsOnly.bind (Value.item_fails c _) fun _ _ => FailsOnly.pure
  · exact FailsOnly.pure

end Speaker

end ConnectedHome
