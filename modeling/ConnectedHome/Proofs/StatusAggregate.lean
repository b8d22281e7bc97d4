import ConnectedHome.Vehicle.Status
import ConnectedHome.Proofs.DecodedKinds
/-!
# StatusAggregate — the aggregated state against the switches

The aggregate of a status report (`Aggregate.update`, folded by `processReport`) and the switch
channels of the same report (`switchState`) read the same values in two ways.  The aggregate
compares the raw text with `2` (locks), `3` (window states) or `1` (tire pressures, maintenance
alarms); a switch reads the text as a whole number through a float and compares the number.

- `processReport_aggregate`: the aggregate of a processed report is the fold of
  `Aggregate.update` over the fields that feed a channel (`feedingFields`);
- `Aggregate.update_ok`: what one field does to the aggregate, flag by flag (`Aggregate.withField`),
  and `foldlM_update_flag`: what a run of fields does to one flag;
- `switchState_on`: a switch is on exactly when its value is present and reads as the number the
  switch is on at (`Channel.onAt`);
- `aggregate_agrees_with_switches`: for a report read from a document and processed with the
  built-in table, where every switch value is spelled as the numeral of the number it reads as, the
  four parts of the aggregate are what the switches of the same fields say;
- `lockedAggregate_misses_decimalTwo`: without that spelling they are not: a lock reported as
  `2.0` is on as a switch, and the aggregate still says the vehicle is not locked.
-/
namespace ConnectedHome.Vehicle

open Number

/-! ## The fields that feed a channel -/

/-- The fields of a report that feed a channel of `t`, each with its definition, in report order:
the fields `processReport` does not skip. -/
def feedingFields (r : StatusReport) (t : ChannelTable) : List (Channel × StatusField) :=
  r.fields.filterMap fun bf =>
    (t.find bf.2.id).bind fun c => if c.channel.isEmpty then none else some (c, bf.2)

/-- **The aggregate of a processed report is the fold of `Aggregate.update` over its feeding
fields**: the channel values computed beside it do not change it. -/
theorem processReport_aggregate {r : StatusReport} {t : ChannelTable} {chs : Option (List String)}
    {u : StatusUpdate} (h : processReport r t chs = .ok u) :
    (feedingFields r t).foldlM (fun (a : Aggregate) (cf : Channel × StatusField) => a.update cf.1 cf.2) {} =
      .ok u.aggregate := by
  unfold processReport at h
  unfold feedingFields
  have h0 : ({} : StatusUpdate).aggregate = {} := rfl
  rw [← h0]
  generalize ({} : StatusUpdate) = u0 at h ⊢
  generalize r.fields = l at h ⊢
  -- by induction on the fields, from any update reached before them
  induction l generalizing u0 with
  | nil =>
    cases h
    rfl
  | cons bf l ih =>
    obtain ⟨bid, f⟩ := bf
    rw [List.foldlM_cons] at h
    obtain ⟨u1, hstep, hrest⟩ := bind_eq_ok.1 h
    rw [List.filterMap_cons]
    cases hc : t.find f.id with
    | none =>
      -- a field without a definition is skipped
      simp only [hc] at hstep
      cases hstep
      exact ih u0 hrest
    | some c =>
      simp only [hc] at hstep
      by_cases hempty : c.channel.isEmpty = true
      · -- so is one whose definition feeds no channel
        simp only [hempty, if_true] at hstep
        cases hstep
        simp only [Option.bind_some, if_pos hempty]
        exact ih u0 hrest
      · simp only [hempty, Bool.false_eq_true, if_false] at hstep
        -- the channel value is computed or not; the aggregate is folded either way
        have hagg : u0.aggregate.update c f = .ok u1.aggregate := by
          split_ifs at hstep
          · obtain ⟨_, -, hstep⟩ := bind_eq_ok.1 hstep
            obtain ⟨_, -, hstep⟩ := bind_eq_ok.1 hstep
            obtain ⟨agg, hagg, hstep⟩ := bind_eq_ok.1 hstep
            cases hstep
            exact hagg
          · obtain ⟨_, -, hstep⟩ := bind_eq_ok.1 hstep
            obtain ⟨agg, hagg, hstep⟩ := bind_eq_ok.1 hstep
            cases hstep
            exact hagg
        simp only [Option.bind_some, if_neg hempty, List.foldlM_cons]
        rw [hagg]
        exact ih u1 hrest

/-! ## What one field does to the aggregate -/

/-- The whole number a text reads as through a float, as the switches and the AdBlue check read
it; none where it reads as none. -/
def wholeNumberOf (v : String) : Option Int := (readFloat v >>= floatToInt).toOption

/-- A text reads as no float only by a refusal as a bad value. -/
theorem readFloat_error {s : String} {f : Fault} (h : readFloat s = .error f) : ∃ m, f = .badValue m := by
  unfold readFloat at h
  dsimp only at h
  repeat' split at h
  all_goals (cases h <;> exact ⟨_, rfl⟩)

namespace Aggregate

/-- Whether a field with the value `v` under `c` leaves the vehicle locked: it is no lock, or it is
at its locked text. -/
def lockTest (c : Channel) (v : String) : Bool :=
  !c.symbolicName.contains "LOCK" ||
    ((c.symbolicName.contains "LOCK2" && v == "2") || (c.symbolicName.contains "LOCK3" && v == "3"))

/-- Whether a field with the value `v` under `c` leaves the windows closed. -/
def windowTest (c : Channel) (v : String) : Bool :=
  !(c.symbolicName.contains "WINDOWS" && c.symbolicName.contains "STATE" && v != "3")

/-- Whether a field with the value `v` under `c` leaves the tires ok. -/
def tireTest (c : Channel) (v : String) : Bool :=
  !(c.symbolicName.contains "TIREPRESS" && c.symbolicName.contains "CURRENT" && v != "1")

/-- Whether a field with the value `v` under `c` is a maintenance alarm that is raised. -/
def alarmRaised (c : Channel) (v : String) : Bool := c.symbolicName.contains "MAINT_ALARM" && v != "1"

/-- Whether a field with the value `v` under `c` is an AdBlue range below the least one. -/
def adBlueLow (c : Channel) (v : String) : Bool :=
  c.symbolicName.contains "AD_BLUE_RANGE" &&
    match wholeNumberOf v with
    | some n => decide (n < adBlueMinimum)
    | none => false

/-- The aggregate after a field with the present value `v` under `c`. -/
def withField (a : Aggregate) (c : Channel) (v : String) : Aggregate where
  vehicleLocked := a.vehicleLocked && lockTest c v
  maintenanceRequired := a.maintenanceRequired || alarmRaised c v || adBlueLow c v
  tiresOk := a.tiresOk && tireTest c v
  windowsClosed := a.windowsClosed && windowTest c v

/-- Folding a field succeeds exactly when its step raises no fault. -/
theorem update_eq_ok {a b : Aggregate} {c : Channel} {f : StatusField} :
    a.update c f = .ok b ↔ a.step c f = (b, none) := by
  unfold update
  rcases a.step c f with ⟨a', _ | fault⟩ <;> simp

/-- **What folding one field does**: a field without a present value leaves the aggregate as it
is; one with the present value `v` gives `withField`. -/
theorem update_ok {a b : Aggregate} {c : Channel} {f : StatusField} (h : a.update c f = .ok b) :
    (∀ v, f.value? = some v → v ≠ "" → b = a.withField c v) ∧
      (f.value? = none ∨ f.value? = some "" → b = a) := by
  rw [update_eq_ok] at h
  unfold step at h
  cases hv : f.value? with
  | none =>
    simp only [hv] at h
    cases h
    exact ⟨fun _ h => (nomatch h), fun _ => rfl⟩
  | some v =>
    simp only [hv] at h
    by_cases he : v = ""
    · subst he
      have hempty : "".isEmpty = true := rfl
      simp only [hempty, if_true, Prod.mk.injEq] at h
      obtain ⟨rfl, -⟩ := h
      exact ⟨fun _ heq hne => absurd (Option.some.inj heq).symm hne, fun _ => rfl⟩
    have hpresent : ¬(f.value? = none ∨ f.value? = some "") := by
      rintro (h' | h')
      · rw [hv] at h'
        cases h'
      · exact he (Option.some.inj (hv.symm.trans h'))
    refine ⟨?_, fun h' => absurd (hv ▸ h') hpresent⟩
    rintro v' hv' -
    cases hv'
    have hne : v.isEmpty = false := Bool.eq_false_iff.2 fun h => he (String.isEmpty_iff.1 h)
    simp only [hne, Bool.false_eq_true, if_false] at h
    -- only the AdBlue check can stop the fold; that it did not leaves its reading at a number or
    -- refused
    -- the AdBlue check either leaves the aggregate as the alarm left it, calls for maintenance, or
    -- stops the fold: its four outcomes, each followed by the window and tire checks
    cases hAD : c.symbolicName.contains "AD_BLUE_RANGE" <;>
      simp only [hAD, Bool.false_eq_true, if_false, if_true, pure, Except.pure] at h
    case false =>
      have hlow : adBlueLow c v = false := by simp [adBlueLow, hAD]
      obtain ⟨rfl, -⟩ := Prod.mk.inj h
      cases a
      simp only [withField, hlow, lockTest, alarmRaised, tireTest, windowTest]
      split_ifs <;> simp only [Bool.not_eq_true] at * <;> simp only [*, Bool.not_true,
        Bool.not_false, Bool.or_true, Bool.or_false, Bool.and_true, Bool.and_false, Bool.true_or]
    case true =>
      cases hr : readFloat v with
      | error e =>
        -- a range that is no float is refused
        have hw : wholeNumberOf v = none := by
          rw [wholeNumberOf, hr]
          rfl
        have hlow : adBlueLow c v = false := by
          rw [adBlueLow, hw]
          exact Bool.and_false _
        obtain ⟨m, rfl⟩ := readFloat_error hr
        simp only [hr, Fault.isConversionRefusal, if_true] at h
        obtain ⟨rfl, -⟩ := Prod.mk.inj h
        cases a
        simp only [withField, hlow, lockTest, alarmRaised, tireTest, windowTest]
        split_ifs <;> simp only [Bool.not_eq_true] at * <;> simp only [*, Bool.not_true,
          Bool.not_false, Bool.or_true, Bool.or_false, Bool.and_true, Bool.and_false, Bool.true_or]
      | ok x =>
        cases hi : floatToInt x with
        | error e =>
          -- a range that is no whole number is refused, unless it overflows, which stops the fold
          have hw : wholeNumberOf v = none := by
            rw [wholeNumberOf, hr]
            exact congrArg Except.toOption hi
          have hlow : adBlueLow c v = false := by
            rw [adBlueLow, hw]
            exact Bool.and_false _
          cases e
          case badValue m =>
            simp only [hr, hi] at h
            obtain ⟨rfl, -⟩ := Prod.mk.inj h
            cases a
            simp only [withField, hlow, lockTest, alarmRaised, tireTest, windowTest]
            split_ifs <;> simp only [Bool.not_eq_true] at * <;> simp only [*, Bool.not_true,
              Bool.not_false, Bool.or_true, Bool.or_false, Bool.and_true, Bool.and_false, Bool.true_or]
          all_goals
            simp only [hr, hi] at h
            cases (Prod.mk.inj h).2
        | ok n =>
          have hw : wholeNumberOf v = some n := by
            rw [wholeNumberOf, hr]
            exact congrArg Except.toOption hi
          have hlow : adBlueLow c v = decide (n < adBlueMinimum) := by
            rw [adBlueLow, hw, hAD]
            rfl
          simp only [hr, hi] at h
          obtain ⟨rfl, -⟩ := Prod.mk.inj h
          cases a
          simp only [withField, hlow, lockTest, alarmRaised, tireTest, windowTest]
          split_ifs <;> simp only [Bool.not_eq_true] at * <;> simp only [*, decide_true, decide_false, Bool.not_true,
            Bool.not_false, Bool.or_true, Bool.or_false, Bool.and_true, Bool.and_false, Bool.true_or]

/-- A field passes a test of the aggregate when its value, if present, passes it. -/
def Passes (test : Channel → String → Bool) (cf : Channel × StatusField) : Prop :=
  ∀ v, cf.2.value? = some v → v ≠ "" → test cf.1 v = true

/-- **What a run of fields does to a flag** that each field clears when it fails `test`: the flag
holds at the end exactly when it held at the start and every field passed. -/
theorem foldlM_update_flag (flag : Aggregate → Bool) (test : Channel → String → Bool)
    (hflag : ∀ a c v, flag (a.withField c v) = (flag a && test c v)) :
    ∀ (l : List (Channel × StatusField)) (a b : Aggregate),
      l.foldlM (fun (a : Aggregate) (cf : Channel × StatusField) => a.update cf.1 cf.2) a = .ok b →
        (flag b = true ↔ flag a = true ∧ ∀ cf ∈ l, Passes test cf)
  | [], a, b, h => by
    cases h
    simp
  | cf :: l, a, b, h => by
    rw [List.foldlM_cons] at h
    obtain ⟨a1, h1, h2⟩ := bind_eq_ok.1 h
    rw [foldlM_update_flag flag test hflag l a1 b h2, List.forall_mem_cons]
    -- the first field clears the flag exactly when it fails the test
    have hstep : flag a1 = true ↔ flag a = true ∧ Passes test cf := by
      obtain ⟨hpresent, habsent⟩ := update_ok h1
      cases hv : cf.2.value? with
      | none =>
        rw [habsent (.inl hv)]
        simp [Passes, hv]
      | some v =>
        by_cases he : v = ""
        · subst he
          rw [habsent (.inr hv)]
          simp [Passes, hv]
        · rw [hpresent v hv he, hflag]
          simp [Passes, hv, he]
    rw [hstep, and_assoc]

end Aggregate

/-- The number at which a switch is on: 2 for names with `STATE2_` or `LOCK2_`, 3 for names with
`STATE3_`, `SAFETY_` or `LOCK3_`, 1 for all others. -/
def Channel.onAt (c : Channel) : Int :=
  let name := Text.upper c.symbolicName
  if name.contains "STATE2_" || name.contains "LOCK2_" then 2
  else if name.contains "STATE3_" || name.contains "SAFETY_" || name.contains "LOCK3_" then 3
  else 1

/-- **A switch is on exactly when its value is present and reads as the number it is on at.** -/
theorem switchState_on (c : Channel) (v : String) :
    switchState c (.str v) = .ok (some true) ↔ v ≠ "" ∧ wholeNumberOf v = some c.onAt := by
  unfold switchState
  by_cases he : v = ""
  · subst he
    simp [Value.truthy, pure, Except.pure]
  have htruthy : (Value.str v).truthy = true := by simpa [Value.truthy, String.isEmpty_iff] using he
  simp only [htruthy, Bool.not_true, Bool.false_eq_true, if_false, Value.toFloat, ne_eq, he, not_false_eq_true,
    true_and]
  cases hr : readFloat v with
  | error e =>
    -- a value that is no float is no number: the switch has no state
    obtain ⟨m, rfl⟩ := readFloat_error hr
    have hw : wholeNumberOf v = none := by
      rw [wholeNumberOf, hr]
      rfl
    simp [hw, pure, Except.pure]
  | ok x =>
    have hw : wholeNumberOf v = (floatToInt x).toOption := by rw [wholeNumberOf, hr]; rfl
    cases hi : floatToInt x with
    | error e =>
      -- nor is one that is no whole number, and one that overflows is a fault
      simp only [hw, hi]
      split
      · simp [pure, Except.pure, Except.toOption]
      · simp [throw, throwThe, MonadExceptOf.throw, bind, Except.bind, Except.toOption]
      · cases ‹Except.error e = Except.ok _›
    | ok n =>
      simp only [hw, hi, Channel.onAt]
      split_ifs <;> simp [pure, Except.pure, bind, Except.bind, Except.toOption]

/-- The numeral of the number a switch is on at reads as that number. -/
theorem wholeNumberOf_onAt (c : Channel) : wholeNumberOf (toString c.onAt) = some c.onAt := by
  unfold Channel.onAt
  dsimp only
  split_ifs <;> decide

/-- **Whether a text is spelled as the whole number it reads as**: reading it through a float gives
no whole number, or one whose numeral it is. -/
def SpelledAsNumber (v : String) : Prop := ∀ n, wholeNumberOf v = some n → v = toString n

/-- **A test of the aggregate agrees with the switch** of a field whose value is a text or nothing,
spelled as its number, when the test asks of the fields of a family (`fam`) that their value be the
numeral of the number their switch is on at. -/
theorem passes_iff_switchOn {test : Channel → String → Bool} {fam : Bool} {c : Channel} {f : StatusField}
    (htest : ∀ v, test c v = (!fam || v == toString c.onAt))
    (hval : f.get "value" = .null ∨ ∃ v, f.get "value" = .str v)
    (hspelled : fam = true → ∀ v, f.value? = some v → SpelledAsNumber v) :
    Aggregate.Passes test (c, f) ↔
      (fam = true → (f.get "value").truthy = true → switchState c (f.get "value") = .ok (some true)) := by
  cases fam
  case false => simp [Aggregate.Passes, htest]
  rcases hval with hnull | ⟨v, hv⟩
  · -- no value: the field passes, and its switch is asked nothing
    have hnone : f.value? = none := by rw [StatusField.value?, hnull]; rfl
    simp [Aggregate.Passes, hnone, hnull, Value.truthy]
  have hsome : f.value? = some v := by rw [StatusField.value?, hv]; rfl
  -- a present value reads as the number the switch is on at exactly when it is its numeral
  have hread : wholeNumberOf v = some c.onAt ↔ v = toString c.onAt := by
    constructor
    · exact hspelled rfl v hsome c.onAt
    · rintro rfl
      exact wholeNumberOf_onAt c
  have hempty : v.isEmpty = false ↔ ¬v = "" := by
    rw [Bool.eq_false_iff, ne_eq, String.isEmpty_iff]
  rw [hv, switchState_on, hread]
  simp only [Aggregate.Passes, hsome, htest, Value.truthy, Option.some.injEq, forall_eq', Bool.not_true,
    Bool.false_or, beq_iff_eq, forall_const, Bool.not_eq_true', hempty, ne_eq]
  exact ⟨fun h hne => ⟨hne, h hne⟩, fun h hne => (h hne).2⟩

/-- **The switch families of the built-in table**: every lock is a switch on at 2 whose name has
`LOCK2` and not `LOCK3`; every window state is a switch on at 3; every current tire pressure and
every maintenance alarm is a switch on at 1. -/
theorem Channel.table_switchFamilies : ∀ c ∈ Channel.table,
    (c.symbolicName.contains "LOCK" = true → (c.itemKind == .switch) = true ∧ c.onAt = 2 ∧
      c.symbolicName.contains "LOCK2" = true ∧ c.symbolicName.contains "LOCK3" = false) ∧
    ((c.symbolicName.contains "WINDOWS" && c.symbolicName.contains "STATE") = true →
      (c.itemKind == .switch) = true ∧ c.onAt = 3) ∧
    ((c.symbolicName.contains "TIREPRESS" && c.symbolicName.contains "CURRENT") = true →
      (c.itemKind == .switch) = true ∧ c.onAt = 1) ∧
    (c.symbolicName.contains "MAINT_ALARM" = true → (c.itemKind == .switch) = true ∧ c.onAt = 1) := by
  simp only [Channel.onAt, String.contains_string_eq_internal]
  decide +kernel

theorem ChannelTable.find?_rewrite_same {acc : List (String × Channel)} {kc : String}
    (h : acc.any (·.1 == kc) = true) (c : Channel) :
    (acc.map fun e => if e.1 == kc then (kc, c) else e).find? (·.1 == kc) = some (kc, c) := by
  induction acc with
  | nil => simp at h
  | cons e acc ih =>
    rw [List.map_cons, List.find?_cons]
    by_cases he : e.1 = kc
    · simp [he]
    · have h' : acc.any (·.1 == kc) = true := by simpa [he] using h
      have hb : (e.1 == kc) = false := by simpa using he
      simp only [hb, Bool.false_eq_true, if_false]
      exact ih h'

theorem ChannelTable.find?_rewrite_other {acc : List (String × Channel)} {kc k : String} (hne : kc ≠ k)
    (c : Channel) :
    (acc.map fun e => if e.1 == kc then (kc, c) else e).find? (·.1 == k) = acc.find? (·.1 == k) := by
  induction acc with
  | nil => rfl
  | cons e acc ih =>
    rw [List.map_cons, List.find?_cons, List.find?_cons]
    by_cases he : e.1 = kc
    · have hb : (e.1 == kc) = true := by simpa using he
      have hk : (kc == k) = false := by simpa using hne
      have hek : (e.1 == k) = false := by simpa [he] using hne
      simp only [hb, if_true, hk, hek]
      exact ih
    · have hb : (e.1 == kc) = false := by simpa using he
      simp only [hb, Bool.false_eq_true, if_false]
      rw [ih]

/-- One definition written into a table: under its own key the table then finds it, under any
other key what it found before. -/
theorem ChannelTable.find_step (acc : List (String × Channel)) (c : Channel) (k : String) :
    ((if acc.any (·.1 == Text.upper c.id) then
        acc.map (fun e => if e.1 == Text.upper c.id then (Text.upper c.id, c) else e)
      else acc ++ [(Text.upper c.id, c)]).find? (·.1 == k)).map (·.2) =
      if Text.upper c.id == k then some c else (acc.find? (·.1 == k)).map (·.2) := by
  generalize Text.upper c.id = kc
  by_cases hk : kc = k
  · subst hk
    split
    · rename_i hany
      rw [ChannelTable.find?_rewrite_same hany]
      simp
    · -- no entry is under the key yet
      rename_i hany
      have hnone : acc.find? (·.1 == kc) = none := by
        rw [List.find?_eq_none]
        intro e he
        simpa using List.any_eq_false.1 (Bool.eq_false_iff.2 hany) e he
      simp [List.find?_append, hnone]
  · split
    · rw [ChannelTable.find?_rewrite_other hk]
      simp [hk]
    · simp [List.find?_append, hk]

theorem ChannelTable.find_foldl (k : String) : ∀ (cs : List Channel) (acc : List (String × Channel)),
    ((cs.foldl (fun acc c =>
        let k := Text.upper c.id
        if acc.any (·.1 == k) then acc.map (fun e => if e.1 == k then (k, c) else e)
        else acc ++ [(k, c)]) acc).find? (·.1 == k)).map (·.2) =
      (cs.reverse.find? (Text.upper ·.id == k)).or ((acc.find? (·.1 == k)).map (·.2))
  | [], acc => by simp
  | c :: cs, acc => by
    -- the definitions after `c` come first, then `c`, then the table it was written into
    rw [List.foldl_cons, ChannelTable.find_foldl k cs, ChannelTable.find_step, List.reverse_cons, List.find?_append,
      Option.or_assoc]
    by_cases hk : Text.upper c.id = k <;> simp [hk]

/-- **A table built from a list finds the last definition of an id** in the list, letter case
ignored. -/
theorem ChannelTable.find_ofList (cs : List Channel) (id : String) :
    (ChannelTable.ofList cs).find id = cs.reverse.find? (Text.upper ·.id == Text.upper id) := by
  have h := ChannelTable.find_foldl (Text.upper id) cs []
  simp only [List.find?_nil, Option.map_none, Option.or_none] at h
  exact h

/-- Every definition a table built from a list finds is one of the list. -/
theorem ChannelTable.find_ofList_mem {cs : List Channel} {id : String} {c : Channel}
    (h : (ChannelTable.ofList cs).find id = some c) : c ∈ cs := by
  rw [ChannelTable.find_ofList] at h
  exact List.mem_reverse.1 (List.mem_of_find?_eq_some h)

/-- A feeding field is a field of the report, with the definition the table finds for it. -/
theorem mem_feedingFields {r : StatusReport} {t : ChannelTable} {cf : Channel × StatusField}
    (h : cf ∈ feedingFields r t) : (∃ bid, (bid, cf.2) ∈ r.fields) ∧ t.find cf.2.id = some cf.1 := by
  obtain ⟨⟨bid, f⟩, hbf, hsel⟩ := List.mem_filterMap.1 h
  obtain ⟨c, hc, hsel⟩ := Option.bind_eq_some_iff.1 hsel
  split at hsel
  · cases hsel
  · cases hsel
    exact ⟨⟨bid, hbf⟩, hc⟩

/-- A test asking a family to be at the text `t` asks it to be at the numeral of `n`, when that
numeral is `t`. -/
theorem offText_eq {fam : Bool} {t v : String} {n : Int} (hn : fam = true → toString n = t) :
    (!(fam && v != t)) = (!fam || v == toString n) := by
  cases fam
  · rfl
  · rw [hn rfl]
    simp [bne]

/-- The empty text reads as no number. -/
theorem wholeNumberOf_empty : wholeNumberOf "" = none := by decide

/-- An AdBlue range is low exactly when it reads as a number below the least one. -/
theorem Aggregate.adBlueLow_iff {c : Channel} {v : String} :
    Aggregate.adBlueLow c v = true ↔
      c.symbolicName.contains "AD_BLUE_RANGE" = true ∧ ∃ n, wholeNumberOf v = some n ∧ n < adBlueMinimum := by
  unfold Aggregate.adBlueLow
  cases wholeNumberOf v <;> simp

/-- A field passes two tests at once exactly when it passes each. -/
theorem Aggregate.passes_and {t1 t2 : Channel → String → Bool} {cf : Channel × StatusField} :
    Aggregate.Passes (fun c v => t1 c v && t2 c v) cf ↔ Aggregate.Passes t1 cf ∧ Aggregate.Passes t2 cf := by
  simp only [Aggregate.Passes, Bool.and_eq_true]
  exact ⟨fun h => ⟨fun v hv he => (h v hv he).1, fun v hv he => (h v hv he).2⟩,
    fun h v hv he => ⟨h.1 v hv he, h.2 v hv he⟩⟩

/-- A kind that compares equal to the switch kind is it. -/
theorem ItemKind.eq_switch_of_beq {k : ItemKind} (h : (k == .switch) = true) : k = .switch := by
  cases k <;> first | rfl | cases h

/-! ## The aggregate against the switches -/

/-- **The aggregate `a` agrees with the switches of the fields `F`**: the vehicle is locked exactly
when the switch of every lock with a present value is on; the windows are closed, and the tires ok,
likewise for the window states and the current tire pressures; and maintenance is called for
exactly when some maintenance alarm with a present value has a switch that is not on, or some AdBlue
range reads as a number below the least one. -/
structure AgreesWithSwitches (F : List (Channel × StatusField)) (a : Aggregate) : Prop where
  locked : a.vehicleLocked = true ↔ ∀ cf ∈ F, cf.1.symbolicName.contains "LOCK" = true →
    (cf.2.get "value").truthy = true → switchState cf.1 (cf.2.get "value") = .ok (some true)
  windows : a.windowsClosed = true ↔ ∀ cf ∈ F,
    (cf.1.symbolicName.contains "WINDOWS" && cf.1.symbolicName.contains "STATE") = true →
      (cf.2.get "value").truthy = true → switchState cf.1 (cf.2.get "value") = .ok (some true)
  tires : a.tiresOk = true ↔ ∀ cf ∈ F,
    (cf.1.symbolicName.contains "TIREPRESS" && cf.1.symbolicName.contains "CURRENT") = true →
      (cf.2.get "value").truthy = true → switchState cf.1 (cf.2.get "value") = .ok (some true)
  maintenance : a.maintenanceRequired = true ↔
    (∃ cf ∈ F, cf.1.symbolicName.contains "MAINT_ALARM" = true ∧ (cf.2.get "value").truthy = true ∧
        switchState cf.1 (cf.2.get "value") ≠ .ok (some true)) ∨
    (∃ cf ∈ F, cf.1.symbolicName.contains "AD_BLUE_RANGE" = true ∧
        ∃ v n, cf.2.value? = some v ∧ wholeNumberOf v = some n ∧ n < adBlueMinimum)

/-- **What the agreement asks of the fields an aggregate is folded over**: each has a definition of
the built-in table and a text or no value, and each switch value is spelled as its number. -/
structure SwitchFields (F : List (Channel × StatusField)) : Prop where
  builtIn : ∀ cf ∈ F, cf.1 ∈ Channel.table
  text : ∀ cf ∈ F, cf.2.get "value" = .null ∨ ∃ v, cf.2.get "value" = .str v
  spelled : ∀ cf ∈ F, cf.1.itemKind = .switch → ∀ v, cf.2.value? = some v → SpelledAsNumber v

namespace SwitchFields

variable {F : List (Channel × StatusField)} {u : Aggregate} (hF : SwitchFields F)
  (hfold : F.foldlM (fun (a : Aggregate) (cf : Channel × StatusField) => a.update cf.1 cf.2) {} = .ok u)
include hF

/-- Over such fields, a test asking the switches of a family of the table to be at the numeral of
the number they are on at is those switches being on. -/
theorem passes_iff (test : Channel → String → Bool) (fam : Channel → Bool)
    (hsw : ∀ c ∈ Channel.table, fam c = true → (c.itemKind == .switch) = true)
    (htest : ∀ c ∈ Channel.table, ∀ v, test c v = (!fam c || v == toString c.onAt))
    {cf : Channel × StatusField} (hcf : cf ∈ F) :
    Aggregate.Passes test cf ↔
      (fam cf.1 = true → (cf.2.get "value").truthy = true → switchState cf.1 (cf.2.get "value") = .ok (some true)) :=
  passes_iff_switchOn (htest cf.1 (hF.builtIn cf hcf)) (hF.text cf hcf) fun hfam =>
    hF.spelled cf hcf (ItemKind.eq_switch_of_beq (hsw cf.1 (hF.builtIn cf hcf) hfam))

include hfold

/-- **A flag that each field clears when it fails a test asking a family of the table's switches to
be at their numeral** holds after the fold exactly when every switch of the family with a present
value is on. -/
theorem flag_iff (flag : Aggregate → Bool) (test : Channel → String → Bool) (fam : Channel → Bool)
    (hflag : ∀ a c v, flag (a.withField c v) = (flag a && test c v)) (hstart : flag {} = true)
    (hsw : ∀ c ∈ Channel.table, fam c = true → (c.itemKind == .switch) = true)
    (htest : ∀ c ∈ Channel.table, ∀ v, test c v = (!fam c || v == toString c.onAt)) :
    flag u = true ↔ ∀ cf ∈ F, fam cf.1 = true →
      (cf.2.get "value").truthy = true → switchState cf.1 (cf.2.get "value") = .ok (some true) := by
  rw [Aggregate.foldlM_update_flag flag test hflag F {} u hfold]
  exact (and_iff_right hstart).trans (forall₂_congr fun cf hcf => hF.passes_iff test fam hsw htest hcf)

/-- The vehicle is locked exactly when the switch of every lock with a present value is on. -/
theorem vehicleLocked_iff :
    u.vehicleLocked = true ↔ ∀ cf ∈ F, cf.1.symbolicName.contains "LOCK" = true →
      (cf.2.get "value").truthy = true → switchState cf.1 (cf.2.get "value") = .ok (some true) := by
  refine hF.flag_iff hfold _ _ (fun c => c.symbolicName.contains "LOCK") (fun _ _ _ => rfl) rfl
    (fun c hc hlock => ((Channel.table_switchFamilies c hc).1 hlock).1) ?_
  -- a lock of the table is at its locked text exactly at the numeral of 2
  intro c hc v
  cases hlock : c.symbolicName.contains "LOCK"
  · simp [Aggregate.lockTest, hlock]
  · obtain ⟨-, hon, h2, h3⟩ := (Channel.table_switchFamilies c hc).1 hlock
    simp only [Aggregate.lockTest, hlock, h2, h3, hon, Bool.not_true, Bool.false_or, Bool.true_and,
      Bool.false_and, Bool.or_false]
    rfl

/-- The windows are closed exactly when the switch of every window state with a present value is on. -/
theorem windowsClosed_iff :
    u.windowsClosed = true ↔ ∀ cf ∈ F, (cf.1.symbolicName.contains "WINDOWS" && cf.1.symbolicName.contains "STATE") = true →
      (cf.2.get "value").truthy = true → switchState cf.1 (cf.2.get "value") = .ok (some true) :=
  hF.flag_iff hfold _ _ (fun c => c.symbolicName.contains "WINDOWS" && c.symbolicName.contains "STATE")
    (fun _ _ _ => rfl) rfl (fun c hc hwin => ((Channel.table_switchFamilies c hc).2.1 hwin).1)
    fun c hc _ => offText_eq fun hwin => by rw [((Channel.table_switchFamilies c hc).2.1 hwin).2]; rfl

/-- The tires are ok exactly when the switch of every current tire pressure with a present value is on. -/
theorem tiresOk_iff :
    u.tiresOk = true ↔ ∀ cf ∈ F, (cf.1.symbolicName.contains "TIREPRESS" && cf.1.symbolicName.contains "CURRENT") = true →
      (cf.2.get "value").truthy = true → switchState cf.1 (cf.2.get "value") = .ok (some true) :=
  hF.flag_iff hfold _ _ (fun c => c.symbolicName.contains "TIREPRESS" && c.symbolicName.contains "CURRENT")
    (fun _ _ _ => rfl) rfl (fun c hc htire => ((Channel.table_switchFamilies c hc).2.2.1 htire).1)
    fun c hc _ => offText_eq fun htire => by rw [((Channel.table_switchFamilies c hc).2.2.1 htire).2]; rfl

/-- **Maintenance is called for** exactly when some maintenance alarm with a present value has a
switch that is not on, or some AdBlue range reads as a number below the least one. -/
theorem maintenanceRequired_iff :
    u.maintenanceRequired = true ↔
      (∃ cf ∈ F, cf.1.symbolicName.contains "MAINT_ALARM" = true ∧ (cf.2.get "value").truthy = true ∧
          switchState cf.1 (cf.2.get "value") ≠ .ok (some true)) ∨
      (∃ cf ∈ F, cf.1.symbolicName.contains "AD_BLUE_RANGE" = true ∧
          ∃ v n, cf.2.value? = some v ∧ wholeNumberOf v = some n ∧ n < adBlueMinimum) := by
  -- the flag that stays is "no maintenance", which a raised alarm or a low range clears
  have hfold' := Aggregate.foldlM_update_flag (fun a => !a.maintenanceRequired)
    (fun c v => !Aggregate.alarmRaised c v && !Aggregate.adBlueLow c v)
    (fun a c v => by simp only [Aggregate.withField, Bool.not_or, Bool.and_assoc]) F {} u hfold
  have halarm : ∀ cf ∈ F, Aggregate.Passes (fun c v => !Aggregate.alarmRaised c v) cf ↔
      (cf.1.symbolicName.contains "MAINT_ALARM" = true → (cf.2.get "value").truthy = true →
        switchState cf.1 (cf.2.get "value") = .ok (some true)) := fun cf hcf =>
    hF.passes_iff _ (fun c => c.symbolicName.contains "MAINT_ALARM")
      (fun c hc halarm => ((Channel.table_switchFamilies c hc).2.2.2 halarm).1)
      (fun c hc _ => offText_eq fun halarm => by rw [((Channel.table_switchFamilies c hc).2.2.2 halarm).2]; rfl) hcf
  have hlow : ∀ cf : Channel × StatusField, ¬Aggregate.Passes (fun c v => !Aggregate.adBlueLow c v) cf ↔
      cf.1.symbolicName.contains "AD_BLUE_RANGE" = true ∧
        ∃ v n, cf.2.value? = some v ∧ wholeNumberOf v = some n ∧ n < adBlueMinimum := by
    intro cf
    constructor
    · intro h
      obtain ⟨v, hv⟩ := Classical.not_forall.1 h
      obtain ⟨hval, hv⟩ := Classical.not_imp.1 hv
      obtain ⟨-, hv⟩ := Classical.not_imp.1 hv
      obtain ⟨hAD, n, hn, hlt⟩ := Aggregate.adBlueLow_iff.1 (by simpa using hv)
      exact ⟨hAD, v, n, hval, hn, hlt⟩
    · rintro ⟨hAD, v, n, hv, hn, hlt⟩ hpass
      have hne : v ≠ "" := fun he => by
        rw [he, wholeNumberOf_empty] at hn
        cases hn
      have hpassed : (!Aggregate.adBlueLow cf.1 v) = true := hpass v hv hne
      rw [Aggregate.adBlueLow_iff.2 ⟨hAD, n, hn, hlt⟩] at hpassed
      cases hpassed
  simp only [Aggregate.passes_and, Bool.not_false, true_and] at hfold'
  rw [← Bool.not_eq_false, ← Bool.not_eq_true', hfold']
  -- some field fails one of the two tests: an alarm whose switch is off, or a low range
  constructor
  · intro hnot
    obtain ⟨cf, hfail⟩ := Classical.not_forall.1 hnot
    obtain ⟨hcf, hfail⟩ := Classical.not_imp.1 hfail
    by_cases hpass : Aggregate.Passes (fun c v => !Aggregate.alarmRaised c v) cf
    · exact .inr ⟨cf, hcf, (hlow cf).1 fun hp => hfail ⟨hpass, hp⟩⟩
    · rw [halarm cf hcf] at hpass
      obtain ⟨hMA, hpass⟩ := Classical.not_imp.1 hpass
      obtain ⟨htruthy, hoff⟩ := Classical.not_imp.1 hpass
      exact .inl ⟨cf, hcf, hMA, htruthy, hoff⟩
  · rintro (⟨cf, hcf, hMA, htruthy, hoff⟩ | ⟨cf, hcf, hrange⟩) hall
    · exact hoff ((halarm cf hcf).1 (hall cf hcf).1 hMA htruthy)
    · exact (hlow cf).2 hrange (hall cf hcf).2

end SwitchFields

/-- **For a report read from a document and processed with the built-in table, where every switch
value is spelled as the numeral of the whole number it reads as, the aggregate agrees with the
switches of the same fields.** -/
theorem aggregate_agrees_with_switches {doc : Value} {r : StatusReport} {chs : Option (List String)}
    {u : StatusUpdate} (hr : StatusReport.read doc = .ok r)
    (hu : processReport r ChannelTable.builtIn chs = .ok u)
    (hspelled : ∀ cf ∈ feedingFields r ChannelTable.builtIn, cf.1.itemKind = .switch →
      ∀ v, cf.2.value? = some v → SpelledAsNumber v) :
    AgreesWithSwitches (feedingFields r ChannelTable.builtIn) u.aggregate := by
  have hfold := processReport_aggregate hu
  -- the fields the aggregate is folded over are the table's, with a text or no value
  have hF : SwitchFields (feedingFields r ChannelTable.builtIn) := by
    refine ⟨fun cf hcf => ?_, fun cf hcf => ?_, hspelled⟩
    · exact ChannelTable.find_ofList_mem (mem_feedingFields hcf).2
    · obtain ⟨⟨bid, hbf⟩, -⟩ := mem_feedingFields hcf
      exact StatusReport.read_values doc r hr (bid, cf.2) hbf
  exact ⟨hF.vehicleLocked_iff hfold, hF.windowsClosed_iff hfold, hF.tiresOk_iff hfold,
    hF.maintenanceRequired_iff hfold⟩

/-! ## A lock reported as `2` and as `2.0` -/

/-- A report whose one field is the left front door's lock at `value`, as the service sends it. -/
def frontLockDoc (value : String) : Value :=
  .obj [("StoredVehicleDataResponse", .obj [("vin", .str "V"), ("vehicleData", .obj [("data",
    .list [.obj [("id", .str "0x030104FFFF"), ("field", .list [.obj [("id", .str "0x0301040001"),
      ("value", .str value)]])]])])])]

/-- The field of that report, as it is read. -/
def frontLockField (value : String) : StatusField :=
  ⟨"0x0301040001", [("id", .str "0x0301040001"), ("ts_car_sent_utc", .null), ("ts_car_sent", .null),
    ("ts_car_captured", .null), ("ts_tss_received_utc", .null), ("mil_car_captured", .null),
    ("mil_car_sent", .null), ("value", .str value), ("unit", .null)]⟩

/-- The report, as it is read. -/
def frontLockReport (value : String) : StatusReport := ⟨"V", [⟨"0x030104FFFF", [frontLockField value]⟩]⟩

theorem frontLockDoc_read (value : String) :
    StatusReport.read (frontLockDoc value) = .ok (frontLockReport value) := rfl

/-- The feeding fields of that report are its one field. -/
theorem frontLockReport_feeding {value : String} {cf : Channel × StatusField}
    (h : cf ∈ feedingFields (frontLockReport value) ChannelTable.builtIn) : cf.2 = frontLockField value := by
  obtain ⟨⟨bid, hbf⟩, -⟩ := mem_feedingFields h
  exact (Prod.mk.inj (List.mem_singleton.1 hbf)).2

/-- The built-in table defines the field as the left front door's lock. -/
theorem frontLock_find : ∃ c, ChannelTable.builtIn.find "0x0301040001" = some c ∧
    c.symbolicName = "LOCK2_DOOR_LEFT_FRONT" ∧ c.channel = "lockLeftFront" ∧ c.itemKind = .switch := by
  have h : (ChannelTable.builtIn.find "0x0301040001").map
      (fun c => (c.symbolicName, c.channel, c.itemKind == .switch)) = some ("LOCK2_DOOR_LEFT_FRONT", "lockLeftFront", true) := by
    rw [ChannelTable.builtIn, ChannelTable.find_ofList]
    rfl
  cases hc : ChannelTable.builtIn.find "0x0301040001" with
  | none =>
    rw [hc] at h
    cases h
  | some c =>
    rw [hc] at h
    simp only [Option.map_some, Option.some.injEq, Prod.mk.injEq] at h
    exact ⟨c, rfl, h.1, h.2.1, ItemKind.eq_switch_of_beq h.2.2⟩

section FrontLock

variable {c : Channel} (hsym : c.symbolicName = "LOCK2_DOOR_LEFT_FRONT")
include hsym

/-- The lock is on at 2. -/
theorem frontLock_onAt : c.onAt = 2 := by
  have hu : Text.upper "LOCK2_DOOR_LEFT_FRONT" = "LOCK2_DOOR_LEFT_FRONT" := by
    simp [Text.upper, Text.upperOf]
  have hl : "LOCK2_DOOR_LEFT_FRONT".contains "LOCK2_" = true := by
    simp only [String.contains_string_iff, String.reduceToList]
    decide
  simp only [Channel.onAt, hsym, hu, hl, Bool.or_true, if_true]

/-- Folding the lock at a present `value` into the fresh aggregate cannot fail: the lock is no
AdBlue range. -/
theorem frontLock_update {value : String} (hne : value ≠ "") :
    Aggregate.update {} c (frontLockField value) = .ok (Aggregate.withField {} c value) := by
  have hAD : c.symbolicName.contains "AD_BLUE_RANGE" = false := by
    rw [hsym]
    simp only [String.contains_string_eq_false_iff, String.reduceToList]
    decide
  have hempty : value.isEmpty = false := Bool.eq_false_iff.2 fun h => hne (String.isEmpty_iff.1 h)
  have hv : (frontLockField value).value? = some value := rfl
  obtain ⟨a, ha⟩ : ∃ a, Aggregate.update {} c (frontLockField value) = .ok a := by
    simp only [Aggregate.update, Aggregate.step, hv, hempty, hAD, Bool.false_eq_true, if_false, pure, Except.pure]
    exact ⟨_, rfl⟩
  rw [ha, (Aggregate.update_ok ha).1 value hv hne]

/-- The lock left locked by the text `value` is locked exactly at the text 2. -/
theorem frontLock_lockTest (value : String) : Aggregate.lockTest c value = (value == "2") := by
  -- the lock's name read character by character
  have hL : c.symbolicName.contains "LOCK" = true := by
    rw [hsym]
    simp only [String.contains_string_iff, String.reduceToList]
    decide
  have hL2 : c.symbolicName.contains "LOCK2" = true := by
    rw [hsym]
    simp only [String.contains_string_iff, String.reduceToList]
    decide
  have hL3 : c.symbolicName.contains "LOCK3" = false := by
    rw [hsym]
    simp only [String.contains_string_eq_false_iff, String.reduceToList]
    decide
  simp only [Aggregate.lockTest, hL, hL2, hL3, Bool.not_true, Bool.false_or, Bool.true_and, Bool.false_and,
    Bool.or_false]

end FrontLock

/-- Processing the report of the lock at `value` with a table that defines it, when its switch and
its fold succeed. -/
theorem frontLockReport_processed (value : String) {t : ChannelTable} {c : Channel}
    (hfind : t.find "0x0301040001" = some c) (hchan : c.channel = "lockLeftFront")
    (hkind : c.itemKind = .switch) {b : Bool} (hs : switchState c (.str value) = .ok (some b)) {a : Aggregate}
    (ha : Aggregate.update {} c (frontLockField value) = .ok a) :
    processReport (frontLockReport value) t none = .ok ⟨[(c.key, .bool b)], a⟩ := by
  have hempty : c.channel.isEmpty = false := by
    rw [hchan]
    rfl
  have hid : (frontLockField value).id = "0x0301040001" := rfl
  have hget : (frontLockField value).get "value" = .str value := rfl
  simp only [processReport, StatusReport.fields, frontLockReport, List.flatMap_cons, List.flatMap_nil,
    List.map_cons, List.map_nil, List.append_nil, List.foldlM_cons, List.foldlM_nil, hid, hfind, hempty,
    Bool.false_eq_true, if_false, if_true, channelValue, hkind, hget, hs, ha, bind, Except.bind, pure,
    Except.pure, Value.ofBoolOption]
  rfl

/-- The lock reported as `2` in a report read and processed: the aggregate agrees with its switch. -/
theorem aggregate_agrees_with_switches_lockedDoor :
    StatusReport.read (frontLockDoc "2") = .ok (frontLockReport "2") ∧
      ∃ u, processReport (frontLockReport "2") ChannelTable.builtIn none = .ok u ∧
        (∀ cf ∈ feedingFields (frontLockReport "2") ChannelTable.builtIn, cf.1.itemKind = .switch →
          ∀ v, cf.2.value? = some v → SpelledAsNumber v) ∧
        AgreesWithSwitches (feedingFields (frontLockReport "2") ChannelTable.builtIn) u.aggregate := by
  obtain ⟨c, hfind, hsym, hchan, hkind⟩ := frontLock_find
  have hs : switchState c (.str "2") = .ok (some true) := by
    rw [switchState_on, frontLock_onAt hsym]
    exact ⟨by decide, by decide⟩
  have hu := frontLockReport_processed "2" hfind hchan hkind hs (frontLock_update hsym (by decide))
  -- the one value, 2, is the numeral of the number it reads as
  have hspelled : ∀ cf ∈ feedingFields (frontLockReport "2") ChannelTable.builtIn, cf.1.itemKind = .switch →
      ∀ v, cf.2.value? = some v → SpelledAsNumber v := by
    intro cf hcf _ v hv n hn
    rw [frontLockReport_feeding hcf] at hv
    cases hv
    have h2 : wholeNumberOf "2" = some 2 := by decide
    rw [h2] at hn
    cases hn
    rfl
  exact ⟨frontLockDoc_read "2", _, hu, hspelled, aggregate_agrees_with_switches (frontLockDoc_read "2") hu hspelled⟩

/-- **The aggregate does not agree with the switch of a lock reported as `2.0`**: read and processed,
the report's lock is on as a switch, since 2.0 reads as 2, and the aggregate still says the vehicle
is not locked, since `2.0` is not the text `2`. -/
theorem lockedAggregate_misses_decimalTwo :
    StatusReport.read (frontLockDoc "2.0") = .ok (frontLockReport "2.0") ∧
      ∃ u, processReport (frontLockReport "2.0") ChannelTable.builtIn none = .ok u ∧
        ¬AgreesWithSwitches (feedingFields (frontLockReport "2.0") ChannelTable.builtIn) u.aggregate := by
  have hread : wholeNumberOf "2.0" = some 2 := by decide
  obtain ⟨c, hfind, hsym, hchan, hkind⟩ := frontLock_find
  have hs : switchState c (.str "2.0") = .ok (some true) := by
    rw [switchState_on, frontLock_onAt hsym]
    exact ⟨by decide, hread⟩
  have hu := frontLockReport_processed "2.0" hfind hchan hkind hs (frontLock_update hsym (by decide))
  refine ⟨frontLockDoc_read "2.0", _, hu, fun h => ?_⟩
  -- every lock among the report's fields is this one, on at 2.0
  have hon : ∀ cf ∈ feedingFields (frontLockReport "2.0") ChannelTable.builtIn,
      cf.1.symbolicName.contains "LOCK" = true → (cf.2.get "value").truthy = true →
        switchState cf.1 (cf.2.get "value") = .ok (some true) := by
    intro cf hcf hlock _
    have hc : cf.1 ∈ Channel.table := ChannelTable.find_ofList_mem (mem_feedingFields hcf).2
    rw [frontLockReport_feeding hcf]
    exact (switchState_on _ _).2 ⟨by decide, by rw [((Channel.table_switchFamilies _ hc).1 hlock).2.1]; exact hread⟩
  have hlocked := h.locked.2 hon
  simp only [Aggregate.withField, frontLock_lockTest hsym] at hlocked
  cases hlocked

end ConnectedHome.Vehicle
