import ConnectedHome.Speaker.Entities
import ConnectedHome.Proofs.LinkServer
import Mathlib.Data.List.Induction
/-!
# PresetSelection — the presets offered and choosing one

A preset refresh reads the presets and the recent entries (`readPresets`) and, when both reads
succeed, offers every preset with text, labelled `#<n> <text>` with its position `n` counted from
one (`presetOptions_eq_filterMap`), in increasing order of number (`presetOptions_pairwise`).  The
current preset is the number an event reported, else the last position whose text is the newest
recent entry (`presetNumberOf_greatest`).  A refresh whose reads fail with a fault of the speaker
keeps what was known (`updatePresets_run'`).

The preset select offers the labels and shows the label of the current preset.  Choosing a label
that is no option is refused before any request (`presetSelect_unknown`); choosing an option recalls
its preset, and the select then shows that option, because the numbers of the options differ
(`presetSelect_recalled`).  The recall can still fail, and a recall that fails with a fault of the
speaker is refused as a failed command like an unknown label (`presetSelect_refused`,
`presetSelect_refusedRecall`).  `presetSelection_law` puts the refresh and the choice together.
-/
namespace ConnectedHome.Speaker

open SpeakerClient

/-! ## The options -/

/-- The option of the preset `p` at position `i`: none for a preset without text. -/
def presetOptionAt (i : Nat) (p : Preset) : Option PresetOption :=
  if p.text.isEmpty then none else some ⟨i, s!"#{i} {p.text}"⟩

/-- **The options are the presets with text, at their positions**, counted from `n`. -/
theorem presetOptions_eq_filterMap (n : Nat) (ps : List Preset) :
    presetOptions n ps = (ps.zipIdx n).filterMap fun e => presetOptionAt e.2 e.1 := by
  induction ps generalizing n with
  | nil => rfl
  | cons p ps ih =>
    rw [List.zipIdx_cons, List.filterMap_cons, presetOptions, ih]
    cases h : p.text.isEmpty <;> simp [presetOptionAt, h]

theorem le_number_of_mem_presetOptions {n : Nat} {ps : List Preset} {o : PresetOption}
    (h : o ∈ presetOptions n ps) : n ≤ o.number := by
  rw [presetOptions_eq_filterMap] at h
  obtain ⟨e, he, ho⟩ := List.mem_filterMap.1 h
  unfold presetOptionAt at ho
  split at ho
  · cases ho
  · cases ho
    exact List.le_snd_of_mem_zipIdx he

/-- **The options are in increasing order of number.** -/
theorem presetOptions_pairwise (n : Nat) (ps : List Preset) :
    (presetOptions n ps).Pairwise fun a b => a.number < b.number := by
  induction ps generalizing n with
  | nil => exact .nil
  | cons p ps ih =>
    rw [presetOptions]
    split
    · exact ih (n + 1)
    · -- the first option is numbered `n`, and every later one from `n + 1`
      exact List.pairwise_cons.2 ⟨fun o ho => le_number_of_mem_presetOptions ho, ih (n + 1)⟩

/-! ## The current preset -/

/-- The preset at position `i`, counted from one, has the text `t`, which is not empty. -/
def NamesPreset (ps : List Preset) (t : String) (i : Nat) : Prop :=
  ∃ p, (p, i) ∈ ps.zipIdx 1 ∧ p.text ≠ "" ∧ p.text = t

/-- The last preset decides: a preset appended with the text `t` is the one numbered. -/
theorem presetNumberOf_append (ps : List Preset) (p : Preset) (t : String) :
    presetNumberOf (ps ++ [p]) t = if !p.text.isEmpty && p.text == t then ps.length + 1 else presetNumberOf ps t := by
  unfold presetNumberOf
  rw [List.length_append, List.length_singleton, List.range_succ, List.zip_append (by simp), List.foldl_append]
  rfl

/-- **The number of the preset of text `t` is the last position with that text**: every position
with it is at most that number, which is such a position or 0. -/
theorem presetNumberOf_greatest (ps : List Preset) (t : String) :
    (∀ i, NamesPreset ps t i → i ≤ presetNumberOf ps t) ∧
      (presetNumberOf ps t = 0 ∨ NamesPreset ps t (presetNumberOf ps t)) := by
  induction ps using List.reverseRecOn with
  | nil =>
    refine ⟨fun i h => ?_, .inl rfl⟩
    obtain ⟨p, hp, -⟩ := h
    cases hp
  | append_singleton ps p ih =>
    -- a position of the presets is one of the earlier ones or the appended one
    have hmem : ∀ q i, (q, i) ∈ (ps ++ [p]).zipIdx 1 ↔ (q, i) ∈ ps.zipIdx 1 ∨ (q = p ∧ i = 1 + ps.length) := by
      intro q i
      simp [List.zipIdx_append]
    rw [presetNumberOf_append]
    by_cases hm : (!p.text.isEmpty && p.text == t) = true
    · rw [if_pos hm]
      have hne : p.text ≠ "" := by simpa using (Bool.and_eq_true_iff.1 hm).1
      have heq : p.text = t := by simpa using (Bool.and_eq_true_iff.1 hm).2
      refine ⟨fun i h => ?_, .inr ⟨p, (hmem p _).2 (.inr ⟨rfl, by omega⟩), hne, heq⟩⟩
      obtain ⟨q, hq, -⟩ := h
      have := List.snd_lt_of_mem_zipIdx hq
      simp only [List.length_append, List.length_singleton] at this
      omega
    · rw [if_neg hm]
      refine ⟨fun i h => ?_, ih.2.imp_right fun h => ?_⟩
      · obtain ⟨q, hq, hne, heq⟩ := h
        rcases (hmem q i).1 hq with hq | ⟨rfl, -⟩
        · exact ih.1 i ⟨q, hq, hne, heq⟩
        · exact absurd (by simpa [heq] using hne) hm
      · obtain ⟨q, hq, hne, heq⟩ := h
        exact ⟨q, (hmem q _).2 (.inl hq), hne, heq⟩

/-! ## A refresh -/

/-- The two reads of a preset refresh, one after the other. -/
def readPresets : SpeakerM (PresetInfo × RecentInfo) := do
  let info ← getPresetInfo
  let recent ← getRecentInfo
  return (info, recent)

/-- **What a preset refresh does**: when both reads succeed, the options of the presets read and
the current preset, the number `n` reported or else the last preset of the newest recent entry;
when a read fails with a fault of the speaker, nothing but what the reads changed of the client and
the outside world; another fault stops the refresh. -/
theorem updatePresets_run' (n : Int) (w : SpeakerHome) :
    (updatePresets n).run' w =
      match readPresets.run' ⟨w.client, w.outside⟩ with
      | (.ok (info, recent), cw) =>
        (.ok (), { w with
          client := cw.client, outside := cw.outside,
          speaker := { w.speaker with state := { w.speaker.state with
            presets := presetOptions 1 info.presets,
            currentPreset := if n != 0 then n else presetNumberOf info.presets recent.lastInput } } })
      | (.error f, cw) =>
        ((if f.isSpeaker then .ok () else .error f), { w with client := cw.client, outside := cw.outside }) := by
  unfold updatePresets tolerating readPresets
  rcases hi : getPresetInfo.run' ⟨w.client, w.outside⟩ with ⟨f | info, cw⟩
  · -- the presets could not be read: the fault is kept or passed on
    simp only [Exec.run'_bind, Exec.run'_attempt, run'_viaClient, hi]
    split <;> rfl
  · rcases hr : getRecentInfo.run' cw with ⟨f | recent, cw'⟩
    · simp only [Exec.run'_bind, Exec.run'_attempt, run'_viaClient, hi, hr]
      split <;> rfl
    · simp only [Exec.run'_bind, Exec.run'_attempt, run'_viaClient, hi, hr]
      rfl

/-! ## Choosing an option -/

/-- **What choosing `arg` on the preset select of zone `z` does**: a text that labels no option is
refused before any request; otherwise the preset of the first option it labels is recalled, and on
success it becomes the current preset and the state is published; a failure of the speaker is
refused as a failed command. -/
theorem presetSelect_run' (p : PolledSpeaker) (z action : String) (arg : Value) :
    ((SpeakerEntity.presetSelect z).perform action arg).run' p =
      match p.home.speaker.state.presets.find? (fun o => arg.str? == some o.label) with
      | none => (.error (.hub .command s!"Unknown preset: {arg.display}"), p)
      | some o =>
        match (recallPreset z (.int o.number)).run' ⟨p.home.client, p.home.outside⟩ with
        | (.ok (), cw) =>
          let home : SpeakerHome := { p.home with
            client := cw.client, outside := cw.outside,
            speaker := { p.home.speaker with state := { p.home.speaker.state with currentPreset := o.number } } }
          (.ok (), { home, coordinator := { p.coordinator with data := some home.speaker.toValue } })
        | (.error f, cw) =>
          (.error (if f.isSpeaker then .hub .command ("MusicCast preset failed: " ++ f.message) else f),
            { p with home := { p.home with client := cw.client, outside := cw.outside } }) := by
  unfold SpeakerEntity.perform
  simp only [Exec.run'_bind, Exec.run'_get]
  cases ho : p.home.speaker.state.presets.find? (fun o => arg.str? == some o.label) with
  | none => rfl
  | some o =>
    simp only [runCommand, selectPreset, Exec.run'_bind, Exec.run'_attempt, viaHome, Exec.run'_focus,
      run'_viaClient]
    rcases (recallPreset z (.int o.number)).run' ⟨p.home.client, p.home.outside⟩ with ⟨f | u, cw⟩
    · -- the recall failed: a failure of the speaker becomes a failed command
      dsimp only
      split <;> rfl
    · rfl

/-- Among options with different numbers, the first with the number of `o` is `o`. -/
theorem find?_number_of_mem {ps : List PresetOption} (h : ps.Pairwise fun a b => a.number < b.number)
    {o : PresetOption} (ho : o ∈ ps) : ps.find? (fun o' => (o'.number : Int) == (o.number : Int)) = some o := by
  induction ps with
  | nil => cases ho
  | cons a ps ih =>
    rw [List.pairwise_cons] at h
    rcases List.mem_cons.1 ho with rfl | ho
    · simp
    · -- the head is numbered below `o`
      have hlt := h.1 o ho
      rw [List.find?_cons_of_neg (by simp; omega)]
      exact ih h.2 ho

/-- The option the preset select shows: the label of the first option of the current preset. -/
theorem presetSelect_currentOption (z : String) (s : Device) :
    ((SpeakerEntity.presetSelect z).properties s).lookup "current_option" =
      some (Value.ofOption ((s.state.presets.find? fun o => (o.number : Int) == s.state.currentPreset).map (·.label))) :=
  rfl

section Choosing

variable (p : PolledSpeaker) (z action : String) (arg : Value)

/-- A text that labels no option is refused before any request. -/
theorem presetSelect_unknown (h : ∀ o ∈ p.home.speaker.state.presets, arg ≠ .str o.label) :
    ((SpeakerEntity.presetSelect z).perform action arg).run' p =
      (.error (.hub .command s!"Unknown preset: {arg.display}"), p) := by
  have hnone : p.home.speaker.state.presets.find? (fun o => arg.str? == some o.label) = none := by
    refine List.find?_eq_none.2 fun o ho hlabel => h o ho ?_
    cases arg <;> simp_all [Value.str?]
  rw [presetSelect_run', hnone]

variable {p z action arg}

/-- The option a text is found as is labelled by that text. -/
theorem eq_str_of_find? {o : PresetOption}
    (ho : p.home.speaker.state.presets.find? (fun o => arg.str? == some o.label) = some o) : arg = .str o.label := by
  have hlabel := List.find?_some ho
  cases arg <;> simp_all [Value.str?]

/-- **A recalled option is the one the select shows**: the numbers of the options differ, so the
current preset numbers the option chosen. -/
theorem presetSelect_recalled (hnum : p.home.speaker.state.presets.Pairwise fun a b => a.number < b.number)
    {o : PresetOption} (ho : p.home.speaker.state.presets.find? (fun o => arg.str? == some o.label) = some o)
    {cw : SpeakerWorld} (hr : (recallPreset z (.int o.number)).run' ⟨p.home.client, p.home.outside⟩ = (.ok (), cw)) :
    let r := ((SpeakerEntity.presetSelect z).perform action arg).run' p
    r.1 = .ok () ∧ r.2.home.client = cw.client ∧ r.2.home.outside = cw.outside ∧
      r.2.home.speaker.state.presets = p.home.speaker.state.presets ∧
      ((SpeakerEntity.presetSelect z).properties r.2.home.speaker).lookup "current_option" = some arg := by
  intro r
  have hr' : r = _ := presetSelect_run' p z action arg
  simp only [ho, hr] at hr'
  rw [hr']
  refine ⟨rfl, rfl, rfl, rfl, ?_⟩
  rw [presetSelect_currentOption]
  simp only [find?_number_of_mem hnum (List.mem_of_find?_eq_some ho), Option.map_some, Value.ofOption,
    eq_str_of_find? ho]

/-- **A recall the speaker fails is refused as a failed command**, after the request was sent. -/
theorem presetSelect_refused {o : PresetOption}
    (ho : p.home.speaker.state.presets.find? (fun o => arg.str? == some o.label) = some o)
    {f : Fault} {cw : SpeakerWorld} (hr : (recallPreset z (.int o.number)).run' ⟨p.home.client, p.home.outside⟩ = (.error f, cw))
    (hf : f.isSpeaker = true) :
    ((SpeakerEntity.presetSelect z).perform action arg).run' p =
      (.error (.hub .command ("MusicCast preset failed: " ++ f.message)),
        { p with home := { p.home with client := cw.client, outside := cw.outside } }) := by
  rw [presetSelect_run', ho]
  simp only [hr, hf, if_true]

end Choosing

/-! ## Refreshing and choosing -/

/-- **Refreshing the presets and choosing one.**  A refresh whose two reads succeed changes only the
options and the current preset, beside what the reads changed of the client and the outside world:
the options are the presets with text, labelled `#<n> <text>` at their position `n` from one, in
increasing order of number, and the current preset is the number `n` reported or else the last
position whose text is the newest recent entry (0 when there is none).  A refresh whose reads fail
with a fault of the speaker keeps the options and the current preset.  With options in increasing
order of number, choosing a text that labels no option is refused before any request; choosing an
option recalls its preset, after which the select shows that option, and a recall that the speaker
fails is refused as a failed command. -/
theorem presetSelection_law (w : SpeakerHome) (n : Int) :
    (∀ info recent cw, readPresets.run' ⟨w.client, w.outside⟩ = (.ok (info, recent), cw) →
      (updatePresets n).run' w = (.ok (), { w with
        client := cw.client, outside := cw.outside,
        speaker := { w.speaker with state := { w.speaker.state with
          presets := presetOptions 1 info.presets,
          currentPreset := if n != 0 then n else presetNumberOf info.presets recent.lastInput } } })) ∧
    (∀ ps : List Preset, presetOptions 1 ps = (ps.zipIdx 1).filterMap (fun e => presetOptionAt e.2 e.1) ∧
      (presetOptions 1 ps).Pairwise fun a b => a.number < b.number) ∧
    (∀ (ps : List Preset) (t : String), (∀ i, NamesPreset ps t i → i ≤ presetNumberOf ps t) ∧
      (presetNumberOf ps t = 0 ∨ NamesPreset ps t (presetNumberOf ps t))) ∧
    (∀ f cw, readPresets.run' ⟨w.client, w.outside⟩ = (.error f, cw) → f.isSpeaker = true →
      (updatePresets n).run' w = (.ok (), { w with client := cw.client, outside := cw.outside })) ∧
    (∀ (p : PolledSpeaker) (z : String) (arg : Value),
      p.home.speaker.state.presets.Pairwise (fun a b => a.number < b.number) →
      ((∀ o ∈ p.home.speaker.state.presets, arg ≠ .str o.label) →
        ((SpeakerEntity.presetSelect z).perform "select_option" arg).run' p =
          (.error (.hub .command s!"Unknown preset: {arg.display}"), p)) ∧
      ∀ o, p.home.speaker.state.presets.find? (fun o => arg.str? == some o.label) = some o →
        arg = .str o.label ∧
        (∀ cw, (recallPreset z (.int o.number)).run' ⟨p.home.client, p.home.outside⟩ = (.ok (), cw) →
          let r := ((SpeakerEntity.presetSelect z).perform "select_option" arg).run' p
          r.1 = .ok () ∧ r.2.home.client = cw.client ∧ r.2.home.outside = cw.outside ∧
            r.2.home.speaker.state.presets = p.home.speaker.state.presets ∧
            ((SpeakerEntity.presetSelect z).properties r.2.home.speaker).lookup "current_option" = some arg) ∧
        ∀ f cw, (recallPreset z (.int o.number)).run' ⟨p.home.client, p.home.outside⟩ = (.error f, cw) →
          f.isSpeaker = true →
          ((SpeakerEntity.presetSelect z).perform "select_option" arg).run' p =
            (.error (.hub .command ("MusicCast preset failed: " ++ f.message)),
              { p with home := { p.home with client := cw.client, outside := cw.outside } })) := by
  refine ⟨fun info recent cw hread => ?_, fun ps => ⟨presetOptions_eq_filterMap 1 ps, presetOptions_pairwise 1 ps⟩,
    presetNumberOf_greatest, fun f cw hread hf => ?_, fun p z arg hnum => ⟨presetSelect_unknown p z _ arg,
      fun o ho => ⟨eq_str_of_find? ho, fun cw hr => presetSelect_recalled hnum ho hr,
        fun f cw hr hf => presetSelect_refused ho hr hf⟩⟩⟩
  · rw [updatePresets_run', hread]
  · rw [updatePresets_run', hread]
    simp only [hf, if_true]

/-- **Choosing an option can be refused**: with the options a refresh gives for one preset that is
also the newest recent entry, choosing its label is refused as a failed command when the speaker
cannot be reached, though the label is an option. -/
theorem presetSelect_refusedRecall :
    let p : PolledSpeaker := { home := {
      client := { host := "192.168.1.10", hasSession := false },
      speaker := { name := "Living", state := {
        presets := presetOptions 1 [{ text := "Radio 1" }],
        currentPreset := presetNumberOf [{ text := "Radio 1" }] "Radio 1" } },
      outside := default } }
    "#1 Radio 1" ∈ p.home.speaker.state.presets.map (·.label) ∧
      ((SpeakerEntity.presetSelect "main").perform "select_option" (.str "#1 Radio 1")).run' p =
        (.error (.hub .command "MusicCast preset failed: Not connected"), p) := by
  intro p
  refine ⟨by decide, ?_⟩
  -- the label is the option of the one preset, whose recall is never sent
  have ho : p.home.speaker.state.presets.find? (fun o => (Value.str "#1 Radio 1").str? == some o.label) =
      some ⟨1, "#1 Radio 1"⟩ := rfl
  have hr := request_unconnected
    { path := "netusb/recallPreset", params := [("zone", .str "main"), ("num", .int (1 : Nat))], long := true }
    ⟨p.home.client, p.home.outside⟩ rfl
  have hrecall : (recallPreset "main" (.int (1 : Nat))).run' ⟨p.home.client, p.home.outside⟩ =
      (.error (connectionFault "Not connected"), ⟨p.home.client, p.home.outside⟩) := by
    rw [recallPreset, command, Exec.run'_bind, hr]
  exact presetSelect_refused ho hrecall rfl

end ConnectedHome.Speaker
