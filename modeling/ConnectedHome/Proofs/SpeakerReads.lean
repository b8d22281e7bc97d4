import ConnectedHome.Speaker.Polling
import ConnectedHome.Proofs.Triples
/-!
# SpeakerReads — what reading a speaker leaves alone

Refreshing a speaker reads it and writes what the hub knows of it: its zones, player, presets,
link servers and link role (`Device.state`).  Setting it up also writes its information and
features.  A view of the speaker that reads none of its state (`Device.StateBlind`) is kept by a
refresh (`keeps_refresh`), and what the speaker's entry gave it (`Device.settings`) by a setup too
(`keeps_speakerUpdate`).

- `speakerUpdate_settings`: an update keeps the speaker's name, volume synchronisation and peers;
- `speakerUpdate_info`: an update of a speaker whose id is known refreshes it, so it keeps the
  speaker's information, and with it the id.
-/
namespace ConnectedHome
namespace Speaker

open Exec

/-- A view of a speaker that does not read what the hub knows of it. -/
def Device.StateBlind {β : Type} (F : Device → β) : Prop :=
  ∀ (s : Device) (st : SpeakerState), F { s with state := st } = F s

/-- What a speaker's entry gives it: its name, its volume synchronisation and its peers. -/
def Device.settings (s : Device) : String × Value × Option (Except Fault (List (String × String))) :=
  (s.name, s.syncVolume, s.peers)

theorem Device.stateBlind_settings : Device.StateBlind Device.settings := fun _ _ => rfl

theorem Device.stateBlind_info : Device.StateBlind Device.info := fun _ _ => rfl

/-- A speaker's id is read from its information. -/
theorem Device.deviceId_congr {s s' : Device} (h : s.info = s'.info) : s.deviceId = s'.deviceId := by
  unfold Device.deviceId
  rw [h]

/-- A view kept by every step of a fold over zones is kept by the fold. -/
theorem Device.foldl_view {β : Type} (F : Device → β) (g : Device → String → Device) (hg : ∀ s z, F (g s z) = F s) :
    ∀ (zs : List String) (s : Device), F (zs.foldl g s) = F s
  | [], _ => rfl
  | z :: zs, s => (Device.foldl_view F g hg zs (g s z)).trans (hg s z)

namespace Device.StateBlind

variable {β : Type} {F : Device → β}

theorem touchZone (hF : StateBlind F) (s : Device) (z : String) : F (s.touchZone z) = F s := by
  unfold Device.touchZone
  split
  · rfl
  · exact hF s _

theorem modifyZone (hF : StateBlind F) (s : Device) (z : String) (f : ZoneState → ZoneState) :
    F (s.modifyZone z f) = F s := by
  unfold Device.modifyZone
  exact (hF _ _).trans (hF.touchZone s z)

theorem modifyPlayer (hF : StateBlind F) (s : Device) (f : PlayerState → PlayerState) :
    F (s.modifyPlayer f) = F s :=
  hF s _

end Device.StateBlind

section Reads

variable {β : Type} {F : Device → β} {c : β} {α : Type}

/-- The speaker of `h`, seen through `F`, is `c`. -/
abbrev Sees (F : Device → β) (c : β) (h : SpeakerHome) : Prop := F h.speaker = c

theorem keeps_viaClient (x : SpeakerM α) : Keeps (Sees F c) (viaClient x) :=
  Triple.focus fun s hs => by rcases x.run' _ with ⟨_ | _, _⟩ <;> exact hs

theorem keeps_modifySpeaker {f : Device → Device} (hf : ∀ s, F (f s) = F s) : Keeps (Sees F c) (modifySpeaker f) :=
  Keeps.modify fun h hs => (hf h.speaker).trans hs

theorem keeps_speaker : Keeps (Sees F c) speaker :=
  Keeps.bind Keeps.get fun _ => Keeps.pure

theorem keeps_speakerHost : Keeps (Sees F c) speakerHost :=
  Keeps.bind Keeps.get fun _ => Keeps.pure

theorem keeps_tolerating {keeps : Fault → Bool} {x : SpeakerHomeM Unit} (hx : Keeps (Sees F c) x) :
    Keeps (Sees F c) (tolerating keeps x) := by
  refine Keeps.bind (Keeps.attempt hx) fun r => ?_
  cases r with
  | ok u => exact Keeps.pure
  | error f =>
    dsimp only
    split
    · exact Keeps.pure
    · exact Keeps.throw

variable (hF : Device.StateBlind F)
include hF

theorem keeps_updateZone (z : String) : Keeps (Sees F c) (updateZone z) :=
  keeps_tolerating (Keeps.bind (keeps_viaClient _) fun _ => keeps_modifySpeaker fun s => hF.modifyZone s z _)

theorem keeps_updatePresets (n : Int) : Keeps (Sees F c) (updatePresets n) :=
  keeps_tolerating (Keeps.bind (keeps_viaClient _) fun _ => Keeps.bind (keeps_viaClient _) fun _ =>
    keeps_modifySpeaker fun s => hF s _)

theorem keeps_updatePlayer : Keeps (Sees F c) updatePlayer :=
  keeps_tolerating (Keeps.bind (keeps_viaClient _) fun _ => Keeps.bind keeps_speakerHost fun _ =>
    keeps_modifySpeaker fun s => hF.modifyPlayer s _)

omit hF in
theorem keeps_peerLinkOptions : ∀ peers : List (String × String), Keeps (Sees F c) (peerLinkOptions peers)
  | [] => Keeps.pure
  | (label, host) :: rest => by
    unfold peerLinkOptions
    refine Keeps.bind (Keeps.attempt (keeps_viaClient _)) fun r => ?_
    dsimp only
    -- every way to this peer's options goes on to the other peers
    have hrest : ∀ m : SpeakerHomeM (List LinkOption), Keeps (Sees F c) m →
        Keeps (Sees F c) (do let here ← m; let l ← peerLinkOptions rest; pure (here ++ l)) :=
      fun m hm => Keeps.bind hm fun _ => Keeps.bind (keeps_peerLinkOptions rest) fun _ => Keeps.pure
    cases r with
    | ok f => exact hrest _ Keeps.pure
    | error e =>
      dsimp only
      by_cases hs : e.isSpeaker = true
      · rw [if_pos hs]
        exact hrest _ Keeps.pure
      · rw [if_neg hs]
        exact hrest _ Keeps.throw

theorem keeps_updateLinkOptions : Keeps (Sees F c) updateLinkOptions := by
  unfold updateLinkOptions
  refine Keeps.bind keeps_speaker fun s => ?_
  dsimp only
  split
  · exact Keeps.bind Keeps.lift fun peers =>
      Keeps.bind (keeps_peerLinkOptions peers) fun _ => keeps_modifySpeaker fun s => hF s _
  · exact Keeps.bind keeps_speakerHost fun _ => Keeps.bind Keeps.pure fun peers =>
      Keeps.bind (keeps_peerLinkOptions peers) fun _ => keeps_modifySpeaker fun s => hF s _

theorem keeps_updateLinkStatus : Keeps (Sees F c) updateLinkStatus := by
  unfold updateLinkStatus
  refine keeps_tolerating (Keeps.bind (keeps_viaClient _) fun d =>
    Keeps.bind (keeps_modifySpeaker fun s => hF s _) fun _ => ?_)
  split
  · exact keeps_modifySpeaker fun s => Device.foldl_view F _ (fun s z => hF.modifyZone s z _) _ s
  · exact Keeps.pure

/-- **A refresh keeps every view that reads none of the speaker's state.** -/
theorem keeps_refresh : Keeps (Sees F c) refresh := by
  unfold refresh
  exact Keeps.bind keeps_speaker fun _ =>
    Keeps.bind (Keeps.forIn fun z _ => Keeps.bind (keeps_updateZone hF z) fun _ => Keeps.pure) fun _ =>
    Keeps.bind (keeps_updatePresets hF 0) fun _ => Keeps.bind (keeps_updatePlayer hF) fun _ =>
    Keeps.bind (keeps_updateLinkOptions hF) fun _ => keeps_updateLinkStatus hF

end Reads

theorem keeps_viaHome {α β : Type} {F : Device → β} {c : β} {x : SpeakerHomeM α} (hx : Keeps (Sees F c) x) :
    Keeps (fun p : PolledSpeaker => F p.home.speaker = c) (viaHome x) :=
  Triple.focus fun p hp => by
    have h1 := hx p.home hp
    rcases hr : x.run' p.home with ⟨_ | _, t⟩ <;> rw [hr] at h1 <;> exact h1

/-- A setup writes the speaker's information and features, none of what its entry gave it. -/
theorem keeps_setup {c : String × Value × Option (Except Fault (List (String × String)))} :
    Keeps (Sees Device.settings c) setup := by
  unfold setup
  exact Keeps.bind (keeps_viaClient _) fun _ => Keeps.bind (keeps_modifySpeaker fun _ => rfl) fun _ =>
    Keeps.bind (keeps_viaClient _) fun _ => Keeps.bind (keeps_modifySpeaker fun _ => rfl) fun _ =>
    Keeps.bind (keeps_modifySpeaker fun s => Device.foldl_view _ _ Device.stateBlind_settings.touchZone _ s) fun _ =>
    keeps_refresh Device.stateBlind_settings

theorem keeps_speakerUpdate {c : String × Value × Option (Except Fault (List (String × String)))} :
    Keeps (fun p : PolledSpeaker => p.home.speaker.settings = c) speakerUpdate := by
  unfold speakerUpdate
  refine Keeps.bind Keeps.get fun p => Keeps.bind (Keeps.attempt (keeps_viaHome ?_)) fun r => ?_
  · split
    · exact keeps_refresh Device.stateBlind_settings
    · exact keeps_setup
  · cases r with
    | ok u => exact Keeps.modify fun _ hs => hs
    | error f =>
      dsimp only
      split
      · exact Keeps.throw
      · exact Keeps.throw

/-- **Reading a speaker keeps its settings**: setting it up or refreshing it, and publishing its
state, change none of what its entry gave it. -/
theorem speakerUpdate_settings (p : PolledSpeaker) :
    (speakerUpdate.run' p).2.home.speaker.settings = p.home.speaker.settings :=
  keeps_speakerUpdate.run' rfl

/-- **An update of a speaker whose id is known keeps its information**: it refreshes the speaker,
which reads no information, and publishes or fails. -/
theorem speakerUpdate_info {p : PolledSpeaker} (hknown : p.home.speaker.deviceId ≠ "") :
    (speakerUpdate.run' p).2.home.speaker.info = p.home.speaker.info := by
  have hk : (!p.home.speaker.deviceId.isEmpty) = true := by simpa using hknown
  have hr := (keeps_viaHome (c := p.home.speaker.info) (keeps_refresh Device.stateBlind_info)).run' (s := p) rfl
  unfold speakerUpdate
  simp only [run'_bind, run'_get, hk, if_true, run'_attempt]
  rcases hq : (viaHome refresh).run' p with ⟨_ | _, q⟩ <;> rw [hq] at hr
  · -- a failed refresh is passed on, as a failed update or as it is
    dsimp only
    split <;> exact hr
  · exact hr

end Speaker
end ConnectedHome
