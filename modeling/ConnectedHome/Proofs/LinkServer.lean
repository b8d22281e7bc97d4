import ConnectedHome.Speaker.Commands
import ConnectedHome.Proofs.Triples
import Mathlib.Data.List.Basic
/-!
# LinkServer — joining and leaving a link

A link server option names a server and one of its zones around the separator `***`.  The
options offered are those of every zone of every peer (`linkOptionsOf`), and a selection reads an
option back by splitting it at its first separator (`partitionAt`), as a partition does
(`partitionAt_eq_dropInfix`).

Selecting an option (`selectLinkServer`) sends requests one after another and stops at the first
that fails (`runCommands`).  Leaving the link is one request to the speaker itself; joining asks
the server for its distribution, then tells the server its new client, the speaker its group with
all its zones, and the server to start distributing.  The group is the server's own when it serves
a link, none when it is a client of one, and otherwise the fresh group the world holds.  The zone
records the option exactly when every request succeeded, and an option that names no server or no
zone is refused before any request (`selection`, `selectLinkServer_run'`).

An option reads back as the host and zone it was written from exactly when the host holds no
separator and does not end in `*` (`linkTarget_encode_iff`): the option of zone `main` of host
`a*` names zone `*main` of host `a`.  `linkServerSelection_law` puts the selection and the options
offered together.
-/
namespace ConnectedHome.Speaker

open SpeakerClient

/-! ## Reading an option back -/

theorem dropPrefix_eq (l p : List Char) :
    l.dropPrefix? p = if p.isPrefixOf l then some (l.drop p.length) else none := by
  split
  · rename_i h
    obtain ⟨t, rfl⟩ := List.isPrefixOf_iff_prefix.1 h
    rw [List.drop_left]
    exact List.dropPrefix?_eq_some_iff.2 ⟨p, rfl, beq_self_eq_true p⟩
  · rename_i h
    cases hd : l.dropPrefix? p with
    | none => rfl
    | some s =>
      obtain ⟨p', rfl, hp⟩ := List.dropPrefix?_eq_some_iff.1 hd
      rw [beq_iff_eq] at hp
      subst hp
      exact absurd (List.isPrefixOf_iff_prefix.2 (List.prefix_append p' s)) h

theorem partitionAt_go (sep : List Char) : ∀ (l acc : List Char),
    List.dropInfix?.go sep l acc = (partitionAt sep l).map fun p => (acc.reverse ++ p.1, p.2)
  | [], acc => by
    unfold List.dropInfix?.go partitionAt
    cases sep.isEmpty <;> simp
  | c :: cs, acc => by
    unfold List.dropInfix?.go partitionAt
    rw [dropPrefix_eq]
    by_cases h : sep.isPrefixOf (c :: cs)
    · simp [h]
    · -- the character read is put in front of what the rest splits into
      simp only [h, Bool.false_eq_true, if_false]
      rw [partitionAt_go sep cs (c :: acc), Option.map_map]
      congr 1
      funext p
      simp

/-- **An option is split at its first separator**, as `List.dropInfix?` splits a list. -/
theorem partitionAt_eq_dropInfix (sep l : List Char) : partitionAt sep l = l.dropInfix? sep := by
  unfold List.dropInfix?
  rw [partitionAt_go]
  simp

example : partitionAt ['*', '*'] ['a', '*', '*', 'b', '*', '*'] = some (['a'], ['b', '*', '*']) := by decide

/-- **What an option reads back as**: the server and zone around its first separator, both
present. -/
theorem linkTarget_eq_some_iff (o s z : String) :
    linkTarget o = some (s, z) ↔ s ≠ "" ∧ z ≠ "" ∧ o = s ++ serverSeparator ++ z ∧
      ∀ p q, o.toList = p ++ serverSeparator.toList ++ q → s.length ≤ p.length := by
  -- the first split of the option is at `s` exactly when the option is `s`, the separator and
  -- `z`, and no separator starts before the end of `s`
  have hfirst : o.toList.dropInfix? serverSeparator.toList = some (s.toList, z.toList) ↔
      o = s ++ serverSeparator ++ z ∧
        ∀ p q, o.toList = p ++ serverSeparator.toList ++ q → s.length ≤ p.length := by
    rw [List.dropInfix?_eq_some_iff]
    simp only [beq_iff_eq, exists_eq_right, ← String.toList_append, String.toList_inj, ge_iff_le,
      String.length_toList]
    exact and_congr_right' ⟨fun h p q hq => h p _ q hq rfl, fun h p i q hq hi => h p q (hi ▸ hq)⟩
  unfold linkTarget
  rw [partitionAt_eq_dropInfix, ← hfirst]
  cases o.toList.dropInfix? serverSeparator.toList with
  | none => simp
  | some parts =>
    obtain ⟨a, b⟩ := parts
    by_cases hab : (a.isEmpty || b.isEmpty) = true
    · -- an empty side is refused, and no option reads back as an empty side
      simp only [hab, if_true, reduceCtorEq, false_iff, Option.some.injEq, Prod.mk.injEq, not_and]
      intro hs hz ha hb
      rcases Bool.or_eq_true_iff.1 hab with ha' | hb'
      · exact hs (String.toList_eq_nil_iff.1 (ha ▸ List.isEmpty_iff.1 ha'))
      · exact hz (String.toList_eq_nil_iff.1 (hb ▸ List.isEmpty_iff.1 hb'))
    · simp only [hab, Bool.false_eq_true, if_false, Option.some.injEq, Prod.mk.injEq]
      simp only [Bool.or_eq_true, List.isEmpty_iff, not_or] at hab
      constructor
      · rintro ⟨rfl, rfl⟩
        simp [String.toList_ofList, String.ofList_eq_empty_iff, hab]
      · rintro ⟨-, -, rfl, rfl⟩
        simp [String.ofList_toList]

/-- The separator written after `h` is the first of `h`, the separator and `z` exactly when `h`
holds no separator and does not end in `*`. -/
theorem separator_first_iff (h z : List Char) :
    (∀ p q, h ++ serverSeparator.toList ++ z = p ++ serverSeparator.toList ++ q → h.length ≤ p.length) ↔
      ¬ serverSeparator.toList <:+: h ∧ h.getLast? ≠ some '*' := by
  have hsep : serverSeparator.toList = ['*', '*', '*'] := rfl
  rw [hsep]
  constructor
  · intro H
    refine ⟨?_, fun hl => ?_⟩
    · -- a separator inside `h` starts before its end
      rintro ⟨p, q, rfl⟩
      have := H p (q ++ ['*', '*', '*'] ++ z) (by simp)
      simp only [List.length_append, List.length_cons, List.length_nil] at this
      omega
    · -- so does the one that a last `*` begins
      obtain ⟨h', rfl⟩ := List.getLast?_eq_some_iff.1 hl
      have := H h' ('*' :: z) (by simp)
      simp only [List.length_append, List.length_cons, List.length_nil] at this
      omega
  · rintro ⟨hinf, hlast⟩ p q heq
    by_contra hlt
    simp only [List.append_assoc] at heq
    rcases List.append_eq_append_iff.1 heq with ⟨a, rfl, -⟩ | ⟨c, rfl, hc⟩
    · simp at hlt
    · -- `h` is `p` and a part `c` that the separator after `p` begins with: one or two `*`
      -- end `h`, three or more make a separator inside it
      rcases c with _ | ⟨c1, _ | ⟨c2, _ | ⟨c3, r⟩⟩⟩
      · simp at hlt
      · simp only [List.cons_append, List.nil_append, List.cons.injEq] at hc
        exact hlast (by simp [← hc.1])
      · simp only [List.cons_append, List.nil_append, List.cons.injEq] at hc
        exact hlast (by simp [← hc.2.1])
      · simp only [List.cons_append, List.cons.injEq] at hc
        obtain ⟨rfl, rfl, rfl, -⟩ := hc
        exact hinf ⟨p, r, by simp⟩

/-- **An option reads back as the host and zone it was written from** exactly when both are
present and the host holds no separator and does not end in `*`. -/
theorem linkTarget_encode_iff (h z : String) :
    linkTarget (h ++ serverSeparator ++ z) = some (h, z) ↔
      h ≠ "" ∧ z ≠ "" ∧ ¬ serverSeparator.toList <:+: h.toList ∧ h.toList.getLast? ≠ some '*' := by
  rw [linkTarget_eq_some_iff, ← separator_first_iff h.toList z.toList]
  simp only [String.toList_append, String.length_toList, true_and]

example : linkTarget ("a*" ++ serverSeparator ++ "main") = some ("a", "*main") := by decide

/-! ## Selecting an option -/

@[simp] theorem run'_viaClient {α : Type} (x : SpeakerM α) (w : SpeakerHome) :
    (viaClient x).run' w = ((x.run' ⟨w.client, w.outside⟩).1,
      { w with client := (x.run' ⟨w.client, w.outside⟩).2.client, outside := (x.run' ⟨w.client, w.outside⟩).2.outside }) :=
  rfl

@[simp] theorem run'_speaker (w : SpeakerHome) : speaker.run' w = (.ok w.speaker, w) := rfl

@[simp] theorem run'_speakerHost (w : SpeakerHome) : speakerHost.run' w = (.ok w.client.host, w) := rfl

@[simp] theorem run'_modifySpeaker (f : Device → Device) (w : SpeakerHome) :
    (modifySpeaker f).run' w = (.ok (), { w with speaker := f w.speaker }) := rfl

/-- A request changes the outside world only: the client it was sent by stays as it was. -/
theorem SpeakerClient.request_client (r : SpeakerRequest) (cw : SpeakerWorld) :
    ((request r).run' cw).2.client = cw.client := by
  cases hs : cw.client.hasSession
  · rw [request_unconnected r cw hs]
  · unfold SpeakerClient.request
    simp only [Exec.run'_bind, Exec.run'_get, hs, Bool.not_true, Bool.false_eq_true, if_false, Exec.run'_lift]
    cases r.address cw.client.host with
    | error f => rfl
    | ok url =>
      simp only [Exec.run'_focus, Outside.send, Exec.run'_ofRun]
      -- whatever comes back, only the outside world was written
      generalize (cw.outside.network.send _).1 = o
      cases o <;> rfl

theorem SpeakerClient.query_client {α : Type} (r : SpeakerRequest) (read : Value → Except Fault α)
    (cw : SpeakerWorld) : ((query r read).run' cw).2.client = cw.client := by
  unfold query
  rw [Exec.run'_bind, ← request_client r cw]
  rcases (request r).run' cw with ⟨_ | _, cw'⟩ <;> rfl

/-- Sends commands through the client one after another and stops at the first that fails: how
the last one sent ended, and the client world it left. -/
def runCommands : List SpeakerRequest → SpeakerWorld → Except Fault Unit × SpeakerWorld
  | [], cw => (.ok (), cw)
  | r :: rs, cw =>
    match (command r).run' cw with
    | (.ok (), cw') => runCommands rs cw'
    | (.error f, cw') => (.error f, cw')

/-- Commands sent through the client one after another, then `k`: `k` runs exactly when every
command succeeded. -/
theorem run'_viaClient_commands {α : Type} (k : SpeakerHomeM α) : ∀ (rs : List SpeakerRequest) (w : SpeakerHome),
    (rs.foldr (fun r next => viaClient (command r) >>= fun _ => next) k).run' w =
      match runCommands rs ⟨w.client, w.outside⟩ with
      | (.ok (), cw) => k.run' { w with client := cw.client, outside := cw.outside }
      | (.error f, cw) => (.error f, { w with client := cw.client, outside := cw.outside })
  | [], w => rfl
  | r :: rs, w => by
    rw [List.foldr_cons, Exec.run'_bind, run'_viaClient]
    unfold runCommands
    rcases (command r).run' ⟨w.client, w.outside⟩ with ⟨_ | ⟨⟩, cw⟩
    · rfl
    · exact run'_viaClient_commands k rs _

/-- The request that leaves the link the speaker `own` is a client of. -/
def leaveRequest (own : String) : SpeakerRequest :=
  { path := "dist/setClientInfo", host := some own, document := some (.obj [("group_id", .str "")]), long := true }

/-- The group a speaker joins when the server's role is `role` and its group `serverGroup`: the
server's group when it serves a link, none when it is a client of one, and the fresh group `fresh`
otherwise. -/
def linkGroup (role : String) (serverGroup : Value) (fresh : String) : Value :=
  if role == roleServer then serverGroup else if role == roleClient then .str "" else .str fresh

/-- The requests that join zone `zone` of server `server` with the speaker `own`, whose zones are
`zones`, in group `g`: the server learns its new client, the speaker its group with all its zones
(the main zone when none is known), and the server starts distributing. -/
def joinRequests (server zone own : String) (g : Value) (zones : List String) : List SpeakerRequest :=
  [{ path := "dist/setServerInfo", host := some server, long := true,
     document := some (.obj [("group_id", g), ("zone", .str zone), ("type", .str "add"),
       ("client_list", .list [.str own])]) },
   { path := "dist/setClientInfo", host := some own, long := true,
     document := some (.obj [("group_id", g),
       ("zone", Value.ofStrings (if zones.isEmpty then [mainZone] else zones))]) },
   { path := "dist/startDistribution", host := some server, params := [("num", .int 1)], long := true }]

/-- How a selection of `option` for zone `z` ends when its requests ended as `r`: the client and
the outside world as the requests left them, and the option recorded for the zone exactly when they
all succeeded. -/
def SpeakerHome.selected (w : SpeakerHome) (z option : String) (r : Except Fault Unit × SpeakerWorld) :
    Except Fault Unit × SpeakerHome :=
  let speaker := match r.1 with
    | .ok () => w.speaker.modifyZone z fun st => { st with linkServer := some option }
    | .error _ => w.speaker
  (r.1, { w with client := r.2.client, outside := r.2.outside, speaker })

/-- **What selecting link server `option` for zone `z` does**, from speaker world `w`.  The
standalone option leaves the link with one request to the speaker itself.  An option that does not
read back as a server and a zone is refused before any request.  Otherwise the server is asked for
its distribution, and the join requests follow, in the group that the server's role gives. -/
def selection (w : SpeakerHome) (z option : String) : Except Fault Unit × SpeakerHome :=
  if option = standalone then
    w.selected z option (runCommands [leaveRequest w.client.host] ⟨w.client, w.outside⟩)
  else match linkTarget option with
    | none => (.error (.badValue s!"Invalid link server: {option}"), w)
    | some (server, zone) =>
      match (getDistributionInfo (some server)).run' ⟨w.client, w.outside⟩ with
      | (.error f, cw) => w.selected z option (.error f, cw)
      | (.ok d, cw) =>
        w.selected z option (runCommands (joinRequests server zone w.client.host
          (linkGroup ((d.reply.text? "role").getD "") (d.reply.get "group_id") w.newGroupId) w.speaker.zoneIds) cw)

/-- Commands sent one after another, then the option recorded for the zone. -/
theorem run'_commands_select (z option : String) (rs : List SpeakerRequest) (w : SpeakerHome) :
    (rs.foldr (fun r next => viaClient (command r) >>= fun _ => next)
      (modifySpeaker (·.modifyZone z fun st => { st with linkServer := some option }))).run' w =
      w.selected z option (runCommands rs ⟨w.client, w.outside⟩) := by
  rw [run'_viaClient_commands]
  rcases runCommands rs ⟨w.client, w.outside⟩ with ⟨_ | ⟨⟨⟩⟩, cw⟩ <;> rfl

theorem selectLinkServer_run' (w : SpeakerHome) (z option : String) :
    (selectLinkServer z option).run' w = selection w z option := by
  unfold selectLinkServer selection
  by_cases hs : option = standalone
  · simp only [hs, beq_self_eq_true, if_true, unlink, bind_assoc]
    rw [Exec.run'_bind, run'_speakerHost]
    exact run'_commands_select z standalone [leaveRequest w.client.host] w
  · simp only [hs, if_false, beq_iff_eq]
    unfold link
    cases ht : linkTarget option with
    | none => rfl
    | some target =>
      obtain ⟨server, zone⟩ := target
      simp only [bind_assoc]
      rw [Exec.run'_bind, run'_viaClient]
      rcases hd : (getDistributionInfo (some server)).run' ⟨w.client, w.outside⟩ with ⟨f | d, ⟨c, out⟩⟩
      · rfl
      · -- asking for the distribution left the speaker's own client as it was
        have hc : c = w.client := by
          calc c = ((getDistributionInfo (some server)).run' ⟨w.client, w.outside⟩).2.client := by rw [hd]
            _ = w.client := query_client _ _ _
        subst hc
        -- the speaker's host, zones and fresh group are read, then the join requests follow
        dsimp only
        rw [Exec.run'_bind, Exec.run'_get]
        dsimp only
        rw [Exec.run'_bind, run'_speakerHost]
        dsimp only
        rw [Exec.run'_bind, run'_speaker]
        exact run'_commands_select z option (joinRequests server zone w.client.host
          (linkGroup ((d.reply.text? "role").getD "") (d.reply.get "group_id") w.newGroupId) w.speaker.zoneIds) _

/-! ## The options offered -/

/-- The speakers whose zones are offered as link servers: those listed, or the speaker alone. -/
def SpeakerHome.linkPeers (w : SpeakerHome) : List (String × String) :=
  match w.speaker.peers with
  | some (.ok listed) => listed
  | some (.error _) => []
  | none => [(w.speaker.name, w.client.host)]

/-- An option made of a zone of one of `peers`, whose label and host they list. -/
def LinkOption.OfPeer (peers : List (String × String)) (o : LinkOption) : Prop :=
  ∃ peer ∈ peers, ∃ z, o.value = peer.2 ++ serverSeparator ++ z

theorem LinkOption.OfPeer.mono {peers peers' : List (String × String)} {o : LinkOption}
    (h : o.OfPeer peers) (hsub : ∀ p ∈ peers, p ∈ peers') : o.OfPeer peers' := by
  obtain ⟨peer, hpeer, z, hz⟩ := h
  exact ⟨peer, hsub peer hpeer, z, hz⟩

theorem linkOptionsOf_ofPeer {peers : List (String × String)} {label host : String} (zones : List String)
    (hpeer : (label, host) ∈ peers) : ∀ o ∈ linkOptionsOf label host zones, o.OfPeer peers := by
  intro o ho
  obtain ⟨z, -, rfl⟩ := List.mem_map.1 ho
  exact ⟨(label, host), hpeer, z, by simp [toString]⟩

/-- Every option read from the peers is made of a zone of one of them. -/
theorem peerLinkOptions_ofPeer (peers : List (String × String)) :
    Exec.Triple (fun _ => True) (peerLinkOptions peers) (fun os _ => ∀ o ∈ os, o.OfPeer peers)
      (fun _ _ => True) := by
  induction peers with
  | nil => exact Exec.Triple.pure fun _ _ _ h => nomatch h
  | cons peer rest ih =>
    obtain ⟨label, host⟩ := peer
    unfold peerLinkOptions
    -- the options of this peer go in front of those of the rest
    have hrest : ∀ here : List LinkOption, (∀ o ∈ here, o.OfPeer ((label, host) :: rest)) →
        Exec.Triple (fun _ => True) (peerLinkOptions rest >>= fun l => pure (here ++ l))
          (fun os _ => ∀ o ∈ os, o.OfPeer ((label, host) :: rest)) (fun _ _ => True) := by
      intro here hhere
      refine Exec.Triple.bind ih fun l => Exec.Triple.pure fun _ hl o ho => ?_
      rcases List.mem_append.1 ho with ho | ho
      · exact hhere o ho
      · exact (hl o ho).mono fun p hp => List.mem_cons_of_mem _ hp
    refine Exec.Triple.bind Exec.Triple.of_true fun r => ?_
    dsimp only
    cases r with
    | ok f =>
      exact Exec.Triple.bind (Q := fun here _ => ∀ o ∈ here, o.OfPeer ((label, host) :: rest))
        (Exec.Triple.pure fun _ _ => linkOptionsOf_ofPeer _ List.mem_cons_self)
        fun here s hhere => hrest here hhere s trivial
    | error e =>
      -- a peer whose features cannot be read is skipped
      dsimp only
      by_cases hsp : e.isSpeaker = true
      · rw [if_pos hsp]
        exact Exec.Triple.bind (Q := fun here _ => ∀ o ∈ here, o.OfPeer ((label, host) :: rest))
          (Exec.Triple.pure fun _ _ o ho => absurd ho List.not_mem_nil) fun here s hhere => hrest here hhere s trivial
      · rw [if_neg hsp]
        exact Exec.Triple.throw_bind

/-- **Every option offered** is the standalone option or is made of a zone of one of the peers. -/
theorem updateLinkOptions_ofPeer (w : SpeakerHome) :
    Exec.Triple (· = w) updateLinkOptions
      (fun _ w' => ∀ o ∈ w'.speaker.state.linkOptions, o.value = standalone ∨ o.OfPeer w.linkPeers)
      (fun _ _ => True) := by
  -- the options read from peers that are all offered ones, then the standalone option
  have hjp : ∀ peers, (∀ p ∈ peers, p ∈ w.linkPeers) → Exec.Triple (fun _ => True)
      (peerLinkOptions peers >>= fun options => modifySpeaker fun s =>
        { s with state := { s.state with linkOptions := options ++ [⟨standalone, standaloneLabel⟩] } })
      (fun _ w' => ∀ o ∈ w'.speaker.state.linkOptions, o.value = standalone ∨ o.OfPeer w.linkPeers)
      (fun _ _ => True) := by
    intro peers hsub
    refine Exec.Triple.bind (peerLinkOptions_ofPeer peers) fun options => Exec.Triple.modify fun _ hos o ho => ?_
    rcases List.mem_append.1 ho with ho | ho
    · exact .inr ((hos o ho).mono hsub)
    · rw [List.mem_singleton.1 ho]
      exact .inl rfl
  intro s hs
  subst hs
  unfold updateLinkOptions
  rw [Exec.run'_bind, run'_speaker]
  dsimp only
  rcases hpeers : s.speaker.peers with _ | (f | listed) <;> dsimp only
  · -- the speaker alone
    rw [Exec.run'_bind, run'_speakerHost]
    dsimp only
    rw [Exec.run'_bind, Exec.run'_pure]
    exact hjp _ (fun p hp => by rw [SpeakerHome.linkPeers, hpeers]; exact hp) s trivial
  · -- peers that cannot be listed fail the read
    rw [Exec.run'_bind, Exec.run'_lift]
    trivial
  · rw [Exec.run'_bind, Exec.run'_lift]
    exact hjp listed (fun p hp => by rw [SpeakerHome.linkPeers, hpeers]; exact hp) s trivial

/-- **Selecting a link server**, from every speaker world: what `selection` says, where an option
reads back as the server and zone around its first separator, and every option offered is the
standalone option or is written from a peer's host and a zone, and reads back as them exactly when
both are present and the host holds no separator and does not end in `*`. -/
theorem linkServerSelection_law (w : SpeakerHome) (z option : String) :
    (selectLinkServer z option).run' w = selection w z option ∧
    (∀ o s sz, linkTarget o = some (s, sz) ↔ s ≠ "" ∧ sz ≠ "" ∧ o = s ++ serverSeparator ++ sz ∧
      ∀ p q, o.toList = p ++ serverSeparator.toList ++ q → s.length ≤ p.length) ∧
    Exec.Triple (· = w) updateLinkOptions
      (fun _ w' => ∀ o ∈ w'.speaker.state.linkOptions, o.value = standalone ∨
        ∃ peer ∈ w.linkPeers, ∃ zone, o.value = peer.2 ++ serverSeparator ++ zone ∧
          (linkTarget o.value = some (peer.2, zone) ↔ peer.2 ≠ "" ∧ zone ≠ "" ∧
            ¬ serverSeparator.toList <:+: peer.2.toList ∧ peer.2.toList.getLast? ≠ some '*'))
      (fun _ _ => True) := by
  refine ⟨selectLinkServer_run' w z option, linkTarget_eq_some_iff, ?_⟩
  refine Exec.Triple.conseq (updateLinkOptions_ofPeer w) (fun _ h => h) (fun _ w' h o ho => ?_) (fun _ _ h => h)
  rcases h o ho with hs | ⟨peer, hpeer, zone, hz⟩
  · exact .inl hs
  · refine .inr ⟨peer, hpeer, zone, hz, ?_⟩
    rw [hz]
    exact linkTarget_encode_iff peer.2 zone

end ConnectedHome.Speaker
