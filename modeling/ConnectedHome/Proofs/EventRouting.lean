import ConnectedHome.Proofs.ReadFaults
import ConnectedHome.Proofs.HubEntries
import ConnectedHome.Speaker.Listener
import Mathlib.Data.List.Induction
/-!
# EventRouting — which handler a pushed packet reaches

The listener keeps one handler per upper-cased device id; registering an id again replaces its
handler, unregistering drops it (`Listener.register`, `Listener.unregister`).  A history of such
operations (`RoutingOp`, `Listener.replay`) leaves, for each upper-cased id, the handler of the
latest operation on that id when it registered one (`InstalledBy`).

- `handlerAt_replay`, `mem_deviceIds_replay`, `deviceIds_replay_nodup`: after any history, the
  handler under an id is the one the latest operation on it registered, and the registered ids are
  those ids, each once;
- `readPacket_eq_some_iff`: a packet holds a document exactly when it is UTF-8 text that reads as an
  object; `readPacket_fails`: it faults only when the text is nested too deeply to read;
- `eventRouting_law`: a packet is dispatched to `h` with event `e` exactly when it holds an object
  whose event reads as `e` and `h` is installed for the upper-cased device id the object names;
  every other packet is dropped, or faults: by the nesting, or by a number too large for a whole
  number in a zone part or the player part (`SpeakerEvent.read_fails`).
-/
namespace ConnectedHome
namespace Speaker

/-- An operation on the listener's routing. -/
inductive RoutingOp (α : Type) where
  | register (id : String) (h : α)
  | unregister (id : String)

/-- The device id an operation names. -/
def RoutingOp.id {α : Type} : RoutingOp α → String
  | .register id _ => id
  | .unregister id => id

namespace Listener

variable {α : Type}

/-- Applies a routing operation. -/
def applyOp (l : Listener α) : RoutingOp α → Listener α
  | .register id h => l.register id h
  | .unregister id => l.unregister id

/-- The listener after a history of routing operations, from one that routes nothing. -/
def replay (ops : List (RoutingOp α)) : Listener α := ops.foldl applyOp {}

/-- The handler registered under the upper-cased id `key`. -/
def handlerAt (l : Listener α) (key : String) : Option α := (l.handlers.find? (·.1 == key)).map (·.2)

theorem replay_snoc (ops : List (RoutingOp α)) (op : RoutingOp α) :
    replay (ops ++ [op]) = (replay ops).applyOp op := by
  rw [replay, List.foldl_append]
  rfl

theorem handlerOf_eq (l : Listener α) (id : String) : l.handlerOf id = l.handlerAt (Text.upper id) := rfl

/-- Registering writes the handler table the way the hub writes its association lists. -/
theorem putHandler_eq_assocPut (hs : List (String × α)) (k : String) (h : α) :
    putHandler hs k h = Hub.assocPut hs k h := by
  unfold putHandler Hub.assocPut
  by_cases hk : hs.any (·.1 == k) = true
  · rw [if_pos hk, if_pos hk]
    congr 1
    funext ⟨k', h'⟩
    by_cases hk' : k' = k <;> simp [hk']
  · rw [if_neg hk, if_neg hk]

/-- Putting a handler under `k` sets what `k` finds and leaves every other key alone. -/
theorem find_putHandler (hs : List (String × α)) (k key : String) (h : α) :
    ((putHandler hs k h).find? (·.1 == key)).map (·.2) =
      if k = key then some h else (hs.find? (·.1 == key)).map (·.2) := by
  rw [putHandler_eq_assocPut]
  exact Hub.find_assocPut hs k key h

/-- Dropping the handlers under `k` leaves every other key alone. -/
theorem find_filter (hs : List (String × α)) (k key : String) :
    ((hs.filter (·.1 != k)).find? (·.1 == key)).map (·.2) =
      if k = key then none else (hs.find? (·.1 == key)).map (·.2) := by
  rw [List.find?_filter]
  split
  · subst key
    simp
  · rename_i hne
    congr 2
    funext x
    by_cases hx : x.1 = key
    · simp [hx, Ne.symm hne]
    · simp [hx]

/-- Registering a device sets the handler of its upper-cased id and of no other. -/
theorem handlerAt_register (l : Listener α) (id : String) (h : α) (key : String) :
    (l.register id h).handlerAt key = if Text.upper id = key then some h else l.handlerAt key :=
  find_putHandler l.handlers (Text.upper id) key h

/-- Unregistering a device drops the handler of its upper-cased id and of no other. -/
theorem handlerAt_unregister (l : Listener α) (id : String) (key : String) :
    (l.unregister id).handlerAt key = if Text.upper id = key then none else l.handlerAt key :=
  find_filter l.handlers (Text.upper id) key

theorem handlerAt_applyOp (l : Listener α) (op : RoutingOp α) (key : String) :
    (l.applyOp op).handlerAt key =
      if Text.upper op.id = key then
        (match op with
          | .register _ h => some h
          | .unregister _ => none)
      else l.handlerAt key := by
  cases op with
  | register id h => exact handlerAt_register l id h key
  | unregister id => exact handlerAt_unregister l id key

end Listener

/-- **The handler a history installed** for the upper-cased id `key`: the latest operation on `key`
registered `h`, and no operation after it names `key`. -/
def InstalledBy {α : Type} (ops : List (RoutingOp α)) (key : String) (h : α) : Prop :=
  ∃ pre id post, ops = pre ++ RoutingOp.register id h :: post ∧ Text.upper id = key ∧
    ∀ op ∈ post, Text.upper op.id ≠ key

/-- The last operation of a history decides for its own id and leaves the others. -/
theorem installedBy_snoc {α : Type} {ops : List (RoutingOp α)} {op : RoutingOp α} {key : String} {h : α} :
    InstalledBy (ops ++ [op]) key h ↔
      (Text.upper op.id = key ∧ ∃ id, op = .register id h) ∨ (Text.upper op.id ≠ key ∧ InstalledBy ops key h) := by
  constructor
  · rintro ⟨pre, id, post, hops, hid, hpost⟩
    rcases List.eq_nil_or_concat post with rfl | ⟨post', x, rfl⟩
    · -- the registration is the last operation
      rw [List.append_cons, List.append_nil] at hops
      obtain ⟨-, rfl⟩ := List.append_singleton_inj.1 hops
      exact .inl ⟨hid, id, rfl⟩
    · -- the last operation comes after the registration
      rw [List.concat_eq_append, ← List.cons_append, ← List.append_assoc] at hops
      obtain ⟨rfl, rfl⟩ := List.append_singleton_inj.1 hops
      refine .inr ⟨hpost _ (by simp), pre, id, post', rfl, hid, fun op' hop => hpost op' (by simp [hop])⟩
  · rintro (⟨hid, id, rfl⟩ | ⟨hne, pre, id, post, rfl, hid, hpost⟩)
    · exact ⟨ops, id, [], by simp, hid, by simp⟩
    · refine ⟨pre, id, post ++ [op], by simp, hid, fun op' hop => ?_⟩
      rcases List.mem_append.1 hop with hop | hop
      · exact hpost op' hop
      · rw [List.mem_singleton.1 hop]
        exact hne

namespace Listener

variable {α : Type}

/-- **After any history, the handler under an id is the one the latest operation on it registered.** -/
theorem handlerAt_replay (ops : List (RoutingOp α)) (key : String) (h : α) :
    (replay ops).handlerAt key = some h ↔ InstalledBy ops key h := by
  induction ops using List.reverseRecOn with
  | nil =>
    constructor
    · intro hh
      cases hh
    · rintro ⟨pre, id, post, hops, -, -⟩
      simp at hops
  | append_singleton ops op ih =>
    rw [replay_snoc, handlerAt_applyOp, installedBy_snoc]
    by_cases hk : Text.upper op.id = key
    · cases op with
      | register id h' => simp [hk, eq_comm]
      | unregister id => simp [hk]
    · simp [hk, ih]

theorem mem_deviceIds (l : Listener α) (key : String) : key ∈ l.deviceIds ↔ (l.handlerAt key).isSome := by
  unfold deviceIds handlerAt
  constructor
  · intro h
    obtain ⟨p, hp, rfl⟩ := List.mem_map.1 h
    cases hf : l.handlers.find? (·.1 == p.1) with
    | none => exact absurd (List.find?_eq_none.1 hf p hp) (by simp)
    | some q => simp
  · intro h
    cases hf : l.handlers.find? (·.1 == key) with
    | none => rw [hf] at h; cases h
    | some q => exact List.mem_map.2 ⟨q, List.mem_of_find?_eq_some hf, by simpa using List.find?_some hf⟩

/-- **The registered ids are those a history installed a handler for.** -/
theorem mem_deviceIds_replay (ops : List (RoutingOp α)) (key : String) :
    key ∈ (replay ops).deviceIds ↔ ∃ h, InstalledBy ops key h := by
  rw [mem_deviceIds, Option.isSome_iff_exists]
  exact exists_congr fun h => handlerAt_replay ops key h

theorem deviceIds_applyOp_nodup (l : Listener α) (op : RoutingOp α) (hl : l.deviceIds.Nodup) :
    (l.applyOp op).deviceIds.Nodup := by
  cases op with
  | register id h =>
    show (l.register id h).deviceIds.Nodup
    rw [deviceIds_register]
    split
    · exact hl
    · -- a new id goes at the end, once
      rename_i hnew
      refine List.nodup_append.2 ⟨hl, List.nodup_cons.2 ⟨List.not_mem_nil, List.nodup_nil⟩, fun a ha b hb => ?_⟩
      rw [List.mem_singleton.1 hb]
      rintro rfl
      exact hnew (List.elem_iff.2 ha)
  | unregister id =>
    exact hl.sublist (List.filter_sublist.map _)

/-- **Each registered id is listed once**, whatever the history. -/
theorem deviceIds_replay_nodup (ops : List (RoutingOp α)) : (replay ops).deviceIds.Nodup := by
  induction ops using List.reverseRecOn with
  | nil => exact List.nodup_nil
  | append_singleton ops op ih =>
    rw [replay_snoc]
    exact deviceIds_applyOp_nodup _ op ih

end Listener

/-- **A packet holds a document exactly when it is UTF-8 text that reads as an object.** -/
theorem readPacket_eq_some_iff (bytes : List UInt8) (doc : Value) :
    readPacket bytes = .ok (some doc) ↔
      ∃ text, Text.decodeUtf8? bytes = some text ∧ readDocument text = .ok doc ∧ doc.isObj = true := by
  unfold readPacket
  cases hd : Text.decodeUtf8? bytes with
  | none => simp
  | some text =>
    cases hr : readDocument text with
    | ok v =>
      -- the document read is the one held, exactly when it is an object
      by_cases ho : v.isObj = true
      · simp only [hr, ho, if_true, Except.ok.injEq, Option.some.injEq, exists_eq_left']
        exact ⟨fun h => ⟨h, h ▸ ho⟩, fun h => h.1⟩
      · simp only [hr, ho, Bool.false_eq_true, if_false, Except.ok.injEq, reduceCtorEq, false_iff]
        rintro ⟨_, ⟨⟩, hr', hobj⟩
        rw [hr] at hr'
        cases hr'
        exact ho hobj
    | error e => cases e <;> simp [hr]

/-- **A packet faults only when its text is nested too deeply to read.** -/
theorem readPacket_fails (bytes : List UInt8) : FailsOnly (fun f => f.isRecursion) (readPacket bytes) := by
  unfold readPacket
  split
  · exact FailsOnly.ok
  · split
    · exact FailsOnly.ok
    · exact FailsOnly.error rfl
    · exact FailsOnly.ok

namespace Listener

variable {α : Type}

/-- A packet goes to a handler when it holds an object whose event reads, and the event's device
has a handler. -/
theorem route_eq_some_iff (l : Listener α) (bytes : List UInt8) (h : α) (e : SpeakerEvent) :
    l.route bytes = .ok (some (h, e)) ↔
      ∃ doc, readPacket bytes = .ok (some doc) ∧ SpeakerEvent.read doc = .ok e ∧ l.handlerOf e.deviceId = some h := by
  unfold route
  constructor
  · intro hr
    obtain ⟨o, ho, hr⟩ := bind_eq_ok.1 hr
    cases o with
    | none => cases hr
    | some doc =>
      obtain ⟨e', he', hr⟩ := bind_eq_ok.1 hr
      cases hh : l.handlerOf e'.deviceId with
      | none => rw [hh] at hr; cases hr
      | some h' =>
        rw [hh] at hr
        cases hr
        exact ⟨doc, ho, he', hh⟩
  · rintro ⟨doc, ho, he, hh⟩
    rw [ho]
    show SpeakerEvent.read doc >>= _ = _
    rw [he]
    show Except.ok ((l.handlerOf e.deviceId).map _) = _
    rw [hh]
    rfl

/-- **Routing a packet faults only by a nesting too deep or a number too large.** -/
theorem route_fails (l : Listener α) (bytes : List UInt8) :
    FailsOnly (fun f => f.isRecursion ∨ f.isOverflow) (l.route bytes) := by
  unfold route
  refine FailsOnly.bind ((readPacket_fails bytes).mono fun _ h => .inl h) fun o ho => ?_
  cases o with
  | none => exact FailsOnly.ok
  | some doc =>
    -- a document the packet holds is an object, and an event read from one only overflows
    obtain ⟨_, -, -, hobj⟩ := (readPacket_eq_some_iff bytes doc).1 ho
    cases doc with
    | obj ms => exact FailsOnly.bind ((SpeakerEvent.read_fails ms).mono fun _ h => .inr h) fun _ _ => FailsOnly.pure
    | _ => cases hobj

end Listener

/-- After a history, a packet goes to `h` with event `e` exactly when it is UTF-8 text that reads as
an object, the object's event reads as `e`, and the history installed `h` for the upper-cased text
of the object's `device_id` member. -/
theorem route_replay_eq_some_iff {α : Type} (ops : List (RoutingOp α)) (bytes : List UInt8) (h : α)
    (e : SpeakerEvent) :
    (Listener.replay ops).route bytes = .ok (some (h, e)) ↔
      ∃ text ms, Text.decodeUtf8? bytes = some text ∧ readDocument text = .ok (.obj ms) ∧
        SpeakerEvent.read (.obj ms) = .ok e ∧
        InstalledBy ops (Text.upper (plainText ((ms.lookup "device_id").getD (.str "")))) h := by
  rw [Listener.route_eq_some_iff]
  constructor
  · rintro ⟨doc, hp, he, hh⟩
    obtain ⟨text, hd, hr, hobj⟩ := (readPacket_eq_some_iff bytes doc).1 hp
    cases doc with
    | obj ms =>
      rw [Listener.handlerOf_eq, Listener.handlerAt_replay, SpeakerEvent.read_deviceId he] at hh
      exact ⟨text, ms, hd, hr, he, hh⟩
    | _ => cases hobj
  · rintro ⟨text, ms, hd, hr, he, hi⟩
    refine ⟨.obj ms, (readPacket_eq_some_iff bytes _).2 ⟨text, hd, hr, rfl⟩, he, ?_⟩
    rw [Listener.handlerOf_eq, Listener.handlerAt_replay, SpeakerEvent.read_deviceId he]
    exact hi

/-- **Event routing.**  After any history of registrations and unregistrations, the registered ids
are the upper-cased ids the history installed a handler for, each once; a packet is dispatched, to
one handler, exactly as `route_replay_eq_some_iff` says and is dropped otherwise; and routing faults
only by a text nested too deeply to read or a number too large for a whole number. -/
theorem eventRouting_law {α : Type} (ops : List (RoutingOp α)) (bytes : List UInt8) :
    (∀ key, key ∈ (Listener.replay ops).deviceIds ↔ ∃ h, InstalledBy ops key h) ∧
    (Listener.replay ops).deviceIds.Nodup ∧
    (∀ h e, (Listener.replay ops).route bytes = .ok (some (h, e)) ↔
      ∃ text ms, Text.decodeUtf8? bytes = some text ∧ readDocument text = .ok (.obj ms) ∧
        SpeakerEvent.read (.obj ms) = .ok e ∧
        InstalledBy ops (Text.upper (plainText ((ms.lookup "device_id").getD (.str "")))) h) ∧
    FailsOnly (fun f => f.isRecursion ∨ f.isOverflow) ((Listener.replay ops).route bytes) :=
  ⟨Listener.mem_deviceIds_replay ops, Listener.deviceIds_replay_nodup ops, route_replay_eq_some_iff ops bytes,
    Listener.route_fails _ bytes⟩

end Speaker
end ConnectedHome
