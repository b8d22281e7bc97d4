import ConnectedHome.Proofs.LinkServer
import ConnectedHome.Proofs.SpeakerRequests
import Mathlib
/-!
# KeepAlive — the task that keeps a speaker pushing its events

A speaker keeps pushing its events to the hub only while the hub asks for them now and then.  It
asks from one keep-alive task (`KeepAliveTask`): absent, running with the waits its loop began, or
done once its loop ended by itself; whether the loop runs is read off the task
(`Device.keepAliveRunning`).  What happens to the task is a row of events (`KeepAliveEvent`):
starts, stops, and the ends of the waits its loop is in (`keepAliveWake`).

- `keepAliveRound_run'`: one round of the loop sends the keep-alive request and touches nothing
  but the client and the outside world; a failure other than the speaker's ends the loop;
- `wakes_run'`, `startStop_run'`: the loop a task runs between a start and a stop is
  `runKeepAlive`, with as many waits ending as the task was woken, whatever the requests get;
- `runEvents_answered`, `isRunning_foldl_next`: where every keep-alive request is accepted or fails
  with a failure of the speaker (`KeepAliveAnswered`), a woken task keeps running, so after any
  row of events the loop runs exactly when some start has no stop after it, or when it ran
  before and no stop came;
- `keepAliveLoop_answered`: the loop then begins a wait of 5 seconds and one of 300 after each
  request, and no request ends it;
- `keepAlive_law`: these together.
-/
namespace ConnectedHome.Speaker

open Http

/-! ## One request -/

/-- The request that asks a speaker to keep pushing its events. -/
def keepAliveRequest : SpeakerRequest :=
  { path := "system/getDeviceInfo",
    headers := some [("X-AppName", appName), ("X-AppPort", toString eventPort)] }

theorem keepAlive_eq_command : SpeakerClient.keepAlive = SpeakerClient.command keepAliveRequest := rfl

/-- The keep-alive request leaves the client as it was, and the network as `request_network`
says. -/
theorem keepAlive_world (cw : SpeakerWorld) :
    (SpeakerClient.keepAlive.run' cw).2 = ((SpeakerClient.request keepAliveRequest).run' cw).2 := by
  rw [keepAlive_eq_command, SpeakerClient.command, Exec.run'_bind]
  rcases (SpeakerClient.request keepAliveRequest).run' cw with ⟨_ | _, _⟩ <;> rfl

/-! ## One round of the loop -/

/-- The client and the outside world of a speaker's home. -/
abbrev SpeakerHome.clientWorld (h : SpeakerHome) : SpeakerWorld := ⟨h.client, h.outside⟩

/-- The home with its keep-alive task replaced. -/
def SpeakerHome.withTask (h : SpeakerHome) (t : KeepAliveTask) : SpeakerHome :=
  { h with speaker := { h.speaker with keepAliveTask := t } }

@[simp] theorem SpeakerHome.withTask_withTask (h : SpeakerHome) (t t' : KeepAliveTask) :
    (h.withTask t).withTask t' = h.withTask t' := rfl

@[simp] theorem SpeakerHome.withTask_self (h : SpeakerHome) : h.withTask h.speaker.keepAliveTask = h := rfl

/-- How a round ends when its request ended as `r`: only a failure other than the speaker's ends
the loop. -/
def roundEnd : Except Fault Unit → Option Fault
  | .ok () => none
  | .error f => if f.isSpeaker then none else some f

/-- **One round of the loop**: the keep-alive request, run on the client and the outside world
alone. -/
theorem keepAliveRound_run' (h : SpeakerHome) :
    keepAliveRound.run' h =
      (.ok (roundEnd (SpeakerClient.keepAlive.run' h.clientWorld).1),
        { h with client := (SpeakerClient.keepAlive.run' h.clientWorld).2.client,
                 outside := (SpeakerClient.keepAlive.run' h.clientWorld).2.outside }) := by
  simp only [keepAliveRound, Exec.run'_bind, Exec.run'_attempt, run'_viaClient]
  rcases SpeakerClient.keepAlive.run' h.clientWorld with ⟨_ | ⟨⟩, cw⟩
  · dsimp only [roundEnd]
    split <;> rfl
  · rfl

/-- A round does not read the task. -/
theorem keepAliveRound_withTask (h : SpeakerHome) (t : KeepAliveTask) :
    keepAliveRound.run' (h.withTask t) = ((keepAliveRound.run' h).1, (keepAliveRound.run' h).2.withTask t) := by
  rw [keepAliveRound_run', keepAliveRound_run']
  rfl

/-- Nor does the loop. -/
theorem keepAliveLoop_withTask (t : KeepAliveTask) : ∀ (k : Nat) (ws : List Nat) (h : SpeakerHome),
    (keepAliveLoop k ws).run' (h.withTask t) =
      (((keepAliveLoop k ws).run' h).1, ((keepAliveLoop k ws).run' h).2.withTask t)
  | 0, _, _ => rfl
  | k + 1, ws, h => by
    simp only [keepAliveLoop, Exec.run'_bind, keepAliveRound_withTask]
    rcases keepAliveRound.run' h with ⟨_ | (_ | f), h1⟩
    · rfl
    · exact keepAliveLoop_withTask t k _ h1
    · rfl

/-! ## The task -/

/-- What happens to a speaker's keep-alive task: a start, a stop, or the end of the wait its loop
is in. -/
inductive KeepAliveEvent where
  | start
  | stop
  | wake
deriving DecidableEq

/-- What an event runs. -/
def KeepAliveEvent.run : KeepAliveEvent → SpeakerHomeM Unit
  | .start => startKeepAlive
  | .stop => stopKeepAlive
  | .wake => keepAliveWake

/-- Events one after the other. -/
def runEvents : List KeepAliveEvent → SpeakerHomeM Unit
  | [] => pure ()
  | e :: es => do e.run; runEvents es

theorem runEvents_append (es fs : List KeepAliveEvent) (h : SpeakerHome) :
    (runEvents (es ++ fs)).run' h =
      match (runEvents es).run' h with
      | (.ok (), h') => (runEvents fs).run' h'
      | (.error f, h') => (.error f, h') := by
  induction es generalizing h with
  | nil => rfl
  | cons e es ih =>
    simp only [List.cons_append, runEvents, Exec.run'_bind]
    rcases e.run.run' h with ⟨_ | ⟨⟩, h1⟩
    · rfl
    · exact ih h1

@[simp] theorem startKeepAlive_run' (h : SpeakerHome) :
    startKeepAlive.run' h = (.ok (), h.withTask h.speaker.keepAliveTask.start) := rfl

@[simp] theorem stopKeepAlive_run' (h : SpeakerHome) : stopKeepAlive.run' h = (.ok (), h.withTask .absent) := rfl

/-- **A start while the loop runs leaves the device as it is**: no second loop is made, and the
running one keeps its waits. -/
theorem startKeepAlive_running (h : SpeakerHome) (ws : List Nat) (ht : h.speaker.keepAliveTask = .running ws) :
    startKeepAlive.run' h = (.ok (), h) := by
  rw [startKeepAlive_run', ht]
  exact congrArg _ (by rw [← h.withTask_self, ht]; rfl)

theorem KeepAliveTask.start_of_not_running {t : KeepAliveTask} (ht : t.isRunning = false) :
    t.start = .running [keepAliveDelay] := by
  cases t
  · rfl
  · cases ht
  · rfl

/-- The task after its round ended as `o`. -/
def KeepAliveTask.afterRound (ws : List Nat) : Option Fault → KeepAliveTask
  | some _ => .done
  | none => .running (ws ++ [keepAliveInterval])

/-- Waking a task whose loop does not run does nothing. -/
theorem keepAliveWake_idle (h : SpeakerHome) (ht : h.speaker.keepAliveRunning = false) :
    keepAliveWake.run' h = (.ok (), h) := by
  unfold keepAliveWake
  simp only [Exec.run'_bind, run'_speaker]
  split
  · rename_i ws hws
    simp [Device.keepAliveRunning, hws, KeepAliveTask.isRunning] at ht
  · rfl

/-- Waking a running task runs one round of its loop. -/
theorem keepAliveWake_running (h : SpeakerHome) (ws : List Nat) (ht : h.speaker.keepAliveTask = .running ws) :
    keepAliveWake.run' h =
      match keepAliveRound.run' h with
      | (.ok o, h1) => (.ok (), h1.withTask (KeepAliveTask.afterRound ws o))
      | (.error f, h1) => (.error f, h1) := by
  unfold keepAliveWake
  simp only [Exec.run'_bind, run'_speaker, ht]
  rcases keepAliveRound.run' h with ⟨_ | (_ | f), h1⟩ <;> rfl

@[simp] theorem KeepAliveEvent.run_wake : KeepAliveEvent.wake.run = keepAliveWake := rfl

@[simp] theorem KeepAliveEvent.run_start : KeepAliveEvent.start.run = startKeepAlive := rfl

/-- The task a run of the loop leaves: done when a request ended it, else running with the waits
it began. -/
def KeepAliveRun.task (r : KeepAliveRun) : KeepAliveTask :=
  match r.failure with
  | some _ => .done
  | none => .running r.waits

theorem wakes_idle : ∀ (k : Nat) (h : SpeakerHome), h.speaker.keepAliveRunning = false →
    (runEvents (List.replicate k .wake)).run' h = (.ok (), h)
  | 0, _, _ => rfl
  | k + 1, h, ht => by
    rw [List.replicate_succ, runEvents, Exec.run'_bind, KeepAliveEvent.run_wake, keepAliveWake_idle h ht]
    exact wakes_idle k h ht

/-- **The wakes of a running task are the rounds of its loop**: `k` wakes do what the loop does
with `k` waits ending, and leave the task the loop's run says.  Induction on the wakes; after a
round that ends the loop the task is done and the other wakes do nothing. -/
theorem wakes_run' : ∀ (k : Nat) (ws : List Nat) (h : SpeakerHome), h.speaker.keepAliveTask = .running ws →
    ∃ r h', (keepAliveLoop k ws).run' h = (.ok r, h') ∧
      (runEvents (List.replicate k .wake)).run' h = (.ok (), h'.withTask r.task)
  | 0, ws, h, ht => ⟨_, h, rfl, by simp [runEvents, KeepAliveRun.task, ← ht]⟩
  | k + 1, ws, h, ht => by
    rw [List.replicate_succ, runEvents, Exec.run'_bind, KeepAliveEvent.run_wake, keepAliveWake_running h ws ht]
    simp only [keepAliveLoop, Exec.run'_bind]
    obtain ⟨o, h1, hround⟩ : ∃ o h1, keepAliveRound.run' h = (.ok o, h1) := ⟨_, _, keepAliveRound_run' h⟩
    rw [hround]
    cases o with
    | some f =>
      -- the round ended the loop: the task is done
      exact ⟨_, h1, rfl, wakes_idle k _ rfl⟩
    | none =>
      -- the loop goes on from the next wait, on what the round left
      obtain ⟨r, h', hloop, hevents⟩ :=
        wakes_run' k (ws ++ [keepAliveInterval]) (h1.withTask (.running (ws ++ [keepAliveInterval]))) rfl
      rw [keepAliveLoop_withTask] at hloop
      obtain ⟨hr, hh'⟩ := Prod.mk.inj hloop
      refine ⟨r, ((keepAliveLoop k (ws ++ [keepAliveInterval])).run' h1).2, ?_, ?_⟩
      · rw [← hr]
      · dsimp only [KeepAliveTask.afterRound]
        rw [hevents, ← hh', SpeakerHome.withTask_withTask]

/-- **The loop between a start and a stop is `runKeepAlive`**: a task started where no loop runs,
woken `k` times and stopped, does what `runKeepAlive k` does and leaves no task, whatever the
requests get. -/
theorem startStop_run' (k : Nat) (h : SpeakerHome) (ht : h.speaker.keepAliveRunning = false) :
    ∃ r h', (runKeepAlive k).run' h = (.ok r, h') ∧
      (runEvents (KeepAliveEvent.start :: List.replicate k KeepAliveEvent.wake ++ [KeepAliveEvent.stop])).run' h =
        (.ok (), h'.withTask .absent) := by
  have hstart : h.speaker.keepAliveTask.start = .running [keepAliveDelay] := KeepAliveTask.start_of_not_running ht
  obtain ⟨r, h', hloop, hevents⟩ := wakes_run' k [keepAliveDelay] (h.withTask (.running [keepAliveDelay])) rfl
  rw [keepAliveLoop_withTask] at hloop
  obtain ⟨hr, hh'⟩ := Prod.mk.inj hloop
  refine ⟨r, ((runKeepAlive k).run' h).2, by rw [runKeepAlive, ← hr], ?_⟩
  rw [List.cons_append, runEvents, Exec.run'_bind, KeepAliveEvent.run_start, startKeepAlive_run', hstart]
  dsimp only
  rw [runEvents_append, hevents, ← hh']
  rfl

/-! ## Requests that do not end the loop -/

/-- **Worlds in which the keep-alive request ends as a speaker's request does**: from each of them
it is accepted or fails with a failure of the speaker, and leaves a world of the same kind. -/
def KeepAliveAnswered (W : SpeakerWorld → Prop) : Prop :=
  Exec.Triple W SpeakerClient.keepAlive (fun _ => W) (fun f w => f.isSpeaker = true ∧ W w)

/-- What an event does to the task when no request ends the loop. -/
def KeepAliveEvent.next : KeepAliveEvent → KeepAliveTask → KeepAliveTask
  | .start, t => t.start
  | .stop, t => t.stop
  | .wake, .running ws => .running (ws ++ [keepAliveInterval])
  | .wake, t => t

section Answered

variable {W : SpeakerWorld → Prop}

/-- **One round where the request does not end the loop**: it sends the keep-alive request and
leaves a world of the same kind, with the speaker and the client as they were. -/
theorem keepAliveRound_answered (hW : KeepAliveAnswered W) (h : SpeakerHome) (hh : W h.clientWorld) :
    ∃ h', keepAliveRound.run' h = (.ok none, h') ∧ W h'.clientWorld ∧ h'.speaker = h.speaker ∧
      h'.client = h.client ∧ h'.outside.network.sent = h.outside.network.sent ++ keepAliveRequest.sends h.client := by
  have hrun := hW _ hh
  have hworld := keepAlive_world h.clientWorld
  have hsent := (SpeakerClient.request_network keepAliveRequest h.clientWorld).1
  have hclient := SpeakerClient.request_client keepAliveRequest h.clientWorld
  rw [← hworld] at hsent hclient
  rw [keepAliveRound_run']
  rcases hx : SpeakerClient.keepAlive.run' h.clientWorld with ⟨_ | ⟨⟩, cw⟩
  all_goals
    rw [hx] at hrun hsent hclient
    dsimp only at hrun hsent hclient
  · -- a failure of the speaker does not end the loop
    refine ⟨{ h with client := cw.client, outside := cw.outside }, ?_, hrun.2, rfl, hclient, hsent⟩
    simp [roundEnd, hrun.1]
  · exact ⟨{ h with client := cw.client, outside := cw.outside }, rfl, hrun, rfl, hclient, hsent⟩

/-- **One event where no request ends the loop**: the task changes as `next` says, and nothing
else of the speaker or the client. -/
theorem KeepAliveEvent.run_answered (hW : KeepAliveAnswered W) (e : KeepAliveEvent) (h : SpeakerHome)
    (hh : W h.clientWorld) :
    ∃ h', e.run.run' h = (.ok (), h') ∧ W h'.clientWorld ∧
      h'.speaker = { h.speaker with keepAliveTask := e.next h.speaker.keepAliveTask } ∧ h'.client = h.client := by
  cases e with
  | start => exact ⟨_, startKeepAlive_run' h, hh, rfl, rfl⟩
  | stop => exact ⟨_, stopKeepAlive_run' h, hh, rfl, rfl⟩
  | wake =>
    rw [KeepAliveEvent.run_wake]
    cases ht : h.speaker.keepAliveTask with
    | running ws =>
      -- the round of a running task goes on to its next wait
      obtain ⟨h1, hround, hh1, hs1, hc1, -⟩ := keepAliveRound_answered hW h hh
      rw [keepAliveWake_running h ws ht, hround]
      refine ⟨_, rfl, hh1, ?_, hc1⟩
      simp only [SpeakerHome.withTask, hs1, KeepAliveTask.afterRound, KeepAliveEvent.next]
    | absent | done =>
      -- a task whose loop does not run is not woken
      exact ⟨h, keepAliveWake_idle h (by simp [Device.keepAliveRunning, ht, KeepAliveTask.isRunning]), hh,
        congrArg (fun t => { h.speaker with keepAliveTask := t }) ht, rfl⟩

/-- **A row of events where no request ends the loop**: the task goes through `next` event by
event.  Induction on the events, each carried by `KeepAliveEvent.run_answered`. -/
theorem runEvents_answered (hW : KeepAliveAnswered W) : ∀ (es : List KeepAliveEvent) (h : SpeakerHome),
    W h.clientWorld → ∃ h', (runEvents es).run' h = (.ok (), h') ∧ W h'.clientWorld ∧
      h'.speaker = { h.speaker with keepAliveTask := es.foldl (fun t e => e.next t) h.speaker.keepAliveTask }
  | [], h, hh => ⟨h, rfl, hh, rfl⟩
  | e :: es, h, hh => by
    obtain ⟨h1, he, hh1, hs1, -⟩ := e.run_answered hW h hh
    obtain ⟨h2, hes, hh2, hs2⟩ := runEvents_answered hW es h1 hh1
    refine ⟨h2, ?_, hh2, ?_⟩
    · rw [runEvents, Exec.run'_bind, he]
      exact hes
    · rw [hs2, hs1]
      rfl

/-- **A loop no request ends**: from waits `ws`, with `k` waits ending before it is cancelled, it
begins one of `keepAliveInterval` after each request, sends one request after each wait that
ended, changes nothing of the speaker, and ends cancelled.  Induction on the waits. -/
theorem keepAliveLoop_answered (hW : KeepAliveAnswered W) : ∀ (k : Nat) (ws : List Nat) (h : SpeakerHome),
    W h.clientWorld → ∃ h', (keepAliveLoop k ws).run' h =
        (.ok { waits := ws ++ List.replicate k keepAliveInterval, cancelled := true }, h') ∧
      W h'.clientWorld ∧ h'.speaker = h.speaker ∧ h'.client = h.client ∧
      h'.outside.network.sent = h.outside.network.sent ++ (List.replicate k (keepAliveRequest.sends h.client)).flatten
  | 0, ws, h, hh => ⟨h, by simp [keepAliveLoop], hh, rfl, rfl, by simp⟩
  | k + 1, ws, h, hh => by
    obtain ⟨h1, hround, hh1, hs1, hc1, hsent1⟩ := keepAliveRound_answered hW h hh
    obtain ⟨h2, hloop, hh2, hs2, hc2, hsent2⟩ := keepAliveLoop_answered hW k (ws ++ [keepAliveInterval]) h1 hh1
    refine ⟨h2, ?_, hh2, hs2.trans hs1, hc2.trans hc1, ?_⟩
    · simp only [keepAliveLoop, Exec.run'_bind, hround, hloop, List.append_assoc, List.singleton_append,
        List.replicate_succ]
    · rw [hsent2, hsent1, hc1, List.replicate_succ, List.flatten_cons, List.append_assoc]

end Answered

/-! ## Whether the loop runs -/

/-- Whether the loop runs after an event, from whether it ran before. -/
def KeepAliveEvent.runningAfter : KeepAliveEvent → Bool → Bool
  | .start, _ => true
  | .stop, _ => false
  | .wake, b => b

theorem isRunning_next (e : KeepAliveEvent) (t : KeepAliveTask) :
    (e.next t).isRunning = e.runningAfter t.isRunning := by
  cases e <;> cases t <;> rfl

/-- After a row of events a flag that starts set and stops clear is set exactly when some start
has no stop after it, or when it was set and no stop came. -/
theorem foldl_runningAfter_iff : ∀ (es : List KeepAliveEvent) (b : Bool),
    es.foldl (fun b e => e.runningAfter b) b = true ↔
      (∃ pre post, es = pre ++ .start :: post ∧ .stop ∉ post) ∨ (b = true ∧ .stop ∉ es)
  | [], b => by simp
  | e :: es, b => by
    rw [List.foldl_cons, foldl_runningAfter_iff es]
    -- a split of `e :: es` at a start is a split of `es`, or the start is `e` itself
    have hsplit : (∃ pre post, e :: es = pre ++ .start :: post ∧ .stop ∉ post) ↔
        (∃ pre post, es = pre ++ .start :: post ∧ .stop ∉ post) ∨ (e = .start ∧ .stop ∉ es) := by
      constructor
      · rintro ⟨pre, post, hs, hpost⟩
        cases pre with
        | nil =>
          obtain ⟨rfl, rfl⟩ := List.cons.inj hs
          exact .inr ⟨rfl, hpost⟩
        | cons p pre =>
          obtain ⟨-, rfl⟩ := List.cons.inj hs
          exact .inl ⟨pre, post, rfl, hpost⟩
      · rintro (⟨pre, post, rfl, hpost⟩ | ⟨rfl, hes⟩)
        · exact ⟨e :: pre, post, rfl, hpost⟩
        · exact ⟨[], es, rfl, hes⟩
    rw [hsplit]
    cases e with
    | start =>
      -- a start sets the flag, whatever came before it
      simp only [KeepAliveEvent.runningAfter, true_and, List.mem_cons, reduceCtorEq, false_or]
      exact ⟨fun h => .inl h, fun h => h.elim id fun h => .inr h.2⟩
    | stop => simp [KeepAliveEvent.runningAfter]
    | wake => simp [KeepAliveEvent.runningAfter]

/-- **The loop runs exactly from a start until the next stop**, when no request ends it. -/
theorem isRunning_foldl_next (es : List KeepAliveEvent) (t : KeepAliveTask) :
    (es.foldl (fun t e => e.next t) t).isRunning = true ↔
      (∃ pre post, es = pre ++ .start :: post ∧ .stop ∉ post) ∨ (t.isRunning = true ∧ .stop ∉ es) := by
  have hfold : ∀ (es : List KeepAliveEvent) (t : KeepAliveTask),
      (es.foldl (fun t e => e.next t) t).isRunning = es.foldl (fun b e => e.runningAfter b) t.isRunning := by
    intro es
    induction es with
    | nil => intro t; rfl
    | cons e es ih => intro t; rw [List.foldl_cons, List.foldl_cons, ih, isRunning_next]
  rw [hfold]
  exact foldl_runningAfter_iff es t.isRunning

/-- The waits before the `n`-th request add up to `keepAliveDelay` and `n - 1` times
`keepAliveInterval`. -/
theorem waits_sum (k n : Nat) (hn : 1 ≤ n) (hle : n ≤ k + 1) :
    ((keepAliveDelay :: List.replicate k keepAliveInterval).take n).sum = keepAliveDelay + keepAliveInterval * (n - 1) := by
  obtain ⟨m, rfl⟩ : ∃ m, n = m + 1 := ⟨n - 1, by omega⟩
  simp [List.take_replicate, Nat.min_eq_left (by omega : m ≤ k), Nat.mul_comm]

/-- **The keep-alive task of a speaker.**  A start while the loop runs leaves the device as it is,
so the device never runs two loops.  The loop a task runs from a start to a stop is `runKeepAlive`,
with as many waits ending as the task was woken, whatever its requests get.  Where every
keep-alive request is accepted or fails with a failure of the speaker: after any row of starts,
stops and wakes the loop runs exactly when some start has no stop after it, or when it ran before
and no stop came; and for every number `k` of waits that end before it is cancelled, the loop
begins one wait of 5 seconds and then one of 300 seconds after each request, so the `n`-th request
comes after 5 + 300 (n - 1) seconds; it makes one request after each wait that ended, changes
nothing of the speaker, and ends cancelled, never by a failed request. -/
theorem keepAlive_law :
    (∀ (h : SpeakerHome) (ws : List Nat), h.speaker.keepAliveTask = .running ws → startKeepAlive.run' h = (.ok (), h)) ∧
    (∀ (k : Nat) (h : SpeakerHome), h.speaker.keepAliveRunning = false →
      ∃ r h', (runKeepAlive k).run' h = (.ok r, h') ∧
        (runEvents (KeepAliveEvent.start :: List.replicate k KeepAliveEvent.wake ++ [KeepAliveEvent.stop])).run' h =
          (.ok (), h'.withTask .absent)) ∧
    ∀ W : SpeakerWorld → Prop, KeepAliveAnswered W →
      (∀ (es : List KeepAliveEvent) (h : SpeakerHome), W h.clientWorld →
        ((runEvents es).run' h).1 = .ok () ∧
        (((runEvents es).run' h).2.speaker.keepAliveRunning = true ↔
          (∃ pre post, es = pre ++ .start :: post ∧ .stop ∉ post) ∨
            (h.speaker.keepAliveRunning = true ∧ .stop ∉ es))) ∧
      (∀ (k : Nat) (h : SpeakerHome), W h.clientWorld →
        ∃ h', (runKeepAlive k).run' h = (.ok { waits := 5 :: List.replicate k 300, cancelled := true }, h') ∧
          (∀ n, 1 ≤ n → n ≤ k + 1 → ((5 :: List.replicate k 300).take n).sum = 5 + 300 * (n - 1)) ∧
          h'.speaker = h.speaker ∧ h'.client = h.client ∧
          h'.outside.network.sent = h.outside.network.sent ++ (List.replicate k (keepAliveRequest.sends h.client)).flatten) := by
  refine ⟨startKeepAlive_running, startStop_run', fun W hW => ⟨fun es h hh => ?_, fun k h hh => ?_⟩⟩
  · obtain ⟨h', hrun, -, hs⟩ := runEvents_answered hW es h hh
    rw [hrun]
    refine ⟨rfl, ?_⟩
    change h'.speaker.keepAliveTask.isRunning = true ↔ _
    rw [hs]
    exact isRunning_foldl_next es _
  · obtain ⟨h', hloop, -, hs, hc, hsent⟩ := keepAliveLoop_answered hW k [keepAliveDelay] h hh
    exact ⟨h', hloop, waits_sum k, hs, hc, hsent⟩

/-- The speaker the witness below runs: at `192.168.1.10`, with a session. -/
def keptSpeaker : SpeakerClient := { host := "192.168.1.10" }

/-- Worlds of that speaker whose every route times out or accepts. -/
def KeptWorld (w : SpeakerWorld) : Prop := w.client = keptSpeaker ∧ ∀ rt ∈ w.outside.network.routes, TimesOutOrAccepts rt

/-- In such worlds the keep-alive request is accepted or finds the speaker unreachable, and
leaves such a world. -/
theorem keepAliveAnswered_keptWorld : KeepAliveAnswered KeptWorld := by
  rintro w ⟨hc, hroutes⟩
  have haddr : (keepAliveRequest.address keptSpeaker.host).toOption =
      some "http://192.168.1.10/YamahaExtendedControl/v1/system/getDeviceInfo" := by decide +kernel
  obtain ⟨url, ha⟩ : ∃ url, keepAliveRequest.address w.client.host = .ok url := by
    rw [hc]
    cases h : keepAliveRequest.address keptSpeaker.host with
    | ok url => exact ⟨url, rfl⟩
    | error f => rw [h] at haddr; cases haddr
  have hfits := Judgement.fits_request keepAliveRequest w
  have hnext : KeptWorld ((SpeakerClient.keepAlive).run' w).2 := by
    rw [keepAlive_world]
    exact ⟨(SpeakerClient.request_client _ w).trans hc, SpeakerClient.request_timesOutOrAccepts _ w hroutes⟩
  have hout : (SpeakerClient.keepAlive.run' w).1 = (((SpeakerClient.request keepAliveRequest).run' w).1).map fun _ => () := by
    rw [keepAlive_eq_command, SpeakerClient.command, Exec.run'_bind]
    rcases (SpeakerClient.request keepAliveRequest).run' w with ⟨_ | _, _⟩ <;> rfl
  -- the speaker accepts the request or cannot be reached
  rcases Judgement.ofRequest_timesOutOrAccepts keepAliveRequest w url (by rw [hc]; rfl) ha hroutes with hj | hj <;>
    rw [hj] at hfits
  · obtain ⟨m, hm⟩ := hfits
    rcases hx : SpeakerClient.keepAlive.run' w with ⟨r, w'⟩
    rw [hx] at hout hnext
    dsimp only at hout hnext ⊢
    rw [hm] at hout
    subst hout
    exact ⟨rfl, hnext⟩
  · rcases hx : SpeakerClient.keepAlive.run' w with ⟨r, w'⟩
    rw [hx] at hout hnext
    dsimp only at hout hnext ⊢
    rw [hfits] at hout
    subst hout
    exact hnext

/-- The law for a speaker with a session whose first keep-alive request times out and whose
later ones are accepted: started, woken twice and stopped; and three waits that end. -/
theorem keepAlive_law_timedOutThenAccepted :
    let h : SpeakerHome :=
      { client := keptSpeaker, speaker := default,
        outside := { network := { routes := [{ uses := some 1, outcome := .timedOut "" },
                                             { outcome := .answered 200 acceptedReply "OK" }] } } }
    (KeepAliveAnswered KeptWorld ∧ KeptWorld h.clientWorld) ∧
    (((runEvents [.start, .wake, .wake, .stop]).run' h).1 = .ok () ∧
      (((runEvents [.start, .wake, .wake, .stop]).run' h).2.speaker.keepAliveRunning = true ↔
        (∃ pre post, [KeepAliveEvent.start, .wake, .wake, .stop] = pre ++ .start :: post ∧ .stop ∉ post) ∨
          (h.speaker.keepAliveRunning = true ∧ KeepAliveEvent.stop ∉ [KeepAliveEvent.start, .wake, .wake, .stop]))) ∧
    ∃ h', (runKeepAlive 3).run' h = (.ok { waits := 5 :: List.replicate 3 300, cancelled := true }, h') ∧
      (∀ n, 1 ≤ n → n ≤ 3 + 1 → ((5 :: List.replicate 3 300).take n).sum = 5 + 300 * (n - 1)) ∧
      h'.speaker = h.speaker ∧ h'.client = h.client ∧
      h'.outside.network.sent = h.outside.network.sent ++ (List.replicate 3 (keepAliveRequest.sends h.client)).flatten := by
  intro h
  have hh : KeptWorld h.clientWorld := by
    refine ⟨rfl, fun rt hrt => ?_⟩
    simp only [h, List.mem_cons, List.not_mem_nil, or_false] at hrt
    rcases hrt with rfl | rfl
    · exact .inl ⟨"", rfl⟩
    · exact .inr rfl
  have hlaw := (keepAlive_law.2.2 KeptWorld keepAliveAnswered_keptWorld)
  exact ⟨⟨keepAliveAnswered_keptWorld, hh⟩, hlaw.1 _ h hh, hlaw.2 3 h hh⟩

end ConnectedHome.Speaker
