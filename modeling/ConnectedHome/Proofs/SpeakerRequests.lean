import ConnectedHome.Speaker.Client
import ConnectedHome.Proofs.ReadFaults
/-!
# SpeakerRequests — what a call to a speaker yields

A call sends one request and reads the reply document the speaker accepts
(`SpeakerClient.query`); a command only has its request accepted.  What a request comes to is
judged once, in the order the client checks it (`Judgement.ofRequest`):

- without a session, or when the speaker cannot be reached (a timeout, a refused connection, an
  error status), it is unreachable;
- a body that is blank, cannot be read or is no object is refused with the empty code; an object
  whose response code, read as text, is not `0` is refused with that code;
- a body nested too deeply to be read, a broken transport and an address that cannot be written
  are judged as such.

`Judgement.fits_request`: a request returns the accepted document or fails with the fault of its
judgement.  `speakerCall_law` carries this through the reading of the reply: a reader that fails
only by decoding faults, as every call's reader does (`ReadFaults`), adds no failure of the
speaker, so a call fails as a connection failure or a refusal exactly as its judgement says.  The
reader may still fail on an accepted reply: a features reply whose zone count is a word is
accepted and cannot be read (`Features.read_zoneNum_word`).
-/
namespace ConnectedHome

namespace Net

theorem asciiHost_fails (host : String) : FailsOnly (fun f => f.isSpeaker = false) (asciiHost host) := by
  unfold asciiHost
  split
  · exact FailsOnly.ok
  · split
    · exact FailsOnly.ok
    · exact FailsOnly.error rfl

theorem encodeHost_fails (host : String) : FailsOnly (fun f => f.isSpeaker = false) (encodeHost host) := by
  unfold encodeHost
  dsimp only
  -- an IP address and a plain ASCII name are always encoded
  split
  · exact FailsOnly.ok
  · split
    · exact FailsOnly.ok
    · exact asciiHost_fails _

/-- **Building an address fails by no failure of a speaker**: a host name that cannot be encoded,
or a path that does not start with `/`. -/
theorem Url.build_fails (scheme host path : String) :
    FailsOnly (fun f => f.isSpeaker = false) (Url.build scheme host path) := by
  have hpath : ∀ p, FailsOnly (fun f => f.isSpeaker = false) (checkAbsolutePath host p) := by
    intro p
    unfold checkAbsolutePath
    split
    · exact FailsOnly.error rfl
    · exact FailsOnly.pure
  unfold Url.build
  dsimp only
  split
  · exact FailsOnly.bind FailsOnly.pure fun _ _ => FailsOnly.bind (hpath _) fun _ _ => FailsOnly.pure
  · exact FailsOnly.bind (FailsOnly.bind (encodeHost_fails host) fun _ _ => FailsOnly.pure) fun _ _ =>
      FailsOnly.bind (hpath _) fun _ _ => FailsOnly.pure

end Net

namespace Speaker

open Http

theorem SpeakerRequest.address_fails (r : SpeakerRequest) (own : String) :
    FailsOnly (fun f => f.isSpeaker = false) (r.address own) :=
  FailsOnly.bind (Net.Url.build_fails _ _ _) fun _ _ => FailsOnly.pure

/-- The request the client sends for `r` to address `url`. -/
def SpeakerRequest.sent (r : SpeakerRequest) (url : String) : HttpRequest :=
  { method := r.method, url, timeout := r.timeout, headers := r.headers, document := r.document }

/-- What the network does with request `r` sent to `url`. -/
def SpeakerWorld.answer (w : SpeakerWorld) (r : SpeakerRequest) (url : String) : HttpOutcome :=
  (w.outside.network.send (r.sent url)).1

/-- The document a body stands for: `null` for a blank body, else what the body reads as. -/
def bodyDocument (body : String) : Except ReadError Value :=
  if (Text.trimBlanks body).isEmpty then .ok .null else readDocument body

/-- The response code of a reply document: its `response_code` member as text, `0` without one. -/
def replyCode (doc : Value) : String := ((doc.field? "response_code").map Value.display).getD okCode

/-- What a request to a speaker comes to. -/
inductive Judgement where
  /-- The speaker accepted the request with this reply document. -/
  | accepted (doc : Value)
  /-- The speaker could not be reached. -/
  | unreachable
  /-- The speaker refused the request, with this response code. -/
  | refused (code : String)
  /-- The reply is nested too deeply to be read. -/
  | tooDeep (inObject : Bool)
  /-- The transport broke. -/
  | crashed (msg : String)
  /-- The address of the request cannot be written. -/
  | badAddress (f : Fault)

namespace Judgement

/-- A reply document is accepted when it is an object whose code is `0`. -/
def ofDocument (doc : Value) : Judgement :=
  if !doc.isObj then .refused ""
  else if replyCode doc = okCode then .accepted doc
  else .refused (replyCode doc)

/-- The judgement of a body that came with a good status. -/
def ofBody (body : String) : Judgement :=
  match bodyDocument body with
  | .ok doc => ofDocument doc
  | .error (.tooDeep inObject) => .tooDeep inObject
  | .error _ => .refused ""

/-- The judgement of what the network did with a request. -/
def ofOutcome : HttpOutcome → Judgement
  | .answered status body _ => if isErrorStatus status then .unreachable else ofBody body
  | .timedOut _ | .refused _ => .unreachable
  | .crashed msg => .crashed msg

@[simp] theorem ofOutcome_answered (status : Int) (body reason : String) :
    ofOutcome (.answered status body reason) = if isErrorStatus status then .unreachable else ofBody body := rfl

/-- The judgement of request `r` in world `w`. -/
def ofRequest (r : SpeakerRequest) (w : SpeakerWorld) : Judgement :=
  if !w.client.hasSession then .unreachable
  else match r.address w.client.host with
    | .error f => .badAddress f
    | .ok url => ofOutcome (w.answer r url)

/-- **A result fits a judgement** when it returns the accepted document or fails with the fault of
the judgement. -/
def Fits : Judgement → Except Fault Value → Prop
  | .accepted doc, out => out = .ok doc
  | .unreachable, out => ∃ m, out = .error (connectionFault m)
  | .refused code, out => ∃ m, out = .error (refusal code m)
  | .tooDeep inObject, out => out = .error (ReadError.tooDeep inObject).toFault
  | .crashed msg, out => out = .error (.runtime msg)
  | .badAddress f, out => out = .error f ∧ f.isSpeaker = false

end Judgement

/-- A reply document, if it is an object whose code is `0`. -/
def acceptDocument (path url : String) (doc : Value) : Except Fault Value :=
  if !doc.isObj then .error (refusal "" s!"Unexpected response from {url}")
  else if replyCode doc != okCode then
    .error (refusal (replyCode doc) s!"{path} failed with response code {replyCode doc}")
  else .ok doc

/-- An answer is judged by its status, then by its body, then by the document the body holds. -/
theorem judgeAnswer_eq (path url : String) (status : Int) (body reason : String) :
    judgeAnswer path url status body reason =
      if isErrorStatus status then
        .error (connectionFault s!"Request to {url} failed: {status}, message={quoteText reason}, url=URL('{url}')")
      else match bodyDocument body with
        | .ok doc => acceptDocument path url doc
        | .error (.tooDeep inObject) => .error (ReadError.tooDeep inObject).toFault
        | .error e => .error (refusal "" s!"Invalid response from {url}: {e.message}") := by
  unfold judgeAnswer bodyDocument
  cases isErrorStatus status
  · simp only [Bool.false_eq_true, if_false]
    -- a blank body, then each way of reading the body
    split
    · rfl
    · cases readDocument body with
      | ok v => rfl
      | error e => cases e <;> rfl
  · -- an error status settles the answer before its body is read
    simp only [if_true]
    rfl

namespace Judgement

theorem fits_acceptDocument (path url : String) (doc : Value) :
    Fits (ofDocument doc) (acceptDocument path url doc) := by
  unfold ofDocument acceptDocument
  cases hobj : doc.isObj
  · exact ⟨_, rfl⟩
  · by_cases hc : replyCode doc = okCode
    · simp [hc, Fits]
    · simp only [Bool.not_true, Bool.false_eq_true, if_false, bne_iff_ne, ne_eq, hc, not_false_eq_true, if_true]
      exact ⟨_, rfl⟩

theorem fits_answer (path url : String) (status : Int) (body reason : String) :
    Fits (ofOutcome (.answered status body reason)) (judgeAnswer path url status body reason) := by
  rw [judgeAnswer_eq, ofOutcome_answered]
  cases isErrorStatus status
  · simp only [Bool.false_eq_true, if_false]
    unfold ofBody
    cases bodyDocument body with
    | ok doc => exact fits_acceptDocument path url doc
    | error e => cases e <;> first | rfl | exact ⟨_, rfl⟩
  · exact ⟨_, rfl⟩

theorem ofDocument_ne_unreachable (doc : Value) : ofDocument doc ≠ .unreachable := by
  unfold ofDocument
  repeat' split
  all_goals exact fun h => nomatch h

theorem ofBody_ne_unreachable (body : String) : ofBody body ≠ .unreachable := by
  unfold ofBody
  split
  · exact ofDocument_ne_unreachable _
  all_goals exact fun h => nomatch h

/-- **A request is judged unreachable exactly** without a session, or when it is sent and times
out, has its connection refused, or is answered with an error status. -/
theorem ofRequest_eq_unreachable_iff (r : SpeakerRequest) (w : SpeakerWorld) :
    ofRequest r w = .unreachable ↔ w.client.hasSession = false ∨
      ∃ url, w.client.hasSession = true ∧ r.address w.client.host = .ok url ∧
        ((∃ m, w.answer r url = .timedOut m) ∨ (∃ m, w.answer r url = .refused m) ∨
          ∃ status body reason, w.answer r url = .answered status body reason ∧ 400 ≤ status) := by
  unfold ofRequest
  cases hs : w.client.hasSession
  · simp
  · simp only [Bool.not_true, Bool.false_eq_true, if_false, true_and]
    cases ha : r.address w.client.host with
    | error f => simp
    | ok url =>
      simp only [Except.ok.injEq, exists_eq_left']
      -- the body of an answer with a good status is never judged unreachable
      cases w.answer r url with
      | answered status body reason =>
        rw [ofOutcome_answered]
        cases hst : isErrorStatus status
        · have : ¬ 400 ≤ status := by simpa [isErrorStatus] using hst
          simp [ofBody_ne_unreachable, this]
        · have : 400 ≤ status := by simpa [isErrorStatus] using hst
          simp [this]
      | timedOut m => simp [ofOutcome]
      | refused m => simp [ofOutcome]
      | crashed m => simp [ofOutcome]

/-- **A request fits its judgement.** -/
theorem fits_request (r : SpeakerRequest) (w : SpeakerWorld) :
    Fits (ofRequest r w) ((SpeakerClient.request r).run' w).1 := by
  unfold ofRequest
  cases hs : w.client.hasSession
  · rw [SpeakerClient.request_unconnected r w hs]
    exact ⟨_, rfl⟩
  · unfold SpeakerClient.request
    simp only [Exec.run'_bind, Exec.run'_get, hs, Bool.not_true, Bool.false_eq_true, if_false, Exec.run'_lift]
    cases ha : r.address w.client.host with
    | error f => exact ⟨rfl, SpeakerRequest.address_fails r _ f ha⟩
    | ok url =>
      simp only [Exec.run'_focus, Outside.send, Exec.run'_ofRun, SpeakerWorld.answer, SpeakerRequest.sent]
      -- the state after sending does not matter to the outcome
      generalize (w.outside.network.send _).1 = o
      cases o with
      | answered status body reason => exact fits_answer r.path url status body reason
      | timedOut m => exact ⟨_, rfl⟩
      | refused m => exact ⟨_, rfl⟩
      | crashed m => rfl

section Fits

variable {j : Judgement} {out : Except Fault Value}

theorem Fits.eq_ok_iff (h : Fits j out) {doc : Value} : out = .ok doc ↔ j = .accepted doc := by
  cases j with
  | accepted d => cases h; simp
  | badAddress f => obtain ⟨rfl, -⟩ := h; simp
  | tooDeep b => cases h; simp
  | crashed m => cases h; simp
  | unreachable | refused _ => obtain ⟨m, rfl⟩ := h; simp

/-- An address that cannot be written fails with no failure of the speaker. -/
theorem Fits.badAddress_ne_speaker {f : Fault} (h : Fits (.badAddress f) out) (k : SpeakerFailure) (m : String) :
    out ≠ .error (.speaker k m) := by
  obtain ⟨rfl, hf⟩ := h
  intro he
  cases he
  cases hf

theorem Fits.connection_iff (h : Fits j out) : (∃ m, out = .error (connectionFault m)) ↔ j = .unreachable := by
  cases j with
  | accepted d => cases h; simp
  | unreachable => exact iff_of_true h rfl
  | refused c => obtain ⟨m, rfl⟩ := h; simp [refusal, connectionFault]
  | tooDeep b => cases h; simp [ReadError.toFault, connectionFault]
  | crashed m => cases h; simp [connectionFault]
  | badAddress f => simpa [connectionFault] using fun m => h.badAddress_ne_speaker .connection m

theorem Fits.refusal_iff (h : Fits j out) (code : String) :
    (∃ m, out = .error (refusal code m)) ↔ j = .refused code := by
  cases j with
  | accepted d => cases h; simp
  | unreachable => obtain ⟨m, rfl⟩ := h; simp [refusal, connectionFault]
  | refused c => obtain ⟨m, rfl⟩ := h; simp [refusal, eq_comm]
  | tooDeep b => cases h; simp [ReadError.toFault, refusal]
  | crashed m => cases h; simp [refusal]
  | badAddress f => simpa [refusal] using fun m => h.badAddress_ne_speaker (.api code) m

/-- Every failure is the fault of its judgement. -/
theorem Fits.error_cases (h : Fits j out) {f : Fault} (he : out = .error f) :
    (j = .unreachable ∧ ∃ m, f = connectionFault m) ∨ (∃ code, j = .refused code ∧ ∃ m, f = refusal code m) ∨
      (∃ b, j = .tooDeep b ∧ f = (ReadError.tooDeep b).toFault) ∨ (∃ m, j = .crashed m ∧ f = .runtime m) ∨
      j = .badAddress f := by
  subst he
  cases j with
  | accepted d => cases h
  | unreachable => obtain ⟨m, hm⟩ := h; cases hm; exact .inl ⟨rfl, m, rfl⟩
  | refused c => obtain ⟨m, hm⟩ := h; cases hm; exact .inr (.inl ⟨c, rfl, m, rfl⟩)
  | tooDeep b => cases h; exact .inr (.inr (.inl ⟨b, rfl, rfl⟩))
  | crashed m => cases h; exact .inr (.inr (.inr (.inl ⟨m, rfl, rfl⟩)))
  | badAddress f' => obtain ⟨h, -⟩ := h; cases h; exact .inr (.inr (.inr (.inr rfl)))

end Fits

end Judgement

/-- The requests a request sends from a client: the one to its address, when the client has a
session and the address can be written. -/
def SpeakerRequest.sends (r : SpeakerRequest) (c : SpeakerClient) : List HttpRequest :=
  if c.hasSession then
    match r.address c.host with
    | .ok url => [{ method := r.method, url, timeout := r.timeout, headers := r.headers, document := r.document }]
    | .error _ => []
  else []

/-- **A request sends what `sends` says**, and only that; the network it leaves is the one it
found, or that network after one request. -/
theorem SpeakerClient.request_network (r : SpeakerRequest) (cw : SpeakerWorld) :
    ((request r).run' cw).2.outside.network.sent = cw.outside.network.sent ++ r.sends cw.client ∧
    (((request r).run' cw).2.outside.network = cw.outside.network ∨
      ∃ req, ((request r).run' cw).2.outside.network = (cw.outside.network.send req).2) := by
  cases hs : cw.client.hasSession
  · simp [request_unconnected r cw hs, SpeakerRequest.sends, hs]
  · unfold SpeakerClient.request
    simp only [Exec.run'_bind, Exec.run'_get, hs, Bool.not_true, Bool.false_eq_true, if_false, Exec.run'_lift,
      SpeakerRequest.sends, if_true]
    cases r.address cw.client.host with
    | error f => simp
    | ok url =>
      simp only [Exec.run'_focus, Outside.send, Exec.run'_ofRun]
      -- whatever comes back, the request was handed to the network once
      cases ho : (cw.outside.network.send _).1 <;> exact ⟨by simp [Network.send_sent], .inr ⟨_, rfl⟩⟩

/-- The reply of a speaker that accepts a request. -/
def acceptedReply : String := "\x7b\"response_code\": 0\x7d"

/-- A route that times out or accepts. -/
def TimesOutOrAccepts (rt : Route) : Prop :=
  (∃ m, rt.outcome = .timedOut m) ∨ rt.outcome = .answered 200 acceptedReply "OK"

/-- **A request to a speaker whose routes each time out or accept** is accepted with the reply's
document or finds the speaker unreachable, when the client has a session and the request's
address can be written. -/
theorem Judgement.ofRequest_timesOutOrAccepts (r : SpeakerRequest) (w : SpeakerWorld) (url : String)
    (hs : w.client.hasSession = true) (ha : r.address w.client.host = .ok url)
    (hroutes : ∀ rt ∈ w.outside.network.routes, TimesOutOrAccepts rt) :
    Judgement.ofRequest r w = .unreachable ∨ Judgement.ofRequest r w = .accepted (.obj [("response_code", .int 0)]) := by
  simp only [Judgement.ofRequest, hs, Bool.not_true, Bool.false_eq_true, if_false, ha, SpeakerWorld.answer]
  rcases w.outside.network.send_outcome (r.sent url) with hno | ⟨rt, hrt, -, ho⟩
  · -- no route takes the request: the connection is refused
    rw [hno]
    exact .inl rfl
  · rw [ho]
    rcases hroutes rt hrt with ⟨m, hm⟩ | hm <;> rw [hm]
    · exact .inl rfl
    · exact .inr rfl

/-- A request keeps every route timing out or accepting. -/
theorem SpeakerClient.request_timesOutOrAccepts (r : SpeakerRequest) (w : SpeakerWorld)
    (hroutes : ∀ rt ∈ w.outside.network.routes, TimesOutOrAccepts rt) :
    ∀ rt ∈ ((SpeakerClient.request r).run' w).2.outside.network.routes, TimesOutOrAccepts rt := by
  rcases (SpeakerClient.request_network r w).2 with hn | ⟨req, hn⟩ <;> rw [hn]
  · exact hroutes
  · intro rt hrt
    obtain ⟨rt0, hrt0, ho, -⟩ := takeRoute_outcomes _ _ _ rt hrt
    unfold TimesOutOrAccepts
    rw [ho]
    exact hroutes rt0 hrt0

/-! ## Calls -/

namespace SpeakerClient

variable {α : Type} (r : SpeakerRequest) (w : SpeakerWorld)

/-- A call yields the reading of what its request yields. -/
theorem query_run' (read : Value → Except Fault α) :
    ((query r read).run' w).1 = ((request r).run' w).1 >>= read := by
  unfold query
  rw [Exec.run'_bind]
  rcases (request r).run' w with ⟨_ | doc, w'⟩ <;> rfl

/-- A command is a call whose reading accepts anything. -/
theorem command_eq_query : ((command r).run' w).1 = ((query r fun _ => .ok ()).run' w).1 := by
  unfold command query
  rw [Exec.run'_bind, Exec.run'_bind]
  rcases (request r).run' w with ⟨_ | doc, w'⟩ <;> rfl

end SpeakerClient

/-- A reading that fails only by decoding faults passes on exactly the speaker failures of what it
reads. -/
theorem bind_error_speaker {α : Type} {out : Except Fault Value} {read : Value → Except Fault α}
    (hread : ∀ doc, FailsOnly (fun f => f.isDecoding) (read doc)) (k : SpeakerFailure) (m : String) :
    out >>= read = .error (.speaker k m) ↔ out = .error (.speaker k m) := by
  cases out with
  | error f =>
    change (Except.error f : Except Fault α) = _ ↔ _
    simp only [Except.error.injEq]
  | ok doc =>
    refine ⟨fun h => ?_, fun h => by cases h⟩
    cases hread doc _ h

/-- **What a call to a speaker yields.**  A call sends one request, judged by `Judgement.ofRequest`,
and reads the reply with a reader that fails only by decoding faults, as every call's reader does.
It returns the reading of an accepted object; it fails as a connection failure exactly when the
judgement is unreachable (no session, a timeout, a refused connection, an error status) and as a
refusal with a code exactly when the judgement refuses with that code; any other failure is no
failure of the speaker: a body too deep to read, a broken transport, an address that cannot be
written, or a reply the reader cannot decode.  A command is a call whose reader accepts anything. -/
theorem speakerCall_law {α : Type} (r : SpeakerRequest) (read : Value → Except Fault α) (w : SpeakerWorld)
    (hread : ∀ doc, FailsOnly (fun f => f.isDecoding) (read doc)) :
    let out := ((SpeakerClient.query r read).run' w).1
    let j := Judgement.ofRequest r w
    (∀ a, out = .ok a ↔ ∃ doc, j = .accepted doc ∧ read doc = .ok a) ∧
    ((∃ m, out = .error (connectionFault m)) ↔ j = .unreachable) ∧
    (∀ code, (∃ m, out = .error (refusal code m)) ↔ j = .refused code) ∧
    (∀ f, out = .error f → (∃ m, f = connectionFault m) ∨ (∃ code m, f = refusal code m) ∨
      (∃ b, j = .tooDeep b ∧ f = (ReadError.tooDeep b).toFault) ∨ (∃ m, j = .crashed m ∧ f = .runtime m) ∨
      j = .badAddress f ∨ ∃ doc, j = .accepted doc ∧ read doc = .error f ∧ f.isDecoding = true) ∧
    (j = .unreachable ↔ w.client.hasSession = false ∨
      ∃ url, w.client.hasSession = true ∧ r.address w.client.host = .ok url ∧
        ((∃ m, w.answer r url = .timedOut m) ∨ (∃ m, w.answer r url = .refused m) ∨
          ∃ status body reason, w.answer r url = .answered status body reason ∧ 400 ≤ status)) ∧
    ((SpeakerClient.command r).run' w).1 = ((SpeakerClient.query r fun _ => .ok ()).run' w).1 ∧
    (∀ doc, FailsOnly (fun f => f.isDecoding) (Features.read doc) ∧
      FailsOnly (fun f => f.isDecoding) (PresetInfo.read doc) ∧
      FailsOnly (fun f => f.isDecoding) (RecentInfo.read doc) ∧
      FailsOnly (fun f => f.isDecoding) (Distribution.read doc) ∧
      ∀ specs, FailsOnly (fun f => f.isDecoding) (Reply.read specs doc)) := by
  intro out j
  have hfits := Judgement.fits_request r w
  have hout : out = ((SpeakerClient.request r).run' w).1 >>= read := SpeakerClient.query_run' r w read
  refine ⟨fun a => ?_, ?_, fun code => ?_, fun f hf => ?_, Judgement.ofRequest_eq_unreachable_iff r w,
    SpeakerClient.command_eq_query r w, fun doc => ⟨Features.read_fails doc, PresetInfo.read_fails doc,
      RecentInfo.read_fails doc, Distribution.read_fails doc, fun specs => Reply.read_fails specs doc⟩⟩
  · -- a call returns exactly what it reads from an accepted document
    rw [hout, bind_eq_ok]
    exact exists_congr fun doc => and_congr_left' hfits.eq_ok_iff
  · -- the reader raises no failure of the speaker, so the request's are the call's
    simp only [hout, connectionFault, bind_error_speaker hread]
    exact hfits.connection_iff
  · simp only [hout, refusal, bind_error_speaker hread]
    exact hfits.refusal_iff code
  · rw [hout, bind_eq_error] at hf
    rcases hf with hf | ⟨doc, hdoc, hread'⟩
    · -- the request failed: its fault is the fault of its judgement
      rcases hfits.error_cases hf with ⟨-, h⟩ | ⟨code, -, h⟩ | h | h | h
      · exact .inl h
      · exact .inr (.inl ⟨code, h⟩)
      · exact .inr (.inr (.inl h))
      · exact .inr (.inr (.inr (.inl h)))
      · exact .inr (.inr (.inr (.inr (.inl h))))
    · -- the request was accepted and the reading failed
      exact .inr (.inr (.inr (.inr (.inr ⟨doc, hfits.eq_ok_iff.1 hdoc, hread', hread doc f hread'⟩))))

/-- The law for the features of a speaker whose features reply counts its zones with a word. -/
theorem speakerCall_law_features :
    let r : SpeakerRequest := { path := "system/getFeatures", long := true }
    let route : Http.Route :=
      { pattern := "getFeatures",
        outcome := .answered 200 "\x7b\"response_code\": 0, \"system\": \x7b\"zone_num\": \"abc\"\x7d\x7d" "OK" }
    let w : SpeakerWorld := { client := { host := "192.168.1.10" }, outside := { network := { routes := [route] } } }
    (∀ doc, FailsOnly (fun f => f.isDecoding) (Features.read doc)) ∧
    let out := ((SpeakerClient.query r Features.read).run' w).1
    let j := Judgement.ofRequest r w
    (∀ a, out = .ok a ↔ ∃ doc, j = .accepted doc ∧ Features.read doc = .ok a) ∧
    ((∃ m, out = .error (connectionFault m)) ↔ j = .unreachable) ∧
    (∀ code, (∃ m, out = .error (refusal code m)) ↔ j = .refused code) ∧
    (∀ f, out = .error f → (∃ m, f = connectionFault m) ∨ (∃ code m, f = refusal code m) ∨
      (∃ b, j = .tooDeep b ∧ f = (ReadError.tooDeep b).toFault) ∨ (∃ m, j = .crashed m ∧ f = .runtime m) ∨
      j = .badAddress f ∨ ∃ doc, j = .accepted doc ∧ Features.read doc = .error f ∧ f.isDecoding = true) ∧
    (j = .unreachable ↔ w.client.hasSession = false ∨
      ∃ url, w.client.hasSession = true ∧ r.address w.client.host = .ok url ∧
        ((∃ m, w.answer r url = .timedOut m) ∨ (∃ m, w.answer r url = .refused m) ∨
          ∃ status body reason, w.answer r url = .answered status body reason ∧ 400 ≤ status)) ∧
    ((SpeakerClient.command r).run' w).1 = ((SpeakerClient.query r fun _ => .ok ()).run' w).1 ∧
    (∀ doc, FailsOnly (fun f => f.isDecoding) (Features.read doc) ∧
      FailsOnly (fun f => f.isDecoding) (PresetInfo.read doc) ∧
      FailsOnly (fun f => f.isDecoding) (RecentInfo.read doc) ∧
      FailsOnly (fun f => f.isDecoding) (Distribution.read doc) ∧
      ∀ specs, FailsOnly (fun f => f.isDecoding) (Reply.read specs doc)) :=
  ⟨Features.read_fails, speakerCall_law _ Features.read _ Features.read_fails⟩

end Speaker
end ConnectedHome
