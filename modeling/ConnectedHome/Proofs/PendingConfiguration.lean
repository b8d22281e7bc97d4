import ConnectedHome.Vehicle.Polling
/-!
# PendingConfiguration — a disabled service and the message shown for it

A refusal of the vehicle service counts as a configuration still pending on the vehicle when its
description says `disabled ` or carries the disabled code right after the status class marker
(`configurationPending_iff`).  The message shown for it is that of the code after the *last*
marker, up to the first `)` and without blanks (`statusMessage_eq_some_code`), so the two do not
read the same code: a longer code that starts with the disabled one (`90071`) is pending without
the disabled message, a code written with a blank after the marker has the message without being
pending, and so have descriptions with several markers.  On a description with one marker, its
code ended by `)` or by the end of the text, they agree up to that difference
(`pendingCode_law`).
-/
namespace ConnectedHome.Vehicle

/-! ## The text after the last marker -/

/-- A marker is found exactly when it occurs. -/
theorem afterLastChars_eq_none_iff {M s : List Char} : afterLastChars M s = none ↔ ¬ M <:+: s := by
  induction s with
  | nil =>
    unfold afterLastChars
    cases M <;> simp
  | cons c cs ih =>
    unfold afterLastChars
    cases h : afterLastChars M cs with
    | some rest =>
      -- an occurrence further on is one here too
      have hin : M <:+: cs := Classical.byContradiction fun hn => absurd (ih.2 hn) (by simp [h])
      simp only [reduceCtorEq, false_iff]
      exact fun hn => hn (hin.trans (List.infix_cons (List.infix_refl cs)))
    | none =>
      rw [List.infix_cons_iff, ← List.isPrefixOf_iff_prefix]
      have hcs := ih.1 h
      cases hp : M.isPrefixOf (c :: cs) <;> simp [hcs]

/-- What the text after the last marker is: the marker occurs before it, and no occurrence starts
later. -/
theorem afterLastChars_spec {M : List Char} : ∀ {s r : List Char}, afterLastChars M s = some r →
    ∃ p, s = p ++ M ++ r ∧ ∀ p' r', s = p' ++ M ++ r' → p'.length ≤ p.length
  | [], r, h => by
    unfold afterLastChars at h
    cases M with
    | nil =>
      cases h
      exact ⟨[], rfl, fun p' r' hs => by simp_all⟩
    | cons m ms => cases h
  | c :: cs, r, h => by
    unfold afterLastChars at h
    cases h' : afterLastChars M cs with
    | some rest =>
      -- the last occurrence is further on: it is the last of `cs`
      rw [h'] at h
      cases h
      obtain ⟨p, hp, hmax⟩ := afterLastChars_spec h'
      refine ⟨c :: p, by rw [hp]; rfl, fun p' r' hs => ?_⟩
      cases p' with
      | nil => exact Nat.zero_le _
      | cons d p'' =>
        simp only [List.cons_append, List.cons.injEq] at hs
        simpa using hmax p'' r' hs.2
    | none =>
      -- no occurrence further on: the marker starts here
      rw [h'] at h
      have hcs := afterLastChars_eq_none_iff.1 h'
      cases hpre : M.isPrefixOf (c :: cs) with
      | false => simp [hpre] at h
      | true =>
        simp only [hpre, ite_true, Option.some.injEq] at h
        subst h
        obtain ⟨t, ht⟩ := List.isPrefixOf_iff_prefix.1 hpre
        refine ⟨[], by rw [← ht, List.drop_left]; rfl, fun p' r' hs => ?_⟩
        cases p' with
        | nil => exact Nat.le_refl _
        | cons d p'' =>
          simp only [List.cons_append, List.cons.injEq] at hs
          exact absurd ⟨p'', r', hs.2.symm⟩ hcs

/-- **The text after the last marker**: what follows an occurrence of the marker that no other
occurrence starts after. -/
theorem afterLastChars_eq_some_iff {M s r : List Char} :
    afterLastChars M s = some r ↔ ∃ p, s = p ++ M ++ r ∧ ∀ p' r', s = p' ++ M ++ r' → p'.length ≤ p.length := by
  refine ⟨afterLastChars_spec, fun ⟨p, hs, hmax⟩ => ?_⟩
  -- the marker occurs, so a last occurrence is found; two last occurrences start alike
  cases h : afterLastChars M s with
  | none => exact absurd ⟨p, r, hs.symm⟩ (afterLastChars_eq_none_iff.1 h)
  | some r' =>
    obtain ⟨p2, hs2, hmax2⟩ := afterLastChars_spec h
    have hlen : p2.length = p.length := Nat.le_antisymm (hmax p2 r' hs2) (hmax2 p r hs)
    rw [hs, List.append_assoc, List.append_assoc] at hs2
    obtain ⟨-, hrest⟩ := List.append_inj hs2 hlen.symm
    rw [List.append_cancel_left hrest]

theorem afterLastChars_of_once {M d pre rest : List Char} (hd : d = pre ++ M ++ rest)
    (honce : ∀ p q, d = p ++ M ++ q → p = pre) : afterLastChars M d = some rest :=
  afterLastChars_eq_some_iff.2 ⟨pre, hd, fun p' r' h => (honce p' r' h) ▸ Nat.le_refl _⟩

/-- A marker occurs once when it occurs neither across the text before it nor from its second
character on. -/
theorem marker_once {M pre rest : List Char} (hbefore : ¬ M <:+: pre ++ M.dropLast)
    (hafter : ¬ M <:+: M.tail ++ rest) : ∀ p q, pre ++ M ++ rest = p ++ M ++ q → p = pre := by
  intro p q h
  simp only [List.append_assoc] at h
  rcases List.append_eq_append_iff.1 h with ⟨a, hp, ha⟩ | ⟨c, hpre, hc⟩
  · -- an occurrence starting later overlaps the marker's tail or lies after it
    cases a with
    | nil => simpa using hp
    | cons b a =>
      cases M with
      | nil => exact absurd List.nil_infix hafter
      | cons m M =>
        simp only [List.cons_append, List.cons.injEq] at ha
        exact absurd ⟨a, q, by simp [ha.2]⟩ hafter
  · -- an occurrence starting earlier ends before the marker's last character
    cases c with
    | nil => simpa using hpre.symm
    | cons b c =>
      have hlen : M.length ≤ (b :: c ++ M.dropLast).length := by simp; omega
      have hpref : M <+: b :: c ++ M.dropLast :=
        List.prefix_of_prefix_length_le ⟨q, hc⟩
          ((List.prefix_append_right_inj _).2 ((List.dropLast_prefix M).trans (List.prefix_append M rest)))
          hlen
      exact absurd (hpref.isInfix.trans ⟨p, [], by simp [hpre]⟩) hbefore

/-- With the marker once, the marker followed by a text occurs exactly when what follows the
marker starts with that text. -/
theorem marker_append_infix_iff {M d pre rest k : List Char} (hd : d = pre ++ M ++ rest)
    (honce : ∀ p q, d = p ++ M ++ q → p = pre) : M ++ k <:+: d ↔ k <+: rest := by
  constructor
  · rintro ⟨p, q, h⟩
    have hp : p = pre := honce p (k ++ q) (by rw [← h]; simp)
    subst hp
    rw [hd] at h
    simp only [List.append_assoc, List.append_cancel_left_eq] at h
    exact ⟨q, h⟩
  · rintro ⟨t, rfl⟩
    exact ⟨pre, t, by rw [hd]; simp⟩

/-! ## The code read after the marker -/

/-- A code read up to the next `)`: the text after it, when empty or starting with `)`, is not
read. -/
theorem takeWhile_code {code post : List Char} (hcode : ')' ∉ code)
    (hpost : post = [] ∨ post.head? = some ')') : (code ++ post).takeWhile (· != ')') = code := by
  rw [List.takeWhile_append_of_pos (fun a ha => by simpa using fun h : a = ')' => hcode (h ▸ ha))]
  rcases post with _ | ⟨c, post⟩
  · simp
  · obtain rfl : c = ')' := by simpa using hpost
    simp

/-- A text without `)` starts a code followed by an empty text or a `)` exactly when it starts the
code. -/
theorem prefix_code_iff {k code post : List Char} (hk : ')' ∉ k)
    (hpost : post = [] ∨ post.head? = some ')') : k <+: code ++ post ↔ k <+: code := by
  induction code generalizing k with
  | nil =>
    -- a non-empty text starting `post` would start with its `)`
    rcases k with _ | ⟨a, k⟩
    · simp
    · rcases post with _ | ⟨c, post⟩
      · simp
      · have hc : c = ')' := by simpa using hpost
        simp only [List.nil_append, List.cons_prefix_cons, List.prefix_nil, reduceCtorEq, iff_false,
          not_and]
        rintro rfl
        exact absurd (hc ▸ List.mem_cons_self) hk
  | cons b code ih =>
    rcases k with _ | ⟨a, k⟩
    · simp
    · simp only [List.cons_append, List.cons_prefix_cons]
      rw [ih (fun h => hk (List.mem_cons_of_mem a h))]

/-! ## Pending configuration and the message shown -/

/-- **Pending configuration**: the description says `disabled ` or carries the marker of the
status class followed by the disabled code, anywhere. -/
theorem configurationPending_iff (r : ErrorReport) :
    r.configurationPending = true ↔
      "disabled ".toList <:+: r.description.toList ∨
        (securityClass ++ "." ++ disabledCode).toList <:+: r.description.toList := by
  simp only [ErrorReport.configurationPending, Bool.or_eq_true, String.contains_string_iff]

/-- **The message of a description**: that of the code after its last marker, read up to the next
`)` and without blanks. -/
theorem statusMessage_eq_some_code {d : String} {rest : List Char}
    (h : afterLastChars (securityClass ++ ".").toList d.toList = some rest) :
    statusMessage d =
      (serviceMessage? (Text.trimBlanks (String.ofList (rest.takeWhile (· != ')'))))).getD "" := by
  simp only [statusMessage, afterLast, h, Option.map_some, String.toList_ofList]

theorem statusMessage_of_no_marker {d : String}
    (h : ¬ (securityClass ++ ".").toList <:+: d.toList) : statusMessage d = "" := by
  simp only [statusMessage, afterLast, afterLastChars_eq_none_iff.2 h, Option.map_none]

/-- Only the disabled code has the disabled service's message. -/
theorem serviceMessage_eq_disabled_iff (c : String) :
    (serviceMessage? c).getD "" = "Status service is disabled, check data privacy settings in the MMI" ↔
      c = disabledCode := by
  unfold serviceMessage?
  split <;> simp_all [disabledCode]

/-- A description with a message gives the report's readable message. -/
theorem readableMessage_of_statusMessage {r : ErrorReport} (h : statusMessage r.description ≠ "") :
    r.readableMessage = statusMessage r.description := by
  simp [ErrorReport.readableMessage, h]

/-- A refusal other than of the credentials, with a pending configuration, is reported as such with
the report's readable message. -/
theorem updateFault_pending {kind : VehicleFailure} {msg : String} {x : Exchange}
    (hk : kind ≠ .authentication) (hp : x.report.configurationPending = true) :
    updateFault (.vehicle kind msg x) =
      .hub .updateFailed s!"Configuration pending: {x.report.readableMessage}" := by
  cases kind <;> simp_all [updateFault]

/-- **Pending configuration against the disabled message.**  On a description that does not say
`disabled `, whose marker occurs once and is followed by a code without `)` that ends the text or
a `)`: the configuration is pending exactly when the code *starts* with the disabled code, and
the disabled message is shown exactly when the code *without blanks* is the disabled code.  When
both hold, the coordinator reports the pending configuration with the disabled message. -/
theorem pendingCode_law (e : ErrorReport) (pre code post : List Char)
    (hd : e.description.toList = pre ++ (securityClass ++ ".").toList ++ code ++ post)
    (honce : ∀ p q, e.description.toList = p ++ (securityClass ++ ".").toList ++ q → p = pre)
    (hcode : ')' ∉ code) (hpost : post = [] ∨ post.head? = some ')')
    (hnd : ¬ "disabled ".toList <:+: e.description.toList) :
    (e.configurationPending = true ↔ disabledCode.toList <+: code) ∧
    (statusMessage e.description = "Status service is disabled, check data privacy settings in the MMI" ↔
      Text.trimBlanks (String.ofList code) = disabledCode) ∧
    (statusMessage e.description = "Status service is disabled, check data privacy settings in the MMI" →
      e.configurationPending = true →
      ∀ kind msg (x : Exchange), x.report = e → kind ≠ .authentication →
        updateFault (.vehicle kind msg x) = .hub .updateFailed
          "Configuration pending: Status service is disabled, check data privacy settings in the MMI") := by
  have hd' : e.description.toList = pre ++ (securityClass ++ ".").toList ++ (code ++ post) := by
    rw [hd, List.append_assoc]
  refine ⟨?_, ?_, ?_⟩
  · -- the disabled code after the one marker, read on past the code only into a `)`
    rw [configurationPending_iff, String.toList_append, marker_append_infix_iff hd' honce,
      prefix_code_iff (by decide) hpost]
    simp only [hnd, false_or]
  · rw [statusMessage_eq_some_code (afterLastChars_of_once hd' honce), takeWhile_code hcode hpost,
      serviceMessage_eq_disabled_iff]
  · intro hmsg hp kind msg x hx hk
    subst hx
    rw [updateFault_pending hk hp, readableMessage_of_statusMessage (by rw [hmsg]; decide), hmsg]
    rfl

/-- A status refusal with the disabled code is pending, shows the disabled message, and is
reported with it. -/
theorem pendingCode_law_refusedStatus :
    let e : ErrorReport := { error := "e", description := "Status refused (VSR.security.9007)" }
    e.configurationPending = true ∧
      statusMessage e.description = "Status service is disabled, check data privacy settings in the MMI" ∧
      ∀ kind msg (x : Exchange), x.report = e → kind ≠ .authentication →
        updateFault (.vehicle kind msg x) = .hub .updateFailed
          "Configuration pending: Status service is disabled, check data privacy settings in the MMI" := by
  intro e
  have hd : e.description.toList =
      "Status refused (".toList ++ (securityClass ++ ".").toList ++ "9007".toList ++ [')'] := by
    decide
  -- the marker once: not across the opening text, and not from its second character on
  have honce : ∀ p q, "Status refused (".toList ++ (securityClass ++ ".").toList ++ ("9007".toList ++ [')']) =
      p ++ (securityClass ++ ".").toList ++ q → p = "Status refused (".toList :=
    marker_once (by decide +kernel) (by decide +kernel)
  have hlaw := pendingCode_law e _ _ _ hd (by rw [hd, List.append_assoc]; exact honce)
    (by decide +kernel) (by simp) (by decide +kernel)
  have hp : e.configurationPending = true := hlaw.1.2 (by decide +kernel)
  have hmsg := hlaw.2.1.2 (by rw [String.ofList_toList]; rfl)
  exact ⟨hp, hmsg, hlaw.2.2 hmsg hp⟩

/-- A longer code that starts with the disabled one: the configuration is pending, but the
description has no message, so the coordinator reports the description itself. -/
theorem pendingCode_longerCode :
    let e : ErrorReport := { error := "e", description := "Status refused (VSR.security.90071)" }
    e.configurationPending = true ∧ statusMessage e.description = "" ∧
      updateFault (.vehicle .api "e" { report := e }) =
        .hub .updateFailed "Configuration pending: Status refused (VSR.security.90071)" := by
  intro e
  have hp : e.configurationPending = true := by
    simp [e, ErrorReport.configurationPending]
    decide
  have hread : e.readableMessage = "Status refused (VSR.security.90071)" := by decide
  refine ⟨hp, by decide, ?_⟩
  rw [updateFault_pending (by intro h; cases h) hp, hread]
  rfl

end ConnectedHome.Vehicle
