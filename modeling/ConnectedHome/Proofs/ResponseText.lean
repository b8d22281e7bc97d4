import Mathlib.Data.List.DropRight
import ConnectedHome.Proofs.GuardedActions
/-!
# ResponseText — the cleaned text of an answer

An answer's body is cleaned before it is judged (`cleanResponse`): its tabs are taken out, then
its CR LF pairs, then the blanks at both ends.  Both removals are `String.replace` with an empty
replacement, which takes out the occurrences of a non-empty pattern from left to right
(`toList_replace_empty`, read off the search model of the standard library: a search step either
matches the pattern at its start or rejects a span where the pattern matches nowhere).

Taking out the pairs in one pass can join a CR and an LF that were apart: CR CR LF LF loses its
middle pair and leaves one.  So the cleaned text holds no tab and no blank at either end, but it
can hold a CR LF pair: only where the body without its tabs holds CR CR LF, and always where that
body holds CR CR LF LF between two characters that are not blanks (`cleanedText_cleanResponse`).
This is what a request returns, and what a failure of the vehicle service records, for every
answer (`responseText_law`).  A read under a live access token whose answer is clean reads the
answer's text (`getObject_answered`).
-/
namespace ConnectedHome.Text

open String.Slice.Pattern String.Slice.Pattern.Model

/-! ## Taking a pattern out -/

/-- Text with every occurrence of `pat` taken out, from left to right: a match is dropped whole
and the search goes on after it.  The empty pattern takes nothing out. -/
def removeAll : List Char → List Char → List Char
  | [], l => l
  | _ :: _, [] => []
  | p :: ps, c :: cs =>
    if p :: ps <+: c :: cs then removeAll (p :: ps) ((c :: cs).drop (ps.length + 1))
    else c :: removeAll (p :: ps) cs
termination_by _ l => l.length

@[simp]
theorem removeAll_nil (pat : List Char) : removeAll pat [] = [] := by
  cases pat <;> rw [removeAll]

theorem removeAll_append_of_ne_nil {pat : List Char} (hp : pat ≠ []) (t : List Char) :
    removeAll pat (pat ++ t) = removeAll pat t := by
  obtain ⟨c, cs, rfl⟩ := List.exists_cons_of_ne_nil hp
  have h : c :: cs <+: c :: (cs ++ t) := List.prefix_append (c :: cs) t
  rw [List.cons_append, removeAll, if_pos h, ← List.cons_append, List.drop_left' (by simp)]

theorem removeAll_cons_of_no_match {pat : List Char} {c : Char} {cs : List Char}
    (h : ¬ pat <+: c :: cs) : removeAll pat (c :: cs) = c :: removeAll pat cs := by
  cases pat with
  | nil => exact absurd List.nil_prefix h
  | cons p ps => rw [removeAll, if_neg h]

theorem removeAll_append_of_unmatched {pat : List Char} (u t : List Char)
    (hu : ∀ k < u.length, ¬ pat <+: (u ++ t).drop k) :
    removeAll pat (u ++ t) = u ++ removeAll pat t := by
  induction u with
  | nil => rfl
  | cons c u ih =>
    have h0 : ¬ pat <+: c :: (u ++ t) := hu 0 (by simp)
    rw [List.cons_append, removeAll_cons_of_no_match h0,
      ih fun k hk => by simpa using hu (k + 1) (by simp; omega), List.cons_append]

/-- One step of taking a pattern out of a slice: a match adds nothing, a rejected span is kept. -/
def removeStep (s : String.Slice) (sofar : String) : SearchStep s → String
  | .matched .. => sofar
  | .rejected start stop => sofar ++ s.slice! start stop

theorem replace_empty_eq_foldl (s : String.Slice) (pat : String) :
    s.replace pat "" = (ToForwardSearcher.toSearcher pat s).toList.foldl (removeStep s) "" := by
  rw [String.Slice.replace, ← Std.Iter.foldl_toList]
  congr
  funext sofar step
  cases step with
  | matched => simp [removeStep]; rfl
  | rejected => rfl

theorem rejectedSpan_splits {s : String.Slice} {p q : s.Pos} {t₁ t₂ : String} (hs : p.Splits t₁ t₂)
    (hlt : p < q) : ∃ u r, t₂ = u ++ r ∧ q.Splits (t₁ ++ u) r ∧ (s.slice! p q).copy = u := by
  obtain ⟨u, -, hl, hr⟩ := (hs.lt_iff_exists_eq_append q.splits).1 hlt
  have hq : q.Splits (t₁ ++ u) (s.sliceFrom q).copy := hl ▸ q.splits
  obtain ⟨hle, hc⟩ := String.Slice.copy_slice_eq_iff_splits.2 ⟨t₁, _, hr ▸ hs, hq⟩
  exact ⟨u, _, hr, hq, by rw [← String.Slice.slice_eq_slice! (h := hle), hc]⟩

/-- A span where the pattern matches at no position holds the start of no match, read as lists:
a match starting `k` characters into it would be a match at `p.nextn k`. -/
theorem unmatched_of_rejected {pat : String} {s : String.Slice} {p q : s.Pos} {t₁ u r : String}
    (hs : p.Splits t₁ (u ++ r)) (hq : q.Splits (t₁ ++ u) r)
    (hrej : ∀ pos, p ≤ pos → pos < q → ¬ MatchesAt pat pos) :
    ∀ k < u.toList.length, ¬ pat.toList <+: (u.toList ++ r.toList).drop k := by
  intro k hk ⟨rest, hrest⟩
  have hp := hs.nextn k
  rw [String.toList_append, List.take_append_of_le_length hk.le,
    List.drop_append_of_le_length hk.le] at hp
  rw [List.drop_append_of_le_length hk.le] at hrest
  have hlt : p.nextn k < q := by
    refine (hp.lt_iff_exists_eq_append hq).2 ⟨String.ofList (u.toList.drop k), ?_, ?_, ?_⟩
    · intro he
      have := congrArg String.length he
      simp at this
      omega
    · apply String.ext
      simp
    · apply String.ext
      simp
  have hm : MatchesAt pat (p.nextn k) := by
    refine ForwardStringSearcher.matchesAt_iff_splits.2
      ⟨t₁ ++ String.ofList (u.toList.take k), String.ofList rest, ?_⟩
    have : String.ofList (u.toList.drop k ++ r.toList) = pat ++ String.ofList rest := by
      apply String.ext
      simp [← hrest]
    exact this ▸ hp
  exact hrej _ String.Slice.Pos.le_nextn hlt hm

/-- Folding the steps of a valid search from `pos` takes the pattern out of the text after `pos`.
The induction follows the search; the text still to search is what `pos` splits off. -/
theorem foldl_removeStep {pat : String} (hpat : pat ≠ "") {s : String.Slice} {pos : s.Pos}
    {l : List (SearchStep s)} (h : IsValidSearchFrom pat pos l) :
    ∀ (acc t₁ t₂ : String), pos.Splits t₁ t₂ →
      (l.foldl (removeStep s) acc).toList = acc.toList ++ removeAll pat.toList t₂.toList := by
  induction h with
  | endPos =>
    intro acc t₁ t₂ hs
    have : t₂ = "" := hs.eq_right (String.Slice.splits_endPos s)
    simp [this]
  | matched hm _ ih =>
    intro acc t₁ t₂ hs
    obtain ⟨u₁, u₂, hstart, hend⟩ := ForwardStringSearcher.isLongestMatchAt_iff_splits.1 hm
    have ht₂ : t₂ = pat ++ u₂ := hs.eq_right hstart
    rw [List.foldl_cons, removeStep, ih acc _ _ hend, ht₂, String.toList_append,
      removeAll_append_of_ne_nil (by simpa using hpat)]
  | @mismatched l startPos endPos hlt hrej _ ih =>
    intro acc t₁ t₂ hs
    obtain ⟨u, r, rfl, hend, hcopy⟩ := rejectedSpan_splits hs hlt
    rw [List.foldl_cons, removeStep, ih _ _ _ hend]
    show (acc ++ (s.slice! startPos endPos).copy).toList ++ _ = _
    rw [hcopy, String.toList_append, String.toList_append, List.append_assoc,
      removeAll_append_of_unmatched _ _ (unmatched_of_rejected hs hend hrej)]

/-- **Replacing a non-empty pattern by nothing takes its occurrences out**, left to right. -/
theorem toList_replace_empty (s pat : String) (hpat : pat ≠ "") :
    (s.replace pat "").toList = removeAll pat.toList s.toList := by
  have hvalid := (ForwardStringSearcher.lawfulToForwardSearcherModel hpat).isValidSearchFrom_toList s.toSlice
  have hstart : s.toSlice.startPos.Splits "" s := (String.splits_startPos s).toSlice
  rw [String.replace, replace_empty_eq_foldl, foldl_removeStep hpat hvalid "" "" s hstart]
  rfl

theorem removeAll_single (c : Char) (l : List Char) : removeAll [c] l = l.filter (· != c) := by
  induction l with
  | nil => simp
  | cons d l ih =>
    by_cases h : d = c
    · subst h
      rw [show d :: l = [d] ++ l from rfl, removeAll_append_of_ne_nil (List.cons_ne_nil d []) l, ih]
      simp
    · rw [removeAll_cons_of_no_match (by simp [Ne.symm h]), ih]
      simp [h]

/-! ## CR LF pairs -/

/-- Text with its CR LF pairs taken out, from left to right. -/
def dropCrLf : List Char → List Char
  | '\r' :: '\n' :: cs => dropCrLf cs
  | c :: cs => c :: dropCrLf cs
  | [] => []

@[simp] theorem dropCrLf_nil : dropCrLf [] = [] := rfl

/-- A CR LF pair is taken out. -/
@[simp] theorem dropCrLf_crLf (cs : List Char) : dropCrLf ('\r' :: '\n' :: cs) = dropCrLf cs := rfl

/-- Any other first character stays. -/
theorem dropCrLf_cons {c : Char} {cs : List Char} (h : ¬ (c = '\r' ∧ cs.head? = some '\n')) :
    dropCrLf (c :: cs) = c :: dropCrLf cs := by
  rw [dropCrLf.eq_def]
  split
  · rename_i heq
    obtain ⟨rfl, rfl⟩ := List.cons.inj heq
    simp at h
  · rename_i heq
    obtain ⟨rfl, rfl⟩ := List.cons.inj heq
    rfl
  · rename_i heq
    cases heq

/-- **Induction along `dropCrLf`**: a text starts with a CR LF pair, with another character, or is
empty. -/
theorem dropCrLf_induction {motive : List Char → Prop}
    (crLf : ∀ cs, motive cs → motive ('\r' :: '\n' :: cs))
    (other : ∀ c cs, ¬ (c = '\r' ∧ cs.head? = some '\n') → motive cs → motive (c :: cs))
    (nil : motive []) (l : List Char) : motive l := by
  fun_induction dropCrLf l with
  | case1 cs ih => exact crLf cs ih
  | case2 c cs hne ih =>
    refine other c cs (fun ⟨hc, hh⟩ => ?_) ih
    obtain ⟨t, rfl⟩ : ∃ t, cs = '\n' :: t := by
      cases cs with
      | nil => cases hh
      | cons d ds => exact ⟨ds, by simp only [List.head?_cons, Option.some.injEq] at hh; rw [hh]⟩
    exact hne t hc rfl
  | case3 => exact nil

theorem removeAll_crLf (l : List Char) : removeAll ['\r', '\n'] l = dropCrLf l := by
  induction l using dropCrLf_induction with
  | crLf cs ih =>
    rw [show '\r' :: '\n' :: cs = ['\r', '\n'] ++ cs from rfl, removeAll_append_of_ne_nil (by simp) cs, ih]
    rfl
  | other c cs hne ih =>
    have hpre : ¬ ['\r', '\n'] <+: c :: cs := by
      rintro ⟨t, ht⟩
      simp only [List.cons_append, List.nil_append, List.cons.injEq] at ht
      exact hne ⟨ht.1.symm, by rw [← ht.2]; rfl⟩
    rw [removeAll_cons_of_no_match hpre, ih, dropCrLf_cons hne]
  | nil => simp

theorem dropCrLf_sublist (l : List Char) : (dropCrLf l).Sublist l := by
  induction l using dropCrLf_induction with
  | crLf cs ih => exact ((dropCrLf_crLf cs).symm ▸ ih.cons _).cons _
  | other c cs hne ih =>
    rw [dropCrLf_cons hne]
    exact ih.cons_cons c
  | nil => exact List.Sublist.slnil

theorem mem_dropCrLf {c : Char} {l : List Char} (h : c ∈ l) (hr : c ≠ '\r') (hn : c ≠ '\n') :
    c ∈ dropCrLf l := by
  induction l using dropCrLf_induction with
  | crLf cs ih =>
    simp only [List.mem_cons, hr, hn, false_or] at h
    exact ih h
  | other d cs hne ih =>
    rw [dropCrLf_cons hne]
    rcases List.mem_cons.1 h with rfl | h
    · exact List.mem_cons_self
    · exact List.mem_cons_of_mem _ (ih h)
  | nil => cases h

theorem dropCrLf_append {x z : List Char} (hz : z.head? ≠ some '\n') :
    dropCrLf (x ++ z) = dropCrLf x ++ dropCrLf z := by
  induction x using dropCrLf_induction with
  | crLf cs ih => rw [List.cons_append, List.cons_append, dropCrLf_crLf, dropCrLf_crLf, ih]
  | other c cs hne ih =>
    have hfront : ¬ (c = '\r' ∧ (cs ++ z).head? = some '\n') := by
      rintro ⟨rfl, hh⟩
      cases cs with
      | nil => exact hz hh
      | cons d ds =>
        simp only [List.cons_append, List.head?_cons] at hh
        exact hne ⟨rfl, hh⟩
    rw [List.cons_append, dropCrLf_cons hfront, ih, dropCrLf_cons hne, List.cons_append]
  | nil => rfl

theorem head?_dropCrLf {l : List Char} (h : (dropCrLf l).head? = some '\n') :
    l.head? = some '\n' ∨ ['\r', '\n'] <+: l := by
  induction l using dropCrLf_induction with
  | crLf cs _ => exact .inr (List.prefix_append _ cs)
  | other c cs hne _ =>
    rw [dropCrLf_cons hne] at h
    exact .inl h
  | nil => cases h

/-- **A CR LF pair left after taking the pairs out** stands where the text held CR CR LF. -/
theorem crCrLf_of_crLf_dropCrLf {l : List Char} (h : ['\r', '\n'] <:+: dropCrLf l) :
    ['\r', '\r', '\n'] <:+: l := by
  induction l using dropCrLf_induction with
  | crLf cs ih => exact List.infix_cons (List.infix_cons (ih h))
  | other c cs hne ih =>
    rw [dropCrLf_cons hne] at h
    rcases List.infix_cons_iff.1 h with ⟨t, ht⟩ | h
    · -- the pair starts here: the LF that follows comes after removed pairs
      simp only [List.cons_append, List.nil_append, List.cons.injEq] at ht
      obtain ⟨rfl, ht⟩ := ht
      have hhead : (dropCrLf cs).head? = some '\n' := by rw [← ht]; rfl
      rcases head?_dropCrLf hhead with hcs | ⟨v, rfl⟩
      · exact (hne ⟨rfl, hcs⟩).elim
      · exact ⟨[], v, rfl⟩
    · exact List.infix_cons (ih h)
  | nil => exact absurd h (by simp)

theorem dropCrLf_crCrLfLf (x y : List Char) :
    dropCrLf (x ++ '\r' :: '\r' :: '\n' :: '\n' :: y) = dropCrLf x ++ '\r' :: '\n' :: dropCrLf y := by
  rw [dropCrLf_append (by simp), dropCrLf_cons (by simp), dropCrLf_crLf, dropCrLf_cons (by simp)]

/-! ## Trimming -/

theorem dropWhile_append_of_exists {p : Char → Bool} {l₁ l₂ : List Char} (h : ∃ c ∈ l₁, p c = false) :
    (l₁ ++ l₂).dropWhile p = l₁.dropWhile p ++ l₂ := by
  rw [List.dropWhile_append, if_neg]
  intro he
  obtain ⟨c, hc, hpc⟩ := h
  have := List.dropWhile_eq_nil_iff.1 (List.isEmpty_iff.1 he) c hc
  simp [hpc] at this

theorem rdropWhile_append_of_exists {p : Char → Bool} {l₁ l₂ : List Char} (h : ∃ c ∈ l₂, p c = false) :
    (l₁ ++ l₂).rdropWhile p = l₁ ++ l₂.rdropWhile p := by
  simp only [List.rdropWhile, List.reverse_append]
  rw [dropWhile_append_of_exists (by simpa using h), List.reverse_append, List.reverse_reverse]

theorem trimBlanks_toList (s : String) :
    (trimBlanks s).toList = (s.toList.dropWhile isBlank).rdropWhile isBlank := by
  rw [trimBlanks, String.toList_ofList]
  rfl

theorem trimBlanks_infix_self (s : String) : (trimBlanks s).toList <:+: s.toList := by
  have hpre := List.rdropWhile_prefix isBlank (s.toList.dropWhile isBlank)
  rw [trimBlanks_toList]
  exact hpre.isInfix.trans (List.dropWhile_suffix isBlank).isInfix

theorem head?_trimBlanks (s : String) : ∀ c ∈ (trimBlanks s).toList.head?, isBlank c = false := by
  intro c hc
  obtain ⟨t, ht⟩ : (trimBlanks s).toList <+: s.toList.dropWhile isBlank := by
    rw [trimBlanks_toList]
    exact List.rdropWhile_prefix isBlank _
  have hhead : (s.toList.dropWhile isBlank).head? = some c := by
    rw [← ht, List.head?_append, Option.mem_def.1 hc]
    rfl
  simpa [hhead] using List.head?_dropWhile_not isBlank s.toList

theorem getLast?_trimBlanks (s : String) : ∀ c ∈ (trimBlanks s).toList.getLast?, isBlank c = false := by
  intro c hc
  rw [trimBlanks_toList] at hc
  obtain ⟨hne, rfl⟩ := List.mem_getLast?_eq_getLast hc
  simpa using List.rdropWhile_last_not isBlank _ hne

/-- A part of a text with a character that is not a blank before it and one after it survives
trimming. -/
theorem infix_trimBlanks {s : String} {x m y : List Char} (h : s.toList = x ++ m ++ y)
    (hx : ∃ c ∈ x, isBlank c = false) (hy : ∃ c ∈ y, isBlank c = false) :
    m <:+: (trimBlanks s).toList := by
  rw [trimBlanks_toList, h, List.append_assoc, dropWhile_append_of_exists hx, ← List.append_assoc,
    rdropWhile_append_of_exists hy]
  exact List.infix_append _ _ _

end ConnectedHome.Text

namespace ConnectedHome.Http

/-- Whether one of the network's routes answers with body `b`. -/
def Network.Answers (n : Network) (b : String) : Prop :=
  ∃ r ∈ n.routes, ∃ s reason, r.outcome = .answered s b reason

end ConnectedHome.Http

namespace ConnectedHome.Vehicle

open Http

/-- **A cleaned text**, character by character: the body without its tabs, then without its CR LF
pairs, trimmed. -/
theorem cleanResponse_eq (b : String) :
    cleanResponse b = Text.trimBlanks (String.ofList (Text.dropCrLf (b.toList.filter (· != '\t')))) := by
  have htab : "\t".toList = ['\t'] := rfl
  have hcrlf : "\r\n".toList = ['\r', '\n'] := rfl
  rw [cleanResponse]
  congr 1
  apply String.ext
  rw [String.toList_ofList, Text.toList_replace_empty _ _ (by decide), Text.toList_replace_empty _ _ (by decide),
    htab, hcrlf, Text.removeAll_single, Text.removeAll_crLf]

/-- **What the cleaned text `t` of a body `b` is like**: it holds no tab and no blank at either end;
a CR LF pair in it stands where the body without its tabs holds CR CR LF; and CR CR LF LF in that
body between two characters that are not blanks leaves a CR LF pair in it. -/
def CleanedText (b t : String) : Prop :=
  '\t' ∉ t.toList ∧ (∀ c ∈ t.toList.head?, Text.isBlank c = false) ∧
    (∀ c ∈ t.toList.getLast?, Text.isBlank c = false) ∧
    (['\r', '\n'] <:+: t.toList → ['\r', '\r', '\n'] <:+: b.toList.filter (· != '\t')) ∧
    ∀ x y, b.toList.filter (· != '\t') = x ++ '\r' :: '\r' :: '\n' :: '\n' :: y →
      (∃ c ∈ x, Text.isBlank c = false) → (∃ c ∈ y, Text.isBlank c = false) → ['\r', '\n'] <:+: t.toList

theorem cleanedText_cleanResponse (b : String) : CleanedText b (cleanResponse b) := by
  rw [cleanResponse_eq]
  set s := b.toList.filter (· != '\t')
  have hpart := Text.trimBlanks_infix_self (String.ofList (Text.dropCrLf s))
  rw [String.toList_ofList] at hpart
  refine ⟨fun htab => ?_, Text.head?_trimBlanks _, Text.getLast?_trimBlanks _,
    fun h => Text.crCrLf_of_crLf_dropCrLf (h.trans hpart), fun x y hs hx hy => ?_⟩
  · have hmem : '\t' ∈ s := (Text.dropCrLf_sublist s).subset (hpart.subset htab)
    simp [s] at hmem
  · have hkeep : ∀ l : List Char, (∃ c ∈ l, Text.isBlank c = false) → ∃ c ∈ Text.dropCrLf l, Text.isBlank c = false := by
      rintro l ⟨c, hc, hb⟩
      refine ⟨c, Text.mem_dropCrLf hc ?_ ?_, hb⟩ <;> rintro rfl <;> cases hb
    refine Text.infix_trimBlanks ?_ (hkeep x hx) (hkeep y hy)
    rw [String.toList_ofList, show s = _ from hs, Text.dropCrLf_crCrLfLf, List.append_assoc]
    rfl

theorem judgeResponse_error_response {forToken : Bool} {x y : Exchange} {kind : VehicleFailure} {msg : String}
    (h : judgeResponse forToken x = .error (.vehicle kind msg y)) : y.response = x.response := by
  cases hc : x.response.contains "\"error\":"
  · rw [judgeResponse_of_clean forToken x hc] at h
    split at h
    · cases h
      rfl
    split at h
    · cases h
      rfl
    split at h
    · cases h
      rfl
    cases h
  · cases hr : reportOf x.response with
    | ok rep =>
      rw [judgeResponse_of_report forToken x hc hr] at h
      cases h
      rfl
    | error f =>
      rw [judgeResponse_of_unread forToken x hc hr] at h
      cases h
      cases reportOf_error_not_vehicle hr

theorem settle_error_response {forToken : Bool} {method url : String} {o : HttpOutcome} {y : Exchange}
    {kind : VehicleFailure} {msg : String} (h : settle forToken { method, url } o = .error (.vehicle kind msg y)) :
    y.response = "" ∨ ∃ s b reason, o = .answered s b reason ∧ y.response = cleanResponse b := by
  cases o with
  | answered s b reason => exact .inr ⟨s, b, reason, rfl, judgeResponse_error_response h⟩
  | timedOut m =>
    cases h
    exact .inl rfl
  | refused m =>
    cases h
    exact .inl rfl
  | crashed m => cases h

/-- **The text a request yields or records.**  With a session and an address: a text the request
returns is the cleaned body of one of the network's answers, and so is the text a failure of the
vehicle service records, unless that failure came without an answer and records no text.  Each is
a cleaned text of its body: no tab, no blank at either end, and a CR LF pair only where the one
pass over the pairs joins one. -/
theorem responseText_law (r : ServiceRequest) (w : ClientWorld) {url : String}
    (hs : w.client.hasSession = true) (hurl : r.address w.client.config = .ok url) :
    (∀ text, ((request r).run' w).1 = .ok text →
      ∃ b, w.outside.network.Answers b ∧ text = cleanResponse b ∧ CleanedText b text) ∧
    ∀ kind msg y, ((request r).run' w).1 = .error (.vehicle kind msg y) →
      y.response = "" ∨
        ∃ b, w.outside.network.Answers b ∧ y.response = cleanResponse b ∧ CleanedText b y.response := by
  rw [request_run' r w hs hurl]
  have hans : ∀ s b reason, (w.outside.network.send (r.toHttp url w.client.timeout)).1 = .answered s b reason →
      w.outside.network.Answers b := by
    intro s b reason h
    obtain ⟨rt, hrt, -, ho⟩ := Network.send_answered h
    exact ⟨rt, hrt, s, reason, ho⟩
  generalize (w.outside.network.send (r.toHttp url w.client.timeout)).1 = o at hans ⊢
  refine ⟨fun text h => ?_, fun kind msg y h => ?_⟩
  · cases o with
    | answered s b reason =>
      have htext : text = cleanResponse b := judgeResponse_eq_ok h
      exact ⟨b, hans s b reason rfl, htext, htext ▸ cleanedText_cleanResponse b⟩
    | _ => cases h
  · rcases settle_error_response h with h0 | ⟨s, b, reason, rfl, hy⟩
    · exact .inl h0
    · exact .inr ⟨b, hans s b reason rfl, hy, hy ▸ cleanedText_cleanResponse b⟩

/-- The law for a token request answered with CR CR LF LF between two letters. -/
theorem responseText_law_identityToken :
    let r : ServiceRequest := { method := "POST", template := identityTokenUrl, forToken := true }
    let w : ClientWorld :=
      { client := { config := { user := "user", password := "secret" } },
        outside := { network := { routes := [{ outcome := .answered 200 "a\r\r\n\nb" "OK" }] } } }
    (w.client.hasSession = true ∧ r.address w.client.config = .ok "https://id.audi.com/v1/token") ∧
      (∀ text, ((request r).run' w).1 = .ok text →
        ∃ b, w.outside.network.Answers b ∧ text = cleanResponse b ∧ CleanedText b text) ∧
      ∀ kind msg y, ((request r).run' w).1 = .error (.vehicle kind msg y) →
        y.response = "" ∨
          ∃ b, w.outside.network.Answers b ∧ y.response = cleanResponse b ∧ CleanedText b y.response := by
  have hurl := AccountConfig.brandUrl_absolute { user := "user", password := "secret" } identityTokenUrl ""
    (by simp [identityTokenUrl]) (by simp [identityTokenUrl]; decide)
  exact ⟨⟨rfl, hurl⟩, responseText_law _ _ rfl hurl⟩

/-! ## Reading an answer under a live access token -/

/-- An answer with status 200 whose cleaned text holds no error report is that text. -/
theorem settle_answered_clean (x : Exchange) {b : String} (hc : (cleanResponse b).contains "\"error\":" = false)
    (hne : cleanResponse b ≠ "") : settle false x (.answered 200 b "OK") = .ok (cleanResponse b) := by
  simp only [settle]
  rw [judgeResponse_of_clean false { x with status := 200, response := cleanResponse b } hc]
  dsimp only
  rw [if_neg (by decide), if_neg (by simp [Exchange.statusOk]), if_neg hne]

/-- **A request answered by the first route that accepts it**, with status 200 and a body whose
cleaned text holds no error report, returns that text; the client and the clock stay, and the route
is spent. -/
theorem request_answered {r : ServiceRequest} {url b : String} {w : ClientWorld} {skipped : List Route}
    {rt : Route} {rs : List Route} (hft : r.forToken = false) (hs : w.client.hasSession = true)
    (haddr : r.address w.client.config = .ok url) (hroutes : w.outside.network.routes = skipped ++ rt :: rs)
    (hskip : ∀ s ∈ skipped, s.accepts r.method url = false) (hacc : rt.accepts r.method url = true)
    (hout : rt.outcome = .answered 200 b "OK") (hc : (cleanResponse b).contains "\"error\":" = false)
    (hne : cleanResponse b ≠ "") :
    ∃ w', (request r).run' w = (.ok (cleanResponse b), w') ∧ w'.client = w.client ∧
      w'.outside.clock = w.outside.clock ∧ w'.outside.network.routes = skipped ++ rt.spend :: rs := by
  rw [request_run' r w hs haddr, hft]
  have ht := takeRoute_first r.method url skipped rt rs hskip hacc
  simp only [Network.send, ServiceRequest.toHttp, hroutes, ht, Option.getD_some, hout,
    settle_answered_clean _ hc hne]
  exact ⟨_, rfl, rfl, rfl, rfl⟩

/-- **A read under a live access token** asks for no token: it sends one request to the address of
its template and reads the settled answer as an object. -/
theorem getObject_run'_live {template vin url : String} {w : ClientWorld}
    (hlive : w.client.apiToken.expiredAt w.outside.clock = .ok false) (hs : w.client.hasSession = true)
    (haddr : w.client.config.brandUrl template vin [] [] = .ok url) :
    (getObject template vin).run' w =
      let req : ServiceRequest := { method := "GET", template, headers := appHeaderList w.client.apiToken "", vin }
      let sent := w.outside.network.send (req.toHttp url w.client.timeout)
      ((settle false { method := "GET", url } sent.1).bind parseObject,
        { w with outside := { w.outside with network := sent.2 } }) := by
  simp only [getObject, appHeaders, createAccessToken, renewExpired, client, expiredNow, now, Exec.run'_bind,
    Exec.run'_get, Exec.run'_pure, Exec.run'_lift, hlive, Bool.not_false, if_true]
  have haddr' : ServiceRequest.address { method := "GET", template, headers := appHeaderList w.client.apiToken "", vin }
      w.client.config = .ok url := haddr
  rw [request_run' _ _ hs haddr']
  cases settle false _ _ <;> rfl

/-- **A read answered by the first route that accepts it**, with status 200 and a body whose cleaned
text holds no error report, reads that text; the client and the clock stay, and the route is spent. -/
theorem getObject_answered {template vin url b : String} {w : ClientWorld} {skipped : List Route}
    {r : Route} {rs : List Route}
    (hlive : w.client.apiToken.expiredAt w.outside.clock = .ok false) (hs : w.client.hasSession = true)
    (haddr : w.client.config.brandUrl template vin [] [] = .ok url)
    (hroutes : w.outside.network.routes = skipped ++ r :: rs) (hskip : ∀ s ∈ skipped, s.accepts "GET" url = false)
    (hacc : r.accepts "GET" url = true) (hout : r.outcome = .answered 200 b "OK")
    (hc : (cleanResponse b).contains "\"error\":" = false) (hne : cleanResponse b ≠ "") :
    ∃ w', (getObject template vin).run' w = (parseObject (cleanResponse b), w') ∧ w'.client = w.client ∧
      w'.outside.clock = w.outside.clock ∧ w'.outside.network.routes = skipped ++ r.spend :: rs := by
  rw [getObject_run'_live hlive hs haddr]
  have ht := takeRoute_first "GET" url skipped r rs hskip hacc
  simp only [Network.send, ServiceRequest.toHttp, hroutes, ht, Option.getD_some, hout,
    settle_answered_clean _ hc hne, Except.bind]
  exact ⟨_, rfl, rfl, rfl, rfl⟩

/-- An error text `"error": a` CR CR LF LF `b` keeps a CR LF pair after cleaning. -/
theorem cleanResponse_keeps_crLf : ['\r', '\n'] <:+: (cleanResponse "\"error\": a\r\r\n\nb").toList := by
  have hbody : ("\"error\": a\r\r\n\nb").toList.filter (· != '\t') =
      "\"error\": a".toList ++ '\r' :: '\r' :: '\n' :: '\n' :: ['b'] := by decide
  have ha : 'a' ∈ "\"error\": a".toList := by decide
  exact (cleanedText_cleanResponse _).2.2.2.2 _ _ hbody ⟨'a', ha, by decide⟩
    ⟨'b', List.mem_singleton_self _, by decide⟩

end ConnectedHome.Vehicle
