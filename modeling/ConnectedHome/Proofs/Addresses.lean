import ConnectedHome.Vehicle.Client.Basic
import Mathlib.Data.List.TakeDrop
import Mathlib.Data.List.TakeWhile
/-!
# Addresses — templates that always fill

The addresses of the vehicle service are built from templates (`AccountConfig.brandUrl`).  A
template without braces fills to itself, whatever is looked up (`fillTemplate_plain`), so an
absolute template without braces is its own address under every account, for every vehicle
(`AccountConfig.brandUrl_absolute`).

A template with fields is filled piece by piece: characters without braces are copied
(`fillChars_plain_append`), and a field with a plain name, one that does not start with a digit
and holds no brace and none of the marks that end a name, is replaced by the text of the value it
looks up (`fillChars_field`).
-/
namespace ConnectedHome
namespace Text

theorem fillChars_nil (lookup : String → Option Subject) (depth fuel : Nat) (acc : List Char) :
    fillChars lookup depth fuel [] acc = .ok (String.ofList acc.reverse) := by
  cases fuel <;> simp [fillChars]

/-- **Characters without braces are copied** onto the text so far, one step of fuel each, and
filling goes on with what follows them. -/
theorem fillChars_plain_append (lookup : String → Option Subject) (depth : Nat) :
    ∀ (pre rest : List Char) (fuel : Nat) (acc : List Char), (∀ c ∈ pre, c ≠ '{' ∧ c ≠ '}') →
      pre.length ≤ fuel →
      fillChars lookup depth fuel (pre ++ rest) acc =
        fillChars lookup depth (fuel - pre.length) rest (pre.reverse ++ acc)
  | [], rest, fuel, acc, _, _ => by simp
  | c :: pre, rest, fuel, acc, h, hlen => by
    obtain ⟨h1, h2⟩ := h c List.mem_cons_self
    obtain ⟨f, rfl⟩ : ∃ f, fuel = f + 1 := ⟨fuel - 1, by simp at hlen; omega⟩
    have ih := fillChars_plain_append lookup depth pre rest f (c :: acc)
      (fun d hd => h d (List.mem_cons_of_mem _ hd)) (by simp at hlen; omega)
    rw [List.cons_append, fillChars]
    · simpa using ih
    -- the other equations of `fillChars` ask for a brace at the head
    all_goals (intros; simp_all)

/-- **Characters without braces fill to themselves**, with fuel for each of them. -/
theorem fillChars_plain (lookup : String → Option Subject) (depth : Nat) (cs : List Char) (fuel : Nat)
    (acc : List Char) (hcs : ∀ c ∈ cs, c ≠ '{' ∧ c ≠ '}') (hlen : cs.length ≤ fuel) :
    fillChars lookup depth fuel cs acc = .ok (String.ofList (acc.reverse ++ cs)) := by
  have h := fillChars_plain_append lookup depth cs [] fuel acc hcs hlen
  rw [List.append_nil] at h
  simp [h, fillChars_nil]

/-- **A template without braces fills to itself.** -/
theorem fillTemplate_plain (t : String) (lookup : String → Option Subject)
    (h : ∀ c ∈ t.toList, c ≠ '{' ∧ c ≠ '}') : fillTemplate t lookup = .ok t := by
  simp only [fillTemplate, fillAt]
  rw [fillChars_plain lookup 1 t.toList _ [] h (by simp)]
  simp [String.ofList_toList]

/-- Characters that may stand in a plain field name: no brace, and none of the marks that end a
name before a format spec (`:`), a conversion (`!`) or an accessor (`[`, `.`). -/
def NameChar (c : Char) : Prop := c ≠ '{' ∧ c ≠ '}' ∧ c ≠ ':' ∧ c ≠ '!' ∧ c ≠ '[' ∧ c ≠ '.'

instance : DecidablePred NameChar := fun c => inferInstanceAs (Decidable (c ≠ '{' ∧ _))

theorem scanName_plain : ∀ (name rest : List Char), (∀ c ∈ name, NameChar c) →
    scanName (name ++ '}' :: rest) false = .ok (name, some '}', rest)
  | [], rest, _ => by simp [scanName]
  | c :: name, rest, h => by
    obtain ⟨h1, h2, h3, h4, h5, -⟩ := h c List.mem_cons_self
    have hb : (c == '[') = false := beq_false_of_ne h5
    have ih := scanName_plain name rest fun d hd => h d (List.mem_cons_of_mem _ hd)
    simp [scanName, h1, h2, h3, h4, hb, ih, bind, Except.bind, pure, Except.pure]

theorem readField_plain (name rest : List Char) (h : ∀ c ∈ name, NameChar c) :
    readField (name ++ '}' :: rest) = .ok ({ name }, rest) := by
  simp [readField, scanName_plain name rest h, bind, Except.bind, pure, Except.pure]

theorem fieldSubject_plain (lookup : String → Option Subject) (c : Char) (name : List Char)
    (h : ∀ d ∈ c :: name, NameChar d) (hc : digitValue? c = none) {s : Subject}
    (hl : lookup (String.ofList (c :: name)) = some s) : fieldSubject lookup (c :: name) = .ok s := by
  have hname : ∀ d ∈ c :: name, (d != '.' && d != '[') = true := fun d hd => by
    simp [(h d hd).2.2.2.2.1, (h d hd).2.2.2.2.2]
  have hspan : (c :: name).span (fun d => d != '.' && d != '[') = (c :: name, []) := by
    rw [List.span_eq_takeWhile_dropWhile, List.takeWhile_eq_self_iff.mpr hname,
      List.dropWhile_eq_nil_iff.mpr hname]
  unfold fieldSubject
  rw [hspan]
  simp [fieldIndex?, readSpecNumber, hc, hl, applyAccessors, bind, Except.bind, pure, Except.pure,
    -String.ofList_cons]

/-- **A field with a plain name is replaced by the text of its value**, in one step of fuel. -/
theorem fillChars_field (lookup : String → Option Subject) (depth fuel : Nat) (c : Char)
    (name rest acc : List Char) (h : ∀ d ∈ c :: name, NameChar d) (hc : digitValue? c = none) {v : Value}
    (hl : lookup (String.ofList (c :: name)) = some (.value v)) (hfuel : 0 < fuel) :
    fillChars lookup depth fuel ('{' :: (c :: name ++ '}' :: rest)) acc =
      fillChars lookup depth (fuel - 1) rest (v.display.toList.reverse ++ acc) := by
  obtain ⟨f, rfl⟩ : ∃ f, fuel = f + 1 := ⟨fuel - 1, by omega⟩
  have hc1 : c ≠ '{' := (h c List.mem_cons_self).1
  have hr := readField_plain (c :: name) rest h
  have hs := fieldSubject_plain lookup c name h hc hl
  rw [fillChars]
  · simp only [hr, hs, bind, Except.bind, Nat.add_sub_cancel]
    rfl
  all_goals (intros; simp_all)

end Text

namespace Vehicle

/-- **An absolute template without braces is its own address**, under every account and for every
vehicle, when the request names no values and sets no query. -/
theorem AccountConfig.brandUrl_absolute (a : AccountConfig) (template vin : String)
    (hplain : ∀ c ∈ template.toList, c ≠ '{' ∧ c ≠ '}') (habs : template.contains "://" = true) :
    a.brandUrl template vin [] [] = .ok template := by
  simp only [AccountConfig.brandUrl, List.find?_nil]
  rw [Text.fillTemplate_plain _ _ hplain]
  simp [habs]

end Vehicle
end ConnectedHome
