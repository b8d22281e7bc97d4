import ConnectedHome.Text.NormalizationTable
/-!
# Normalization

The normal forms of Unicode text (UAX #15): a text is decomposed, its marks are put in
canonical order, and for the composed forms the result is composed again.

* **Decomposition** (`decomposeFully`) replaces each character by its decomposition, again and
  again: the canonical one always, the compatibility one too for the compatibility forms
  (`NormalForm.compatibility`).  Hangul syllables decompose into their jamo by arithmetic.
* **Canonical order** (`canonicalOrder`) sorts every run of characters with a non-zero
  combining class by that class, keeping the order of equal classes.
* **Composition** (`compose`) joins each character with the last starter before it when the
  pair has a primary composite and no character between them blocks it: a character blocks
  when its class is zero or at least that of the one being joined.

The forms of the Unicode 3.2 edition (`NormalForm.legacy`) decompose only the characters that
edition had, with its few corrections; classes and composites are those of today, which agree
with it on those characters.
-/
namespace ConnectedHome.Text

/-- A normal form: with or without the compatibility decompositions, and of today's edition or
of Unicode 3.2. -/
structure NormalForm where
  compatibility : Bool
  legacy : Bool := false
deriving Inhabited

/-- The first Hangul syllable, leading consonant, vowel and trailing consonant (the one before
the first). -/
def hangulBase : Nat := 0xAC00
def leadBase : Nat := 0x1100
def vowelBase : Nat := 0x1161
def trailBase : Nat := 0x11A7

/-- The numbers of leading consonants, vowels and trailing consonants (the empty one counted). -/
def leadCount : Nat := 19
def vowelCount : Nat := 21
def trailCount : Nat := 28

/-- The number of Hangul syllables. -/
def hangulCount : Nat := leadCount * vowelCount * trailCount

/-- Whether a code point is a Hangul syllable. -/
def isHangulSyllable (c : Nat) : Bool := hangulBase ≤ c && c < hangulBase + hangulCount

/-- The jamo of a Hangul syllable. -/
def hangulParts (c : Nat) : List Nat :=
  let s := c - hangulBase
  let t := s % trailCount
  [leadBase + s / (vowelCount * trailCount), vowelBase + s % (vowelCount * trailCount) / trailCount] ++
    (if t == 0 then [] else [trailBase + t])

/-- The canonical combining class of a character. -/
def combiningClass (c : Nat) : Nat := (combiningClasses.find? c).getD 0

/-- The decomposition of a character one level deep under a form, if it has one. -/
def decompositionStep (f : NormalForm) (c : Nat) : Option (List Nat) :=
  if isHangulSyllable c then some (hangulParts c)
  else if f.legacy && !legacyAssigned.contains c then none
  else
    match (if f.legacy then legacyCorrections.find? c else none) with
    | some m => some m
    | none =>
      match canonicalTable.find? c with
      | some m => some m
      | none => if f.compatibility then compatibilityTable.find? c else none

/-- The full decomposition of a character; `fuel` bounds the depth, which no character's
decomposition comes near. -/
def decomposeFully (f : NormalForm) : Nat → Nat → List Nat
  | 0, c => [c]
  | fuel + 1, c =>
    match decompositionStep f c with
    | some m => m.flatMap (decomposeFully f fuel)
    | none => [c]

/-- Puts every run of characters with non-zero classes in order of class, stably. -/
def canonicalOrder (cs : List Nat) : List Nat :=
  let sortRun (run : List Nat) : List Nat :=
    run.reverse.mergeSort fun a b => decide (combiningClass a ≤ combiningClass b)
  let (out, run) := cs.foldl (fun (acc : List Nat × List Nat) c =>
    let (out, run) := acc
    if combiningClass c == 0 then (c :: (sortRun run).reverse ++ out, [])
    else (out, c :: run)) ([], [])
  ((sortRun run).reverse ++ out).reverse

/-- The primary composite of two characters, if they have one. -/
def composePair (a b : Nat) : Option Nat :=
  if leadBase ≤ a && a < leadBase + leadCount && vowelBase ≤ b && b < vowelBase + vowelCount then
    some (hangulBase + ((a - leadBase) * vowelCount + (b - vowelBase)) * trailCount)
  else if isHangulSyllable a && (a - hangulBase) % trailCount == 0 && trailBase < b &&
      b < trailBase + trailCount then
    some (a + (b - trailBase))
  else (compositionTable.find? (a * 0x200000 + b)).bind List.head?

/-- The state of composition: the output before the last starter (reversed), the last starter,
the characters after it (reversed) and the class of the last of them. -/
structure Composer where
  done : List Nat := []
  starter : Option Nat := none
  after : List Nat := []
  lastClass : Option Nat := none

/-- The output of a composition so far, in order. -/
def Composer.flush (st : Composer) : List Nat :=
  (st.after ++ st.starter.toList ++ st.done).reverse

/-- Composes one more character. -/
def Composer.push (st : Composer) (c : Nat) : Composer :=
  let k := combiningClass c
  let joined := match st.starter with
    | some s =>
      let unblocked : Bool := match st.lastClass with
        | some l => l < k
        | none => true
      if unblocked then composePair s c else none
    | none => none
  match joined with
  | some x => { st with starter := some x }
  | none =>
    if k == 0 then
      { done := st.after ++ st.starter.toList ++ st.done, starter := some c, after := [],
        lastClass := none }
    else
      match st.starter with
      | some _ => { st with after := c :: st.after, lastClass := some k }
      | none => { st with done := c :: st.done }

/-- Composes decomposed text in canonical order. -/
def compose (cs : List Nat) : List Nat := (cs.foldl Composer.push {}).flush

/-- The decomposed form of a text, in canonical order. -/
def NormalForm.decompose (f : NormalForm) (s : String) : List Nat :=
  canonicalOrder (s.toList.flatMap fun c => decomposeFully f 18 c.toNat)

/-- The composed normal form of a text. -/
def NormalForm.normalize (f : NormalForm) (s : String) : String :=
  String.ofList ((compose (f.decompose s)).map Char.ofNat)

/-- Text in the composed canonical form (NFC). -/
def nfc (s : String) : String := NormalForm.normalize { compatibility := false } s

/-- Text in the composed compatibility form (NFKC). -/
def nfkc (s : String) : String := NormalForm.normalize { compatibility := true } s

/-- Text in the composed compatibility form of Unicode 3.2. -/
def nfkcLegacy (s : String) : String :=
  NormalForm.normalize { compatibility := true, legacy := true } s

end ConnectedHome.Text
